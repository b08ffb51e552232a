import EmailTriage.Lib.RegExp
import EmailTriage.Lib.Sql

/-!
# The check of row level security

`scripts/check-rls-policies.js` looks for the tables with a tenant id in the text of the Prisma schema,
and for their policies in the text of the migrations, all with regular expressions.

A table name becomes part of an expression. Where it has a character that means something there, or one
that is not ASCII, the expression is `dynamic`.

`exitCode_eq_zero_iff` says what a check that passes has found, in terms of the loops over the matches;
what a match is a part of is left to the modules that follow.
-/

namespace EmailTriage.CheckRlsPolicies

open Js RegExp

abbrev Text := List Char

/-! ## The tables of the schema

A block of the schema names its table, by a mapping or by its model, and is taken for a tenant's if it has
the column.
-/

/-- `/model\s+(\w+)\s*\{([\s\S]*?)\n\}/g`. -/
def modelBlockPattern : Pattern :=
  literal "model".toList ++ (.plus isSpace :: .plus isWord :: .star isSpace ::
    (literal ['\x7b'] ++ (.lazyStar (fun _ => true) :: literal ['\n', '\x7d'])))

/-- The groups of a match of `modelBlockPattern`: the model name and the body. -/
def modelBlock (ms : List Text) : Text × Text := (ms.getD 6 [], ms.getD 9 [])

/-- `/\btenant_id\b/`. -/
def tenantIdPattern : Pattern := .boundary :: (literal "tenant_id".toList ++ [.boundary])

/-- `/@@map\("([^"]+)"\)/`. -/
def mapPattern : Pattern :=
  literal "@@map(\x22".toList ++ (.plus (fun c => c ≠ '\x22') :: literal "\x22)".toList)

/-- `modelName.replace(/([a-z0-9])([A-Z])/g, '$1_$2')`. -/
def snakeCase : Text → Text
  | a :: b :: s =>
    if (a.isLower || a.isDigit) && b.isUpper then a :: '_' :: b :: snakeCase s else a :: snakeCase (b :: s)
  | s => s

def tableName (modelName body : Text) : Text :=
  match search mapPattern none body with
  | some mapMatch => mapMatch.getD 7 []
  | none => (snakeCase modelName).map Char.toLower

/-- The set `tenantScopedTables`, in the order in which it is filled. -/
def tenantScopedTables (schema : Text) : List Text :=
  let blocks := (matchAll modelBlockPattern (schema.length + 1) none schema).map modelBlock
  ((blocks.filter fun (_, body) => test tenantIdPattern body).map
    fun (modelName, body) => tableName modelName body).eraseDups

/-! ## The statements of the migrations

The patterns that the script looks for, with the name of the table put into them as it is.
-/

def quoted (table : Text) : Text := '\x22' :: table ++ ['\x22']

/-- The characters that mean something in a regular expression. -/
def syntaxCharacters : List Char :=
  ['^', '$', '\x5c', '.', '*', '+', '?', '(', ')', '[', ']', '\x7b', '\x7d', '|']

/-- A name that stands for itself in a regular expression. -/
def isPlain (table : Text) : Bool := table.all fun c => c.toNat < 128 && !syntaxCharacters.contains c

def rlsSource (table : Text) : Text :=
  "ALTER TABLE.*".toList ++ quoted table ++ ".*ENABLE ROW LEVEL SECURITY".toList

def rlsPattern (table : Text) : Pattern :=
  caseless "ALTER TABLE".toList ++ (.star isDot ::
    (caseless (quoted table) ++ (.star isDot :: caseless "ENABLE ROW LEVEL SECURITY".toList)))

def policySource (table : Text) : Text := "CREATE POLICY.*ON.*".toList ++ quoted table

def policyPattern (table : Text) : Pattern :=
  caseless "CREATE POLICY".toList ++ (.star isDot ::
    (caseless "ON".toList ++ (.star isDot :: caseless (quoted table))))

/-! ## The check

The report of the script, and its exit code.
-/

/-- The tables that the check complains about. -/
structure Report where
  missingRLS : List Text
  missingPolicies : List Text

section

variable (dynamic : Text → Option (Text → Bool)) (schema migration : Text)

/-- `new RegExp(source, 'i')`; `none` is a syntax error. -/
def regExp (table source : Text) (pattern : Pattern) : Option (Text → Bool) :=
  if isPlain table then some (test pattern) else dynamic source

def checkTable (r : Report) (table : Text) : Option Report := do
  let rls_pattern ← regExp dynamic table (rlsSource table) (rlsPattern table)
  let r := if rls_pattern migration then r else { r with missingRLS := r.missingRLS ++ [table] }
  let policy_pattern ← regExp dynamic table (policySource table) (policyPattern table)
  return if policy_pattern migration then r else { r with missingPolicies := r.missingPolicies ++ [table] }

def check : Option Report := (tenantScopedTables schema).foldlM (checkTable dynamic migration) ⟨[], []⟩

end

/-- What the script prints, and its exit code. An exception ends it with code 1, too. -/
def outcome : Option Report → List String × ℕ
  | none => ([], 1)
  | some r =>
    let names (tables : List Text) := ", ".intercalate (tables.map String.ofList)
    let rls := if r.missingRLS = [] then [] else ["❌ RLS not enabled on tables: " ++ names r.missingRLS]
    let policies := if r.missingPolicies = [] then []
      else ["❌ RLS policies missing on tables: " ++ names r.missingPolicies]
    if r.missingRLS = [] ∧ r.missingPolicies = [] then
      (["✅ All tenant-scoped tables have RLS policies"], 0)
    else (rls ++ policies ++ ["\n❌ RLS policy coverage check failed"], 1)

def exitCode (dynamic : Text → Option (Text → Bool)) (schema migration : Text) : ℕ :=
  (outcome (check dynamic schema migration)).2

/-! ## When the check passes

Every table of a tenant has to be found in both patterns.
-/

/-- Both expressions of a table are found in the migrations. -/
def Covered (dynamic : Text → Option (Text → Bool)) (migration table : Text) : Prop :=
  (∃ rls, regExp dynamic table (rlsSource table) (rlsPattern table) = some rls ∧ rls migration = true) ∧
    ∃ policy, regExp dynamic table (policySource table) (policyPattern table) = some policy ∧
      policy migration = true

section

variable {dynamic : Text → Option (Text → Bool)} {schema migration : Text}

/-- Nothing to complain about. -/
def Report.IsEmpty (r : Report) : Prop := r.missingRLS = [] ∧ r.missingPolicies = []

/-- After a table the report is empty exactly if it was before, and the table is covered. -/
theorem checkTable_isEmpty_iff (r : Report) (table : Text) :
    (∃ r', checkTable dynamic migration r table = some r' ∧ r'.IsEmpty) ↔
      r.IsEmpty ∧ Covered dynamic migration table := by
  obtain ⟨missingRLS, missingPolicies⟩ := r
  unfold Report.IsEmpty Covered checkTable
  rcases regExp dynamic table (rlsSource table) (rlsPattern table) with _ | rls
  · simp
  rcases regExp dynamic table (policySource table) (policyPattern table) with _ | policy
  · simp
  by_cases hrls : rls migration = true <;> by_cases hpolicy : policy migration = true <;>
    simp [hrls, hpolicy]

/-- The report stays empty exactly if every table is covered. -/
theorem foldlM_isEmpty_iff (tables : List Text) (r : Report) :
    (∃ r', tables.foldlM (checkTable dynamic migration) r = some r' ∧ r'.IsEmpty) ↔
      r.IsEmpty ∧ ∀ t ∈ tables, Covered dynamic migration t := by
  induction tables generalizing r with
  | nil => simp
  | cons t tables ih =>
    rw [List.foldlM_cons, List.forall_mem_cons, ← and_assoc, ← checkTable_isEmpty_iff]
    constructor
    · rintro ⟨r', h, hr'⟩
      obtain ⟨r₁, hr₁, h⟩ := Option.bind_eq_some_iff.mp h
      obtain ⟨hr₁', hall⟩ := (ih r₁).mp ⟨r', h, hr'⟩
      exact ⟨⟨r₁, hr₁, hr₁'⟩, hall⟩
    · rintro ⟨⟨r₁, hr₁, hr₁'⟩, hall⟩
      obtain ⟨r', h, hr'⟩ := (ih r₁).mpr ⟨hr₁', hall⟩
      exact ⟨r', Option.bind_eq_some_iff.mpr ⟨r₁, hr₁, h⟩, hr'⟩

/-- The check passes exactly if every table it finds is covered. -/
theorem exitCode_eq_zero_iff : exitCode dynamic schema migration = 0 ↔
    ∀ t ∈ tenantScopedTables schema, Covered dynamic migration t := by
  have hempty : (⟨[], []⟩ : Report).IsEmpty := ⟨rfl, rfl⟩
  have hall : (∃ r, check dynamic schema migration = some r ∧ r.IsEmpty) ↔
      ∀ t ∈ tenantScopedTables schema, Covered dynamic migration t :=
    (foldlM_isEmpty_iff (tenantScopedTables schema) ⟨[], []⟩).trans (and_iff_right hempty)
  rw [← hall]
  unfold exitCode Report.IsEmpty
  rcases check dynamic schema migration with _ | r
  · simp [outcome]
  · by_cases hr : r.missingRLS = [] ∧ r.missingPolicies = [] <;> simp [outcome, hr]

end

end EmailTriage.CheckRlsPolicies
