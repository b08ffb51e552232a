import EmailTriage.Scripts.SchemaBlocks

/-!
# What a successful check says

A check that passes should mean that every model with a tenant id is protected in the database. The
check can be misled about a table: the table may be in no block with the word `tenant_id`, or under
another name, and text that an expression matches need not be a statement, or not one that lasts.
`sound_iff` says that this is all that can go wrong.

`models` is what Prisma reads in a schema.

The check reads a table right (`ReadRight`) if a block of the schema shows it under its name, and
whatever the two expressions match for it is a statement in force. Such a table is protected when the
check passes. About any other one the check says nothing, so it is sound exactly if these are protected
all the same (`MisledHarmlessly`).
-/

namespace EmailTriage.CheckRlsPolicies

open Js RegExp

/-! ## Protection

What the check is for: after the migrations every table of a tenant is protected, as PostgreSQL reads
them.
-/

/-- A model as Prisma reads it. -/
structure Model where
  name : Text
  fields : List Text
  map : Option Text

namespace Model

/-- The table of a model is named like the model, unless it is mapped. -/
def table (m : Model) : Text := m.map.getD m.name

def HasTenantId (m : Model) : Prop := "tenant_id".toList ∈ m.fields ∨ "tenantId".toList ∈ m.fields

end Model

def RlsEnabled (table : Text) (d : Sql.Protection) : Prop := d.enabled (Sql.table table) = true

def HasPolicy (table : Text) (d : Sql.Protection) : Prop := d.policies (Sql.table table) ≠ []

/-- The migrations leave the table with row level security and a policy. -/
def Protected (migration table : Text) : Prop :=
  RlsEnabled table (Sql.protection migration) ∧ HasPolicy table (Sql.protection migration)

/-- If the check passes, every model with a tenant id is protected. -/
def Sound (models : Text → List Model) (dynamic : Text → Option (Text → Bool)) (schema migration : Text) :
    Prop :=
  exitCode dynamic schema migration = 0 →
    ∀ m ∈ models schema, m.HasTenantId → Protected migration m.table

/-! ## Where the check is misled

A statement may only be displayed, as in a comment, or taken back later. `sound_iff` says that the
check is right exactly if it is misled by no such text.
-/

/-- A block of the schema has the word `tenant_id` in it, and names the table. -/
def Displayed (schema table : Text) : Prop :=
  ∃ bs, Blocks schema bs ∧ ∃ b ∈ bs, b.IsTenantScoped ∧ b.table = table

/-- Wherever the pattern matches, there is a statement in force. -/
def OnlyInForce (P : Pattern) (Q : Sql.Protection → Prop) (migration : Text) : Prop :=
  ∀ pre x rest, migration = pre ++ x ++ rest → Occurs P pre x rest → Sql.InForce Q pre x rest

/-- The check reads the schema and the migrations as they are meant, as far as a table is concerned. -/
structure ReadRight (schema migration table : Text) : Prop where
  displayed : Displayed schema table
  plain : isPlain table = true
  rls : OnlyInForce (rlsPattern table) (RlsEnabled table) migration
  policy : OnlyInForce (policyPattern table) (HasPolicy table) migration

/-- A table of a block is missing in the migrations, or the models about which the check is misled are
protected all the same. -/
def MisledHarmlessly (models : Text → List Model) (dynamic : Text → Option (Text → Bool))
    (schema migration : Text) : Prop :=
  (∀ table, Displayed schema table → Covered dynamic migration table) →
    ∀ m ∈ models schema, m.HasTenantId → ¬ReadRight schema migration m.table →
      Protected migration m.table

section

variable {dynamic : Text → Option (Text → Bool)} {schema migration table : Text}

/-- A pattern that is found, and matches statements in force only, has had its effect in the end. -/
theorem protection_of_test {P : Pattern} {Q : Sql.Protection → Prop} (htest : test P migration = true)
    (h : OnlyInForce P Q migration) : Q (Sql.protection migration) := by
  obtain ⟨pre, x, rest, rfl, hoccurs⟩ := test_iff.mp htest
  exact (h pre x rest rfl hoccurs).protection

/-- A table that is covered and read right is protected. -/
theorem protected_of_readRight (hcovered : Covered dynamic migration table)
    (h : ReadRight schema migration table) : Protected migration table := by
  obtain ⟨⟨rls, hrls, hrlsTest⟩, policy, hpolicy, hpolicyTest⟩ := hcovered
  unfold regExp at hrls hpolicy
  rw [if_pos h.plain, Option.some.injEq] at hrls hpolicy
  subst hrls hpolicy
  exact ⟨protection_of_test hrlsTest h.rls, protection_of_test hpolicyTest h.policy⟩

/-- The check passes exactly if the table of every block with a tenant id is covered. -/
theorem passes_iff : exitCode dynamic schema migration = 0 ↔
    ∀ table, Displayed schema table → Covered dynamic migration table := by
  rw [exitCode_eq_zero_iff]
  exact forall_congr' fun table => by rw [mem_tenantScopedTables_iff]; rfl

/-- The check is sound exactly where it is misled harmlessly. -/
theorem sound_iff (models : Text → List Model) (dynamic : Text → Option (Text → Bool))
    (schema migration : Text) :
    Sound models dynamic schema migration ↔ MisledHarmlessly models dynamic schema migration := by
  unfold Sound MisledHarmlessly
  rw [passes_iff]
  constructor
  · intro h hcovered m hm htenant _
    exact h hcovered m hm htenant
  · intro h hcovered m hm htenant
    by_cases hright : ReadRight schema migration m.table
    · exact protected_of_readRight (hcovered m.table hright.displayed) hright
    · exact h hcovered m hm htenant hright

end

/-! ## A table of users

A schema with one table, and a migration that enables its protection in a comment.
-/

/-- A model whose tenant id is a column of the same name. -/
def usersSchema : Text :=
  ("model User \x7b\n  id       String @id\n  tenantId String @db.Uuid\n  email    String\n\n" ++
    "  @@map(\x22users\x22)\n\x7d\n").toList

def userModel : Model :=
  ⟨"User".toList, ["id".toList, "tenantId".toList, "email".toList], some "users".toList⟩

/-- The migration creates the table, without any policy. -/
def usersMigration : Text :=
  ("CREATE TABLE \x22users\x22 (\n  \x22id\x22 TEXT NOT NULL,\n  \x22tenantId\x22 UUID NOT NULL,\n" ++
    "  \x22email\x22 TEXT NOT NULL\n);\n").toList

/-- The check passes, and every tenant reads the table. -/
theorem not_sound_users : ¬Sound (fun schema => if schema = usersSchema then [userModel] else [])
    (fun _ => none) usersSchema usersMigration := by
  intro h
  have hpasses : exitCode (fun _ => none) usersSchema usersMigration = 0 := by decide +kernel
  have henabled := (h hpasses userModel (by simp) (.inr (by decide))).1
  have hdisabled : (Sql.protection usersMigration).enabled (Sql.table "users".toList) = false := by
    decide +kernel
  exact absurd (henabled.symm.trans hdisabled) (by decide)

end EmailTriage.CheckRlsPolicies
