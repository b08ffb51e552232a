import Mathlib.Data.Nat.Notation
import Mathlib.Logic.Function.Basic

/-!
# SQL scripts and row level security

A script is read character by character, as PostgreSQL reads it: comments, constants in quotes and in
dollar quotes, quoted names, and words without regard to case. `statements` are the token lists between
semicolons.

Of the statements only those count that decide about row level security: `protection` is what a script
leaves behind, on a database that is empty before.
-/

namespace Sql

/-! ## Tokens

The lexical rules of PostgreSQL: block comments nest, an identifier in quotes keeps its spelling, and what
stands between dollar quotes is one constant, whatever it looks like.
-/

inductive Token where
  | word (s : List Char)
  | name (s : List Char)
  | constant
  | symbol (c : Char)
deriving DecidableEq

/-- Where the reader is. A quote that may be doubled, a dash or a slash is told by the character after
it. -/
inductive Mode where
  | code
  | word (s : List Char)
  | name (s : List Char)
  | nameQuote (s : List Char)
  | constant (escapes : Bool)
  | constantQuote (escapes : Bool)
  | escape
  | dash
  | line
  | slash
  | block (depth : ℕ)
  | blockStar (depth : ℕ)
  | blockSlash (depth : ℕ)
  | tag (s : List Char)
  | dollar (tag body : List Char)
deriving DecidableEq

/-- The reader, with the tokens of the statement it is in. -/
structure Reader where
  mode : Mode
  tokens : List Token
deriving DecidableEq

abbrev Statement := List Token

/-- The characters `"`, `'` and `\`. -/
def quote : Char := '\x22'
def apostrophe : Char := '\x27'
def backslash : Char := '\x5c'

def isLetter (c : Char) : Bool := c.isAlphanum || c = '_' || 128 ≤ c.toNat

def isSpace (c : Char) : Bool := [' ', '\t', '\n', '\r', '\x0b', '\x0c'].contains c

namespace Reader

/-- Between two statements. -/
def start : Reader := ⟨.code, []⟩

def go (r : Reader) (mode : Mode) : Reader × List Statement := ({ r with mode }, [])

def emit (r : Reader) (t : Token) : Reader := ⟨.code, r.tokens ++ [t]⟩

/-- A character outside of everything, with the statement it ends. -/
def code (r : Reader) (c : Char) : Reader × List Statement :=
  if isLetter c then r.go (.word [c.toLower])
  else if isSpace c then r.go .code
  else if c = quote then r.go (.name [])
  else if c = apostrophe then r.go (.constant false)
  else if c = '-' then r.go .dash
  else if c = '/' then r.go .slash
  else if c = '$' then r.go (.tag [])
  else if c = ';' then (start, [r.tokens])
  else (r.emit (.symbol c), [])

/-- One character. -/
def read (r : Reader) (c : Char) : Reader × List Statement :=
  match r.mode with
  | .code => r.code c
  | .word s =>
    if isLetter c || c = '$' then r.go (.word (s ++ [c.toLower]))
    -- `E'...'` is a constant with backslash escapes
    else if s = ['e'] ∧ c = apostrophe then r.go (.constant true)
    else (r.emit (.word s)).code c
  | .name s => if c = quote then r.go (.nameQuote s) else r.go (.name (s ++ [c]))
  | .nameQuote s => if c = quote then r.go (.name (s ++ [c])) else (r.emit (.name s)).code c
  | .constant escapes =>
    if c = apostrophe then r.go (.constantQuote escapes)
    else if escapes ∧ c = backslash then r.go .escape
    else r.go (.constant escapes)
  | .constantQuote escapes =>
    -- a doubled quote stands for itself
    if c = apostrophe then r.go (.constant escapes) else (r.emit .constant).code c
  | .escape => r.go (.constant true)
  | .dash => if c = '-' then r.go .line else (r.emit (.symbol '-')).code c
  | .line => if c = '\n' ∨ c = '\r' then r.go .code else r.go .line
  | .slash => if c = '*' then r.go (.block 0) else (r.emit (.symbol '/')).code c
  | .block depth =>
    if c = '*' then r.go (.blockStar depth)
    else if c = '/' then r.go (.blockSlash depth)
    else r.go (.block depth)
  | .blockStar depth =>
    -- block comments nest
    if c = '/' then (match depth with
      | 0 => r.go .code
      | depth + 1 => r.go (.block depth))
    else if c = '*' then r.go (.blockStar depth)
    else r.go (.block depth)
  | .blockSlash depth =>
    if c = '*' then r.go (.block (depth + 1))
    else if c = '/' then r.go (.blockSlash depth)
    else r.go (.block depth)
  | .tag s =>
    if c = '$' then r.go (.dollar s [])
    else if isLetter c then r.go (.tag (s ++ [c]))
    -- a dollar sign and letters without another dollar sign are no opening tag
    else ((r.emit (.symbol '$')).emit (.word s)).code c
  | .dollar tag body =>
    -- the constant ends at the tag that opened it, with its first dollar sign in the body
    if c = '$' ∧ ('$' :: tag).isSuffixOf body then (r.emit .constant, [])
    else r.go (.dollar tag (body ++ [c]))

/-- What is left at the end. A script that ends inside of quotes or a comment block has no last
statement. -/
def finish (r : Reader) : List Statement :=
  match r.mode with
  | .code | .line => [r.tokens]
  | .word s => [r.tokens ++ [.word s]]
  | .nameQuote s => [r.tokens ++ [.name s]]
  | .constantQuote _ => [r.tokens ++ [.constant]]
  | .dash => [r.tokens ++ [.symbol '-']]
  | .slash => [r.tokens ++ [.symbol '/']]
  | .tag s => [r.tokens ++ [.symbol '$', .word s]]
  | .name _ | .constant _ | .escape | .block _ | .blockStar _ | .blockSlash _ | .dollar _ _ => []

/-- The statements of a script, from a reader on. -/
def statements : Reader → List Char → List Statement
  | r, [] => r.finish
  | r, c :: s => (r.read c).2 ++ (r.read c).1.statements s

/-- Where a reader is after a text. -/
def after (r : Reader) (s : List Char) : Reader := s.foldl (fun r c => (r.read c).1) r

/-- A text that is complete at some point is read up to there, and from there on. -/
theorem statements_append (r : Reader) (s : List Char) :
    ∃ done, ∀ t, r.statements (s ++ t) = done ++ (r.after s).statements t := by
  induction s generalizing r with
  | nil => exact ⟨[], fun _ => rfl⟩
  | cons c s ih =>
    obtain ⟨done, hdone⟩ := ih (r.read c).1
    refine ⟨(r.read c).2 ++ done, fun t => ?_⟩
    rw [List.cons_append, statements, hdone, List.append_assoc]
    rfl

end Reader

def statements (s : List Char) : List Statement := Reader.start.statements s

/-! ## Commands

The statements that enable and disable row level security, rename or drop a table, and create or drop a
policy. Every other statement changes no protection.
-/

structure TableName where
  schema : List Char
  name : List Char
deriving DecidableEq

/-- A table under the name that an unqualified statement uses. -/
def table (name : List Char) : TableName := ⟨"public".toList, name⟩

inductive Command where
  | enable (t : TableName)
  | disable (t : TableName)
  | rename (t t' : TableName)
  | drop (t : TableName)
  | createPolicy (t : TableName) (policy : List Char)
  | dropPolicy (t : TableName) (policy : List Char)

def Token.identifier : Token → Option (List Char)
  | .word s | .name s => some s
  | _ => none

/-- The tokens after some keywords. -/
def keywords : List String → List Token → Option (List Token)
  | [], ts => some ts
  | k :: ks, .word w :: ts => if w = k.toList then keywords ks ts else none
  | _, _ => none

/-- The tokens after keywords that may be missing. -/
def skip (ks : List String) (ts : List Token) : List Token := (keywords ks ts).getD ts

/-- A table name, and the tokens after it. -/
def tableName : List Token → Option (TableName × List Token)
  | a :: .symbol '.' :: b :: ts => return (⟨← a.identifier, ← b.identifier⟩, ts)
  | a :: ts => return (table (← a.identifier), ts)
  | [] => none

/-- The table names of a list with commas. -/
def tableNames : (fuel : ℕ) → List Token → List TableName
  | 0, _ => []
  | fuel + 1, ts =>
    match tableName ts with
    | some (t, .symbol ',' :: ts) => t :: tableNames fuel ts
    | some (t, _) => [t]
    | none => []

/-- An action of `ALTER TABLE`. -/
def action (t : TableName) (ts : List Token) : Option Command :=
  if keywords ["enable", "row", "level", "security"] ts = some [] then some (.enable t)
  else if keywords ["disable", "row", "level", "security"] ts = some [] then some (.disable t)
  else match keywords ["rename", "to"] ts, keywords ["set", "schema"] ts with
    | some [a], _ => a.identifier.map fun name => .rename t ⟨t.schema, name⟩
    | _, some [a] => a.identifier.map fun schema => .rename t ⟨schema, t.name⟩
    | _, _ => none

def alterTable (ts : List Token) : Option (List Command) := do
  let ts ← keywords ["alter", "table"] ts
  let (t, ts) ← tableName (skip ["only"] (skip ["if", "exists"] ts))
  return (ts.splitOn (.symbol ',')).filterMap (action t)

def dropTable (ts : List Token) : Option (List Command) := do
  let ts ← keywords ["drop", "table"] ts
  return (tableNames (ts.length + 1) (skip ["if", "exists"] ts)).map .drop

/-- The policy and the table of `CREATE POLICY` and `DROP POLICY`. -/
def policyOn : List Token → Option (TableName × List Char)
  | a :: ts => do
    let policy ← a.identifier
    let (t, _) ← tableName (← keywords ["on"] ts)
    return (t, policy)
  | [] => none

def createPolicy (ts : List Token) : Option (List Command) := do
  let (t, policy) ← policyOn (← keywords ["create", "policy"] ts)
  return [.createPolicy t policy]

def dropPolicy (ts : List Token) : Option (List Command) := do
  let (t, policy) ← policyOn (skip ["if", "exists"] (← keywords ["drop", "policy"] ts))
  return [.dropPolicy t policy]

/-- What a statement does. -/
def commands (s : Statement) : List Command :=
  ((alterTable s <|> dropTable s) <|> (createPolicy s <|> dropPolicy s)).getD []

/-! ## Row level security

Which tables have it enabled, and which policies they have, statement by statement.
-/

/-- Which tables have row level security enabled, and their policies. -/
structure Protection where
  enabled : TableName → Bool
  policies : TableName → List (List Char)

namespace Protection

def none : Protection := ⟨fun _ => false, fun _ => []⟩

def run (d : Protection) : Command → Protection
  | .enable t => { d with enabled := Function.update d.enabled t true }
  | .disable t => { d with enabled := Function.update d.enabled t false }
  | .rename t t' =>
    ⟨Function.update (Function.update d.enabled t' (d.enabled t)) t false,
      Function.update (Function.update d.policies t' (d.policies t)) t []⟩
  | .drop t => ⟨Function.update d.enabled t false, Function.update d.policies t []⟩
  | .createPolicy t policy => { d with policies := Function.update d.policies t (policy :: d.policies t) }
  | .dropPolicy t policy =>
    { d with policies := Function.update d.policies t ((d.policies t).filter (· ≠ policy)) }

def runStatement (d : Protection) (s : Statement) : Protection := (commands s).foldl run d

end Protection

/-- What a script leaves behind. -/
def protection (s : List Char) : Protection := (statements s).foldl Protection.runStatement .none

/-! ## Statements in force

A statement is in force if no later one takes it back.
-/

/-- Between `pre` and `rest` the text `x` begins a statement that has the effect `Q`, which no later
statement of the script undoes. -/
def InForce (Q : Protection → Prop) (pre x rest : List Char) : Prop :=
  Reader.start.after pre = .start ∧
    ∃ s later, statements (x ++ rest) = s :: later ∧ (∀ d, Q (Protection.runStatement d s)) ∧
      ∀ s' ∈ later, ∀ d, Q d → Q (Protection.runStatement d s')

/-- What is in force somewhere is in force in the end. -/
theorem InForce.protection {Q : Protection → Prop} {pre x rest : List Char} (h : InForce Q pre x rest) :
    Q (protection (pre ++ x ++ rest)) := by
  obtain ⟨hpre, s, later, hs, hQ, hlater⟩ := h
  obtain ⟨done, hdone⟩ := Reader.start.statements_append pre
  have hstatements : statements (pre ++ x ++ rest) = done ++ s :: later := by
    rw [← hs, List.append_assoc]
    unfold statements
    rw [hdone, hpre]
  unfold Sql.protection
  rw [hstatements, List.foldl_append, List.foldl_cons]
  exact List.foldlRecOn later Protection.runStatement (hQ _) fun d hd s' hs' => hlater s' hs' d hd

end Sql
