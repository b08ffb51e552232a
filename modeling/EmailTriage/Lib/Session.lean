import Mathlib.Data.Option.Basic

/-!
# A setting of a database session

A setting is set for the session or for the transaction that is open. What is set for the session in a
transaction lasts if the transaction commits, what is set for the transaction is gone when it ends. A
setting that the server did not know before it was set has the default value afterwards.
-/

namespace Db

variable {α : Type}

/-- What the transaction that is open has made of a setting. -/
structure SettingChange (α : Type) where
  forSession : Option α
  forTransaction : Option α

/-- A setting, with no value where the server does not know it. -/
structure Setting (α : Type) where
  value : Option α
  change : Option (SettingChange α)

namespace SettingChange

/-- The transaction has set the setting. -/
def IsSet (c : SettingChange α) : Bool := c.forSession.isSome || c.forTransaction.isSome

end SettingChange

namespace Setting

/-- The setting of a new session. -/
def new : Setting α := ⟨none, none⟩

/-- The value that a statement of the session reads. -/
def current (s : Setting α) : Option α :=
  match s.change with
  | none => s.value
  | some c => (c.forTransaction.or c.forSession).or s.value

def startTransaction (s : Setting α) : Setting α := ⟨s.value, some ⟨none, none⟩⟩

variable [Inhabited α]

/-- Outside a transaction, what is set for the transaction is gone with the statement. -/
def setConfig (s : Setting α) (v : α) (isLocal : Bool) : Setting α :=
  match s.change with
  | none => ⟨some (if isLocal then s.value.getD default else v), none⟩
  | some c => ⟨s.value, some (if isLocal then ⟨c.forSession, some v⟩ else ⟨some v, none⟩)⟩

def commit (s : Setting α) : Setting α :=
  match s.change with
  | none => s
  | some c => ⟨if c.IsSet then some ((c.forSession.or s.value).getD default) else s.value, none⟩

def rollback (s : Setting α) : Setting α :=
  match s.change with
  | none => s
  | some c => ⟨if c.IsSet then some (s.value.getD default) else s.value, none⟩

omit [Inhabited α] in
@[simp] theorem current_new : (new : Setting α).current = none := rfl

/-- What a transaction leaves of a setting that it has set for itself only, or not at all. -/
def Left (s t : Setting α) : Prop :=
  t.change = none ∧ (t.value = s.value ∨ s.value = none ∧ t.value = some default)

/-- A rollback leaves the setting as it was. -/
theorem left_rollback (s : Setting α) (h : s.change.isSome) : s.Left s.rollback := by
  obtain ⟨c, hc⟩ := Option.isSome_iff_exists.mp h
  unfold rollback Left
  rw [hc]
  dsimp only
  refine ⟨rfl, ?_⟩
  split
  · cases s.value with
    | none => exact .inr ⟨rfl, rfl⟩
    | some v => exact .inl rfl
  · exact .inl rfl

/-- So does a commit of what was set for the transaction only. -/
theorem left_commit {s : Setting α} {c : SettingChange α} (hc : s.change = some c)
    (hsession : c.forSession = none) : s.Left s.commit := by
  have hsame : s.commit = s.rollback := by
    unfold commit rollback
    rw [hc]
    dsimp only
    rw [hsession, Option.none_or]
  rw [hsame]
  exact left_rollback s (hc ▸ rfl)

end Setting

end Db
