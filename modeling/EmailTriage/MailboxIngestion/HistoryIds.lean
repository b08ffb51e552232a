import EmailTriage.Lib.Doubles
import EmailTriage.MailboxIngestion.SyncCursor

/-!
# The order of Gmail history ids

A Gmail history id is an unsigned 64-bit integer. `canAdvanceTo` compares two of them after `parseInt`,
as doubles. `followsOrder_iff` says that this is their order unless two different ids round to the same
double.
-/

namespace EmailTriage.MailboxIngestion

open Js

/-- An unsigned 64-bit integer in decimal digits. -/
structure HistoryId where
  text : String
  value : ℕ
  spells : decimal text = some value
  bounded : value < 2 ^ 64

namespace HistoryId

/-- A cursor at the id may advance to another one. -/
def AdvancesTo (a b : HistoryId) : Prop := (SyncCursor.mk "gmail" a.text).canAdvanceTo b.text = true

instance (a b : HistoryId) : Decidable (a.AdvancesTo b) := inferInstanceAs (Decidable (_ = true))

/-- Cursors at the two ids advance in their order, and they are part of a relation that is an order. -/
structure FollowsOrder (a b : HistoryId) : Prop where
  forward : a.AdvancesTo b ↔ a.value ≤ b.value
  backward : b.AdvancesTo a ↔ b.value ≤ a.value
  refl : a.AdvancesTo a
  trans : ∀ c, a.AdvancesTo b → b.AdvancesTo c → a.AdvancesTo c
  antisymm : a.AdvancesTo b → b.AdvancesTo a → a.value = b.value

/-- A history id is read with the precision of a double. -/
theorem parseInt_text (a : HistoryId) : parseInt a.text = .finite (roundToDouble a.value) := by
  rw [parseInt_of_decimal a.spells, toNumber_of_le a.bounded.le (by decide)]
  rfl

/-- The comparison is that of the doubles. -/
theorem advancesTo_iff (a b : HistoryId) :
    a.AdvancesTo b ↔ roundToDouble a.value ≤ roundToDouble b.value := by
  unfold AdvancesTo SyncCursor.canAdvanceTo
  rw [if_pos rfl, parseInt_text, parseInt_text]
  exact decide_eq_true_iff.trans Int.ofNat_le

/-- Cursors follow the order of two ids unless these are different and round to the same double. -/
theorem followsOrder_iff (a b : HistoryId) :
    FollowsOrder a b ↔ a.value = b.value ∨ roundToDouble a.value ≠ roundToDouble b.value := by
  constructor
  · intro h
    by_cases hround : roundToDouble a.value = roundToDouble b.value
    · have hforward := (a.advancesTo_iff b).mpr hround.le
      have hbackward := (b.advancesTo_iff a).mpr hround.ge
      exact .inl (h.antisymm hforward hbackward)
    · exact .inr hround
  · intro h
    have hround : roundToDouble a.value = roundToDouble b.value → a.value = b.value :=
      fun heq => h.resolve_right fun hne => hne heq
    refine ⟨?_, ?_, (a.advancesTo_iff a).mpr (le_refl _), fun c hab hbc => ?_, fun hab hba => ?_⟩
    · rw [advancesTo_iff, roundToDouble_le_iff]
      exact h.imp_left Eq.le
    · rw [advancesTo_iff, roundToDouble_le_iff]
      exact h.imp Eq.ge Ne.symm
    · rw [advancesTo_iff] at hab hbc ⊢
      exact hab.trans hbc
    · rw [advancesTo_iff] at hab hba
      exact hround (Nat.le_antisymm hab hba)

/-- The first integer that is no double, and the one before it. -/
def beyondDoubles : HistoryId × HistoryId :=
  (⟨"9007199254740993", 9007199254740993, by decide, by decide⟩,
    ⟨"9007199254740992", 9007199254740992, by decide, by decide⟩)

/-- The greater id may advance to the smaller one. -/
theorem not_followsOrder_beyondDoubles : ¬FollowsOrder beyondDoubles.1 beyondDoubles.2 := by
  intro h
  exact absurd (h.forward.mp (by decide)) (by decide)

end HistoryId

end EmailTriage.MailboxIngestion
