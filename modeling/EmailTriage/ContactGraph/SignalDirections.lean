import EmailTriage.ContactGraph.VipDesignation
import Mathlib.Data.List.Perm.Basic
import Mathlib.Tactic.Linarith

/-!
# The direction of each signal

`fromSignals` adds up the weights of all signals, and counts a signal for a personal contact or against
one by its type. Each field of `ContactSignals` is evidence for a personal contact, and
`updateClassification` turns it into a signal. `wellBehaved_iff` says which fields raise the
confidence.

The confidence is a ratio of sums, so it does not depend on the order of the signals
(`confidence_fromSignals_perm`). What `updateClassification` makes of the fields is a number of
fifteenths, so the direction of a field is a comparison of two such numbers
(`personalWeight_raise_le_iff`), and the label follows the confidence.
-/

namespace EmailTriage.ContactGraph

open Js

/-- The fields of `ContactSignals`. -/
inductive SignalField where
  | automationHeaderAbsent
  | fromAddressValid
  | contactsApiMatch
  | bidirectionalThreadHistory
  | displayNamePersonal
deriving DecidableEq

/-- The signals with a field set to true. -/
def ContactSignals.raise (signals : ContactSignals) : SignalField → ContactSignals
  | .automationHeaderAbsent => { signals with automationHeaderAbsent := true }
  | .fromAddressValid => { signals with fromAddressValid := true }
  | .contactsApiMatch => { signals with contactsApiMatch := true }
  | .bidirectionalThreadHistory => { signals with bidirectionalThreadHistory := true }
  | .displayNamePersonal => { signals with displayNamePersonal := true }

/-! ## The order of the signals

The scores are sums, which do not depend on the order.
-/

/-- What a signal adds to the personal score. -/
def AutomatedSenderSignal.personalPart (signal : AutomatedSenderSignal) : ℚ :=
  if signal.signalType = .ContactsApiMatch ∨ signal.signalType = .BidirectionalHistory then
    if signal.present then signal.weight else 0
  else if signal.present then 0 else signal.weight

/-- What a signal adds to the automated score. -/
def AutomatedSenderSignal.automatedPart (signal : AutomatedSenderSignal) : ℚ :=
  if signal.signalType = .ContactsApiMatch ∨ signal.signalType = .BidirectionalHistory then 0
  else if signal.present then signal.weight else 0

/-- A signal adds its part to either score and its weight to both. -/
theorem Tally.add_eq (t : Tally) (signal : AutomatedSenderSignal) :
    t.add signal = ⟨t.personalScore + signal.personalPart, t.automatedScore + signal.automatedPart,
      t.totalWeight + signal.weight⟩ := by
  unfold Tally.add AutomatedSenderSignal.personalPart AutomatedSenderSignal.automatedPart
  dsimp only
  split
  · split
    · rw [add_zero]
    · rw [add_zero, add_zero]
  · split
    · rw [add_zero]
    · rw [add_zero]

instance : RightCommutative Tally.add where
  right_comm t a b := by
    simp only [Tally.add_eq, Tally.mk.injEq]
    exact ⟨add_right_comm .., add_right_comm .., add_right_comm ..⟩

/-- The confidence does not depend on the order of the signals. -/
theorem confidence_fromSignals_perm {l l' : List AutomatedSenderSignal} (h : l.Perm l') :
    (ContactClassification.fromSignals l).confidence =
        (ContactClassification.fromSignals l').confidence := by
  have htally := h.foldl_eq (f := Tally.add) ⟨0, 0, 0⟩
  unfold ContactClassification.fromSignals ContactClassification.new
  dsimp only
  rw [htally]

/-! ## The direction of a field

A field that is raised should not lower the personal score. The display name does.
-/

/-- What speaks for a personal contact is not less with a field set, unless it is the display name. -/
theorem personalWeight_raise_le_iff (signals : ContactSignals) (field : SignalField) :
    personalWeight signals ≤ personalWeight (signals.raise field) ↔
      (field = .displayNamePersonal → signals.displayNamePersonal = true) := by
  obtain ⟨absent, valid, contact, bidirectional, displayName⟩ := signals
  revert absent valid contact bidirectional displayName
  cases field
  all_goals decide

namespace SenderProfile

/-- A profile is classified by its signals alone. -/
theorem classification_updateClassification (p : SenderProfile) (signals : ContactSignals) (now : ℤ) :
    (p.updateClassification signals now).classification =
      ContactClassification.fromSignals (signalObjects signals) := by
  unfold updateClassification
  dsimp only
  split
  · split
    · rfl
    · rfl
  · rfl

/-- Confidences are bounded and do not depend on the order of the signals, and setting a field neither
lowers the confidence nor makes a personal contact an automated one. -/
structure WellBehaved (p : SenderProfile) (signals : ContactSignals) (field : SignalField) (now : ℤ) :
    Prop where
  bounded : ∀ l, 0 ≤ (ContactClassification.fromSignals l).confidence ∧
    (ContactClassification.fromSignals l).confidence ≤ 1
  order : ∀ l l' : List AutomatedSenderSignal, l.Perm l' →
    (ContactClassification.fromSignals l).confidence = (ContactClassification.fromSignals l').confidence
  confidence : (p.updateClassification signals now).classification.confidence ≤
    (p.updateClassification (signals.raise field) now).classification.confidence
  label : (p.updateClassification signals now).classification.classification = .personal →
    (p.updateClassification (signals.raise field) now).classification.classification ≠ .automated

/-- The evidence of a field counts in its direction exactly if it is not the display name (or was set). -/
theorem wellBehaved_iff (p : SenderProfile) (signals : ContactSignals) (field : SignalField) (now : ℤ) :
    WellBehaved p signals field now ↔
      (field = .displayNamePersonal → signals.displayNamePersonal = true) := by
  obtain ⟨hbefore, hlabel⟩ := classify_eq signals
  obtain ⟨hafter, hlabel'⟩ := classify_eq (signals.raise field)
  rw [← personalWeight_raise_le_iff]
  constructor
  · intro h
    have hle := h.confidence
    rw [classification_updateClassification, classification_updateClassification, hbefore, hafter] at hle
    have hle' : (personalWeight signals : ℚ) ≤ personalWeight (signals.raise field) := by linarith
    exact_mod_cast hle'
  · intro hle
    refine ⟨fun l => (ContactClassification.fromSignals l).bounded,
      fun l l' h => confidence_fromSignals_perm h, ?_, ?_⟩
    · rw [classification_updateClassification, classification_updateClassification, hbefore, hafter]
      have hle' : (personalWeight signals : ℚ) ≤
          personalWeight (signals.raise field) := by exact_mod_cast hle
      linarith
    · rw [classification_updateClassification, classification_updateClassification, hlabel, hlabel',
        labelFor_eq_personal_iff]
      intro hpersonal
      rw [labelFor_eq_personal_iff.mpr (hpersonal.trans hle)]
      rintro ⟨⟩

/-- A contact with a thread: 9 fifteenths speak for it, and 8 once its name is personal. -/
theorem not_wellBehaved_displayName : ¬WellBehaved (new "tenant" "mailbox" "alice@example.com")
    ⟨false, false, true, true, false⟩ .displayNamePersonal 1 := by
  intro h
  exact absurd h.confidence (by decide +kernel)

end SenderProfile

end EmailTriage.ContactGraph
