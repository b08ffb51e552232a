import EmailTriage.ContactGraph.SenderProfile
import EmailTriage.Lib.Runs
import Mathlib.Tactic.Linarith

/-!
# Published classifications

`updateClassification` compares each classification with its predecessor, and publishes it if the label
or more than a tenth of the confidence has changed. A confidence is a number of fifteenths, so a change
by one fifteenth is kept silent. `publishesCurrent_iff` says in which runs the published confidence
nevertheless stays within a tenth of the current one.

`Tracks` follows two numbers of fifteenths, the published and the current one, which are at most one
apart. A step that publishes makes them equal. A silent step moves the current one by at most one, and
takes it more than a tenth away from the published one only if the two were apart already and it moves
on in that direction (`MovesOn`). The condition on a run is that no step of it does.
-/

namespace EmailTriage.ContactGraph

open Js Runs

namespace SenderProfile

/-- The label and the confidence of the last `SenderClassified`. -/
def lastPublished (p : SenderProfile) : Option (ContactClassificationType × ℚ) :=
  p.domainEvents.reverse.findSome? fun
    | .SenderClassified _ _ _ classification confidence _ => some (classification, confidence)
    | _ => none

/-- A call of `updateClassification`. -/
structure Reclassification where
  signals : ContactSignals
  now : ℤ

/-- The profile after a call. -/
def reclassify (p : SenderProfile) (call : Reclassification) : SenderProfile :=
  p.updateClassification call.signals call.now

/-- The last event has the current label, and the current confidence up to a tenth. -/
def PublishesCurrent (p : SenderProfile) : Prop :=
  ∃ label confidence, p.lastPublished = some (label, confidence) ∧
    p.classification.classification = label ∧ |p.classification.confidence - confidence| ≤ 0.1

/-- The confidence has moved from the published one without an event, and the signals move it as far
again in the same direction, under the same label. -/
def MovesOn (p : SenderProfile) (signals : ContactSignals) : Prop :=
  ∃ label confidence, p.lastPublished = some (label, confidence) ∧
    p.classification.confidence ≠ confidence ∧
    personalWeight signals / 15 - p.classification.confidence = p.classification.confidence - confidence ∧
    labelFor signals = p.classification.classification

/-- What is published last is the last publication. -/
theorem lastPublished_push (p : SenderProfile) (tenantId mailboxId senderAddress : String)
    (classification : ContactClassificationType) (confidence : ℚ) (now : ℤ) :
    (p.push (.SenderClassified tenantId mailboxId senderAddress classification confidence now)).lastPublished
      = some (classification, confidence) := by
  unfold lastPublished push
  rw [List.reverse_append]
  rfl

/-- Whether a call publishes. -/
def Publishes (p : SenderProfile) (signals : ContactSignals) : Prop :=
  p.classification.classification ≠ labelFor signals ∨
    |p.classification.confidence - personalWeight signals / 15| > 0.1

/-- What a call leaves. -/
theorem reclassify_spec (p : SenderProfile) (call : Reclassification) :
    (p.reclassify call).classification.classification = labelFor call.signals ∧
      (p.reclassify call).classification.confidence = personalWeight call.signals / 15 ∧
      (Publishes p call.signals → (p.reclassify call).lastPublished =
        some (labelFor call.signals, (personalWeight call.signals / 15 : ℚ))) ∧
      (¬Publishes p call.signals → (p.reclassify call).lastPublished = p.lastPublished) := by
  obtain ⟨hconfidence, hlabel⟩ := classify_eq call.signals
  have hknown : (ContactClassification.fromSignals (signalObjects call.signals)).classification ≠
      .unknown := by
    rw [hlabel]
    exact labelFor_ne_unknown call.signals
  have hpublishes : (p.classification.classification ≠
        (ContactClassification.fromSignals (signalObjects call.signals)).classification ∨
      |p.classification.confidence -
        (ContactClassification.fromSignals (signalObjects call.signals)).confidence| > 0.1) ↔
      Publishes p call.signals := by
    rw [hconfidence, hlabel]
    rfl
  unfold reclassify updateClassification
  dsimp only
  by_cases h : Publishes p call.signals
  · rw [if_pos (hpublishes.mpr h), if_pos hknown]
    refine ⟨hlabel, hconfidence, fun _ => ?_, fun hnot => absurd h hnot⟩
    rw [lastPublished_push, hlabel, hconfidence]
  · rw [if_neg fun hp => h (hpublishes.mp hp)]
    exact ⟨hlabel, hconfidence, fun hp => absurd hp h, fun _ => rfl⟩

/-! ## Fifteenths

Confidences are multiples of one fifteenth, so a step above one tenth is a step of at least two. A sender
may drift in single steps without anything being published.
-/

/-- Two confidences are a tenth apart exactly if they are at most one fifteenth apart. -/
theorem abs_sub_le_tenth_iff (n m : ℕ) : |(n / 15 - m / 15 : ℚ)| ≤ 0.1 ↔ n ≤ m + 1 ∧ m ≤ n + 1 := by
  rw [abs_le]
  constructor
  · rintro ⟨hlo, hhi⟩
    constructor
    · by_contra h
      have hge : (m : ℚ) + 2 ≤ n := by exact_mod_cast (by omega : m + 2 ≤ n)
      linarith
    · by_contra h
      have hge : (n : ℚ) + 2 ≤ m := by exact_mod_cast (by omega : n + 2 ≤ m)
      linarith
  · rintro ⟨hn, hm⟩
    have hn' : (n : ℚ) ≤ m + 1 := by exact_mod_cast hn
    have hm' : (m : ℚ) ≤ n + 1 := by exact_mod_cast hm
    constructor
    · linarith
    · linarith

/-- The current and the published confidence are `n` and `m` fifteenths, at most one apart. -/
structure Tracks (p : SenderProfile) (n m : ℕ) : Prop where
  confidence : p.classification.confidence = n / 15
  published : p.lastPublished = some (p.classification.classification, (m / 15 : ℚ))
  close : n ≤ m + 1 ∧ m ≤ n + 1

/-- Nothing has been classified, or what was published is tracked. -/
def Inv (p : SenderProfile) : Prop :=
  (p.classification.classification = .unknown ∧ p.lastPublished = none) ∨ ∃ n m, Tracks p n m

/-- A published confidence that is tracked is left behind by a second step in one direction. -/
theorem Tracks.movesOn_iff {p : SenderProfile} {n m : ℕ} (h : Tracks p n m) (signals : ContactSignals) :
    MovesOn p signals ↔ n ≠ m ∧ personalWeight signals + m = 2 * n ∧
      labelFor signals = p.classification.classification := by
  have hmoved : (n / 15 : ℚ) ≠ m / 15 ↔ n ≠ m := by
    rw [Ne, div_left_inj' (by norm_num), Nat.cast_inj]
  have hagain : (personalWeight signals / 15 - n / 15 : ℚ) = n / 15 - m / 15 ↔
      personalWeight signals + m = 2 * n := by
    rw [← @Nat.cast_inj ℚ]
    push_cast
    constructor
    · intro h
      linarith
    · intro h
      linarith
  unfold MovesOn
  rw [h.published, h.confidence]
  constructor
  · rintro ⟨label, confidence, hpublished, hne, heq, hlabel⟩
    cases hpublished
    exact ⟨hmoved.mp hne, hagain.mp heq, hlabel⟩
  · rintro ⟨hne, heq, hlabel⟩
    exact ⟨_, _, rfl, hmoved.mpr hne, hagain.mpr heq, hlabel⟩

/-- A call publishes what is more than one fifteenth away, or has another label. -/
theorem Tracks.publishes_iff {p : SenderProfile} {n m : ℕ} (h : Tracks p n m) (signals : ContactSignals) :
    ¬Publishes p signals ↔ labelFor signals = p.classification.classification ∧
      n ≤ personalWeight signals + 1 ∧ personalWeight signals ≤ n + 1 := by
  unfold Publishes
  rw [h.confidence, not_or, not_not, not_lt, abs_sub_le_tenth_iff, eq_comm]

/-- What has just been published is tracked, and is current. -/
theorem tracks_of_publishes {p : SenderProfile} {call : Reclassification}
    (h : Publishes p call.signals) :
    Tracks (p.reclassify call) (personalWeight call.signals) (personalWeight call.signals) := by
  obtain ⟨hlabel, hconfidence, hpublished, -⟩ := p.reclassify_spec call
  refine ⟨hconfidence, ?_, Nat.le_succ _, Nat.le_succ _⟩
  rw [hpublished h, hlabel]

/-- A silent call leaves what was published. -/
theorem Tracks.published_of_silent {p : SenderProfile} {n m : ℕ} (h : Tracks p n m)
    {call : Reclassification} (hsilent : ¬Publishes p call.signals) :
    (p.reclassify call).lastPublished =
      some ((p.reclassify call).classification.classification, (m / 15 : ℚ)) := by
  obtain ⟨hlabel, -, -, hkept⟩ := p.reclassify_spec call
  rw [hkept hsilent, h.published, hlabel, ((h.publishes_iff call.signals).mp hsilent).1]

/-- What is tracked is current. -/
theorem Tracks.publishesCurrent {p : SenderProfile} {n m : ℕ} (h : Tracks p n m) : PublishesCurrent p := by
  refine ⟨_, _, h.published, rfl, ?_⟩
  rw [h.confidence, abs_sub_le_tenth_iff]
  exact h.close

/-- A silent call leaves the published classification current if it stays within one fifteenth of it. -/
theorem Tracks.publishesCurrent_silent_iff {p : SenderProfile} {n m : ℕ} (h : Tracks p n m)
    {call : Reclassification} (hsilent : ¬Publishes p call.signals) :
    PublishesCurrent (p.reclassify call) ↔
      personalWeight call.signals ≤ m + 1 ∧ m ≤ personalWeight call.signals + 1 := by
  obtain ⟨-, hconfidence, -⟩ := p.reclassify_spec call
  unfold PublishesCurrent
  rw [h.published_of_silent hsilent, hconfidence, ← abs_sub_le_tenth_iff]
  constructor
  · rintro ⟨label, confidence, hpublished, -, hclose⟩
    cases hpublished
    exact hclose
  · intro hclose
    exact ⟨_, _, rfl, rfl, hclose⟩

/-- The first call publishes. -/
theorem publishes_of_unknown {p : SenderProfile} (h : p.classification.classification = .unknown)
    (signals : ContactSignals) : Publishes p signals :=
  .inl (h ▸ (labelFor_ne_unknown signals).symm)

/-- One call: the published classification is current exactly if the confidence does not move on. -/
theorem publishesCurrent_reclassify_iff {p : SenderProfile} (hp : Inv p) (call : Reclassification) :
    PublishesCurrent (p.reclassify call) ↔ ¬MovesOn p call.signals := by
  by_cases hpublishes : Publishes p call.signals
  · refine iff_of_true (tracks_of_publishes hpublishes).publishesCurrent fun hmoves => ?_
    rcases hp with ⟨-, hnone⟩ | ⟨n, m, h⟩
    · obtain ⟨label, confidence, hsome, -⟩ := hmoves
      cases hnone.symm.trans hsome
    · obtain ⟨-, hagain, hlabel⟩ := (h.movesOn_iff call.signals).mp hmoves
      have hclose := h.close
      exact (h.publishes_iff call.signals).mpr ⟨hlabel, by omega, by omega⟩ hpublishes
  · rcases hp with ⟨hunknown, -⟩ | ⟨n, m, h⟩
    · exact absurd (publishes_of_unknown hunknown call.signals) hpublishes
    · obtain ⟨hlabel, hstep⟩ := (h.publishes_iff call.signals).mp hpublishes
      have hclose := h.close
      rw [h.publishesCurrent_silent_iff hpublishes, h.movesOn_iff]
      constructor
      · rintro hcurrent ⟨hne, hagain, -⟩
        omega
      · intro hstays
        by_contra hleft
        exact hstays ⟨by omega, by omega, hlabel⟩

/-- A call that publishes what it makes keeps the invariant. -/
theorem inv_reclassify {p : SenderProfile} (hp : Inv p) {call : Reclassification}
    (hcurrent : PublishesCurrent (p.reclassify call)) : Inv (p.reclassify call) := by
  by_cases hpublishes : Publishes p call.signals
  · exact .inr ⟨_, _, tracks_of_publishes hpublishes⟩
  · rcases hp with ⟨hunknown, -⟩ | ⟨n, m, h⟩
    · exact absurd (publishes_of_unknown hunknown call.signals) hpublishes
    · obtain ⟨-, hconfidence, -⟩ := p.reclassify_spec call
      exact .inr ⟨_, m, hconfidence, h.published_of_silent hpublishes,
        (h.publishesCurrent_silent_iff hpublishes).mp hcurrent⟩

/-- In every run from a new profile, what is published stays current exactly if no call takes the
confidence a second fifteenth away from it under the same label. -/
theorem publishesCurrent_iff (tenantId mailboxId senderAddress : String) (calls : List Reclassification) :
    Along (fun _ _ p => PublishesCurrent p) (new tenantId mailboxId senderAddress)
        (exec reclassify (new tenantId mailboxId senderAddress) calls) ↔
      Along (fun p call _ => ¬MovesOn p call.signals) (new tenantId mailboxId senderAddress)
        (exec reclassify (new tenantId mailboxId senderAddress) calls) := by
  refine along_iff (I := Inv) ?_ ?_ (along_exec _ _ calls) (.inl ⟨rfl, rfl⟩)
  · rintro p call p' hp rfl
    exact publishesCurrent_reclassify_iff hp call
  · rintro p call p' hp rfl hstays
    exact inv_reclassify hp ((publishesCurrent_reclassify_iff hp call).mpr hstays)

/-- A contact with a thread, first from an invalid address, then with an impersonal name, and then from a
valid address: the confidence rises from 8 over 9 to 10 fifteenths, and only the first is published. -/
theorem not_publishesCurrent_drifting : ¬Along (fun _ _ p => PublishesCurrent p)
    (new "tenant" "mailbox" "alice@example.com")
      (exec reclassify (new "tenant" "mailbox" "alice@example.com")
      [⟨⟨false, false, true, true, true⟩, 1⟩, ⟨⟨false, false, true, true, false⟩, 2⟩,
        ⟨⟨false, true, true, true, true⟩, 3⟩]) := by
  rintro ⟨-, -, ⟨label, confidence, hpublished, -, hclose⟩, -⟩
  have hfirst := hpublished.symm.trans (show _ = some (.personal, (8 / 15 : ℚ)) by decide +kernel)
  cases hfirst
  exact absurd hclose (by decide +kernel)

end SenderProfile

end EmailTriage.ContactGraph
