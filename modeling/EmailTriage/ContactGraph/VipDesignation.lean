import EmailTriage.ContactGraph.SenderProfile
import EmailTriage.Lib.Runs

/-!
# Automatic promotion to VIP

`promoteToVipIfQualified` promotes personal contacts only, but `updateClassification` leaves the
designation alone. `autoVipPersonal_iff` says in which runs a sender that was promoted automatically
stays a personal contact.

`Qualifies` is the condition of a promotion, and `designation` what the flags say about how a sender
became VIP. Of the four operations only a reclassification can break the property, so the condition on
a run is that reclassifications of senders who were promoted automatically leave them personal.
-/

namespace EmailTriage.ContactGraph

open Js Runs

namespace SenderProfile

/-! ## Operations

What each operation does to the classification, the flag and where the flag comes from.
-/

/-- The operations of the aggregate. -/
inductive Operation where
  | updateClassification (signals : ContactSignals) (now : ℤ)
  | recordInteraction (direction : Direction) (messageId : String) (occurredAt : Date)
  | promoteToVipIfQualified (minBidirectionalThreshold : ℚ) (windowDays : Double) (now : ℤ)
  | setManualVipDesignation (isVip : Bool) (now : ℤ)
  | updateInteractionFrequency (windowDays : Double) (now : ℤ)

def step (p : SenderProfile) : Operation → SenderProfile
  | .updateClassification signals now => p.updateClassification signals now
  | .recordInteraction direction messageId occurredAt => p.recordInteraction direction messageId occurredAt
  | .promoteToVipIfQualified minBidirectionalThreshold windowDays now =>
    (p.promoteToVipIfQualified minBidirectionalThreshold windowDays now).1
  | .setManualVipDesignation isVip now => p.setManualVipDesignation isVip now
  | .updateInteractionFrequency windowDays now => p.updateInteractionFrequency windowDays now

/-- The sender is a personal contact, no VIP yet, and was written to often enough. -/
structure Qualifies (p : SenderProfile) (minBidirectionalThreshold : ℚ) (windowDays : Double)
    (now : ℤ) : Prop where
  notVip : p.isVip = false
  personal : p.classification.classification = .personal
  frequent : minBidirectionalThreshold ≤ (p.computeInteractionFrequency windowDays now).bidirectionalCount

/-- The label, and what is said about VIP status. -/
def designation (p : SenderProfile) : ContactClassificationType × Bool × Bool :=
  (p.classification.classification, p.isVip, p.vipAutoPromoted)

/-- A classification changes the label, and neither the flag nor where it comes from. -/
theorem designation_updateClassification (p : SenderProfile) (signals : ContactSignals) (now : ℤ) :
    (p.updateClassification signals now).designation =
      (labelFor signals, p.isVip, p.vipAutoPromoted) := by
  rw [← (classify_eq signals).2]
  unfold updateClassification
  dsimp only
  split
  · split
    · rfl
    · rfl
  · rfl

/-- A sender that qualifies is promoted. -/
theorem designation_promote_of_qualifies {p : SenderProfile} {minBidirectionalThreshold : ℚ}
    {windowDays : Double} {now : ℤ} (h : Qualifies p minBidirectionalThreshold windowDays now) :
    (p.promoteToVipIfQualified minBidirectionalThreshold windowDays now).1.designation =
      (.personal, true, true) := by
  unfold promoteToVipIfQualified
  rw [if_neg (Bool.eq_false_iff.mp h.notVip), if_neg (not_not.mpr h.personal), if_pos h.frequent]
  exact congrArg (·, true, true) h.personal

/-- A sender that does not qualify stays as it is. -/
theorem promote_of_not_qualifies {p : SenderProfile} {minBidirectionalThreshold : ℚ}
    {windowDays : Double} {now : ℤ} (h : ¬Qualifies p minBidirectionalThreshold windowDays now) :
    (p.promoteToVipIfQualified minBidirectionalThreshold windowDays now).1 = p := by
  unfold promoteToVipIfQualified
  split
  · rfl
  · next hvip =>
    split
    · rfl
    · next hpersonal =>
      split
      · next hfrequent =>
        exact absurd ⟨Bool.eq_false_iff.mpr hvip, not_not.mp hpersonal, hfrequent⟩ h
      · rfl

/-- A promotion is reported exactly if the sender qualifies. -/
theorem promote_snd_iff {p : SenderProfile} {minBidirectionalThreshold : ℚ} {windowDays : Double} {now : ℤ} :
    (p.promoteToVipIfQualified minBidirectionalThreshold windowDays now).2 = true ↔
      Qualifies p minBidirectionalThreshold windowDays now := by
  constructor
  · intro h
    unfold promoteToVipIfQualified at h
    split at h
    · cases h
    · next hvip =>
      split at h
      · cases h
      · next hpersonal =>
        split at h
        · next hfrequent => exact ⟨Bool.eq_false_iff.mpr hvip, not_not.mp hpersonal, hfrequent⟩
        · cases h
  · intro h
    unfold promoteToVipIfQualified
    rw [if_neg (Bool.eq_false_iff.mp h.notVip), if_neg (not_not.mpr h.personal), if_pos h.frequent]

/-- A manual decision sets the flag and forgets an automatic one. -/
theorem designation_setManualVipDesignation (p : SenderProfile) (isVip : Bool) (now : ℤ) :
    (p.setManualVipDesignation isVip now).designation =
      (p.classification.classification, isVip, false) := by
  unfold setManualVipDesignation
  dsimp only
  split
  · rfl
  · rfl

/-! ## Senders that were promoted automatically

The classification is checked when the sender is promoted, and not again when it changes.
-/

/-- A VIP that was promoted automatically is a personal contact. -/
def AutoVipPersonal (p : SenderProfile) : Prop :=
  p.isVip = true → p.vipAutoPromoted = true → p.classification.classification = .personal

/-- No VIP that was promoted automatically is reclassified as automated. -/
def ReclassifiesPersonal (p : SenderProfile) : Operation → SenderProfile → Prop
  | .updateClassification signals _, _ =>
    p.isVip = true → p.vipAutoPromoted = true → 8 ≤ personalWeight signals
  | _, _ => True

/-- The invariant reads the designation only. -/
theorem autoVipPersonal_of_designation {p : SenderProfile} {label : ContactClassificationType}
    {isVip vipAutoPromoted : Bool} (h : p.designation = (label, isVip, vipAutoPromoted)) :
    AutoVipPersonal p ↔ (isVip = true → vipAutoPromoted = true → label = .personal) := by
  unfold designation at h
  obtain ⟨rfl, rfl, rfl⟩ : _ ∧ _ ∧ _ := by
    simpa only [Prod.mk.injEq] using h
  rfl

/-- One operation. -/
theorem autoVipPersonal_step_iff {p : SenderProfile} (hp : AutoVipPersonal p) (op : Operation) :
    AutoVipPersonal (p.step op) ↔ ReclassifiesPersonal p op (p.step op) := by
  cases op with
  | updateClassification signals now =>
    refine (autoVipPersonal_of_designation (p.designation_updateClassification signals now)).trans ?_
    rw [labelFor_eq_personal_iff]
    rfl
  | recordInteraction direction messageId occurredAt => exact iff_of_true hp trivial
  | promoteToVipIfQualified minBidirectionalThreshold windowDays now =>
    refine iff_of_true ?_ trivial
    by_cases hqualifies : Qualifies p minBidirectionalThreshold windowDays now
    · rw [step, autoVipPersonal_of_designation (designation_promote_of_qualifies hqualifies)]
      exact fun _ _ => rfl
    · rw [step, promote_of_not_qualifies hqualifies]
      exact hp
  | setManualVipDesignation isVip now =>
    refine iff_of_true ?_ trivial
    rw [step, autoVipPersonal_of_designation (p.designation_setManualVipDesignation isVip now)]
    rintro - ⟨⟩
  | updateInteractionFrequency windowDays now => exact iff_of_true hp trivial

/-- In every run from a new profile, the VIPs that were promoted automatically are personal contacts
exactly if none of them is reclassified as automated. -/
theorem autoVipPersonal_iff (tenantId mailboxId senderAddress : String) (ops : List Operation) :
    Along (fun _ _ p => AutoVipPersonal p) (new tenantId mailboxId senderAddress)
        (exec step (new tenantId mailboxId senderAddress) ops) ↔
      Along ReclassifiesPersonal (new tenantId mailboxId senderAddress)
        (exec step (new tenantId mailboxId senderAddress) ops) := by
  refine along_iff (I := AutoVipPersonal) ?_ ?_ (along_exec _ _ ops) (by rintro ⟨⟩)
  · rintro p op p' hp rfl
    exact autoVipPersonal_step_iff hp op
  · rintro p op p' hp rfl hop
    exact (autoVipPersonal_step_iff hp op).mpr hop

/-- A contact is promoted after one message, and then classified as automated. -/
theorem not_autoVipPersonal_reclassified : ¬Along (fun _ _ p => AutoVipPersonal p)
    (new "tenant" "mailbox" "alice@example.com") (exec step (new "tenant" "mailbox" "alice@example.com")
      [.updateClassification ⟨true, true, true, true, true⟩ 1, .recordInteraction .outbound "m1" (some 2),
        .promoteToVipIfQualified 1 (.finite 30) 3,
          .updateClassification ⟨false, false, false, false, true⟩ 4]) := by
  rintro ⟨-, -, -, hlast, -⟩
  exact absurd (hlast (by decide +kernel) (by decide +kernel)) (by decide +kernel)

end SenderProfile

end EmailTriage.ContactGraph
