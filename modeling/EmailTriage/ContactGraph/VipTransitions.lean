import EmailTriage.ContactGraph.VipDesignation
import Mathlib.Data.List.Forall2

/-!
# Announced VIPs

Both `promoteToVipIfQualified` and `setManualVipDesignation` make a sender a VIP, and each decides for
itself whether to push a `ContactPromotedToVip`. `vipEvents_match` compares the events of a run with the
steps in which `isVip` became true.

The two decide alike: each pushes its event exactly in a step that makes the sender VIP, with a source
of its own (`vipEvents_step`). Over a run the events are therefore matched with those steps, one by one
and in their order. That a promotion also returns whether it took place is `reportsTransition_step`.
-/

namespace EmailTriage.ContactGraph

open Js Runs

namespace SenderProfile

/-- The step makes the sender a VIP. -/
def BecomesVip (p : SenderProfile) (op : Operation) : Prop := p.isVip = false ∧ (p.step op).isVip = true

instance (p : SenderProfile) (op : Operation) : Decidable (BecomesVip p op) :=
  inferInstanceAs (Decidable (_ ∧ _))

/-- The steps of a run that make the sender a VIP, each with the profile before it. -/
def vipTransitions (p : SenderProfile) : List Operation → List (SenderProfile × Operation)
  | [] => []
  | op :: ops => (if BecomesVip p op then [(p, op)] else []) ++ vipTransitions (p.step op) ops

def isPromotion : DomainEvent → Bool
  | .ContactPromotedToVip .. => true
  | _ => false

/-- The `ContactPromotedToVip` events, in the order in which they were pushed. -/
def vipEvents (p : SenderProfile) : List DomainEvent := p.domainEvents.filter isPromotion

/-- The event of a step that makes the sender a VIP. -/
def Announces : SenderProfile × Operation → DomainEvent → Prop
  | (p, .setManualVipDesignation _ now), e =>
    e = .ContactPromotedToVip p.tenantId p.mailboxId p.senderAddress .manual now
  | (p, .promoteToVipIfQualified _ _ now), e =>
    e = .ContactPromotedToVip p.tenantId p.mailboxId p.senderAddress .autoPromoted now
  | _, _ => False

/-- A promotion is reported exactly if it makes the sender a VIP. -/
def ReportsTransition (p : SenderProfile) : Operation → SenderProfile → Prop
  | .promoteToVipIfQualified minBidirectionalThreshold windowDays now, p' =>
    (p.promoteToVipIfQualified minBidirectionalThreshold windowDays now).2 = true ↔
      p.isVip = false ∧ p'.isVip = true
  | _, _ => True

/-! ## One step

Each operation, with the event that it should report.
-/

/-- An event is one of a promotion or not. -/
theorem vipEvents_push (p : SenderProfile) (event : DomainEvent) :
    (p.push event).vipEvents = p.vipEvents ++ if isPromotion event then [event] else [] := by
  unfold vipEvents push
  rw [List.filter_append]
  refine congrArg (p.domainEvents.filter isPromotion ++ ·) ?_
  rw [List.filter_cons, List.filter_nil]

/-- What a sender that qualifies is promoted to. -/
theorem promote_of_qualifies {p : SenderProfile} {minBidirectionalThreshold : ℚ}
    {windowDays : Double} {now : ℤ}
    (h : Qualifies p minBidirectionalThreshold windowDays now) :
    (p.promoteToVipIfQualified minBidirectionalThreshold windowDays now).1 =
      { p with isVip := true, vipAutoPromoted := true }.push
        (.ContactPromotedToVip p.tenantId p.mailboxId p.senderAddress .autoPromoted now) := by
  unfold promoteToVipIfQualified
  rw [if_neg (Bool.eq_false_iff.mp h.notVip), if_neg (not_not.mpr h.personal), if_pos h.frequent]

/-- A promotion makes the sender a VIP exactly if it qualifies. -/
theorem becomesVip_promote_iff {p : SenderProfile} {minBidirectionalThreshold : ℚ}
    {windowDays : Double} {now : ℤ} :
    BecomesVip p (.promoteToVipIfQualified minBidirectionalThreshold windowDays now) ↔
      Qualifies p minBidirectionalThreshold windowDays now := by
  unfold BecomesVip
  constructor
  · rintro ⟨hnot, hvip⟩
    by_contra hqualifies
    rw [step, promote_of_not_qualifies hqualifies, hnot] at hvip
    cases hvip
  · intro h
    refine ⟨h.notVip, ?_⟩
    rw [step, promote_of_qualifies h]
    rfl

/-- A classification does not change the designation. -/
theorem isVip_updateClassification (p : SenderProfile) (signals : ContactSignals) (now : ℤ) :
    (p.updateClassification signals now).isVip = p.isVip :=
  congrArg (·.2.1) (p.designation_updateClassification signals now)

/-- Nor does it report a promotion. -/
theorem vipEvents_updateClassification (p : SenderProfile) (signals : ContactSignals) (now : ℤ) :
    (p.updateClassification signals now).vipEvents = p.vipEvents := by
  unfold updateClassification
  dsimp only
  split
  · split
    · exact (vipEvents_push ..).trans (List.append_nil _)
    · rfl
  · rfl

/-- A step pushes the event of its transition, if there is one. -/
theorem vipEvents_step (p : SenderProfile) (op : Operation) : ∃ pushed,
    (p.step op).vipEvents = p.vipEvents ++ pushed ∧
      List.Forall₂ Announces (if BecomesVip p op then [(p, op)] else []) pushed := by
  -- a step that leaves the flag and pushes no promotion
  have hsilent : (p.step op).vipEvents = p.vipEvents → ¬BecomesVip p op → ∃ pushed,
      (p.step op).vipEvents = p.vipEvents ++ pushed ∧
        List.Forall₂ Announces (if BecomesVip p op then [(p, op)] else []) pushed := by
    intro hevents hnot
    refine ⟨[], hevents.trans (List.append_nil _).symm, ?_⟩
    rw [if_neg hnot]
    exact List.Forall₂.nil
  cases op with
  | updateClassification signals now =>
    refine hsilent (p.vipEvents_updateClassification signals now) ?_
    rintro ⟨hnot, hvip⟩
    cases hnot.symm.trans ((p.isVip_updateClassification signals now).symm.trans hvip)
  | recordInteraction direction messageId occurredAt =>
    refine hsilent rfl ?_
    rintro ⟨hnot, hvip⟩
    cases hnot.symm.trans hvip
  | promoteToVipIfQualified minBidirectionalThreshold windowDays now =>
    by_cases h : Qualifies p minBidirectionalThreshold windowDays now
    · rw [step, promote_of_qualifies h, if_pos (becomesVip_promote_iff.mpr h)]
      exact ⟨_, vipEvents_push .., .cons rfl .nil⟩
    · refine hsilent ?_ fun hbecomes => h (becomesVip_promote_iff.mp hbecomes)
      rw [step, promote_of_not_qualifies h]
  | setManualVipDesignation isVip now =>
    have hbecomes : BecomesVip p (.setManualVipDesignation isVip now) ↔ (isVip && !p.isVip) = true := by
      have hvip : (p.setManualVipDesignation isVip now).isVip = isVip :=
        congrArg (·.2.1) (p.designation_setManualVipDesignation isVip now)
      rw [BecomesVip, step, hvip, Bool.and_eq_true, Bool.not_eq_true', and_comm]
    by_cases h : (isVip && !p.isVip) = true
    · rw [if_pos (hbecomes.mpr h), step, setManualVipDesignation, if_pos h]
      exact ⟨_, vipEvents_push .., .cons rfl .nil⟩
    · refine hsilent ?_ fun hb => h (hbecomes.mp hb)
      rw [step, setManualVipDesignation, if_neg h]
      rfl
  | updateInteractionFrequency windowDays now =>
    refine hsilent ((vipEvents_push ..).trans (List.append_nil _)) ?_
    rintro ⟨hnot, hvip⟩
    cases hnot.symm.trans hvip

/-- Every operation reports the transition it makes, and no other one. -/
theorem reportsTransition_step (p : SenderProfile) (op : Operation) :
    ReportsTransition p op (p.step op) := by
  cases op with
  | promoteToVipIfQualified minBidirectionalThreshold windowDays now =>
    exact promote_snd_iff.trans becomesVip_promote_iff.symm
  | _ => exact trivial

/-! ## Runs

From single operations to all events of a run.
-/

/-- A run pushes the events of its transitions, in their order. -/
theorem vipEvents_foldl (p : SenderProfile) (ops : List Operation) : ∃ pushed,
    (ops.foldl step p).vipEvents = p.vipEvents ++ pushed ∧
      List.Forall₂ Announces (vipTransitions p ops) pushed := by
  induction ops generalizing p with
  | nil => exact ⟨[], (List.append_nil _).symm, List.Forall₂.nil⟩
  | cons op ops ih =>
    obtain ⟨first, hfirst, hannounced⟩ := p.vipEvents_step op
    obtain ⟨rest, hrest, hothers⟩ := ih (p.step op)
    refine ⟨first ++ rest, ?_, List.rel_append hannounced hothers⟩
    rw [List.foldl_cons, hrest, hfirst, List.append_assoc]

/-- In every run from a new profile, the promotion events are those of the steps that made the sender a
VIP, one for each and in their order, and a promotion is reported exactly in such a step. -/
theorem vipEvents_match (tenantId mailboxId senderAddress : String) (ops : List Operation) :
    List.Forall₂ Announces (vipTransitions (new tenantId mailboxId senderAddress) ops)
        (ops.foldl step (new tenantId mailboxId senderAddress)).vipEvents ∧
      Along ReportsTransition (new tenantId mailboxId senderAddress)
        (exec step (new tenantId mailboxId senderAddress) ops) := by
  constructor
  · obtain ⟨pushed, hpushed, hmatch⟩ := (new tenantId mailboxId senderAddress).vipEvents_foldl ops
    rw [hpushed]
    exact hmatch
  · refine (along_exec step _ ops).mono ?_
    rintro p op p' rfl
    exact reportsTransition_step p op

end SenderProfile

end EmailTriage.ContactGraph
