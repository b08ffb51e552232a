import EmailTriage.MailboxWriteback.AggregateRuns

/-!
# Facets do not disturb each other

An operation of the aggregate reads and writes the record of its own facet only: `effect` is what it
leaves there and what it emits, and `step_spec` that it does nothing else. So the operations on other
facets can be deleted from a sequence, and neither the record of a facet nor its events change.

`AgreeOn` relates two aggregates that have the same record of one facet, and the rest as may be. An
operation on that facet does the same to both (`AgreeOn.step`), and one on another facet can be left
out on either side (`AgreeOn.skip`). The theorem is the induction over a run with these two.
-/

namespace EmailTriage.MailboxWriteback

open Js Runs

/-- The facet an event is about. -/
def DomainEvent.facetType : DomainEvent → FacetType
  | .FacetAppliedToPlatform _ _ _ facetType _ _ => facetType
  | .WriteBackFailed _ _ _ facetType _ _ => facetType
  | .WriteBackDivergenceDetected _ _ _ facetType _ _ _ => facetType

namespace MessageWriteBackState

/-- The facet an operation is about. -/
def Operation.facetType : Operation → FacetType
  | .recordFacetApplication facet => facet.facetType
  | .applyFacet facetType _ _ _ => facetType
  | .recordFacetFailure facetType _ _ => facetType
  | .detectDivergence facetType _ _ => facetType

/-- The events about one facet, in the order in which they were emitted. -/
def eventsOf (a : MessageWriteBackState) (facetType : FacetType) : List DomainEvent :=
  a.domainEvents.filter fun event => event.facetType = facetType

/-- The record an operation leaves for its facet, and the events it emits. -/
def effect (a : MessageWriteBackState) : Operation → Option FacetApplication × List DomainEvent
  | .recordFacetApplication facet => (some facet, [])
  | .applyFacet facetType desiredValue platform now =>
    (some (applied (a.facets facetType) facetType desiredValue now),
      if alreadyApplied (a.facets facetType) desiredValue then []
      else [.FacetAppliedToPlatform a.tenantId a.mailboxId a.messageId facetType platform now])
  | .recordFacetFailure facetType reason now =>
    let updated := failed (a.facets facetType) facetType now
    (some updated,
      [.WriteBackFailed a.tenantId a.mailboxId a.messageId facetType reason updated.retryCount])
  | .detectDivergence facetType observedPlatformState now =>
    match a.facets facetType with
    | none => (none, [])
    | some facet =>
      if sameJson facet.lastKnownPlatformState observedPlatformState then (some facet, [])
      else (some (facet.withPlatformState observedPlatformState),
        [.WriteBackDivergenceDetected a.tenantId a.mailboxId a.messageId facetType
          facet.lastKnownPlatformState observedPlatformState now])

/-- The two aggregates belong to one message. -/
structure SameMessage (a b : MessageWriteBackState) : Prop where
  tenantId : a.tenantId = b.tenantId
  mailboxId : a.mailboxId = b.mailboxId
  messageId : a.messageId = b.messageId

/-- What `detectDivergence` leaves. -/
theorem detectDivergence_effect (a : MessageWriteBackState) (facetType : FacetType)
    (observedPlatformState : Value) (now : ℤ) :
    (a.detectDivergence facetType observedPlatformState now).facets = Function.update a.facets facetType
        (a.effect (.detectDivergence facetType observedPlatformState now)).1 ∧
      (a.detectDivergence facetType observedPlatformState now).domainEvents = a.domainEvents ++
        (a.effect (.detectDivergence facetType observedPlatformState now)).2 ∧
      SameMessage (a.detectDivergence facetType observedPlatformState now) a := by
  unfold detectDivergence effect
  dsimp only
  rcases hfacet : a.facets facetType with _ | facet
  · dsimp only
    refine ⟨?_, (List.append_nil _).symm, rfl, rfl, rfl⟩
    rw [← hfacet, Function.update_eq_self]
  · dsimp only
    split
    · refine ⟨?_, (List.append_nil _).symm, rfl, rfl, rfl⟩
      rw [← hfacet, Function.update_eq_self]
    · exact ⟨rfl, rfl, rfl, rfl, rfl⟩

/-- An operation changes the record of its facet, emits its events, and does nothing else that a record or
an event shows. -/
theorem step_spec (a : MessageWriteBackState) (op : Operation) :
    (a.step op).facets = Function.update a.facets op.facetType (a.effect op).1 ∧
      (a.step op).domainEvents = a.domainEvents ++ (a.effect op).2 ∧ SameMessage (a.step op) a := by
  cases op with
  | recordFacetApplication facet => exact ⟨rfl, (List.append_nil _).symm, rfl, rfl, rfl⟩
  | applyFacet facetType desiredValue platform now =>
    obtain ⟨htenant, hmailbox, hmessage⟩ := a.ids_applyFacet facetType desiredValue platform now
    refine ⟨a.facets_applyFacet facetType desiredValue platform now, ?_, htenant, hmailbox, hmessage⟩
    refine (a.domainEvents_applyFacet facetType desiredValue platform now).trans ?_
    unfold effect
    dsimp only
    split
    · exact (List.append_nil _).symm
    · rfl
  | recordFacetFailure facetType reason now => exact ⟨rfl, rfl, rfl, rfl, rfl⟩
  | detectDivergence facetType observedPlatformState now =>
    exact a.detectDivergence_effect facetType observedPlatformState now

/-- An operation emits events about its own facet only. -/
theorem facetType_of_mem_effect {a : MessageWriteBackState} {op : Operation} {event : DomainEvent}
    (h : event ∈ (a.effect op).2) : event.facetType = op.facetType := by
  cases op with
  | recordFacetApplication facet => cases h
  | applyFacet facetType desiredValue platform now =>
    unfold effect at h
    dsimp only at h
    split at h
    · cases h
    · rw [List.mem_singleton.mp h]
      rfl
  | recordFacetFailure facetType reason now =>
    rw [List.mem_singleton.mp h]
    rfl
  | detectDivergence facetType observedPlatformState now =>
    unfold effect at h
    dsimp only at h
    split at h
    · cases h
    · split at h
      · cases h
      · rw [List.mem_singleton.mp h]
        rfl

/-- The two aggregates of one message agree on a facet: its record, and the events about it. -/
structure AgreeOn (facetType : FacetType) (a b : MessageWriteBackState) : Prop extends
    SameMessage a b where
  facet : a.facets facetType = b.facets facetType
  events : a.eventsOf facetType = b.eventsOf facetType

/-- What an operation does is determined by the message and the record of its facet. -/
theorem effect_congr {a b : MessageWriteBackState} {op : Operation} (h : AgreeOn op.facetType a b) :
    a.effect op = b.effect op := by
  obtain ⟨⟨htenant, hmailbox, hmessage⟩, hfacet, -⟩ := h
  cases op with
  | recordFacetApplication facet => rfl
  | applyFacet facetType desiredValue platform now =>
    have hrecord : a.facets facetType = b.facets facetType := hfacet
    unfold effect
    dsimp only
    rw [hrecord, htenant, hmailbox, hmessage]
  | recordFacetFailure facetType reason now =>
    have hrecord : a.facets facetType = b.facets facetType := hfacet
    unfold effect
    dsimp only
    rw [hrecord, htenant, hmailbox, hmessage]
  | detectDivergence facetType observedPlatformState now =>
    have hrecord : a.facets facetType = b.facets facetType := hfacet
    unfold effect
    dsimp only
    rw [hrecord, htenant, hmailbox, hmessage]

/-- The events about a facet after an operation. -/
theorem eventsOf_step (a : MessageWriteBackState) (op : Operation) (facetType : FacetType) :
    (a.step op).eventsOf facetType = a.eventsOf facetType ++
      (a.effect op).2.filter fun event => event.facetType = facetType := by
  unfold eventsOf
  rw [(a.step_spec op).2.1, List.filter_append]

/-- An operation keeps the agreement on its own facet. -/
theorem AgreeOn.step {facetType : FacetType} {a b : MessageWriteBackState} (h : AgreeOn facetType a b)
    {op : Operation} (hop : op.facetType = facetType) : AgreeOn facetType (a.step op) (b.step op) := by
  subst hop
  obtain ⟨hfacets, -, ha⟩ := a.step_spec op
  obtain ⟨hfacets', -, hb⟩ := b.step_spec op
  have heffect := effect_congr h
  refine ⟨⟨?_, ?_, ?_⟩, ?_, ?_⟩
  · rw [ha.tenantId, h.tenantId, hb.tenantId]
  · rw [ha.mailboxId, h.mailboxId, hb.mailboxId]
  · rw [ha.messageId, h.messageId, hb.messageId]
  · rw [hfacets, hfacets', Function.update_self, Function.update_self, heffect]
  · rw [eventsOf_step, eventsOf_step, h.events, heffect]

/-- An operation on another facet keeps the agreement with the aggregate it was not called on. -/
theorem AgreeOn.skip {facetType : FacetType} {a b : MessageWriteBackState} (h : AgreeOn facetType a b)
    {op : Operation} (hop : op.facetType ≠ facetType) : AgreeOn facetType (a.step op) b := by
  obtain ⟨hfacets, -, ha⟩ := a.step_spec op
  have hnone : ((a.effect op).2.filter fun event => event.facetType = facetType) = [] := by
    rw [List.filter_eq_nil_iff]
    intro event hevent hfacet
    exact hop ((facetType_of_mem_effect hevent).symm.trans (of_decide_eq_true hfacet))
  refine ⟨⟨?_, ?_, ?_⟩, ?_, ?_⟩
  · rw [ha.tenantId, h.tenantId]
  · rw [ha.mailboxId, h.mailboxId]
  · rw [ha.messageId, h.messageId]
  · rw [hfacets, Function.update_of_ne (Ne.symm hop), h.facet]
  · rw [eventsOf_step, hnone, List.append_nil, h.events]

/-- The record of a facet after any operations, and the events about it, are those that the operations on
this facet alone leave. -/
theorem facet_independent (a : MessageWriteBackState) (ops : List Operation) (facetType : FacetType) :
    (ops.foldl step a).facets facetType =
        ((ops.filter fun op => op.facetType = facetType).foldl step a).facets facetType ∧
      (ops.foldl step a).eventsOf facetType =
        ((ops.filter fun op => op.facetType = facetType).foldl step a).eventsOf facetType := by
  have hstart : AgreeOn facetType a a := ⟨⟨rfl, rfl, rfl⟩, rfl, rfl⟩
  have hagree : AgreeOn facetType (ops.foldl step a)
      ((ops.filter fun op => op.facetType = facetType).foldl step a) :=
    foldl_filter (fun _ _ _ h hop => h.step (of_decide_eq_true hop))
      (fun _ _ _ h hop => h.skip (of_decide_eq_false hop)) hstart ops
  exact ⟨hagree.facet, hagree.events⟩

end MessageWriteBackState

end EmailTriage.MailboxWriteback
