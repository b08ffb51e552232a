import EmailTriage.MailboxWriteback.MessageWriteBackRepository

/-!
# The write-back service

`src/mailbox-writeback/application/services/message-writeback.service.ts`: load or create the state
of the message, call the adapter of the platform, record how that went, and save. What the adapter
answers is part of a `Call`. The `stored_step` lemmas are the whole effect of one call on the stored
records.

The adapter is called before anything is compared, whatever is stored. A call that throws may have
loaded or created the state, and still changes no record.
-/

namespace EmailTriage.MailboxWriteback

open Js Db MessageWriteBackStateRepository
open MailboxIngestion (Platform)

/-- The arguments that say which message a call is about. -/
structure MessageRef where
  tenantId : String
  mailboxId : String
  messageId : String

/-- The stored records of a message. -/
def stored (t : MessageWriteBackStateTable) (m : MessageRef) : Facets :=
  facetAt t (m.tenantId, m.mailboxId, m.messageId)

/-- What an adapter answers. -/
structure ApplyFacetResult where
  success : Bool
  failure : Option WriteBackFailureReason

/-- A call of the service on one message: the arguments, what the adapter does (it may throw), and
the time at which it has answered. -/
structure Call where
  facetType : FacetType
  desiredValue : Value
  platform : Platform
  adapter : Except Exception ApplyFacetResult
  now : ℤ

/-- What one call did: the database when the adapter was called, if it was, the database at the end,
and the events the aggregate emitted. -/
structure Outcome where
  atAdapterCall : Option MessageWriteBackStateTable
  table : MessageWriteBackStateTable
  domainEvents : List DomainEvent

namespace Call

/-- The adapter applied the value. -/
def Succeeded (c : Call) : Prop := ∃ result, c.adapter = .ok result ∧ result.success = true

/-- The aggregate once the adapter has answered. -/
def record (c : Call) (result : ApplyFacetResult) (a : MessageWriteBackState) :
    MessageWriteBackState :=
  if result.success then a.applyFacet c.facetType c.desiredValue c.platform c.now
  else a.recordFacetFailure c.facetType result.failure c.now

/-- The record the call leaves of an existing one. -/
def recordOf (c : Call) (result : ApplyFacetResult) (existing : Option FacetApplication) :
    FacetApplication :=
  if result.success then MessageWriteBackState.applied existing c.facetType c.desiredValue c.now
  else MessageWriteBackState.failed existing c.facetType c.now

/-- An answer is recorded for the facet of the call and for no other one. -/
theorem facets_record (c : Call) (result : ApplyFacetResult) (a : MessageWriteBackState) :
    (c.record result a).facets = Function.update a.facets c.facetType
      (some (c.recordOf result (a.facets c.facetType))) := by
  unfold record recordOf
  split_ifs
  · exact a.facets_applyFacet c.facetType c.desiredValue c.platform c.now
  · exact a.facets_recordFacetFailure c.facetType result.failure c.now

/-- Recording keeps the aggregate the aggregate of its message. -/
theorem key_record (c : Call) (result : ApplyFacetResult) (a : MessageWriteBackState) :
    (c.record result a).mailboxId = a.mailboxId ∧ (c.record result a).messageId = a.messageId := by
  unfold record MessageWriteBackState.applyFacet MessageWriteBackState.recordFacetFailure
  dsimp only
  split_ifs <;> exact ⟨rfl, rfl⟩

end Call

namespace MessageWriteBackService

variable (column : Jsonb) (m : MessageRef)

/-- `applyFacet`. -/
def applyFacet (t : MessageWriteBackStateTable) (c : Call) : Outcome :=
  match findOrCreateByMessageId column t m.tenantId m.mailboxId m.messageId with
  | none => ⟨none, t, []⟩
  | some (t₁, aggregate) =>
    match c.adapter with
    | .error _ => ⟨some t₁, t₁, []⟩
    | .ok result =>
      let aggregate := c.record result aggregate
      match save column t₁ aggregate m.tenantId with
      | none => ⟨some t₁, t₁, aggregate.domainEvents⟩
      | some t₂ => ⟨some t₁, t₂, aggregate.domainEvents⟩

/-- The database after a call. -/
def step (t : MessageWriteBackStateTable) (c : Call) : MessageWriteBackStateTable :=
  (applyFacet column m t c).table

/-- The database after a sequence of calls, one after another. -/
def run (t : MessageWriteBackStateTable) (calls : List Call) : MessageWriteBackStateTable :=
  calls.foldl (step column m) t

variable {m}

/-- Every call reaches the adapter, before it has changed any stored record. -/
theorem atAdapterCall_applyFacet (t : MessageWriteBackStateTable) (c : Call) :
    ∃ t₁, (applyFacet column m t c).atAdapterCall = some t₁ ∧ stored t₁ m = stored t m := by
  obtain ⟨t₁, a, hload, -, -, -, -, -, hstored⟩ :=
    @findOrCreate_spec column t m.tenantId m.mailboxId m.messageId
  refine ⟨t₁, ?_, hstored⟩
  unfold applyFacet
  simp only [hload]
  split
  · rfl
  · split <;> rfl

/-- A call whose adapter throws changes no stored record. -/
theorem stored_step_of_error (t : MessageWriteBackStateTable) {c : Call} {e : Exception}
    (he : c.adapter = .error e) : stored (step column m t c) m = stored t m := by
  obtain ⟨t₁, a, hload, -, -, -, -, -, hstored⟩ :=
    @findOrCreate_spec column t m.tenantId m.mailboxId m.messageId
  have htable : step column m t c = t₁ := by
    unfold step applyFacet
    simp only [hload, he]
  rw [htable]
  exact hstored

/-- A call whose adapter answers stores the new record of its facet, and the others once more. -/
theorem stored_step_of_ok (t : MessageWriteBackStateTable) {c : Call} {result : ApplyFacetResult}
    (hresult : c.adapter = .ok result) (facetType : FacetType) :
    stored (step column m t c) m facetType =
      if facetType = c.facetType then
        some ((c.recordOf result (stored t m facetType)).stored column)
      else (stored t m facetType).map (·.stored column) := by
  obtain ⟨t₁, a, hload, -, hmailbox, hmessage, -, hfacets, -⟩ :=
    @findOrCreate_spec column t m.tenantId m.mailboxId m.messageId
  obtain ⟨t₂, hsave, hsaved⟩ := @save_spec column t₁ (c.record result a) m.tenantId
  have htable : step column m t c = t₂ := by
    unfold step applyFacet
    simp only [hload, hresult, hsave]
  obtain ⟨hmailbox', hmessage'⟩ := c.key_record result a
  have h := hsaved facetType
  rw [hmailbox', hmailbox, hmessage', hmessage, c.facets_record result a, hfacets] at h
  rw [htable]
  unfold stored
  rw [h]
  by_cases hfacet : facetType = c.facetType
  · rw [if_pos hfacet, hfacet, Function.update_self, Option.map_some]
  · rw [if_neg hfacet, Function.update_of_ne hfacet]

/-- The events of a call whose adapter answered are those of the aggregate that was loaded. -/
theorem domainEvents_applyFacet (t : MessageWriteBackStateTable) {c : Call}
    {result : ApplyFacetResult} (hresult : c.adapter = .ok result) :
    ∃ a : MessageWriteBackState, a.domainEvents = [] ∧ a.facets = stored t m ∧
      (applyFacet column m t c).domainEvents = (c.record result a).domainEvents := by
  obtain ⟨t₁, a, hload, -, -, -, hevents, hfacets, -⟩ :=
    @findOrCreate_spec column t m.tenantId m.mailboxId m.messageId
  refine ⟨a, hevents, hfacets, ?_⟩
  unfold applyFacet
  simp only [hload, hresult]
  split <;> rfl

end MessageWriteBackService

end EmailTriage.MailboxWriteback
