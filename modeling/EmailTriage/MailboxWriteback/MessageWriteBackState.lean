import Mathlib.Logic.Function.Basic
import EmailTriage.Lib.JsValue
import EmailTriage.MailboxIngestion.MessageEnvelope

/-!
# The write-back aggregate

`src/mailbox-writeback/domain/`: the aggregate `message-writeback-state.aggregate.ts`, its value object
`facet-application.ts` and its events. For each facet of a message it keeps the value the platform
should show, what the platform showed last, and how the last attempt ended.

`applyFacet` and `recordFacetFailure` keep an existing record and change its status only; `applied` and
`failed` are the records they leave.

The operations do not look at each other's facets. That is proved elsewhere (`FacetIndependence`), but
it is why the lemmas here are about one facet at a time.
-/

namespace EmailTriage.MailboxWriteback

open Js
open MailboxIngestion (Platform)

inductive FacetType where
  | category
  | threat
  | contact
  | priority
deriving DecidableEq

inductive ApplicationStatus where
  | pending
  | applied
  | failed
deriving DecidableEq

inductive FailureReasonType where
  | rate_limited
  | auth_revoked
  | message_deleted
  | platform_error
  | unknown
deriving DecidableEq

structure WriteBackFailureReason where
  type : FailureReasonType
  message : String
  retryable : Bool
deriving DecidableEq

/-! ## Facets

A facet has a desired value, what is known of the platform, a status and the number of its retries.
-/

/-- The record of one facet. The time of the last attempt is in milliseconds. -/
structure FacetApplication where
  facetType : FacetType
  desiredValue : Value
  lastKnownPlatformState : Value
  status : ApplicationStatus
  lastAttemptAt : Option ℤ
  retryCount : ℕ

namespace FacetApplication

def create (facetType : FacetType) (desiredValue : Value) : FacetApplication :=
  ⟨facetType, desiredValue, .null, .pending, none, 0⟩

def withStatus (f : FacetApplication) (status : ApplicationStatus) (attemptAt : ℤ) :
    FacetApplication :=
  { f with
    status, lastAttemptAt := some attemptAt
    retryCount := if status = .failed then f.retryCount + 1 else f.retryCount }

def withPlatformState (f : FacetApplication) (platformState : Value) : FacetApplication :=
  { f with lastKnownPlatformState := platformState }

def isIdempotent (f : FacetApplication) : Bool :=
  f.status = .applied && sameJson f.desiredValue f.lastKnownPlatformState

end FacetApplication

/-- A map from facet types to records. -/
abbrev Facets := FacetType → Option FacetApplication

/-! ## Events

What the aggregate reports.
-/

inductive DomainEvent where
  | FacetAppliedToPlatform (tenantId mailboxId messageId : String) (facetType : FacetType)
      (platform : Platform) (appliedAt : ℤ)
  | WriteBackFailed (tenantId mailboxId messageId : String) (facetType : FacetType)
      (reason : Option WriteBackFailureReason) (retryCount : ℕ)
  | WriteBackDivergenceDetected (tenantId mailboxId messageId : String) (facetType : FacetType)
      (expectedState observedState : Value) (observedAt : ℤ)

/-! ## The aggregate

The operations as the source has them. Values are compared by what they print.
-/

structure MessageWriteBackState where
  tenantId : String
  mailboxId : String
  messageId : String
  facets : Facets
  quarantineActive : Bool
  domainEvents : List DomainEvent

/-- Whether a desired value of the threat facet asks for quarantine. -/
def quarantines (desiredValue : Value) : Bool :=
  (desiredValue.get "quarantined").isBool true || (desiredValue.get "quarantine_locked").isBool true

namespace MessageWriteBackState

def updateQuarantineStatus (a : MessageWriteBackState) : MessageWriteBackState :=
  { a with quarantineActive := (a.facets .threat).any fun threatFacet =>
      quarantines threatFacet.desiredValue }

def create (tenantId mailboxId messageId : String) : MessageWriteBackState :=
  ⟨tenantId, mailboxId, messageId, fun _ => none, false, []⟩

/-- The constructor on stored facets. -/
def new (tenantId mailboxId messageId : String) (facetsData : Facets) : MessageWriteBackState :=
  updateQuarantineStatus ⟨tenantId, mailboxId, messageId, facetsData, false, []⟩

/-- `this.facets.set(facetType, facet)`. -/
def setFacet (a : MessageWriteBackState) (facetType : FacetType) (facet : FacetApplication) :
    MessageWriteBackState :=
  { a with facets := Function.update a.facets facetType (some facet) }

/-- `this.domainEvents.push(event)`. -/
def push (a : MessageWriteBackState) (event : DomainEvent) : MessageWriteBackState :=
  { a with domainEvents := a.domainEvents ++ [event] }

def recordFacetApplication (a : MessageWriteBackState) (facet : FacetApplication) :
    MessageWriteBackState :=
  (a.setFacet facet.facetType facet).updateQuarantineStatus

/-- Whether a record says that a value is applied already. -/
def alreadyApplied (existing : Option FacetApplication) (desiredValue : Value) : Bool :=
  existing.any fun existing =>
    sameJson existing.desiredValue desiredValue && existing.status = .applied

def applyFacet (a : MessageWriteBackState) (facetType : FacetType) (desiredValue : Value)
    (platform : Platform) (now : ℤ) : MessageWriteBackState :=
  let existing := a.facets facetType
  if alreadyApplied existing desiredValue then a
  else
    let facet := existing.getD (.create facetType desiredValue)
    (a.setFacet facetType (facet.withStatus .applied now)).push
      (.FacetAppliedToPlatform a.tenantId a.mailboxId a.messageId facetType platform now)

def recordFacetFailure (a : MessageWriteBackState) (facetType : FacetType)
    (reason : Option WriteBackFailureReason) (now : ℤ) : MessageWriteBackState :=
  let facet := (a.facets facetType).getD (.create facetType (.obj []))
  let updated := facet.withStatus .failed now
  (a.setFacet facetType updated).push
    (.WriteBackFailed a.tenantId a.mailboxId a.messageId facetType reason updated.retryCount)

def detectDivergence (a : MessageWriteBackState) (facetType : FacetType)
    (observedPlatformState : Value) (now : ℤ) : MessageWriteBackState :=
  match a.facets facetType with
  | none => a
  | some facet =>
    if sameJson facet.lastKnownPlatformState observedPlatformState then a
    else
      (a.push (.WriteBackDivergenceDetected a.tenantId a.mailboxId a.messageId facetType
        facet.lastKnownPlatformState observedPlatformState now)).setFacet facetType
          (facet.withPlatformState observedPlatformState)

def shouldSuppressFacet (a : MessageWriteBackState) (facetType : FacetType) : Bool :=
  if !a.quarantineActive || facetType = .threat then false else true

/-! ## The records the operations leave

An application and a failure as functions of the record before.
-/

/-- The record `applyFacet` leaves of an existing one. -/
def applied (existing : Option FacetApplication) (facetType : FacetType) (desiredValue : Value)
    (now : ℤ) : FacetApplication :=
  let facet := existing.getD (.create facetType desiredValue)
  if alreadyApplied existing desiredValue then facet else facet.withStatus .applied now

/-- The record `recordFacetFailure` leaves of an existing one. -/
def failed (existing : Option FacetApplication) (facetType : FacetType) (now : ℤ) :
    FacetApplication :=
  (existing.getD (.create facetType (.obj []))).withStatus .failed now

/-- A value that is applied already has a record. -/
theorem exists_of_alreadyApplied {existing : Option FacetApplication} {desiredValue : Value}
    (h : alreadyApplied existing desiredValue = true) :
    ∃ facet, existing = some facet ∧ sameJson facet.desiredValue desiredValue = true ∧
      facet.status = .applied := by
  rcases existing with _ | facet
  · cases h
  have hsame : (sameJson facet.desiredValue desiredValue && facet.status = .applied) = true := h
  simp only [Bool.and_eq_true, decide_eq_true_eq] at hsame
  exact ⟨facet, rfl, hsame.1, hsame.2⟩

/-- `applyFacet` sets the record of its facet and leaves the other facets alone. -/
theorem facets_applyFacet (a : MessageWriteBackState) (facetType : FacetType)
    (desiredValue : Value) (platform : Platform) (now : ℤ) :
    (a.applyFacet facetType desiredValue platform now).facets = Function.update a.facets facetType
      (some (applied (a.facets facetType) facetType desiredValue now)) := by
  unfold applyFacet applied
  by_cases h : alreadyApplied (a.facets facetType) desiredValue = true
  · obtain ⟨facet, hfacet, -⟩ := exists_of_alreadyApplied h
    simp only [h, if_true]
    rw [hfacet, Option.getD_some, ← hfacet, Function.update_eq_self]
  · simp only [h]
    rfl

/-- A failure changes the facet that failed. -/
theorem facets_recordFacetFailure (a : MessageWriteBackState) (facetType : FacetType)
    (reason : Option WriteBackFailureReason) (now : ℤ) :
    (a.recordFacetFailure facetType reason now).facets =
      Function.update a.facets facetType (some (failed (a.facets facetType) facetType now)) := rfl

/-- `applyFacet` emits one event, unless the value is applied already. -/
theorem domainEvents_applyFacet (a : MessageWriteBackState) (facetType : FacetType)
    (desiredValue : Value) (platform : Platform) (now : ℤ) :
    (a.applyFacet facetType desiredValue platform now).domainEvents =
      if alreadyApplied (a.facets facetType) desiredValue then a.domainEvents
      else a.domainEvents ++ [.FacetAppliedToPlatform a.tenantId a.mailboxId a.messageId facetType
        platform now] := by
  unfold applyFacet
  by_cases h : alreadyApplied (a.facets facetType) desiredValue = true <;> simp [h, push, setFacet]

/-- No operation changes the desired value of a record that is there. -/
theorem desiredValue_applied (existing : Option FacetApplication) (facetType : FacetType)
    (desiredValue : Value) (now : ℤ) :
    (applied existing facetType desiredValue now).desiredValue =
      (existing.map (·.desiredValue)).getD desiredValue := by
  unfold applied
  rcases existing with _ | facet <;> simp only <;> split <;> rfl

/-- A facet that failed keeps its value, or has none. -/
theorem desiredValue_failed (existing : Option FacetApplication) (facetType : FacetType)
    (now : ℤ) : (failed existing facetType now).desiredValue =
      (existing.map (·.desiredValue)).getD (.obj []) := by
  rcases existing with _ | facet <;> rfl

/-- A facet is applied after `applyFacet`. -/
theorem status_applied (existing : Option FacetApplication) (facetType : FacetType)
    (desiredValue : Value) (now : ℤ) :
    (applied existing facetType desiredValue now).status = .applied := by
  unfold applied
  split
  · next h =>
    obtain ⟨facet, hfacet, -, hstatus⟩ := exists_of_alreadyApplied h
    rw [hfacet]
    exact hstatus
  · rfl

/-- After `applyFacet`, the value counts as applied unless the record kept another one. -/
theorem alreadyApplied_applied (existing : Option FacetApplication) (facetType : FacetType)
    (desiredValue : Value) (now : ℤ) :
    alreadyApplied (some (applied existing facetType desiredValue now)) desiredValue =
      sameJson ((existing.map (·.desiredValue)).getD desiredValue) desiredValue := by
  simp [alreadyApplied, desiredValue_applied, status_applied]

end MessageWriteBackState

end EmailTriage.MailboxWriteback
