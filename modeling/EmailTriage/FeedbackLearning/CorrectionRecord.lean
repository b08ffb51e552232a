import EmailTriage.Lib.Codec

/-!
# Correction records

`src/feedback-learning/domain/`: the aggregate `correction-record.aggregate.ts` with its value objects
`verdict-snapshot.ts` and `correction-evidence.ts`. The record keeps what a verdict was and what it was
corrected to, and the evidence for the correction; a passively inferred correction is a candidate until
it is confirmed or corroborated.

All three have a `fromDb` that reads its fields out of `any`. Such a field is a `Dyn`.

`create` makes a record from a verdict and a source, and the operations on it change nothing but the
evidence and the time of the last change (`source_run`). The codecs are written as they are in the
source, also where two of them do not fit.
-/

namespace EmailTriage.FeedbackLearning

open Js

/-! ## Verdict snapshots

What was decided about a message and what it was corrected to. The verdicts are values that nothing
checks.
-/

inductive Verdict where
  | classification
  | priority
  | threat
  | contact
deriving DecidableEq

instance : Codec Verdict where
  toValue
    | .classification => .str "classification"
    | .priority => .str "priority"
    | .threat => .str "threat"
    | .contact => .str "contact"
  ofValue
    | .str "classification" => some .classification
    | .str "priority" => some .priority
    | .str "threat" => some .threat
    | .str "contact" => some .contact
    | _ => none
  ofValue_toValue a := by cases a <;> rfl
  orElse_toValue a _ := by cases a <;> rfl

structure VerdictSnapshot where
  originatingContext : Dyn Verdict
  messageId : Dyn String
  originalVerdict : Value
  correctedVerdict : Value
  capturedAt : Dyn Date

namespace VerdictSnapshot

def isDifferent (s : VerdictSnapshot) : Bool := !sameJson s.originalVerdict s.correctedVerdict

def toDb (s : VerdictSnapshot) : Value :=
  .obj [("originatingContext", s.originatingContext.value), ("messageId", s.messageId.value),
    ("originalVerdict", s.originalVerdict), ("correctedVerdict", s.correctedVerdict),
    ("capturedAt", s.capturedAt.value)]

def fromDb (data : Value) : VerdictSnapshot where
  originatingContext := ⟨data.get "originatingContext"⟩
  messageId := ⟨data.get "messageId"⟩
  originalVerdict := data.get "originalVerdict"
  correctedVerdict := data.get "correctedVerdict"
  capturedAt := ⟨data.get "capturedAt"⟩

@[simp] theorem fromDb_toDb (s : VerdictSnapshot) : fromDb s.toDb = s := by
  simp [fromDb, toDb]

end VerdictSnapshot

/-! ## Evidence

Where a correction comes from, and how often it was corroborated.
-/

inductive CorrectionSource where
  | passive_inferred
  | explicit_user_action
  | admin_override
deriving DecidableEq

instance : Codec CorrectionSource where
  toValue
    | .passive_inferred => .str "passive_inferred"
    | .explicit_user_action => .str "explicit_user_action"
    | .admin_override => .str "admin_override"
  ofValue
    | .str "passive_inferred" => some .passive_inferred
    | .str "explicit_user_action" => some .explicit_user_action
    | .str "admin_override" => some .admin_override
    | _ => none
  ofValue_toValue a := by cases a <;> rfl
  orElse_toValue a _ := by cases a <;> rfl

inductive CorrectionState where
  | candidate
  | confirmed
  | processed
deriving DecidableEq

structure CorrectionEvidence where
  source : Dyn CorrectionSource
  observedAt : Dyn Date
  corroborationCount : ℚ

namespace CorrectionEvidence

/-- `new CorrectionEvidence(source, observedAt)`, with the default count. -/
def new (source : Dyn CorrectionSource) (observedAt : Dyn Date) : CorrectionEvidence :=
  ⟨source, observedAt, 0⟩

def isHighTrust (e : CorrectionEvidence) : Bool := !e.source.is .passive_inferred

def requiresAdminOverride (e : CorrectionEvidence) : Bool := e.source.is .admin_override

def toDb (e : CorrectionEvidence) : Value :=
  .obj [("source", e.source.value), ("observedAt", e.observedAt.value),
    ("corroborationCount", toValue e.corroborationCount)]

/-- `none` where the count is not a number; a missing count takes the default. -/
def fromDb (data : Value) : Option CorrectionEvidence :=
  match data.get "corroborationCount" with
  | .undefined => some (new ⟨data.get "source"⟩ ⟨data.get "observedAt"⟩)
  | .num count => some ⟨⟨data.get "source"⟩, ⟨data.get "observedAt"⟩, count⟩
  | _ => none

/-- Evidence that is written as evidence comes back. -/
theorem fromDb_toDb (e : CorrectionEvidence) : fromDb e.toDb = some e := by
  have hcount : (toDb e).get "corroborationCount" = .num e.corroborationCount := by
    simp [toDb, toValue]
  rw [fromDb, hcount]
  simp [toDb]

def withAdditionalCorroboration (e : CorrectionEvidence) : CorrectionEvidence :=
  ⟨e.source, e.observedAt, e.corroborationCount + 1⟩

end CorrectionEvidence

/-! ## The aggregate

A correction of a user is trusted at once; an inferred one is a candidate that has to be confirmed.
-/

structure CorrectionRecord where
  id : String
  tenantId : String
  messageId : String
  verdictSnapshot : VerdictSnapshot
  evidence : CorrectionEvidence
  state : CorrectionState

/-- The object `CorrectionRecord.toDb` builds. -/
structure CorrectionRecordData where
  id : String
  tenant_id : String
  message_id : String
  verdict : Value
  source : Dyn CorrectionSource
  state : CorrectionState
  created_at : Dyn Date

namespace CorrectionRecord

/-- The constructor; `uuid` is what `randomUUID` returns, used where the id is missing or empty. -/
def new (uuid tenantId messageId : String) (verdictSnapshot : VerdictSnapshot)
    (evidence : CorrectionEvidence) (id : Option String) (state : CorrectionState) :
    CorrectionRecord :=
  { id := if id.getD "" ≠ "" then id.getD "" else uuid
    tenantId, messageId, verdictSnapshot, evidence, state }

def create (uuid : String) (now : ℤ) (tenantId messageId : String)
    (verdictSnapshot : VerdictSnapshot) (source : CorrectionSource) : CorrectionRecord :=
  let evidence := CorrectionEvidence.new (.of source) ⟨.date (some now)⟩
  let initialState := if source = .passive_inferred then .candidate else .confirmed
  new uuid tenantId messageId verdictSnapshot evidence none initialState

def confirmCandidate (r : CorrectionRecord) : CorrectionRecord :=
  if r.state = .candidate then { r with state := .confirmed } else r

def markProcessed (r : CorrectionRecord) : CorrectionRecord :=
  if r.state = .confirmed then { r with state := .processed } else r

def corroborate (r : CorrectionRecord) : CorrectionRecord :=
  if r.state = .candidate then
    let r := { r with evidence := r.evidence.withAdditionalCorroboration }
    if r.evidence.corroborationCount ≥ 2 then r.confirmCandidate else r
  else r

def isTrusted (r : CorrectionRecord) : Bool := r.evidence.isHighTrust || r.state = .confirmed

def isDifferent (r : CorrectionRecord) : Bool := r.verdictSnapshot.isDifferent

def toDb (r : CorrectionRecord) : CorrectionRecordData where
  id := r.id
  tenant_id := r.tenantId
  message_id := r.messageId
  verdict := r.verdictSnapshot.toDb
  source := r.evidence.source
  state := r.state
  created_at := r.verdictSnapshot.capturedAt

/-! ## Runs

The operations on one record. The source never changes.
-/

/-- The operations of a record. -/
inductive Op where
  | corroborate
  | confirmCandidate
  | markProcessed

def step (r : CorrectionRecord) : Op → CorrectionRecord
  | .corroborate => r.corroborate
  | .confirmCandidate => r.confirmCandidate
  | .markProcessed => r.markProcessed

def run (r : CorrectionRecord) (ops : List Op) : CorrectionRecord := ops.foldl step r

/-- No operation changes where the correction came from. -/
theorem source_step (r : CorrectionRecord) (op : Op) :
    (r.step op).evidence.source = r.evidence.source := by
  cases op with
  | corroborate =>
    simp only [step, corroborate, confirmCandidate, CorrectionEvidence.withAdditionalCorroboration]
    split_ifs <;> rfl
  | confirmCandidate =>
    simp only [step, confirmCandidate]
    split_ifs <;> rfl
  | markProcessed =>
    simp only [step, markProcessed]
    split_ifs <;> rfl

/-- Nothing that is done with a record changes its source. -/
theorem source_run (r : CorrectionRecord) (ops : List Op) :
    (r.run ops).evidence.source = r.evidence.source := by
  induction ops generalizing r with
  | nil => rfl
  | cons op ops ih =>
    have h : (r.run (op :: ops)).evidence.source = ((r.step op).run ops).evidence.source := rfl
    rw [h, ih, source_step]

end CorrectionRecord

end EmailTriage.FeedbackLearning
