import EmailTriage.Lib.Table
import EmailTriage.FeedbackLearning.CorrectionRecord

/-!
# Storing correction records

`src/feedback-learning/infrastructure/repositories/correction-record.repository.ts` over the table
`correction_records`, which has no unique key beside its id: several rows may belong to one message,
and `findFirst` answers with any of them.

`save` writes the snapshot to the column `verdict`; the evidence goes to no column but for its source.
`fromDb` reads the evidence back out of `verdict`, where it never was. The public API writes to the same
column, under keys of its own.
-/

namespace EmailTriage.FeedbackLearning

open Js Db

/-- The verdict that the public API writes for the correction it is sent. -/
def submittedVerdict (correction : Value) : Value :=
  .obj [("context", correction.get "context"), ("original_verdict", correction.get "original_verdict"),
    ("corrected_verdict", correction.get "corrected_verdict")]

/-- The content of the column `verdict`: a snapshot, as `toDb` writes it, or what the API writes. -/
structure VerdictColumn where
  value : Value
  written : (∃ s : VerdictSnapshot, value = s.toDb) ∨ ∃ correction, value = submittedVerdict correction

/-- A row of `correction_records`. -/
structure CorrectionRecordRow where
  id : String
  tenant_id : String
  message_id : String
  verdict : VerdictColumn
  source : String
  state : CorrectionState
  created_at : ℤ

instance : Schema CorrectionRecordRow String String where
  id := CorrectionRecordRow.id
  key := CorrectionRecordRow.id

/-- The table `correction_records`. -/
abbrev CorrectionRecordTable := Table CorrectionRecordRow

/-- `CorrectionRecord.fromDb`. -/
def CorrectionRecord.fromDb (uuid : String) (data : CorrectionRecordRow) : Option CorrectionRecord := do
  let evidence ← CorrectionEvidence.fromDb data.verdict.value
  return new uuid data.tenant_id data.message_id (VerdictSnapshot.fromDb data.verdict.value)
    evidence (some data.id) data.state

namespace CorrectionRecordRepository

/-- The row `save` looks for. -/
def isRecordOf (tenantId messageId : String) (r : CorrectionRecordRow) : Bool :=
  r.tenant_id = tenantId && r.message_id = messageId

/-- What a column takes from an argument: `undefined` leaves `stored`, and what is not a string is
a database error. -/
def sourceColumn (stored : String) : Value → Option String
  | .undefined => some stored
  | .str s => some s
  | _ => none

/-- The columns `save` updates. -/
def updateData (a : CorrectionRecord) (source : String) : Patch CorrectionRecordRow where
  apply r := { r with
    verdict := ⟨a.verdictSnapshot.toDb, .inl ⟨a.verdictSnapshot, rfl⟩⟩, source, state := a.toDb.state }
  id_apply _ := rfl
  key_apply _ := rfl

/-- `save`; `none` is a database error. -/
def save (t : CorrectionRecordTable) (pick : ℕ) (now : ℤ) (newId : String) (a : CorrectionRecord)
    (tenantId : String) : Option CorrectionRecordTable := do
  match t.findFirst pick (isRecordOf tenantId a.messageId) with
  | some existing =>
    let source ← sourceColumn existing.source a.toDb.source.value
    t.update existing.id (updateData a source)
  | none =>
    let source ← sourceColumn "explicit_user_action" a.toDb.source.value
    t.create
      { id := newId, tenant_id := tenantId, message_id := a.messageId
        verdict := ⟨a.verdictSnapshot.toDb, .inl ⟨a.verdictSnapshot, rfl⟩⟩
        source, state := a.toDb.state, created_at := now }

def findByMessageId (t : CorrectionRecordTable) (pick : ℕ) (uuid tenantId messageId : String) :
    Option CorrectionRecord :=
  (t.findFirst pick (isRecordOf tenantId messageId)).bind (CorrectionRecord.fromDb uuid)

end CorrectionRecordRepository

/-! ## What comes back

A row has a column for the source, and the evidence that is read takes its default instead.
-/

/-- The evidence read out of a verdict: no source, no time, no corroboration. -/
theorem CorrectionEvidence.fromDb_verdict (c : VerdictColumn) :
    fromDb c.value = some ⟨⟨.undefined⟩, ⟨.undefined⟩, 0⟩ := by
  obtain ⟨v, ⟨s, rfl⟩ | ⟨correction, rfl⟩⟩ := c
  · have hcount : (VerdictSnapshot.toDb s).get "corroborationCount" = .undefined := by
      simp [VerdictSnapshot.toDb]
    simp only [fromDb, hcount]
    simp [new, VerdictSnapshot.toDb]
  · have hcount : (submittedVerdict correction).get "corroborationCount" = .undefined := by
      simp [submittedVerdict]
    simp only [fromDb, hcount]
    simp [new, submittedVerdict]

/-- Every row loads, with its snapshot and its state but without evidence. -/
theorem CorrectionRecord.fromDb_eq (uuid : String) (r : CorrectionRecordRow) :
    fromDb uuid r = some (new uuid r.tenant_id r.message_id (VerdictSnapshot.fromDb r.verdict.value)
      ⟨⟨.undefined⟩, ⟨.undefined⟩, 0⟩ (some r.id) r.state) := by
  rw [fromDb, CorrectionEvidence.fromDb_verdict]
  rfl

/-- A loaded record has no source. -/
theorem source_of_findByMessageId {t : CorrectionRecordTable} {pick : ℕ}
    {uuid tenantId messageId : String} {b : CorrectionRecord}
    (h : CorrectionRecordRepository.findByMessageId t pick uuid tenantId messageId = some b) :
    b.evidence.source = ⟨.undefined⟩ := by
  obtain ⟨r, -, hb⟩ := Option.bind_eq_some_iff.mp h
  rw [CorrectionRecord.fromDb_eq, Option.some.injEq] at hb
  rw [← hb]
  rfl

/-- A loaded record is trusted, whatever its evidence was. -/
theorem isTrusted_of_findByMessageId {t : CorrectionRecordTable} {pick : ℕ}
    {uuid tenantId messageId : String} {b : CorrectionRecord}
    (h : CorrectionRecordRepository.findByMessageId t pick uuid tenantId messageId = some b) :
    b.isTrusted = true := by
  have hsource := source_of_findByMessageId h
  have htrust : b.evidence.isHighTrust = true := by
    rw [CorrectionEvidence.isHighTrust, hsource]
    rfl
  rw [CorrectionRecord.isTrusted, htrust, Bool.true_or]

/-! ## The round trip

A correction that is saved and loaded is never the same.
-/

/-- Two records agree in everything that decides how a correction is used. -/
structure SameCorrection (a b : CorrectionRecord) : Prop where
  source : b.evidence.source = a.evidence.source
  corroborationCount : b.evidence.corroborationCount = a.evidence.corroborationCount
  observedAt : b.evidence.observedAt = a.evidence.observedAt
  state : b.state = a.state
  originalVerdict : b.verdictSnapshot.originalVerdict = a.verdictSnapshot.originalVerdict
  correctedVerdict : b.verdictSnapshot.correctedVerdict = a.verdictSnapshot.correctedVerdict
  isTrusted : b.isTrusted = a.isTrusted

/-- A save that succeeds, and a load after it that gives the record back. -/
def RoundTrips (t : CorrectionRecordTable) (pick pick' : ℕ) (now : ℤ) (newId uuid : String)
    (a : CorrectionRecord) (tenantId : String) : Prop :=
  ∃ t' b, CorrectionRecordRepository.save t pick now newId a tenantId = some t' ∧
    CorrectionRecordRepository.findByMessageId t' pick' uuid tenantId a.messageId = some b ∧
    SameCorrection a b

/-- No record that `create` and the operations lead to survives a save and a load. -/
theorem not_roundTrips (uuid : String) (createdAt : ℤ) (tenantId messageId : String)
    (verdictSnapshot : VerdictSnapshot) (source : CorrectionSource)
    (ops : List CorrectionRecord.Op) (t : CorrectionRecordTable) (pick pick' : ℕ) (now : ℤ)
    (newId uuid' savedTenantId : String) :
    ¬RoundTrips t pick pick' now newId uuid'
      ((CorrectionRecord.create uuid createdAt tenantId messageId verdictSnapshot source).run ops)
      savedTenantId := by
  rintro ⟨t', b, -, hb, hsame⟩
  have hsource := hsame.source
  rw [source_of_findByMessageId hb, CorrectionRecord.source_run] at hsource
  have hvalue : Value.undefined = toValue source := congrArg Dyn.value hsource
  cases source <;> cases hvalue

/-- A passively inferred spam correction. -/
def passiveCandidate : CorrectionRecord :=
  CorrectionRecord.create "record" 0 "tenant" "message"
    ⟨.of .classification, .of "message", .str "NOT_SPAM", .str "SPAM", ⟨.date (some 0)⟩⟩
    .passive_inferred

/-- The candidate is not trusted, but it is saved, found and trusted after that. -/
theorem not_roundTrips_passiveCandidate : passiveCandidate.isTrusted = false ∧
    ∃ t' b, CorrectionRecordRepository.save Table.empty 0 1 "row" passiveCandidate "tenant" = some t' ∧
      CorrectionRecordRepository.findByMessageId t' 0 "record" "tenant" "message" = some b ∧
      b.isTrusted = true ∧ ¬SameCorrection passiveCandidate b := by
  have hbefore : passiveCandidate.isTrusted = false := by decide
  refine ⟨hbefore, _, _, rfl, rfl, rfl, fun hsame => ?_⟩
  have htrusted := hsame.isTrusted
  rw [hbefore] at htrusted
  exact absurd htrusted (by decide)

end EmailTriage.FeedbackLearning
