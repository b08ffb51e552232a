import EmailTriage.Api.Controllers

/-!
# Corrections submitted to the API

`MessagesController.submitCorrection` and `CorrectionRecordRepository.findByMessageId` meet in the
column `verdict` of `correction_records`: the one writes `context`, `original_verdict` and
`corrected_verdict`, the other reads `originatingContext`, `originalVerdict` and `correctedVerdict`,
and reads the source of the correction there, too. `submitted_unreadable` says what becomes of every
correction on that way.

Neither side of the column checks what it reads or writes, so a record comes back in every case, but
with none of the contents. `SaysNothing` is what it comes back with: no verdicts, no context and no
source, and so no difference between the verdicts either.
-/

namespace EmailTriage.Api

open Js Db
open FeedbackLearning

/-- The record of a correction as its body and the controller have it. -/
structure ReadsAsSubmitted (correction : Value) (record : CorrectionRecord) : Prop where
  originatingContext : record.verdictSnapshot.originatingContext.value = correction.get "context"
  originalVerdict : record.verdictSnapshot.originalVerdict = correction.get "original_verdict"
  correctedVerdict : record.verdictSnapshot.correctedVerdict = correction.get "corrected_verdict"
  source : record.evidence.source = .of .explicit_user_action
  isDifferent : record.isDifferent = true ↔
    sameJson (correction.get "original_verdict") (correction.get "corrected_verdict") = false

/-- A record that says nothing about its correction. -/
structure SaysNothing (record : CorrectionRecord) : Prop where
  originatingContext : record.verdictSnapshot.originatingContext.value = .undefined
  originalVerdict : record.verdictSnapshot.originalVerdict = .undefined
  correctedVerdict : record.verdictSnapshot.correctedVerdict = .undefined
  source : record.evidence.source.value = .undefined
  isDifferent : record.isDifferent = false

/-- The reader finds none of its keys in what the API writes. -/
theorem saysNothing_fromDb {uuid : String} {row : CorrectionRecordRow} {record : CorrectionRecord}
    {correction : Value} (hrow : row.verdict.value = submittedVerdict correction)
    (h : CorrectionRecord.fromDb uuid row = some record) : SaysNothing record := by
  rw [CorrectionRecord.fromDb_eq, Option.some.injEq] at h
  subst h
  have horiginal : (submittedVerdict correction).get "originalVerdict" = .undefined := by
    simp [submittedVerdict]
  have hcorrected : (submittedVerdict correction).get "correctedVerdict" = .undefined := by
    simp [submittedVerdict]
  have hcontext : (submittedVerdict correction).get "originatingContext" = .undefined := by
    simp [submittedVerdict]
  unfold VerdictSnapshot.fromDb
  rw [hrow, horiginal, hcorrected, hcontext]
  exact ⟨rfl, rfl, rfl, rfl, rfl⟩

section

variable {env : Surroundings} {tenantId messageId tenant id : String} {correction answer : Value}
  {d d' : Database}

/-- The message is looked up without any change. -/
theorem findMessage_unchanged {message : MessageRow}
    (h : MessagesController.findMessage env tenantId messageId d = .ok message d') : d = d' := by
  unfold MessagesController.findMessage at h
  obtain ⟨u, d₁, hu, h⟩ := bind_eq_ok.mp h
  obtain ⟨-, rfl⟩ := uuid_eq_ok.mp hu
  obtain ⟨found, d₂, hfound, h⟩ := bind_eq_ok.mp h
  obtain rfl : d = d₂ := (EStateM.Result.ok.inj hfound).2
  rcases found with _ | message'
  · cases h
  · exact (pure_eq_ok.mp h).2

/-- A correction that is accepted becomes one new row. -/
theorem rows_submitCorrection
    (h : MessagesController.submitCorrection env tenantId messageId correction d = .ok answer d')
    (htenant : env.uuid tenantId = some tenant) (hid : env.uuid messageId = some id) :
    ∃ row : CorrectionRecordRow, d'.correctionRecords.rows = d.correctionRecords.rows ++ [row] ∧
      row.tenant_id = tenant ∧ row.message_id = id ∧
      row.verdict.value = submittedVerdict correction := by
  unfold MessagesController.submitCorrection at h
  obtain ⟨message, d₁, hmessage, h⟩ := bind_eq_ok.mp h
  obtain rfl := findMessage_unchanged hmessage
  obtain ⟨correction', d₂, hcorrection, h⟩ := bind_eq_ok.mp h
  obtain ⟨hpresent, rfl⟩ := ofExcept_eq_ok.mp hcorrection
  obtain ⟨tenant', d₃, htenant', h⟩ := bind_eq_ok.mp h
  obtain ⟨hsameTenant, rfl⟩ := uuid_eq_ok.mp htenant'
  obtain ⟨id', d₄, hid', h⟩ := bind_eq_ok.mp h
  obtain ⟨hsameId, rfl⟩ := uuid_eq_ok.mp hid'
  obtain rfl : tenant = tenant' := Option.some.inj (htenant.symm.trans hsameTenant)
  obtain rfl : id = id' := Option.some.inj (hid.symm.trans hsameId)
  obtain rfl : correction = correction' := by
    unfold present at hpresent
    split at hpresent
    · cases hpresent
    · exact Except.ok.inj hpresent
  unfold writes at h
  split at h
  · next written d'' hwritten =>
    obtain ⟨t, ht, hpair⟩ := Option.map_eq_some_iff.mp hwritten
    obtain ⟨-, rfl⟩ := EStateM.Result.ok.inj h
    obtain ⟨-, rfl⟩ := Prod.mk.inj hpair
    -- the record is created with the verdict as it was submitted
    exact ⟨_, Table.rows_create ht, rfl, rfl, rfl⟩
  · cases h

/-- Every correction that is accepted for a message without an earlier one is found as a record that says
nothing about it, and so never as it was submitted. -/
theorem submitted_unreadable
    (h : MessagesController.submitCorrection env tenantId messageId correction d = .ok answer d')
    (htenant : env.uuid tenantId = some tenant) (hid : env.uuid messageId = some id)
    (hfirst : ∀ r ∈ d.correctionRecords.rows,
      CorrectionRecordRepository.isRecordOf tenant id r = false)
    (pick : ℕ) (newUuid : String) :
    ∃ record, CorrectionRecordRepository.findByMessageId d'.correctionRecords pick newUuid tenant id =
        some record ∧
      SaysNothing record ∧ ¬ReadsAsSubmitted correction record := by
  obtain ⟨row, hrows, hrowTenant, hrowId, hverdict⟩ := rows_submitCorrection h htenant hid
  have hfound : d'.correctionRecords.findMany (CorrectionRecordRepository.isRecordOf tenant id) =
      [row] := by
    -- no other record of the message is there that the lookup could find first
    have hnone : d.correctionRecords.rows.filter (CorrectionRecordRepository.isRecordOf tenant id) =
        [] := List.filter_eq_nil_iff.mpr fun r hr => by rw [hfirst r hr]; exact Bool.false_ne_true
    have hmatches : CorrectionRecordRepository.isRecordOf tenant id row = true := by
      simp [CorrectionRecordRepository.isRecordOf, hrowTenant, hrowId]
    unfold Table.findMany
    rw [hrows, List.filter_append, hnone, List.nil_append, List.filter_cons_of_pos hmatches]
    rfl
  have hfirst' : d'.correctionRecords.findFirst pick
      (CorrectionRecordRepository.isRecordOf tenant id) = some row := by
    unfold Table.findFirst
    rw [hfound]
    simp [Nat.mod_one]
  have hrecord := CorrectionRecord.fromDb_eq newUuid row
  refine ⟨_, ?_, saysNothing_fromDb hverdict hrecord, fun hreads => ?_⟩
  · unfold CorrectionRecordRepository.findByMessageId
    rw [hfirst', Option.bind_some, hrecord]
  · -- the evidence that is read back has no source
    have hsource : Value.undefined = .str "explicit_user_action" := congrArg Dyn.value hreads.source
    cases hsource

end

/-! ## A correction of a category

A correction as the client would send it, and what can be read of the row that is stored for it.
-/

/-- A database with one message and nothing else. -/
def oneMessage : Database where
  tenants := .empty
  plans := []
  subscriptions := .empty
  usageMeters := .empty
  senderProfiles := .empty
  mailboxConnections := .empty
  ingestedMessages := ⟨[⟨"row-1", "tenant-1", "message-1", "mailbox-1", "gmail", .null, 0⟩], by decide,
    by decide⟩
  messageLabels := .empty
  messagePriorities := .empty
  threatAssessments := .empty
  correctionRecords := .empty
  tenant_label _ h := absurd h List.not_mem_nil

/-- The user moves the message from spam to work. -/
def moveToWork : Value :=
  .obj [("context", .str "classification"), ("original_verdict", .str "SPAM"),
    ("corrected_verdict", .str "WORK")]

/-- The correction is accepted, and what the domain reads of it is not what was submitted. -/
theorem not_readable_moveToWork : ∃ answer d',
    MessagesController.submitCorrection plainSurroundings "tenant-1" "message-1" moveToWork oneMessage =
        .ok answer d' ∧
      ∀ record, CorrectionRecordRepository.findByMessageId d'.correctionRecords 0 "uuid-1" "tenant-1"
        "message-1" = some record → ¬ReadsAsSubmitted moveToWork record := by
  refine ⟨_, _, rfl, fun record hrecord hreads => ?_⟩
  have hsource := source_of_findByMessageId hrecord
  rw [hreads.source] at hsource
  cases congrArg Dyn.value hsource

/-- The stored correction of the example says nothing of what was submitted. -/
theorem submitted_unreadable_moveToWork : ∃ answer d',
    MessagesController.submitCorrection plainSurroundings "tenant-1" "message-1" moveToWork oneMessage =
        .ok answer d' ∧
      ∃ record, CorrectionRecordRepository.findByMessageId d'.correctionRecords 0 "uuid-1" "tenant-1"
          "message-1" = some record ∧
        SaysNothing record ∧ ¬ReadsAsSubmitted moveToWork record := by
  obtain ⟨answer, d', haccepted⟩ : ∃ answer d',
      MessagesController.submitCorrection plainSurroundings "tenant-1" "message-1" moveToWork
        oneMessage = .ok answer d' := ⟨_, _, rfl⟩
  exact ⟨answer, d', haccepted, submitted_unreadable haccepted rfl rfl
    (fun _ hr => absurd hr List.not_mem_nil) 0 "uuid-1"⟩

end EmailTriage.Api
