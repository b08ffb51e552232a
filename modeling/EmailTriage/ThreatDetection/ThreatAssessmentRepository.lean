import EmailTriage.Lib.Table
import EmailTriage.ThreatDetection.ThreatAssessment

/-!
# Storing threat assessments

`src/threat-detection/infrastructure/repositories/threat-assessment.repository.ts` over the table
`threat_assessments` of `prisma/schema.prisma`, whose rows are unique on tenant and message.

`save` writes the decision as two columns, the bare action and the lock. `findByMessageId` hands the
action column to `QuarantineDecision.fromJSON`, which expects an object. `load_eq` says what comes
back.

Two saves of one message are two rows or one, depending on whether the first is there when the second
looks. `find_write` and `find_save` say what is stored afterwards at every key, so that the modules
about histories and about overlapping jobs never open the repository again.
-/

namespace EmailTriage.ThreatDetection

open Js Db

/-- A row of `threat_assessments`. -/
structure ThreatAssessmentRow where
  id : String
  tenant_id : String
  message_id : String
  auth_signal : JsonColumn AuthenticationSignal
  lookalike_score : JsonColumn LookalikeScore
  intent_classification : JsonColumn IntentClassification
  quarantine_decision : String
  quarantine_locked : Bool
  created_at : ℤ
  updated_at : ℤ

instance : Schema ThreatAssessmentRow String (String × String) where
  id := ThreatAssessmentRow.id
  key r := (r.tenant_id, r.message_id)

/-- The table `threat_assessments`. -/
abbrev ThreatAssessmentTable := Table ThreatAssessmentRow

namespace ThreatAssessmentRow

/-- The object `findByMessageId` hands to `ThreatAssessment.fromJSON`. -/
def toJson (r : ThreatAssessmentRow) : Value :=
  .obj [("tenantId", .str r.tenant_id), ("messageId", .str r.message_id),
    ("authenticationSignal", r.auth_signal.value), ("lookalikeScore", r.lookalike_score.value),
    ("intentClassification", r.intent_classification.value),
    ("quarantineDecision", .str r.quarantine_decision), ("highestTierReached", .str "AuthCheck"),
    ("createdAt", .date (some r.created_at)), ("updatedAt", .date (some r.updated_at))]

/-- The assessment a row is loaded as. -/
def load (r : ThreatAssessmentRow) : Option ThreatAssessment := ThreatAssessment.fromJSON r.toJson

/-- Every row loads, with its own signals and with the default decision: no action, not locked. -/
theorem load_eq (r : ThreatAssessmentRow) :
    r.load = some (ThreatAssessment.new r.tenant_id r.message_id r.auth_signal.read
      r.lookalike_score.read r.intent_classification.read ⟨.None, .policy, none, true⟩ .AuthCheck
      (some r.created_at) (some r.updated_at)) := by
  have hstr : ∀ s : String, (ofValue (.str s) : Option String) = some s := fun _ => rfl
  have htier : (ofValue (.str "AuthCheck") : Option ThreatTier) = some .AuthCheck := rfl
  simp [load, toJson, ThreatAssessment.fromJSON, QuarantineDecision.fromJSON_str, hstr, htier,
    Date.ofValue]

/-- Whether a row holds a locked quarantine. -/
def LockedQuarantine (r : ThreatAssessmentRow) : Prop :=
  r.quarantine_decision = QuarantineAction.text .Quarantine ∧ r.quarantine_locked = true

instance : DecidablePred LockedQuarantine :=
  fun r => inferInstanceAs (Decidable (r.quarantine_decision = _ ∧ r.quarantine_locked = true))

end ThreatAssessmentRow

namespace ThreatAssessmentRepository

/-- `findByMessageId`, with the row's id beside the assessment. Loading a row never throws, by
`load_eq`. -/
def findByMessageId (t : ThreatAssessmentTable) (tenantId messageId : String) :
    Option (ThreatAssessment × String) := do
  let record ← t.find (tenantId, messageId)
  let assessment ← record.load
  return (assessment, record.id)

/-- The columns `save` updates: a signal that is not there is left as it is stored. -/
def updateData (now : ℤ) (a : ThreatAssessment) : Patch ThreatAssessmentRow where
  apply r := { r with
    auth_signal := if a.authenticationSignal.isSome then .write a.authenticationSignal
      else r.auth_signal
    lookalike_score := if a.lookalikeScore.isSome then .write a.lookalikeScore
      else r.lookalike_score
    intent_classification := if a.intentClassification.isSome then .write a.intentClassification
      else r.intent_classification
    quarantine_decision := a.quarantineDecision.action.text
    quarantine_locked := a.quarantineDecision.isLocked
    updated_at := now }
  id_apply _ := rfl
  key_apply _ := rfl

/-- The row `save` creates. -/
def createData (now : ℤ) (id : String) (a : ThreatAssessment) : ThreatAssessmentRow where
  id := id
  tenant_id := a.tenantId
  message_id := a.messageId
  auth_signal := .write a.authenticationSignal
  lookalike_score := .write a.lookalikeScore
  intent_classification := .write a.intentClassification
  quarantine_decision := a.quarantineDecision.action.text
  quarantine_locked := a.quarantineDecision.isLocked
  created_at := now
  updated_at := now

/-- The write of `save`, once it has looked for an existing row; `none` is a database error. -/
def write (t : ThreatAssessmentTable) (now : ℤ) (newId : String) (a : ThreatAssessment)
    (existing : Option String) : Option ThreatAssessmentTable :=
  match existing with
  | some id => t.update id (updateData now a)
  | none => t.create (createData now newId a)

/-- `save`. -/
def save (t : ThreatAssessmentTable) (now : ℤ) (newId : String) (a : ThreatAssessment) :
    Option ThreatAssessmentTable :=
  write t now newId a ((findByMessageId t a.tenantId a.messageId).map (·.2))

/-! ## What a load and a save do

A load passes the text of the action on, and a save writes all columns of the row at its key.
-/

/-- A stored row is found and loaded. -/
theorem findByMessageId_of_find {t : ThreatAssessmentTable} {tenantId messageId : String}
    {r : ThreatAssessmentRow} (h : t.find (tenantId, messageId) = some r) :
    ∃ a, findByMessageId t tenantId messageId = some (a, r.id) ∧ a.tenantId = tenantId ∧
      a.messageId = messageId ∧ a.quarantineDecision = ⟨.None, .policy, none, true⟩ ∧
      a.assessmentLocked = false := by
  have hkey := (Table.find_eq_some_iff.mp h).2
  simp only [Schema.key, Prod.mk.injEq] at hkey
  have hload := r.load_eq
  generalize hnew : ThreatAssessment.new _ _ _ _ _ _ _ _ _ = a at hload
  refine ⟨a, by simp [findByMessageId, h, hload], ?_, ?_, ?_, ?_⟩ <;> rw [← hnew]
  · exact hkey.1
  · exact hkey.2
  · rfl
  · rfl

/-- Without a row nothing is loaded. -/
theorem findByMessageId_of_find_none {t : ThreatAssessmentTable} {tenantId messageId : String}
    (h : t.find (tenantId, messageId) = none) : findByMessageId t tenantId messageId = none := by
  simp [findByMessageId, h]

/-- What is loaded comes from a stored row. -/
theorem exists_find_of_findByMessageId {t : ThreatAssessmentTable} {tenantId messageId id : String}
    {a : ThreatAssessment} (h : findByMessageId t tenantId messageId = some (a, id)) :
    ∃ r, t.find (tenantId, messageId) = some r ∧ r.id = id := by
  cases hfind : t.find (tenantId, messageId) with
  | none => simp [findByMessageId_of_find_none hfind] at h
  | some r =>
    obtain ⟨b, hb, -⟩ := findByMessageId_of_find hfind
    rw [hb, Option.some.injEq, Prod.mk.injEq] at h
    exact ⟨r, rfl, h.2⟩

/-- Whatever is loaded has no action and no lock. -/
theorem of_findByMessageId {t : ThreatAssessmentTable} {tenantId messageId id : String}
    {a : ThreatAssessment} (h : findByMessageId t tenantId messageId = some (a, id)) :
    a.tenantId = tenantId ∧ a.messageId = messageId ∧ a.quarantineDecision.action = .None ∧
      a.quarantineDecision.isLocked = false ∧ a.assessmentLocked = false := by
  obtain ⟨r, hr, -⟩ := exists_find_of_findByMessageId h
  obtain ⟨b, hb, htenant, hmessage, hdecision, hlocked⟩ := findByMessageId_of_find hr
  rw [hb, Option.some.injEq, Prod.mk.injEq] at h
  obtain ⟨rfl, -⟩ := h
  exact ⟨htenant, hmessage, by rw [hdecision], by rw [hdecision]; rfl, hlocked⟩

/-- An id that was found is the id of the stored row. -/
theorem found_findByMessageId (t : ThreatAssessmentTable) (tenantId messageId : String) :
    t.Found (tenantId, messageId) ((findByMessageId t tenantId messageId).map (·.2)) := by
  intro id h
  obtain ⟨p, hp, rfl⟩ := Option.map_eq_some_iff.mp h
  exact exists_find_of_findByMessageId hp

/-- The write of the repository is the one of a table. -/
theorem write_eq (t : ThreatAssessmentTable) (now : ℤ) (newId : String) (a : ThreatAssessment)
    (existing : Option String) : write t now newId a existing
      = t.write existing (updateData now a) (createData now newId a) := by
  cases existing with
  | none => rfl
  | some id => rfl

/-- A write that does not fail stores the action and the lock of the assessment at its key, and
leaves the other keys alone. -/
theorem find_write {t t' : ThreatAssessmentTable} {now : ℤ} {newId : String} {a : ThreatAssessment}
    {existing : Option String} (hfound : t.Found (a.tenantId, a.messageId) existing)
    (h : write t now newId a existing = some t') :
    (∃ r, t'.find (a.tenantId, a.messageId) = some r ∧
      r.quarantine_decision = a.quarantineDecision.action.text ∧
      r.quarantine_locked = a.quarantineDecision.isLocked) ∧
    ∀ k, k ≠ (a.tenantId, a.messageId) → t'.find k = t.find k := by
  rw [write_eq] at h
  obtain ⟨⟨r, hr, hrow⟩, -, hother⟩ := Table.find_write rfl hfound h
  refine ⟨⟨r, hr, ?_⟩, hother⟩
  rcases hrow with rfl | ⟨r₀, rfl⟩
  · exact ⟨rfl, rfl⟩
  · exact ⟨rfl, rfl⟩

/-- `save` looks up the row it writes to. -/
theorem find_save {t t' : ThreatAssessmentTable} {now : ℤ} {newId : String} {a : ThreatAssessment}
    (h : save t now newId a = some t') :
    (∃ r, t'.find (a.tenantId, a.messageId) = some r ∧
      r.quarantine_decision = a.quarantineDecision.action.text ∧
      r.quarantine_locked = a.quarantineDecision.isLocked) ∧
    ∀ k, k ≠ (a.tenantId, a.messageId) → t'.find k = t.find k :=
  find_write (found_findByMessageId t a.tenantId a.messageId) h

/-- A save succeeds when the message has a row already or the new id is free. -/
theorem isSome_save_iff (t : ThreatAssessmentTable) (now : ℤ) (newId : String)
    (a : ThreatAssessment) : (save t now newId a).isSome = true ↔
      ((t.find (a.tenantId, a.messageId)).isSome = true ∨ ∀ r ∈ t.rows, r.id ≠ newId) := by
  have hfound := found_findByMessageId t a.tenantId a.messageId
  unfold save
  rw [write_eq]
  rcases hfind : t.find (a.tenantId, a.messageId) with _ | r
  · rw [findByMessageId_of_find_none hfind]
    refine Table.isSome_create_iff.trans ?_
    constructor
    · rintro ⟨hid, -⟩
      exact .inr hid
    · rintro (h | hid)
      · cases h
      · exact ⟨hid, hfind⟩
  · obtain ⟨b, hb, -⟩ := findByMessageId_of_find hfind
    rw [hb] at hfound ⊢
    obtain ⟨t', ht'⟩ := Table.exists_write_of_found hfound (updateData now a) (createData now newId a)
    rw [Option.map_some, ht']
    exact iff_of_true rfl (.inl rfl)

end ThreatAssessmentRepository

end EmailTriage.ThreatDetection
