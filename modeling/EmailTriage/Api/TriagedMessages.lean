import EmailTriage.Api.StableReads
import EmailTriage.Classification.TenantLabels
import EmailTriage.Lib.Runs

/-!
# What a message shows of its triage

The pipeline writes the labels of a message through
`src/classification/infrastructure/repositories/message-classification.repository.ts`, one upsert after
the other, and its threat assessment through
`src/threat-detection/infrastructure/repositories/threat-assessment.repository.ts`, with a lookup and a
write. Any number of such saves go on at once, their database calls in any order, and any call may
fail.

The ids of an assessment go into columns of type `Uuid`: the database reads them, refuses one that is
no UUID, and stores and compares what it has read. A label refers to the row of its message, whose id
is a plain text.

Whatever they do, either endpoint of `src/api/v1/controllers/messages.controller.ts` shows for each
category the label that was written last, and of the assessments the action that was saved last
(`showsTriage_run`).
-/

namespace EmailTriage.Api

open Js Db Runs
open Classification (LabelAssignment MessageClassification MessageLabelRow MessageLabelTable Category)
open Classification.MessageClassificationRepository
  (upsertLabel upsertLabel_eq_none find_upsertLabel labelAt)
open MessagesController
open ThreatDetection (ThreatAssessment ThreatAssessmentTable QuarantineAction)

/-! ## Saves

The repositories of classifications and assessments save at the same time, each in steps of one
statement. A save writes its labels one after the other.
-/

/-- How far a save has come: a classification has labels left to upsert, an assessment is looked up, or
it is about to be written. -/
inductive TriagePhase where
  | idle
  | labelling (tenantId messageId : String) (labels : List LabelAssignment)
  | asked (assessment : ThreatAssessment)
  | writing (assessment : ThreatAssessment) (existing : Option String)

inductive TriageTurn where
  | saveClassification (tenantId : String) (classification : MessageClassification)
  | saveAssessment (assessment : ThreatAssessment)
  | call (now : ℤ) (newId : String)
  | fail

/-- A write that the database has taken. -/
inductive TriageWrite where
  | labelled (messageId : String) (label : LabelAssignment)
  | assessed (assessment : ThreatAssessment)

/-- The tables and the saves, with what was written, the newest write first. -/
structure TriageWorld (ι : Type) where
  messageLabels : MessageLabelTable
  threatAssessments : ThreatAssessmentTable
  phases : ι → TriagePhase
  written : List TriageWrite

section

variable {ι : Type} [DecidableEq ι]

namespace TriageWorld

def start : TriageWorld ι := ⟨.empty, .empty, fun _ => .idle, []⟩

/-- An assessment with its ids as the columns have them. -/
def inColumns (env : Surroundings) (assessment : ThreatAssessment) : Option ThreatAssessment :=
  match env.uuid assessment.tenantId, env.uuid assessment.messageId with
  | some tenantId, some messageId => some { assessment with tenantId, messageId }
  | _, _ => none

/-- The world after a save has moved on. -/
def move (w : TriageWorld ι) (i : ι) (p : TriagePhase) : TriageWorld ι :=
  { w with phases := Function.update w.phases i p }

/-- The next database call of a save. -/
def call (env : Surroundings) (w : TriageWorld ι) (i : ι) (now : ℤ) (newId : String) : TriageWorld ι :=
  match w.phases i with
  | .idle => w
  | .labelling _ _ [] => w.move i .idle
  | .labelling tenantId messageId (label :: labels) =>
    match upsertLabel w.messageLabels tenantId messageId label with
    | some t =>
      { w.move i (.labelling tenantId messageId labels) with
        messageLabels := t
        written := .labelled messageId label :: w.written }
    | none => w.move i .idle
  | .asked assessment =>
    match inColumns env assessment with
    | some read =>
      w.move i (.writing assessment
        ((ThreatDetection.ThreatAssessmentRepository.findByMessageId w.threatAssessments
        read.tenantId read.messageId).map (·.2)))
    | none => w.move i .idle
  | .writing assessment existing =>
    match (inColumns env assessment).bind fun read =>
      ThreatDetection.ThreatAssessmentRepository.write w.threatAssessments now newId read existing with
    | some t =>
      { w.move i .idle with
        threatAssessments := t
        written := .assessed assessment :: w.written }
    | none => w.move i .idle

def step (env : Surroundings) (w : TriageWorld ι) (turn : ι × TriageTurn) : TriageWorld ι :=
  match turn with
  | (i, .saveClassification tenantId classification) =>
    match w.phases i with
    | .idle => w.move i (.labelling tenantId classification.messageId classification.labels.items)
    | _ => w
  | (i, .saveAssessment assessment) =>
    match w.phases i with
    | .idle => w.move i (.asked assessment)
    | _ => w
  | (i, .call now newId) => w.call env i now newId
  | (i, .fail) => w.move i .idle

end TriageWorld

/-! ## What was written last

The log keeps every statement that has written, under the id as the column has it.
-/

/-- The label of a message for a category that a write leaves. -/
def TriageWrite.labelFor (messageId : String) (category : Category) : TriageWrite → Option LabelAssignment
  | .labelled m label => if (m, label.category) = (messageId, category) then label.asStored else none
  | .assessed _ => none

/-- The action for a message of a tenant that a write leaves, however the assessment spells the ids. -/
def TriageWrite.actionFor (env : Surroundings) (tenantId messageId : String) :
    TriageWrite → Option QuarantineAction
  | .labelled _ _ => none
  | .assessed a =>
    if env.uuid a.tenantId = some tenantId ∧ env.uuid a.messageId = some messageId then
      some a.quarantineDecision.action
    else none

def lastLabel (written : List TriageWrite) (messageId : String) (category : Category) :
    Option LabelAssignment :=
  written.findSome? (TriageWrite.labelFor messageId category)

def lastAction (env : Surroundings) (written : List TriageWrite) (tenantId messageId : String) :
    Option QuarantineAction :=
  written.findSome? (TriageWrite.actionFor env tenantId messageId)

/-! ## The tables

What one statement changes at a key is the last entry of the log at that key.
-/

/-- An upsert that the database takes leaves the label at its category, and no other label changes. -/
theorem labelAt_upsertLabel {t t' : MessageLabelTable} {tenantId messageId : String}
    {label : LabelAssignment}
    (h : upsertLabel t tenantId messageId label = some t') :
    ∃ stored, label.asStored = some stored ∧ ∀ m category, labelAt t' m category =
      if (messageId, label.category) = (m, category) then some stored else labelAt t m category := by
  rcases hstored : label.asStored with _ | stored
  · rw [upsertLabel_eq_none hstored] at h
    cases h
  · obtain ⟨t₁, ht₁, ⟨r, hr, hwrote⟩, hothers⟩ :=
      find_upsertLabel tenantId messageId t (Option.isSome_of_mem hstored)
    obtain rfl := Option.some.inj (ht₁.symm.trans h)
    refine ⟨stored, rfl, fun m category => ?_⟩
    unfold labelAt
    by_cases hkey : (messageId, label.category) = (m, category)
    · rw [if_pos hkey, ← hkey, hr, Option.map_some, ← hwrote.columns, hstored]
    · rw [if_neg hkey, hothers _ (Ne.symm hkey)]

/-- The action in the row of a message. -/
def actionAt (t : ThreatAssessmentTable) (tenantId messageId : String) : Option String :=
  (t.find (tenantId, messageId)).map (·.quarantine_decision)

/-- A write of an assessment changes the action of its message and of no other. -/
theorem actionAt_write {t t' : ThreatAssessmentTable} {now : ℤ} {newId : String} {a : ThreatAssessment}
    {existing : Option String} (hfound : t.Found (a.tenantId, a.messageId) existing)
    (h : ThreatDetection.ThreatAssessmentRepository.write t now newId a existing = some t')
      (tenantId messageId : String) :
    actionAt t' tenantId messageId = if (a.tenantId, a.messageId) = (tenantId, messageId)
      then some a.quarantineDecision.action.text else actionAt t tenantId messageId := by
  obtain ⟨⟨r, hr, haction, -⟩, hothers⟩ := ThreatDetection.ThreatAssessmentRepository.find_write hfound h
  unfold actionAt
  by_cases hkey : (a.tenantId, a.messageId) = (tenantId, messageId)
  · rw [if_pos hkey, ← hkey, hr, Option.map_some, haction]
  · rw [if_neg hkey, hothers _ (Ne.symm hkey)]

omit [DecidableEq ι] in
/-- An assessment in the columns is for the ids that the database has read. -/
theorem inColumns_eq_some {env : Surroundings} {a read : ThreatAssessment}
    (h : TriageWorld.inColumns env a = some read) : env.uuid a.tenantId = some read.tenantId ∧
      env.uuid a.messageId = some read.messageId ∧ read.quarantineDecision = a.quarantineDecision := by
  unfold TriageWorld.inColumns at h
  split at h
  · next tenantId messageId htenant hmessage =>
    rw [← Option.some.inj h]
    exact ⟨htenant, hmessage, rfl⟩
  · cases h

/-- The tables hold what was written last, and the saves what they have found. -/
structure TriageInv (env : Surroundings) (w : TriageWorld ι) : Prop where
  labels : ∀ messageId category, labelAt w.messageLabels messageId category
    = lastLabel w.written messageId category
  actions : ∀ tenantId messageId, actionAt w.threatAssessments tenantId messageId
    = (lastAction env w.written tenantId messageId).map QuarantineAction.text
  found : ∀ i assessment existing, w.phases i = .writing assessment existing →
    ∀ read, TriageWorld.inColumns env assessment = some read →
      w.threatAssessments.Found (read.tenantId, read.messageId) existing

namespace TriageInv

variable {env : Surroundings} {w : TriageWorld ι}

omit [DecidableEq ι] in
/-- Nothing is stored in the beginning, and nothing was written. -/
theorem start : TriageInv env (.start : TriageWorld ι) := by
  refine ⟨fun _ _ => rfl, fun _ _ => rfl, ?_⟩
  rintro i assessment existing ⟨⟩

/-- A save moves on and nothing is written. -/
theorem move (hw : TriageInv env w) {i : ι} {p : TriagePhase}
    (hp : ∀ assessment existing, p = .writing assessment existing →
      ∀ read, TriageWorld.inColumns env assessment = some read →
        w.threatAssessments.Found (read.tenantId, read.messageId) existing) :
    TriageInv env (w.move i p) := by
  refine ⟨hw.labels, hw.actions, fun j assessment existing hj => ?_⟩
  by_cases hji : j = i
  · rw [hji] at hj
    exact hp assessment existing ((Function.update_self ..).symm.trans hj)
  · exact hw.found j assessment existing ((Function.update_of_ne hji ..).symm.trans hj)

/-- A label that is stored is the last one of its category. -/
theorem labelled (hw : TriageInv env w) {i : ι} {tenantId messageId : String} {label : LabelAssignment}
    {labels : List LabelAssignment} {t : MessageLabelTable}
    (h : upsertLabel w.messageLabels tenantId messageId label = some t) :
    TriageInv env { w.move i (.labelling tenantId messageId labels) with
      messageLabels := t, written := .labelled messageId label :: w.written } := by
  obtain ⟨stored, hstored, hat⟩ := labelAt_upsertLabel h
  have hmoved : TriageInv env (w.move i (.labelling tenantId messageId labels)) :=
    hw.move fun _ _ h => by cases h
  refine ⟨fun m category => ?_, fun tenantId messageId => hw.actions tenantId messageId, hmoved.found⟩
  show labelAt t m category = lastLabel (.labelled messageId label :: w.written) m category
  unfold lastLabel
  rw [hat, List.findSome?_cons]
  simp only [TriageWrite.labelFor]
  by_cases hkey : (messageId, label.category) = (m, category)
  · rw [if_pos hkey, if_pos hkey, hstored]
  · rw [if_neg hkey, if_neg hkey]
    exact hw.labels m category

/-- An assessment is written under the ids that were read. -/
theorem assessed (hw : TriageInv env w) {i : ι} {now : ℤ} {newId : String} {a read : ThreatAssessment}
    {existing : Option String} {t : ThreatAssessmentTable} (hi : w.phases i = .writing a existing)
    (hread : TriageWorld.inColumns env a = some read)
    (h : ThreatDetection.ThreatAssessmentRepository.write w.threatAssessments now newId read existing =
      some t) :
    TriageInv env { w.move i .idle with threatAssessments := t, written := .assessed a :: w.written } := by
  have hfound := hw.found i a existing hi read hread
  obtain ⟨htenant, hmessage, hdecision⟩ := inColumns_eq_some hread
  refine ⟨fun m category => ?_, fun tenantId messageId => ?_, fun j b existing' hj read' hread' => ?_⟩
  · exact hw.labels m category
  · show actionAt t tenantId messageId
      = (lastAction env (.assessed a :: w.written) tenantId messageId).map QuarantineAction.text
    unfold lastAction
    rw [actionAt_write hfound h, List.findSome?_cons]
    simp only [TriageWrite.actionFor, htenant, hmessage, hdecision, Option.some.injEq, Prod.mk.injEq]
    by_cases hkey : read.tenantId = tenantId ∧ read.messageId = messageId
    · rw [if_pos hkey, if_pos hkey]
      rfl
    · rw [if_neg hkey, if_neg hkey]
      exact hw.actions tenantId messageId
  · have hji : j ≠ i := by
      rintro rfl
      cases (Function.update_self ..).symm.trans hj
    rw [ThreatDetection.ThreatAssessmentRepository.write_eq] at h
    exact (hw.found j b existing'
      ((Function.update_of_ne hji ..).symm.trans hj) read' hread').write_at rfl hfound h

/-- The next call of a save. -/
theorem call (hw : TriageInv env w) (i : ι) (now : ℤ) (newId : String) :
    TriageInv env (w.call env i now newId) := by
  unfold TriageWorld.call
  rcases hi : w.phases i
    with _ | ⟨tenantId, messageId, _ | ⟨label, labels⟩⟩ | a | ⟨a, existing⟩ <;> dsimp only
  · exact hw
  · exact hw.move fun _ _ h => by cases h
  · rcases hupsert : upsertLabel w.messageLabels tenantId messageId label with _ | t
    · exact hw.move fun _ _ h => by cases h
    · exact hw.labelled hupsert
  · rcases hread : TriageWorld.inColumns env a with _ | read
    · exact hw.move fun _ _ h => by cases h
    · refine hw.move ?_
      rintro _ _ ⟨⟩ read' hread'
      obtain rfl := Option.some.inj (hread.symm.trans hread')
      exact ThreatDetection.ThreatAssessmentRepository.found_findByMessageId _ _ _
  · rcases hread : TriageWorld.inColumns env a with _ | read
    · exact hw.move fun _ _ h => by cases h
    · rw [Option.bind_some]
      rcases hwrite : ThreatDetection.ThreatAssessmentRepository.write w.threatAssessments now newId read existing
        with _ | t
      · exact hw.move fun _ _ h => by cases h
      · exact hw.assessed hi hread hwrite

/-- Whatever a save does next, the rows are what was written last. -/
theorem step (hw : TriageInv env w) (turn : ι × TriageTurn) : TriageInv env (w.step env turn) := by
  obtain ⟨i, turn⟩ := turn
  unfold TriageWorld.step
  rcases turn with ⟨tenantId, classification⟩ | assessment | ⟨now, newId⟩ | _ <;> dsimp only
  · rcases w.phases i with _ | _ | _ | _ <;> dsimp only
    · exact hw.move fun _ _ h => by cases h
    all_goals exact hw
  · rcases w.phases i with _ | _ | _ | _ <;> dsimp only
    · exact hw.move fun _ _ h => by cases h
    all_goals exact hw
  · exact hw.call i now newId
  · exact hw.move fun _ _ h => by cases h

/-- After any turns of any saves the rows are what was written last. -/
theorem run (turns : List (ι × TriageTurn)) : TriageInv env (turns.foldl (TriageWorld.step env) .start) :=
  foldl_invariant (fun _ turn hw => hw.step turn) .start turns

end TriageInv

end

/-! ## What a message shows

Either endpoint shows a message with the labels and the action that the log has last.
-/

/-- A label of a DTO. -/
def labelDto (label : LabelAssignment) : Value :=
  .obj [("category", .str label.category.text), ("confidence_score", .num label.confidence),
    ("source_tier", .str label.sourceTier.text)]

/-- The action that an endpoint shows: a list looks for the id as it is written in the message, the
details for what the database reads in it. -/
def shownAction (env : Surroundings) (written : List TriageWrite) (message : MessageRow) :
    Endpoint → Option QuarantineAction
  | .list _ _ =>
    if env.uuid message.messageId = some message.messageId then
      lastAction env written message.tenantId message.messageId
    else none
  | .details => (env.uuid message.messageId).bind (lastAction env written message.tenantId)

/-- A DTO shows what was written last: the label for each category, whether there is one for
`NEEDS_REPLY`, and the action. -/
structure ShowsTriage (env : Surroundings) (written : List TriageWrite) (message : MessageRow)
    (endpoint : Endpoint) (dto : Value) : Prop where
  labels : ∃ shown : List LabelAssignment, dto.get "labels" = .arr (shown.map labelDto) ∧
    (shown.map LabelAssignment.category).Nodup ∧
    ∀ label, label ∈ shown ↔ lastLabel written message.id label.category = some label
  needs_reply : dto.get "needs_reply" = .bool (lastLabel written message.id .NEEDS_REPLY).isSome
  phishing_status : dto.get "phishing_status"
    = .str ((shownAction env written message endpoint).elim "none" QuarantineAction.text)
  quarantine_decision : dto.get "quarantine_decision"
    = .str ((shownAction env written message endpoint).elim "none" QuarantineAction.text)

/-- The database holds the tables of the saves. -/
structure TriageWorld.StoredIn {ι : Type} (w : TriageWorld ι) (d : Database) : Prop where
  messageLabels : d.messageLabels = w.messageLabels
  threatAssessments : d.threatAssessments = w.threatAssessments

section

variable {ι : Type} [DecidableEq ι] {w : TriageWorld ι}

/-- A message shows the labels that its rows have. -/
theorem mem_labels_iff {t : MessageLabelTable} {messageId : String} {label : LabelAssignment} :
    label ∈ (t.findMany fun r => r.message_id = messageId).map MessageLabelRow.toLabel ↔
      labelAt t messageId label.category = some label := by
  unfold labelAt
  rw [List.mem_map, Option.map_eq_some_iff]
  constructor
  · rintro ⟨r, hr, rfl⟩
    obtain ⟨hmem, hmessage⟩ := List.mem_filter.mp hr
    exact ⟨r, Table.find_eq_some_iff.mpr ⟨hmem, Prod.ext (of_decide_eq_true hmessage) rfl⟩, rfl⟩
  · rintro ⟨r, hfind, hr⟩
    obtain ⟨hmem, hkey⟩ := Table.find_eq_some_iff.mp hfind
    exact ⟨r, List.mem_filter.mpr ⟨hmem, decide_eq_true (congrArg Prod.fst hkey)⟩, hr⟩

/-- No message has two labels for a category. -/
theorem nodup_categories (t : MessageLabelTable) (messageId : String) :
    (((t.findMany fun r => r.message_id = messageId).map MessageLabelRow.toLabel).map
      LabelAssignment.category).Nodup := by
  rw [List.map_map]
  refine List.Nodup.map_on ?_ (List.Nodup.filter _ (List.Nodup.of_map _ t.key_nodup))
  intro r hr r' hr' hcategory
  obtain ⟨hmem, hmessage⟩ := List.mem_filter.mp hr
  obtain ⟨hmem', hmessage'⟩ := List.mem_filter.mp hr'
  refine Table.eq_of_key_eq hmem hmem' (Prod.ext ?_ hcategory)
  exact (of_decide_eq_true hmessage).trans (of_decide_eq_true hmessage').symm

omit [DecidableEq ι] in
/-- The row that an endpoint shows has the action that was written last. -/
theorem decisionOf_shownRow {env : Surroundings} (hw : TriageInv env w) (message : MessageRow)
    (endpoint : Endpoint) : decisionOf (shownRow env w.threatAssessments message endpoint)
      = .str ((shownAction env w.written message endpoint).elim "none" QuarantineAction.text) := by
  -- what a row shows is the action last saved under its key
  have hrow : ∀ messageId, decisionOf (w.threatAssessments.find (message.tenantId, messageId))
      = .str ((lastAction env w.written message.tenantId messageId).elim "none" QuarantineAction.text) := by
    intro messageId
    have haction := hw.actions message.tenantId messageId
    unfold actionAt at haction
    rcases hfind : w.threatAssessments.find (message.tenantId, messageId) with _ | r <;>
      rw [hfind] at haction
    · rw [Option.map_eq_none_iff.mp haction.symm]
      rfl
    · obtain ⟨action, hlast, htext⟩ := Option.map_eq_some_iff.mp haction.symm
      have hdecision : decisionOf (some r) = (Value.str r.quarantine_decision).or (.str "none") := rfl
      have htext' : r.quarantine_decision = action.text := htext.symm
      rw [hlast, hdecision, htext']
      cases action <;> rfl
  cases endpoint with
  | list limit offset =>
    unfold shownRow shownAction
    dsimp only
    split_ifs
    · exact hrow message.messageId
    · rfl
  | details =>
    unfold shownRow shownAction
    dsimp only
    rcases env.uuid message.messageId with _ | id
    · rfl
    · exact hrow id

/-- Whatever saves go on, either endpoint shows of a message what was written last. -/
theorem showsTriage_run {env : Surroundings} (hback : ReadsBack env) (turns : List (ι × TriageTurn))
    {d : Database} (hd : (turns.foldl (TriageWorld.step env) .start).StoredIn d) {tenantId : String}
    (message : StoredMessage env d tenantId) (read : Read env d tenantId message.row) :
    ShowsTriage env
      (turns.foldl (TriageWorld.step env) .start).written message.row read.endpoint read.dto := by
  have hw : TriageInv env (turns.foldl (TriageWorld.step env) .start) := TriageInv.run turns
  obtain ⟨labels, hlabels, hdto⟩ := toMessageDto_of_answers hback message read
  obtain ⟨components, -, hfields⟩ := toMessageDto_eq_ok_iff.mp hdto
  -- the decision shown is the one last saved for the message
  rw [hd.threatAssessments, decisionOf_shownRow hw] at hfields
  rw [hd.messageLabels] at hlabels
  have hshown := hlabels.map MessageLabelRow.toLabel
  have hmem : ∀ label, label ∈ labels.map MessageLabelRow.toLabel ↔
      lastLabel (turns.foldl (TriageWorld.step env) .start).written message.row.id label.category =
          some label := by
    intro label
    rw [hshown.mem_iff, mem_labels_iff, hw.labels]
  refine ⟨⟨labels.map MessageLabelRow.toLabel, ?_, ?_, hmem⟩, ?_, ?_, ?_⟩
  · rw [hfields]
    simp only [Value.get_obj_cons, String.reduceEq, if_false, if_true, List.map_map]
    rfl
  · exact (hshown.map _).nodup_iff.mpr (nodup_categories _ _)
  · rw [hfields]
    -- `needs_reply` is whether a label of the category is there, and a label is never taken away
    simp only [Value.get_obj_cons, String.reduceEq, if_false, if_true]
    refine congrArg Value.bool (Bool.eq_iff_iff.mpr ?_)
    rw [List.any_eq_true, Option.isSome_iff_exists]
    constructor
    · rintro ⟨r, hr, hcategory⟩
      have hlast := (hmem r.toLabel).mp (List.mem_map_of_mem hr)
      exact ⟨r.toLabel, of_decide_eq_true hcategory ▸ hlast⟩
    · rintro ⟨label, hlabel⟩
      have hcategory : label.category = .NEEDS_REPLY := by
        rw [← hw.labels] at hlabel
        exact Classification.category_of_labelAt hlabel
      obtain ⟨r, hr, rfl⟩ := List.mem_map.mp ((hmem label).mpr (hcategory ▸ hlabel))
      exact ⟨r, hr, decide_eq_true hcategory⟩
  · rw [hfields]
    simp only [Value.get_obj_cons, String.reduceEq, if_false, if_true]
  · rw [hfields]
    simp only [Value.get_obj_cons, String.reduceEq, if_false, if_true]

end

/-! ## A message that is labelled while it is assessed

The saves of both repositories in turn, for one message whose id is spelled in two ways.
-/

/-- A database that reads one UUID in two spellings. -/
noncomputable def twoSpellings : Surroundings :=
  { plainSurroundings with uuid := fun text => some (if text = "MESSAGE" then "message" else text) }

/-- The canonical spelling is read back. -/
theorem readsBack_twoSpellings : ReadsBack twoSpellings := by
  intro text id h
  rw [← Option.some.inj h]
  show some _ = some _
  split_ifs with hmessage hagain
  · rfl
  · rfl
  · rfl

/-- The classification is saved around the first call for the assessment, which has the id in another
spelling. -/
def labelledAndAssessed : List (Bool × TriageTurn) :=
  [(true, .saveClassification "tenant"
      { MessageClassification.new "tenant" "row" with
        labels := (Keyed.empty.put ⟨.WORK, 8 / 10, .cheap_llm, "1.0.0"⟩).put
          ⟨.NEEDS_REPLY, 1, .rule, "1.0.0"⟩ }),
    (false, .saveAssessment (.create 0 "tenant" "MESSAGE")), (true, .call 1 "label-1"), (false, .call 2 ""),
    (true, .call 3 "label-2"), (false, .call 4 "assessment-1")]

/-- The message with what these saves have written. -/
noncomputable def triagedDatabase : Database :=
  { greetingDatabase with
    messageLabels := (labelledAndAssessed.foldl (TriageWorld.step twoSpellings) .start).messageLabels
    threatAssessments := (labelledAndAssessed.foldl (TriageWorld.step twoSpellings) .start).threatAssessments
    tenant_label := by decide +kernel }

noncomputable def triagedMessage : StoredMessage twoSpellings triagedDatabase "tenant" where
  row := greetingRow
  stored := greetingMessage.stored
  owned := by
    show some _ = some _
    decide
  envelope := greeting
  created := greetingMessage.created
  column := greetingMessage.column

/-- The details are answered. -/
theorem exists_triagedDetails : ∃ dto, Answers (twoSpellings.at (requestAt ⟨0, Date.isInstant_zero⟩))
    triagedDatabase "tenant" greetingRow dto .details := by
  obtain ⟨dto, hdto⟩ : ∃ dto, toMessageDto (twoSpellings.at (requestAt ⟨0, Date.isInstant_zero⟩)) greetingRow
      (labelsOf (twoSpellings.at (requestAt ⟨0, Date.isInstant_zero⟩)) triagedDatabase greetingRow) none
      (triagedDatabase.threatAssessments.find ("tenant", "message")) = .ok dto :=
    ⟨_, toMessageDto_eq_ok_iff.mpr ⟨[], rfl, rfl⟩⟩
  exact ⟨dto, getMessageDetails_eq_ok_iff.mpr
    ⟨rfl, "tenant", greetingRow, "message", rfl, by rfl, rfl, hdto⟩⟩

/-- They are read. -/
noncomputable def triagedRead : Read twoSpellings triagedDatabase "tenant" greetingRow :=
  ⟨requestAt ⟨0, Date.isInstant_zero⟩, .details, exists_triagedDetails.choose,
    exists_triagedDetails.choose_spec⟩

/-- They show what was written, a reply is needed, and the assessment is found. -/
theorem showsTriage_labelledAndAssessed :
    ShowsTriage twoSpellings
      (labelledAndAssessed.foldl (TriageWorld.step twoSpellings) .start).written greetingRow
        .details triagedRead.dto ∧
      (lastLabel (labelledAndAssessed.foldl (TriageWorld.step twoSpellings) .start).written "row"
        .NEEDS_REPLY).isSome = true ∧
      (lastAction twoSpellings
        (labelledAndAssessed.foldl (TriageWorld.step twoSpellings) .start).written "tenant"
        "message").isSome = true :=
  ⟨showsTriage_run readsBack_twoSpellings labelledAndAssessed (d := triagedDatabase) ⟨rfl, rfl⟩
    triagedMessage triagedRead, by decide +kernel, by decide +kernel⟩

end EmailTriage.Api
