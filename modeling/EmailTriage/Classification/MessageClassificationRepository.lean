import Mathlib.Algebra.Order.Ring.Rat
import Mathlib.Data.Rat.Floor
import EmailTriage.Classification.MessageClassification
import EmailTriage.Lib.LostUpdates
import EmailTriage.Lib.Table

/-!
# Storing classifications

`src/classification/infrastructure/repositories/message-classification.repository.ts` over the table
`message_labels` of `prisma/schema.prisma`, with one row for each label of a message. `save` upserts the
labels one after the other, and stays with what it has written when a call fails; it never deletes a row.

`showsLast_iff` says after which saves `findByMessageId` returns the classification saved last.

`saveLabels_spec` says what a save writes, for every point at which a call may fail: the labels up to
that point, each at its category. What should be stored is the labels of the last save that went
through, so a save leaves the two equal exactly if it covers what was stored before (`changes_step`).
The rest is the general rule for runs in which each step keeps a property exactly under a condition.
-/

namespace EmailTriage.Classification

open Db Runs

/-- A row of `message_labels`. -/
structure MessageLabelRow where
  id : ℕ
  tenant_id : String
  message_id : String
  category : Category
  confidence_score : ℚ
  source_tier : SourceTier
  classifier_version : String
deriving DecidableEq

instance : Schema MessageLabelRow ℕ (String × Category) where
  id := MessageLabelRow.id
  key r := (r.message_id, r.category)

/-- The table `message_labels`. -/
abbrev MessageLabelTable := Table MessageLabelRow

/-- What a column of type `Decimal(3, 2)` takes: a number is rounded to two decimals, half away from
zero, and one with more than one digit before the point is an error. -/
@[irreducible] def toDecimal (q : ℚ) : Option ℚ :=
  let cents := if 0 ≤ q then ⌊100 * q + 1 / 2⌋ else ⌈100 * q - 1 / 2⌉
  if |cents| < 1000 then some (cents / 100) else none

/-- The label a row is loaded as. -/
def MessageLabelRow.toLabel (r : MessageLabelRow) : LabelAssignment :=
  ⟨r.category, r.confidence_score, r.source_tier, r.classifier_version⟩

namespace MessageClassificationRepository

/-- The rows `findByMessageId` looks for. -/
def isLabelOf (tenantId messageId : String) (r : MessageLabelRow) : Bool :=
  r.tenant_id = tenantId && r.message_id = messageId

/-- The unique constraint allows one label of a message for each category. -/
theorem nodup_labels (t : MessageLabelTable) (tenantId messageId : String) :
    (((t.findMany (isLabelOf tenantId messageId)).map MessageLabelRow.toLabel).map
      LabelAssignment.category).Nodup := by
  rw [List.map_map]
  refine List.Nodup.map_on ?_ (List.Nodup.filter _ (List.Nodup.of_map _ t.key_nodup))
  intro r hr r' hr' hcategory
  obtain ⟨hmem, hof⟩ := List.mem_filter.mp hr
  obtain ⟨hmem', hof'⟩ := List.mem_filter.mp hr'
  unfold isLabelOf at hof hof'
  rw [Bool.and_eq_true, decide_eq_true_eq, decide_eq_true_eq] at hof hof'
  refine Table.eq_of_key_eq hmem hmem' (Prod.ext ?_ hcategory)
  exact hof.2.trans hof'.2.symm

def findByMessageId (t : MessageLabelTable) (tenantId messageId : String) :
    Option MessageClassification :=
  let labels := t.findMany (isLabelOf tenantId messageId)
  if labels.isEmpty then none
  else some
    { MessageClassification.new tenantId messageId with
      labels := ⟨labels.map MessageLabelRow.toLabel, nodup_labels t tenantId messageId⟩
      isFinalized := true }

/-- The label of a message for a category. -/
def labelAt (t : MessageLabelTable) (messageId : String) (category : Category) :
    Option LabelAssignment :=
  (t.find (messageId, category)).map MessageLabelRow.toLabel

/-- The columns an upsert updates. -/
def updateData (confidence : ℚ) (label : LabelAssignment) : Patch MessageLabelRow where
  apply r := { r with
    confidence_score := confidence
    source_tier := label.sourceTier
    classifier_version := label.classifierVersion }
  id_apply _ := rfl
  key_apply _ := rfl

/-- The upsert of one label; the database assigns the id of a new row. -/
def upsertLabel (t : MessageLabelTable) (tenantId messageId : String) (label : LabelAssignment) :
    Option MessageLabelTable := do
  let confidence ← toDecimal label.confidence
  t.upsert (messageId, label.category) (updateData confidence label)
    { id := t.freshId, tenant_id := tenantId, message_id := messageId, category := label.category
      confidence_score := confidence, source_tier := label.sourceTier
      classifier_version := label.classifierVersion }

/-- The loop of `save`: the table it leaves, and whether it went through. The database call number
`failAt`, if there is one, fails. -/
def saveLabels (tenantId messageId : String) :
    Option ℕ → List LabelAssignment → MessageLabelTable → MessageLabelTable × Bool
  | _, [], t => (t, true)
  | failAt, label :: labels, t =>
    if failAt = some 0 then (t, false)
    else
      match upsertLabel t tenantId messageId label with
      | none => (t, false)
      | some t' => saveLabels tenantId messageId (failAt.map (· - 1)) labels t'

/-- The labels before the call that fails. -/
def reached : Option ℕ → List LabelAssignment → List LabelAssignment
  | none, labels => labels
  | some k, labels => labels.take k

def save (t : MessageLabelTable) (tenantId : String) (classification : MessageClassification)
    (failAt : Option ℕ) : MessageLabelTable × Bool :=
  saveLabels tenantId classification.messageId failAt classification.labels.items t

end MessageClassificationRepository

open MessageClassificationRepository

/-! ## Saves of one message

A save writes the labels one by one and may fail after any of them. What is stored should be what was
saved last.
-/

/-- A save of a classification of the message, with confidences the column stores as they are, and the
database call that fails, if there is one. -/
structure LabelSave (messageId : String) where
  classification : MessageClassification
  ofMessage : classification.messageId = messageId
  storable : ∀ label ∈ classification.labels.items, toDecimal label.confidence = some label.confidence
  failAt : Option ℕ

namespace LabelSave

variable {messageId : String}

/-- The labels whose upserts do not fail. -/
def written (save : LabelSave messageId) : List LabelAssignment :=
  reached save.failAt save.classification.labels.items

/-- No call of the save fails. -/
def GoesThrough (save : LabelSave messageId) : Prop :=
  ∀ k, save.failAt = some k → save.classification.labels.items.length ≤ k

end LabelSave

/-- The stored labels, and the classification whose save succeeded last. -/
structure StoredLabels where
  table : MessageLabelTable
  last : Option MessageClassification

namespace StoredLabels

variable (tenantId : String) {messageId : String}

/-- One save. -/
def step (s : StoredLabels) (save : LabelSave messageId) : StoredLabels :=
  let (table, succeeded) :=
    MessageClassificationRepository.save s.table tenantId save.classification save.failAt
  { table, last := if succeeded then some save.classification else s.last }

/-- The labels of the classification saved last. -/
def lastLabels (s : StoredLabels) : List LabelAssignment :=
  s.last.elim [] fun c => c.labels.items

end StoredLabels

/-- `findByMessageId` returns exactly the labels of the classification saved last, or nothing when there
are none. -/
def ShowsLast (tenantId messageId : String) (s : StoredLabels) : Prop :=
  (findByMessageId s.table tenantId messageId = none ↔ s.lastLabels = []) ∧
    ∀ c, findByMessageId s.table tenantId messageId = some c →
      ∀ label, label ∈ c.labels.items ↔ label ∈ s.lastLabels

/-- A save that goes through has a label for every category the message has a label for, and one that
fails has written only labels that were stored before. -/
def Covers (messageId : String) (s : StoredLabels) (save : LabelSave messageId) : Prop :=
  (save.GoesThrough → ∀ category, (labelAt s.table messageId category).isSome = true →
    (save.classification.labels.find category).isSome = true) ∧
    (¬ save.GoesThrough → ∀ label ∈ save.written,
      labelAt s.table messageId label.category = some label)

/-! ## What a save writes

Every label that the save reaches is stored for its category, and the other categories stay as they were.
-/

/-- The labels of the message belong to the tenant. -/
def OwnLabels (tenantId messageId : String) (t : MessageLabelTable) : Prop :=
  ∀ r ∈ t.rows, r.message_id = messageId → r.tenant_id = tenantId

section

variable {tenantId messageId : String} {t : MessageLabelTable}

/-- The label of a category is of that category. -/
theorem category_of_labelAt {category : Category} {label : LabelAssignment}
    (h : labelAt t messageId category = some label) : label.category = category := by
  obtain ⟨r, hr, rfl⟩ := Option.map_eq_some_iff.mp h
  exact congrArg Prod.snd (Table.find_eq_some_iff.mp hr).2

/-- An upsert stores its label and leaves the labels for other categories alone. -/
theorem upsertLabel_spec {label : LabelAssignment} (howned : OwnLabels tenantId messageId t)
    (hstorable : toDecimal label.confidence = some label.confidence) :
    ∃ t', upsertLabel t tenantId messageId label = some t' ∧ OwnLabels tenantId messageId t' ∧
      ∀ category, labelAt t' messageId category =
        if category = label.category then some label else labelAt t messageId category := by
  unfold upsertLabel
  rw [hstorable]
  obtain ⟨t', ht', hfind⟩ := Table.find_upsert (t := t) (k := (messageId, label.category))
    (updateData label.confidence label)
    (r := ⟨t.freshId, tenantId, messageId, label.category, label.confidence, label.sourceTier,
      label.classifierVersion⟩) rfl fun _ hr => Table.ne_freshId hr
  -- created or updated, the row says what the label says; a row that was there has the tenant
  -- already
  have hupserted : ∀ r, t'.find (messageId, label.category) = some r →
      r.toLabel = label ∧ r.tenant_id = tenantId := by
    intro r hr
    rw [hfind, if_pos rfl] at hr
    rcases hstored : t.find (messageId, label.category) with _ | r₀
    · rw [hstored] at hr
      rw [← Option.some.inj hr]
      exact ⟨rfl, rfl⟩
    · obtain ⟨hmem, hkey⟩ := Table.find_eq_some_iff.mp hstored
      rw [hstored] at hr
      rw [← Option.some.inj hr]
      refine ⟨?_, howned r₀ hmem (congrArg Prod.fst hkey)⟩
      have hcategory : r₀.category = label.category := congrArg Prod.snd hkey
      exact congrArg (LabelAssignment.mk · label.confidence label.sourceTier label.classifierVersion)
        hcategory
  refine ⟨t', ht', fun r hr hmessage => ?_, fun category => ?_⟩
  · have hat := Table.find_key hr
    by_cases hcategory : r.category = label.category
    · have hkey : Schema.key r = (messageId, label.category) := Prod.ext hmessage hcategory
      rw [hkey] at hat
      exact (hupserted r hat).2
    · have hkey : Schema.key r ≠ (messageId, label.category) :=
        fun heq => hcategory (congrArg Prod.snd heq)
      rw [hfind, if_neg hkey] at hat
      exact howned r (Table.find_eq_some_iff.mp hat).1 hmessage
  · unfold labelAt
    by_cases hcategory : category = label.category
    · obtain ⟨r, hr⟩ : ∃ r, t'.find (messageId, label.category) = some r := by
        rw [hfind, if_pos rfl]
        exact ⟨_, rfl⟩
      rw [if_pos hcategory, hcategory, hr, Option.map_some, (hupserted r hr).1]
    · have hkey : (messageId, category) ≠ (messageId, label.category) :=
        fun heq => hcategory (congrArg Prod.snd heq)
      rw [if_neg hcategory, hfind, if_neg hkey]

/-- A save that does not fail at its first label goes on with the others. -/
theorem reached_cons {failAt : Option ℕ} (h : failAt ≠ some 0) (label : LabelAssignment)
    (labels : List LabelAssignment) :
    reached failAt (label :: labels) = label :: reached (failAt.map (· - 1)) labels := by
  rcases failAt with _ | _ | k
  · rfl
  · exact absurd rfl h
  · rfl

/-- What the save has reached is a label of the classification. -/
theorem mem_of_mem_reached {failAt : Option ℕ} {labels : List LabelAssignment}
    {label : LabelAssignment} (h : label ∈ reached failAt labels) : label ∈ labels := by
  rcases failAt with _ | k
  · exact h
  · exact List.mem_of_mem_take h

/-- A label is found at its category when no other label has it. -/
theorem find_category {labels : List LabelAssignment}
    (hnodup : (labels.map LabelAssignment.category).Nodup) {category : Category}
    {label : LabelAssignment} :
    labels.find? (fun l => l.category = category) = some label ↔
      label ∈ labels ∧ label.category = category :=
  ⟨fun h => ⟨Keyed.mem_of_find (m := ⟨labels, hnodup⟩) h, Keyed.key_of_find (m := ⟨labels, hnodup⟩) h⟩,
    fun ⟨hmem, hcategory⟩ => hcategory ▸ Keyed.find_of_mem (m := ⟨labels, hnodup⟩) hmem⟩

/-- A save stores the labels before the call that fails, and leaves the labels for other categories
alone. -/
theorem saveLabels_spec (failAt : Option ℕ) {labels : List LabelAssignment}
    (howned : OwnLabels tenantId messageId t)
    (hstorable : ∀ label ∈ labels, toDecimal label.confidence = some label.confidence)
    (hnodup : (labels.map LabelAssignment.category).Nodup) :
    OwnLabels tenantId messageId (saveLabels tenantId messageId failAt labels t).1 ∧
      (∀ category, labelAt (saveLabels tenantId messageId failAt labels t).1 messageId category =
        ((reached failAt labels).find? fun l => l.category = category).or
          (labelAt t messageId category)) ∧
      ((saveLabels tenantId messageId failAt labels t).2 = true ↔
        ∀ k, failAt = some k → labels.length ≤ k) := by
  induction labels generalizing failAt t with
  | nil =>
    refine ⟨howned, fun category => ?_, iff_of_true rfl fun _ _ => Nat.zero_le _⟩
    rcases failAt with _ | k
    · rfl
    · rw [reached, List.take_nil]
      rfl
  | cons label labels ih =>
    by_cases hfails : failAt = some 0
    · -- the first upsert fails, and none of the labels is reached
      subst hfails
      have hsave : saveLabels tenantId messageId (some 0) (label :: labels) t = (t, false) := by
        rw [saveLabels, if_pos rfl]
      rw [hsave]
      refine ⟨howned, fun _ => rfl, iff_of_false Bool.false_ne_true fun h => ?_⟩
      exact absurd (h 0 rfl) (Nat.not_succ_le_zero _)
    · obtain ⟨t', ht', howned', hat⟩ := upsertLabel_spec howned (hstorable label List.mem_cons_self)
      obtain ⟨hfresh, hnodup'⟩ := List.nodup_cons.mp hnodup
      obtain ⟨hresult, hstored, hthrough⟩ := ih (failAt.map (· - 1)) howned'
        (fun l hl => hstorable l (List.mem_cons_of_mem _ hl)) hnodup'
      -- past it the failure is one upsert nearer
      have hsave : saveLabels tenantId messageId failAt (label :: labels) t =
          saveLabels tenantId messageId (failAt.map (· - 1)) labels t' := by
        rw [saveLabels, if_neg hfails, ht']
      rw [hsave, reached_cons hfails]
      refine ⟨hresult, fun category => ?_, hthrough.trans ?_⟩
      · rw [hstored, hat, List.find?_cons]
        by_cases hcategory : label.category = category
        · -- no later label has the category again
          have hnone : (reached (failAt.map (· - 1)) labels).find? (fun l => l.category = category) =
              none := by
            refine List.find?_eq_none.mpr fun l hl => ?_
            rw [decide_eq_true_eq, ← hcategory]
            exact fun heq => hfresh (heq ▸ List.mem_map_of_mem (mem_of_mem_reached hl))
          rw [hnone, if_pos hcategory.symm, decide_eq_true hcategory]
          rfl
        · rw [if_neg (Ne.symm hcategory), decide_eq_false hcategory]
      · rcases failAt with _ | _ | k
        · exact iff_of_true (fun _ h => by cases h) fun _ h => by cases h
        · exact absurd rfl hfails
        · simp

/-- What is found is what is stored. -/
theorem mem_findMany_iff (howned : OwnLabels tenantId messageId t) (label : LabelAssignment) :
    label ∈ (t.findMany (isLabelOf tenantId messageId)).map MessageLabelRow.toLabel ↔
      labelAt t messageId label.category = some label := by
  unfold labelAt
  rw [List.mem_map, Option.map_eq_some_iff]
  constructor
  · rintro ⟨r, hr, rfl⟩
    obtain ⟨hmem, hof⟩ := List.mem_filter.mp hr
    unfold isLabelOf at hof
    rw [Bool.and_eq_true, decide_eq_true_eq, decide_eq_true_eq] at hof
    exact ⟨r, Table.find_eq_some_iff.mpr ⟨hmem, Prod.ext hof.2 rfl⟩, rfl⟩
  · rintro ⟨r, hr, hlabel⟩
    obtain ⟨hmem, hkey⟩ := Table.find_eq_some_iff.mp hr
    have hmessage : r.message_id = messageId := congrArg Prod.fst hkey
    refine ⟨r, List.mem_filter.mpr ⟨hmem, ?_⟩, hlabel⟩
    unfold isLabelOf
    rw [decide_eq_true (howned r hmem hmessage), decide_eq_true hmessage]
    rfl

end

/-! ## Whole histories

The stored labels are those of the last save exactly if a save that goes through has a label for every
category stored before it, and one that fails leaves nothing behind that was not stored already.
-/

namespace StoredLabels

/-- What is stored of the message, and what should be. -/
def stored (messageId : String) (s : StoredLabels) (category : Category) : Option LabelAssignment :=
  labelAt s.table messageId category

def expected (s : StoredLabels) (category : Category) : Option LabelAssignment :=
  s.lastLabels.find? fun l => l.category = category

/-- There is one last label of each category. -/
theorem nodup_lastLabels (s : StoredLabels) : (s.lastLabels.map LabelAssignment.category).Nodup := by
  unfold lastLabels
  rcases s.last with _ | c
  · exact List.nodup_nil
  · exact c.labels.nodup

variable {tenantId messageId : String}

/-- `findByMessageId` returns what should be there exactly if it is stored. -/
theorem showsLast_iff_stored {s : StoredLabels} (howned : OwnLabels tenantId messageId s.table) :
    ShowsLast tenantId messageId s ↔ s.stored messageId = s.expected := by
  have hmem := mem_findMany_iff howned
  have hshows : ShowsLast tenantId messageId s ↔ ∀ label,
      label ∈ (s.table.findMany (isLabelOf tenantId messageId)).map MessageLabelRow.toLabel ↔
        label ∈ s.lastLabels := by
    unfold ShowsLast findByMessageId
    dsimp only
    -- `null` is the answer for no labels at all
    split
    · next hempty =>
      rw [List.isEmpty_iff.mp hempty]
      simp [List.eq_nil_iff_forall_not_mem]
    · next hfound =>
      simp only [reduceCtorEq, false_iff, Option.some.injEq, forall_eq']
      refine and_iff_right_of_imp fun h hnil => hfound (List.isEmpty_iff.mpr ?_)
      rw [hnil] at h
      exact List.map_eq_nil_iff.mp (List.eq_nil_iff_forall_not_mem.mpr fun l hl => by cases (h l).mp hl)
  rw [hshows]
  constructor
  · intro h
    refine funext fun category => Option.ext fun label => ?_
    unfold expected
    rw [find_category s.nodup_lastLabels, ← h label, hmem]
    constructor
    · intro hat
      have hcategory := category_of_labelAt hat
      exact ⟨hcategory ▸ hat, hcategory⟩
    · rintro ⟨hat, rfl⟩
      exact hat
  · intro h label
    have hat : labelAt s.table messageId label.category = s.expected label.category :=
      congrFun h label.category
    unfold expected at hat
    rw [hmem, hat, find_category s.nodup_lastLabels, and_iff_left rfl]

/-- What is stored once the labels before the failing call are written. -/
def written (messageId : String) (s : StoredLabels) (save : LabelSave messageId)
    (category : Category) : Option LabelAssignment :=
  (save.written.find? fun l => l.category = category).or (s.stored messageId category)

/-- One save: what it stores, and whether its classification is the last one. -/
theorem step_spec {s : StoredLabels} (howned : OwnLabels tenantId messageId s.table)
    (save : LabelSave messageId) :
    OwnLabels tenantId messageId (s.step tenantId save).table ∧
      (s.step tenantId save).stored messageId = s.written messageId save ∧
      (save.GoesThrough → (s.step tenantId save).expected = save.classification.labels.find) ∧
      (¬ save.GoesThrough → (s.step tenantId save).expected = s.expected) := by
  obtain ⟨howned', hstored, hthrough⟩ := saveLabels_spec save.failAt howned
    save.storable save.classification.labels.nodup
  have hstep : s.step tenantId save =
      ⟨(saveLabels tenantId messageId save.failAt save.classification.labels.items s.table).1,
        if (saveLabels tenantId messageId save.failAt save.classification.labels.items s.table).2 then
          some save.classification else s.last⟩ := by
    unfold step MessageClassificationRepository.save
    rw [save.ofMessage]
  rw [hstep]
  refine ⟨howned', funext hstored, fun hgoes => ?_, fun hfails => ?_⟩
  · rw [if_pos (hthrough.mpr hgoes)]
    rfl
  · rw [if_neg fun h => hfails (hthrough.mp h)]
    rfl

/-- A save that goes through covers what is stored exactly if nothing else stays. -/
theorem covers_iff_of_goesThrough {s : StoredLabels} {save : LabelSave messageId}
    (hgoes : save.GoesThrough) :
    Covers messageId s save ↔ s.written messageId save = save.classification.labels.find := by
  have hor : ∀ a b : Option LabelAssignment, a.or b = a ↔ (b.isSome = true → a.isSome = true) := by
    rintro (_ | a) (_ | b) <;> simp
  have hall : save.written = save.classification.labels.items := by
    unfold LabelSave.written
    rcases hfails : save.failAt with _ | k
    · rfl
    · exact List.take_of_length_le (hgoes k hfails)
  unfold Covers
  rw [and_iff_left fun h => absurd hgoes h, forall_prop_of_true hgoes, funext_iff]
  refine forall_congr' fun category => ?_
  unfold written
  rw [hall]
  exact (hor _ _).symm

/-- A save that fails covers what is stored exactly if that stays as it was. -/
theorem covers_iff_of_fails {s : StoredLabels} {save : LabelSave messageId}
    (hfails : ¬ save.GoesThrough) :
    Covers messageId s save ↔ s.written messageId save = s.stored messageId := by
  have hnodup : (save.written.map LabelAssignment.category).Nodup := by
    unfold LabelSave.written
    rcases save.failAt with _ | k
    · exact save.classification.labels.nodup
    · exact save.classification.labels.nodup.sublist ((List.take_sublist _ _).map _)
  unfold Covers
  rw [and_iff_right fun h => absurd h hfails, forall_prop_of_true hfails, funext_iff]
  unfold written
  constructor
  · intro h category
    rcases hfind : save.written.find? (fun l => l.category = category) with _ | label
    · rw [hfind]
      rfl
    · obtain ⟨hmem, rfl⟩ := (find_category hnodup).mp hfind
      rw [hfind]
      exact (h label hmem).symm
  · intro h label hmem
    have hat := h label.category
    rw [(find_category hnodup).mpr ⟨hmem, rfl⟩] at hat
    exact hat.symm

/-- Every save leaves what should be stored exactly if it covers what was stored. -/
theorem changes_step {s : StoredLabels} (howned : OwnLabels tenantId messageId s.table)
    (save : LabelSave messageId) :
    Changes (stored messageId) expected (Covers messageId s save) s (s.step tenantId save) := by
  obtain ⟨-, hstored, hthrough, hfailed⟩ := step_spec howned save
  by_cases hgoes : save.GoesThrough
  · refine ⟨fun _ => save.classification.labels.find, hthrough hgoes, ?_⟩
    rw [hstored]
    exact covers_iff_of_goesThrough hgoes
  · refine ⟨id, hfailed hgoes, ?_⟩
    rw [hstored]
    exact covers_iff_of_fails hgoes

end StoredLabels

/-- Over all saves of a message that started without labels, `findByMessageId` returns the classification
saved last exactly as long as every save covers what is stored. -/
theorem showsLast_iff {tenantId messageId : String} {t : MessageLabelTable}
    (ht : ∀ r ∈ t.rows, r.message_id ≠ messageId) (saves : List (LabelSave messageId)) :
    Along (fun _ _ s' => ShowsLast tenantId messageId s') ⟨t, none⟩
        (exec (StoredLabels.step tenantId) ⟨t, none⟩ saves) ↔
      Along (fun s save _ => Covers messageId s save) ⟨t, none⟩
        (exec (StoredLabels.step tenantId) ⟨t, none⟩ saves) := by
  refine along_iff (I := fun s => OwnLabels tenantId messageId s.table ∧ s.stored messageId = s.expected)
    ?_ ?_ (along_exec _ _ saves) ⟨fun r hr hmessage => absurd hmessage (ht r hr), ?_⟩
  · rintro s save _ ⟨howned, hexact⟩ rfl
    rw [StoredLabels.showsLast_iff_stored (StoredLabels.step_spec howned save).1]
    exact (StoredLabels.changes_step howned save).exact_iff hexact
  · rintro s save _ ⟨howned, hexact⟩ rfl hcovers
    exact ⟨(StoredLabels.step_spec howned save).1,
      ((StoredLabels.changes_step howned save).exact_iff hexact).mpr hcovers⟩
  · funext category
    have hnone : t.find (messageId, category) = none :=
      Table.find_eq_none_iff.mpr fun r hr hkey => ht r hr (congrArg Prod.fst hkey)
    unfold StoredLabels.stored labelAt
    rw [hnone]
    rfl

/-- The message is about work. -/
def workOnly : LabelSave "message" where
  classification :=
    { MessageClassification.new "tenant" "message" with
      labels := Keyed.empty.put ⟨.WORK, 8 / 10, .cheap_llm, "1.0.0"⟩
      isFinalized := true }
  ofMessage := rfl
  storable := by decide +kernel
  failAt := none

/-- A classification that is saved again, the second time with a failure. -/
theorem showsLast_savedAgain :
    Along (fun _ _ s' => ShowsLast "tenant" "message" s') ⟨Table.empty, none⟩
        (exec (StoredLabels.step "tenant") ⟨Table.empty, none⟩
          [workOnly, { workOnly with failAt := some 0 }]) ↔
      Along (fun s save _ => Covers "message" s save) ⟨Table.empty, none⟩
        (exec (StoredLabels.step "tenant") ⟨Table.empty, none⟩
          [workOnly, { workOnly with failAt := some 0 }]) :=
  showsLast_iff (fun _ hr => absurd hr List.not_mem_nil) _

/-! ## A reclassification

A category that the new labels leave out stays.
-/

/-- A later pipeline finds that the message is about work and money. -/
def workAndFinance : LabelSave "message" where
  classification :=
    { MessageClassification.new "tenant" "message" with
      labels := (Keyed.empty.put ⟨.WORK, 9 / 10, .cheap_llm, "2.0.0"⟩).put
        ⟨.FINANCE, 7 / 10, .cheap_llm, "2.0.0"⟩
      isFinalized := true }
  ofMessage := rfl
  storable := by decide +kernel
  failAt := none

/-- The pipeline is rolled back, and the label for money stays. -/
theorem not_showsLast_reclassified :
    ¬ Along (fun _ _ s' => ShowsLast "tenant" "message" s') ⟨Table.empty, none⟩
      (exec (StoredLabels.step "tenant") ⟨Table.empty, none⟩ [workAndFinance, workOnly]) := by
  rintro ⟨-, ⟨-, hshows⟩, -⟩
  have hfound : ((findByMessageId (((StoredLabels.mk Table.empty none).step "tenant" workAndFinance).step
      "tenant" workOnly).table "tenant" "message").map fun c => c.labels.items) =
        some [⟨.WORK, 8 / 10, .cheap_llm, "1.0.0"⟩, ⟨.FINANCE, 7 / 10, .cheap_llm, "2.0.0"⟩] := by
    decide +kernel
  obtain ⟨c, hc, hlabels⟩ := Option.map_eq_some_iff.mp hfound
  have hstale := (hshows c hc ⟨.FINANCE, 7 / 10, .cheap_llm, "2.0.0"⟩).mp (by rw [hlabels]; decide +kernel)
  exact absurd hstale (by decide +kernel)

end EmailTriage.Classification
