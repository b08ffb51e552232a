import EmailTriage.Classification.MessageClassificationRepository

/-!
# Labels of other tenants

`MessageClassificationRepository.save` looks for the row of a label by message and category, whichever
tenant the row belongs to, and an update leaves its tenant alone; `findByMessageId` looks for the rows
of one tenant. Two tenants may use the same message id, and a label then belongs to the tenant that was
the first to save one.

`Wrote` says what the upsert of a label does to the row it finds, `saveLabels_rows` what a whole save
does to the table, and `staysInTenant_iff` which saves stay inside their tenant.
-/

namespace EmailTriage.Classification

open Db

namespace LabelAssignment

/-- The label as the table keeps it; `none` where its confidence does not fit the column. -/
def asStored (label : LabelAssignment) : Option LabelAssignment :=
  (toDecimal label.confidence).map fun confidence => { label with confidence }

end LabelAssignment

namespace MessageClassificationRepository

/-- The labels a save writes: those before the call that fails, and before the first one whose
confidence does not fit the column. -/
def written (failAt : Option ℕ) (labels : List LabelAssignment) : List LabelAssignment :=
  (reached failAt labels).takeWhile fun label => label.asStored.isSome

/-- What an upsert of the tenant leaves in the place of the row it finds. The row keeps its tenant, and
a new one is the tenant's. -/
structure Wrote (tenantId : String) (label : LabelAssignment) (found : Option MessageLabelRow)
    (r : MessageLabelRow) : Prop where
  columns : label.asStored = some r.toLabel
  kept : ∀ r₀, found = some r₀ → r.id = r₀.id ∧ r.tenant_id = r₀.tenant_id
  created : found = none → r.tenant_id = tenantId

section

variable {tenantId messageId : String} {t : MessageLabelTable}

/-- The upsert of a label whose confidence fits the column writes the row at its key and no other. -/
theorem find_upsertLabel (tenantId messageId : String) (t : MessageLabelTable) {label : LabelAssignment}
    (hstored : label.asStored.isSome = true) :
    ∃ t', upsertLabel t tenantId messageId label = some t' ∧
      (∃ r, t'.find (messageId, label.category) = some r ∧
        Wrote tenantId label (t.find (messageId, label.category)) r) ∧
      ∀ k, k ≠ (messageId, label.category) → t'.find k = t.find k := by
  obtain ⟨confidence, hdecimal⟩ : ∃ confidence, toDecimal label.confidence = some confidence := by
    rw [LabelAssignment.asStored, Option.isSome_map] at hstored
    exact Option.isSome_iff_exists.mp hstored
  have hcolumns : label.asStored = some { label with confidence } := by
    rw [LabelAssignment.asStored, hdecimal]
    rfl
  unfold upsertLabel
  rw [hdecimal]
  obtain ⟨t', ht', hfind⟩ := Table.find_upsert (t := t) (k := (messageId, label.category))
    (updateData confidence label)
    (r := ⟨t.freshId, tenantId, messageId, label.category, confidence, label.sourceTier,
      label.classifierVersion⟩) rfl fun _ hr => Table.ne_freshId hr
  refine ⟨t', ht', ⟨_, (hfind _).trans (if_pos rfl), ?_⟩, fun k hk => (hfind k).trans (if_neg hk)⟩
  rcases hfound : t.find (messageId, label.category) with _ | r₀
  · exact ⟨hcolumns, fun r₀ h => (Option.some_ne_none r₀ h.symm).elim, fun _ => rfl⟩
  · refine ⟨?_, fun r₁ h => ?_, fun h => (Option.some_ne_none r₀ h).elim⟩
    · have hcategory : r₀.category = label.category :=
        congrArg Prod.snd (Table.find_eq_some_iff.mp hfound).2
      rw [hcolumns, Option.some_inj]
      exact congrArg (LabelAssignment.mk · confidence label.sourceTier label.classifierVersion)
        hcategory.symm
    · cases h
      exact ⟨rfl, rfl⟩

/-- A label that the column does not take is not stored. -/
theorem upsertLabel_eq_none {label : LabelAssignment} (h : label.asStored = none) :
    upsertLabel t tenantId messageId label = none := by
  rw [LabelAssignment.asStored, Option.map_eq_none_iff] at h
  unfold upsertLabel
  rw [h]
  rfl

/-- What is written is a label of the classification. -/
theorem mem_of_mem_written {failAt : Option ℕ} {labels : List LabelAssignment}
    {label : LabelAssignment} (h : label ∈ written failAt labels) : label ∈ labels :=
  mem_of_mem_reached ((List.takeWhile_prefix _).subset h)

/-- The first label of a save: the save stops at it, or writes its row and goes on with the others. -/
theorem saveLabels_cons (failAt : Option ℕ) (label : LabelAssignment) (labels : List LabelAssignment)
    (t : MessageLabelTable) :
    (saveLabels tenantId messageId failAt (label :: labels) t = (t, false) ∧
        written failAt (label :: labels) = []) ∨
      ∃ t', saveLabels tenantId messageId failAt (label :: labels) t =
          saveLabels tenantId messageId (failAt.map (· - 1)) labels t' ∧
        written failAt (label :: labels) = label :: written (failAt.map (· - 1)) labels ∧
        (∃ r, t'.find (messageId, label.category) = some r ∧
          Wrote tenantId label (t.find (messageId, label.category)) r) ∧
        ∀ k, k ≠ (messageId, label.category) → t'.find k = t.find k := by
  by_cases hfails : failAt = some 0
  · -- the call for the first label fails
    refine Or.inl ⟨?_, ?_⟩
    · rw [saveLabels, if_pos hfails]
    · rw [hfails]
      rfl
  by_cases hfits : label.asStored.isSome = true
  · obtain ⟨t', ht', hwrote, hothers⟩ := find_upsertLabel tenantId messageId t hfits
    refine Or.inr ⟨t', ?_, ?_, hwrote, hothers⟩
    · rw [saveLabels, if_neg hfails, ht']
    · unfold written
      rw [reached_cons hfails]
      exact List.takeWhile_cons_of_pos hfits
  · -- its confidence does not fit the column
    have hnone : label.asStored = none := Option.not_isSome_iff_eq_none.mp hfits
    refine Or.inl ⟨?_, ?_⟩
    · rw [saveLabels, if_neg hfails, upsertLabel_eq_none hnone]
    · unfold written
      rw [reached_cons hfails]
      exact List.takeWhile_cons_of_neg hfits

/-- Without labels nothing is written. -/
theorem written_nil (failAt : Option ℕ) : written failAt [] = [] := by
  rcases failAt with _ | k
  · rfl
  · rw [written, reached, List.take_nil]
    rfl

/-- A save writes the rows of the labels it gets to and no others, and goes through if these are all. -/
theorem saveLabels_rows (tenantId messageId : String) (t : MessageLabelTable) (failAt : Option ℕ)
    {labels : List LabelAssignment} (hnodup : (labels.map LabelAssignment.category).Nodup) :
    (∀ k, (∀ label ∈ written failAt labels, k ≠ (messageId, label.category)) →
      (saveLabels tenantId messageId failAt labels t).1.find k = t.find k) ∧
    (∀ label ∈ written failAt labels,
      ∃ r, (saveLabels tenantId messageId failAt labels t).1.find (messageId, label.category) = some r ∧
        Wrote tenantId label (t.find (messageId, label.category)) r) ∧
    ((saveLabels tenantId messageId failAt labels t).2 = true ↔ written failAt labels = labels) := by
  induction labels generalizing failAt t with
  | nil =>
    rw [written_nil]
    exact ⟨fun _ _ => rfl, fun _ h => absurd h List.not_mem_nil, iff_of_true rfl rfl⟩
  | cons label labels ih =>
    rcases saveLabels_cons failAt label labels t with
      ⟨hsave, hwritten⟩ | ⟨t', hsave, hwritten, ⟨r, hr, hwrote⟩, hothers⟩
    · rw [hsave, hwritten]
      exact ⟨fun _ _ => rfl, fun _ h => absurd h List.not_mem_nil,
        iff_of_false Bool.false_ne_true (List.cons_ne_nil _ _).symm⟩
    · obtain ⟨hfresh, hnodup'⟩ := List.nodup_cons.mp hnodup
      obtain ⟨hkept, hrows, hthrough⟩ := ih t' (failAt.map (· - 1)) hnodup'
      -- no later label has the category again
      have hlater : ∀ l ∈ written (failAt.map (· - 1)) labels,
          (messageId, l.category) ≠ (messageId, label.category) := by
        intro l hl heq
        have hcategory : l.category = label.category := congrArg Prod.snd heq
        exact hfresh (hcategory ▸ List.mem_map_of_mem (mem_of_mem_written hl))
      rw [hsave, hwritten]
      refine ⟨fun k hk => ?_, fun l hl => ?_, hthrough.trans ?_⟩
      · rw [hkept k fun l hl => hk l (List.mem_cons_of_mem _ hl)]
        exact hothers k (hk label List.mem_cons_self)
      · rcases List.mem_cons.mp hl with rfl | hl
        · rw [hkept _ fun l' hl' heq => hlater l' hl' heq.symm]
          exact ⟨r, hr, hwrote⟩
        · rw [← hothers _ (hlater l hl)]
          exact hrows l hl
      · rw [List.cons.injEq]
        exact (and_iff_right rfl).symm

/-- The row written is the tenant's exactly if the upsert did not find the row of another tenant. -/
theorem Wrote.tenant_iff {label : LabelAssignment} {found : Option MessageLabelRow} {r : MessageLabelRow}
    (hwrote : Wrote tenantId label found r) :
    r.tenant_id = tenantId ↔ ∀ r₀, found = some r₀ → r₀.tenant_id = tenantId := by
  constructor
  · intro htenant r₀ hfound
    rw [← (hwrote.kept r₀ hfound).2]
    exact htenant
  · intro hfound
    rcases hrow : found with _ | r₀
    · exact hwrote.created hrow
    · rw [(hwrote.kept r₀ hrow).2]
      exact hfound r₀ hrow

/-- An upsert that finds what it writes leaves the row as it is. -/
theorem Wrote.eq_of_asStored {label : LabelAssignment} {r r₀ : MessageLabelRow}
    (hwrote : Wrote tenantId label (some r₀) r) (hmessage : r.message_id = r₀.message_id)
    (hsame : label.asStored = some r₀.toLabel) : r = r₀ := by
  have hlabel : r.toLabel = r₀.toLabel := Option.some.inj (hwrote.columns.symm.trans hsame)
  obtain ⟨hid, htenant⟩ := hwrote.kept r₀ rfl
  obtain ⟨hcategory, hconfidence, htier, hversion⟩ := LabelAssignment.mk.inj hlabel
  cases r
  cases r₀
  simp_all

/-- `findByMessageId` returns a label exactly if the row at its key is the tenant's and holds it. -/
theorem findByMessageId_iff {label : LabelAssignment} :
    (∃ found, findByMessageId t tenantId messageId = some found ∧ label ∈ found.labels.items) ↔
      ∃ r, t.find (messageId, label.category) = some r ∧ r.tenant_id = tenantId ∧
        r.toLabel = label := by
  have hmem : label ∈ (t.findMany (isLabelOf tenantId messageId)).map MessageLabelRow.toLabel ↔
      ∃ r, t.find (messageId, label.category) = some r ∧ r.tenant_id = tenantId ∧
        r.toLabel = label := by
    rw [List.mem_map]
    -- the key of a label is its message and category, and does not begin with the tenant
    refine exists_congr fun r => ?_
    unfold Table.findMany isLabelOf
    rw [List.mem_filter, Bool.and_eq_true, decide_eq_true_eq, decide_eq_true_eq,
      Table.find_eq_some_iff]
    constructor
    · rintro ⟨⟨hr, htenant, hmessage⟩, rfl⟩
      exact ⟨⟨hr, Prod.ext hmessage rfl⟩, htenant, rfl⟩
    · rintro ⟨⟨hr, hkey⟩, htenant, hlabel⟩
      exact ⟨⟨hr, htenant, congrArg Prod.fst hkey⟩, hlabel⟩
  rw [← hmem]
  unfold findByMessageId
  dsimp only
  split_ifs with hempty
  · rw [List.isEmpty_iff.mp hempty]
    refine iff_of_false ?_ List.not_mem_nil
    rintro ⟨_, hfound, -⟩
    exact hfound.elim
  · constructor
    · rintro ⟨found, hfound, hlabel⟩
      rw [← Option.some.inj hfound] at hlabel
      exact hlabel
    · exact fun hlabel => ⟨_, rfl, hlabel⟩

end

/-! ## Saves that stay inside their tenant

The rows are found by message and category, without the tenant. So a save stays inside its tenant
exactly if the rows that it finds are the tenant's, or hold already what a save that fails writes to
them.
-/

section

variable (t : MessageLabelTable) (tenantId : String) (classification : MessageClassification)
  (failAt : Option ℕ)

/-- A save leaves the labels of all other tenants as they are, and `findByMessageId` returns what a
save that goes through has saved. -/
def StaysInTenant : Prop :=
  (∀ other, other ≠ tenantId → ∀ r : MessageLabelRow, r.tenant_id = other →
    (r ∈ (save t tenantId classification failAt).1.rows ↔ r ∈ t.rows)) ∧
  ((save t tenantId classification failAt).2 = true → ∀ label ∈ classification.labels.items,
    ∃ found, findByMessageId (save t tenantId classification failAt).1 tenantId
      classification.messageId = some found ∧ label ∈ found.labels.items)

/-- All labels of a classification get written. -/
def WritesAll : Prop :=
  written failAt classification.labels.items = classification.labels.items

/-- Where a label that gets written is stored for the message already, it is the tenant's, or a save
that does not write all its labels writes what is stored. A save that writes all has confidences that
the column stores as they are. -/
def WritesOwn : Prop :=
  (∀ label ∈ written failAt classification.labels.items, ∀ r,
    t.find (classification.messageId, label.category) = some r →
      r.tenant_id = tenantId ∨
        ¬ WritesAll classification failAt ∧ label.asStored = some r.toLabel) ∧
  (WritesAll classification failAt →
    ∀ label ∈ classification.labels.items, label.asStored = some label)

variable {t tenantId classification failAt}

/-- A save returns exactly if it writes all its labels. -/
theorem save_eq_true_iff :
    (save t tenantId classification failAt).2 = true ↔ WritesAll classification failAt :=
  (saveLabels_rows tenantId classification.messageId t failAt classification.labels.nodup).2.2

/-- A save that finds the label of another tenant leaves it as it is where it writes what is there. -/
theorem find_save_iff_of_other (hsame : ∀ label ∈ written failAt classification.labels.items, ∀ r,
      t.find (classification.messageId, label.category) = some r →
        r.tenant_id = tenantId ∨ label.asStored = some r.toLabel)
    {r : MessageLabelRow} (hother : r.tenant_id ≠ tenantId) (k : String × Category) :
    (save t tenantId classification failAt).1.find k = some r ↔ t.find k = some r := by
  obtain ⟨hkept, hrows, -⟩ := saveLabels_rows tenantId classification.messageId t failAt
    classification.labels.nodup
  by_cases hwritten : ∃ label ∈ written failAt classification.labels.items,
      k = (classification.messageId, label.category)
  · obtain ⟨label, hlabel, rfl⟩ := hwritten
    obtain ⟨r', hr', hwrote⟩ := hrows label hlabel
    have hmessage : r'.message_id = classification.messageId :=
      congrArg Prod.fst (Table.find_eq_some_iff.mp hr').2
    -- the row found before is another tenant's, so it is written as it was
    have hunchanged : ∀ r₀, t.find (classification.messageId, label.category) = some r₀ →
        r₀.tenant_id ≠ tenantId → r' = r₀ := by
      intro r₀ hr₀ htenant
      rw [hr₀] at hwrote
      refine hwrote.eq_of_asStored ?_ ((hsame label hlabel r₀ hr₀).resolve_left htenant)
      rw [hmessage]
      exact (congrArg Prod.fst (Table.find_eq_some_iff.mp hr₀).2).symm
    constructor
    · intro hr
      obtain rfl : r' = r := Option.some.inj (hr'.symm.trans hr)
      rcases hfound : t.find (classification.messageId, label.category) with _ | r₀
      · exact absurd (hwrote.created hfound) hother
      · have htenant : r₀.tenant_id ≠ tenantId := (hwrote.kept r₀ hfound).2 ▸ hother
        rw [hunchanged r₀ hfound htenant]
    · intro hr
      rw [← hunchanged r hr hother]
      exact hr'
  · have hfind : (save t tenantId classification failAt).1.find k = t.find k :=
      hkept k fun label hlabel heq => hwritten ⟨label, hlabel, heq⟩
    rw [hfind]

/-- The labels of the other tenants stay as they are exactly if a save that finds one of them writes
what is there. -/
theorem othersKept_iff :
    (∀ other, other ≠ tenantId → ∀ r : MessageLabelRow, r.tenant_id = other →
        (r ∈ (save t tenantId classification failAt).1.rows ↔ r ∈ t.rows)) ↔
      ∀ label ∈ written failAt classification.labels.items, ∀ r,
        t.find (classification.messageId, label.category) = some r →
          r.tenant_id = tenantId ∨ label.asStored = some r.toLabel := by
  constructor
  · intro hothers label hlabel r hr
    by_cases htenant : r.tenant_id = tenantId
    · exact Or.inl htenant
    · obtain ⟨-, hrows, -⟩ := saveLabels_rows tenantId classification.messageId t failAt
        classification.labels.nodup
      obtain ⟨r', hr', hwrote⟩ := hrows label hlabel
      obtain ⟨hmem, hkey⟩ := Table.find_eq_some_iff.mp hr
      have hstays := Table.find_key ((hothers _ htenant r rfl).mpr hmem)
      rw [hkey] at hstays
      have hsame : r' = r := Option.some.inj (hr'.symm.trans hstays)
      exact Or.inr (hsame ▸ hwrote.columns)
  · rintro hsame _ hother r rfl
    have hfind := find_save_iff_of_other hsame hother (Schema.key r)
    rw [Table.find_eq_some_iff, Table.find_eq_some_iff, and_iff_left rfl, and_iff_left rfl] at hfind
    exact hfind

/-- What a save that writes all its labels has saved is found exactly if none of them was another tenant's
and the column stores their confidences as they are. -/
theorem saved_found_iff (hall : WritesAll classification failAt) :
    (∀ label ∈ classification.labels.items,
        ∃ found, findByMessageId (save t tenantId classification failAt).1 tenantId
          classification.messageId = some found ∧ label ∈ found.labels.items) ↔
      ∀ label ∈ classification.labels.items, label.asStored = some label ∧
        ∀ r, t.find (classification.messageId, label.category) = some r → r.tenant_id = tenantId := by
  obtain ⟨-, hrows, -⟩ := saveLabels_rows tenantId classification.messageId t failAt
    classification.labels.nodup
  refine forall₂_congr fun label hlabel => ?_
  obtain ⟨r, hr, hwrote⟩ := hrows label (by rw [hall]; exact hlabel)
  rw [findByMessageId_iff, ← hwrote.tenant_iff, hwrote.columns, Option.some_inj]
  constructor
  · rintro ⟨r', hr', htenant, hlabel'⟩
    obtain rfl : r = r' := Option.some.inj (hr.symm.trans hr')
    exact ⟨hlabel', htenant⟩
  · exact fun ⟨hlabel', htenant⟩ => ⟨r, hr, htenant, hlabel'⟩

/-- Over all stored labels, classifications and failing calls, a save stays inside its tenant exactly
if it writes labels of the tenant only, with confidences that are stored as they are. -/
theorem staysInTenant_iff (t : MessageLabelTable) (tenantId : String)
    (classification : MessageClassification) (failAt : Option ℕ) :
    StaysInTenant t tenantId classification failAt ↔ WritesOwn t tenantId classification failAt := by
  unfold StaysInTenant WritesOwn
  rw [othersKept_iff, save_eq_true_iff]
  by_cases hall : WritesAll classification failAt
  · simp only [hall, not_true_eq_false, false_and, or_false, forall_const]
    rw [saved_found_iff hall, show written failAt classification.labels.items =
      classification.labels.items from hall]
    constructor
    · rintro ⟨-, hsaved⟩
      exact ⟨fun label hlabel => (hsaved label hlabel).2, fun label hlabel => (hsaved label hlabel).1⟩
    · rintro ⟨hown, hstored⟩
      exact ⟨fun label hlabel r hr => Or.inl (hown label hlabel r hr),
        fun label hlabel => ⟨hstored label hlabel, hown label hlabel⟩⟩
  · simp only [hall, not_false_eq_true, true_and, false_implies, and_true]

end

end MessageClassificationRepository

open MessageClassificationRepository

/-- The other tenant has labelled its message with the same id. -/
def labelOfOther : MessageLabelTable where
  rows := [⟨0, "other", "message", .WORK, 1 / 2, .cheap_llm, "1.0.0"⟩]
  id_nodup := List.nodup_singleton _
  key_nodup := List.nodup_singleton _

/-- The save overwrites the label of the other tenant, and its own tenant does not find it. -/
theorem not_staysInTenant_labelOfOther :
    ¬ StaysInTenant labelOfOther "tenant" workOnly.classification none := by
  rintro ⟨hothers, -⟩
  have hkept := (hothers "other" (by decide) ⟨0, "other", "message", .WORK, 1 / 2, .cheap_llm, "1.0.0"⟩
    rfl).mpr (List.mem_singleton_self _)
  exact absurd hkept (by decide +kernel)

end EmailTriage.Classification
