import Mathlib.Data.List.Induction
import EmailTriage.MailboxWriteback.MessageWriteBackService

/-!
# Sequences of write-back calls

What a sequence of calls on one message does to its stored records, one call after another. A record,
once it is there, keeps the desired value it was created with: `desiredValue_run` says which one that
is. Quarantine precedence, idempotence and last value wins are then conditions on the calls.

## The shape of the argument

A call that throws changes no record, and one that answers changes the record of its facet only. So the
record of a facet depends on the calls that answered about it: its desired value is the one it was
created with, and its status is that of the last of them (`exists_record_run`). The results compare
this with what a user would expect: whether a quarantine comes before other facets, whether a repeated
call has an effect, and whether the last value wins.
-/

namespace EmailTriage.MailboxWriteback

open Js Db MessageWriteBackStateRepository MessageWriteBackService
open MailboxIngestion (Platform)

/-! ## The calls of a facet

The answers to the calls on one facet, the latest one, and the value that its record has.
-/

/-- The calls on a facet that the adapter answered, with the answers. -/
def answers (facetType : FacetType) (calls : List Call) : List (Call × ApplyFacetResult) :=
  calls.filterMap fun c =>
    if c.facetType = facetType then c.adapter.toOption.map fun result => (c, result) else none

/-- The value a record is created with: that of the call, or the empty object if the call failed. -/
def createdValue (answer : Call × ApplyFacetResult) : Value :=
  if answer.2.success then answer.1.desiredValue else .obj []

/-- The answer to the latest call on a facet. -/
def latestAnswer (facetType : FacetType) (calls : List Call) : Option ApplyFacetResult :=
  (answers facetType calls).getLast?.map (·.2)

/-- The value of the latest successful call on a facet. -/
def latestApplied (facetType : FacetType) (calls : List Call) : Option Value :=
  ((answers facetType calls).filter fun answer => answer.2.success).getLast?.map fun answer =>
    answer.1.desiredValue

/-- A call that is answered is the latest answer of its facet. -/
theorem answers_append_of_answered {facetType : FacetType} {calls : List Call} {c : Call}
    {result : ApplyFacetResult} (hfacet : c.facetType = facetType)
    (hresult : c.adapter = .ok result) :
    answers facetType (calls ++ [c]) = answers facetType calls ++ [(c, result)] := by
  simp [answers, List.filterMap_append, hfacet, hresult, Except.toOption]

/-- A call that throws is no answer. -/
theorem answers_append_of_thrown {facetType : FacetType} {calls : List Call} {c : Call}
    {e : Exception} (he : c.adapter = .error e) :
    answers facetType (calls ++ [c]) = answers facetType calls := by
  simp [answers, List.filterMap_append, he, Except.toOption]

/-- A call on another facet is none of this one. -/
theorem answers_append_of_ne {facetType : FacetType} {calls : List Call} {c : Call}
    (hfacet : c.facetType ≠ facetType) :
    answers facetType (calls ++ [c]) = answers facetType calls := by
  simp [answers, List.filterMap_append, hfacet]

section

variable (column : Jsonb) (m : MessageRef)

/-- The value the record of a facet is stuck with: that of the record the message had, or else the
one the first answered call created it with. -/
def keptValue (t : MessageWriteBackStateTable) (facetType : FacetType) (calls : List Call) :
    Option Value :=
  ((stored t m facetType).map (·.desiredValue)).or
    ((answers facetType calls).head?.map createdValue)

variable {column m}

/-- One more call after the others. -/
theorem run_append (t : MessageWriteBackStateTable) (calls : List Call) (c : Call) :
    run column m t (calls ++ [c]) = step column m (run column m t calls) c := by
  unfold run
  rw [List.foldl_append]
  rfl

/-- The desired value of the record a call leaves. -/
theorem desiredValue_recordOf (c : Call) (result : ApplyFacetResult)
    (existing : Option FacetApplication) :
    (c.recordOf result existing).desiredValue =
      (existing.map (·.desiredValue)).getD (createdValue (c, result)) := by
  unfold Call.recordOf createdValue
  by_cases hresult : result.success = true
  · rw [if_pos hresult, if_pos hresult, MessageWriteBackState.desiredValue_applied]
  · rw [if_neg hresult, if_neg hresult, MessageWriteBackState.desiredValue_failed]

/-- The status of the record a call leaves. -/
theorem status_recordOf (c : Call) (result : ApplyFacetResult)
    (existing : Option FacetApplication) :
    (c.recordOf result existing).status = if result.success then .applied else .failed := by
  unfold Call.recordOf
  by_cases hresult : result.success = true
  · rw [if_pos hresult, if_pos hresult, MessageWriteBackState.status_applied]
  · rw [if_neg hresult, if_neg hresult]
    rfl

/-! ## Runs

What a run of calls leaves of a facet. The desired value stays the one that the record was created with.
-/

/-- The first answered call on a facet without a record decides its value. -/
theorem keptValue_append_of_answered (t : MessageWriteBackStateTable) (calls : List Call) {c : Call}
    {result : ApplyFacetResult} (hresult : c.adapter = .ok result) :
    keptValue m t c.facetType (calls ++ [c]) =
      some ((keptValue m t c.facetType calls).getD (createdValue (c, result))) := by
  unfold keptValue
  rw [answers_append_of_answered rfl hresult, List.head?_append]
  rcases stored t m c.facetType with _ | r
  · rcases (answers c.facetType calls).head? with _ | answer <;> rfl
  · rfl

variable (column m)

/-- The record of a facet keeps the first value it was given. -/
theorem desiredValue_run (t : MessageWriteBackStateTable) (calls : List Call)
    (facetType : FacetType) :
    (stored (run column m t calls) m facetType).map (fun r => column.stored r.desiredValue) =
      (keptValue m t facetType calls).map column.stored := by
  induction calls using List.reverseRecOn with
  | nil =>
    have hnil : run column m t [] = t := rfl
    rw [hnil]
    rcases h : stored t m facetType with _ | r <;> simp [keptValue, answers, h]
  | append_singleton calls c ih =>
    rw [run_append]
    rcases hadapter : c.adapter with e | result
    · rw [stored_step_of_error column _ hadapter, ih]
      unfold keptValue
      rw [answers_append_of_thrown hadapter]
    · rw [stored_step_of_ok column _ hadapter]
      by_cases hfacet : facetType = c.facetType
      · subst hfacet
        rw [if_pos rfl, keptValue_append_of_answered t calls hadapter, Option.map_some,
          Option.map_some, Option.some.injEq]
        simp only [FacetApplication.stored, column.stored_stored, desiredValue_recordOf]
        -- the new record keeps the value of the old one, which is the kept value up to the column
        rcases hrecord : stored (run column m t calls) m c.facetType with _ | r
        · rw [hrecord, Option.map_none] at ih
          rw [Option.map_eq_none_iff.mp ih.symm]
          rfl
        · rw [hrecord, Option.map_some] at ih
          obtain ⟨v, hv, hstored⟩ := Option.map_eq_some_iff.mp ih.symm
          rw [hv, Option.map_some, Option.getD_some, Option.getD_some, hstored]
      · rw [if_neg hfacet, Option.map_map]
        have hkept : keptValue m t facetType (calls ++ [c]) = keptValue m t facetType calls := by
          unfold keptValue
          rw [answers_append_of_ne (Ne.symm hfacet)]
        rw [hkept, ← ih]
        rcases stored (run column m t calls) m facetType with _ | r
        · rfl
        · simp only [Option.map_some, Function.comp_apply, FacetApplication.stored,
            column.stored_stored]

/-- Once a call on a facet was answered, the facet has a record, its status is that of the latest
answer, and its desired value has been through the column. -/
theorem exists_record_run (t : MessageWriteBackStateTable) (calls : List Call)
    (facetType : FacetType) {result : ApplyFacetResult}
    (h : latestAnswer facetType calls = some result) :
    ∃ r, stored (run column m t calls) m facetType = some r ∧
      column.stored r.desiredValue = r.desiredValue ∧
      r.status = if result.success then .applied else .failed := by
  induction calls using List.reverseRecOn generalizing result with
  | nil => simp [latestAnswer, answers] at h
  | append_singleton calls c ih =>
    rw [run_append]
    unfold latestAnswer at h
    rcases hadapter : c.adapter with e | result'
    · rw [stored_step_of_error column _ hadapter]
      rw [answers_append_of_thrown hadapter] at h
      exact ih h
    · -- an answer for another facet leaves the record of this one, read back from its column
      rw [stored_step_of_ok column _ hadapter]
      by_cases hfacet : facetType = c.facetType
      · subst hfacet
        rw [answers_append_of_answered rfl hadapter, List.getLast?_append] at h
        simp only [List.getLast?_singleton, Option.some_or, Option.map_some,
          Option.some.injEq] at h
        subst h
        rw [if_pos rfl]
        refine ⟨_, rfl, ?_, ?_⟩
        · simp only [FacetApplication.stored, column.stored_stored]
        · exact status_recordOf c result' _
      · rw [if_neg hfacet]
        rw [answers_append_of_ne (Ne.symm hfacet)] at h
        obtain ⟨r, hr, hvalue, hstatus⟩ := ih h
        refine ⟨r.stored column, ?_, ?_, hstatus⟩
        · rw [hr, Option.map_some]
        · simp only [FacetApplication.stored, column.stored_stored]

/-- A facet that has a successful call has an answered one. -/
theorem exists_latestAnswer {facetType : FacetType} {calls : List Call} {v : Value}
    (h : latestApplied facetType calls = some v) :
    ∃ result, latestAnswer facetType calls = some result := by
  unfold latestApplied at h
  obtain ⟨answer, hanswer, -⟩ := Option.map_eq_some_iff.mp h
  have hmem : answer ∈ answers facetType calls :=
    List.mem_of_mem_filter (List.mem_of_getLast? hanswer)
  unfold latestAnswer
  rcases hlast : (answers facetType calls).getLast? with _ | latest
  · rw [List.getLast?_eq_none_iff.mp hlast] at hmem
    cases hmem
  · exact ⟨latest.2, rfl⟩

end

/-- Something holds of every call of a sequence and the calls before it. -/
def EveryCall (P : List Call → Call → Prop) (calls : List Call) : Prop :=
  ∀ past c rest, calls = past ++ c :: rest → P past c

/-- Conditions on calls that say the same. -/
theorem everyCall_congr {P Q : List Call → Call → Prop} (h : ∀ past c, P past c ↔ Q past c)
    (calls : List Call) : EveryCall P calls ↔ EveryCall Q calls :=
  forall_congr' fun past => forall_congr' fun c => forall_congr' fun _ => imp_congr_right fun _ =>
    h past c

section

variable (column : Jsonb) (m : MessageRef)

/-! ## Quarantine precedence

No call is suppressed: the platform is called for every facet, whatever the threat facet says.
-/

/-- The stored threat record does not ask for quarantine when an adapter is called for another
facet. -/
def QuarantineFirst (t : MessageWriteBackStateTable) (c : Call) : Prop :=
  ∀ t₁, (applyFacet column m t c).atAdapterCall = some t₁ → c.facetType ≠ .threat →
    ∀ r, stored t₁ m .threat = some r → quarantines r.desiredValue = false

/-- The column does not change whether a value asks for quarantine. -/
theorem quarantines_stored (v : Value) : quarantines (column.stored v) = quarantines v := by
  unfold quarantines
  rw [column.isBool_get, column.isBool_get]

/-- No other facet is ever written during a quarantine exactly if no call on another facet comes
after the threat record was created with a value that asks for quarantine. -/
theorem quarantineFirst_iff (t : MessageWriteBackStateTable) (calls : List Call) :
    EveryCall (fun past c => QuarantineFirst column m (run column m t past) c) calls ↔
      EveryCall (fun past c => c.facetType ≠ .threat →
        ∀ v, keptValue m t .threat past = some v → quarantines v = false) calls := by
  refine everyCall_congr (fun past c => ?_) calls
  have hkept := desiredValue_run column m t past .threat
  obtain ⟨t₁, hcall, hstored⟩ := atAdapterCall_applyFacet column (run column m t past) c
  constructor
  · intro h hfacet v hv
    rw [hv, Option.map_some] at hkept
    obtain ⟨r, hr, hvalue⟩ := Option.map_eq_some_iff.mp hkept
    have hr₁ : stored t₁ m .threat = some r := by rw [hstored, hr]
    rw [← quarantines_stored column v, ← hvalue, quarantines_stored]
    exact h t₁ hcall hfacet r hr₁
  · intro h t₁' hcall' hfacet r hr
    rw [hcall, Option.some.injEq] at hcall'
    rw [← hcall', hstored] at hr
    rw [hr, Option.map_some] at hkept
    obtain ⟨v, hv, hvalue⟩ := Option.map_eq_some_iff.mp hkept.symm
    rw [← quarantines_stored column r.desiredValue, ← hvalue, quarantines_stored]
    exact h hfacet v hv

end

/-- The message and the column of the runs below. -/
def sampleMessage : MessageRef := ⟨"tenant", "mailbox", "message"⟩

/-- A call that the adapter answers with success. -/
def successful (facetType : FacetType) (desiredValue : Value) : Call :=
  ⟨facetType, desiredValue, .gmail, .ok ⟨true, none⟩, 0⟩

/-- A quarantined message gets a category label. -/
theorem not_quarantineFirst_threatThenCategory :
    ¬EveryCall (fun past c => QuarantineFirst .exact sampleMessage
        (run .exact sampleMessage Table.empty past) c)
      [successful .threat (.obj [("quarantined", .bool true)]),
        successful .category (.str "Sales")] := by
  intro h
  have hfirst := h [successful .threat (.obj [("quarantined", .bool true)])]
    (successful .category (.str "Sales")) [] rfl _ rfl (by decide) _ rfl
  exact absurd hfirst (by decide)

section

variable (column : Jsonb) (m : MessageRef)

/-! ## Idempotence

The platform is called before the record is looked at, so a redelivery calls it again.
-/

/-- A call that repeats a value: an earlier call on the facet applied it, and no call since asked
for another one. -/
def Redelivery (past : List Call) (c : Call) : Prop :=
  ∃ before first after, past = before ++ first :: after ∧ first.facetType = c.facetType ∧
    first.desiredValue = c.desiredValue ∧ first.Succeeded ∧
    ∀ c' ∈ after, c'.facetType = c.facetType → c'.desiredValue = c.desiredValue

/-- A call that does nothing: no adapter call, no event, and the same stored record. -/
def NoEffect (t : MessageWriteBackStateTable) (c : Call) : Prop :=
  (applyFacet column m t c).atAdapterCall = none ∧
    stored (step column m t c) m c.facetType = stored t m c.facetType ∧
    (applyFacet column m t c).domainEvents = []

/-- Redelivered calls do nothing exactly if there are none: every call is sent to the platform. -/
theorem redelivery_noEffect_iff (t : MessageWriteBackStateTable) (calls : List Call) :
    EveryCall (fun past c => Redelivery past c → NoEffect column m (run column m t past) c) calls ↔
      EveryCall (fun past c => ¬Redelivery past c) calls := by
  refine everyCall_congr (fun past c => ?_) calls
  constructor
  · intro h hredelivery
    obtain ⟨t₁, hcall, -⟩ := atAdapterCall_applyFacet column (run column m t past) c
    have hnone := (h hredelivery).1
    rw [hcall] at hnone
    cases hnone
  · intro h hredelivery
    exact absurd hredelivery h

/-- The second of two equal calls goes to the platform again. -/
theorem not_redelivery_noEffect_category :
    ¬EveryCall (fun past c => Redelivery past c →
        NoEffect .exact sampleMessage (run .exact sampleMessage Table.empty past) c)
      [successful .category (.str "Sales"), successful .category (.str "Sales")] := by
  intro h
  have hredelivery : Redelivery [successful .category (.str "Sales")]
      (successful .category (.str "Sales")) :=
    ⟨[], _, [], rfl, rfl, rfl, ⟨_, rfl, rfl⟩, by simp⟩
  have hnone := (h _ _ [] rfl hredelivery).1
  cases hnone

/-! ## Last value wins

The status is that of the last call, while the value is the one that is kept.
-/

/-- The stored desired value of every facet is that of its latest successful call, and its status is
that of its latest call. -/
def LastValueWins (t : MessageWriteBackStateTable) (calls : List Call) : Prop :=
  ∀ facetType,
    (∀ v, latestApplied facetType calls = some v →
      ∃ r, stored (run column m t calls) m facetType = some r ∧
        r.desiredValue = column.stored v) ∧
    (∀ result, latestAnswer facetType calls = some result →
      ∃ r, stored (run column m t calls) m facetType = some r ∧
        r.status = if result.success then .applied else .failed)

/-- The latest successful call on a facet has the value its record is stuck with. -/
def AppliesKeptValue (t : MessageWriteBackStateTable) (calls : List Call) : Prop :=
  ∀ facetType v w, latestApplied facetType calls = some v →
    keptValue m t facetType calls = some w → column.stored w = column.stored v

/-- The status is always right; the value is, exactly if the kept value is. -/
theorem lastValueWins_run_iff (t : MessageWriteBackStateTable) (calls : List Call) :
    LastValueWins column m t calls ↔ AppliesKeptValue column m t calls := by
  constructor
  · intro h facetType v w hv hw
    obtain ⟨r, hr, hvalue⟩ := (h facetType).1 v hv
    have hkept := desiredValue_run column m t calls facetType
    rw [hr, hw, Option.map_some, Option.map_some, Option.some.injEq] at hkept
    rw [← hkept, hvalue, column.stored_stored]
  · intro h facetType
    refine ⟨fun v hv => ?_, fun result hresult => ?_⟩
    · obtain ⟨result, hresult⟩ := exists_latestAnswer hv
      obtain ⟨r, hr, hvalue, -⟩ := exists_record_run column m t calls facetType hresult
      have hkept := desiredValue_run column m t calls facetType
      rw [hr, Option.map_some] at hkept
      obtain ⟨w, hw, hstored⟩ := Option.map_eq_some_iff.mp hkept.symm
      refine ⟨r, hr, ?_⟩
      rw [← hvalue, ← hstored, h facetType v w hv hw]
    · obtain ⟨r, hr, -, hstatus⟩ := exists_record_run column m t calls facetType hresult
      exact ⟨r, hr, hstatus⟩

end

/-- Applying a value twice emits one event at most. -/
def EmitsAtMostOnce (a : MessageWriteBackState) (facetType : FacetType) (v : Value) : Prop :=
  ∀ platform platform' now now',
    ((a.applyFacet facetType v platform now).applyFacet facetType v platform' now').domainEvents.length
      ≤ a.domainEvents.length + 1

/-- Applying a value twice emits one event at most exactly if the facet has no record, or one whose
desired value prints like it. -/
theorem emitsAtMostOnce_iff (a : MessageWriteBackState) (facetType : FacetType) (v : Value) :
    EmitsAtMostOnce a facetType v ↔
      ∀ r, a.facets facetType = some r → sameJson r.desiredValue v = true := by
  -- each of the two calls emits unless the value it finds is the one that is desired
  have hlength : ∀ platform platform' now now',
      ((a.applyFacet facetType v platform now).applyFacet facetType v platform' now').domainEvents.length
        = a.domainEvents.length
          + (if MessageWriteBackState.alreadyApplied (a.facets facetType) v then 0 else 1)
          + if sameJson (((a.facets facetType).map (·.desiredValue)).getD v) v then 0 else 1 := by
    intro platform platform' now now'
    rw [MessageWriteBackState.domainEvents_applyFacet, MessageWriteBackState.facets_applyFacet,
      Function.update_self, MessageWriteBackState.alreadyApplied_applied,
      MessageWriteBackState.domainEvents_applyFacet]
    split_ifs <;> simp
  unfold EmitsAtMostOnce
  simp only [hlength]
  rcases a.facets facetType with _ | r
  · simp [MessageWriteBackState.alreadyApplied, sameJson]
  · by_cases hsame : sameJson r.desiredValue v = true
    · simp only [Option.map_some, Option.getD_some, hsame, if_true]
      constructor
      · intro _ r' hr'
        rw [← Option.some.inj hr', hsame]
      · intro _ _ _ _ _
        split <;> omega
    · have hnot : MessageWriteBackState.alreadyApplied (some r) v = false := by
        simp [MessageWriteBackState.alreadyApplied, hsame]
      constructor
      · intro h
        have hle := h .gmail .gmail 0 0
        simp [hnot, hsame] at hle
      · intro h
        exact absurd (h r rfl) hsame

/-- Between JSON values, that is the same desired value. -/
theorem emitsAtMostOnce_iff_of_isJson {a : MessageWriteBackState} {facetType : FacetType} {v : Value}
    (hv : IsJson v) (hrecord : ∀ r, a.facets facetType = some r → IsJson r.desiredValue) :
    EmitsAtMostOnce a facetType v ↔ ∀ r, a.facets facetType = some r → r.desiredValue = v := by
  rw [emitsAtMostOnce_iff]
  exact forall₂_congr fun r hr => sameJson_iff (hrecord r hr) hv

/-- When the last value wins in a sequence of calls, and when applying a value twice emits at most
one event. -/
theorem lastValueWins_iff (column : Jsonb) (m : MessageRef) (t : MessageWriteBackStateTable)
    (calls : List Call) (a : MessageWriteBackState) (facetType : FacetType) (v : Value) :
    (LastValueWins column m t calls ↔ AppliesKeptValue column m t calls) ∧
      (EmitsAtMostOnce a facetType v ↔
        ∀ r, a.facets facetType = some r → sameJson r.desiredValue v = true) :=
  ⟨lastValueWins_run_iff column m t calls, emitsAtMostOnce_iff a facetType v⟩

/-- A category that changes: the second value is applied to the platform but not stored. -/
theorem not_lastValueWins_changedCategory :
    ¬LastValueWins .exact sampleMessage Table.empty
      [successful .category (.str "Sales"), successful .category (.str "Social")] := by
  intro h
  obtain ⟨r, hr, hvalue⟩ := (h .category).1 (.str "Social") rfl
  have hstored : stored (run .exact sampleMessage Table.empty
      [successful .category (.str "Sales"), successful .category (.str "Social")]) sampleMessage
      .category = some ⟨.category, .str "Sales", .null, .applied, some 0, 0⟩ := rfl
  rw [hstored, Option.some.injEq] at hr
  rw [← hr] at hvalue
  simp [Jsonb.exact] at hvalue

end EmailTriage.MailboxWriteback
