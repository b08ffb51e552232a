import EmailTriage.Lib.Codec
import EmailTriage.Lib.JsObject
import Mathlib.Algebra.Order.Field.Basic
import Mathlib.Data.List.MinMax
import Mathlib.Data.Rat.Cast.Order
import Mathlib.Tactic.Linarith

/-!
# The reputation of a sender domain

`src/feedback-learning/domain/`: the value object `reputation-entry.ts` and the aggregate
`sender-reputation-cache.aggregate.ts`, a map from categories to what was observed of them. Weights are
exact rationals.

`closedForm_recordAll` says what any sequence of `recordCategory` leaves: each entry is a function of the
calls for its category, and the most likely category is one of maximal confidence.

The calls for a category are mixed with those for others, and only the former touch its entry, so an
entry depends on the calls for its category alone (`known_recordAll`). The first of them sets the
confidence and each later one raises it by a constant up to 1, which `closedForm` says without the
loop.
-/

namespace EmailTriage.FeedbackLearning

open Js

/-! ## Entries

A further observation of a category raises its confidence a little, up to one.
-/

structure ReputationEntry where
  category : String
  observationCount : ℕ
  confidenceWeight : ℚ
  lastUpdatedAt : Dyn Date

namespace ReputationEntry

def withAdditionalObservation (e : ReputationEntry) (confidenceBoost : ℚ) (now : ℤ) : ReputationEntry :=
  let newConfidence := min 1 (e.confidenceWeight + confidenceBoost)
  ⟨e.category, e.observationCount + 1, newConfidence, ⟨.date (some now)⟩⟩

end ReputationEntry

/-! ## The aggregate

The history of a domain by category. An observation is added to the entry of its category, or makes one.
-/

/-- The map `categoryHistory`. -/
abbrev CategoryHistory := StringMap ReputationEntry

structure SenderReputationCache where
  tenantId : String
  senderDomain : String
  categoryHistory : CategoryHistory

namespace SenderReputationCache

def create (tenantId senderDomain : String) : SenderReputationCache := ⟨tenantId, senderDomain, .empty⟩

/-- The weight of a call that names none. -/
def defaultConfidenceWeight : ℚ := 0.8

def recordCategory (c : SenderReputationCache) (category : String) (confidenceWeight : ℚ) (now : ℤ) :
    SenderReputationCache :=
  match c.categoryHistory.find category with
  | some (_, existing) =>
    { c with categoryHistory :=
        c.categoryHistory.put (category, existing.withAdditionalObservation 0.05 now) }
  | none =>
    { c with categoryHistory :=
        c.categoryHistory.put (category, ⟨category, 1, confidenceWeight, ⟨.date (some now)⟩⟩) }

/-- One turn of the loop of `getMostLikelyCategory`. -/
def better (best : Option (String × ReputationEntry)) (item : String × ReputationEntry) :
    Option (String × ReputationEntry) :=
  match best with
  | none => some item
  | some b => if item.2.confidenceWeight > b.2.confidenceWeight then some item else some b

def getMostLikelyCategory (c : SenderReputationCache) : Option String :=
  (c.categoryHistory.items.foldl better none).map Prod.fst

/-- The loop takes the first entry of maximal confidence. -/
theorem getMostLikelyCategory_eq (c : SenderReputationCache) : c.getMostLikelyCategory =
    (c.categoryHistory.items.argmax fun item => item.2.confidenceWeight).map Prod.fst := by
  have hbetter : better = List.argAux fun b c => c.2.confidenceWeight < b.2.confidenceWeight := by
    funext best item
    cases best with
    | none => rfl
    | some b => rfl
  unfold getMostLikelyCategory List.argmax
  rw [hbetter]

/-- A call changes the entry of its category only. -/
theorem find_recordCategory (c : SenderReputationCache) (category : String) (confidenceWeight : ℚ) (now : ℤ)
    (k : String) : (c.recordCategory category confidenceWeight now).categoryHistory.find k =
      if k = category then
        some (category, match c.categoryHistory.find category with
          | some (_, existing) => existing.withAdditionalObservation 0.05 now
          | none => ⟨category, 1, confidenceWeight, ⟨.date (some now)⟩⟩)
      else c.categoryHistory.find k := by
  unfold recordCategory
  rcases c.categoryHistory.find category with _ | ⟨_, existing⟩
  · exact Keyed.find_put ..
  · exact Keyed.find_put ..

end SenderReputationCache

/-! ## Observations

Whatever is called, in any interleaving of the categories, an entry has the closed form of the calls
for its own category.
-/

/-- A call of `recordCategory`. -/
structure Observation where
  category : String
  weight : ℚ
  now : ℤ
  nonneg : 0 ≤ weight
  le_one : weight ≤ 1

/-- The count and the confidence that a category has after the calls for it. -/
def closedForm : List Observation → Option (ℕ × ℚ)
  | [] => none
  | first :: later => some (later.length + 1, min 1 (first.weight + 0.05 * later.length))

/-- One call more. -/
theorem closedForm_concat (l : List Observation) (o : Observation) : closedForm (l ++ [o]) =
    some (match closedForm l with
      | none => (1, o.weight)
      | some (count, confidence) => (count + 1, min 1 (confidence + 0.05))) := by
  rcases l with _ | ⟨first, later⟩
  · have hweight : min 1 (o.weight + 0.05 * ([] : List Observation).length) = o.weight := by
      rw [List.length_nil, Nat.cast_zero, mul_zero, add_zero, min_eq_right o.le_one]
    exact congrArg some (Prod.ext rfl hweight)
  · -- a confidence that has reached 1 stays there
    have hsaturates : min 1 (min 1 (first.weight + 0.05 * later.length) + 0.05 : ℚ) =
        min 1 (first.weight + 0.05 * (later ++ [o]).length) := by
      rw [List.length_append, List.length_singleton, Nat.cast_add, Nat.cast_one]
      rcases le_total 1 (first.weight + 0.05 * later.length) with h | h
      · rw [min_eq_left h, min_eq_left (by linarith), min_eq_left (by linarith)]
      · rw [min_eq_right h]
        rw [mul_add, mul_one, add_assoc]
    refine congrArg some (Prod.ext ?_ hsaturates.symm)
    exact congrArg (· + 1) (List.length_append ..)

/-- The confidence is a probability. -/
theorem closedForm_bounded {l : List Observation} {count : ℕ} {confidence : ℚ}
    (h : closedForm l = some (count, confidence)) : 0 ≤ confidence ∧ confidence ≤ 1 := by
  rcases l with _ | ⟨first, later⟩
  · cases h
  · obtain ⟨-, rfl⟩ := Prod.mk.inj (Option.some.inj h)
    have hfirst := first.nonneg
    have hlater : (0 : ℚ) ≤ later.length := Nat.cast_nonneg _
    exact ⟨le_min zero_le_one (by linarith), min_le_left ..⟩

/-- There is none only before the first observation. -/
theorem closedForm_eq_none_iff {l : List Observation} : closedForm l = none ↔ l = [] := by
  rcases l with _ | ⟨first, later⟩
  · exact iff_of_true rfl rfl
  · exact iff_of_false (Option.some_ne_none _) (List.cons_ne_nil _ _)

namespace SenderReputationCache

def record (c : SenderReputationCache) (o : Observation) : SenderReputationCache :=
  c.recordCategory o.category o.weight o.now

/-- The cache from `create` after a sequence of calls. -/
def recordAll (tenantId senderDomain : String) (observations : List Observation) : SenderReputationCache :=
  observations.foldl record (create tenantId senderDomain)

/-- What a cache says about a category. -/
def known (c : SenderReputationCache) (category : String) : Option (ℕ × ℚ) :=
  (c.categoryHistory.find category).map fun item => (item.2.observationCount, item.2.confidenceWeight)

/-- The cache is the closed form of the observations, and its most likely category is one of maximal
confidence. -/
structure IsClosedForm (c : SenderReputationCache) (observations : List Observation) : Prop where
  entry : ∀ category, c.known category = closedForm (observations.filter fun o => o.category = category)
  bounded : ∀ category count confidence, c.known category = some (count, confidence) →
    0 ≤ confidence ∧ confidence ≤ 1
  null : c.getMostLikelyCategory = none ↔ observations = []
  maximal : ∀ category, c.getMostLikelyCategory = some category → ∃ count confidence,
    c.known category = some (count, confidence) ∧
      ∀ category' count' confidence', c.known category' = some (count', confidence') →
        confidence' ≤ confidence

/-- One call. -/
theorem known_record (c : SenderReputationCache) (o : Observation) (category : String) :
    (c.record o).known category = if category = o.category then
        some (match c.known o.category with
          | none => (1, o.weight)
          | some (count, confidence) => (count + 1, min 1 (confidence + 0.05)))
      else c.known category := by
  unfold known record
  rw [find_recordCategory]
  split
  · rcases c.categoryHistory.find o.category with _ | ⟨_, existing⟩
    · rfl
    · rfl
  · rfl

/-- What the cache says about a category depends on the calls for it only. -/
theorem known_recordAll (tenantId senderDomain : String) (observations : List Observation)
    (category : String) : (recordAll tenantId senderDomain observations).known category =
      closedForm (observations.filter fun o => o.category = category) := by
  induction observations using List.reverseRecOn with
  | nil => rfl
  | append_singleton observations o ih =>
    have hstep : recordAll tenantId senderDomain (observations ++ [o]) =
        (recordAll tenantId senderDomain observations).record o := List.foldl_append
    rw [hstep, known_record, List.filter_append, List.filter_singleton]
    by_cases hcategory : category = o.category
    · subst hcategory
      rw [if_pos rfl, ih, decide_eq_true rfl, Bool.cond_true, closedForm_concat]
    · rw [if_neg hcategory, ih, decide_eq_false (Ne.symm hcategory), Bool.cond_false, List.append_nil]

/-- Every entry is that of its category. -/
theorem known_of_mem {c : SenderReputationCache} {item : String × ReputationEntry}
    (h : item ∈ c.categoryHistory.items) :
    c.known item.1 = some (item.2.observationCount, item.2.confidenceWeight) := by
  unfold known
  rw [Keyed.find_of_mem h]
  rfl

/-- What is known of a category is one of the items. -/
theorem exists_of_known {c : SenderReputationCache} {category : String} {count : ℕ} {confidence : ℚ}
    (h : c.known category = some (count, confidence)) :
    ∃ item ∈ c.categoryHistory.items, item.2.confidenceWeight = confidence := by
  obtain ⟨item, hfind, hitem⟩ := Option.map_eq_some_iff.mp h
  exact ⟨item, Keyed.mem_of_find hfind, (Prod.mk.inj hitem).2⟩

/-- The most likely category is one of maximal confidence. -/
theorem known_getMostLikelyCategory {c : SenderReputationCache} {category : String}
    (h : c.getMostLikelyCategory = some category) : ∃ count confidence,
      c.known category = some (count, confidence) ∧
        ∀ category' count' confidence', c.known category' = some (count', confidence') →
          confidence' ≤ confidence := by
  rw [getMostLikelyCategory_eq] at h
  obtain ⟨best, hbest, rfl⟩ := Option.map_eq_some_iff.mp h
  refine ⟨_, _, known_of_mem (List.argmax_mem hbest), fun category' count' confidence' hknown => ?_⟩
  obtain ⟨item, hitem, rfl⟩ := exists_of_known hknown
  exact List.le_of_mem_argmax (f := fun item : String × ReputationEntry => item.2.confidenceWeight)
    hitem hbest

/-- After any sequence of calls, each category has as many observations as there were calls for it and
the confidence of its first call raised by 0.05 for each later one, up to 1, and the most likely
category is one of maximal confidence, or none if nothing was recorded. -/
theorem closedForm_recordAll (tenantId senderDomain : String) (observations : List Observation) :
    IsClosedForm (recordAll tenantId senderDomain observations) observations where
  entry := known_recordAll tenantId senderDomain observations
  bounded category count confidence h := by
    rw [known_recordAll] at h
    exact closedForm_bounded h
  null := by
    rw [getMostLikelyCategory_eq, Option.map_eq_none_iff, List.argmax_eq_none]
    constructor
    · intro hempty
      refine List.eq_nil_iff_forall_not_mem.mpr fun o ho => ?_
      have hknown : (recordAll tenantId senderDomain observations).known o.category = none := by
        unfold known Keyed.find
        rw [hempty]
        rfl
      rw [known_recordAll, closedForm_eq_none_iff] at hknown
      exact List.filter_eq_nil_iff.mp hknown o ho (decide_eq_true rfl)
    · rintro rfl
      rfl
  maximal _ h := known_getMostLikelyCategory h

end SenderReputationCache

end EmailTriage.FeedbackLearning
