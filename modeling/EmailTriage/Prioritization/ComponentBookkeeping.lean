import EmailTriage.Lib.Keyed
import EmailTriage.Prioritization.MessagePriority

/-!
# One component for each signal

`addComponent` looks for the first component of a signal and replaces it, or appends a new one. From
`MessagePriority.pending` this keeps an insertion-ordered map: `addComponent_eq_put` is one call, and
`components_foldl` any sequence. The score is then the sum over the signals that were added, in
whatever order they came.

Two sequences of calls that agree on every signal leave components that are permutations of each other,
and a sum over them does not depend on the order. For that sum to be the score no component may throw,
which weights between zero and one make sure of.
-/

namespace EmailTriage.Prioritization

open Js

instance : Fintype SignalType where
  elems := {.VipStatus, .InteractionFrequency, .UrgencyLanguage, .CalendarProximity, .NeedsReplyAging}
  complete signal := by cases signal <;> decide

namespace MessagePriority

/-- The components as a map from signals. -/
abbrev Components := Keyed ScoreComponent.signal

/-- The first component of a signal is the only one. -/
theorem set_findIdx?_eq_map (components : List ScoreComponent)
    (hnodup : (components.map (·.signal)).Nodup) (component : ScoreComponent) {i : ℕ}
    (hi : components.findIdx? (fun c => c.signal = component.signal) = some i) :
    components.set i component =
      components.map fun c => if c.signal = component.signal then component else c := by
  induction components generalizing i with
  | nil => cases hi
  | cons c components ih =>
    rw [List.map_cons, List.nodup_cons] at hnodup
    rw [List.findIdx?_cons] at hi
    by_cases hc : c.signal = component.signal
    · rw [if_pos (decide_eq_true hc)] at hi
      obtain rfl := Option.some.inj hi
      rw [List.set_cons_zero, List.map_cons, if_pos hc]
      -- No later component has the signal.
      have hlater : components.map (fun c => if c.signal = component.signal then component else c) =
          components := by
        refine (List.map_congr_left fun c' hc' => if_neg fun heq => ?_).trans (List.map_id _)
        exact hnodup.1 (List.mem_map.mpr ⟨c', hc', heq.trans hc.symm⟩)
      rw [hlater]
    · rw [if_neg (by simpa using hc)] at hi
      obtain ⟨j, hj, rfl⟩ := Option.map_eq_some_iff.mp hi
      rw [List.set_cons_succ, List.map_cons, if_neg hc, ih hnodup.2 hj]

/-- `addComponent` puts the component into the map. -/
theorem addComponent_eq_put {p : MessagePriority} {m : Components} (hp : p.components = m.items)
    (component : ScoreComponent) : (p.addComponent component).components = (m.put component).items := by
  unfold addComponent Keyed.put
  split
  · next i hi =>
    rw [hp] at hi
    obtain ⟨hlt, hsignal, -⟩ := List.findIdx?_eq_some_iff_getElem.mp hi
    have hsome : ∃ c ∈ m.items, c.signal = component.signal :=
      ⟨m.items[i], List.getElem_mem hlt, of_decide_eq_true hsignal⟩
    rw [dif_pos hsome, hp]
    exact set_findIdx?_eq_map m.items m.nodup component hi
  · next hi =>
    rw [hp, List.findIdx?_eq_none_iff] at hi
    have hnone : ¬∃ c ∈ m.items, c.signal = component.signal := by
      rintro ⟨c, hc, heq⟩
      exact of_decide_eq_false (hi c hc) heq
    rw [dif_neg hnone, hp]

/-- A sequence of `addComponent` puts its components one after another. -/
theorem components_foldl {p : MessagePriority} {m : Components} (hp : p.components = m.items)
    (calls : List ScoreComponent) :
    (calls.foldl addComponent p).components = (calls.foldl Keyed.put m).items := by
  induction calls generalizing p m with
  | nil => exact hp
  | cons component calls ih => exact ih (addComponent_eq_put hp component)

/-- The last component that was added for a signal. -/
def lastFor (calls : List ScoreComponent) (signal : SignalType) : Option ScoreComponent :=
  (calls.filter fun c => c.signal = signal).getLast?

/-- The sum over the signals that were added of the weight times the last contribution, rounded. -/
def closedForm (weights : ScoringWeights) (calls : List ScoreComponent) : ℚ :=
  ∑ signal, match lastFor calls signal with
    | none => 0
    | some c => (round (weights.weight signal * c.contribution) : ℚ)

/-- The components are the last ones that were added for each signal. -/
structure KeepsLast (calls : List ScoreComponent) (p : MessagePriority) : Prop where
  nodup : (p.components.map (·.signal)).Nodup
  mem_iff : ∀ c, c ∈ p.components ↔ lastFor calls c.signal = some c

/-- The map that a sequence of `addComponent` leaves. -/
theorem find_calls (calls : List ScoreComponent) (signal : SignalType) :
    (calls.foldl Keyed.put (Keyed.empty : Components)).find signal = lastFor calls signal := by
  rw [Keyed.find_foldl_put]
  exact Option.or_none

/-- After any calls there is the last component of each signal. -/
theorem keepsLast_foldl {p : MessagePriority} (hp : p.components = []) (calls : List ScoreComponent) :
    KeepsLast calls (calls.foldl addComponent p) := by
  have hcomponents := components_foldl (m := Keyed.empty) hp calls
  constructor
  · rw [hcomponents]
    exact (calls.foldl Keyed.put Keyed.empty).nodup
  · intro c
    rw [hcomponents, ← find_calls]
    constructor
    · exact Keyed.find_of_mem
    · exact Keyed.mem_of_find

/-- The weighted total of the components, signal by signal. -/
theorem weightedTotal_foldl {p : MessagePriority} (hp : p.components = []) (weights : ScoringWeights)
    (calls : List ScoreComponent) :
    weightedTotal weights (calls.foldl addComponent p).components = closedForm weights calls := by
  have hcomponents := components_foldl (m := Keyed.empty) hp calls
  unfold weightedTotal closedForm
  rw [hcomponents, Keyed.sum_items]
  refine Finset.sum_congr rfl fun signal _ => ?_
  rw [find_calls]
  rcases hlast : lastFor calls signal with _ | c
  · rfl
  · have hsignal : c.signal = signal := by
      rw [← find_calls] at hlast
      exact Keyed.key_of_find hlast
    rw [Option.map_some, Option.getD_some, weighted, hsignal, mul_comm]

/-- Weights between zero and one keep the contributions within their bounds. -/
theorem weighted_bounded_of_mem {weights : ScoringWeights} (comp : ScoreComponent)
    (h : 0 ≤ weights.weight comp.signal ∧ weights.weight comp.signal ≤ 1) :
    -100 ≤ weighted weights comp ∧ weighted weights comp ≤ 100 := by
  obtain ⟨hnonneg, hone⟩ := h
  obtain ⟨hlo, hhi⟩ := comp.bounded
  unfold weighted
  rw [le_round_iff, round_le_iff]
  push_cast
  constructor
  · nlinarith
  · nlinarith

/-- Scoring what a sequence of `addComponent` leaves, with weights between zero and one. -/
theorem computeScore_foldl {p : MessagePriority} (hp : p.components = []) {weights : ScoringWeights}
    (hweights : ∀ signal, 0 ≤ weights.weight signal ∧ weights.weight signal ≤ 1)
    (calls : List ScoreComponent) :
    ∃ cs, (calls.foldl addComponent p).computeScore weights =
      .ok (clampScore (closedForm weights calls), cs) := by
  rw [computeScore_returns_iff, weightedTotal_foldl hp]
  exact ⟨rfl, fun comp _ => weighted_bounded_of_mem comp (hweights comp.signal)⟩

/-- From a pending priority, `addComponent` keeps the last component of each signal, and with weights
between zero and one the score is the closed form. Two sequences with the same calls for each signal
score alike. -/
theorem components_and_score (tenantId messageId : String) (createdAt updatedAt : ℤ)
    (calls : List ScoreComponent) :
    KeepsLast calls (calls.foldl addComponent (pending tenantId messageId createdAt updatedAt)) ∧
      ∀ weights : ScoringWeights, (∀ signal, 0 ≤ weights.weight signal ∧ weights.weight signal ≤ 1) →
        (∃ cs, (calls.foldl addComponent (pending tenantId messageId createdAt updatedAt)).computeScore
          weights = .ok (clampScore (closedForm weights calls), cs)) ∧
        ∀ calls' : List ScoreComponent,
          (∀ signal, (calls'.filter fun c => c.signal = signal) = calls.filter fun c => c.signal = signal) →
          ∃ cs', (calls'.foldl addComponent (pending tenantId messageId createdAt updatedAt)).computeScore
            weights = .ok (clampScore (closedForm weights calls), cs') := by
  refine ⟨keepsLast_foldl rfl calls, fun weights hweights => ⟨computeScore_foldl rfl hweights calls, ?_⟩⟩
  intro calls' hsame
  have hlast : ∀ signal, lastFor calls' signal = lastFor calls signal := fun signal =>
    congrArg List.getLast? (hsame signal)
  have hclosed : closedForm weights calls' = closedForm weights calls := by
    unfold closedForm
    exact Finset.sum_congr rfl fun signal _ => by rw [hlast]
  rw [← hclosed]
  exact computeScore_foldl rfl hweights calls'

/-- A VIP sender whose message becomes urgent, and then more urgent. -/
theorem components_and_score_defaults :
    ∃ cs, ([⟨.VipStatus, 80, "VIP", by decide +kernel⟩, ⟨.UrgencyLanguage, 40, "soon", by decide +kernel⟩,
      ⟨.UrgencyLanguage, 70, "today", by decide +kernel⟩].foldl addComponent
        (pending "tenant" "message" 0 0)).computeScore .defaults = .ok (41, cs) := by
  obtain ⟨cs, hcs⟩ := ((components_and_score "tenant" "message" 0 0
    [⟨.VipStatus, 80, "VIP", by decide +kernel⟩, ⟨.UrgencyLanguage, 40, "soon", by decide +kernel⟩,
      ⟨.UrgencyLanguage, 70, "today", by decide +kernel⟩]).2 .defaults (by decide +kernel)).1
  exact ⟨cs, hcs.trans (congrArg (fun score => Except.ok (score, cs)) (by decide +kernel))⟩

end MessagePriority

end EmailTriage.Prioritization
