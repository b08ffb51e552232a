import EmailTriage.Prioritization.MessagePriority

/-!
# Which weights can be scored with

`ScoringWeights` checks the sum of the weights and not the single ones, so a weight may be negative, or
larger than one. `scores_iff` says for which components `computeScore` then still returns, and
`monotoneIn_iff` for which signals a larger contribution never lowers the score.

A component is built from a rounded product, so scoring throws exactly where one of these is out of
range (`weighted_bounded_iff`). For monotonicity one signal is raised and the others stay: a weight
above -0.005 keeps the order of the products, since one just below zero rounds them all to zero, and
for any other weight there are components that lower the score (`not_monotoneIn`).
-/

namespace EmailTriage.Prioritization

open Js

namespace MessagePriority

/-! ## Scoring without an exception

An exception comes from a weighted contribution that rounds to a number out of range, and from nothing
else.
-/

/-- `computeScore` returns a score and components within their bounds. -/
def Scores (p : MessagePriority) (weights : ScoringWeights) : Prop :=
  ∃ score cs, p.computeScore weights = .ok (score, cs) ∧ (0 ≤ score ∧ score ≤ 100) ∧
    ∀ c ∈ cs, -100 ≤ c.contribution ∧ c.contribution ≤ 100

/-- The rounded product is within the bounds of the constructor. -/
theorem weighted_bounded_iff {weights : ScoringWeights} {comp : ScoreComponent} :
    (-100 ≤ weighted weights comp ∧ weighted weights comp ≤ 100) ↔
      -100.5 ≤ comp.contribution * weights.weight comp.signal ∧
        comp.contribution * weights.weight comp.signal < 100.5 := by
  unfold weighted
  rw [le_round_iff, round_le_iff]
  norm_num

/-- What `computeScore` returns is within the bounds. -/
theorem scores_iff_returns {p : MessagePriority} {weights : ScoringWeights} :
    p.Scores weights ↔ ∃ score cs, p.computeScore weights = .ok (score, cs) := by
  constructor
  · rintro ⟨score, cs, h, -, -⟩
    exact ⟨score, cs, h⟩
  · rintro ⟨score, cs, h⟩
    refine ⟨score, cs, h, ?_, fun c _ => c.bounded⟩
    rw [(computeScore_eq_ok_iff.mp h).1]
    exact clampScore_bounded _

/-- `computeScore` does not fail exactly if every contribution times the weight of its signal is at least
-100.5 and less than 100.5. -/
theorem scores_iff (p : MessagePriority) (weights : ScoringWeights) :
    p.Scores weights ↔ ∀ comp ∈ p.components,
      -100.5 ≤ comp.contribution * weights.weight comp.signal ∧
        comp.contribution * weights.weight comp.signal < 100.5 := by
  rw [scores_iff_returns, exists_computeScore_iff]
  exact forall₂_congr fun comp _ => weighted_bounded_iff

/-- Weights with the sum one: VIP status counts twice, and frequent interaction against a message. -/
def vipTwice : ScoringWeights where
  vipWeight := 2
  frequencyWeight := -1
  urgencyWeight := 0
  calendarWeight := 0
  needsReplyAgingWeight := 0
  sums := by norm_num

/-- A VIP sender scored with these weights. -/
theorem not_scores_vipTwice :
    ¬(new "tenant" "message" [.vipSender] 0 .Normal true 0 0).Scores vipTwice := by
  rw [scores_iff_returns, exists_computeScore_iff]
  intro h
  exact absurd (h .vipSender List.mem_cons_self).2 (by decide +kernel)

/-! ## Monotonicity

A higher contribution raises the score where its weight is not negative enough to turn it round.
-/

/-- A larger contribution of the signal never lowers the score. -/
def MonotoneIn (weights : ScoringWeights) (signal : SignalType) : Prop :=
  ∀ (p p' : MessagePriority) (before after : List ScoreComponent) (comp comp' : ScoreComponent)
    (score score' : ℚ) (cs cs' : List ScoreComponent),
    comp.signal = signal → comp'.signal = signal → comp.contribution < comp'.contribution →
    p.components = before ++ comp :: after → p'.components = before ++ comp' :: after →
    p.computeScore weights = .ok (score, cs) → p'.computeScore weights = .ok (score', cs') →
    score ≤ score'

/-- A weight above -0.005 keeps the order of the contributions: one below zero rounds them all to zero. -/
theorem weighted_mono {weights : ScoringWeights} {comp comp' : ScoreComponent}
    (hsignal : comp.signal = comp'.signal) (hweight : -1 / 200 < weights.weight comp'.signal)
    (hle : comp.contribution ≤ comp'.contribution) : weighted weights comp ≤ weighted weights comp' := by
  unfold weighted
  rw [hsignal]
  rcases le_or_gt 0 (weights.weight comp'.signal) with hnonneg | hneg
  · exact round_mono (mul_le_mul_of_nonneg_right hle hnonneg)
  · have hzero : ∀ c : ScoreComponent, round (c.contribution * weights.weight comp'.signal) = 0 := by
      intro c
      obtain ⟨hlo, hhi⟩ := c.bounded
      rw [round_eq_zero_iff]
      constructor
      · nlinarith
      · nlinarith
    rw [hzero comp, hzero comp']

/-- The total of components after components. -/
theorem weightedTotal_append (weights : ScoringWeights) (before after : List ScoreComponent) :
    weightedTotal weights (before ++ after) =
        weightedTotal weights before + weightedTotal weights after := by
  unfold weightedTotal
  rw [List.map_append, List.sum_append]

/-- Where both lists can be scored, monotonicity orders the two clamped totals. -/
theorem MonotoneIn.clampScore_le {weights : ScoringWeights} {signal : SignalType}
    (h : MonotoneIn weights signal) (before after : List ScoreComponent) (comp comp' : ScoreComponent)
    (hcomp : comp.signal = signal) (hcomp' : comp'.signal = signal)
    (hlt : comp.contribution < comp'.contribution)
    (hp : ∀ c ∈ before ++ comp :: after, -100 ≤ weighted weights c ∧ weighted weights c ≤ 100)
    (hp' : ∀ c ∈ before ++ comp' :: after, -100 ≤ weighted weights c ∧ weighted weights c ≤ 100) :
    clampScore (weightedTotal weights (before ++ comp :: after)) ≤
      clampScore (weightedTotal weights (before ++ comp' :: after)) := by
  obtain ⟨score, cs, hscore⟩ := exists_computeScore_iff
    (p := new "" "" (before ++ comp :: after) 0 .Normal true 0 0).mpr hp
  obtain ⟨score', cs', hscore'⟩ := exists_computeScore_iff
    (p := new "" "" (before ++ comp' :: after) 0 .Normal true 0 0).mpr hp'
  have hle := h _ _ before after comp comp' score score' cs cs' hcomp hcomp' hlt rfl rfl hscore hscore'
  rwa [(computeScore_eq_ok_iff.mp hscore).1, (computeScore_eq_ok_iff.mp hscore').1] at hle

/-- The total of one component. -/
theorem weightedTotal_singleton (weights : ScoringWeights) (comp : ScoreComponent) :
    weightedTotal weights [comp] = weighted weights comp := List.sum_singleton

/-- A weight of at most -0.005 scores some contribution below zero higher than none. -/
theorem not_monotoneIn {weights : ScoringWeights} {signal : SignalType}
    (hweight : weights.weight signal ≤ -1 / 200) : ¬MonotoneIn weights signal := by
  intro hmono
  -- The weight takes `x` to one half, which is rounded up.
  obtain ⟨x, hx⟩ : ∃ x, x * weights.weight signal = 1 / 2 :=
    ⟨1 / 2 / weights.weight signal, div_mul_cancel₀ _ (by linarith)⟩
  have hneg : x < 0 := by nlinarith
  have hlo : -100 ≤ x := by nlinarith
  have hone : weighted weights ⟨signal, x, "", hlo, by linarith⟩ = 1 := by
    unfold weighted
    rw [hx]
    norm_num [round_eq_iff]
  have hzero : weighted weights ⟨signal, 0, "", by norm_num, by norm_num⟩ = 0 := by
    unfold weighted
    rw [zero_mul, round_zero]
  have hle := hmono.clampScore_le [] [] ⟨signal, x, "", hlo, by linarith⟩
    ⟨signal, 0, "", by norm_num, by norm_num⟩ rfl rfl hneg
    (by rw [List.nil_append, List.forall_mem_singleton, hone]; norm_num)
    (by rw [List.nil_append, List.forall_mem_singleton, hzero]; norm_num)
  rw [List.nil_append, List.nil_append, weightedTotal_singleton, weightedTotal_singleton, hone, hzero] at hle
  revert hle
  decide +kernel

/-- The score is monotone in a signal exactly if the weight of the signal is above -0.005. -/
theorem monotoneIn_iff (weights : ScoringWeights) (signal : SignalType) :
    MonotoneIn weights signal ↔ -1 / 200 < weights.weight signal := by
  constructor
  · intro hmono
    by_contra hweight
    exact not_monotoneIn (not_lt.mp hweight) hmono
  · rintro hweight p p' before after comp comp' score score' cs cs' hsignal rfl hlt hp hp' h h'
    obtain ⟨rfl, -⟩ := computeScore_eq_ok_iff.mp h
    obtain ⟨rfl, -⟩ := computeScore_eq_ok_iff.mp h'
    have hweighted : (weighted weights comp : ℚ) ≤ weighted weights comp' :=
      Int.cast_le.mpr (weighted_mono hsignal hweight hlt.le)
    refine clamp_mono ?_
    rw [hp, hp', weightedTotal_append, weightedTotal_append, weightedTotal_cons, weightedTotal_cons]
    linarith

/-- Weights with the sum one: a message that waits for a reply scores less the longer it waits. -/
def agingAgainst : ScoringWeights where
  vipWeight := 1
  frequencyWeight := 0
  urgencyWeight := 0.5
  calendarWeight := 0
  needsReplyAgingWeight := -0.5
  sums := by norm_num

/-- A VIP sender, and a message that has waited a day or a week. -/
theorem not_monotoneIn_needsReplyAging : ¬MonotoneIn agingAgainst .NeedsReplyAging := by
  intro h
  have hle := h.clampScore_le [⟨.VipStatus, 80, "VIP sender", by decide +kernel⟩] []
    ⟨.NeedsReplyAging, 20, "1 day", by norm_num⟩ ⟨.NeedsReplyAging, 60, "7 days", by norm_num⟩ rfl rfl
    (by norm_num)
    (by decide +kernel) (by decide +kernel)
  revert hle
  decide +kernel

end MessagePriority

end EmailTriage.Prioritization
