import EmailTriage.Lib.Binary64
import EmailTriage.Prioritization.MessagePriority

/-!
# The priority of a message, in doubles

`src/prioritization/domain/` once more, with the numbers that the code computes with: a contribution, a
weight and a score are doubles, NaN among them. What the constructors check are comparisons, which are
false of NaN, so a contribution and a weight that are no number are accepted.

## What `computeScore` computes

The loop weights the components one by one and adds up what it stores. `computeScore_eq_ok_iff` says so
for the whole list: the components that are returned are the given ones, weighted, and the score is the
sum of theirs, clamped. The score is thus a matter of the components that are returned, and of nothing
else.
-/

namespace EmailTriage.Prioritization.Rounded

open Js

/-! ## Value objects

The same value objects with doubles. What is not a number is not out of range.
-/

/-- `contribution < -100 || contribution > 100`. -/
def outOfRange (contribution : Double) : Bool :=
  contribution.lt (.finite (-100)) || Double.lt (.finite 100) contribution

@[ext] structure ScoreComponent where
  signal : SignalType
  contribution : Double
  evidence : String
  bounded : outOfRange contribution = false

/-- The constructor. -/
def ScoreComponent.new (signal : SignalType) (contribution : Double) (evidence : String) :
    Except Exception ScoreComponent :=
  match h : outOfRange contribution with
  | true => .error (.error "ScoreComponent contribution must be between -100 and 100")
  | false => .ok ⟨signal, contribution, evidence, h⟩

/-- The sum of five weights, from the left. -/
def sumOfWeights (vipWeight frequencyWeight urgencyWeight calendarWeight needsReplyAgingWeight : Double) :
    Double :=
  (((vipWeight.add frequencyWeight).add urgencyWeight).add calendarWeight).add needsReplyAgingWeight

/-- `Math.abs(total - 1.0) > 0.01`. -/
def offOne (total : Double) : Bool := (Double.ofRat 0.01).lt (total.add (.finite (-1))).mathAbs

structure ScoringWeights where
  vipWeight : Double
  frequencyWeight : Double
  urgencyWeight : Double
  calendarWeight : Double
  needsReplyAgingWeight : Double
  sums : offOne (sumOfWeights vipWeight frequencyWeight urgencyWeight calendarWeight needsReplyAgingWeight) = false

namespace ScoringWeights

/-- The constructor. How a number is printed in its message is a parameter. -/
def new (print : Double → String) (vipWeight frequencyWeight urgencyWeight calendarWeight
    needsReplyAgingWeight : Double) : Except Exception ScoringWeights :=
  let total := sumOfWeights vipWeight frequencyWeight urgencyWeight calendarWeight needsReplyAgingWeight
  match h : offOne total with
  | true => .error (.error ("Weights must sum to 1.0 (got " ++ print total ++ ")"))
  | false => .ok ⟨vipWeight, frequencyWeight, urgencyWeight, calendarWeight, needsReplyAgingWeight, h⟩

def defaults : ScoringWeights where
  vipWeight := .ofRat 0.25
  frequencyWeight := .ofRat 0.20
  urgencyWeight := .ofRat 0.30
  calendarWeight := .ofRat 0.10
  needsReplyAgingWeight := .ofRat 0.15
  sums := by decide +kernel

/-- The weight the loop of `computeScore` chooses for a signal. -/
def weight (weights : ScoringWeights) : SignalType → Double
  | .VipStatus => weights.vipWeight
  | .InteractionFrequency => weights.frequencyWeight
  | .UrgencyLanguage => weights.urgencyWeight
  | .CalendarProximity => weights.calendarWeight
  | .NeedsReplyAging => weights.needsReplyAgingWeight

end ScoringWeights

/-! ## The aggregate

Products and sums are rounded as the code rounds them, and the sum is taken from the left.
-/

structure MessagePriority where
  tenantId : String
  messageId : String
  components : List ScoreComponent
  score : Double
  tier : PriorityTier
  isPendingSignals : Bool
  createdAt : ℤ
  updatedAt : ℤ

/-- `Math.max(0, Math.min(100, score))`. -/
abbrev clampScore (score : Double) : Double := Double.clamp 0 100 score

namespace MessagePriority

/-- The constructor. -/
def new (tenantId messageId : String) (components : List ScoreComponent) (score : Double)
    (tier : PriorityTier) (isPendingSignals : Bool) (createdAt updatedAt : ℤ) : MessagePriority where
  tenantId := tenantId
  messageId := messageId
  components := components
  score := clampScore score
  tier := tier
  isPendingSignals := isPendingSignals
  createdAt := createdAt
  updatedAt := updatedAt

def tierForScore (score : Double) : PriorityTier :=
  if Double.le (.finite 80) score then .Critical
  else if Double.le (.finite 60) score then .High
  else if Double.le (.finite 30) score then .Normal
  else .Low

/-- `Math.round(contribution * weight)`. -/
def weighted (weight contribution : Double) : Double := (contribution.mul weight).mathRound

/-- One turn of the loop of `computeScore`: the total, and the components it has built. -/
def scoreStep (weights : ScoringWeights) (acc : Double × List ScoreComponent) (comp : ScoreComponent) :
    Except Exception (Double × List ScoreComponent) := do
  let (total, weightedComponents) := acc
  let contribution := weighted (weights.weight comp.signal) comp.contribution
  let component ← ScoreComponent.new comp.signal contribution comp.evidence
  return (total.add contribution, weightedComponents ++ [component])

def computeScore (p : MessagePriority) (weights : ScoringWeights) :
    Except Exception (Double × List ScoreComponent) :=
  if p.components.isEmpty then .ok (.finite 0, [])
  else do
    let (total, weightedComponents) ← p.components.foldlM (scoreStep weights) (.finite 0, [])
    return (clampScore total, weightedComponents)

/-- `updateScore`, with the tier it returns. -/
def updateScore (p : MessagePriority) (newScore : Double) (components : List ScoreComponent) (now : ℤ) :
    MessagePriority × Option PriorityTier :=
  let oldTier := p.tier
  let newScore_clamped := clampScore newScore
  let tier := tierForScore newScore_clamped
  let updated := { p with
    score := newScore_clamped, components, tier, isPendingSignals := false, updatedAt := now }
  if (oldTier = .Normal ∨ oldTier = .Low) ∧ (tier = .High ∨ tier = .Critical) then (updated, some tier)
  else (updated, none)

/-- `updateScore` stores the components it is given. -/
theorem components_updateScore (p : MessagePriority) (score : Double) (cs : List ScoreComponent) (now : ℤ) :
    (p.updateScore score cs now).1.components = cs := by
  unfold updateScore
  dsimp only
  split
  · rfl
  · rfl

/-! ## What `computeScore` computes

The stored components are determined by the weights, and the score is the clamped sum of the rounded
contributions.
-/

/-- The second component is what the loop makes of the first one. -/
structure Weighs (weights : ScoringWeights) (comp comp' : ScoreComponent) : Prop where
  signal : comp'.signal = comp.signal
  contribution : comp'.contribution = weighted (weights.weight comp.signal) comp.contribution
  evidence : comp'.evidence = comp.evidence

/-- A component is weighted in one way. -/
theorem Weighs.unique {weights : ScoringWeights} {comp c c' : ScoreComponent}
    (h : Weighs weights comp c) (h' : Weighs weights comp c') : c = c' :=
  ScoreComponent.ext (h.signal.trans h'.signal.symm) (h.contribution.trans h'.contribution.symm)
    (h.evidence.trans h'.evidence.symm)

/-- The constructor builds what it is asked for, if the contribution is within its range. -/
theorem new_eq_ok_iff {signal : SignalType} {contribution : Double} {evidence : String}
    {c : ScoreComponent} :
    ScoreComponent.new signal contribution evidence = .ok c ↔
      c.signal = signal ∧ c.contribution = contribution ∧ c.evidence = evidence := by
  unfold ScoreComponent.new
  constructor
  · intro h
    split at h
    · cases h
    · obtain rfl := Except.ok.inj h
      exact ⟨rfl, rfl, rfl⟩
  · rintro ⟨rfl, rfl, rfl⟩
    split
    · next hout => exact absurd (hout.symm.trans c.bounded) (by decide)
    · rfl

/-- A component can be weighted exactly if the result is within the range. -/
theorem exists_weighs_iff {weights : ScoringWeights} {comp : ScoreComponent} :
    (∃ comp', Weighs weights comp comp') ↔
      outOfRange (weighted (weights.weight comp.signal) comp.contribution) = false := by
  constructor
  · rintro ⟨comp', h⟩
    rw [← h.contribution]
    exact comp'.bounded
  · intro h
    exact ⟨⟨comp.signal, _, comp.evidence, h⟩, rfl, rfl, rfl⟩

/-- The contributions of a list of components. -/
abbrev contributions (components : List ScoreComponent) : List Double := components.map (·.contribution)

/-- One turn adds the weighted contribution to the total, and the weighted component to the list. -/
theorem scoreStep_eq_ok_iff {weights : ScoringWeights} {total total' : Double}
    {cs cs' : List ScoreComponent} {comp : ScoreComponent} :
    scoreStep weights (total, cs) comp = .ok (total', cs') ↔
      ∃ comp', Weighs weights comp comp' ∧ total' = total.add comp'.contribution ∧ cs' = cs ++ [comp'] := by
  unfold scoreStep
  dsimp only
  rcases hnew : ScoreComponent.new comp.signal (weighted (weights.weight comp.signal) comp.contribution)
    comp.evidence with e | c
  · constructor
    · intro h
      cases h
    · rintro ⟨comp', hcomp, -, -⟩
      have hok := new_eq_ok_iff.mpr ⟨hcomp.signal, hcomp.contribution, hcomp.evidence⟩
      cases hnew.symm.trans hok
  · obtain ⟨hsignal, hcontribution, hevidence⟩ := new_eq_ok_iff.mp hnew
    have hc : Weighs weights comp c := ⟨hsignal, hcontribution, hevidence⟩
    constructor
    · intro h
      cases h
      exact ⟨c, hc, by rw [hcontribution], rfl⟩
    · rintro ⟨comp', hcomp, rfl, rfl⟩
      rw [hcomp.unique hc, hcontribution]
      rfl

/-- The loop weights the components one by one, and adds up what it builds. -/
theorem foldlM_scoreStep_eq_ok_iff {weights : ScoringWeights} {components : List ScoreComponent}
    {total total' : Double} {cs cs' : List ScoreComponent} :
    components.foldlM (scoreStep weights) (total, cs) = .ok (total', cs') ↔
      ∃ built, List.Forall₂ (Weighs weights) components built ∧ total' = total.addAll (contributions built) ∧
        cs' = cs ++ built := by
  induction components generalizing total cs with
  | nil =>
    constructor
    · intro h
      cases h
      exact ⟨[], .nil, rfl, (List.append_nil _).symm⟩
    · rintro ⟨built, hbuilt, rfl, rfl⟩
      cases hbuilt
      rw [List.append_nil]
      rfl
  | cons comp components ih =>
    rw [List.foldlM_cons]
    rcases hstep : scoreStep weights (total, cs) comp with e | ⟨total₁, cs₁⟩
    · -- the step throws, and no component can have been built
      constructor
      · intro h
        cases h
      · rintro ⟨built, hbuilt, -, -⟩
        obtain ⟨comp', built', hcomp, -, -⟩ := List.forall₂_cons_left_iff.mp hbuilt
        rw [scoreStep_eq_ok_iff.mpr ⟨comp', hcomp, rfl, rfl⟩] at hstep
        cases hstep
    · obtain ⟨comp', hcomp, rfl, rfl⟩ := scoreStep_eq_ok_iff.mp hstep
      refine ih.trans ?_
      constructor
      · rintro ⟨built, hbuilt, rfl, rfl⟩
        exact ⟨comp' :: built, .cons hcomp hbuilt, rfl, by rw [List.append_assoc, List.singleton_append]⟩
      · rintro ⟨built, hbuilt, rfl, rfl⟩
        obtain ⟨comp'', built', hcomp', hbuilt', rfl⟩ := List.forall₂_cons_left_iff.mp hbuilt
        obtain rfl := hcomp'.unique hcomp
        exact ⟨built', hbuilt', rfl, by rw [List.append_assoc, List.singleton_append]⟩

/-- `computeScore` returns the weighted components, and the sum of their contributions, clamped. -/
theorem computeScore_eq_ok_iff {p : MessagePriority} {weights : ScoringWeights} {score : Double}
    {cs : List ScoreComponent} : p.computeScore weights = .ok (score, cs) ↔
      List.Forall₂ (Weighs weights) p.components cs ∧
          score = clampScore (Double.addAll (.finite 0) (contributions cs)) := by
  unfold computeScore
  split
  · next hempty =>
    have hnil : p.components = [] := List.isEmpty_iff.mp hempty
    have hzero : clampScore (Double.addAll (.finite 0) (contributions [])) = .finite 0 :=
      (Double.clamp_finite 0 100 0).trans (congrArg Double.finite (clamp_of_le le_rfl))
    rw [hnil]
    constructor
    · intro h
      cases h
      exact ⟨.nil, hzero.symm⟩
    · rintro ⟨hcs, rfl⟩
      cases hcs
      rw [hzero]
  · rcases hloop : p.components.foldlM (scoreStep weights)
      (.finite 0, []) with e | ⟨total, weightedComponents⟩
    · constructor
      · intro h
        cases h
      · rintro ⟨hcs, -⟩
        cases hloop.symm.trans (foldlM_scoreStep_eq_ok_iff.mpr ⟨cs, hcs, rfl, rfl⟩)
    · obtain ⟨built, hbuilt, rfl, rfl⟩ := foldlM_scoreStep_eq_ok_iff.mp hloop
      constructor
      · intro h
        cases h
        exact ⟨hbuilt, rfl⟩
      · rintro ⟨hcs, rfl⟩
        rw [List.right_unique_forall₂' (fun _ _ _ h h' => h.unique h') hcs hbuilt]
        rfl

end MessagePriority

end EmailTriage.Prioritization.Rounded
