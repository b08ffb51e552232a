import Mathlib.Data.List.Induction
import Mathlib.Tactic.NormNum
import EmailTriage.Lib.Runs
import EmailTriage.ThreatDetection.ThreatAssessment

/-!
# Runs of one threat assessment

The layers run as independent jobs, so they reach an assessment in any order and repeatedly, and an
override may come between them. `assess_of_unlocked` says once what a layer makes of an unlocked
assessment; the results are about every sequence of operations from `create`.

`assessAll_iff` gives the verdict of the layers alone, in whatever order they ran. With overrides in
between, `keepsQuarantine_iff` says when a quarantine is only ever given up by an override, and
`runningMaximum_iff` when `highestTierReached` is what its name says.

## The shape of the argument

A layer that runs on a locked assessment throws, so only the layers before the lock count. `Decided` is
the invariant of a run without overrides: the decision so far is the one of the verdict so far. The
verdict of a list of layers does not depend on their order (`verdict_perm`), and neither does the
decision. For the other two results the step lemma is an equivalence, and the run follows from it by
the rule for such steps.
-/

namespace EmailTriage.ThreatDetection

open Js Runs

namespace ThreatAssessment

/-! ## What a layer does

The three layers differ in their thresholds. Each of them condemns, flags or passes a message, on the tier
it belongs to.
-/

/-- Whether a layer quarantines whatever has been recorded. -/
def Layer.condemns : Layer → Bool
  | .authentication signal => signal.isHighRisk
  | .lookalike _ => false
  | .intent classification => classification.isHighConfidence

/-- Whether a layer that does not quarantine flags. -/
def Layer.flags : Layer → Bool
  | .authentication _ => false
  | .lookalike score => score.isHighRisk
  | .intent classification => classification.intent ≠ .None && classification.confidence ≥ 5 / 10

/-- The tier a layer belongs to. -/
def Layer.tier : Layer → ThreatTier
  | .authentication _ => .AuthCheck
  | .lookalike _ => .LookalikeCheck
  | .intent _ => .IntentLlm

/-- The assessment with the signal of a layer. -/
def record (a : ThreatAssessment) : Layer → ThreatAssessment
  | .authentication signal => { a with authenticationSignal := some signal }
  | .lookalike score => { a with lookalikeScore := some score }
  | .intent classification => { a with intentClassification := some classification }

/-- The decision a layer leaves. -/
def Layer.decision (layer : Layer) (now : ℤ) (recorded : Option AuthenticationSignal)
    (previous : QuarantineDecision) : QuarantineDecision :=
  if layer.quarantines recorded then QuarantineDecision.quarantine now .policy
  else if layer.flags then QuarantineDecision.flag now
  else previous

/-- What a layer makes of an unlocked assessment. -/
theorem assess_of_unlocked (now : ℤ) {a : ThreatAssessment} (h : a.assessmentLocked = false)
    (layer : Layer) :
    a.assess now layer = .ok { a.record layer with
      quarantineDecision := layer.decision now a.authenticationSignal a.quarantineDecision
      highestTierReached := layer.tier
      updatedAt := some now
      assessmentLocked := layer.quarantines a.authenticationSignal } := by
  cases layer with
  | authentication signal =>
    simp only [assess, assessAuthentication, Layer.decision, Layer.quarantines, Layer.flags, h]
    by_cases hrisk : signal.isHighRisk = true
    · simp [hrisk, record, Layer.tier]
    · simp [hrisk, record, Layer.tier, h]
  | lookalike score =>
    simp only [assess, assessLookalike, Layer.decision, Layer.quarantines, Layer.flags, h]
    by_cases hrisk : score.isHighRisk = true
    · by_cases hrecorded : a.authenticationSignal.any (·.isHighRisk) = true
      · simp [hrisk, hrecorded, record, Layer.tier]
      · simp [hrisk, hrecorded, record, Layer.tier, h]
    · simp [hrisk, record, Layer.tier, h]
  | intent classification =>
    simp only [assess, assessIntentClassification, Layer.decision, Layer.quarantines, Layer.flags, h]
    by_cases hsure : classification.isHighConfidence = true
    · simp [hsure, record, Layer.tier]
    · by_cases hflag : classification.intent ≠ .None ∧ classification.confidence ≥ 5 / 10
      · simp [hsure, hflag, record, Layer.tier, h]
      · simp [hsure, hflag, record, Layer.tier, h]

/-- Without a high authentication risk on record, a layer quarantines only by itself. -/
theorem quarantines_eq_condemns {recorded : Option AuthenticationSignal}
    (h : recorded.any (·.isHighRisk) = false) (layer : Layer) :
    layer.quarantines recorded = layer.condemns := by
  cases layer with
  | authentication signal => rfl
  | lookalike score => rw [Layer.quarantines, h, Bool.and_false, Layer.condemns]
  | intent classification => rfl

/-! ## Runs

The operations on one assessment: a layer, or an override by an administrator. An operation that throws
changes nothing.
-/

/-- An operation and the time at which it runs. -/
inductive Operation where
  | assess (now : Date.Instant) (layer : Layer)
  | overrideQuarantine (now : Date.Instant) (newDecision : QuarantineDecision)
      (representable : newDecision.decidedAt.Representable)

def perform (a : ThreatAssessment) : Operation → Except Exception ThreatAssessment
  | .assess now layer => a.assess now layer
  | .overrideQuarantine now newDecision _ => a.overrideQuarantine now newDecision

/-- An operation that throws changes nothing. -/
def step (a : ThreatAssessment) (op : Operation) : ThreatAssessment :=
  match a.perform op with
  | .ok a' => a'
  | .error _ => a

/-- A locked assessment takes no further layer. -/
theorem step_assess_of_locked {a : ThreatAssessment} (h : a.assessmentLocked = true)
    (now : Date.Instant) (layer : Layer) : a.step (.assess now layer) = a := by
  unfold step perform
  dsimp only
  rw [assess_of_locked h layer]

/-- One that is not locked records the layer and its decision. -/
theorem step_assess_of_unlocked {a : ThreatAssessment} (h : a.assessmentLocked = false)
    (now : Date.Instant) (layer : Layer) :
    a.step (.assess now layer) = { a.record layer with
      quarantineDecision := layer.decision now a.authenticationSignal a.quarantineDecision
      highestTierReached := layer.tier
      updatedAt := some now.1
      assessmentLocked := layer.quarantines a.authenticationSignal } := by
  unfold step perform
  dsimp only
  rw [assess_of_unlocked now h layer]

/-! ## The verdict of the layers

Without overrides the decision is a function of the set of layers, whatever their order.
-/

/-- The assessment after calls of the layers. -/
def assessAll (a : ThreatAssessment) (calls : List (Date.Instant × Layer)) : ThreatAssessment :=
  calls.foldl (fun a call => a.step (.assess call.1 call.2)) a

/-- The action that calls of the layers lead to. -/
def verdict (calls : List (Date.Instant × Layer)) : QuarantineAction :=
  if calls.any (·.2.condemns) then .Quarantine
  else if calls.any (·.2.flags) then .Flag
  else .None

/-- What the calls of the layers have decided. -/
structure Decided (a : ThreatAssessment) (calls : List (Date.Instant × Layer)) : Prop where
  action : a.quarantineDecision.action = verdict calls
  locked : a.assessmentLocked = calls.any (·.2.condemns)
  recorded : a.assessmentLocked = false → a.authenticationSignal.any (·.isHighRisk) = false

/-- Nothing is decided before the first layer. -/
theorem decided_create (now : ℤ) (tenantId messageId : String) :
    Decided (create now tenantId messageId) [] := ⟨rfl, rfl, fun _ => rfl⟩

/-- The action a layer leaves. -/
theorem Layer.action_decision (layer : Layer) (now : ℤ) (recorded : Option AuthenticationSignal)
    (previous : QuarantineDecision) : (layer.decision now recorded previous).action =
      if layer.quarantines recorded then .Quarantine else if layer.flags then .Flag else previous.action := by
  unfold Layer.decision
  split_ifs
  · rfl
  · rfl
  · rfl

/-- As long as no layer has condemned the message, the next one decides the verdict. -/
theorem verdict_append {calls : List (Date.Instant × Layer)} (h : calls.any (·.2.condemns) = false)
    (now : Date.Instant) (layer : Layer) : verdict (calls ++ [(now, layer)]) =
      if layer.condemns then .Quarantine else if layer.flags then .Flag else verdict calls := by
  unfold verdict
  simp only [List.any_append, h, Bool.false_or, List.any_cons, List.any_nil, Bool.or_false]
  by_cases hcondemns : layer.condemns = true
  · rw [if_pos hcondemns, if_pos hcondemns]
  · rw [if_neg hcondemns, if_neg hcondemns]
    by_cases hflags : layer.flags = true
    · rw [if_pos hflags, hflags, Bool.or_true, if_pos rfl]
    · rw [if_neg hflags, Bool.eq_false_iff.mpr hflags, Bool.or_false]
      rfl

/-- The next layer decides over what the earlier ones have decided. -/
theorem Decided.step {a : ThreatAssessment} {calls : List (Date.Instant × Layer)}
    (ha : Decided a calls) (call : Date.Instant × Layer) :
    Decided (a.step (.assess call.1 call.2)) (calls ++ [call]) := by
  obtain ⟨now, layer⟩ := call
  rcases hlocked : a.assessmentLocked with _ | _
  · -- the layer decides
    have hrecorded := ha.recorded hlocked
    have hcalls : calls.any (·.2.condemns) = false := ha.locked.symm.trans hlocked
    have hquarantines := quarantines_eq_condemns hrecorded layer
    rw [step_assess_of_unlocked hlocked]
    refine ⟨?_, ?_, ?_⟩
    · rw [verdict_append hcalls, ← ha.action, ← hquarantines]
      exact layer.action_decision ..
    · dsimp only
      rw [hquarantines, List.any_append, hcalls, Bool.false_or, List.any_cons, List.any_nil,
        Bool.or_false]
    · dsimp only
      rw [hquarantines]
      cases layer with
      | authentication signal => exact id
      | lookalike score => exact fun _ => hrecorded
      | intent classification => exact fun _ => hrecorded
  · -- the call throws, and a locked assessment is quarantined
    have hcalls : calls.any (·.2.condemns) = true := ha.locked.symm.trans hlocked
    have hcalls' : (calls ++ [(now, layer)]).any (·.2.condemns) = true := by
      rw [List.any_append, hcalls, Bool.true_or]
    rw [step_assess_of_locked hlocked]
    refine ⟨?_, hlocked.trans hcalls'.symm, fun hunlocked => ?_⟩
    · rw [ha.action, verdict, verdict, if_pos hcalls, if_pos hcalls']
    · rw [hlocked] at hunlocked
      cases hunlocked

/-- After any layers the assessment is what they decide, one after the other. -/
theorem decided_assessAll (now : ℤ) (tenantId messageId : String)
    (calls : List (Date.Instant × Layer)) :
    Decided (assessAll (create now tenantId messageId) calls) calls := by
  induction calls using List.reverseRecOn with
  | nil => exact decided_create now tenantId messageId
  | append_singleton calls call ih =>
    have hfold : assessAll (create now tenantId messageId) (calls ++ [call]) =
        (assessAll (create now tenantId messageId) calls).step (.assess call.1 call.2) :=
      List.foldl_append
    rw [hfold]
    exact ih.step call

/-- The verdict does not depend on the order of the calls. -/
theorem verdict_perm {calls calls' : List (Date.Instant × Layer)} (h : calls.Perm calls') :
    verdict calls' = verdict calls := by
  have hany : ∀ p : Date.Instant × Layer → Bool, calls'.any p = calls.any p :=
    fun p => Bool.eq_iff_iff.mpr (by simp only [List.any_eq_true, h.mem_iff])
  unfold verdict
  rw [hany, hany]

/-- A message is quarantined, and its assessment locked, exactly if some layer condemns it; else it is
flagged exactly if some layer flags it; and the order of the layers does not matter. -/
theorem assessAll_iff (now : ℤ) (tenantId messageId : String)
    (calls : List (Date.Instant × Layer)) :
    let a := assessAll (create now tenantId messageId) calls
    (a.quarantineDecision.action = .Quarantine ∧ a.assessmentLocked = true ↔
        ∃ call ∈ calls, call.2.condemns = true) ∧
      (a.quarantineDecision.action = .Flag ↔
        (¬∃ call ∈ calls, call.2.condemns = true) ∧ ∃ call ∈ calls, call.2.flags = true) ∧
      (a.quarantineDecision.action = .None ↔
        (¬∃ call ∈ calls, call.2.condemns = true) ∧ ¬∃ call ∈ calls, call.2.flags = true) ∧
      ∀ calls', calls.Perm calls' →
        (assessAll (create now tenantId messageId) calls').quarantineDecision.action =
          a.quarantineDecision.action := by
  obtain ⟨haction, hlocked, -⟩ := decided_assessAll now tenantId messageId calls
  dsimp only
  simp only [haction, hlocked, ← List.any_eq_true]
  refine ⟨?_, ?_, ?_, fun calls' hperm => ?_⟩
  · unfold verdict
    refine and_iff_right_of_imp fun hcondemns => ?_
    rw [if_pos hcondemns]
  · unfold verdict
    rcases calls.any (·.2.condemns) with _ | _ <;> rcases calls.any (·.2.flags) with _ | _ <;> decide
  · unfold verdict
    rcases calls.any (·.2.condemns) with _ | _ <;> rcases calls.any (·.2.flags) with _ | _ <;> decide
  · rw [(decided_assessAll now tenantId messageId calls').action, verdict_perm hperm]

/-! ## Quarantines and overrides

An override may leave a quarantine without a lock, and a layer that only flags replaces it.
-/

/-- Only an override gives up a quarantine. -/
def KeepsQuarantine (a : ThreatAssessment) : Operation → ThreatAssessment → Prop
  | .assess _ _, a' =>
    a.quarantineDecision.action = .Quarantine → a'.quarantineDecision.action = .Quarantine
  | .overrideQuarantine .., _ => True

/-- No layer that only flags runs on a quarantine without a lock, which is what an override leaves that
decides to quarantine. -/
def FlagsNoQuarantine (a : ThreatAssessment) : Operation → ThreatAssessment → Prop
  | .assess _ layer, _ =>
    a.assessmentLocked = false → a.quarantineDecision.action = .Quarantine →
      layer.quarantines a.authenticationSignal = false → layer.flags = false
  | .overrideQuarantine .., _ => True

/-- A step keeps a quarantine exactly if it does not flag over one. -/
theorem keepsQuarantine_step (a : ThreatAssessment) (op : Operation) :
    KeepsQuarantine a op (a.step op) ↔ FlagsNoQuarantine a op (a.step op) := by
  cases op with
  | overrideQuarantine now newDecision representable => exact Iff.rfl
  | assess now layer =>
    unfold KeepsQuarantine FlagsNoQuarantine
    dsimp only
    rcases hlocked : a.assessmentLocked with _ | _
    · rw [step_assess_of_unlocked hlocked]
      dsimp only
      unfold Layer.decision
      rcases layer.quarantines a.authenticationSignal with _ | _
      · rcases layer.flags with _ | _
        · simp
        · -- the flag replaces the decision
          simp [QuarantineDecision.flag]
      · simp [QuarantineDecision.quarantine]
    · rw [step_assess_of_locked hlocked]
      simp

/-- Whatever the operations, only overrides give up a quarantine exactly if no layer that only flags runs
on a quarantine without a lock. -/
theorem keepsQuarantine_iff (now : ℤ) (tenantId messageId : String) (ops : List Operation) :
    Along KeepsQuarantine (create now tenantId messageId)
        (exec step (create now tenantId messageId) ops) ↔
      Along FlagsNoQuarantine (create now tenantId messageId)
        (exec step (create now tenantId messageId) ops) := by
  refine along_iff (I := fun _ => True) ?_ (fun _ _ _ _ _ _ => trivial) (along_exec _ _ ops) trivial
  rintro a op a' - rfl
  exact keepsQuarantine_step a op

/-- The first instant of 1970. -/
def epoch : Date.Instant := ⟨0, Date.isInstant_zero⟩

/-- The intent layer is sure of a fraud, an administrator decides to quarantine too, and the intent layer
runs again and is less sure. -/
def quarantinedByAdmin : List Operation :=
  [.assess epoch (.intent ⟨.BEC, 9 / 10, "", by norm_num, by decide⟩),
    .overrideQuarantine epoch (QuarantineDecision.quarantine 0 .admin) (Date.representable_some epoch),
    .assess epoch (.intent ⟨.BEC, 6 / 10, "", by norm_num, by decide⟩)]

/-- The quarantine that the administrator has confirmed becomes a flag. -/
theorem not_keepsQuarantine_quarantinedByAdmin :
    ¬Along KeepsQuarantine (create 0 "tenant" "message")
      (exec step (create 0 "tenant" "message") quarantinedByAdmin) := by
  rintro ⟨-, -, hlast, -⟩
  exact absurd (hlast (by decide +kernel)) (by decide +kernel)

end ThreatAssessment

/-! ## The highest tier

The tier is that of the last layer. A ghost keeps the highest one.
-/

/-- Later tiers are higher. -/
def ThreatTier.rank : ThreatTier → ℕ
  | .AuthCheck => 0
  | .LookalikeCheck => 1
  | .IntentLlm => 2

instance : LinearOrder ThreatTier :=
  LinearOrder.lift' ThreatTier.rank fun t t' h => by cases t <;> cases t' <;> first | rfl | cases h

namespace ThreatAssessment

/-- An assessment, and the highest tier among `AuthCheck` and those of the layers it has accepted. -/
structure Tracked where
  assessment : ThreatAssessment
  highest : ThreatTier

namespace Tracked

def create (now : ℤ) (tenantId messageId : String) : Tracked :=
  ⟨ThreatAssessment.create now tenantId messageId, .AuthCheck⟩

/-- An operation that throws reaches no tier. -/
def step (s : Tracked) (op : Operation) : Tracked :=
  match s.assessment.perform op with
  | .error _ => s
  | .ok a => ⟨a, match op with
    | .assess _ layer => max s.highest layer.tier
    | .overrideQuarantine .. => s.highest⟩

end Tracked

/-- `highestTierReached` is the highest tier, and has not come down. -/
def RunningMaximum (s : Tracked) (_ : Operation) (t : Tracked) : Prop :=
  t.assessment.highestTierReached = t.highest ∧
    s.assessment.highestTierReached ≤ t.assessment.highestTierReached

/-- No layer below the tier that is on record runs on an unlocked assessment. -/
def RunsUpwards (s : Tracked) : Operation → Tracked → Prop
  | .assess _ layer, _ =>
    s.assessment.assessmentLocked = false → s.assessment.highestTierReached ≤ layer.tier
  | .overrideQuarantine .., _ => True

/-- An override leaves the tier alone. -/
theorem highestTierReached_override {now : ℤ} {a a' : ThreatAssessment} {d : QuarantineDecision}
    (h : a.overrideQuarantine now d = .ok a') : a'.highestTierReached = a.highestTierReached := by
  unfold overrideQuarantine at h
  split_ifs at h
  rw [← Except.ok.inj h]

/-- A step keeps the running maximum exactly if its layer is not below the tier on record. -/
theorem runningMaximum_step {s : Tracked} (hs : s.assessment.highestTierReached = s.highest)
    (op : Operation) : RunningMaximum s op (s.step op) ↔ RunsUpwards s op (s.step op) := by
  unfold RunningMaximum RunsUpwards
  cases op with
  | assess now layer =>
    unfold Tracked.step perform
    dsimp only
    rcases hlocked : s.assessment.assessmentLocked with _ | _
    · rw [assess_of_unlocked now hlocked layer]
      dsimp only
      rw [← hs, eq_comm, max_eq_right_iff, and_self]
      exact ⟨fun h _ => h, fun h => h rfl⟩
    · rw [assess_of_locked hlocked]
      simp [hs]
  | overrideQuarantine now newDecision representable =>
    unfold Tracked.step perform
    dsimp only
    rcases hperform : s.assessment.overrideQuarantine now newDecision with e | a
    · simp [hs]
    · simp [hs, highestTierReached_override hperform]

/-- In whatever order the layers run, the highest tier is on record exactly if no accepted layer is below
the tier that is on record. -/
theorem runningMaximum_iff (now : ℤ) (tenantId messageId : String) (ops : List Operation) :
    Along RunningMaximum (.create now tenantId messageId)
        (exec Tracked.step (.create now tenantId messageId) ops) ↔
      Along RunsUpwards (.create now tenantId messageId)
        (exec Tracked.step (.create now tenantId messageId) ops) := by
  refine along_iff (I := fun s => s.assessment.highestTierReached = s.highest) ?_ ?_
    (along_exec _ _ ops) rfl
  · rintro s op t hs rfl
    exact runningMaximum_step hs op
  · rintro s op t hs rfl hop
    exact ((runningMaximum_step hs op).mpr hop).1

/-- The lookalike layer runs, and the authentication layer after it. -/
def lookalikeFirst : List Operation :=
  [.assess epoch (.lookalike ⟨"example.org", none, 999, false, false⟩),
    .assess epoch (.authentication ⟨.pass, .pass, .pass, .aligned, false⟩)]

/-- The assessment is back at `AuthCheck`. -/
theorem not_runningMaximum_lookalikeFirst : ¬Along RunningMaximum (.create 0 "tenant" "message")
    (exec Tracked.step (.create 0 "tenant" "message") lookalikeFirst) := by
  rintro ⟨-, ⟨hlast, -⟩, -⟩
  exact absurd hlast (by decide +kernel)

end ThreatAssessment

end EmailTriage.ThreatDetection
