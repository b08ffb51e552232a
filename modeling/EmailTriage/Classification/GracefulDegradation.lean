import Mathlib.Data.Int.Notation
import Mathlib.Data.List.Chain
import EmailTriage.Lib.Runs

/-!
# Degradation of the classification

`src/classification/services/graceful-degradation.service.ts`: after five consecutive failures of the
LLM provider the service is degraded, until a success or a manual retry. `alertsMatch_iff` says in
which runs the alerts tell the transitions: a failure in degraded mode repeats its alert, and a retry
recovers without one.

The transition of a step is what the fields before and after it say, and its alerts are what it logs.
Step by step they agree except in two cases (`perform_eq_transition_iff`), and a run in which they
agree alternates between the two kinds of alert (`alternate_of_along`).
-/

namespace EmailTriage.Classification

open Runs

/-- The alerts, which are lines in the log. -/
inductive Alert where
  | degradation
  | recovery
deriving DecidableEq

/-- The fields of the service. -/
structure GracefulDegradationService where
  llmProviderHealthy : Bool
  lastLlmFailure : Option ℤ
  consecutiveFailures : ℕ
deriving DecidableEq

/-- The operations that change the fields, with the time of a failure. -/
inductive LlmOperation where
  | recordLlmFailure (now : ℤ)
  | recordLlmSuccess
  | retryLlmProvider
deriving DecidableEq

namespace GracefulDegradationService

def failureThreshold : ℕ := 5

def degradationCooldownMs : ℤ := 60 * 1000

/-- The fields of a new service. -/
def initial : GracefulDegradationService := ⟨true, none, 0⟩

/-- `recordLlmFailure`, with the alerts it emits. -/
def recordLlmFailure (s : GracefulDegradationService) (now : ℤ) :
    GracefulDegradationService × List Alert :=
  let s := { s with
    consecutiveFailures := s.consecutiveFailures + 1
    lastLlmFailure := some now }
  if failureThreshold ≤ s.consecutiveFailures then
    ({ s with llmProviderHealthy := false }, [.degradation])
  else (s, [])

/-- `recordLlmSuccess`, with the alerts it emits. -/
def recordLlmSuccess (s : GracefulDegradationService) : GracefulDegradationService × List Alert :=
  let alerts := if s.llmProviderHealthy then [] else [.recovery]
  ({ s with consecutiveFailures := 0, lastLlmFailure := none, llmProviderHealthy := true }, alerts)

/-- `retryLlmProvider`, which emits no alert. -/
def retryLlmProvider (s : GracefulDegradationService) : GracefulDegradationService × List Alert :=
  ({ s with consecutiveFailures := 0, lastLlmFailure := none, llmProviderHealthy := true }, [])

def isDegradedMode (s : GracefulDegradationService) : Bool := !s.llmProviderHealthy

/-- `getTimeUntilRetry` at a time. -/
def getTimeUntilRetry (s : GracefulDegradationService) (now : ℤ) : ℤ :=
  match s.llmProviderHealthy, s.lastLlmFailure with
  | false, some lastLlmFailure => max 0 (degradationCooldownMs - (now - lastLlmFailure))
  | _, _ => 0

/-- An operation, with the alerts it emits. -/
def perform (s : GracefulDegradationService) : LlmOperation → GracefulDegradationService × List Alert
  | .recordLlmFailure now => s.recordLlmFailure now
  | .recordLlmSuccess => s.recordLlmSuccess
  | .retryLlmProvider => s.retryLlmProvider

def apply (s : GracefulDegradationService) (op : LlmOperation) : GracefulDegradationService :=
  (s.perform op).1

variable {s t : GracefulDegradationService} {op : LlmOperation}

/-- From the fifth failure in a row on, every failure alerts. -/
theorem perform_recordLlmFailure_of_ge (now : ℤ) (h : 5 ≤ s.consecutiveFailures + 1) :
    s.perform (.recordLlmFailure now) = (⟨false, some now, s.consecutiveFailures + 1⟩, [.degradation]) :=
  if_pos h

/-- Before that it is only counted. -/
theorem perform_recordLlmFailure_of_lt (now : ℤ) (h : s.consecutiveFailures + 1 < 5) :
    s.perform (.recordLlmFailure now) = (⟨s.llmProviderHealthy, some now, s.consecutiveFailures + 1⟩, []) :=
  if_neg (Nat.not_le.mpr h)

/-- A success starts again, and alerts if the provider was unhealthy. -/
theorem perform_recordLlmSuccess :
    s.perform .recordLlmSuccess = (initial, if s.llmProviderHealthy then [] else [.recovery]) := rfl

/-- A retry starts again without an alert. -/
theorem perform_retryLlmProvider : s.perform .retryLlmProvider = (initial, []) := rfl

/-! ## The alerts of a run

The alerts of a run should alternate between degradation and recovery. They are compared with the
changes of the mode, transition by transition.
-/

/-- The alerts that tell a transition: one if the service was healthy and is degraded, the other if it was
degraded and is healthy. -/
def transition (s t : GracefulDegradationService) : List Alert :=
  match s.llmProviderHealthy, t.llmProviderHealthy with
  | true, false => [.degradation]
  | false, true => [.recovery]
  | _, _ => []

/-- The alerts that a run emits. -/
def alerts (s : GracefulDegradationService) : List LlmOperation → List Alert
  | [] => []
  | op :: ops => (s.perform op).2 ++ alerts (s.apply op) ops

/-- Every step emits the alerts that tell its transition, and the two kinds of alert alternate. -/
structure AlertsMatch (s : GracefulDegradationService) (ops : List LlmOperation) : Prop where
  steps : Along (fun s op t => (s.perform op).2 = transition s t) s (exec apply s ops)
  alternate : (alerts s ops).IsChain (· ≠ ·)

/-- While the service is degraded, only a success is recorded. -/
def DegradedUntilSuccess (s : GracefulDegradationService) (op : LlmOperation)
    (_ : GracefulDegradationService) : Prop :=
  s.isDegradedMode = true → op = .recordLlmSuccess

/-- A degraded service has failed often enough. -/
def FailedEnough (s : GracefulDegradationService) : Prop :=
  s.llmProviderHealthy = false → 5 ≤ s.consecutiveFailures

/-- No operation makes the provider unhealthy before enough failures. -/
theorem FailedEnough.apply (h : s.FailedEnough) (op : LlmOperation) : (s.apply op).FailedEnough := by
  unfold GracefulDegradationService.apply
  cases op with
  | recordLlmFailure now =>
    by_cases hcount : 5 ≤ s.consecutiveFailures + 1
    · rw [perform_recordLlmFailure_of_ge now hcount]
      exact fun _ => hcount
    · rw [perform_recordLlmFailure_of_lt now (Nat.not_le.mp hcount)]
      exact fun hdegraded => Nat.le_succ_of_le (h hdegraded)
  | recordLlmSuccess => exact fun hdegraded => by cases hdegraded
  | retryLlmProvider => exact fun hdegraded => by cases hdegraded

/-- A step emits the alerts of its transition unless the service is degraded and fails again or is
retried. -/
theorem perform_eq_transition_iff (h : s.FailedEnough) (op : LlmOperation) :
    (s.perform op).2 = transition s (s.apply op) ↔ s.DegradedUntilSuccess op (s.apply op) := by
  unfold GracefulDegradationService.apply DegradedUntilSuccess isDegradedMode transition
  rcases hhealthy : s.llmProviderHealthy with _ | _
  · -- degraded
    cases op with
    | recordLlmFailure now =>
      rw [perform_recordLlmFailure_of_ge now (Nat.le_succ_of_le (h hhealthy))]
      simp
    | recordLlmSuccess => simp [perform_recordLlmSuccess, hhealthy, initial]
    | retryLlmProvider => simp [perform_retryLlmProvider, initial]
  · -- healthy
    refine iff_of_true ?_ fun hdegraded => by cases hdegraded
    cases op with
    | recordLlmFailure now =>
      by_cases hcount : 5 ≤ s.consecutiveFailures + 1
      · rw [perform_recordLlmFailure_of_ge now hcount]
      · rw [perform_recordLlmFailure_of_lt now (Nat.not_le.mp hcount), hhealthy]
    | recordLlmSuccess => rw [perform_recordLlmSuccess, hhealthy]; rfl
    | retryLlmProvider => rfl

/-- Alerts that tell the transitions alternate, beginning with the one that tells a transition from the
first state. -/
theorem alternate_of_along {ops : List LlmOperation}
    (h : Along (fun s op t => (s.perform op).2 = transition s t) s (exec apply s ops)) :
    (alerts s ops).IsChain (· ≠ ·) ∧
      ∀ a ∈ (alerts s ops).head?, a = if s.llmProviderHealthy then .degradation else .recovery := by
  induction ops generalizing s with
  | nil => exact ⟨.nil, fun a ha => by cases ha⟩
  | cons op ops ih =>
    obtain ⟨hchain, hhead⟩ := ih h.2
    have hstep : (s.perform op).2 = transition s (s.apply op) := h.1
    rw [alerts, hstep]
    unfold transition
    rcases hs : s.llmProviderHealthy with _ | _ <;> rcases ht : (s.apply op).llmProviderHealthy with _ | _
    all_goals rw [ht] at hhead
    · exact ⟨hchain, hhead⟩
    · refine ⟨hchain.cons fun a ha => ?_, fun a ha => (Option.mem_some.mp ha).symm⟩
      rw [hhead a ha]
      decide
    · refine ⟨hchain.cons fun a ha => ?_, fun a ha => (Option.mem_some.mp ha).symm⟩
      rw [hhead a ha]
      decide
    · exact ⟨hchain, hhead⟩

/-- A service that is not degraded. -/
def Healthy := { s : GracefulDegradationService // s.llmProviderHealthy = true }

/-- In a run of a healthy service, the alerts tell the transitions if and only if nothing but a success is
recorded while it is degraded. -/
theorem alertsMatch_iff (s : Healthy) (ops : List LlmOperation) :
    AlertsMatch s.1 ops ↔ Along DegradedUntilSuccess s.1 (exec apply s.1 ops) := by
  have hsteps : Along (fun s op t => (s.perform op).2 = transition s t) s.1 (exec apply s.1 ops) ↔
      Along DegradedUntilSuccess s.1 (exec apply s.1 ops) := by
    refine along_iff (I := FailedEnough) ?_ ?_ (along_exec apply s.1 ops) fun hdegraded => ?_
    · rintro s op t hs rfl
      exact perform_eq_transition_iff hs op
    · rintro s op t hs rfl -
      exact hs.apply op
    · rw [s.2] at hdegraded
      cases hdegraded
  constructor
  · intro h
    exact hsteps.mp h.steps
  · intro h
    exact ⟨hsteps.mpr h, (alternate_of_along (hsteps.mpr h)).1⟩

/-- The sixth failure in a row emits the alert of the fifth again. -/
theorem not_alertsMatch_sixFailures :
    ¬AlertsMatch initial (List.replicate 6 (.recordLlmFailure 0)) :=
  fun h => absurd h.steps (by decide)

end GracefulDegradationService

end EmailTriage.Classification
