import EmailTriage.Classification.GracefulDegradation

/-!
# Degradation across restarts

The service saves its fields in the row of `llm_provider_degradation` after every operation and at
shutdown, and a new instance starts with what the row holds. Any of these calls to the database may
fail, so the row may lag behind. It still holds the fields of some earlier time, and these are as
coherent as the present ones (`inStep_run`).

A restart may go back to an older state, so the invariant asks for coherence of the row as well as of
the instance. Coherence is what `getTimeUntilRetry` needs: with the last failure in the past, the time
it returns lies between zero and the cool-down.
-/

namespace EmailTriage.Classification

open Runs

/-- The columns of the row that keep the fields. -/
structure LlmProviderDegradationRow where
  isHealthy : Bool
  consecutiveFailures : ℕ
  lastFailureAt : Option ℤ
deriving DecidableEq

namespace LlmProviderDegradationRow

/-- The columns of a new row. -/
def initial : LlmProviderDegradationRow := ⟨true, 0, none⟩

/-- What `saveState` writes. -/
def ofService (s : GracefulDegradationService) : LlmProviderDegradationRow :=
  ⟨s.llmProviderHealthy, s.consecutiveFailures, s.lastLlmFailure⟩

/-- What `onModuleInit` restores. -/
def restored (r : LlmProviderDegradationRow) : GracefulDegradationService :=
  ⟨r.isHealthy, r.lastFailureAt, r.consecutiveFailures⟩

/-- A row that was just saved restores the fields. -/
theorem restored_ofService (s : GracefulDegradationService) : (ofService s).restored = s := rfl

end LlmProviderDegradationRow

/-- The running instance, the row, and the clock. -/
structure DegradationDeployment where
  service : GracefulDegradationService
  row : Option LlmProviderDegradationRow
  now : ℤ

/-- What happens to a deployment, with what becomes of the calls to the database: whether a row was
written, found or created. -/
inductive DegradationEvent where
  | recordLlmFailure (saved : Bool)
  | recordLlmSuccess (saved : Bool)
  | retryLlmProvider (saved : Bool)
  | onModuleDestroy (saved : Bool)
  | onModuleInit (found created : Bool)
  | wait (elapsed : ℕ)

namespace DegradationDeployment

/-- A new instance before its first start. -/
def fresh (now : ℤ) : DegradationDeployment := ⟨.initial, none, now⟩

/-- `saveState`, which updates every row there is. A failure is swallowed. -/
def saveState (d : DegradationDeployment) (saved : Bool) : DegradationDeployment :=
  if saved then { d with row := d.row.map fun _ => .ofService d.service } else d

/-- An operation of the service. -/
def operate (d : DegradationDeployment) (op : LlmOperation) (saved : Bool) : DegradationDeployment :=
  { d with service := d.service.apply op }.saveState saved

/-- A new instance with `onModuleInit`, which keeps the fields of a new service where it throws. -/
def restart (d : DegradationDeployment) (found created : Bool) : DegradationDeployment :=
  let d := { d with service := .initial }
  if found then
    match d.row with
    | some r => { d with service := r.restored }
    | none => if created then { d with row := some .initial } else d
  else d

def step (d : DegradationDeployment) : DegradationEvent → DegradationDeployment
  | .recordLlmFailure saved => d.operate (.recordLlmFailure d.now) saved
  | .recordLlmSuccess saved => d.operate .recordLlmSuccess saved
  | .retryLlmProvider saved => d.operate .retryLlmProvider saved
  | .onModuleDestroy saved => d.saveState saved
  | .onModuleInit found created => d.restart found created
  | .wait elapsed => { d with now := d.now + elapsed }

/-- The service is degraded exactly after enough failures, it knows a last failure exactly after one,
and the time until the retry is at most the cool-down and does not grow while nothing but time passes.
-/
structure InStep (d : DegradationDeployment) : Prop where
  degraded : d.service.isDegradedMode = true ↔ 5 ≤ d.service.consecutiveFailures
  failed : d.service.lastLlmFailure = none ↔ d.service.consecutiveFailures = 0
  bounded : ∀ elapsed : ℕ, 0 ≤ d.service.getTimeUntilRetry (d.now + elapsed) ∧
    d.service.getTimeUntilRetry (d.now + elapsed) ≤ 60000
  shrinks : ∀ elapsed elapsed' : ℕ, elapsed ≤ elapsed' →
    d.service.getTimeUntilRetry (d.now + elapsed') ≤ d.service.getTimeUntilRetry (d.now + elapsed)

end DegradationDeployment

namespace GracefulDegradationService

variable {s : GracefulDegradationService} {now : ℤ}

/-- The fields agree with each other and with the clock. -/
structure Coherent (s : GracefulDegradationService) (now : ℤ) : Prop where
  degraded : s.isDegradedMode = true ↔ 5 ≤ s.consecutiveFailures
  failed : s.lastLlmFailure = none ↔ s.consecutiveFailures = 0
  past : ∀ t ∈ s.lastLlmFailure, t ≤ now

/-- The initial state is coherent at any time. -/
theorem coherent_initial (now : ℤ) : Coherent initial now :=
  ⟨by decide, by decide, fun _ ht => by cases ht⟩

/-- A coherent state stays so while time passes. -/
theorem Coherent.later (h : s.Coherent now) (elapsed : ℕ) : s.Coherent (now + elapsed) :=
  ⟨h.degraded, h.failed, fun t ht => by
    have := h.past t ht
    omega⟩

/-- A failure at the current time keeps the fields coherent. -/
theorem Coherent.recordLlmFailure (h : s.Coherent now) : (s.apply (.recordLlmFailure now)).Coherent now := by
  have hpast : ∀ t ∈ some now, t ≤ now := fun t ht => Int.le_of_eq (Option.mem_some.mp ht).symm
  unfold apply
  by_cases hcount : 5 ≤ s.consecutiveFailures + 1
  · rw [perform_recordLlmFailure_of_ge now hcount]
    exact ⟨iff_of_true rfl hcount, iff_of_false nofun nofun, hpast⟩
  · rw [perform_recordLlmFailure_of_lt now (Nat.not_le.mp hcount)]
    have hbelow : ¬5 ≤ s.consecutiveFailures := fun h5 => hcount (Nat.le_succ_of_le h5)
    exact ⟨iff_of_false (fun hd => hbelow (h.degraded.mp hd)) hcount, iff_of_false nofun nofun, hpast⟩

/-- The time until the retry is within the cool-down. -/
theorem Coherent.getTimeUntilRetry_bounds (h : s.Coherent now) :
    0 ≤ s.getTimeUntilRetry now ∧ s.getTimeUntilRetry now ≤ 60000 := by
  unfold getTimeUntilRetry degradationCooldownMs
  split
  · next lastLlmFailure _ hlast =>
    have := h.past lastLlmFailure hlast
    omega
  · decide

/-- It does not grow with the time. -/
theorem getTimeUntilRetry_le (s : GracefulDegradationService) {t t' : ℤ} (ht : t ≤ t') :
    s.getTimeUntilRetry t' ≤ s.getTimeUntilRetry t := by
  unfold getTimeUntilRetry
  split
  · omega
  · exact Int.le_refl _

end GracefulDegradationService

namespace DegradationDeployment

open GracefulDegradationService

/-- The fields are coherent, and so are those that a restart would restore. -/
structure Invariant (d : DegradationDeployment) : Prop where
  service : d.service.Coherent d.now
  row : ∀ r ∈ d.row, r.restored.Coherent d.now

variable {d : DegradationDeployment}

/-- A state that is written is one the service has. -/
theorem Invariant.saveState (h : d.Invariant) (saved : Bool) : (d.saveState saved).Invariant := by
  unfold DegradationDeployment.saveState
  rcases saved with _ | _
  · exact h
  · refine ⟨h.service, fun r hr => ?_⟩
    obtain ⟨-, -, rfl⟩ := Option.map_eq_some_iff.mp hr
    rw [LlmProviderDegradationRow.restored_ofService]
    exact h.service

/-- An operation that leaves a coherent state keeps the invariant, saved or not. -/
theorem Invariant.operate (h : d.Invariant) (op : LlmOperation) (hop : (d.service.apply op).Coherent d.now)
    (saved : Bool) : (d.operate op saved).Invariant :=
  Invariant.saveState (d := { d with service := d.service.apply op }) ⟨hop, h.row⟩ saved

/-- A restart loads the stored state or the initial one. -/
theorem Invariant.restart (h : d.Invariant) (found created : Bool) :
    (d.restart found created).Invariant := by
  have hinitial := coherent_initial d.now
  unfold DegradationDeployment.restart
  rcases found with _ | _
  · exact ⟨hinitial, h.row⟩
  · dsimp only
    rw [if_pos rfl]
    split
    · next r hr => exact ⟨h.row r hr, h.row⟩
    · split
      · exact ⟨hinitial, fun r hr => (Option.mem_some.mp hr) ▸ hinitial⟩
      · exact ⟨hinitial, h.row⟩

/-- Whatever happens next, the invariant holds. -/
theorem Invariant.step (h : d.Invariant) (e : DegradationEvent) : (d.step e).Invariant := by
  cases e with
  | recordLlmFailure saved => exact h.operate _ h.service.recordLlmFailure saved
  | recordLlmSuccess saved => exact h.operate .recordLlmSuccess (coherent_initial d.now) saved
  | retryLlmProvider saved => exact h.operate .retryLlmProvider (coherent_initial d.now) saved
  | onModuleDestroy saved => exact h.saveState saved
  | onModuleInit found created => exact h.restart found created
  | wait elapsed => exact ⟨h.service.later elapsed, fun r hr => (h.row r hr).later elapsed⟩

/-- In every state of a deployment the fields are in step with each other, whichever calls to the database
failed. -/
theorem inStep_run (now : ℤ) (events : List DegradationEvent) : InStep (events.foldl step (fresh now)) := by
  have h : (events.foldl step (fresh now)).Invariant :=
    foldl_invariant (fun _ e hd => hd.step e) ⟨coherent_initial now, fun _ hr => by cases hr⟩ events
  refine ⟨h.service.degraded, h.service.failed, fun elapsed => ?_, fun elapsed elapsed' helapsed => ?_⟩
  · exact (h.service.later elapsed).getTimeUntilRetry_bounds
  · exact getTimeUntilRetry_le _ (Int.add_le_add_left (Int.ofNat_le.mpr helapsed) _)

end DegradationDeployment

end EmailTriage.Classification
