import Mathlib.Data.Finset.Image
import EmailTriage.Classification.CanaryRollout
import EmailTriage.Lib.Doubles
import EmailTriage.Lib.Runs

/-!
# The percentage of a canary rollout

The administrative operations of `src/classification/services/canary-rollout.service.ts` with any
arguments: a percentage is any number, and a tenant id any string. Only `increaseCanaryPercentage`
looks at its percentage, and only for one above 100, so the operations can put the rollout anywhere.
`wellFormed_iff` says which arguments keep it well-formed.

`stepWellFormed_iff` settles one operation at a time: an operation that is refused changes nothing, and
one that is made leaves a well-formed rollout exactly if its percentage is `Allowed`. A run is
well-formed if all of its steps are. NaN is not above 100, so it is not refused.
-/

namespace EmailTriage.Classification

open Js Runs

/-- The fields of the service. -/
structure CanaryRolloutService where
  currentProductionVersion : String
  canaryVersion : Option String
  canaryPercentage : Double
  betaTenantIds : Finset Utf16
deriving DecidableEq

/-- The administrative operations, with any numbers and strings. -/
inductive CanaryOperation where
  | promoteCanaryToProduction
  | rollbackProduction (previousVersion : String)
  | startCanaryRollout (canaryVersion : String) (startPercentage : Option Double)
  | increaseCanaryPercentage (newPercentage : Double)
  | registerBetaTenant (tenantId : Utf16)
  | unregisterBetaTenant (tenantId : Utf16)
deriving DecidableEq

namespace CanaryRolloutService

/-- The fields of a new service. -/
def initial : CanaryRolloutService := ⟨"v1.0.0", none, .finite 0, ∅⟩

/-- The canary version, unless a condition takes it for false. -/
def activeCanary (s : CanaryRolloutService) : Option String := s.canaryVersion.filter fun v => v ≠ ""

/-- What an operation makes of the fields, `none` where it returns without saving. -/
def operate (s : CanaryRolloutService) : CanaryOperation → Option CanaryRolloutService
  | .promoteCanaryToProduction =>
    s.activeCanary.map fun canaryVersion => { s with
      currentProductionVersion := canaryVersion, canaryVersion := none, canaryPercentage := .finite 0 }
  | .rollbackProduction previousVersion =>
    some { s with
      currentProductionVersion := previousVersion, canaryVersion := none, canaryPercentage := .finite 0 }
  | .startCanaryRollout canaryVersion startPercentage =>
    if canaryVersion = s.currentProductionVersion then none
    else some { s with
      canaryVersion := some canaryVersion, canaryPercentage := startPercentage.getD (.finite 5) }
  | .increaseCanaryPercentage newPercentage =>
    if s.activeCanary.isNone ∨ (Double.finite 100).lt newPercentage = true then none
    else some { s with canaryPercentage := newPercentage }
  | .registerBetaTenant tenantId => some { s with betaTenantIds := insert tenantId s.betaTenantIds }
  | .unregisterBetaTenant tenantId => some { s with betaTenantIds := s.betaTenantIds.erase tenantId }

/-- What an operation makes of the state. -/
def apply (s : CanaryRolloutService) (op : CanaryOperation) : CanaryRolloutService := (s.operate op).getD s

end CanaryRolloutService

/-! ## Whole percentages

The operations of the service on percentages that are integers.
-/

/-- The state that has a whole percentage and texts for tenant ids. -/
def RolloutState.toService (s : RolloutState) : CanaryRolloutService :=
  ⟨s.productionVersion, s.canaryVersion, .finite s.canaryPercentage, s.betaTenantIds.image utf16⟩

/-- The operation that has them. -/
def RolloutOperation.toCanaryOperation : RolloutOperation → CanaryOperation
  | .promoteCanaryToProduction => .promoteCanaryToProduction
  | .rollbackProduction previousVersion => .rollbackProduction previousVersion
  | .startCanaryRollout canaryVersion startPercentage =>
    .startCanaryRollout canaryVersion (startPercentage.map fun z => .finite z)
  | .increaseCanaryPercentage newPercentage => .increaseCanaryPercentage (.finite newPercentage)
  | .registerBetaTenant tenantId => .registerBetaTenant (utf16 tenantId)
  | .unregisterBetaTenant tenantId => .unregisterBetaTenant (utf16 tenantId)

/-- On whole percentages and texts, the operations do what was modelled before. -/
theorem RolloutState.operate_toService (s : RolloutState) (op : RolloutOperation) :
    s.toService.operate op.toCanaryOperation = (s.operate op).map RolloutState.toService := by
  cases op with
  | promoteCanaryToProduction =>
    have hactive : s.toService.activeCanary = s.activeCanary := rfl
    unfold CanaryRolloutService.operate RolloutState.operate RolloutOperation.toCanaryOperation
    dsimp only
    rw [hactive, Option.map_map]
    exact Option.map_congr fun _ _ => by rfl
  | rollbackProduction previousVersion => rfl
  | startCanaryRollout canaryVersion startPercentage =>
    have hproduction : s.toService.currentProductionVersion = s.productionVersion := rfl
    unfold CanaryRolloutService.operate RolloutState.operate RolloutOperation.toCanaryOperation
    dsimp only
    rw [hproduction]
    by_cases hsame : canaryVersion = s.productionVersion
    · rw [if_pos hsame, if_pos hsame]
      rfl
    · rw [if_neg hsame, if_neg hsame]
      cases startPercentage with
      | none => rfl
      | some percentage => rfl
  | increaseCanaryPercentage newPercentage =>
    have hactive : s.toService.activeCanary = s.activeCanary := rfl
    -- on integers the comparison of doubles is that of integers
    have hlt : (Double.finite 100).lt (.finite newPercentage) = true ↔ newPercentage > 100 := by
      rw [Double.lt_finite_iff]
      exact_mod_cast Iff.rfl
    unfold CanaryRolloutService.operate RolloutState.operate RolloutOperation.toCanaryOperation
    dsimp only
    rw [hactive]
    simp only [hlt]
    split
    · rfl
    · rfl
  | registerBetaTenant tenantId =>
    -- texts with the same code units are the same text, so that the two sets of tenants agree
    have hids := Finset.image_insert utf16 tenantId s.betaTenantIds
    exact (congrArg (fun ids => some { s.toService with betaTenantIds := ids }) hids).symm
  | unregisterBetaTenant tenantId =>
    have hids := Finset.image_erase (fun _ _ => utf16_inj) s.betaTenantIds tenantId
    exact (congrArg (fun ids => some { s.toService with betaTenantIds := ids }) hids).symm

/-! ## Well-formed rollouts

Which operations keep a rollout well formed, from any state and from the initial one. A refused operation
changes nothing.
-/

namespace CanaryRolloutService

/-- The percentage is one, it is 0 without a canary version, and the canary version is not the one in
production. -/
structure WellFormed (s : CanaryRolloutService) : Prop where
  nonneg : (Double.finite 0).le s.canaryPercentage = true
  le_hundred : s.canaryPercentage.le (.finite 100) = true
  zero : s.canaryVersion = none → s.canaryPercentage = .finite 0
  differs : s.canaryVersion ≠ some s.currentProductionVersion

/-- The step leads to a well-formed rollout, and no increase lowers the percentage. -/
structure StepWellFormed (s : CanaryRolloutService) (op : CanaryOperation) (t : CanaryRolloutService) :
    Prop where
  wellFormed : t.WellFormed
  raises : ∀ newPercentage, op = .increaseCanaryPercentage newPercentage →
    t.canaryPercentage.lt s.canaryPercentage = false

/-- A rollout starts with a percentage between 0 and 100, and an increase that is made is one. -/
def Allowed (s : CanaryRolloutService) (op : CanaryOperation) (_ : CanaryRolloutService) : Prop :=
  match op with
  | .startCanaryRollout canaryVersion startPercentage => canaryVersion ≠ s.currentProductionVersion →
    (Double.finite 0).le (startPercentage.getD (.finite 5)) = true ∧
      (startPercentage.getD (.finite 5)).le (.finite 100) = true
  | .increaseCanaryPercentage newPercentage => s.activeCanary.isSome = true →
    (Double.finite 100).lt newPercentage = false → s.canaryPercentage.le newPercentage = true
  | _ => True

/-- The initial state is well formed. -/
theorem wellFormed_initial : initial.WellFormed := ⟨by decide, by decide, fun _ => rfl, by decide⟩

variable {s : CanaryRolloutService}

/-- A rollout without a canary version is well-formed at 0. -/
theorem wellFormed_withdrawn (productionVersion : String) (betaTenantIds : Finset Utf16) :
    WellFormed ⟨productionVersion, none, .finite 0, betaTenantIds⟩ where
  nonneg := Double.le_finite_iff.mpr (by decide)
  le_hundred := Double.le_finite_iff.mpr (by decide)
  zero _ := rfl
  differs := nofun

/-- Starting a rollout is well-formed exactly with a percentage between 0 and 100. -/
theorem stepWellFormed_start_iff (h : s.WellFormed) (canaryVersion : String)
    (startPercentage : Option Double) :
    s.StepWellFormed (.startCanaryRollout canaryVersion startPercentage)
        (s.apply (.startCanaryRollout canaryVersion startPercentage)) ↔
      (canaryVersion ≠ s.currentProductionVersion →
        (Double.finite 0).le (startPercentage.getD (.finite 5)) = true ∧
          (startPercentage.getD (.finite 5)).le (.finite 100) = true) := by
  by_cases hsame : canaryVersion = s.currentProductionVersion
  · rw [apply, operate, if_pos hsame]
    exact iff_of_true ⟨h, nofun⟩ fun hne => absurd hsame hne
  · rw [apply, operate, if_neg hsame]
    constructor
    · rintro ⟨hwell, -⟩ -
      exact ⟨hwell.nonneg, hwell.le_hundred⟩
    · intro hallowed
      obtain ⟨hnonneg, hle⟩ := hallowed hsame
      exact ⟨⟨hnonneg, hle, nofun, fun heq => hsame (Option.some.inj heq)⟩, nofun⟩

/-- An increase that is refused changes nothing. -/
theorem stepWellFormed_refused (h : s.WellFormed) (newPercentage : Double)
    (hrefused : s.activeCanary.isNone ∨ (Double.finite 100).lt newPercentage = true) :
    s.StepWellFormed (.increaseCanaryPercentage newPercentage)
      (s.apply (.increaseCanaryPercentage newPercentage)) := by
  have hnumber := (Double.ne_nan_of_le h.le_hundred).1
  rw [apply, operate, if_pos hrefused]
  exact ⟨h, fun _ _ => (Double.lt_eq_false_iff hnumber hnumber).mpr (Double.le_refl hnumber)⟩

/-- An increase that is made is well-formed exactly if it does not lower the percentage. -/
theorem stepWellFormed_made_iff (h : s.WellFormed) (newPercentage : Double)
    (hactive : s.activeCanary.isSome = true) (hlow : (Double.finite 100).lt newPercentage = false) :
    s.StepWellFormed (.increaseCanaryPercentage newPercentage)
        (s.apply (.increaseCanaryPercentage newPercentage)) ↔
      s.canaryPercentage.le newPercentage = true := by
  have hrefused : ¬(s.activeCanary.isNone ∨ (Double.finite 100).lt newPercentage = true) := by
    rw [Option.isNone_eq_false_iff.mpr hactive, hlow]
    simp
  have hnumbers := Double.ne_nan_of_le h.le_hundred
  rw [apply, operate, if_neg hrefused]
  constructor
  · rintro ⟨hwell, hraises⟩
    have hnew := Double.ne_nan_of_le hwell.le_hundred
    exact (Double.lt_eq_false_iff hnew.1 hnumbers.1).mp (hraises newPercentage rfl)
  · intro hle
    have hnew := Double.ne_nan_of_le hle
    refine ⟨⟨Double.le_trans h.nonneg hle, ?_, fun heq => ?_, h.differs⟩, fun _ _ => ?_⟩
    · exact (Double.lt_eq_false_iff hnumbers.2 hnew.2).mp hlow
    · have hcanary : s.canaryVersion = none := heq
      rw [activeCanary, hcanary] at hactive
      cases hactive
    · exact (Double.lt_eq_false_iff hnew.2 hnew.1).mpr hle

/-- A step from a well-formed rollout is well-formed exactly with allowed arguments. -/
theorem stepWellFormed_iff (h : s.WellFormed) (op : CanaryOperation) :
    s.StepWellFormed op (s.apply op) ↔ s.Allowed op (s.apply op) := by
  cases op with
  | promoteCanaryToProduction =>
    refine iff_of_true ⟨?_, nofun⟩ trivial
    unfold apply operate
    rcases s.activeCanary with _ | canaryVersion
    · exact h
    · exact wellFormed_withdrawn _ _
  | rollbackProduction previousVersion =>
    exact iff_of_true ⟨wellFormed_withdrawn _ _, nofun⟩ trivial
  | startCanaryRollout canaryVersion startPercentage =>
    exact stepWellFormed_start_iff h canaryVersion startPercentage
  | increaseCanaryPercentage newPercentage =>
    by_cases hmade : s.activeCanary.isSome = true ∧ (Double.finite 100).lt newPercentage = false
    · refine (stepWellFormed_made_iff h newPercentage hmade.1 hmade.2).trans ?_
      exact ⟨fun hle _ _ => hle, fun hallowed => hallowed hmade.1 hmade.2⟩
    · refine iff_of_true (stepWellFormed_refused h newPercentage ?_) fun hactive hlow =>
        absurd ⟨hactive, hlow⟩ hmade
      rw [not_and_or, Bool.not_eq_false, Bool.not_eq_true, Option.isSome_eq_false_iff] at hmade
      exact hmade
  | registerBetaTenant tenantId =>
    exact iff_of_true ⟨⟨h.nonneg, h.le_hundred, h.zero, h.differs⟩, nofun⟩ trivial
  | unregisterBetaTenant tenantId =>
    exact iff_of_true ⟨⟨h.nonneg, h.le_hundred, h.zero, h.differs⟩, nofun⟩ trivial

/-- In a run from the state of a new service, every state is well-formed and no increase lowers the
percentage if and only if every operation has allowed arguments. -/
theorem wellFormed_iff (ops : List CanaryOperation) :
    Along StepWellFormed initial (exec apply initial ops) ↔
      Along Allowed initial (exec apply initial ops) := by
  refine along_iff (I := WellFormed) ?_ ?_ (along_exec apply initial ops) wellFormed_initial
  · rintro s op t hs rfl
    exact stepWellFormed_iff hs op
  · rintro s op t hs rfl hallowed
    exact ((stepWellFormed_iff hs op).mpr hallowed).wellFormed

/-- A rollout may start at 150 percent. -/
theorem not_wellFormed_150 : ¬Along StepWellFormed initial
    (exec apply initial [.startCanaryRollout "v2" (some (.finite 150))]) :=
  fun h => absurd h.1.wellFormed.le_hundred (by decide)

end CanaryRolloutService

end EmailTriage.Classification
