import Mathlib.Data.Finset.Basic
import EmailTriage.Lib.JsString
import EmailTriage.Lib.Table

/-!
# The rollout of a new pipeline version

`src/classification/services/canary-rollout.service.ts`: which version of the pipeline is in production,
which one is tried on some of the tenants, and what the administrative operations make of it. The state
is kept in the table `canary_rollout_state`, which is read and written as a whole.
-/

namespace EmailTriage.Classification

open Js Db

/-- The fields of the service. -/
@[ext] structure RolloutState where
  productionVersion : String
  canaryVersion : Option String
  canaryPercentage : ℤ
  betaTenantIds : Finset String
deriving DecidableEq

/-- The fields of a new service, and the state of a fresh row. -/
def RolloutState.initial : RolloutState := ⟨"v1.0.0", none, 0, ∅⟩

/-- The administrative operations. -/
inductive RolloutOperation where
  | promoteCanaryToProduction
  | rollbackProduction (previousVersion : String)
  | startCanaryRollout (canaryVersion : String) (startPercentage : Option ℤ)
  | increaseCanaryPercentage (newPercentage : ℤ)
  | registerBetaTenant (tenantId : String)
  | unregisterBetaTenant (tenantId : String)

namespace RolloutState

/-- The canary version, unless a condition takes it for false. -/
def activeCanary (s : RolloutState) : Option String := s.canaryVersion.filter fun v => v ≠ ""

/-- What an operation makes of the fields, `none` where it returns without saving. -/
def operate (s : RolloutState) : RolloutOperation → Option RolloutState
  | .promoteCanaryToProduction =>
    s.activeCanary.map fun canaryVersion =>
      { s with productionVersion := canaryVersion, canaryVersion := none, canaryPercentage := 0 }
  | .rollbackProduction previousVersion =>
    some { s with productionVersion := previousVersion, canaryVersion := none, canaryPercentage := 0 }
  | .startCanaryRollout canaryVersion startPercentage =>
    if canaryVersion = s.productionVersion then none
    else some { s with
      canaryVersion := some canaryVersion, canaryPercentage := startPercentage.getD 5 }
  | .increaseCanaryPercentage newPercentage =>
    if s.activeCanary.isNone ∨ newPercentage > 100 then none
    else some { s with canaryPercentage := newPercentage }
  | .registerBetaTenant tenantId => some { s with betaTenantIds := insert tenantId s.betaTenantIds }
  | .unregisterBetaTenant tenantId => some { s with betaTenantIds := s.betaTenantIds.erase tenantId }

/-- What an operation makes of the state. -/
def apply (s : RolloutState) (operation : RolloutOperation) : RolloutState :=
  (s.operate operation).getD s

/-! ## Which version a tenant gets

The hash of the source, word by word, and the comparison of the bucket with the percentage.
-/

/-- `x | 0`, the 32-bit integer of an integer. -/
def toInt32 (x : ℤ) : ℤ := x.bmod (2 ^ 32)

/-- `hashTenantId`. -/
def hashTenantId (tenantId : String) : ℕ :=
  let hash := (codeUnits tenantId.toList).foldl
    (fun hash char => toInt32 (toInt32 (hash * 32) - hash + char)) 0
  hash.natAbs

/-- `getTenantPipelineVersion`. -/
def getTenantPipelineVersion (s : RolloutState) (tenantId : String) : String :=
  match s.activeCanary with
  | none => s.productionVersion
  | some canaryVersion =>
    -- Beta tenants always get canary first
    if tenantId ∈ s.betaTenantIds then canaryVersion
    -- Random percentage slice for canary rollout
    else if s.canaryPercentage > 0 ∧ (hashTenantId tenantId : ℤ) % 100 < s.canaryPercentage then
      canaryVersion
    else s.productionVersion

end RolloutState

/-! ## The table

The state is stored in one row, which a service restores when it starts and writes after each operation.
-/

/-- A row of `canary_rollout_state`. -/
structure CanaryRolloutStateRow where
  id : String
  state : RolloutState
  createdAt : ℤ
  updatedAt : ℤ
deriving DecidableEq

instance : Schema CanaryRolloutStateRow String String where
  id := CanaryRolloutStateRow.id
  key := CanaryRolloutStateRow.id

/-- The table `canary_rollout_state`. -/
abbrev CanaryRolloutTable := Table CanaryRolloutStateRow

namespace CanaryRolloutTable

/-- `findFirst()`. -/
def findFirst (t : CanaryRolloutTable) (pick : ℕ) : Option CanaryRolloutStateRow :=
  Table.findFirst t pick fun _ => true

/-- The state a service starts with: that of the row it finds, or that of a new service. -/
def restored (t : CanaryRolloutTable) (pick : ℕ) : RolloutState :=
  ((t.findFirst pick).map (·.state)).getD .initial

/-- The columns `saveState` writes. -/
def saveData (now : ℤ) (s : RolloutState) : Patch CanaryRolloutStateRow where
  apply r := { r with state := s, updatedAt := now }
  id_apply _ := rfl
  key_apply _ := rfl

/-- `saveState`, which writes every row. -/
def saveState (t : CanaryRolloutTable) (now : ℤ) (s : RolloutState) : CanaryRolloutTable :=
  t.updateMany (fun _ => true) (saveData now s)

/-- The creation of a fresh row; `none` is a database error. -/
def createInitial (t : CanaryRolloutTable) (now : ℤ) (newId : String) : Option CanaryRolloutTable :=
  t.create ⟨newId, .initial, now, now⟩

end CanaryRolloutTable

end EmailTriage.Classification
