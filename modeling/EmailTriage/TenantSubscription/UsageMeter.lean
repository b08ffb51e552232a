import EmailTriage.Lib.JsNumber

/-!
# Usage meters

`src/tenant-subscription/domain/aggregates/usage-meter.aggregate.ts`: a count of billable actions in one
billing period. Counts are `bigint`s; the event that reports an overage carries them as numbers, which
are exact up to 2 ^ 53.
-/

namespace EmailTriage.TenantSubscription

open Js

structure UsageOverageDetected where
  tenantId : String
  meterType : String
  billingPeriodStart : ℤ
  billingPeriodEnd : ℤ
  usage : Number
  threshold : Number
deriving DecidableEq

structure UsageMeter where
  id : String
  tenantId : String
  meterType : String
  billingPeriodStart : ℤ
  billingPeriodEnd : ℤ
  usageCount : ℤ
  overageThreshold : ℤ
  overageDetected : Bool
  lastIncrementedAt : Option ℤ
  uncommittedEvents : List UsageOverageDetected
deriving DecidableEq

namespace UsageMeter

/-- Whether adding an amount crosses the threshold for the first time. -/
def crosses (m : UsageMeter) (amount : ℕ) : Bool :=
  !m.overageDetected && decide (m.overageThreshold ≤ m.usageCount + amount)

/-- `Number(n)` for a `bigint`. -/
def numberOf (n : ℤ) : Number := toNumber (n < 0) n.natAbs

/-- The event of a crossing. -/
def overage (m : UsageMeter) (newCount : ℤ) : UsageOverageDetected :=
  ⟨m.tenantId, m.meterType, m.billingPeriodStart, m.billingPeriodEnd, numberOf newCount,
    numberOf m.overageThreshold⟩

/-- `atomicIncrement`. -/
def atomicIncrement (m : UsageMeter) (now : ℤ) (amount : ℕ) : UsageMeter :=
  let newCount := m.usageCount + amount
  -- Only raise event once per threshold crossing
  let m := if m.crosses amount then
      { m with
        overageDetected := true
        uncommittedEvents := m.uncommittedEvents ++ [m.overage newCount] }
    else m
  { m with usageCount := newCount, lastIncrementedAt := some now }

variable (m : UsageMeter) (now : ℤ) (amount : ℕ)

@[simp] theorem usageCount_atomicIncrement :
    (m.atomicIncrement now amount).usageCount = m.usageCount + amount := rfl

@[simp] theorem overageDetected_atomicIncrement :
    (m.atomicIncrement now amount).overageDetected = (m.overageDetected || m.crosses amount) := by
  unfold atomicIncrement
  rcases h : m.crosses amount with _ | _ <;> simp

@[simp] theorem lastIncrementedAt_atomicIncrement :
    (m.atomicIncrement now amount).lastIncrementedAt = some now := rfl

/-- An increment raises the event of its crossing and no other. -/
theorem uncommittedEvents_atomicIncrement :
    (m.atomicIncrement now amount).uncommittedEvents =
      m.uncommittedEvents ++ if m.crosses amount then [m.overage (m.usageCount + amount)] else [] := by
  unfold atomicIncrement
  rcases h : m.crosses amount with _ | _ <;> simp

end UsageMeter

end EmailTriage.TenantSubscription
