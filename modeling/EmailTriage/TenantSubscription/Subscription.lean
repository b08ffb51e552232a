import EmailTriage.Lib.Effect
import EmailTriage.Lib.Table

/-!
# Subscriptions and plans

`src/tenant-subscription/domain/aggregates/subscription.aggregate.ts`, the repository
`subscription.repository.ts` over the table `subscriptions`, which has one row for each tenant, and
`findById` of `plan-catalog.repository.ts`.

A `Subscription` is loaded from its row, changed in memory, and written back as a whole by `save`; what
it has to tell others waits in its uncommitted events.

Every save writes the plan, the version and the status that the copy holds, so what a save does to the
table is said once, in `find_save`, and the modules about overlapping requests start from there.
Neither the aggregate nor the repository compares versions.
-/

namespace EmailTriage.TenantSubscription

open Js Db

inductive SubscriptionStatus where
  | active
  | past_due
  | suspended
  | canceled
deriving DecidableEq

def SubscriptionStatus.text : SubscriptionStatus → String
  | .active => "active"
  | .past_due => "past_due"
  | .suspended => "suspended"
  | .canceled => "canceled"

/-- What a plan entitles a tenant to. -/
structure Entitlements where
  mailboxLimit : ℤ
  llmTierCeiling : String
  features : Value

structure PlanEntitlementsChanged where
  tenantId : String
  planId : String
  entitlements : Entitlements
  version : ℤ

structure TenantSuspended where
  tenantId : String
  reason : String
deriving DecidableEq

/-- The events a subscription raises. -/
inductive SubscriptionEvent where
  | planEntitlementsChanged (e : PlanEntitlementsChanged)
  | tenantSuspended (e : TenantSuspended)

structure Subscription where
  id : String
  tenantId : String
  currentPlanId : String
  status : SubscriptionStatus
  planVersion : ℤ
  planChangedAt : Option ℤ
  stripeCustomerId : Option String
  stripeSubscriptionId : Option String
  uncommittedEvents : List SubscriptionEvent

namespace Subscription

def changePlan (s : Subscription) (now : ℤ) (newPlanId : String) (entitlements : Entitlements) :
    Subscription :=
  if s.currentPlanId = newPlanId then s
  else
    { s with
      currentPlanId := newPlanId
      planVersion := s.planVersion + 1
      planChangedAt := some now
      uncommittedEvents := s.uncommittedEvents ++
        [.planEntitlementsChanged ⟨s.tenantId, newPlanId, entitlements, s.planVersion + 1⟩] }

def markPastDue (s : Subscription) : Subscription :=
  { s with
    status := .past_due
    uncommittedEvents := s.uncommittedEvents ++ [.tenantSuspended ⟨s.tenantId, "payment_failed"⟩] }

def suspend (s : Subscription) (reason : String) : Subscription :=
  { s with
    status := .suspended
    uncommittedEvents := s.uncommittedEvents ++ [.tenantSuspended ⟨s.tenantId, reason⟩] }

def unsuspend (s : Subscription) : Subscription :=
  if s.status = .suspended then { s with status := .active } else s

/-- The plan of a subscription and the version of that plan. -/
def plan (s : Subscription) : String × ℤ := (s.currentPlanId, s.planVersion)

@[simp] theorem tenantId_changePlan (s : Subscription) (now : ℤ) (newPlanId : String)
    (entitlements : Entitlements) :
    (s.changePlan now newPlanId entitlements).tenantId = s.tenantId := by
  unfold changePlan
  split
  · rfl
  · rfl

end Subscription

/-! ## The table

A subscription is stored under its tenant. A save writes all columns of its row.
-/

/-- A row of `subscriptions`. -/
structure SubscriptionRow where
  id : String
  tenantId : String
  currentPlanId : String
  status : SubscriptionStatus
  planVersion : ℤ
  planChangedAt : Option ℤ
  stripeCustomerId : Option String
  stripeSubscriptionId : Option String
  createdAt : ℤ
  updatedAt : ℤ
deriving DecidableEq

instance : Schema SubscriptionRow String String where
  id := SubscriptionRow.id
  key := SubscriptionRow.tenantId

/-- The table `subscriptions`. -/
abbrev SubscriptionTable := Table SubscriptionRow

/-- `text || undefined`. -/
def orUndefined (text : Option String) : Option String := text.filter fun s => s ≠ ""

/-- The subscription a row is loaded as. -/
def SubscriptionRow.load (r : SubscriptionRow) : Subscription where
  id := r.id
  tenantId := r.tenantId
  currentPlanId := r.currentPlanId
  status := r.status
  planVersion := r.planVersion
  planChangedAt := r.planChangedAt
  stripeCustomerId := orUndefined r.stripeCustomerId
  stripeSubscriptionId := orUndefined r.stripeSubscriptionId
  uncommittedEvents := []

namespace SubscriptionRepository

/-- `findByTenantId`. -/
def findByTenantId (t : SubscriptionTable) (tenantId : String) : Option Subscription :=
  (t.find tenantId).map SubscriptionRow.load

/-- The columns `save` updates; one that is `undefined` is left as it is stored. -/
def updateData (now : ℤ) (s : Subscription) : Patch SubscriptionRow where
  apply r := { r with
    currentPlanId := s.currentPlanId
    status := s.status
    planVersion := s.planVersion
    planChangedAt := s.planChangedAt.or r.planChangedAt
    stripeCustomerId := s.stripeCustomerId.or r.stripeCustomerId
    stripeSubscriptionId := s.stripeSubscriptionId.or r.stripeSubscriptionId
    updatedAt := now }
  id_apply _ := rfl
  key_apply _ := rfl

/-- The row `save` creates. -/
def createData (now : ℤ) (newId : String) (s : Subscription) : SubscriptionRow where
  id := newId
  tenantId := s.tenantId
  currentPlanId := s.currentPlanId
  status := s.status
  planVersion := s.planVersion
  planChangedAt := s.planChangedAt
  stripeCustomerId := s.stripeCustomerId
  stripeSubscriptionId := s.stripeSubscriptionId
  createdAt := now
  updatedAt := now

/-- `save`; `none` is a database error. -/
def save (t : SubscriptionTable) (now : ℤ) (newId : String) (s : Subscription) :
    Option SubscriptionTable :=
  t.upsert s.tenantId (updateData now s) (createData now newId s)

variable {t t' : SubscriptionTable} {tenantId newId : String} {now : ℤ} {s : Subscription}

/-- A loaded subscription is that of its tenant. -/
theorem tenantId_of_findByTenantId (h : findByTenantId t tenantId = some s) :
    s.tenantId = tenantId := by
  obtain ⟨r, hr, rfl⟩ := Option.map_eq_some_iff.mp h
  exact (Table.find_eq_some_iff.mp hr).2

/-- Saving a subscription that is there writes its columns over the stored ones, and touches no other
tenant's. -/
theorem find_save {r : SubscriptionRow} (hr : t.find s.tenantId = some r) (now : ℤ)
    (newId : String) :
    ∃ t', save t now newId s = some t' ∧
      ∀ k, t'.find k = if k = s.tenantId then some ((updateData now s).apply r) else t.find k := by
  obtain ⟨t', ht', hrow⟩ := Table.upsert_of_find hr (updateData now s) (createData now newId s)
  refine ⟨t', ht', fun k => ?_⟩
  by_cases hk : k = s.tenantId
  · rw [if_pos hk, hk, hrow]
  · have hkey : Schema.key (createData now newId s) = s.tenantId := rfl
    rw [if_neg hk]
    exact Table.find_upsert_of_ne hkey ht' hk

end SubscriptionRepository

/-! ## The plan catalog

The plans are read only.
-/

/-- A row of `plans`. -/
structure PlanRow where
  id : String
  name : String
  stripePriceId : String
  mailboxLimit : ℤ
  llmTierCeiling : String
  features : Value
  active : Bool
  createdAt : ℤ
  updatedAt : ℤ

/-- `findById` of the plan catalog. -/
def findPlan (plans : List PlanRow) (planId : String) : Option PlanRow :=
  plans.find? fun p => p.id = planId

/-- The entitlements the controller takes from a plan. -/
def PlanRow.entitlements (p : PlanRow) : Entitlements :=
  ⟨p.mailboxLimit, p.llmTierCeiling, p.features⟩

end EmailTriage.TenantSubscription
