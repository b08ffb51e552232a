import Mathlib.Logic.Function.Basic
import EmailTriage.Lib.Runs
import EmailTriage.TenantSubscription.PaymentWebhook

/-!
# Plan changes and failed payments of all tenants

The requests to `src/tenant-subscription/presentation/subscription.controller.ts` that write:
`changePlan`, and `handleStripeWebhook`, which calls `handlePaymentWebhook` of the Stripe adapter. Any
number of clients make them, for any tenants, their calls interleaved in any order; any request may
fail before any of its calls.

Each request loads a subscription, changes its copy, and saves the whole copy. `billing_run` says what
holds of the subscriptions and the events in every run. Beside the table runs what the standing of
every tenant would be if each change were made to what is stored.

## The shape of the argument

The world has the phase of each client beside the table, and `SubscriptionInv` says what a client may
hold: a copy whose fixed columns are those of the row, with a plan and a status that some request of
this run or the table has had, and with the events of its own change. Each call of a client is one
step, whether it succeeds or fails, and `SubscriptionInv.step` is put together from one lemma for each
kind of step. Clients that are not interrupted do what the controller does (`billing_changePlan`,
`billing_stripeWebhook`), which connects the steps with the source.
-/

namespace EmailTriage.TenantSubscription

open Js Db Runs SubscriptionRepository

/-! ## Standings

What of a subscription may change: the plan, its version and the status.
-/

/-- The plan of a tenant with its version, and whether the tenant pays. -/
structure Standing where
  planId : String
  planVersion : ℤ
  status : SubscriptionStatus
deriving DecidableEq

def Subscription.standing (s : Subscription) : Standing := ⟨s.currentPlanId, s.planVersion, s.status⟩

/-- What a request does to a standing. -/
inductive StandingChange where
  | plan (planId : String)
  | paymentFailed

def StandingChange.apply : StandingChange → Standing → Standing
  | .plan planId, s =>
    if s.planId = planId then s else { s with planId := planId, planVersion := s.planVersion + 1 }
  | .paymentFailed, s => { s with status := .past_due }

namespace StandingChange

/-- A change to the plan that the tenant has changes nothing. -/
theorem apply_plan_of_eq {s : Standing} {planId : String} (h : s.planId = planId) :
    apply (.plan planId) s = s := if_pos h

/-- A change to another plan makes a new version. -/
theorem apply_plan_of_ne {s : Standing} {planId : String} (h : s.planId ≠ planId) :
    apply (.plan planId) s = { s with planId := planId, planVersion := s.planVersion + 1 } := if_neg h

end StandingChange

/-! ## The controller

The two routes that change a subscription, as the code has them.
-/

/-- The customer whose failed payment `handlePaymentWebhook` learns of, if it gets that far. -/
def StripeAdapter.failedCustomer (event : Value) : Option Value :=
  if event.truthy && (event.get "data").truthy && (event.get "type").isStr "invoice.payment_failed" then
    let invoice := (event.get "data").get "object"
    if invoice.isNullish then none else some (invoice.get "customer")
  else none

namespace SubscriptionController

def changePlan (plans : List PlanRow) (now : ℤ) (newId tenantId requestTenantId planId : String) :
    Effect Billing Unit := do
  if tenantId ≠ requestTenantId then
    throw (.error "Tenant mismatch")
  let b ← get
  let subscription ← orThrow (.error "Subscription not found") (findByTenantId b.subscriptions tenantId)
  let newPlan ← orThrow (.error "Plan not found") (findPlan plans planId)
  let subscription := subscription.changePlan now planId newPlan.entitlements
  StripeAdapter.saveSubscription now newId subscription
  modify fun b => { b with published := b.published ++ subscription.uncommittedEvents }

def handleStripeWebhook (now : ℤ) (newId : String) (event : Value) : Effect Billing Unit :=
  StripeAdapter.handlePaymentWebhook now newId event

/-- What `changePlan` does to the subscriptions and the events. -/
theorem after_changePlan_eq (plans : List PlanRow) (now : ℤ) (newId tenantId requestTenantId planId : String)
    (b : Billing) :
    after (changePlan plans now newId tenantId requestTenantId planId) b =
      if tenantId = requestTenantId then
        match findByTenantId b.subscriptions tenantId, findPlan plans planId with
        | some s, some p =>
          match save b.subscriptions now newId (s.changePlan now planId p.entitlements) with
          | some t => ⟨t, b.published ++ (s.changePlan now planId p.entitlements).uncommittedEvents⟩
          | none => b
        | _, _ => b
      else b := by
  have hget : (get : Effect Billing Billing) b = .ok b b := rfl
  unfold changePlan
  by_cases htenant : tenantId = requestTenantId
  · rw [if_neg (not_not_intro htenant), if_pos htenant]
    dsimp only
    rw [after_bind_of_ok hget]
    rcases findByTenantId b.subscriptions tenantId with _ | s
    · rfl
    rcases findPlan plans planId with _ | p
    · rfl
    have hload : (orThrow (.error "Subscription not found") (some s) : Effect Billing Subscription) b
        = .ok s b := rfl
    have hplan : (orThrow (.error "Plan not found") (some p) : Effect Billing PlanRow) b = .ok p b := rfl
    rw [after_bind_of_ok hload, after_bind_of_ok hplan]
    dsimp only
    rcases hsave : save b.subscriptions now newId (s.changePlan now planId p.entitlements) with _ | t
    · -- a save that is refused throws, and no event is published
      have hthrows : ∃ e, StripeAdapter.saveSubscription now newId
          (s.changePlan now planId p.entitlements) b = .error e b := by
        unfold StripeAdapter.saveSubscription
        rw [bind_of_ok hget, hsave]
        exact ⟨_, rfl⟩
      obtain ⟨e, he⟩ := hthrows
      rw [after_bind_of_error he]
    · have hsaves : StripeAdapter.saveSubscription now newId
          (s.changePlan now planId p.entitlements) b = .ok () { b with subscriptions := t } := by
        unfold StripeAdapter.saveSubscription
        rw [bind_of_ok hget, hsave]
        rfl
      rw [after_bind_of_ok hsaves]
      rfl
  · rw [if_pos htenant, if_neg htenant]
    rfl

end SubscriptionController

namespace StripeAdapter

/-- The database is asked for a text only. -/
theorem after_findByCustomer (customerId : Value) (b : Billing)
    (f : Option Subscription → Effect Billing Unit) :
    after (findByCustomer customerId >>= f) b =
      match customerId with
      | .str id => after (f (findByTenantId b.subscriptions id)) b
      | _ => b := by
  cases customerId with
  | str id =>
    have hfind : findByCustomer (.str id) b = .ok (findByTenantId b.subscriptions id) b := rfl
    exact after_bind_of_ok hfind f
  | _ => rfl

/-- What the webhook does to the subscriptions and the events. -/
theorem after_handlePaymentWebhook_eq (now : ℤ) (newId : String) (event : Value) (b : Billing) :
    after (handlePaymentWebhook now newId event) b =
      match failedCustomer event with
      | some (.str id) =>
        match findByTenantId b.subscriptions id with
        | some s => after (saveSubscription now newId s.markPastDue) b
        | none => b
      | _ => b := by
  unfold handlePaymentWebhook failedCustomer
  by_cases htruthy : (event.truthy && (event.get "data").truthy) = true
  · by_cases htype : (event.get "type").isStr "invoice.payment_failed" = true
    · rw [if_pos htruthy, if_pos htype, htruthy, htype, Bool.and_true, if_pos rfl]
      dsimp only
      by_cases hinvoice : ((event.get "data").get "object").isNullish = true
      · rw [if_pos hinvoice, if_pos hinvoice]
        rfl
      · rw [if_neg hinvoice, if_neg hinvoice]
        refine (after_findByCustomer _ b _).trans ?_
        -- a customer that is no text finds no subscription
        rcases ((event.get "data").get "object").get "customer" with _ | _ | _ | _ | id | _ | _ | _
        case str =>
          dsimp only
          rcases findByTenantId b.subscriptions id with _ | s
          · rfl
          · rfl
        all_goals rfl
    · rw [if_pos htruthy, if_neg htype, if_neg fun h => htype (Bool.and_eq_true_iff.mp h).2]
      rfl
  · rw [if_neg htruthy, if_neg fun h => htruthy (Bool.and_eq_true_iff.mp h).1]
    rfl

/-- A save that fails leaves everything as it is. -/
theorem after_saveSubscription_eq (now : ℤ) (newId : String) (s : Subscription) (b : Billing) :
    after (saveSubscription now newId s) b =
      { b with subscriptions := (save b.subscriptions now newId s).getD b.subscriptions } := by
  have hget : (get : Effect Billing Billing) b = .ok b b := rfl
  unfold saveSubscription
  rw [after_bind_of_ok hget]
  rcases save b.subscriptions now newId s with _ | t
  · rfl
  · rfl

end StripeAdapter

/-! ## Clients

Requests that take turns, call by call.
-/

inductive SubscriptionRequest where
  | changePlan (tenantId requestTenantId planId : String)
  | stripeWebhook (event : Value)

/-- How far a client has come with a request, with what it holds in memory. -/
inductive SubscriptionPhase where
  | idle
  | asked (request : SubscriptionRequest)
  | loaded (subscription : Subscription) (planId : String)
  | changed (before : Subscription) (change : StandingChange) (subscription : Subscription)
  | saved (events : List SubscriptionEvent)

/-- The copy of a subscription that a client has loaded and not saved yet. -/
def SubscriptionPhase.copy : SubscriptionPhase → Option Subscription
  | .loaded subscription _ => some subscription
  | .changed before _ _ => some before
  | _ => none

inductive SubscriptionTurn where
  | request (request : SubscriptionRequest)
  | call (now : ℤ) (newId : String)
  | fail

/-- The table and the events, the clients, and what the standings would be if nothing was ever lost. -/
structure SubscriptionWorld (ι : Type) where
  billing : Billing
  phases : ι → SubscriptionPhase
  exact : String → Option Standing

/-- The standing of a tenant in a table. -/
def standingIn (t : SubscriptionTable) (tenantId : String) : Option Standing :=
  (findByTenantId t tenantId).map Subscription.standing

section

variable {ι : Type} [DecidableEq ι] (plans : List PlanRow)

namespace SubscriptionWorld

def start (t : SubscriptionTable) : SubscriptionWorld ι := ⟨⟨t, []⟩, fun _ => .idle, standingIn t⟩

def standing (w : SubscriptionWorld ι) : String → Option Standing := standingIn w.billing.subscriptions

/-- The world after a client has moved on. -/
def move (w : SubscriptionWorld ι) (i : ι) (p : SubscriptionPhase) : SubscriptionWorld ι :=
  { w with phases := Function.update w.phases i p }

/-- The world after a client has saved its copy. -/
def commit (w : SubscriptionWorld ι) (i : ι) (p : SubscriptionPhase) (t : SubscriptionTable)
    (tenantId : String) (change : StandingChange) : SubscriptionWorld ι :=
  { w.move i p with
    billing := { w.billing with subscriptions := t }
    exact := Function.update w.exact tenantId ((w.exact tenantId).map change.apply) }

/-- Where a request goes on when its copy is saved; the adapter publishes nothing. -/
def afterSave (subscription : Subscription) : StandingChange → SubscriptionPhase
  | .plan _ => .saved subscription.uncommittedEvents
  | .paymentFailed => .idle

/-- The next call of a client. -/
def call (w : SubscriptionWorld ι) (i : ι) (now : ℤ) (newId : String) : SubscriptionWorld ι :=
  match w.phases i with
  | .idle => w
  | .asked (.changePlan tenantId requestTenantId planId) =>
    if tenantId = requestTenantId then
      match findByTenantId w.billing.subscriptions tenantId with
      | some subscription => w.move i (.loaded subscription planId)
      | none => w.move i .idle -- Subscription not found
    else w.move i .idle -- Tenant mismatch
  | .asked (.stripeWebhook event) =>
    match StripeAdapter.failedCustomer event with
    | some (.str id) =>
      match findByTenantId w.billing.subscriptions id with
      | some subscription =>
        w.move i (.changed subscription .paymentFailed subscription.markPastDue)
      | none => w.move i .idle
    | _ => w.move i .idle
  | .loaded subscription planId =>
    match findPlan plans planId with
    | some newPlan => w.move i
        (.changed subscription (.plan planId) (subscription.changePlan now planId newPlan.entitlements))
    | none => w.move i .idle -- Plan not found
  | .changed before change subscription =>
    match save w.billing.subscriptions now newId subscription with
    | some t => w.commit i (afterSave subscription change) t before.tenantId change
    | none => w.move i .idle
  | .saved events =>
    { w.move i .idle with billing := { w.billing with published := w.billing.published ++ events } }

def step (w : SubscriptionWorld ι) (turn : ι × SubscriptionTurn) : SubscriptionWorld ι :=
  match turn with
  | (i, .request request) =>
    match w.phases i with
    | .idle => w.move i (.asked request)
    | _ => w
  | (i, .call now newId) => w.call plans i now newId
  | (i, .fail) => w.move i .idle

/-! ## Clients that are not interrupted

The calls of one request, taken together, are the function of the controller.
-/

variable {w : SubscriptionWorld ι} {i : ι}

/-- A client is in the phase it has moved to. -/
theorem phases_move (w : SubscriptionWorld ι) (i : ι) (p : SubscriptionPhase) :
    (w.move i p).phases i = p := Function.update_self ..

/-- A client without a request does nothing. -/
theorem call_idle (hi : w.phases i = .idle) (now : ℤ) (newId : String) :
    w.call plans i now newId = w := by
  unfold call
  rw [hi]

/-- The save of a client that has changed its copy. -/
theorem billing_call_changed {before subscription : Subscription} {change : StandingChange}
    (hi : w.phases i = .changed before change subscription) (now : ℤ) (newId : String) :
    (w.call plans i now newId).billing =
      after (StripeAdapter.saveSubscription now newId subscription) w.billing := by
  rw [StripeAdapter.after_saveSubscription_eq]
  unfold call
  rw [hi]
  dsimp only
  rcases save w.billing.subscriptions now newId subscription with _ | t
  · rfl
  · rfl

/-- Nor does one that is done with its request. -/
theorem billing_call_idle (w : SubscriptionWorld ι) (i : ι) (now : ℤ) (newId : String) :
    ((w.move i .idle).call plans i now newId).billing = w.billing := by
  rw [call_idle plans (w.phases_move i .idle)]
  rfl

/-- A webhook that is not interrupted does what `handleStripeWebhook` does. -/
theorem billing_stripeWebhook {event : Value} (hi : w.phases i = .asked (.stripeWebhook event)) (now : ℤ)
    (newId : String) :
    ((w.call plans i now newId).call plans i now newId).billing =
      after (SubscriptionController.handleStripeWebhook now newId event) w.billing := by
  unfold SubscriptionController.handleStripeWebhook
  rw [StripeAdapter.after_handlePaymentWebhook_eq]
  have hcall : w.call plans i now newId =
      match StripeAdapter.failedCustomer event with
      | some (.str id) =>
        match findByTenantId w.billing.subscriptions id with
        | some s => w.move i (.changed s .paymentFailed s.markPastDue)
        | none => w.move i .idle
      | _ => w.move i .idle := by
    unfold call
    rw [hi]
  rw [hcall]
  rcases StripeAdapter.failedCustomer event with _ | customer
  · exact billing_call_idle plans w i now newId
  · cases customer with
    | str id =>
      dsimp only
      rcases findByTenantId w.billing.subscriptions id with _ | s
      · exact billing_call_idle plans w i now newId
      · exact billing_call_changed plans (w.phases_move i _) now newId
    | _ => exact billing_call_idle plans w i now newId

/-- A change of the plan that is not interrupted does what `changePlan` does. -/
theorem billing_changePlan {tenantId requestTenantId planId : String}
    (hi : w.phases i = .asked (.changePlan tenantId requestTenantId planId)) (now : ℤ) (newId : String) :
    ((fun w => w.call plans i now newId)^[4] w).billing =
      after (SubscriptionController.changePlan plans now newId tenantId requestTenantId planId)
          w.billing := by
  simp only [Function.iterate_succ, Function.iterate_zero, Function.comp_apply, id_eq]
  by_cases htenant : tenantId = requestTenantId
  · rcases hload : findByTenantId w.billing.subscriptions tenantId with _ | s
    · rw [SubscriptionController.after_changePlan_eq, if_pos htenant, hload]
      simp [call, hi, hload, htenant.symm, move]
    · rcases hplan : findPlan plans planId with _ | p
      · rw [SubscriptionController.after_changePlan_eq, if_pos htenant, hload, hplan]
        simp [call, hi, hload, hplan, htenant.symm, move]
      · rw [SubscriptionController.after_changePlan_eq, if_pos htenant, hload, hplan]
        rcases hsave : save w.billing.subscriptions now newId
            (s.changePlan now planId p.entitlements) with _ | t
        · simp [call, hi, hload, hplan, hsave, htenant.symm, move]
        · simp [call, hi, hload, hplan, hsave, htenant.symm, move, commit, afterSave]
  · rw [SubscriptionController.after_changePlan_eq, if_neg htenant]
    simp [call, hi, htenant, move]

end SubscriptionWorld

end

/-! ## What clients hold

Every copy is of a standing that was reached by changes that were asked for, and so is every event.
-/

/-- The columns that no request changes. -/
def fixedColumns (r : SubscriptionRow) : String × Option String × Option String × ℤ :=
  (r.id, r.stripeCustomerId, r.stripeSubscriptionId, r.createdAt)

section

variable (plans : List PlanRow) (t₀ : SubscriptionTable) (asked : SubscriptionRequest → Prop)

/-- Somebody has asked for a change, and it was possible. -/
def ChangeOk (tenantId : String) : StandingChange → Prop
  | .plan planId =>
    asked (.changePlan tenantId tenantId planId) ∧ ∃ p, findPlan plans planId = some p
  | .paymentFailed => ∃ event, asked (.stripeWebhook event) ∧
      StripeAdapter.failedCustomer event = some (.str tenantId)

/-- A tenant has the status and the plan it started with, or others it got by a change. -/
def StandingOk (tenantId : String) (s : Standing) : Prop :=
  ∃ s₀, standingIn t₀ tenantId = some s₀ ∧ s₀.planVersion ≤ s.planVersion ∧
    (s.status = s₀.status ∨ s.status = .past_due ∧ ChangeOk plans asked tenantId .paymentFailed) ∧
    (s.planId = s₀.planId ∨ ChangeOk plans asked tenantId (.plan s.planId))

/-- An event tells of a plan that its tenant has asked for, with what the catalog says of it. -/
def EventOk (e : SubscriptionEvent) : Prop :=
  ∃ c p, e = .planEntitlementsChanged c ∧ asked (.changePlan c.tenantId c.tenantId c.planId) ∧
    findPlan plans c.planId = some p ∧ c.entitlements = p.entitlements

/-- A subscription as it is loaded. -/
structure CopyOk (s : Subscription) : Prop where
  events : s.uncommittedEvents = []
  standing : StandingOk plans t₀ asked s.tenantId s.standing
  row : ∃ r₀, t₀.find s.tenantId = some r₀ ∧ s.stripeCustomerId = orUndefined r₀.stripeCustomerId ∧
    s.stripeSubscriptionId = orUndefined r₀.stripeSubscriptionId

/-- A copy that was changed. -/
structure ChangedBy (before : Subscription) (change : StandingChange) (s : Subscription) : Prop where
  possible : ChangeOk plans asked before.tenantId change
  tenantId : s.tenantId = before.tenantId
  standing : s.standing = change.apply before.standing
  stripeCustomerId : s.stripeCustomerId = before.stripeCustomerId
  stripeSubscriptionId : s.stripeSubscriptionId = before.stripeSubscriptionId
  events : change ≠ .paymentFailed → ∀ e ∈ s.uncommittedEvents, EventOk plans asked e

/-- What is known of a client. -/
def PhaseOk : SubscriptionPhase → Prop
  | .idle => True
  | .asked request => asked request
  | .loaded s planId => CopyOk plans t₀ asked s ∧ asked (.changePlan s.tenantId s.tenantId planId)
  | .changed before change s => CopyOk plans t₀ asked before ∧ ChangedBy plans asked before change s
  | .saved events => ∀ e ∈ events, EventOk plans asked e

/-- No row comes or goes, every tenant's standing and every published event is what somebody has asked
for, and the clients know it. -/
structure SubscriptionInv {ι : Type} (w : SubscriptionWorld ι) : Prop where
  fixed : ∀ k, (w.billing.subscriptions.find k).map fixedColumns = (t₀.find k).map fixedColumns
  standings : ∀ k s, w.standing k = some s → StandingOk plans t₀ asked k s
  phases : ∀ i, PhaseOk plans t₀ asked (w.phases i)
  published : ∀ e ∈ w.billing.published, EventOk plans asked e

variable {plans t₀ asked}

/-- A change that was asked for leads from a standing that is accounted for to another one. -/
theorem StandingOk.apply {tenantId : String} {s : Standing} (h : StandingOk plans t₀ asked tenantId s)
    {change : StandingChange} (hchange : ChangeOk plans asked tenantId change) :
    StandingOk plans t₀ asked tenantId (change.apply s) := by
  obtain ⟨s₀, hs₀, hversion, hstatus, hplan⟩ := h
  cases change with
  | paymentFailed => exact ⟨s₀, hs₀, hversion, .inr ⟨rfl, hchange⟩, hplan⟩
  | plan planId =>
    by_cases heq : s.planId = planId
    · rw [StandingChange.apply_plan_of_eq heq]
      exact ⟨s₀, hs₀, hversion, hstatus, hplan⟩
    · rw [StandingChange.apply_plan_of_ne heq]
      refine ⟨s₀, hs₀, ?_, hstatus, .inr hchange⟩
      show s₀.planVersion ≤ s.planVersion + 1
      omega

/-- A change of the plan, as the aggregate makes it. -/
theorem changedBy_changePlan {s : Subscription} (hs : s.uncommittedEvents = []) {planId : String}
    {p : PlanRow} (hp : findPlan plans planId = some p)
    (hasked : asked (.changePlan s.tenantId s.tenantId planId)) (now : ℤ) :
    ChangedBy plans asked s (.plan planId) (s.changePlan now planId p.entitlements) := by
  unfold Subscription.changePlan
  by_cases heq : s.currentPlanId = planId
  · have hsame : StandingChange.apply (.plan planId) s.standing = s.standing :=
      StandingChange.apply_plan_of_eq heq
    rw [if_pos heq]
    refine ⟨⟨hasked, p, hp⟩, rfl, hsame.symm, rfl, rfl, fun _ e he => ?_⟩
    rw [hs] at he
    cases he
  · have hnew : StandingChange.apply (.plan planId) s.standing =
        ⟨planId, s.planVersion + 1, s.status⟩ := StandingChange.apply_plan_of_ne heq
    rw [if_neg heq]
    refine ⟨⟨hasked, p, hp⟩, rfl, hnew.symm, rfl, rfl, fun _ e he => ?_⟩
    rw [hs, List.nil_append, List.mem_singleton] at he
    exact ⟨_, p, he, hasked, hp, rfl⟩

/-- A failed payment marks the subscription whose tenant the event has for a customer. -/
theorem changedBy_markPastDue {s : Subscription} {event : Value} (hasked : asked (.stripeWebhook event))
    (hcustomer : StripeAdapter.failedCustomer event = some (.str s.tenantId)) :
    ChangedBy plans asked s .paymentFailed s.markPastDue :=
  ⟨⟨event, hasked, hcustomer⟩, rfl, rfl, rfl, rfl, fun h => absurd rfl h⟩

variable {ι : Type} {w : SubscriptionWorld ι}

/-- What is loaded is in order. -/
theorem SubscriptionInv.copyOk (hw : SubscriptionInv plans t₀ asked w) {tenantId : String} {s : Subscription}
    (h : findByTenantId w.billing.subscriptions tenantId = some s) :
    s.tenantId = tenantId ∧ CopyOk plans t₀ asked s := by
  have htenant := tenantId_of_findByTenantId h
  obtain ⟨r, hr, rfl⟩ := Option.map_eq_some_iff.mp h
  refine ⟨htenant, rfl, ?_, ?_⟩
  · rw [htenant]
    refine hw.standings tenantId _ ?_
    unfold SubscriptionWorld.standing standingIn
    rw [h]
    rfl
  · have hfixed := hw.fixed tenantId
    rw [hr, Option.map_some, eq_comm, Option.map_eq_some_iff] at hfixed
    obtain ⟨r₀, hr₀, hsame⟩ := hfixed
    simp only [fixedColumns, Prod.mk.injEq] at hsame
    refine ⟨r₀, by rw [htenant, hr₀], ?_, ?_⟩
    · show orUndefined r.stripeCustomerId = _
      rw [hsame.2.1]
    · show orUndefined r.stripeSubscriptionId = _
      rw [hsame.2.2.1]

/-- A changed copy is saved over the row of its tenant, and nothing else. -/
theorem SubscriptionInv.save (hw : SubscriptionInv plans t₀ asked w) {before s : Subscription}
    {change : StandingChange} (hbefore : CopyOk plans t₀ asked before)
    (hs : ChangedBy plans asked before change s) (now : ℤ) (newId : String) :
    ∃ t, SubscriptionRepository.save w.billing.subscriptions now newId s = some t ∧
      (∀ k, (t.find k).map fixedColumns = (t₀.find k).map fixedColumns) ∧
      ∀ k, standingIn t k =
        if k = before.tenantId then some (change.apply before.standing) else w.standing k := by
  -- the row has the columns it had at the start, apart from those that are the standing
  obtain ⟨r₀, hr₀, hcustomer, hsubscription⟩ := hbefore.row
  have hfixed := hw.fixed before.tenantId
  rw [hr₀, Option.map_some, Option.map_eq_some_iff] at hfixed
  obtain ⟨r, hr, hsame⟩ := hfixed
  simp only [fixedColumns, Prod.mk.injEq] at hsame
  have hrow : w.billing.subscriptions.find s.tenantId = some r := by rw [hs.tenantId, hr]
  obtain ⟨t, ht, hfind⟩ := find_save hrow now newId
  rw [hs.tenantId] at hfind
  refine ⟨t, ht, fun k => ?_, fun k => ?_⟩
  · rw [hfind]
    by_cases hk : k = before.tenantId
    · rw [if_pos hk, hk, hr₀, Option.map_some, Option.map_some, Option.some.injEq]
      simp only [fixedColumns, updateData, Prod.mk.injEq]
      refine ⟨hsame.1, ?_, ?_, hsame.2.2.2⟩
      · rw [hs.stripeCustomerId, hcustomer, hsame.2.1, StripeAdapter.or_orUndefined]
      · rw [hs.stripeSubscriptionId, hsubscription, hsame.2.2.1, StripeAdapter.or_orUndefined]
    · rw [if_neg hk]
      exact hw.fixed k
  · unfold SubscriptionWorld.standing standingIn findByTenantId
    rw [hfind]
    by_cases hk : k = before.tenantId
    · rw [if_pos hk, if_pos hk, ← hs.standing]
      rfl
    · rw [if_neg hk, if_neg hk]

/-! ## Steps

Each call keeps the invariant, and so do any turns in which the requests are among those asked for.
-/

/-- Nothing has been asked for in the beginning. -/
theorem subscriptionInv_start (t₀ : SubscriptionTable) :
    SubscriptionInv plans t₀ asked (SubscriptionWorld.start t₀ : SubscriptionWorld ι) := by
  refine ⟨fun _ => rfl, fun k s hs => ?_, fun _ => trivial, fun e he => by cases he⟩
  exact ⟨s, hs, le_refl _, .inl rfl, .inl rfl⟩

variable [DecidableEq ι]

/-- A client that moves on without writing. -/
theorem SubscriptionInv.move (hw : SubscriptionInv plans t₀ asked w) (i : ι) {p : SubscriptionPhase}
    (hp : PhaseOk plans t₀ asked p) : SubscriptionInv plans t₀ asked (w.move i p) := by
  refine { hw with phases := ?_ }
  unfold SubscriptionWorld.move
  rw [Function.forall_update_iff w.phases fun _ p => PhaseOk plans t₀ asked p]
  exact ⟨hp, fun j _ => hw.phases j⟩

/-- A client that saves what it has changed. -/
theorem SubscriptionInv.commit (hw : SubscriptionInv plans t₀ asked w) (i : ι) {before s : Subscription}
    {change : StandingChange} (hbefore : CopyOk plans t₀ asked before)
    (hs : ChangedBy plans asked before change s) {t : SubscriptionTable}
    (hfixed : ∀ k, (t.find k).map fixedColumns = (t₀.find k).map fixedColumns)
    (hstanding : ∀ k, standingIn t k =
      if k = before.tenantId then some (change.apply before.standing) else w.standing k) :
    SubscriptionInv plans t₀ asked
      (w.commit i (SubscriptionWorld.afterSave s change) t before.tenantId change) := by
  have hp : PhaseOk plans t₀ asked (SubscriptionWorld.afterSave s change) := by
    cases change with
    | plan planId => exact hs.events (by rintro ⟨⟩)
    | paymentFailed => exact trivial
  refine ⟨hfixed, fun k s' hs' => ?_, (hw.move i hp).phases, hw.published⟩
  change standingIn t k = some s' at hs'
  rw [hstanding] at hs'
  by_cases hk : k = before.tenantId
  · rw [if_pos hk, Option.some.injEq] at hs'
    rw [← hs', hk]
    exact hbefore.standing.apply hs.possible
  · rw [if_neg hk] at hs'
    exact hw.standings k s' hs'

/-- Whatever a client does next, the invariant holds. -/
theorem SubscriptionInv.call (hw : SubscriptionInv plans t₀ asked w) (i : ι) (now : ℤ) (newId : String) :
    SubscriptionInv plans t₀ asked (w.call plans i now newId) := by
  have hphase := hw.phases i
  have hidle : SubscriptionInv plans t₀ asked (w.move i .idle) := hw.move i trivial
  unfold SubscriptionWorld.call
  rcases hi : w.phases i with _ | (⟨tenantId, requestTenantId, planId⟩ | event) | ⟨s, planId⟩ |
    ⟨before, change, s⟩ | events <;> rw [hi] at hphase <;> dsimp only
  · exact hw
  · by_cases htenant : tenantId = requestTenantId
    · rw [if_pos htenant]
      rcases hload : findByTenantId w.billing.subscriptions tenantId with _ | s
      · exact hidle
      · -- a plan change has loaded a row of its tenant
        obtain ⟨hs, hcopy⟩ := hw.copyOk hload
        refine hw.move i ⟨hcopy, ?_⟩
        rw [hs]
        exact htenant ▸ hphase
    · rw [if_neg htenant]
      exact hidle
  · rcases hcustomer : StripeAdapter.failedCustomer event with _ | customer
    · exact hidle
    · cases customer with
      | str id =>
        dsimp only
        rcases hload : findByTenantId w.billing.subscriptions id with _ | s
        · exact hidle
        · -- a webhook has loaded the row of the customer's id, taken as that of a tenant
          obtain ⟨rfl, hcopy⟩ := hw.copyOk hload
          exact hw.move i ⟨hcopy, changedBy_markPastDue hphase hcustomer⟩
      | _ => exact hidle
  · rcases hplan : findPlan plans planId with _ | p
    · exact hidle
    · exact hw.move i ⟨hphase.1, changedBy_changePlan hphase.1.events hplan hphase.2 now⟩
  · obtain ⟨t, ht, hfixed, hstanding⟩ := hw.save hphase.1 hphase.2 now newId
    rw [ht]
    exact hw.commit i hphase.1 hphase.2 hfixed hstanding
  · refine { hidle with published := fun e he => ?_ }
    rcases List.mem_append.mp he with he | he
    · exact hw.published e he
    · exact hphase e he

/-- It holds after a turn, which may also be a new request. -/
theorem SubscriptionInv.step (hw : SubscriptionInv plans t₀ asked w) {turn : ι × SubscriptionTurn}
    (hturn : ∀ request, turn.2 = .request request → asked request) :
    SubscriptionInv plans t₀ asked (w.step plans turn) := by
  obtain ⟨i, turn⟩ := turn
  unfold SubscriptionWorld.step
  rcases turn with request | ⟨now, newId⟩ | _ <;> dsimp only
  · rcases hi : w.phases i with _ | _ | _ | _ | _ <;> dsimp only
    · exact hw.move i (hturn request rfl)
    all_goals exact hw
  · exact hw.call i now newId
  · exact hw.move i trivial

/-- Whatever the requests and the order of their calls: no subscription comes or goes, or changes its
Stripe ids; a status only becomes `past_due`, and only for a tenant that a webhook names as its
customer; a plan only becomes one of the catalog that its tenant has asked for. All that is published
are such plans, never a suspension. -/
theorem billing_run (plans : List PlanRow) (t₀ : SubscriptionTable) (turns : List (ι × SubscriptionTurn)) :
    let asked := fun request => ∃ i, (i, .request request) ∈ turns
    let w := turns.foldl (SubscriptionWorld.step plans) (SubscriptionWorld.start t₀)
    (∀ k, (w.billing.subscriptions.find k).map fixedColumns = (t₀.find k).map fixedColumns) ∧
      (∀ k s, w.standing k = some s → StandingOk plans t₀ asked k s) ∧
      ∀ e ∈ w.billing.published, EventOk plans asked e := by
  intro asked w
  have hw : SubscriptionInv plans t₀ asked w := by
    refine List.foldlRecOn turns _ (subscriptionInv_start t₀) fun w hw turn hturn => ?_
    refine hw.step fun request hrequest => ⟨turn.1, ?_⟩
    rw [← hrequest]
    exact hturn
  exact ⟨hw.fixed, hw.standings, hw.published⟩

end

end EmailTriage.TenantSubscription
