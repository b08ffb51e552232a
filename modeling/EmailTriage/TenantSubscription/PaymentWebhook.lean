import EmailTriage.TenantSubscription.Subscription

/-!
# Failed payments

`handlePaymentWebhook` of `src/tenant-subscription/infrastructure/adapters/stripe.adapter.ts`. A webhook
names a Stripe customer, and the adapter marks that customer's subscription as past due.

The adapter hands the customer's id to `findByTenantId`, so it finds the subscription of the tenant with
that id, and it has no publisher: the event `markPastDue` raises ends with the aggregate. Ids are compared
as texts here; a database that takes tenant ids for UUIDs refuses other texts, and changes nothing either.
`hitsItsCustomer_iff` says when the webhook still does what it is for.
-/

namespace EmailTriage.TenantSubscription

open Js Db SubscriptionRepository

/-- What the adapter can act on: the stored subscriptions and the published events. -/
structure Billing where
  subscriptions : SubscriptionTable
  published : List SubscriptionEvent

namespace StripeAdapter

/-- `findUnique({ where: { tenantId } })` for an id out of `any`; the client refuses what is not a
text. -/
def findByCustomer (customerId : Value) : Effect Billing (Option Subscription) := do
  let b ← get
  match customerId with
  | .str id => return findByTenantId b.subscriptions id
  | _ => throw (.error "PrismaClientValidationError")

/-- `save` of the repository. -/
def saveSubscription (now : ℤ) (newId : String) (s : Subscription) : Effect Billing Unit := do
  let b ← get
  match save b.subscriptions now newId s with
  | some t => set { b with subscriptions := t }
  | none => throw (.error "PrismaClientKnownRequestError")

/-- `handlePaymentWebhook`. -/
def handlePaymentWebhook (now : ℤ) (newId : String) (event : Value) : Effect Billing Unit := do
  if event.truthy && (event.get "data").truthy then
    if (event.get "type").isStr "invoice.payment_failed" then
      let invoice := (event.get "data").get "object"
      if invoice.isNullish then
        throw .typeError
      -- Find subscription by Stripe customer ID and mark as past due
      match ← findByCustomer (invoice.get "customer") with
      | some subscription => saveSubscription now newId subscription.markPastDue
      | none => return

/-- An event that tells of a failed payment of a customer. -/
def IsPaymentFailed (customerId : String) (event : Value) : Prop :=
  event.get "type" = .str "invoice.payment_failed" ∧
    ((event.get "data").get "object").get "customer" = .str customerId

/-- A failed payment hits exactly its customer: that customer's subscription is past due and its
suspension is published, and every other subscription is as it was. -/
structure HitsItsCustomer (customerId : String) (b b' : Billing) : Prop where
  pastDue : ∀ r ∈ b.subscriptions.rows, r.stripeCustomerId = some customerId →
    ∃ s, findByTenantId b'.subscriptions r.tenantId = some s ∧ s.status = .past_due
  unchanged : ∀ r ∈ b.subscriptions.rows, r.stripeCustomerId ≠ some customerId →
    findByTenantId b'.subscriptions r.tenantId = findByTenantId b.subscriptions r.tenantId
  published : ∀ r ∈ b.subscriptions.rows, r.stripeCustomerId = some customerId →
    ∃ new, b'.published = b.published ++ new ∧
      .tenantSuspended ⟨r.tenantId, "payment_failed"⟩ ∈ new

/-- No subscription is that of the customer, and the one whose tenant has the customer's id, if there is
one, is past due already. -/
def CustomerUnknown (customerId : String) (b : Billing) : Prop :=
  ∀ r ∈ b.subscriptions.rows, r.stripeCustomerId ≠ some customerId ∧
    (r.tenantId = customerId → r.status = .past_due)

variable {customerId : String} {event : Value} {b : Billing} {now : ℤ} {newId : String}

/-- A value with a text property is an object. -/
theorem exists_obj_of_get {v : Value} {key text : String} (h : v.get key = .str text) :
    ∃ fields, v = .obj fields := by
  cases v with
  | obj fields => exact ⟨fields, rfl⟩
  | _ => cases h

/-- What a failed payment does is decided by the tenant that has the customer's id. -/
theorem handlePaymentWebhook_eq (now : ℤ) (newId : String) (h : IsPaymentFailed customerId event) :
    handlePaymentWebhook now newId event b =
      match findByTenantId b.subscriptions customerId with
      | some s => saveSubscription now newId s.markPastDue b
      | none => .ok () b := by
  obtain ⟨htype, hcustomer⟩ := h
  obtain ⟨fields, hevent⟩ := exists_obj_of_get htype
  obtain ⟨invoice, hinvoice⟩ := exists_obj_of_get hcustomer
  have htruthy : event.truthy = true := by rw [hevent]; rfl
  have hdata : (event.get "data").truthy = true := by
    rcases hd : event.get "data" with _ | _ | _ | _ | _ | _ | _ | data
    case obj => rfl
    all_goals rw [hd] at hinvoice
    all_goals cases hinvoice
  have hnullish : ((event.get "data").get "object").isNullish = false := by rw [hinvoice]; rfl
  have hfailed : (event.get "type").isStr "invoice.payment_failed" = true := by
    rw [htype]
    rfl
  unfold handlePaymentWebhook
  rw [htruthy, hdata, Bool.and_true, if_pos rfl, hfailed, if_pos rfl]
  dsimp only
  rw [hnullish, if_neg Bool.false_ne_true, hcustomer]
  have hfind : findByCustomer (.str customerId) b =
      .ok (findByTenantId b.subscriptions customerId) b := rfl
  rw [bind_of_ok hfind]
  rcases findByTenantId b.subscriptions customerId with _ | s
  · rfl
  · rfl

/-- What `save` leaves out was `undefined` when the subscription was loaded. -/
theorem or_orUndefined (text : Option String) : (orUndefined text).or text = text := by
  rcases text with _ | text
  · rfl
  · unfold orUndefined
    by_cases h : text = ""
    · simp [h, Option.filter]
    · simp [h, Option.filter]

/-- Saving the subscription of a tenant as past due changes the status of that subscription, and publishes
nothing. -/
theorem after_saveSubscription (now : ℤ) (newId : String) {r : SubscriptionRow}
    (hr : b.subscriptions.find customerId = some r) :
    ∃ t, after (saveSubscription now newId r.load.markPastDue) b = { b with subscriptions := t } ∧
      ∀ tenantId, findByTenantId t tenantId =
        if tenantId = customerId then some { r.load with status := .past_due }
        else findByTenantId b.subscriptions tenantId := by
  have htenant : r.load.markPastDue.tenantId = customerId := (Table.find_eq_some_iff.mp hr).2
  obtain ⟨t, ht, hfind⟩ := find_save (s := r.load.markPastDue) (by rw [htenant, hr]) now newId
  refine ⟨t, ?_, fun tenantId => ?_⟩
  · have hsave : saveSubscription now newId r.load.markPastDue b =
        .ok () { b with subscriptions := t } := by
      unfold saveSubscription
      have hget : (get : Effect Billing Billing) b = .ok b b := rfl
      rw [bind_of_ok hget, ht]
      rfl
    exact after_of_ok hsave
  · unfold findByTenantId
    rw [hfind, htenant]
    by_cases hk : tenantId = customerId
    · rw [if_pos hk, if_pos hk, Option.map_some]
      simp [SubscriptionRow.load, updateData, Subscription.markPastDue, or_orUndefined]
    · rw [if_neg hk, if_neg hk]

/-- A failed payment leaves the subscription of the tenant that has the customer's id past due, leaves all
others alone, and publishes nothing. -/
theorem after_handlePaymentWebhook (now : ℤ) (newId : String) (h : IsPaymentFailed customerId event) :
    (after (handlePaymentWebhook now newId event) b).published = b.published ∧
      ∀ tenantId,
        findByTenantId (after (handlePaymentWebhook now newId event) b).subscriptions tenantId =
          if tenantId = customerId then
            (b.subscriptions.find customerId).map fun r => { r.load with status := .past_due }
          else findByTenantId b.subscriptions tenantId := by
  have heq := handlePaymentWebhook_eq (b := b) now newId h
  unfold findByTenantId at heq
  rcases hr : b.subscriptions.find customerId with _ | r
  · rw [hr] at heq
    rw [after_of_ok heq]
    refine ⟨rfl, fun tenantId => ?_⟩
    by_cases hk : tenantId = customerId
    · rw [if_pos hk, hk, findByTenantId, hr]
      rfl
    · rw [if_neg hk]
  · rw [hr] at heq
    have hafter : after (handlePaymentWebhook now newId event) b =
        after (saveSubscription now newId r.load.markPastDue) b := by
      unfold after
      rw [heq]
      rfl
    obtain ⟨t, ht, hfind⟩ := after_saveSubscription now newId hr
    rw [hafter, ht]
    exact ⟨rfl, hfind⟩

/-- A failed payment hits its customer, and only it, exactly if no subscription is that customer's and no
tenant that has the customer's id for its own is in good standing. -/
theorem hitsItsCustomer_iff {customerId : String} {event : Value}
    (h : IsPaymentFailed customerId event) (b : Billing) (now : ℤ) (newId : String) :
    HitsItsCustomer customerId b (after (handlePaymentWebhook now newId event) b) ↔
      CustomerUnknown customerId b := by
  obtain ⟨hpublished, hfind⟩ := after_handlePaymentWebhook (b := b) now newId h
  have hown : ∀ r ∈ b.subscriptions.rows, r.tenantId = customerId →
      b.subscriptions.find customerId = some r := by
    rintro r hr rfl
    exact Table.find_key hr
  constructor
  · intro hits
    have hunknown : ∀ r ∈ b.subscriptions.rows, r.stripeCustomerId ≠ some customerId := by
      intro r hr hcustomer
      obtain ⟨new, hnew, hmem⟩ := hits.published r hr hcustomer
      -- the adapter publishes nothing
      rw [hpublished, List.self_eq_append_right] at hnew
      rw [hnew] at hmem
      cases hmem
    refine fun r hr => ⟨hunknown r hr, fun htenant => ?_⟩
    have hsame := hits.unchanged r hr (hunknown r hr)
    rw [hfind, if_pos htenant, htenant, findByTenantId, hown r hr htenant] at hsame
    have hload := Option.some.inj hsame
    exact (congrArg Subscription.status hload).symm
  · intro hunknown
    refine ⟨fun r hr hcustomer => absurd hcustomer (hunknown r hr).1, fun r hr _ => ?_,
      fun r hr hcustomer => absurd hcustomer (hunknown r hr).1⟩
    rw [hfind]
    split
    · next htenant =>
      have hstatus := (hunknown r hr).2 htenant
      rw [htenant, findByTenantId, hown r hr htenant, Option.map_some, Option.map_some, ← hstatus]
      rfl
    · rfl

/-! ## Two customers

The customer of an event is looked up as a tenant. So an event hits its customer only where no
subscription has that customer and no tenant of that id would be put past due by mistake.
-/

/-- Two tenants, each with a customer. -/
def twoCustomers : Billing where
  subscriptions :=
    ⟨[⟨"sub-1", "tenant-1", "free", .active, 1, none, some "cus_1", none, 0, 0⟩,
      ⟨"sub-2", "tenant-2", "free", .active, 1, none, some "cus_2", none, 0, 0⟩], by decide, by decide⟩
  published := []

/-- The webhook of a failed payment. -/
def paymentFailed (customerId : String) : Value :=
  .obj [("type", .str "invoice.payment_failed"),
    ("data", .obj [("object", .obj [("customer", .str customerId)])])]

/-- The example is such an event. -/
theorem isPaymentFailed_paymentFailed (customerId : String) :
    IsPaymentFailed customerId (paymentFailed customerId) := by
  simp [IsPaymentFailed, paymentFailed]

/-- The failed payment of a customer without subscription changes nothing. -/
theorem hitsItsCustomer_unknown : HitsItsCustomer "cus_3" twoCustomers
    (after (handlePaymentWebhook 0 "new-1" (paymentFailed "cus_3")) twoCustomers) := by
  refine (hitsItsCustomer_iff (isPaymentFailed_paymentFailed "cus_3") twoCustomers 0 "new-1").mpr ?_
  unfold CustomerUnknown
  decide

/-- The failed payment of the first customer leaves that customer's tenant active. -/
theorem not_hitsItsCustomer_known : ¬ HitsItsCustomer "cus_1" twoCustomers
    (after (handlePaymentWebhook 0 "new-1" (paymentFailed "cus_1")) twoCustomers) := by
  intro hits
  obtain ⟨s, hs, hstatus⟩ := hits.pastDue _ List.mem_cons_self rfl
  obtain ⟨-, hfind⟩ := after_handlePaymentWebhook (b := twoCustomers) 0 "new-1"
    (isPaymentFailed_paymentFailed "cus_1")
  rw [hfind, if_neg (by decide)] at hs
  obtain rfl := Option.some.inj hs
  cases hstatus

end StripeAdapter

end EmailTriage.TenantSubscription
