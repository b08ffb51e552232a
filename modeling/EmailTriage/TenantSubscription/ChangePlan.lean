import Mathlib.Logic.Function.Basic
import EmailTriage.Lib.Runs
import EmailTriage.TenantSubscription.Subscription

/-!
# Overlapping changes of a plan

`changePlan` of `src/tenant-subscription/presentation/subscription.controller.ts`. A request loads the
subscription of its tenant, changes the plan of its copy, saves the copy and publishes the events; any
number of requests do so at the same time.

The version a change gets is one more than the version its request has loaded, and nothing checks at the
save that this is still the stored one. `planVersions_of_savesOverLoaded` says that versions order the
changes as long as every save finds the plan and the version its request has loaded.

## The shape of the argument

The invariant keeps a log of the changes that were saved, with the requests that saved them: their
versions are pairwise different, none is above the stored one, and the last change is what is stored
(`PlanInv`). A save over what was loaded appends the next version to it (`PlanInv.save`). A request
publishes its own change and no other, once, so what was published is a part of the log, and in the end
all of it.
-/

namespace EmailTriage.TenantSubscription

open Db Runs SubscriptionRepository

/-- How far a request has come, with what it holds in memory. -/
inductive ChangePlanRequest where
  | idle
  | loaded (subscription : Subscription) (planId : String)
  | changed (before subscription : Subscription)
  | saved (events : List SubscriptionEvent)
  | done
  | failed

/-- A step of a request. -/
inductive ChangePlanEvent (ι : Type) where
  | load (request : ι) (planId : String)
  | change (request : ι) (now : ℤ)
  | save (request : ι) (now : ℤ) (newId : String)
  | publish (request : ι)

/-- The stored subscriptions, the requests, and the events published so far. -/
structure PlanChanges (ι : Type) where
  subscriptions : SubscriptionTable
  requests : ι → ChangePlanRequest
  published : List SubscriptionEvent

section

variable {ι : Type} [DecidableEq ι] (plans : List PlanRow) (tenantId : String)

namespace PlanChanges

def init (subscriptions : SubscriptionTable) : PlanChanges ι := ⟨subscriptions, fun _ => .idle, []⟩

/-- The state after a request has moved on. -/
def move (s : PlanChanges ι) (request : ι) (r : ChangePlanRequest) : PlanChanges ι :=
  { s with requests := Function.update s.requests request r }

def step (s : PlanChanges ι) : ChangePlanEvent ι → PlanChanges ι
  | .load request planId =>
    match s.requests request with
    | .idle =>
      match findByTenantId s.subscriptions tenantId with
      | some subscription => s.move request (.loaded subscription planId)
      | none => s.move request .failed -- Subscription not found
    | _ => s
  | .change request now =>
    match s.requests request with
    | .loaded subscription planId =>
      match findPlan plans planId with
      | some newPlan =>
        s.move request
          (.changed subscription (subscription.changePlan now planId newPlan.entitlements))
      | none => s.move request .failed -- Plan not found
    | _ => s
  | .save request now newId =>
    match s.requests request with
    | .changed _ subscription =>
      match SubscriptionRepository.save s.subscriptions now newId subscription with
      | some subscriptions =>
        { s.move request (.saved subscription.uncommittedEvents) with subscriptions := subscriptions }
      | none => s.move request .failed
    | _ => s
  | .publish request =>
    match s.requests request with
    | .saved events => { s.move request .done with published := s.published ++ events }
    | _ => s

/-- The stored plan of the tenant and its version. -/
def stored (s : PlanChanges ι) : Option (String × ℤ) :=
  (findByTenantId s.subscriptions tenantId).map Subscription.plan

/-- No request is under way. -/
def Quiet (s : PlanChanges ι) : Prop :=
  ∀ request, s.requests request = .idle ∨ s.requests request = .done ∨ s.requests request = .failed

end PlanChanges

/-- The plan changes among some events. -/
def planEvents (events : List SubscriptionEvent) : List PlanEntitlementsChanged :=
  events.filterMap fun
    | .planEntitlementsChanged e => some e
    | .tenantSuspended _ => none

/-- Versions order the changes of the plan: those that were published are pairwise different, and once no
request is under way the stored plan is that of the highest version. -/
structure PlanVersions (start : Option (String × ℤ)) (s : PlanChanges ι) : Prop where
  unique : ((planEvents s.published).map (·.version)).Nodup
  latest : s.Quiet →
    (planEvents s.published = [] ∧ s.stored tenantId = start) ∨
      ∃ e ∈ planEvents s.published, s.stored tenantId = some (e.planId, e.version) ∧
        ∀ e' ∈ planEvents s.published, e'.version ≤ e.version

/-- A save finds the plan and the version its request has loaded. -/
def SavesOverLoaded (s : PlanChanges ι) : ChangePlanEvent ι → PlanChanges ι → Prop
  | .save request _ _, _ => ∀ before subscription,
      s.requests request = .changed before subscription → s.stored tenantId = some before.plan
  | _, _ => True

/-! ## What a request knows

A request holds the subscription that it has loaded, and what it has made of it. The log has the changes
that were saved and not yet published.
-/

/-- What a plan change has made of a subscription without events. -/
def Changed (before s : Subscription) : Prop :=
  (s.plan = before.plan ∧ s.uncommittedEvents = []) ∨
    ∃ e, s.uncommittedEvents = [.planEntitlementsChanged e] ∧ s.plan = (e.planId, e.version) ∧
      e.version = before.planVersion + 1

/-- A change of the plan is the only event of the subscription it is made on. -/
theorem changed_changePlan {s : Subscription} (hs : s.uncommittedEvents = []) (now : ℤ)
    (newPlanId : String) (entitlements : Entitlements) :
    Changed s (s.changePlan now newPlanId entitlements) := by
  unfold Subscription.changePlan
  split
  · exact .inl ⟨rfl, hs⟩
  · refine .inr ⟨⟨s.tenantId, newPlanId, entitlements, s.planVersion + 1⟩, ?_, rfl, rfl⟩
    rw [hs, List.nil_append]

/-- What is known of a request, given the changes that were saved so far with the requests that saved
them. -/
def RequestOk (log : List (ι × PlanEntitlementsChanged)) (request : ι) : ChangePlanRequest → Prop
  | .loaded s _ => s.tenantId = tenantId ∧ s.uncommittedEvents = []
  | .changed before s => s.tenantId = tenantId ∧ Changed before s
  | .saved events => events = [] ∨
      ∃ e, events = [.planEntitlementsChanged e] ∧ (request, e) ∈ log
  | _ => True

/-- The changes saved so far have increasing versions, the last one is stored, and each is published or
about to be. -/
structure PlanInv (start : Option (String × ℤ)) (s : PlanChanges ι)
    (log : List (ι × PlanEntitlementsChanged)) : Prop where
  requests : ∀ request, RequestOk tenantId log request (s.requests request)
  nodup : (log.map (·.2.version)).Nodup
  bounded : ∀ p ∈ log, ∀ plan, s.stored tenantId = some plan → p.2.version ≤ plan.2
  latest : (log = [] ∧ s.stored tenantId = start) ∨
    ∃ p ∈ log, s.stored tenantId = some (p.2.planId, p.2.version)
  logged : ∀ p ∈ log, s.requests p.1 = .saved [.planEntitlementsChanged p.2] ∨
    (s.requests p.1 = .done ∧ p.2 ∈ planEvents s.published)
  published : ∀ e ∈ planEvents s.published, ∃ request, s.requests request = .done ∧ (request, e) ∈ log
  unique : ((planEvents s.published).map (·.version)).Nodup

omit [DecidableEq ι] in
variable {tenantId} in
/-- What is known of a request does not become false when more is saved. -/
theorem RequestOk.mono {log log' : List (ι × PlanEntitlementsChanged)} {request : ι}
    {r : ChangePlanRequest} (h : RequestOk tenantId log request r) (hlog : log ⊆ log') :
    RequestOk tenantId log' request r := by
  cases r with
  | saved events =>
    rcases h with h | ⟨e, h, hmem⟩
    · exact .inl h
    · exact .inr ⟨e, h, hlog hmem⟩
  | _ => exact h

variable {plans tenantId} {start : Option (String × ℤ)} {s : PlanChanges ι}
  {log : List (ι × PlanEntitlementsChanged)}

omit [DecidableEq ι] in
/-- The invariant is what versions promise. -/
theorem PlanInv.planVersions (hs : PlanInv tenantId start s log) : PlanVersions tenantId start s := by
  refine ⟨hs.unique, fun hquiet => ?_⟩
  have hpublished : ∀ p ∈ log, p.2 ∈ planEvents s.published := by
    intro p hp
    rcases hs.logged p hp with hsaved | ⟨-, hmem⟩
    · rcases hquiet p.1 with h | h | h
      all_goals rw [hsaved] at h
      all_goals cases h
    · exact hmem
  rcases hs.latest with ⟨rfl, hstart⟩ | ⟨p, hp, hstored⟩
  · refine .inl ⟨List.eq_nil_iff_forall_not_mem.mpr fun e he => ?_, hstart⟩
    obtain ⟨request, -, hmem⟩ := hs.published e he
    exact absurd hmem List.not_mem_nil
  · refine .inr ⟨p.2, hpublished p hp, hstored, fun e he => ?_⟩
    obtain ⟨request, -, hmem⟩ := hs.published e he
    exact hs.bounded _ hmem _ hstored

omit [DecidableEq ι] in
/-- No request has begun in the beginning. -/
theorem planInv_init (subscriptions : SubscriptionTable) :
    PlanInv tenantId ((PlanChanges.init subscriptions : PlanChanges ι).stored tenantId)
      (PlanChanges.init subscriptions : PlanChanges ι) [] where
  requests _ := trivial
  nodup := List.nodup_nil
  bounded _ hp := absurd hp List.not_mem_nil
  latest := .inl ⟨rfl, rfl⟩
  logged _ hp := absurd hp List.not_mem_nil
  published _ he := absurd he List.not_mem_nil
  unique := List.nodup_nil

/-! ## Steps

A save over what the request has loaded makes a version that no other change has.
-/

namespace PlanChanges

/-- A request is where it has moved to. -/
theorem requests_move_self (s : PlanChanges ι) (request : ι) (r : ChangePlanRequest) :
    (s.move request r).requests request = r := Function.update_self ..

/-- The other requests are where they were. -/
theorem requests_move_of_ne (s : PlanChanges ι) {request request' : ι} (h : request' ≠ request)
    (r : ChangePlanRequest) : (s.move request r).requests request' = s.requests request' :=
  Function.update_of_ne h ..

end PlanChanges

/-- Only the request that moves on has to be looked at. -/
theorem requestOk_move {log' : List (ι × PlanEntitlementsChanged)}
    (hs : ∀ request, RequestOk tenantId log request (s.requests request)) (hlog : log ⊆ log')
    {request : ι} {r : ChangePlanRequest} (hr : RequestOk tenantId log' request r) :
    ∀ request', RequestOk tenantId log' request' ((s.move request r).requests request') := by
  unfold PlanChanges.move
  rw [Function.forall_update_iff s.requests fun request' r => RequestOk tenantId log' request' r]
  exact ⟨hr, fun request' _ => (hs request').mono hlog⟩

/-- What is published stays so when a request moves on that was not done. -/
theorem PlanInv.published_move (hs : PlanInv tenantId start s log) {request : ι}
    (hrequest : s.requests request ≠ .done) (r : ChangePlanRequest) {e : PlanEntitlementsChanged}
    (he : e ∈ planEvents s.published) :
    ∃ request', (s.move request r).requests request' = .done ∧ (request', e) ∈ log := by
  obtain ⟨request', hdone, hmem⟩ := hs.published e he
  have hne : request' ≠ request := by
    rintro rfl
    exact hrequest hdone
  exact ⟨request', (s.requests_move_of_ne hne r).trans hdone, hmem⟩

omit [DecidableEq ι] in
/-- What a request has saved is in the log under its name. -/
theorem PlanInv.mem_log_of_saved (hs : PlanInv tenantId start s log) {request : ι}
    {events : List SubscriptionEvent} (hrequest : s.requests request = .saved events)
    {e : PlanEntitlementsChanged} (he : e ∈ planEvents events) : (request, e) ∈ log := by
  have hsaved := hs.requests request
  rw [hrequest] at hsaved
  rcases hsaved with rfl | ⟨e', rfl, hmem⟩
  · cases he
  · rw [List.mem_singleton.mp he]
    exact hmem

omit [DecidableEq ι] in
/-- Nobody has published yet what a request has saved: the versions in the log are different. -/
theorem PlanInv.nodup_append_of_saved (hs : PlanInv tenantId start s log) {request : ι}
    {events : List SubscriptionEvent} (hrequest : s.requests request = .saved events) :
    ((planEvents s.published ++ planEvents events).map (·.version)).Nodup := by
  rw [List.map_append, List.nodup_append]
  refine ⟨hs.unique, ?_, ?_⟩
  · have hsaved := hs.requests request
    rw [hrequest] at hsaved
    rcases hsaved with rfl | ⟨e, rfl, -⟩
    · exact List.nodup_nil
    · exact List.nodup_singleton _
  · rintro v hv v' hv' rfl
    obtain ⟨e, he, rfl⟩ := List.mem_map.mp hv
    obtain ⟨e', he', heq⟩ := List.mem_map.mp hv'
    obtain ⟨request', hdone, hmem⟩ := hs.published e he
    have hsame := List.inj_on_of_nodup_map hs.nodup (hs.mem_log_of_saved hrequest he') hmem heq
    obtain ⟨rfl, -⟩ := Prod.mk.inj hsame
    rw [hrequest] at hdone
    cases hdone

/-- A request that has not saved yet. -/
def ChangePlanRequest.Unsaved : ChangePlanRequest → Prop
  | .saved _ => False
  | .done => False
  | _ => True

/-- A request that has not saved yet is not in the log, and may move on. -/
theorem PlanInv.move (hs : PlanInv tenantId start s log) {request : ι} {r₀ r : ChangePlanRequest}
    (hrequest : s.requests request = r₀) (hunsaved : r₀.Unsaved)
    (hr : RequestOk tenantId log request r) :
    PlanInv tenantId start (s.move request r) log := by
  have hopen : ∀ e, s.requests request ≠ .saved [.planEntitlementsChanged e] := by
    intro e h
    rw [← hrequest, h] at hunsaved
    exact hunsaved
  have hdone : s.requests request ≠ .done := by
    intro h
    rw [← hrequest, h] at hunsaved
    exact hunsaved
  refine { hs with requests := requestOk_move hs.requests (List.Subset.refl log) hr,
                   logged := fun p hp => ?_, published := fun e he => hs.published_move hdone r he }
  have hlogged := hs.logged p hp
  have hne : p.1 ≠ request := by
    rintro rfl
    rcases hlogged with h | ⟨h, -⟩
    · exact hopen p.2 h
    · exact hdone h
  rw [s.requests_move_of_ne hne]
  exact hlogged

/-- A request that publishes what it has saved. -/
theorem PlanInv.publish (hs : PlanInv tenantId start s log) {request : ι}
    {events : List SubscriptionEvent} (hrequest : s.requests request = .saved events) :
    PlanInv tenantId start { s.move request .done with published := s.published ++ events } log := by
  have happend : planEvents (s.published ++ events) = planEvents s.published ++ planEvents events :=
    List.filterMap_append
  have hdone : s.requests request ≠ .done := by
    rw [hrequest]
    rintro ⟨⟩
  refine { hs with requests := requestOk_move hs.requests (List.Subset.refl log) trivial,
                   logged := fun p hp => ?_, published := fun e he => ?_, unique := ?_ }
  · dsimp only
    rw [happend]
    -- the request that publishes is done now, and its event is among the published ones
    by_cases heq : p.1 = request
    · refine .inr ⟨by rw [heq, s.requests_move_self], List.mem_append_right _ ?_⟩
      rcases hs.logged p hp with h | ⟨h, -⟩
      · rw [heq, hrequest] at h
        rw [ChangePlanRequest.saved.inj h]
        exact List.mem_singleton.mpr rfl
      · exact absurd (heq ▸ h) hdone
    · rw [s.requests_move_of_ne heq]
      rcases hs.logged p hp with h | ⟨h, hmem⟩
      · exact .inl h
      · exact .inr ⟨h, List.mem_append_left _ hmem⟩
  · dsimp only at he ⊢
    rw [happend] at he
    rcases List.mem_append.mp he with he | he
    · exact hs.published_move hdone .done he
    · exact ⟨request, s.requests_move_self request .done, hs.mem_log_of_saved hrequest he⟩
  · dsimp only
    rw [happend]
    exact hs.nodup_append_of_saved hrequest

omit [DecidableEq ι] in
/-- Saving a subscription that is there stores its plan. -/
theorem stored_save {subscription : Subscription} {plan : String × ℤ}
    (htenant : subscription.tenantId = tenantId) (hstored : s.stored tenantId = some plan) (now : ℤ)
    (newId : String) :
    ∃ subscriptions, SubscriptionRepository.save s.subscriptions now newId subscription =
        some subscriptions ∧
      (findByTenantId subscriptions tenantId).map Subscription.plan = some subscription.plan := by
  obtain ⟨before, hbefore, -⟩ := Option.map_eq_some_iff.mp hstored
  obtain ⟨r, hr, -⟩ := Option.map_eq_some_iff.mp hbefore
  rw [← htenant] at hr
  obtain ⟨t', ht', hfind⟩ := find_save hr now newId
  refine ⟨t', ht', ?_⟩
  rw [findByTenantId, hfind, if_pos htenant.symm]
  rfl

/-- A save that leaves the plan as it is is not logged. -/
theorem PlanInv.save_same (hs : PlanInv tenantId start s log) {request : ι}
    {before subscription : Subscription}
    (hrequest : s.requests request = .changed before subscription)
    (hevents : subscription.uncommittedEvents = []) {subscriptions : SubscriptionTable}
    (hsame : (findByTenantId subscriptions tenantId).map Subscription.plan = s.stored tenantId) :
    PlanInv tenantId start
      { s.move request (.saved subscription.uncommittedEvents) with subscriptions := subscriptions }
      log := by
  have hmove := hs.move (r := .saved subscription.uncommittedEvents) hrequest trivial (.inl hevents)
  refine { hmove with bounded := fun p hp plan h => ?_, latest := ?_ }
  · exact hmove.bounded p hp plan (hsame.symm.trans h)
  · have hlatest := hmove.latest
    change _ ∧ s.stored tenantId = start ∨ ∃ p ∈ log, s.stored tenantId = _ at hlatest
    rw [← hsame] at hlatest
    exact hlatest

/-- The change that a save adds to the log is above all that are there. -/
theorem PlanInv.save_change (hs : PlanInv tenantId start s log) {request : ι}
    {before subscription : Subscription}
    (hrequest : s.requests request = .changed before subscription)
    {e : PlanEntitlementsChanged} (hevents : subscription.uncommittedEvents = [.planEntitlementsChanged e])
    (hnew : ∀ p ∈ log, p.2.version < e.version) {subscriptions : SubscriptionTable}
    (hsubscriptions : (findByTenantId subscriptions tenantId).map Subscription.plan =
      some (e.planId, e.version)) :
    PlanInv tenantId start
      { s.move request (.saved subscription.uncommittedEvents) with subscriptions := subscriptions }
      (log ++ [(request, e)]) := by
  have hself : (request, e) ∈ log ++ [(request, e)] :=
    List.mem_append_right _ (List.mem_singleton.mpr rfl)
  have hdone : s.requests request ≠ .done := by
    rw [hrequest]
    rintro ⟨⟩
  refine ⟨requestOk_move hs.requests (List.subset_append_left _ _) (.inr ⟨e, hevents, hself⟩), ?_,
    fun p hp plan h => ?_, .inr ⟨(request, e), hself, hsubscriptions⟩, fun p hp => ?_,
    fun e' he' => ?_, hs.unique⟩
  · -- the new version is above all the versions of the log, so it is not one of them
    rw [List.map_append, List.nodup_append]
    refine ⟨hs.nodup, List.nodup_singleton _, ?_⟩
    rintro v hv v' hv' rfl
    obtain ⟨p, hp, rfl⟩ := List.mem_map.mp hv
    exact (hnew p hp).ne (List.mem_singleton.mp hv')
  · obtain rfl : plan = (e.planId, e.version) := Option.some.inj (h.symm.trans hsubscriptions)
    rcases List.mem_append.mp hp with hp | hp
    · exact (hnew p hp).le
    · rw [List.mem_singleton.mp hp]
  · dsimp only
    rcases List.mem_append.mp hp with hp | hp
    · -- a request that is logged has saved, and this one has not
      have hlogged := hs.logged p hp
      have hne : p.1 ≠ request := by
        rintro rfl
        rcases hlogged with h | ⟨h, -⟩
        · rw [hrequest] at h
          cases h
        · exact hdone h
      rw [s.requests_move_of_ne hne]
      exact hlogged
    · rw [List.mem_singleton.mp hp, s.requests_move_self, hevents]
      exact .inl rfl
  · obtain ⟨request', hdone', hmem⟩ := hs.published_move hdone _ he'
    exact ⟨request', hdone', List.mem_append_left _ hmem⟩

/-- A request saves over the plan and the version it has loaded. -/
theorem PlanInv.save (hs : PlanInv tenantId start s log) {request : ι}
    {before subscription : Subscription}
    (hrequest : s.requests request = .changed before subscription)
    (hstored : s.stored tenantId = some before.plan) {subscriptions : SubscriptionTable}
    (hsubscriptions : (findByTenantId subscriptions tenantId).map Subscription.plan =
      some subscription.plan) :
    ∃ log', PlanInv tenantId start
      { s.move request (.saved subscription.uncommittedEvents) with subscriptions := subscriptions }
      log' := by
  have hchanged := hs.requests request
  rw [hrequest] at hchanged
  obtain ⟨-, ⟨hplan, hevents⟩ | ⟨e, hevents, hplan, hversion⟩⟩ := hchanged
  · refine ⟨log, hs.save_same hrequest hevents ?_⟩
    rw [hsubscriptions, hplan, hstored]
  · refine ⟨log ++ [(request, e)], hs.save_change hrequest hevents (fun p hp => ?_) ?_⟩
    · rw [hversion]
      exact Int.lt_add_one_of_le (hs.bounded p hp _ hstored)
    · rw [hsubscriptions, hplan]

/-- A step whose save finds what its request has loaded keeps the invariant. -/
theorem PlanInv.step (hs : PlanInv tenantId start s log) (e : ChangePlanEvent ι)
    (he : SavesOverLoaded tenantId s e (s.step plans tenantId e)) :
    ∃ log', PlanInv tenantId start (s.step plans tenantId e) log' := by
  cases e with
  | load request planId =>
    unfold PlanChanges.step
    dsimp only
    split
    · next hrequest =>
      split
      · next subscription hfind =>
        -- what is loaded is a version that has been stored
        refine ⟨log, hs.move hrequest trivial ⟨tenantId_of_findByTenantId hfind, ?_⟩⟩
        obtain ⟨r, -, rfl⟩ := Option.map_eq_some_iff.mp hfind
        rfl
      · exact ⟨log, hs.move hrequest trivial trivial⟩
    · exact ⟨log, hs⟩
  | change request now =>
    unfold PlanChanges.step
    dsimp only
    split
    · next subscription planId hrequest =>
      have hloaded := hs.requests request
      rw [hrequest] at hloaded
      split
      · next newPlan _ =>
        refine ⟨log, hs.move hrequest trivial ⟨?_, changed_changePlan hloaded.2 now planId _⟩⟩
        rw [Subscription.tenantId_changePlan, hloaded.1]
      · exact ⟨log, hs.move hrequest trivial trivial⟩
    · exact ⟨log, hs⟩
  | save request now newId =>
    unfold PlanChanges.step
    dsimp only
    split
    · next before subscription hrequest =>
      have hchanged := hs.requests request
      rw [hrequest] at hchanged
      -- the table still has what the request has loaded, so the version it writes is the next one
      have hstored := he before subscription hrequest
      obtain ⟨subscriptions, hsave, hplan⟩ := stored_save hchanged.1 hstored now newId
      rw [hsave]
      exact hs.save hrequest hstored hplan
    · exact ⟨log, hs⟩
  | publish request =>
    unfold PlanChanges.step
    dsimp only
    split
    · next events hrequest => exact ⟨log, hs.publish hrequest⟩
    · exact ⟨log, hs⟩

/-- Whatever the order of their steps, the versions order the changes that overlapping requests publish,
if every save finds the plan and the version its request has loaded. -/
theorem planVersions_of_savesOverLoaded {plans : List PlanRow} {tenantId : String}
    {subscriptions : SubscriptionTable} {events : List (ChangePlanEvent ι)}
    (h : Along (SavesOverLoaded tenantId) (PlanChanges.init subscriptions)
      (exec (PlanChanges.step plans tenantId) (PlanChanges.init subscriptions) events)) :
    Along (fun _ _ t => PlanVersions tenantId
        ((PlanChanges.init subscriptions : PlanChanges ι).stored tenantId) t)
      (PlanChanges.init subscriptions)
      (exec (PlanChanges.step plans tenantId) (PlanChanges.init subscriptions) events) := by
  refine (Along.guarded (I := fun s => ∃ log, PlanInv tenantId _ s log) ?_ (along_exec _ _ events) h
    ⟨[], planInv_init subscriptions⟩).1
  rintro s e t ⟨log, hs⟩ rfl he
  obtain ⟨log', hlog'⟩ := hs.step e he
  exact ⟨hlog'.planVersions, log', hlog'⟩

end

/-! ## Two changes with one version

Two requests in turn, and two that load before either saves.
-/

/-- A catalog of three plans. -/
def threePlans : List PlanRow :=
  [⟨"free", "Free", "price-1", 1, "tier-1-only", .obj [], true, 0, 0⟩,
    ⟨"team", "Team", "price-2", 5, "tier-2-cheap", .obj [], true, 0, 0⟩,
    ⟨"pro", "Pro", "price-3", 50, "tier-3-frontier", .obj [], true, 0, 0⟩]

/-- A tenant on the first plan. -/
def freeSubscription : SubscriptionTable :=
  ⟨[⟨"sub-1", "tenant-1", "free", .active, 1, none, none, none, 0, 0⟩], by simp, by simp⟩

/-- Two requests, of which the second one loads what the first one has saved, and saves after the first
one has published. -/
def serialRequests : List (ChangePlanEvent Bool) :=
  [.load true "team", .change true 1, .save true 2 "new-1", .load false "pro", .publish true, .change false 3,
    .save false 4 "new-2", .publish false]

/-- Both changes are published, each with a version of its own. -/
theorem planVersions_serialRequests :
    Along (fun _ _ t => PlanVersions "tenant-1"
        ((PlanChanges.init freeSubscription : PlanChanges Bool).stored "tenant-1") t)
      (PlanChanges.init freeSubscription)
      (exec (PlanChanges.step threePlans "tenant-1")
          (PlanChanges.init freeSubscription) serialRequests) := by
  refine planVersions_of_savesOverLoaded
    ⟨trivial, trivial, ?_, trivial, trivial, trivial, ?_, trivial, trivial⟩
  · intro before subscription h
    obtain ⟨rfl, -⟩ := ChangePlanRequest.changed.inj h
    rfl
  · intro before subscription h
    obtain ⟨rfl, -⟩ := ChangePlanRequest.changed.inj h
    rfl

/-- Two requests load the subscription before either saves. -/
def twoRequests : List (ChangePlanEvent Bool) :=
  [.load true "team", .load false "pro", .change true 1, .change false 1, .save true 2 "new-1",
    .publish true, .save false 3 "new-2", .publish false]

/-- Both changes are published as version two. -/
theorem not_planVersions_twoRequests :
    ¬ PlanVersions "tenant-1" ((PlanChanges.init freeSubscription : PlanChanges Bool).stored "tenant-1")
      (twoRequests.foldl (PlanChanges.step threePlans "tenant-1")
        (PlanChanges.init freeSubscription)) := by
  intro h
  have hunique := h.unique
  exact absurd hunique (by decide +kernel)

end EmailTriage.TenantSubscription
