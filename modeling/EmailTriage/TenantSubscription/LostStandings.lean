import EmailTriage.TenantSubscription.Standings

/-!
# Plan changes and failed payments that are lost

A request saves the plan and the status it has loaded, whichever of the two it has changed. A failed
payment takes back the plan change of another request, and a plan change makes a tenant active again
whose payment has failed meanwhile. `standings_exact_iff` says in which runs no change is lost.

What a client has loaded is never later than what is stored (`CopiesPrecede`), so an equal version
means an equal plan. Whether a save is exact depends on the change it makes: a plan change writes the
status that it has loaded, and a failed payment the plan and its version (`StandingChange.Finds`).
`SavesCopy.exact_iff` says this of one save; other steps save nothing, and `standings_exact_iff`
follows for every run.
-/

namespace EmailTriage.TenantSubscription

open Runs SubscriptionRepository

/-! ## Older and later standings

A standing precedes another one if its version is no higher, and it is the same where the versions are
equal.
-/

/-- What a change finds is what was loaded, as far as it is written back. But it does not matter if
another request has made the same plan change meanwhile. -/
def StandingChange.Finds : StandingChange → (loaded stored : Standing) → Prop
  | .plan planId, loaded, stored => stored.status = loaded.status ∧
      (stored.planId = loaded.planId ∧ stored.planVersion = loaded.planVersion ∨
        loaded.planId ≠ planId ∧ stored.planId = planId ∧ stored.planVersion = loaded.planVersion + 1)
  | .paymentFailed, loaded, stored =>
      stored.planId = loaded.planId ∧ stored.planVersion = loaded.planVersion

/-- Versions grow, and a version belongs to one plan. -/
def Standing.Precedes (s s' : Standing) : Prop :=
  s.planVersion ≤ s'.planVersion ∧ (s.planVersion = s'.planVersion → s.planId = s'.planId)

/-- Two standings are equal if plan, version and status are. -/
theorem Standing.ext_iff {s s' : Standing} :
    s = s' ↔ s.planId = s'.planId ∧ s.planVersion = s'.planVersion ∧ s.status = s'.status := by
  cases s
  cases s'
  simp

/-- A standing precedes itself. -/
theorem Standing.Precedes.refl (s : Standing) : s.Precedes s := ⟨le_refl _, fun _ => rfl⟩

namespace StandingChange

/-- A change leads to a later standing. -/
theorem precedes_apply {s s' : Standing} (h : s.Precedes s') (c : StandingChange) :
    s.Precedes (c.apply s') := by
  obtain ⟨hle, hsame⟩ := h
  cases c with
  | paymentFailed => exact ⟨hle, hsame⟩
  | plan planId =>
    by_cases heq : s'.planId = planId
    · rw [apply_plan_of_eq heq]
      exact ⟨hle, hsame⟩
    · rw [apply_plan_of_ne heq]
      refine ⟨?_, fun hversion => ?_⟩
      · show s.planVersion ≤ s'.planVersion + 1
        omega
      · change s.planVersion = s'.planVersion + 1 at hversion
        omega

/-- A change makes the same of the loaded standing as of a later one exactly if it finds there what was
loaded. -/
theorem apply_eq_iff {c : StandingChange} {loaded stored : Standing} (h : loaded.Precedes stored) :
    c.apply loaded = c.apply stored ↔ c.Finds loaded stored := by
  obtain ⟨hle, hsame⟩ := h
  cases c with
  | paymentFailed =>
    simp only [apply, Finds, Standing.ext_iff]
    exact ⟨fun h => ⟨h.1.symm, h.2.1.symm⟩, fun h => ⟨h.1.symm, h.2.symm, trivial⟩⟩
  | plan planId =>
    by_cases hl : loaded.planId = planId <;> by_cases hs : stored.planId = planId
    · rw [apply_plan_of_eq hl, apply_plan_of_eq hs, Standing.ext_iff, Finds, hl, hs]
      grind
    · rw [apply_plan_of_eq hl, apply_plan_of_ne hs, Standing.ext_iff, Finds]
      grind
    · rw [apply_plan_of_ne hl, apply_plan_of_eq hs, Standing.ext_iff, Finds]
      grind
    · rw [apply_plan_of_ne hl, apply_plan_of_ne hs, Standing.ext_iff, Finds]
      grind

end StandingChange

/-! ## Saves

A save writes the whole copy. It loses what has changed since the copy was loaded.
-/

section

variable {plans : List PlanRow} {t₀ : SubscriptionTable} {asked : SubscriptionRequest → Prop} {ι : Type}
  [DecidableEq ι] {w : SubscriptionWorld ι}

/-- A client that saves finds what it has loaded. -/
def FindsLoaded (w : SubscriptionWorld ι) (turn : ι × SubscriptionTurn) (_ : SubscriptionWorld ι) : Prop :=
  match turn with
  | (i, .call _ _) => ∀ before change s, w.phases i = .changed before change s →
      ∃ stored, w.standing before.tenantId = some stored ∧ change.Finds before.standing stored
  | _ => True

/-- What clients have loaded is older than what is stored. -/
def CopiesPrecede (w : SubscriptionWorld ι) : Prop :=
  ∀ i s stored, (w.phases i).copy = some s → w.standing s.tenantId = some stored →
    s.standing.Precedes stored

/-- A step that saves nothing. -/
structure SavesNothing (w w' : SubscriptionWorld ι) : Prop where
  standing : w'.standing = w.standing
  exact : w'.exact = w.exact
  copies : ∀ i s, (w'.phases i).copy = some s →
    (w.phases i).copy = some s ∨ findByTenantId w.billing.subscriptions s.tenantId = some s

/-- A step that saves a changed copy. -/
structure SavesCopy (w : SubscriptionWorld ι) (i : ι) (before : Subscription) (change : StandingChange)
    (w' : SubscriptionWorld ι) : Prop where
  stored : ∃ stored, w.standing before.tenantId = some stored
  standing : ∀ k, w'.standing k =
    if k = before.tenantId then some (change.apply before.standing) else w.standing k
  exact : w'.exact =
    Function.update w.exact before.tenantId ((w.exact before.tenantId).map change.apply)
  copies : ∀ j s, (w'.phases j).copy = some s → (w.phases j).copy = some s

omit [DecidableEq ι] in
/-- Where nothing happens, nothing is saved. -/
theorem SavesNothing.refl (w : SubscriptionWorld ι) : SavesNothing w w :=
  ⟨rfl, rfl, fun _ _ h => .inl h⟩

/-- A client moves on without saving, and its copy is the one it had or the one that is stored. -/
theorem savesNothing_move (w : SubscriptionWorld ι) (i : ι) {p : SubscriptionPhase}
    (hp : ∀ s, p.copy = some s →
      (w.phases i).copy = some s ∨ findByTenantId w.billing.subscriptions s.tenantId = some s) :
    SavesNothing w (w.move i p) := by
  refine ⟨rfl, rfl, fun j s hs => ?_⟩
  change (Function.update w.phases i p j).copy = some s at hs
  by_cases hj : j = i
  · rw [hj, Function.update_self] at hs
    rw [hj]
    exact hp s hs
  · rw [Function.update_of_ne hj] at hs
    exact .inl hs

/-- A client may give its copy up. -/
theorem savesNothing_idle (w : SubscriptionWorld ι) (i : ι) : SavesNothing w (w.move i .idle) :=
  savesNothing_move w i fun s hs => by cases hs

/-- A client that has not changed a copy saves nothing. -/
theorem savesNothing_call (w : SubscriptionWorld ι) {i : ι}
    (hi : ∀ before change s, w.phases i ≠ .changed before change s) (now : ℤ) (newId : String) :
    SavesNothing w (w.call plans i now newId) := by
  have hidle := savesNothing_idle w i
  unfold SubscriptionWorld.call
  rcases hphase : w.phases i with _ | (⟨tenantId, requestTenantId, planId⟩ | event) | ⟨s, planId⟩ |
    ⟨before, change, s⟩ | events <;> dsimp only
  · exact .refl w
  · by_cases htenant : tenantId = requestTenantId
    · rw [if_pos htenant]
      rcases hload : findByTenantId w.billing.subscriptions tenantId with _ | s
      · exact hidle
      · -- what has been loaded is what the table has at this moment
        refine savesNothing_move w i fun s' hs' => .inr ?_
        obtain rfl := Option.some.inj hs'
        rw [tenantId_of_findByTenantId hload, hload]
    · rw [if_neg htenant]
      exact hidle
  · rcases StripeAdapter.failedCustomer event with _ | customer
    · exact hidle
    · cases customer with
      | str id =>
        dsimp only
        rcases hload : findByTenantId w.billing.subscriptions id with _ | s
        · exact hidle
        · refine savesNothing_move w i fun s' hs' => .inr ?_
          obtain rfl := Option.some.inj hs'
          rw [tenantId_of_findByTenantId hload, hload]
      | _ => exact hidle
  · rcases findPlan plans planId with _ | p
    · exact hidle
    · refine savesNothing_move w i fun s' hs' => .inl ?_
      rw [hphase]
      exact hs'
  · exact absurd hphase (hi before change s)
  · exact ⟨rfl, rfl, hidle.copies⟩

/-- A client that has changed a copy saves it. -/
theorem SubscriptionInv.savesCopy (hw : SubscriptionInv plans t₀ asked w) {i : ι} {before s : Subscription}
    {change : StandingChange} (hi : w.phases i = .changed before change s) (now : ℤ) (newId : String) :
    SavesCopy w i before change (w.call plans i now newId) := by
  have hphase := hw.phases i
  rw [hi] at hphase
  obtain ⟨hbefore, hs⟩ := hphase
  obtain ⟨t, ht, -, hstanding⟩ := hw.save hbefore hs now newId
  have hcall : w.call plans i now newId =
      w.commit i (SubscriptionWorld.afterSave s change) t before.tenantId change := by
    unfold SubscriptionWorld.call
    rw [hi]
    dsimp only
    rw [ht]
  rw [hcall]
  refine ⟨?_, hstanding, rfl, fun j s' hs' => ?_⟩
  · -- the row was there at the start, and rows never disappear
    obtain ⟨r₀, hr₀, -⟩ := hbefore.row
    have hfixed := hw.fixed before.tenantId
    rw [hr₀, Option.map_some, Option.map_eq_some_iff] at hfixed
    obtain ⟨r, hr, -⟩ := hfixed
    refine ⟨r.load.standing, ?_⟩
    unfold SubscriptionWorld.standing standingIn findByTenantId
    rw [hr]
    rfl
  · change (Function.update w.phases i _ j).copy = some s' at hs'
    -- the request that has saved holds no copy any more
    by_cases hj : j = i
    · rw [hj, Function.update_self] at hs'
      cases change with
      | plan planId => cases hs'
      | paymentFailed => cases hs'
    · rwa [Function.update_of_ne hj] at hs'

/-- A step saves a changed copy, or nothing. -/
theorem SubscriptionInv.step_cases (hw : SubscriptionInv plans t₀ asked w) (turn : ι × SubscriptionTurn) :
    (SavesNothing w (w.step plans turn) ∧ FindsLoaded w turn (w.step plans turn)) ∨
      ∃ i now newId before change s, turn = (i, .call now newId) ∧
        w.phases i = .changed before change s ∧ SavesCopy w i before change (w.step plans turn) := by
  obtain ⟨i, turn⟩ := turn
  rcases turn with request | ⟨now, newId⟩ | _
  · refine .inl ⟨?_, trivial⟩
    unfold SubscriptionWorld.step
    rcases hi : w.phases i with _ | _ | _ | _ | _ <;> simp only [hi]
    · exact savesNothing_move w i fun s hs => by cases hs
    all_goals exact .refl w
  · by_cases hi : ∃ before change s, w.phases i = .changed before change s
    · obtain ⟨before, change, s, hi⟩ := hi
      exact .inr ⟨i, now, newId, before, change, s, rfl, hi, hw.savesCopy hi now newId⟩
    · push Not at hi
      exact .inl ⟨savesNothing_call w hi now newId, fun before change s h => absurd h (hi before change s)⟩
  · exact .inl ⟨savesNothing_idle w i, trivial⟩

omit [DecidableEq ι] in
/-- While nothing is saved, the copies stay behind what is stored. -/
theorem CopiesPrecede.savesNothing (hw : CopiesPrecede w) {w' : SubscriptionWorld ι}
    (h : SavesNothing w w') : CopiesPrecede w' := by
  intro i s stored hs hstored
  rw [h.standing] at hstored
  rcases h.copies i s hs with hs | hs
  · exact hw i s stored hs hstored
  · -- what has just been loaded is what is stored
    unfold SubscriptionWorld.standing standingIn at hstored
    rw [hs, Option.map_some, Option.some.injEq] at hstored
    rw [← hstored]
    exact .refl _

omit [DecidableEq ι] in
/-- What a save leaves is exact if the client finds what it has loaded, and only then. -/
theorem SavesCopy.exact_iff (hw : CopiesPrecede w) (hexact : w.standing = w.exact) {i : ι}
    {before s : Subscription} {change : StandingChange} (hi : w.phases i = .changed before change s)
    {w' : SubscriptionWorld ι} (h : SavesCopy w i before change w') :
    w'.standing = w'.exact ↔
      ∃ stored, w.standing before.tenantId = some stored ∧ change.Finds before.standing stored := by
  obtain ⟨stored, hstored⟩ := h.stored
  have hprecedes : before.standing.Precedes stored := hw i before stored (by rw [hi]; rfl) hstored
  have hsame : w'.standing = w'.exact ↔ change.apply before.standing = change.apply stored := by
    rw [h.exact, ← hexact, hstored, funext_iff]
    constructor
    · intro h'
      have htenant := h' before.tenantId
      rw [h.standing, if_pos rfl, Function.update_self, Option.map_some, Option.some.injEq] at htenant
      exact htenant
    · intro h' k
      rw [h.standing]
      by_cases hk : k = before.tenantId
      · rw [if_pos hk, hk, Function.update_self, Option.map_some, h']
      · rw [if_neg hk, Function.update_of_ne hk]
  rw [hsame, StandingChange.apply_eq_iff hprecedes, hstored]
  simp

omit [DecidableEq ι] in
/-- An exact save keeps the order of what is loaded and what is stored. -/
theorem CopiesPrecede.savesCopy (hw : CopiesPrecede w) {i : ι} {before : Subscription}
    {change : StandingChange} {w' : SubscriptionWorld ι} (h : SavesCopy w i before change w')
    (hexact : w.standing = w.exact) (hexact' : w'.standing = w'.exact) : CopiesPrecede w' := by
  intro j s stored hs hstored
  have hs := h.copies j s hs
  by_cases hk : s.tenantId = before.tenantId
  · rw [hexact', h.exact, hk, Function.update_self, ← hexact, Option.map_eq_some_iff] at hstored
    obtain ⟨old, hold, rfl⟩ := hstored
    exact StandingChange.precedes_apply (hw j s old hs (by rw [hk, hold])) change
  · rw [h.standing, if_neg hk] at hstored
    exact hw j s stored hs hstored

/-- Nothing is ever lost in a run, and the standing of every tenant is what the changes make of it one
after another, exactly if every client that saves finds what it has loaded. -/
theorem standings_exact_iff (plans : List PlanRow) (t₀ : SubscriptionTable)
    (turns : List (ι × SubscriptionTurn)) :
    let w₀ : SubscriptionWorld ι := SubscriptionWorld.start t₀
    Along (fun _ _ w => w.standing = w.exact) w₀ (exec (SubscriptionWorld.step plans) w₀ turns) ↔
      Along FindsLoaded w₀ (exec (SubscriptionWorld.step plans) w₀ turns) := by
  intro w₀
  refine along_iff (I := fun w => SubscriptionInv plans t₀ (fun _ => True) w ∧ CopiesPrecede w ∧
    w.standing = w.exact) ?_ ?_ (along_exec _ _ turns) ⟨subscriptionInv_start t₀, ?_, rfl⟩
  · rintro w turn w' ⟨hw, hcopies, hexact⟩ rfl
    rcases hw.step_cases turn with ⟨hnothing, hfinds⟩ | ⟨i, now, newId, before, change, s, rfl, hi, hsaves⟩
    · refine iff_of_true ?_ hfinds
      rw [hnothing.standing, hnothing.exact, hexact]
    · rw [hsaves.exact_iff hcopies hexact hi]
      constructor
      · intro h before' change' s' hi'
        obtain ⟨rfl, rfl, rfl⟩ := SubscriptionPhase.changed.inj (hi.symm.trans hi')
        exact h
      · intro h
        exact h before change s hi
  · rintro w turn w' ⟨hw, hcopies, hexact⟩ rfl hfinds
    refine ⟨hw.step fun _ _ => trivial, ?_⟩
    rcases hw.step_cases turn with ⟨hnothing, -⟩ | ⟨i, now, newId, before, change, s, rfl, hi, hsaves⟩
    · refine ⟨hcopies.savesNothing hnothing, ?_⟩
      rw [hnothing.standing, hnothing.exact, hexact]
    · have hexact' := (hsaves.exact_iff hcopies hexact hi).mpr (hfinds before change s hi)
      exact ⟨hcopies.savesCopy hsaves hexact hexact', hexact'⟩
  · rintro i s stored hs
    cases hs

end

/-- A payment that fails while the plan is being changed is forgotten when the plan is saved. -/
example :
    let t : SubscriptionTable :=
      ⟨[⟨"sub-1", "tenant-1", "free", .active, 1, none, none, none, 0, 0⟩], by simp, by simp⟩
    let plans : List PlanRow := [⟨"team", "Team", "price-2", 5, "tier-2-cheap", .obj [], true, 0, 0⟩]
    let event : Js.Value := .obj [("type", .str "invoice.payment_failed"),
      ("data", .obj [("object", .obj [("customer", .str "tenant-1")])])]
    let turns : List (Bool × SubscriptionTurn) :=
      [(true, .request (.changePlan "tenant-1" "tenant-1" "team")), (true, .call 1 "new-1"),
        (false, .request (.stripeWebhook event)),
        (false, .call 2 "new-2"), (false, .call 3 "new-3"), (true, .call 4 "new-4"), (true, .call 5 "new-5")]
    let w := turns.foldl (SubscriptionWorld.step plans) (SubscriptionWorld.start t)
    w.standing "tenant-1" = some ⟨"team", 2, .active⟩ ∧
        w.exact "tenant-1" = some ⟨"team", 2, .past_due⟩ := by
  decide +kernel

end EmailTriage.TenantSubscription
