import EmailTriage.Database.TenantContext

/-!
# Tenants apart

For the role `app_user`, and as long as `setTenantContext` is not called, the calls of a tenant go in
any run as they would if the steps of everyone else were deleted from it.

Constraints hold over the rows of all tenants, and the hypotheses are about these. A primary key that
another tenant has is refused; keys are drawn at random, and no two tenants draw the same one. A
foreign key for a row of another tenant is met or not, whatever the policy shows; no call inserts a row
that refers to another tenant's (`RefersToOwn`).
-/

namespace EmailTriage.Database

open Db

variable {κ ι Row Id α : Type} [Constrained Row Id] [HasOwner Row String]

/-- The tenant in whose name a step is made; a statement outside a transaction is made in nobody's. -/
def PoolEvent.tenant (calls : ι → TenantCall Row α) : PoolEvent κ ι Row → String
  | .begin c _ | .configure c | .execute c _ | .commit c | .rollback c | .disconnect c _ =>
    (calls c).tenantId
  | .query .. | .setTenantContext .. | .renew _ => default

/-- The steps of an application that does not call `setTenantContext`, with primary keys that tell the
tenants apart. -/
def PoolEvent.Apart (calls : ι → TenantCall Row α) (whose : Id → String)
    (event : PoolEvent κ ι Row) : Prop :=
  match event with
  | .execute _ id | .query _ _ id => whose id = event.tenant calls
  | .setTenantContext .. => False
  | _ => True

/-- No call inserts a row that refers to a row of another tenant. -/
def RefersToOwn (calls : ι → TenantCall Row α) (whose : Id → String) : Prop :=
  ∀ c, (calls c).fn.RefersTo fun id => whose id = (calls c).tenantId

/-- A transaction keeps to its tenant: in the primary keys it has drawn, and in what its statements
refer to. -/
structure OwnTransaction (whose : Id → String) (tenantId : String) (x : Transaction κ Row α) : Prop where
  ids : ∀ e ∈ x.executed, whose e.id = tenantId
  executed : ∀ e ∈ x.executed, e.statement.RefersTo fun id => whose id = tenantId
  rest : x.rest.RefersTo fun id => whose id = tenantId

/-- What holds of a pool in such a run. -/
structure ApartInv (calls : ι → TenantCall Row α) (whose : Id → String) (w : Pool κ ι Row α) : Prop where
  pool : PoolInv .app_user calls (fun _ => none) w
  rows : Attributed whose w.rows
  own : ∀ c x, w.calls c = .running x → OwnTransaction whose (calls c).tenantId x

/-- Two pools in which a tenant has the same rows and the same calls, the second of them with no other
calls. -/
structure SameFor (calls : ι → TenantCall Row α) (tenantId : String) (w v : Pool κ ι Row α) : Prop where
  rows : owned tenantId w.rows = owned tenantId v.rows
  mine : ∀ c, (calls c).tenantId = tenantId → w.calls c = v.calls c
  others : ∀ c, (calls c).tenantId ≠ tenantId → v.calls c = .waiting

section

variable [DecidableEq κ] [DecidableEq ι] {calls : ι → TenantCall Row α} {whose : Id → String}
  {w v w' : Pool κ ι Row α} {c : ι} {tenantId : String}

omit [DecidableEq κ] [DecidableEq ι] in
/-- What a call has executed it has executed as its tenant. -/
theorem ApartInv.executedBy (hw : ApartInv calls whose w) {x : Transaction κ Row α}
    (hx : w.calls c = .running x) : ExecutedBy whose (calls c).tenantId x.executed := by
  intro e he
  have hpolicy := hw.pool.executed c x hx e he
  exact ⟨(Option.some.inj hpolicy).symm, (hw.own c x hx).ids e he, (hw.own c x hx).executed e he⟩

/-- A call that is moved on within its own transaction leaves those of the others alone. -/
theorem ApartInv.own_put (hw : ApartInv calls whose w) {state : CallState κ Row α}
    (hown : ∀ x, state = .running x → OwnTransaction whose (calls c).tenantId x) (k : κ)
    (setting : Setting String) : ∀ c' x, (w.put c state k setting).calls c' = .running x →
      OwnTransaction whose (calls c').tenantId x := by
  intro c' x hx
  unfold Pool.put at hx
  dsimp only at hx
  rw [Function.update_apply] at hx
  split at hx
  · next hc => exact hc ▸ hown x hx
  · exact hw.own c' x hx

omit [DecidableEq κ] [DecidableEq ι] in
/-- A statement outside a transaction is refused, or executed in the name of nobody. -/
theorem ApartInv.query (hw : ApartInv calls whose w) {k : κ} (hfree : (w.settings k).change = none)
    (s : Statement Row) (id : Id) : w.query .app_user k s id = w.rows ∨
      ∃ answer, s.exec (ofOwner default) id w.rows = some (answer, w.query .app_user k s id) := by
  have hcurrent : (w.settings k).current = (w.settings k).value := by
    unfold Setting.current
    rw [hfree]
  unfold Pool.query
  rw [hcurrent]
  rcases hw.pool.value k with hvalue | ⟨-, hvalue⟩
  · rw [hvalue]
    exact .inl rfl
  · rw [hvalue]
    rcases hexec : s.exec (ofOwner default) id w.rows with _ | ⟨answer, rows⟩
    · refine .inl ?_
      simp only [Role.policy, Option.map_some, Option.bind_some, hexec]
    · refine .inr ⟨answer, ?_⟩
      simp only [Role.policy, Option.map_some, Option.bind_some, hexec]

/-- A step keeps the invariant. -/
theorem ApartInv.step (hcalls : RefersToOwn calls whose) (hw : ApartInv calls whose w)
    {event : PoolEvent κ ι Row} (hapart : event.Apart calls whose)
    (h : w.step .app_user calls event = some w') : ApartInv calls whose w' := by
  have hpool : PoolInv .app_user calls (fun _ => none) w' := by
    have hstep := hw.pool.step h
    -- no step sets the tenant of a session, so that every session is without one
    have hlast : (fun k => lastTenant k none event) = fun _ => none := by
      funext k
      cases event with
      | setTenantContext => exact hapart.elim
      | disconnect => exact ite_self none
      | renew => exact ite_self none
      | _ => rfl
    exact hlast ▸ hstep
  cases event with
  | begin c k =>
    simp only [Pool.step] at h
    split at h
    · cases h
      refine ⟨hpool, hw.rows, hw.own_put (fun x hx => ?_) k _⟩
      cases hx
      exact ⟨fun e he => (List.not_mem_nil he).elim, fun e he => (List.not_mem_nil he).elim, hcalls c⟩
    · cases h
  | configure c =>
    simp only [Pool.step] at h
    split at h
    · next k executed rest hx =>
      cases h
      refine ⟨hpool, hw.rows, hw.own_put (fun x hx' => ?_) k _⟩
      cases hx'
      have hown := hw.own c _ hx
      exact ⟨hown.ids, hown.executed, hown.rest⟩
    · cases h
  | execute c id =>
    simp only [Pool.step] at h
    split at h
    · next k executed s next hx =>
      split at h
      · cases h
        exact ⟨hpool, hw.rows, hw.own_put (fun x hx => by cases hx) k _⟩
      · next e a hanswer =>
        cases h
        refine ⟨hpool, hw.rows, hw.own_put (fun x hx' => ?_) k _⟩
        cases hx'
        have hown := hw.own c _ hx
        obtain ⟨policy, -, hx'⟩ := Option.bind_eq_some_iff.mp hanswer
        obtain ⟨y, -, hy⟩ := Option.map_eq_some_iff.mp hx'
        rw [← (Prod.mk.inj hy).1]
        -- the statement joins those that were executed, with a key that this tenant has drawn
        refine ⟨fun e' he' => ?_, fun e' he' => ?_, hown.rest.2 a⟩
        · rcases List.mem_append.mp he' with he' | he'
          · exact hown.ids e' he'
          · rw [List.mem_singleton.mp he']
            exact hapart
        · rcases List.mem_append.mp he' with he' | he'
          · exact hown.executed e' he'
          · rw [List.mem_singleton.mp he']
            exact hown.rest.1
    · cases h
  | commit c =>
    simp only [Pool.step] at h
    split at h
    · next k executed a hx =>
      split at h
      · cases h
        exact ⟨hpool, hw.rows, hw.own_put (fun x hx => by cases hx) k _⟩
      · next rows hrows =>
        cases h
        exact ⟨hpool, attributed_replay (hw.executedBy hx) hw.rows hrows,
          hw.own_put (fun x hx => by cases hx) k (w.settings k).commit⟩
    · cases h
  | rollback c =>
    simp only [Pool.step] at h
    split at h
    · cases h
      exact ⟨hpool, hw.rows, hw.own_put (fun x hx => by cases hx) _ _⟩
    · cases h
  | disconnect c k =>
    simp only [Pool.step] at h
    split at h
    · split at h
      · cases h
        exact ⟨hpool, hw.rows, hw.own_put (fun x hx => by cases hx) _ _⟩
      · cases h
    · cases h
  | query k s id =>
    simp only [Pool.step] at h
    split at h
    · next hfree =>
      cases h
      refine ⟨hpool, ?_, hw.own⟩
      rcases hw.query hfree s id with hrows | ⟨answer, hexec⟩
      · exact hrows ▸ hw.rows
      · exact Statement.attributed_exec hw.rows hapart hexec
    · cases h
  | setTenantContext k tenantId => exact hapart.elim
  | renew k =>
    simp only [Pool.step] at h
    split at h
    · cases h
      exact ⟨hpool, hw.rows, hw.own⟩
    · cases h

/-! ## Two runs

The run with all calls is compared with the run of one tenant's calls alone. A step of the tenant is taken
in both, a step of another tenant in one, and the tenant's rows and answers stay the same.
-/

omit [HasOwner Row String] in
/-- A call is in the state it was moved to, and the others where they were. -/
theorem Pool.calls_put (w : Pool κ ι Row α) (c c' : ι) (state : CallState κ Row α) (k : κ)
    (setting : Setting String) : (w.put c state k setting).calls c' = if c' = c then state else w.calls c' :=
  Function.update_apply w.calls c state c'

/-- A call of the tenant is moved on alike in both runs. -/
theorem SameFor.put (hs : SameFor calls tenantId w v) (hc : (calls c).tenantId = tenantId)
    (state : CallState κ Row α) (k : κ) (setting setting' : Setting String) :
    SameFor calls tenantId (w.put c state k setting) (v.put c state k setting') := by
  refine ⟨hs.rows, fun c' hc' => ?_, fun c' hc' => ?_⟩
  · rw [Pool.calls_put, Pool.calls_put, hs.mine c' hc']
  · rw [Pool.calls_put, if_neg]
    · exact hs.others c' hc'
    · rintro rfl
      exact hc' hc

/-- A call of another tenant may be moved on in one run only. -/
theorem SameFor.put_other (hs : SameFor calls tenantId w v) (hc : (calls c).tenantId ≠ tenantId)
    (state : CallState κ Row α) (k : κ) (setting : Setting String) :
    SameFor calls tenantId (w.put c state k setting) v := by
  refine ⟨hs.rows, fun c' hc' => ?_, hs.others⟩
  rw [Pool.calls_put, if_neg]
  · exact hs.mine c' hc'
  · rintro rfl
    exact hc hc'

omit [DecidableEq κ] [DecidableEq ι] in
/-- A connection that no transaction holds is free without the other calls, too. -/
theorem SameFor.free (hs : SameFor calls tenantId w v) (hw : ApartInv calls whose w)
    (hv : ApartInv calls whose v) {k : κ} (hfree : (w.settings k).change = none) :
    (v.settings k).change = none := by
  by_contra hne
  obtain ⟨c, x, hx, rfl⟩ := hv.pool.held k hne
  have hc : (calls c).tenantId = tenantId := by
    by_contra hc
    rw [hs.others c hc] at hx
    cases hx
  rw [← hs.mine c hc] at hx
  rw [hw.pool.running c x hx] at hfree
  cases hfree

omit [DecidableEq κ] [DecidableEq ι] in
/-- A statement of the tenant answers the same. -/
theorem SameFor.answer [Unshared Row] (hs : SameFor calls tenantId w v) (hw : ApartInv calls whose w)
    (hv : ApartInv calls whose v) (hc : (calls c).tenantId = tenantId) {x : Transaction κ Row α}
    (hx : w.calls c = .running x) (hconfigured : x.configured = true) {id : Id} (hid : whose id = tenantId)
    {s : Statement Row} (hs' : s.RefersTo fun id => whose id = tenantId) :
    w.answer .app_user x.connection x.executed s id = v.answer .app_user x.connection x.executed s id := by
  subst hc
  have hx' : v.calls c = .running x := (hs.mine c rfl).symm.trans hx
  unfold Pool.answer
  rw [hw.pool.current hx hconfigured, hv.pool.current hx' hconfigured]
  have hanswers := answer_congr (hw.executedBy hx) hw.rows hv.rows hs.rows hid hs'
  have hpair := congrArg
      (Option.map fun a => ((⟨ofOwner (calls c).tenantId, s, id⟩ : Executed Row), a)) hanswers
  rw [Option.map_map, Option.map_map] at hpair
  exact hpair

/-- A step of the tenant can be made without the others, and does the same. -/
theorem SameFor.step [Unshared Row] (hs : SameFor calls tenantId w v) (hw : ApartInv calls whose w)
    (hv : ApartInv calls whose v) (htenant : tenantId ≠ default) {event : PoolEvent κ ι Row}
    (hapart : event.Apart calls whose) (hmine : event.tenant calls = tenantId)
    (h : w.step .app_user calls event = some w') :
    ∃ v', v.step .app_user calls event = some v' ∧ SameFor calls tenantId w' v' := by
  cases event with
  | begin c k =>
    simp only [Pool.step] at h ⊢
    split at h
    · next hwaiting hfree =>
      cases h
      rw [← hs.mine c hmine, hwaiting, hs.free hw hv hfree]
      exact ⟨_, rfl, hs.put hmine _ _ _ _⟩
    · cases h
  | configure c =>
    simp only [Pool.step] at h ⊢
    split at h
    · next k executed rest hx =>
      cases h
      rw [← hs.mine c hmine, hx]
      exact ⟨_, rfl, hs.put hmine _ _ _ _⟩
    · cases h
  | execute c id =>
    simp only [Pool.step] at h ⊢
    split at h
    · next k executed s next hx =>
      have hrefers := (hw.own c _ hx).rest.1
      have hmine' : (calls c).tenantId = tenantId := hmine
      rw [hmine'] at hrefers
      -- the answer is the same in both runs, and decides how both go on
      have hanswer := hs.answer hw hv hmine hx rfl (hapart.trans hmine) hrefers
      dsimp only at hanswer
      rw [← hs.mine c hmine, hx]
      dsimp only
      rw [← hanswer]
      split at h
      · cases h
        exact ⟨_, rfl, hs.put hmine _ _ _ _⟩
      · cases h
        exact ⟨_, rfl, hs.put hmine _ _ _ _⟩
    · cases h
  | commit c =>
    simp only [Pool.step] at h ⊢
    split at h
    · next k executed a hx =>
      have hmine' : (calls c).tenantId = tenantId := hmine
      -- the statements are replayed over the rows of everybody, and come to the same for the tenant
      have hrows := replay_congr (hmine' ▸ hw.executedBy hx) hw.rows hv.rows hs.rows
      rw [← hs.mine c hmine, hx]
      dsimp only at hrows ⊢
      split at h
      · next hnone =>
        cases h
        rw [hnone] at hrows
        rw [Option.map_eq_none_iff.mp hrows.symm]
        exact ⟨_, rfl, hs.put hmine _ _ _ _⟩
      · next rows hsome =>
        cases h
        rw [hsome] at hrows
        obtain ⟨rows', hsome', hsame⟩ := Option.map_eq_some_iff.mp hrows.symm
        rw [hsome']
        have hput := hs.put hmine (.returned a) k (w.settings k).commit (v.settings k).commit
        exact ⟨_, rfl, hsame.symm, hput.mine, hput.others⟩
    · cases h
  | rollback c =>
    simp only [Pool.step] at h ⊢
    split at h
    · next x hx =>
      cases h
      rw [← hs.mine c hmine, hx]
      exact ⟨_, rfl, hs.put hmine _ _ _ _⟩
    · cases h
  | disconnect c k =>
    simp only [Pool.step] at h ⊢
    split at h
    · next x hx =>
      rw [← hs.mine c hmine, hx]
      dsimp only
      split at h
      · next hk =>
        cases h
        rw [if_pos hk]
        exact ⟨_, rfl, hs.put hmine _ _ _ _⟩
      · cases h
    · cases h
  | query => exact absurd hmine.symm htenant
  | setTenantContext => exact hapart.elim
  | renew => exact absurd hmine.symm htenant

/-- A step of anyone else is not noticed. -/
theorem SameFor.skip (hs : SameFor calls tenantId w v) (hw : ApartInv calls whose w)
    (htenant : tenantId ≠ default) {event : PoolEvent κ ι Row} (hapart : event.Apart calls whose)
    (hother : event.tenant calls ≠ tenantId) (h : w.step .app_user calls event = some w') :
    SameFor calls tenantId w' v := by
  cases event with
  | begin c k =>
    simp only [Pool.step] at h
    split at h
    · cases h
      exact hs.put_other hother _ _ _
    · cases h
  | configure c =>
    simp only [Pool.step] at h
    split at h
    · cases h
      exact hs.put_other hother _ _ _
    · cases h
  | execute c id =>
    simp only [Pool.step] at h
    split at h
    · split at h
      · cases h
        exact hs.put_other hother _ _ _
      · cases h
        exact hs.put_other hother _ _ _
    · cases h
  | commit c =>
    simp only [Pool.step] at h
    split at h
    · next k executed a hx =>
      split at h
      · cases h
        exact hs.put_other hother _ _ _
      · next rows hrows =>
        cases h
        -- the statements of another tenant leave the rows of this one as they are
        have hput := hs.put_other hother (.returned a) k (w.settings k).commit
        exact ⟨(owned_replay_of_ne (hw.executedBy hx) hrows hother.symm).trans hs.rows,
          hput.mine, hput.others⟩
    · cases h
  | rollback c =>
    simp only [Pool.step] at h
    split at h
    · cases h
      exact hs.put_other hother _ _ _
    · cases h
  | disconnect c k =>
    simp only [Pool.step] at h
    split at h
    · split at h
      · cases h
        exact hs.put_other hother _ _ _
      · cases h
    · cases h
  | query k s id =>
    simp only [Pool.step] at h
    split at h
    · next hfree =>
      cases h
      refine ⟨?_, hs.mine, hs.others⟩
      -- outside a transaction a statement is refused, or sees the rows of nobody
      rcases hw.query hfree s id with hrows | ⟨answer, hexec⟩
      · show owned tenantId (w.query .app_user k s id) = _
        rw [hrows]
        exact hs.rows
      · exact (Statement.owned_exec_of_ne hexec htenant).trans hs.rows
    · cases h
  | setTenantContext => exact hapart.elim
  | renew k =>
    simp only [Pool.step] at h
    split at h
    · cases h
      exact ⟨hs.rows, hs.mine, hs.others⟩
    · cases h

/-- The steps of a tenant. -/
def stepsOf (calls : ι → TenantCall Row α) (tenantId : String) (events : List (PoolEvent κ ι Row)) :
    List (PoolEvent κ ι Row) :=
  events.filter fun event => event.tenant calls = tenantId

/-- After any events that keep apart the two runs are the same for the tenant. -/
theorem SameFor.run [Unshared Row] (hcalls : RefersToOwn calls whose) (htenant : tenantId ≠ default)
    {events : List (PoolEvent κ ι Row)}
    (hapart : ∀ event ∈ events, event.Apart calls whose) (hs : SameFor calls tenantId w v)
    (hw : ApartInv calls whose w) (hv : ApartInv calls whose v)
    (h : events.foldlM (Pool.step .app_user calls) w = some w') :
    ∃ v', (stepsOf calls tenantId events).foldlM (Pool.step .app_user calls) v = some v' ∧
      SameFor calls tenantId w' v' := by
  induction events generalizing w v with
  | nil =>
    cases h
    exact ⟨v, rfl, hs⟩
  | cons event events ih =>
    obtain ⟨w₁, hstep, hrest⟩ := Option.bind_eq_some_iff.mp h
    have hevent := hapart event List.mem_cons_self
    have hevents := fun e he => hapart e (List.mem_cons_of_mem event he)
    have hw₁ := hw.step hcalls hevent hstep
    unfold stepsOf
    rw [List.filter_cons]
    by_cases hmine : event.tenant calls = tenantId
    · obtain ⟨v₁, hstep', hs₁⟩ := hs.step hw hv htenant hevent hmine hstep
      obtain ⟨v', hrun, hs'⟩ := ih hevents hs₁ hw₁ (hv.step hcalls hevent hstep') hrest
      refine ⟨v', ?_, hs'⟩
      rw [if_pos (decide_eq_true hmine), List.foldlM_cons, hstep']
      exact hrun
    · rw [if_neg (by simpa using hmine)]
      exact ih hevents (hs.skip hw htenant hevent hmine hstep) hw₁ hv hrest

/-- For the role `app_user`, a run in which nobody calls `setTenantContext` and no call inserts a row
that refers to another tenant's does the same for a tenant as the run of the steps of the tenant alone:
the same calls return the same or fail, and the tenant has the same rows. -/
theorem tenant_isolated [Unshared Row] (calls : ι → TenantCall Row α) (whose : Id → String)
    (hcalls : RefersToOwn calls whose) (rows : List Row)
    (hrows : Attributed whose rows) (events : List (PoolEvent κ ι Row))
    (hapart : ∀ event ∈ events, event.Apart calls whose) (w : Pool κ ι Row α)
    (h : events.foldlM (Pool.step .app_user calls) (.init rows) = some w) (tenantId : String)
    (htenant : tenantId ≠ default) :
    ∃ v : Pool κ ι Row α,
      (stepsOf calls tenantId events).foldlM (Pool.step .app_user calls) (.init rows) = some v ∧
      (∀ c, (calls c).tenantId = tenantId → w.calls c = v.calls c) ∧
      owned tenantId w.rows = owned tenantId v.rows := by
  have hinit : ApartInv calls whose (Pool.init rows : Pool κ ι Row α) :=
    ⟨poolInv_init .app_user calls rows, hrows, fun c x hx => by cases hx⟩
  obtain ⟨v, hrun, hs⟩ :=
      SameFor.run hcalls htenant hapart ⟨rfl, fun _ _ => rfl, fun _ _ => rfl⟩ hinit hinit h
  exact ⟨v, hrun, hs.mine, hs.rows⟩

/-- A connection of the tenant `b`. -/
def connectionOfB : TenantRow :=
  .mailboxConnection (MailboxIngestion.MailboxConnectionRepository.createData "connection"
    { tenantId := "b", mailboxId := "mailbox", platform := "gmail", credentialHandleId := "handle" })

/-- A message that came in over that connection. -/
def messageOfB : MailboxIngestion.IngestedMessageData where
  tenantId := "b"
  messageId := "message"
  mailboxId := "mailbox"
  platformMessageId := "1"
  platform := "gmail"
  normalizedEnvelope :=
    ⟨"message", none, .gmail, "sender@example.com", [], none, none, none, "2026-07-08", none, none,
    none, none, none, none, none, none, none, none⟩
  mailboxConnectionId := some "connection"

/-- A call of the tenant `a` that updates the connection of `b`, and one of `b` that stores its
message. -/
def callsOnB : Bool → TenantCall TenantRow (Option TenantRow)
  | true => ⟨"a", MailboxIngestion.Statements.updateSyncCursor "connection" "other" 0⟩
  | false => ⟨"b", MailboxIngestion.Statements.saveMessage 0 messageOfB []⟩

def callsOnBEvents : List (PoolEvent Bool Bool TenantRow) :=
  [.begin true true, .begin false false, .configure true, .configure false, .execute false "find of b",
    .execute true "id of a", .execute false "id of b", .commit false]

/-- The message of `b` is stored as if the update of `a` had not been tried. -/
theorem tenant_isolated_callsOnB : ∃ w v : Pool Bool Bool TenantRow (Option TenantRow),
    callsOnBEvents.foldlM (Pool.step .app_user callsOnB) (.init [connectionOfB]) = some w ∧
    (stepsOf callsOnB "b" callsOnBEvents).foldlM (Pool.step .app_user callsOnB)
      (.init [connectionOfB]) = some v ∧
    w.calls false = v.calls false ∧ owned "b" w.rows = owned "b" v.rows ∧ (owned "b" w.rows).length = 2 := by
  let whose (id : String) := if id = "id of a" then "a" else "b"
  have hcalls : RefersToOwn callsOnB whose := by
    rintro (_ | _)
    · refine ⟨trivial, fun existing => ?_⟩
      rcases existing with _ | row
      · -- the only foreign key of the message is for the connection of its tenant
        refine ⟨fun i p hp r hr => ?_, fun _ => trivial⟩
        obtain rfl := List.mem_singleton.mp hp
        cases r with
        | mailboxConnection r =>
          have hid : r.id = "connection" := of_decide_eq_true hr
          show whose r.id = "b"
          rw [hid]
          decide
        | _ => cases hr
      · trivial
    · exact ⟨trivial, fun _ => trivial⟩
  have hrows : Attributed whose [connectionOfB] := by
    intro r hr
    rw [List.mem_singleton.mp hr]
    rfl
  have hapart : ∀ event ∈ callsOnBEvents, event.Apart callsOnB whose := by
    unfold callsOnBEvents
    simp [PoolEvent.Apart, PoolEvent.tenant, whose, callsOnB]
  have hrun : (callsOnBEvents.foldlM (Pool.step .app_user callsOnB) (.init [connectionOfB])).isSome := by
    decide
  have hlength : (callsOnBEvents.foldlM (Pool.step .app_user callsOnB) (.init [connectionOfB])).map
      (fun w => (owned "b" w.rows).length) = some 2 := by
    decide
  rw [← Option.some_get hrun, Option.map_some] at hlength
  obtain ⟨v, hv, hcalls, hrows⟩ := tenant_isolated callsOnB whose hcalls [connectionOfB] hrows callsOnBEvents
    hapart _ (Option.some_get hrun).symm "b" (by decide)
  exact ⟨_, v, (Option.some_get hrun).symm, hv, hcalls false rfl, hrows, Option.some.inj hlength⟩

end

end EmailTriage.Database
