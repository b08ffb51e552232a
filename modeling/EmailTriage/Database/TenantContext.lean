import EmailTriage.Lib.Session
import EmailTriage.Lib.Runs
import EmailTriage.MailboxIngestion.RepositoryStatements
import Mathlib.Logic.Function.Basic

/-!
# The tenant of a connection

`src/database/prisma.service.ts` and `src/database/tenant-transaction.ts` over a pool of connections. A
call of `runInTenantTransaction` holds a connection until its transaction ends; other statements, and
those of `setTenantContext`, are sent over any connection that no transaction holds. The steps of all
of these come in any order, and a connection may be lost and opened again.

A transaction sees its own statements over the rows that are committed, and what it has written is
committed when it ends.

## The shape of the argument

A setting that is local to a transaction hides the one of the session and is gone when the transaction
ends. `PoolInv` says for every connection which of the two is in force: for one that a transaction
holds, the tenant of its call, once it has been configured; for any other one, the tenant that was last
set for its session. An event moves one call and one connection, so `PoolInv.put` is the one lemma
about moving them, and the lemmas for the events are applications of it.
-/

namespace EmailTriage.Database

open Db

/-- The owner of the tables, to which their policies do not apply, and the role of the migrations to
which they do. -/
inductive Role where
  | owner
  | app_user
deriving DecidableEq

section

variable (κ ι Row α : Type) {Id : Type} [Constrained Row Id]

/-- The arguments of a call of `runInTenantTransaction`. -/
structure TenantCall where
  tenantId : String
  fn : Program Row α

/-- A call in its transaction: whether the tenant has been set, what was executed, and what is left. -/
structure Transaction where
  connection : κ
  configured : Bool
  executed : List (Executed Row)
  rest : Program Row α

inductive CallState where
  | waiting
  | running (x : Transaction κ Row α)
  | returned (a : α)
  | failed

/-- The rows that are committed, the setting `row_security_context.tenant_id` of each connection, and the
calls. -/
structure Pool where
  rows : List Row
  settings : κ → Setting String
  calls : ι → CallState κ Row α

inductive PoolEvent where
  /-- A call gets a connection and begins its transaction. -/
  | begin (call : ι) (connection : κ)
  /-- `set_config` in the transaction. -/
  | configure (call : ι)
  /-- The next statement of `fn`, with the primary key it draws. -/
  | execute (call : ι) (id : Id)
  /-- `fn` has returned. -/
  | commit (call : ι)
  /-- A transaction is rolled back. -/
  | rollback (call : ι)
  /-- The connection of a transaction is lost. -/
  | disconnect (call : ι) (connection : κ)
  /-- A statement outside a transaction. -/
  | query (connection : κ) (statement : Statement Row) (id : Id)
  | setTenantContext (connection : κ) (tenantId : String)
  /-- A connection is closed and another one opened. -/
  | renew (connection : κ)

end

variable {κ ι Row Id α : Type} [Constrained Row Id] [HasOwner Row String]

/-- The policy of the tables: a row is shown where `"tenant_id"::text` is
`current_setting('row_security_context.tenant_id')`, and to read a setting that is not known is an
error. -/
def Role.policy (role : Role) (setting : Option String) : Option (Row → Bool) :=
  match role with
  | .owner => some fun _ => true
  | .app_user => setting.map ofOwner

namespace Pool

variable [DecidableEq κ] [DecidableEq ι]

def init (rows : List Row) : Pool κ ι Row α := ⟨rows, fun _ => .new, fun _ => .waiting⟩

/-- The pool with another state of a call and another setting of a connection. -/
def put (w : Pool κ ι Row α) (call : ι) (state : CallState κ Row α) (connection : κ)
    (setting : Setting String) : Pool κ ι Row α where
  rows := w.rows
  settings := Function.update w.settings connection setting
  calls := Function.update w.calls call state

/-- What a statement of a transaction answers. -/
def answer (role : Role) (w : Pool κ ι Row α) (connection : κ) (executed : List (Executed Row))
    (s : Statement Row) (id : Id) : Option (Executed Row × Option Row) :=
  (role.policy (w.settings connection).current).bind fun policy =>
    ((replay executed w.rows).bind fun t => s.exec policy id t).map fun x => (⟨policy, s, id⟩, x.1)

/-- A statement outside a transaction, which changes nothing if it fails. -/
def query (role : Role) (w : Pool κ ι Row α) (connection : κ) (s : Statement Row) (id : Id) : List Row :=
  match (role.policy (w.settings connection).current).bind fun policy => s.exec policy id w.rows with
  | none => w.rows
  | some (_, rows) => rows

/-- A step of the pool, if it can happen. A transaction one of whose statements fails is rolled back. -/
def step (role : Role) (calls : ι → TenantCall Row α) (w : Pool κ ι Row α) :
    PoolEvent κ ι Row → Option (Pool κ ι Row α)
  | .begin call k =>
    match w.calls call, (w.settings k).change with
    | .waiting, none =>
      some (w.put call (.running ⟨k, false, [], (calls call).fn⟩) k (w.settings k).startTransaction)
    | _, _ => none
  | .configure call =>
    match w.calls call with
    | .running ⟨k, false, executed, rest⟩ =>
      some (w.put call (.running ⟨k, true, executed, rest⟩) k
        ((w.settings k).setConfig (calls call).tenantId true))
    | _ => none
  | .execute call id =>
    match w.calls call with
    | .running ⟨k, true, executed, .exec s next⟩ =>
      match w.answer role k executed s id with
      | none => some (w.put call .failed k (w.settings k).rollback)
      | some (e, a) => some (w.put call (.running ⟨k, true, executed ++ [e], next a⟩) k (w.settings k))
    | _ => none
  | .commit call =>
    match w.calls call with
    | .running ⟨k, true, executed, .ret a⟩ =>
      match replay executed w.rows with
      | none => some (w.put call .failed k (w.settings k).rollback)
      | some rows => some { w.put call (.returned a) k (w.settings k).commit with rows }
    | _ => none
  | .rollback call =>
    match w.calls call with
    | .running x => some (w.put call .failed x.connection (w.settings x.connection).rollback)
    | _ => none
  | .disconnect call k =>
    match w.calls call with
    | .running x => if x.connection = k then some (w.put call .failed k .new) else none
    | _ => none
  | .query k s id =>
    match (w.settings k).change with
    | none => some { w with rows := w.query role k s id }
    | some _ => none
  | .setTenantContext k tenantId =>
    match (w.settings k).change with
    | none =>
      some { w with settings := Function.update w.settings k ((w.settings k).setConfig tenantId false) }
    | some _ => none
  | .renew k =>
    match (w.settings k).change with
    | none => some { w with settings := Function.update w.settings k .new }
    | some _ => none

end Pool

/-! ## What the settings are

A connection of the pool remembers what a session has set. The invariant says what each setting is,
between transactions and inside of them, after any events of any calls.
-/

/-- The tenant that was last set for the session of a connection, where a new session has none. -/
def lastTenant (connection : κ) [DecidableEq κ] (last : Option String) : PoolEvent κ ι Row → Option String
  | .setTenantContext k tenantId => if k = connection then some tenantId else last
  | .disconnect _ k => if k = connection then none else last
  | .renew k => if k = connection then none else last
  | _ => last

/-- The tenant set for the session of a connection after some events. -/
def sessionTenant [DecidableEq κ] (connection : κ) (events : List (PoolEvent κ ι Row)) : Option String :=
  events.foldl (lastTenant connection) none

/-- What a connection without a transaction has for a tenant: the one set for its session, and
otherwise none or the empty one, which a transaction leaves. -/
def Remembers (last value : Option String) : Prop := value = last ∨ last = none ∧ value = some default

/-- The connection of a transaction has the tenant of its call, for the transaction only, a connection
without a transaction has the tenant of its session, and what a call has executed it has executed as
its tenant. -/
structure PoolInv (role : Role) (calls : ι → TenantCall Row α) (last : κ → Option String)
    (w : Pool κ ι Row α) : Prop where
  running : ∀ c x, w.calls c = .running x → (w.settings x.connection).change =
    some ⟨none, if x.configured then some (calls c).tenantId else none⟩
  held : ∀ k, (w.settings k).change ≠ none → ∃ c x, w.calls c = .running x ∧ x.connection = k
  exclusive : ∀ c c' x x', w.calls c = .running x → w.calls c' = .running x' →
    x.connection = x'.connection → c = c'
  value : ∀ k, Remembers (last k) (w.settings k).value
  executed : ∀ c x, w.calls c = .running x → ∀ e ∈ x.executed,
    role.policy (some (calls c).tenantId) = some e.policy

section Invariant

variable [DecidableEq κ] [DecidableEq ι] {role : Role} {calls : ι → TenantCall Row α}
  {last : κ → Option String} {w : Pool κ ι Row α} {c : ι} {k : κ}

/-- What a transaction leaves of a setting is remembered as it was. -/
theorem Remembers.left {s t : Setting String} {last : Option String} (h : Remembers last s.value)
    (hleft : s.Left t) : Remembers last t.value := by
  rcases hleft.2 with hvalue | ⟨hnone, hvalue⟩
  · exact hvalue ▸ h
  · rcases h with hlast | ⟨hlast, -⟩
    · exact .inr ⟨hlast.symm.trans hnone, hvalue⟩
    · exact .inr ⟨hlast, hvalue⟩

omit [DecidableEq κ] [DecidableEq ι] in
/-- No connection has run a transaction in the beginning. -/
theorem poolInv_init (role : Role) (calls : ι → TenantCall Row α) (rows : List Row) :
    PoolInv role calls (fun _ => none) (Pool.init rows : Pool κ ι Row α) where
  running c x h := by cases h
  held k h := absurd rfl h
  exclusive c c' x x' h := by cases h
  value k := .inl rfl
  executed c x h := by cases h

/-- A call goes on with the connection it holds, or takes one that no transaction holds, or gives it
back. -/
theorem PoolInv.put (hw : PoolInv role calls last w)
    (hfree : ∀ c' x, w.calls c' = .running x → x.connection = k → c' = c)
    (hholds : ∀ x, w.calls c = .running x → x.connection = k) {state : CallState κ Row α}
    {setting : Setting String}
    (hstate : ∀ x, state = .running x → x.connection = k ∧
      (setting.change = some ⟨none, if x.configured then some (calls c).tenantId else none⟩) ∧
      ∀ e ∈ x.executed, role.policy (some (calls c).tenantId) = some e.policy)
    (hchange : setting.change ≠ none → ∃ x, state = .running x) {last' : κ → Option String}
    (hlast : ∀ k', k' ≠ k → last' k' = last k') (hvalue : Remembers (last' k) setting.value) :
    PoolInv role calls last' (w.put c state k setting) := by
  -- the calls that run afterwards: the one in question, and those that ran on other connections
  have hcases : ∀ c' x, (w.put c state k setting).calls c' = .running x →
      (c' = c ∧ state = .running x) ∨ (c' ≠ c ∧ w.calls c' = .running x ∧ x.connection ≠ k) := by
    intro c' x hx
    unfold Pool.put at hx
    dsimp only at hx
    rw [Function.update_apply] at hx
    split at hx
    · next hc => exact .inl ⟨hc, hx⟩
    · next hc => exact .inr ⟨hc, hx, fun hk => hc (hfree c' x hx hk)⟩
  have hsettings : ∀ k', (w.put c state k setting).settings k' = if k' = k then setting else w.settings k' :=
    fun k' => Function.update_apply w.settings k setting k'
  constructor
  · intro c' x hx
    rw [hsettings]
    rcases hcases c' x hx with ⟨rfl, hrun⟩ | ⟨-, hrun, hk⟩
    · obtain ⟨hk, hset, -⟩ := hstate x hrun
      rw [if_pos hk]
      exact hset
    · rw [if_neg hk]
      exact hw.running c' x hrun
  · intro k' hk'
    rw [hsettings] at hk'
    split at hk'
    · next hk =>
      obtain ⟨x, rfl⟩ := hchange hk'
      refine ⟨c, x, Function.update_self _ _ _, ?_⟩
      rw [(hstate x rfl).1, hk]
    · next hk =>
      obtain ⟨c', x, hx, rfl⟩ := hw.held k' hk'
      have hc : c' ≠ c := by
        rintro rfl
        exact hk (hholds x hx)
      exact ⟨c', x, (Function.update_of_ne hc _ _).trans hx, rfl⟩
  · intro c₁ c₂ x₁ x₂ h₁ h₂ hk
    rcases hcases c₁ x₁ h₁ with ⟨rfl, hx₁⟩ | ⟨-, hx₁, hk₁⟩ <;>
      rcases hcases c₂ x₂ h₂ with ⟨rfl, hx₂⟩ | ⟨-, hx₂, hk₂⟩
    · rfl
    · exact absurd (hk.symm.trans (hstate x₁ hx₁).1) hk₂
    · exact absurd (hk.trans (hstate x₂ hx₂).1) hk₁
    · exact hw.exclusive c₁ c₂ x₁ x₂ hx₁ hx₂ hk
  · intro k'
    rw [hsettings]
    split
    · next hk => exact hk ▸ hvalue
    · next hk => exact hlast k' hk ▸ hw.value k'
  · intro c' x hx
    rcases hcases c' x hx with ⟨rfl, hrun⟩ | ⟨-, hrun, -⟩
    · exact (hstate x hrun).2.2
    · exact hw.executed c' x hrun

/-- A free connection may begin a transaction for a waiting call. -/
theorem PoolInv.begin (hw : PoolInv role calls last w) (hfree : (w.settings k).change = none)
    (hwaiting : w.calls c = .waiting) (rest : Program Row α) :
    PoolInv role calls last (w.put c (.running ⟨k, false, [], rest⟩) k (w.settings k).startTransaction) := by
  refine hw.put (fun c' x hx hk => ?_) (fun x hx => ?_) ?_ (fun _ => ⟨_, rfl⟩) (fun _ _ => rfl) (hw.value k)
  · have hheld := hw.running c' x hx
    rw [hk, hfree] at hheld
    cases hheld
  · rw [hwaiting] at hx
    cases hx
  · rintro x ⟨rfl⟩
    exact ⟨rfl, rfl, fun e he => by cases he⟩

/-- A running call may go on with the setting as its transaction has it. -/
theorem PoolInv.proceed (hw : PoolInv role calls last w) {x : Transaction κ Row α}
    (hx : w.calls c = .running x) (x' : Transaction κ Row α)
      (hconnection : x'.connection = x.connection) {setting : Setting String}
    (hvalue : setting.value = (w.settings x.connection).value)
    (hchange : setting.change = some ⟨none, if x'.configured then some (calls c).tenantId else none⟩)
    (hexecuted : ∀ e ∈ x'.executed, role.policy (some (calls c).tenantId) = some e.policy) :
    PoolInv role calls last (w.put c (.running x') x.connection setting) := by
  refine hw.put (fun c' x' hx' hk => hw.exclusive c' c x' x hx' hx hk) (fun y hy => ?_) ?_
    (fun _ => ⟨_, rfl⟩) (fun _ _ => rfl) (hvalue ▸ hw.value x.connection)
  · rw [hx] at hy
    cases hy
    rfl
  · rintro y ⟨rfl⟩
    exact ⟨hconnection, hchange, hexecuted⟩

/-- A call that ends leaves its connection without a transaction. -/
theorem PoolInv.leave (hw : PoolInv role calls last w) {x : Transaction κ Row α}
    (hx : w.calls c = .running x) {state : CallState κ Row α} (hstate : ∀ x', state ≠ .running x')
    {setting : Setting String} (hchange : setting.change = none) {last' : κ → Option String}
    (hlast : ∀ k, k ≠ x.connection → last' k = last k)
    (hvalue : Remembers (last' x.connection) setting.value) :
    PoolInv role calls last' (w.put c state x.connection setting) := by
  refine hw.put (fun c' x' hx' hk => hw.exclusive c' c x' x hx' hx hk) (fun y hy => ?_)
    (fun y hy => absurd hy (hstate y)) (fun h => absurd hchange h) hlast hvalue
  rw [hx] at hy
  cases hy
  rfl

omit [DecidableEq ι] in
/-- A connection that no transaction holds gets another setting. -/
theorem PoolInv.free (hw : PoolInv role calls last w) (hfree : (w.settings k).change = none)
    {setting : Setting String} (hchange : setting.change = none) {last' : κ → Option String}
    (hlast : ∀ k', k' ≠ k → last' k' = last k') (hvalue : Remembers (last' k) setting.value) :
    PoolInv role calls last' { w with settings := Function.update w.settings k setting } := by
  have hne : ∀ c x, w.calls c = .running x → x.connection ≠ k := by
    rintro c x hx rfl
    rw [hw.running c x hx] at hfree
    cases hfree
  constructor
  · intro c x hx
    show (Function.update w.settings k setting x.connection).change = _
    rw [Function.update_of_ne (hne c x hx)]
    exact hw.running c x hx
  · intro k' hk'
    refine hw.held k' fun hnone => hk' ?_
    show (Function.update w.settings k setting k').change = none
    rw [Function.update_apply]
    split
    · exact hchange
    · exact hnone
  · exact hw.exclusive
  · intro k'
    show Remembers (last' k') (Function.update w.settings k setting k').value
    rw [Function.update_apply]
    split
    · next hk => exact hk ▸ hvalue
    · next hk => exact hlast k' hk ▸ hw.value k'
  · exact hw.executed

/-- A transaction that is rolled back leaves the setting of before. -/
theorem PoolInv.rollback (hw : PoolInv role calls last w) {x : Transaction κ Row α}
    (hx : w.calls c = .running x) :
    PoolInv role calls last (w.put c .failed x.connection (w.settings x.connection).rollback) := by
  have hopen : (w.settings x.connection).change.isSome := by
    rw [hw.running c x hx]
    rfl
  have hleft := Setting.left_rollback _ hopen
  exact hw.leave hx (fun _ h => by cases h) hleft.1 (fun _ _ => rfl) ((hw.value _).left hleft)

omit [DecidableEq κ] [DecidableEq ι] in
/-- A transaction that has set its tenant reads it. -/
theorem PoolInv.current (hw : PoolInv role calls last w) {x : Transaction κ Row α}
    (hx : w.calls c = .running x) (hconfigured : x.configured = true) :
    (w.settings x.connection).current = some (calls c).tenantId := by
  unfold Setting.current
  rw [hw.running c x hx, hconfigured]
  rfl


/-- A step keeps the invariant, with the tenants of the sessions that come after it. -/
theorem PoolInv.step (hw : PoolInv role calls last w) {event : PoolEvent κ ι Row} {w' : Pool κ ι Row α}
    (h : w.step role calls event = some w') :
    PoolInv role calls (fun k => lastTenant k (last k) event) w' := by
  cases event with
  | begin c k =>
    simp only [Pool.step] at h
    split at h
    · next hwaiting hfree => exact Option.some.inj h ▸ hw.begin hfree hwaiting _
    · cases h
  | configure c =>
    simp only [Pool.step] at h
    split at h
    · next k executed rest hx =>
      rw [← Option.some.inj h]
      -- the call has begun, so its tenant is set for the transaction only
      have hchange := hw.running c _ hx
      refine hw.proceed hx ⟨k, true, executed, rest⟩ rfl ?_ ?_ fun e he => hw.executed c _ hx e he
      · unfold Setting.setConfig
        rw [hchange]
      · unfold Setting.setConfig
        rw [hchange]
        rfl
    · cases h
  | execute c id =>
    simp only [Pool.step] at h
    split at h
    · next k executed s next hx =>
      split at h
      · exact Option.some.inj h ▸ hw.rollback hx
      · next e a hanswer =>
        rw [← Option.some.inj h]
        refine hw.proceed hx ⟨k, true, executed ++ [e], next a⟩ rfl rfl (hw.running c _ hx) fun e' he' => ?_
        -- the statement that was executed last ran under the policy of the call's tenant
        rcases List.mem_append.mp he' with he' | he'
        · exact hw.executed c _ hx e' he'
        · rw [List.mem_singleton.mp he']
          obtain ⟨policy, hpolicy, hx'⟩ := Option.bind_eq_some_iff.mp hanswer
          obtain ⟨y, -, hy⟩ := Option.map_eq_some_iff.mp hx'
          rw [hw.current hx rfl] at hpolicy
          rw [hpolicy, ← (Prod.mk.inj hy).1]
    · cases h
  | commit c =>
    simp only [Pool.step] at h
    split at h
    · next k executed a hx =>
      split at h
      · exact Option.some.inj h ▸ hw.rollback hx
      · next rows hrows =>
        rw [← Option.some.inj h]
        -- the setting of the transaction ends with it, and that of the session is in force again
        have hleft := Setting.left_commit (hw.running c _ hx) rfl
        have hdone : PoolInv role calls last (w.put c (.returned a) k (w.settings k).commit) :=
          hw.leave hx (fun _ h => by cases h) hleft.1 (fun _ _ => rfl) ((hw.value _).left hleft)
        exact ⟨hdone.running, hdone.held, hdone.exclusive, hdone.value, hdone.executed⟩
    · cases h
  | rollback c =>
    simp only [Pool.step] at h
    split at h
    · next x hx => exact Option.some.inj h ▸ hw.rollback hx
    · cases h
  | disconnect c k =>
    simp only [Pool.step] at h
    split at h
    · next x hx =>
      split at h
      · next hk =>
        rw [← Option.some.inj h, ← hk]
        refine hw.leave hx (fun _ h => by cases h) rfl (fun k' hk' => if_neg hk'.symm) (.inl ?_)
        exact (if_pos rfl).symm
      · cases h
    · cases h
  | query k s id =>
    simp only [Pool.step] at h
    split at h
    · rw [← Option.some.inj h]
      -- a statement outside a transaction changes rows only
      exact ⟨hw.running, hw.held, hw.exclusive, hw.value, hw.executed⟩
    · cases h
  | setTenantContext k tenantId =>
    simp only [Pool.step] at h
    split at h
    · next hfree =>
      rw [← Option.some.inj h]
      -- no transaction holds the connection, so that the session takes the tenant at once
      have hset : (w.settings k).setConfig tenantId false = ⟨some tenantId, none⟩ := by
        unfold Setting.setConfig
        rw [hfree]
        rfl
      rw [hset]
      exact hw.free hfree rfl (fun k' hk' => if_neg hk'.symm) (.inl (if_pos rfl).symm)
    · cases h
  | renew k =>
    simp only [Pool.step] at h
    split at h
    · next hfree =>
      rw [← Option.some.inj h]
      exact hw.free hfree rfl (fun k' hk' => if_neg hk'.symm) (.inl (if_pos rfl).symm)
    · cases h

/-- After any events the invariant holds, with the tenant that each connection has last been set to. -/
theorem PoolInv.run {events : List (PoolEvent κ ι Row)} (hw : PoolInv role calls last w)
    {w' : Pool κ ι Row α} (h : events.foldlM (Pool.step role calls) w = some w') :
    PoolInv role calls (fun k => events.foldl (lastTenant k) (last k)) w' := by
  induction events generalizing w last with
  | nil => exact Option.some.inj h ▸ hw
  | cons event events ih =>
    obtain ⟨w₁, hstep, hrest⟩ := Option.bind_eq_some_iff.mp h
    exact ih (hw.step hstep) hrest

/-- In whatever order the steps of the pool come, a call whose transaction has set its tenant reads
that tenant, and a connection without a transaction has the tenant that `setTenantContext` last set in
its session; if there was none, it has no tenant or the empty one. So no tenant of a transaction is
left on a connection. -/
theorem tenant_of_connection (role : Role) (calls : ι → TenantCall Row α) (rows : List Row)
    (events : List (PoolEvent κ ι Row)) (w : Pool κ ι Row α)
    (h : events.foldlM (Pool.step role calls) (.init rows) = some w) :
    (∀ c x, w.calls c = .running x → x.configured = true →
      (w.settings x.connection).current = some (calls c).tenantId) ∧
    (∀ c c' x x', w.calls c = .running x → w.calls c' = .running x' →
      x.connection = x'.connection → c = c') ∧
    ∀ k, (∀ c x, w.calls c = .running x → x.connection ≠ k) →
      Remembers (sessionTenant k events) (w.settings k).current := by
  have hw := (poolInv_init role calls rows).run h
  refine ⟨fun c x hx hconfigured => hw.current hx hconfigured, hw.exclusive, fun k hk => ?_⟩
  have hfree : (w.settings k).change = none := by
    by_contra hne
    obtain ⟨c, x, hx, hxk⟩ := hw.held k hne
    exact hk c x hx hxk
  have hcurrent : (w.settings k).current = (w.settings k).value := by
    unfold Setting.current
    rw [hfree]
  rw [hcurrent]
  exact hw.value k

/-- A call that looks for a message and one that updates a connection. -/
def twoCalls : Bool → TenantCall TenantRow (Option TenantRow)
  | true => ⟨"a", MailboxIngestion.Statements.findById "message"⟩
  | false => ⟨"b", MailboxIngestion.Statements.updateSyncCursor "connection" "cursor" 0⟩

def twoCallsEvents : List (PoolEvent Bool Bool TenantRow) :=
  [.setTenantContext false "c", .begin false false, .configure false, .begin true true, .configure true,
    .execute false "id"]

/-- One connection has had a transaction since its tenant was set, the other one is in a transaction. -/
theorem tenant_of_connection_twoCalls : ∃ w : Pool Bool Bool TenantRow (Option TenantRow),
    twoCallsEvents.foldlM (Pool.step .app_user twoCalls) (.init []) = some w ∧
      (w.settings true).current = some "a" ∧ Remembers (some "c") (w.settings false).current := by
  have hrun : (twoCallsEvents.foldlM (Pool.step .app_user twoCalls) (.init [])).isSome := by decide
  obtain ⟨hcalls, -, hfree⟩ := tenant_of_connection .app_user twoCalls [] twoCallsEvents _
    (Option.some_get hrun).symm
  refine ⟨_, (Option.some_get hrun).symm, hcalls true ⟨true, true, [], _⟩ rfl rfl, hfree false ?_⟩
  rintro (_ | _) x hx
  · cases hx
  · cases hx
    exact Bool.noConfusion

end Invariant

end EmailTriage.Database
