import EmailTriage.Database.TenantTransaction
import EmailTriage.Lib.Runs
import EmailTriage.MailboxIngestion.SyncCursor
import EmailTriage.Queue.OutboxRelay

/-!
# Storing mailbox connections

`src/mailbox-ingestion/infrastructure/repositories/mailbox-connection.repository.ts` over the table
`mailbox_connections`, unique on tenant, mailbox and platform, and the outbox. Every method is one
transaction, so runs are sequences of calls; `find_step` says what a call makes of a stored row.

The update branch of the upsert and the create branch write the same columns with the same defaults, so
after a save a row is what its data says, whatever was stored before, except for the id and the count
of failures, which only a creation sets. A call that fails in the middle leaves the tables as they
were.
-/

namespace EmailTriage.MailboxIngestion

open Js Db Database
open Queue (OutboxRow)

/-- A row of `mailbox_connections`. -/
structure MailboxConnectionRow where
  id : String
  tenantId : String
  mailboxId : String
  platform : String
  status : String
  watchSubscriptionId : Option String
  watchExpiresAt : Option ℤ
  syncCursorValue : Option String
  credentialHandleId : String
  lastWebhookAt : Option ℤ
  lastSyncAt : Option ℤ
  syncFailureCount : ℤ

instance : Schema MailboxConnectionRow String (String × String × String) where
  id := MailboxConnectionRow.id
  key r := (r.tenantId, r.mailboxId, r.platform)

/-- The table `mailbox_connections`. -/
abbrev MailboxConnectionTable := Table MailboxConnectionRow

/-- The data of a save. The outer option of a field says whether it is supplied, the inner one whether
it is null. -/
structure MailboxConnectionData where
  tenantId : String
  mailboxId : String
  platform : String
  credentialHandleId : String
  status : Option String := none
  watchSubscriptionId : Option (Option String) := none
  watchExpiresAt : Option (Option ℤ) := none
  syncCursorValue : Option (Option String) := none
  lastWebhookAt : Option (Option ℤ) := none
  lastSyncAt : Option (Option ℤ) := none
  syncFailureCount : Option ℤ := none

structure OutboxEventInput where
  aggregateId : String
  aggregateType : String
  eventType : String
  payload : Value

/-- The two tables a transaction of the repository writes. -/
structure ConnectionStore where
  connections : MailboxConnectionTable
  outbox : List OutboxRow

/-- The row that `domainEventOutbox.create` inserts for an event. -/
def outboxRow (id : String) (now : ℤ) (tenantId : String) (event : OutboxEventInput) : OutboxRow where
  id := id
  tenantId := tenantId
  aggregateId := event.aggregateId
  aggregateType := event.aggregateType
  eventType := event.eventType
  payload := event.payload
  published := false
  attempts := 0
  lastError := none
  createdAt := now
  publishedAt := none

/-- What a call meets: whether its transaction fails, the clock, and the primary keys it draws. -/
structure ConnectionEnv where
  fails : Bool
  now : ℤ
  id : String
  outboxId : ℕ → String

namespace MailboxConnectionRepository

/-- The unique key of the connection that data is about. -/
def keyOf (data : MailboxConnectionData) : String × String × String :=
  (data.tenantId, data.mailboxId, data.platform)

/-- The update branch of the upsert. -/
def updateData (data : MailboxConnectionData) : Patch MailboxConnectionRow where
  apply r := { r with
    status := data.status.getD "active"
    watchSubscriptionId := data.watchSubscriptionId.getD none
    watchExpiresAt := data.watchExpiresAt.getD none
    syncCursorValue := data.syncCursorValue.getD none
    credentialHandleId := data.credentialHandleId
    lastWebhookAt := data.lastWebhookAt.getD none
    lastSyncAt := data.lastSyncAt.getD none }
  id_apply _ := rfl
  key_apply _ := rfl

/-- The create branch of the upsert. -/
def createData (id : String) (data : MailboxConnectionData) : MailboxConnectionRow where
  id := id
  tenantId := data.tenantId
  mailboxId := data.mailboxId
  platform := data.platform
  status := data.status.getD "active"
  watchSubscriptionId := data.watchSubscriptionId.getD none
  watchExpiresAt := data.watchExpiresAt.getD none
  syncCursorValue := data.syncCursorValue.getD none
  credentialHandleId := data.credentialHandleId
  lastWebhookAt := data.lastWebhookAt.getD none
  lastSyncAt := data.lastSyncAt.getD none
  syncFailureCount := data.syncFailureCount.getD 0

/-- The exception of a call that breaks a constraint, or finds no row to update. -/
def constraintError : Exception := .error "constraint failed"

/-- `mailboxConnection.upsert`. -/
def upsert (id : String) (data : MailboxConnectionData) :
    Effect ConnectionStore MailboxConnectionRow := fun w =>
  match w.connections.upsert (keyOf data) (updateData data) (createData id data) with
  | none => .error constraintError w
  | some connections =>
    .ok ((connections.find (keyOf data)).getD (createData id data)) { w with connections }

/-- `mailboxConnection.update` of the row with a primary key. -/
def update (id : String) (data : Patch MailboxConnectionRow) : Effect ConnectionStore Unit := fun w =>
  match w.connections.update id data with
  | none => .error constraintError w
  | some connections => .ok () { w with connections }

/-- `domainEventOutbox.create`. -/
def createOutbox (row : OutboxRow) : Effect ConnectionStore Unit :=
  modify fun w => { w with outbox := w.outbox ++ [row] }

def save (env : ConnectionEnv) (data : MailboxConnectionData) (events : List OutboxEventInput) :
    Effect ConnectionStore MailboxConnectionRow :=
  runInTenantTransaction env.fails do
    let saved ← upsert env.id data
    events.zipIdx.forM fun event =>
      createOutbox (outboxRow (env.outboxId event.2) env.now data.tenantId event.1)
    return saved

/-- The columns `updateSyncCursor` writes. -/
def cursorData (cursorValue : String) (now : ℤ) : Patch MailboxConnectionRow where
  apply r := { r with syncCursorValue := some cursorValue, lastSyncAt := some now }
  id_apply _ := rfl
  key_apply _ := rfl

def updateSyncCursor (env : ConnectionEnv) (id cursorValue : String) : Effect ConnectionStore Unit :=
  runInTenantTransaction env.fails (update id (cursorData cursorValue env.now))

/-- The column `incrementFailureCount` writes. -/
def failureData : Patch MailboxConnectionRow where
  apply r := { r with syncFailureCount := r.syncFailureCount + 1 }
  id_apply _ := rfl
  key_apply _ := rfl

def incrementFailureCount (env : ConnectionEnv) (id : String) : Effect ConnectionStore Unit :=
  runInTenantTransaction env.fails (update id failureData)

end MailboxConnectionRepository

/-! ## Calls

The writing methods of the repository as the calls of a run. Each of them may fail, and a call that
fails is rolled back with its events.
-/

open MailboxConnectionRepository

/-- The writing methods of the repository. -/
inductive ConnectionOp where
  | save (data : MailboxConnectionData) (events : List OutboxEventInput)
  | updateSyncCursor (id cursorValue : String)
  | incrementFailureCount (id : String)

/-- A call of the repository, with what it meets. -/
structure ConnectionCall where
  op : ConnectionOp
  env : ConnectionEnv

namespace ConnectionStore

/-- The store a call leaves. -/
def step (w : ConnectionStore) (c : ConnectionCall) : ConnectionStore :=
  match c.op with
  | .save data events => after (save c.env data events) w
  | .updateSyncCursor id cursorValue => after (updateSyncCursor c.env id cursorValue) w
  | .incrementFailureCount id => after (incrementFailureCount c.env id) w

end ConnectionStore

/-- What a call makes of a stored row. -/
def ConnectionCall.applyTo (c : ConnectionCall) (r : MailboxConnectionRow) : MailboxConnectionRow :=
  if c.env.fails then r
  else match c.op with
    | .save data _ => if Schema.key r = keyOf data then (updateData data).apply r else r
    | .updateSyncCursor id cursorValue =>
      if r.id = id then (cursorData cursorValue c.env.now).apply r else r
    | .incrementFailureCount id => if r.id = id then failureData.apply r else r

/-! ## What a call does

What a call makes of a row that is stored, by the fields that it supplies.
-/

/-- Writing the outbox rows of a save returns and leaves the connections alone. -/
theorem createOutbox_forM_spec (row : OutboxEventInput × ℕ → OutboxRow)
    (events : List (OutboxEventInput × ℕ)) (w : ConnectionStore) :
    ∃ w', (events.forM fun event => createOutbox (row event)) w = .ok () w' ∧
      w'.connections = w.connections := by
  have hreturns : returns (events.forM fun event => createOutbox (row event)) w = true :=
    returns_forM (fun _ _ => rfl) w
  obtain ⟨⟨⟩, h⟩ := exists_of_returns hreturns
  have hkeeps : Keeps ConnectionStore.connections
      (events.forM fun event => createOutbox (row event)) := .forM fun _ _ => rfl
  exact ⟨_, h, hkeeps w⟩

/-- The transaction of a save, once its upsert has been made. -/
theorem connections_after_save {env : ConnectionEnv} (hfails : env.fails = false)
    {data : MailboxConnectionData} {w : ConnectionStore} {connections : MailboxConnectionTable}
    (h : w.connections.upsert (keyOf data) (updateData data) (createData env.id data)
      = some connections) (events : List OutboxEventInput) :
    (after (save env data events) w).connections = connections := by
  have hupsert : ∃ saved, upsert env.id data w = .ok saved { w with connections } := by
    unfold upsert
    rw [h]
    exact ⟨_, rfl⟩
  obtain ⟨saved, hupsert⟩ := hupsert
  obtain ⟨w', hcreate, hconnections⟩ := createOutbox_forM_spec
    (fun event => outboxRow (env.outboxId event.2) env.now data.tenantId event.1) events.zipIdx
    { w with connections }
  have hrun : save env data events w = .ok saved w' := by
    unfold save
    rw [hfails]
    refine runInTenantTransaction_of_ok ?_
    rw [bind_of_ok hupsert, bind_of_ok hcreate]
    rfl
  rw [after_of_ok hrun, hconnections]

/-- A save whose upsert breaks a constraint changes nothing. -/
theorem after_save_of_none {env : ConnectionEnv} {data : MailboxConnectionData} {w : ConnectionStore}
    (h : w.connections.upsert (keyOf data) (updateData data) (createData env.id data) = none)
    (events : List OutboxEventInput) : after (save env data events) w = w := by
  have hupsert : upsert env.id data w = .error constraintError w := by
    unfold upsert
    rw [h]
  unfold save
  exact after_of_error (runInTenantTransaction_of_error (bind_of_error hupsert _))

/-- What a save makes of a row. -/
theorem find_after_save {w : ConnectionStore} {r : MailboxConnectionRow}
    (hr : r ∈ w.connections.rows) (env : ConnectionEnv) (data : MailboxConnectionData)
    (events : List OutboxEventInput) :
    (after (save env data events) w).connections.find (Schema.key r)
      = some (ConnectionCall.applyTo ⟨.save data events, env⟩ r) := by
  have hrow := Table.find_key hr
  unfold ConnectionCall.applyTo
  dsimp only
  rcases hfails : env.fails with _ | _
  · rw [if_neg Bool.false_ne_true]
    by_cases hkey : Schema.key r = keyOf data
    · -- the upsert takes its update branch
      rw [if_pos hkey]
      rw [hkey] at hrow ⊢
      obtain ⟨connections, hupsert, hfind⟩ :=
        Table.upsert_of_find hrow (updateData data) (createData env.id data)
      rw [connections_after_save hfails hupsert, hfind]
    · rw [if_neg hkey]
      rcases hupsert : w.connections.upsert (keyOf data) (updateData data) (createData env.id data)
        with _ | connections
      · rw [after_save_of_none hupsert, hrow]
      · have hcreate : Schema.key (createData env.id data) = keyOf data := rfl
        rw [connections_after_save hfails hupsert, Table.find_upsert_of_ne hcreate hupsert hkey, hrow]
  · unfold save
    rw [if_pos rfl, hfails, after_runInTenantTransaction_of_fails, hrow]

/-- What an update makes of a row, if it does not fail. -/
theorem find_after_update {w : ConnectionStore} {r : MailboxConnectionRow}
    (hr : r ∈ w.connections.rows) (fails : Bool) (id : String) (f : Patch MailboxConnectionRow) :
    (after (runInTenantTransaction fails (update id f)) w).connections.find (Schema.key r)
      = some (if fails then r else if r.id = id then f.apply r else r) := by
  have hrow := Table.find_key hr
  rcases fails with _ | _
  · rw [if_neg Bool.false_ne_true]
    rcases hupdate : w.connections.update id f with _ | connections
    · -- no row has the primary key
      have hid : r.id ≠ id := by
        rintro rfl
        obtain ⟨connections, hupdate', -⟩ := Table.find_update hr f
        rw [show Schema.id r = r.id from rfl, hupdate] at hupdate'
        cases hupdate'
      have hrun : update id f w = .error constraintError w := by
        unfold update
        rw [hupdate]
      rw [if_neg hid, after_of_error (runInTenantTransaction_of_error hrun), hrow]
    · have hrun : update id f w = .ok () { w with connections } := by
        unfold update
        rw [hupdate]
      rw [after_of_ok (runInTenantTransaction_of_ok hrun), Table.find_eq_some_iff]
      refine ⟨(Table.mem_update hupdate _).mpr ⟨r, hr, rfl⟩, ?_⟩
      split
      · exact f.key_apply r
      · rfl
  · rw [if_pos rfl, after_runInTenantTransaction_of_fails, hrow]

/-- A call leaves every stored row at its key, and makes of it what `applyTo` says. -/
theorem find_step {w : ConnectionStore} {r : MailboxConnectionRow} (hr : r ∈ w.connections.rows)
    (c : ConnectionCall) :
    (w.step c).connections.find (Schema.key r) = some (c.applyTo r) := by
  rcases c with ⟨op, env⟩
  rcases op with ⟨data, events⟩ | ⟨id, cursorValue⟩ | ⟨id⟩
  · exact find_after_save hr env data events
  · exact find_after_update hr env.fails id (cursorData cursorValue env.now)
  · exact find_after_update hr env.fails id failureData

end EmailTriage.MailboxIngestion
