import EmailTriage.MailboxIngestion.MailboxConnectionRepository
import EmailTriage.MailboxIngestion.MessageEnvelope

/-!
# Storing ingested messages

`save` of `src/mailbox-ingestion/infrastructure/repositories/ingested-message.repository.ts`, by any
number of calls at once. Each call is one transaction: it looks for the message, inserts it, writes its
outbox rows, and commits. What it has written is seen by the others when it commits, and is gone when it
fails.

An insert that collides with one that is not committed yet waits for it in the database. Here it goes
on, and the constraints are checked once more at the commit, which allows more interleavings and no
fewer.
-/

namespace EmailTriage.MailboxIngestion

open Db
open Queue (OutboxRow)

/-- A row of `ingested_messages`. -/
structure IngestedMessageRow where
  id : String
  tenantId : String
  messageId : String
  mailboxId : String
  mailboxConnectionId : Option String
  platformMessageId : String
  platform : String
  normalizedEnvelope : MessageEnvelope
  bodyRefId : Option String
  createdAt : ℤ

instance : Schema IngestedMessageRow String (String × String × String × String) where
  id := IngestedMessageRow.id
  key r := (r.tenantId, r.platformMessageId, r.platform, r.mailboxId)

/-- The columns of the other unique constraint. -/
def IngestedMessageRow.messageKey (r : IngestedMessageRow) : String × String :=
  (r.tenantId, r.messageId)

/-- The table `ingested_messages`, with both of its unique constraints. -/
structure IngestedMessageTable extends Table IngestedMessageRow where
  message_nodup : (rows.map IngestedMessageRow.messageKey).Nodup

namespace IngestedMessageTable

/-- Insert a row; a collision with any constraint is an error. -/
def create (t : IngestedMessageTable) (row : IngestedMessageRow) : Option IngestedMessageTable :=
  if hnew : ∀ r ∈ t.rows, r.messageKey ≠ row.messageKey then
    match h : t.toTable.create row with
    | none => none
    | some t' => some
        { t' with
          message_nodup := by
            rw [Table.rows_create h, List.map_append, List.nodup_append]
            refine ⟨t.message_nodup, List.nodup_singleton _, ?_⟩
            intro a ha b hb
            obtain ⟨r, hr, rfl⟩ := List.mem_map.mp ha
            rw [List.mem_singleton.mp hb]
            exact hnew r hr }
  else none

/-- A new row comes after the others. -/
theorem rows_create {t t' : IngestedMessageTable} {row : IngestedMessageRow}
    (h : t.create row = some t') : t'.rows = t.rows ++ [row] := by
  unfold create at h
  split at h
  · split at h
    · cases h
    · next t'' hcreate =>
      rw [← Option.some.inj h]
      exact Table.rows_create hcreate
  · cases h

end IngestedMessageTable

/-- The data of a save; its nullable fields may be left out. -/
structure IngestedMessageData where
  tenantId : String
  messageId : String
  mailboxId : String
  platformMessageId : String
  platform : String
  normalizedEnvelope : MessageEnvelope
  mailboxConnectionId : Option String := none
  bodyRefId : Option String := none

namespace IngestedMessageRepository

/-- The unique key of the message that data is about. -/
def keyOf (data : IngestedMessageData) : String × String × String × String :=
  (data.tenantId, data.platformMessageId, data.platform, data.mailboxId)

/-- The row `save` creates. -/
def createData (id : String) (now : ℤ) (data : IngestedMessageData) : IngestedMessageRow where
  id := id
  tenantId := data.tenantId
  messageId := data.messageId
  mailboxId := data.mailboxId
  mailboxConnectionId := data.mailboxConnectionId
  platformMessageId := data.platformMessageId
  platform := data.platform
  normalizedEnvelope := data.normalizedEnvelope
  bodyRefId := data.bodyRefId
  createdAt := now

end IngestedMessageRepository

open IngestedMessageRepository

/-! ## Calls

A save first looks the message up, then inserts it with its events in one transaction. Several calls
for one message may be between the two steps at the same time.
-/

/-- The arguments of a call of `save`. -/
structure Save where
  data : IngestedMessageData
  events : List OutboxEventInput

/-- Where a call of `save` is. A call that is `writing` has inserted its row, written some of its outbox
rows, and is left with the other events. -/
inductive SavePhase where
  | idle
  | looking (save : Save)
  | inserting (save : Save)
  | writing (save : Save) (row : IngestedMessageRow) (rest : List OutboxEventInput)
      (written : List OutboxRow)
  | returned (save : Save) (row : IngestedMessageRow)
  | failed (save : Save)

/-- The committed tables, and the calls. -/
structure Ingestion (ι : Type) where
  messages : IngestedMessageTable
  outbox : List OutboxRow
  calls : ι → SavePhase

inductive IngestionEvent (ι : Type) where
  | start (call : ι) (save : Save)
  /-- The next statement of a call, with the primary key it draws, or its commit. -/
  | run (call : ι) (id : String) (now : ℤ)
  /-- The next statement of a call fails, or its commit. -/
  | fail (call : ι)

namespace Ingestion

variable {ι : Type} [DecidableEq ι]

def init (messages : IngestedMessageTable) (outbox : List OutboxRow) : Ingestion ι :=
  ⟨messages, outbox, fun _ => .idle⟩

def setCall (s : Ingestion ι) (call : ι) (phase : SavePhase) : Ingestion ι :=
  { s with calls := Function.update s.calls call phase }

@[simp] theorem calls_setCall_self (s : Ingestion ι) (call : ι) (phase : SavePhase) :
    (s.setCall call phase).calls call = phase := by
  unfold setCall
  dsimp only
  rw [Function.update_self]

/-- The other calls are where they were. -/
theorem calls_setCall_of_ne {call call' : ι} (h : call' ≠ call) (s : Ingestion ι)
    (phase : SavePhase) : (s.setCall call phase).calls call' = s.calls call' := by
  unfold setCall
  dsimp only
  rw [Function.update_of_ne h]

/-- The commit of a call that has inserted a message. -/
def commit (s : Ingestion ι) (call : ι) (save : Save) (row : IngestedMessageRow)
    (written : List OutboxRow) : Ingestion ι :=
  match s.messages.create row with
  | some messages =>
    setCall { s with messages, outbox := s.outbox ++ written } call (.returned save row)
  | none => s.setCall call (.failed save)

/-- The next statement of a call. -/
def runCall (s : Ingestion ι) (call : ι) (id : String) (now : ℤ) : SavePhase → Ingestion ι
  | .looking save =>
    match s.messages.find (keyOf save.data) with
    | some existing => s.setCall call (.returned save existing)
    | none => s.setCall call (.inserting save)
  | .inserting save =>
    let row := createData id now save.data
    match s.messages.create row with
    | some _ => s.setCall call (.writing save row save.events [])
    | none => s.setCall call (.failed save)
  | .writing save row (event :: rest) written =>
    s.setCall call
      (.writing save row rest (written ++ [outboxRow id now save.data.tenantId event]))
  | .writing save row [] written => s.commit call save row written
  | _ => s

/-- What becomes of a call when a statement fails. -/
def failCall (s : Ingestion ι) (call : ι) : SavePhase → Ingestion ι
  | .looking save => s.setCall call (.failed save)
  | .inserting save => s.setCall call (.failed save)
  | .writing save _ _ _ => s.setCall call (.failed save)
  | _ => s

def step (s : Ingestion ι) : IngestionEvent ι → Ingestion ι
  | .start call save =>
    match s.calls call with
    | .idle => s.setCall call (.looking save)
    | _ => s
  | .run call id now => s.runCall call id now (s.calls call)
  | .fail call => s.failCall call (s.calls call)

end Ingestion

end EmailTriage.MailboxIngestion
