import Mathlib.Data.List.Sort
import EmailTriage.Lib.JsString
import EmailTriage.Lib.JsValue
import EmailTriage.Lib.Runs
import EmailTriage.Lib.Table
import EmailTriage.Queue.EventRouting

/-!
# The outbox relay

`src/queue/outbox-relay.worker.ts` over the table `domain_event_outbox`. A sweep selects a batch of
unpublished rows, hands each of them to the queues of its event type, and marks it published or counts
a failed attempt. Sweeps of several workers overlap freely.

`Promise.all` starts the adds of a row together and settles on the first failure; the others stay in
flight and may still reach their queue, also after the sweep has gone on or stopped. An add reaches
its queue in one step and resolves or rejects in another, so a rejected add may have been accepted.
A queue ignores a job whose id it holds already.
-/

namespace EmailTriage.Queue

open Js Db

/-- A row of `domain_event_outbox`. -/
structure OutboxRow where
  id : String
  tenantId : String
  aggregateId : String
  aggregateType : String
  eventType : String
  payload : Value
  published : Bool
  attempts : ℕ
  lastError : Option String
  createdAt : ℤ
  publishedAt : Option ℤ

instance : Schema OutboxRow String String where
  id := OutboxRow.id
  key := OutboxRow.id

/-- The table `domain_event_outbox`. -/
abbrev OutboxTable := Table OutboxRow

/-- A job: its name, its data and its id. -/
structure Job where
  name : String
  outboxEventId : String
  tenantId : String
  eventType : String
  payload : Value
  jobId : String

/-- The job the relay adds to a queue for a row. -/
def jobOf (row : OutboxRow) (queue : QueueName) : Job where
  name := row.eventType
  outboxEventId := row.id
  tenantId := row.tenantId
  eventType := row.eventType
  payload := row.payload
  jobId := jobId row.id queue

/-! ## A sweep

What a sweep selects, in which order, and what it does with each row: rows without a route fail, rows with
an empty route are published at once, and the others wait for their adds.
-/

def BATCH_SIZE : ℕ := 50

def MAX_ATTEMPTS : ℕ := 10

/-- What a sweep is about to do. An add is `waiting` until it reaches its queue and `landed` until it
resolves. -/
inductive Phase where
  | scanning
  | adding (row : OutboxRow) (waiting landed : List QueueName)
  | publishing (row : OutboxRow)
  | failing (row : OutboxRow) (message : String)

/-- A running sweep: what it does, the rest of its batch, and its counters. -/
structure Sweep where
  phase : Phase
  rest : List OutboxRow
  relayed : ℕ
  failed : ℕ

/-- The order of a batch: oldest first, with `rank` for rows created at the same time. -/
def CreatedBefore (rank : String → ℕ) (a b : OutboxRow) : Prop :=
  a.createdAt < b.createdAt ∨ (a.createdAt = b.createdAt ∧ rank a.id ≤ rank b.id)

instance (rank : String → ℕ) : DecidableRel (CreatedBefore rank) := fun a b =>
  inferInstanceAs (Decidable (a.createdAt < b.createdAt ∨ _))

/-- The rows a sweep selects. -/
def selectBatch (t : OutboxTable) (rank : String → ℕ) : List OutboxRow :=
  let pending := t.findMany fun row => !row.published && row.attempts < MAX_ATTEMPTS
  (pending.insertionSort (CreatedBefore rank)).take BATCH_SIZE

/-- The condition under which a sweep selects a row. -/
def Selectable (r : OutboxRow) : Prop := r.published = false ∧ r.attempts < MAX_ATTEMPTS

instance (r : OutboxRow) : Decidable (Selectable r) :=
  inferInstanceAs (Decidable (r.published = false ∧ r.attempts < MAX_ATTEMPTS))

/-- The rows a batch is taken from, oldest first. -/
theorem mem_pending_iff {t : OutboxTable} {rank : String → ℕ} {r : OutboxRow} :
    r ∈ (t.findMany fun row => !row.published && row.attempts < MAX_ATTEMPTS).insertionSort
        (CreatedBefore rank) ↔ r ∈ t.rows ∧ Selectable r := by
  rw [List.mem_insertionSort]
  unfold Table.findMany Selectable
  simp

/-- A batch holds selectable rows of the table. -/
theorem of_mem_selectBatch {t : OutboxTable} {rank : String → ℕ} {r : OutboxRow}
    (h : r ∈ selectBatch t rank) : r ∈ t.rows ∧ Selectable r :=
  mem_pending_iff.mp (List.mem_of_mem_take h)

/-- A batch holds a row once. -/
theorem nodup_selectBatch (t : OutboxTable) (rank : String → ℕ) :
    ((selectBatch t rank).map OutboxRow.id).Nodup := by
  unfold selectBatch
  refine ((List.take_sublist _ _).map _).nodup ?_
  rw [((List.perm_insertionSort _ _).map _).nodup_iff]
  exact (List.filter_sublist.map _).nodup t.id_nodup

/-- The update that marks a row published. -/
def publish (now : ℤ) : Patch OutboxRow where
  apply r := { r with published := true, publishedAt := some now }
  id_apply _ := rfl
  key_apply _ := rfl

/-- The update of `markFailed`. -/
def countFailure (message : String) : Patch OutboxRow where
  apply r := { r with attempts := r.attempts + 1, lastError := some (substring message 2000) }
  id_apply _ := rfl
  key_apply _ := rfl

/-- What a sweep does with the next row of its batch. -/
def startRow (row : OutboxRow) : Phase :=
  match route row.eventType with
  | .undefined => .failing row ("No routing entry for event type \"" ++ row.eventType ++ "\"")
  | .inherited => .failing row "targets.map is not a function"
  | .targets [] => .publishing row
  | .targets queues => .adding row queues []

/-! ## The system

The adds of a row run side by side and may outlive the sweep that made them. A step of a sweep that
does not fit its phase changes nothing, so any list of events is a run.
-/

/-- The table, the sweeps, the adds that outlived their sweep, the jobs in the queues, and every job a
queue has ever accepted. -/
structure World (ι : Type) where
  table : OutboxTable
  sweeps : ι → Option Sweep
  orphans : List (QueueName × Job)
  queues : QueueName → List Job
  accepted : List (QueueName × Job)

/-- One step of a running sweep. -/
inductive SweepEvent where
  /-- The sweep goes on to its next row, or ends. -/
  | next
  /-- An add reaches its queue. -/
  | land (queue : QueueName)
  /-- An add that has reached its queue resolves. -/
  | resolve (queue : QueueName)
  /-- An add rejects; it may have reached its queue, or may still do so. -/
  | reject (queue : QueueName) (message : String)
  /-- The update of a row whose adds have all resolved; it may fail. -/
  | update (now : ℤ) (error : Option String)
  /-- The update of a row that failed; it may fail. -/
  | markFailed (error : Option String)
  /-- The sweep stops. -/
  | stop

/-- One step of the system. -/
inductive Event (ι : Type) where
  /-- A row is inserted with its aggregate. -/
  | insert (id tenantId aggregateId aggregateType eventType : String) (payload : Value) (now : ℤ)
  /-- A worker starts a sweep. -/
  | select (worker : ι) (rank : String → ℕ)
  | sweep (worker : ι) (event : SweepEvent)
  /-- An add that outlived its sweep reaches its queue. -/
  | landOrphan (index : ℕ)
  /-- A queue removes a job. -/
  | remove (queue : QueueName) (jobId : String)

variable {ι : Type} [DecidableEq ι]

namespace World

def init (table : OutboxTable) : World ι := ⟨table, fun _ => none, [], fun _ => [], []⟩

/-- The world after a sweep has moved on. -/
def setSweep (s : World ι) (worker : ι) (sweep : Option Sweep) : World ι :=
  { s with sweeps := Function.update s.sweeps worker sweep }

def setTable (s : World ι) (table : OutboxTable) : World ι := { s with table }

/-- `queue.add`, once it reaches the queue. -/
def accept (s : World ι) (queue : QueueName) (job : Job) : World ι :=
  if (s.queues queue).any fun j => j.jobId = job.jobId then s
  else
    { s with
      queues := Function.update s.queues queue (job :: s.queues queue)
      accepted := (queue, job) :: s.accepted }

omit [DecidableEq ι] in
@[simp] theorem table_accept (s : World ι) (queue : QueueName) (job : Job) :
    (s.accept queue job).table = s.table := by
  unfold accept
  split
  · rfl
  · rfl

omit [DecidableEq ι] in
@[simp] theorem sweeps_accept (s : World ι) (queue : QueueName) (job : Job) :
    (s.accept queue job).sweeps = s.sweeps := by
  unfold accept
  split
  · rfl
  · rfl

omit [DecidableEq ι] in
@[simp] theorem orphans_accept (s : World ι) (queue : QueueName) (job : Job) :
    (s.accept queue job).orphans = s.orphans := by
  unfold accept
  split
  · rfl
  · rfl

/-- The world after a sweep has left its adds in flight. -/
def abandon (s : World ι) (row : OutboxRow) (waiting : List QueueName) : World ι :=
  { s with orphans := s.orphans ++ waiting.map fun queue => (queue, jobOf row queue) }

/-- A step of the sweep `w` of a worker. A step that does not fit the phase changes nothing. -/
def sweepStep (s : World ι) (worker : ι) (w : Sweep) : SweepEvent → World ι
  | .next =>
    match w.phase, w.rest with
    | .scanning, row :: rest => s.setSweep worker (some { w with phase := startRow row, rest })
    | .scanning, [] => s.setSweep worker none
    | _, _ => s
  | .land queue =>
    match w.phase with
    | .adding row waiting landed =>
      if queue ∈ waiting then
        (s.accept queue (jobOf row queue)).setSweep worker
          (some { w with phase := .adding row (waiting.erase queue) (queue :: landed) })
      else s
    | _ => s
  | .resolve queue =>
    match w.phase with
    | .adding row waiting landed =>
      if queue ∈ landed then
        let landed := landed.erase queue
        s.setSweep worker (some { w with
          phase := if waiting = [] ∧ landed = [] then .publishing row
            else .adding row waiting landed })
      else s
    | _ => s
  | .reject queue message =>
    match w.phase with
    | .adding row waiting landed =>
      if queue ∈ waiting ∨ queue ∈ landed then
        (s.abandon row waiting).setSweep worker (some { w with phase := .failing row message })
      else s
    | _ => s
  | .update now error =>
    match w.phase with
    | .publishing row =>
      match error, s.table.update row.id (publish now) with
      | none, some table =>
        (s.setTable table).setSweep worker
          (some { w with phase := .scanning, relayed := w.relayed + 1 })
      | _, _ =>
        s.setSweep worker (some { w with phase := .failing row (error.getD "Record not found") })
    | _ => s
  | .markFailed error =>
    match w.phase with
    | .failing row message =>
      match error, s.table.update row.id (countFailure message) with
      | none, some table =>
        (s.setTable table).setSweep worker
          (some { w with phase := .scanning, failed := w.failed + 1 })
      -- `markFailed` is not inside the `try`: its error ends the sweep
      | _, _ => s.setSweep worker none
    | _ => s
  | .stop =>
    match w.phase with
    | .adding row waiting _ => (s.abandon row waiting).setSweep worker none
    | _ => s.setSweep worker none

def step (s : World ι) : Event ι → World ι
  | .insert id tenantId aggregateId aggregateType eventType payload now =>
    s.setTable ((s.table.create ⟨id, tenantId, aggregateId, aggregateType, eventType, payload, false,
      0, none, now, none⟩).getD s.table)
  | .select worker rank =>
    match s.sweeps worker with
    | none => s.setSweep worker (some ⟨.scanning, selectBatch s.table rank, 0, 0⟩)
    | some _ => s
  | .sweep worker event =>
    match s.sweeps worker with
    | none => s
    | some w => s.sweepStep worker w event
  | .landOrphan index =>
    match s.orphans[index]? with
    | none => s
    | some (queue, job) => { s.accept queue job with orphans := s.orphans.eraseIdx index }
  | .remove queue jobId =>
    { s with
      queues := Function.update s.queues queue
        ((s.queues queue).filter fun job => job.jobId ≠ jobId) }

end World

end EmailTriage.Queue
