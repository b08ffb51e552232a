import EmailTriage.Queue.OutboxDelivery

/-!
# The event bridge

`src/queue/event-bridge.worker.ts` behind the relay: one worker for each queue takes the jobs of the queue
and emits their events on the bus of its process.

Each processor runs on its own copy of the job, so one whose lock has expired still emits, beside the one
that took the job after it. What BullMQ refuses to such a processor is allowed here.

## What BullMQ does with a job

A worker takes a waiting job. When the worker's lock on the job expires, or the processor has thrown,
BullMQ either puts the job back or is done with it, and which of the two is a matter of its settings
and its defaults, not of this repository: `GivesBack` is a parameter of the steps, which decides by all
the setbacks that the job has had. A job that BullMQ is done with may be removed from then on.
-/

namespace EmailTriage.Queue

open Js

/-- An event on the bus: its name, what the listeners get, and the queue it came through. -/
structure Emission where
  queue : QueueName
  name : String
  event : Value

/-- What the processor of a queue emits for a job. -/
def emissionOf (queue : QueueName) (job : Job) : Emission where
  queue := queue
  name := job.eventType
  event := .obj (Value.setField (Value.setField job.payload.spread "outboxEventId" (.str job.outboxEventId))
    "tenantId" (.str job.tenantId))

inductive JobState where
  | waiting
  | active
  /-- Completed or failed. -/
  | finished
deriving DecidableEq

/-- Why a job that was taken is not completed. -/
inductive Setback where
  /-- The lock of its worker has expired. -/
  | stalled
  /-- A listener has thrown, and so the processor has. -/
  | threw

/-- BullMQ's rule for such a job: whether one that was put back after some setbacks, the last one first,
is put back after another one. -/
abbrev GivesBack := List Setback → Setback → Bool

/-- What BullMQ keeps of a job: its state, and the setbacks after which it was put back. -/
structure Handling where
  state : JobState
  setbacks : List Setback

/-- A job that has just been added. -/
def Handling.new : Handling := ⟨.waiting, []⟩

/-- What becomes of a job that is not completed. -/
def Handling.setBack (handling : Handling) (givesBack : GivesBack) (setback : Setback) : Handling :=
  if givesBack handling.setbacks setback then ⟨.waiting, setback :: handling.setbacks⟩
  else ⟨.finished, handling.setbacks⟩

/-- A processor at work. -/
structure Processor where
  queue : QueueName
  job : Job
  emitted : Bool

/-- The relay with its queues, the handling of the jobs by queue and id, the processors, what has been
emitted, and the jobs that BullMQ was done with when a lock had expired. -/
structure Bridge (ι : Type) where
  relay : World ι
  handling : QueueName × String → Handling
  processors : List Processor
  emitted : List Emission
  givenUp : List (QueueName × String)

inductive BridgeEvent (ι : Type) where
  /-- A step of the relay, other than the removal of a job. -/
  | relay (event : Event ι)
  /-- A worker takes a waiting job. -/
  | take (queue : QueueName) (jobId : String)
  /-- A processor emits its event. -/
  | emit (index : ℕ)
  /-- The listeners of a processor have settled, and one has thrown or none has. -/
  | settle (index : ℕ) (threw : Bool)
  /-- A processor is gone. -/
  | die (index : ℕ)
  /-- The lock on a job expires. -/
  | stall (queue : QueueName) (jobId : String)
  /-- A job that has been processed is removed. -/
  | remove (queue : QueueName) (jobId : String)

variable {ι : Type} [DecidableEq ι]

namespace Bridge

def init (start : World ι) : Bridge ι := ⟨start, fun _ => .new, [], [], []⟩

/-- The bridge with another handling of a job. -/
def setHandling (b : Bridge ι) (queue : QueueName) (jobId : String) (handling : Handling) : Bridge ι :=
  { b with handling := Function.update b.handling (queue, jobId) handling }

/-- The job with an id that a queue holds. -/
def jobWith (b : Bridge ι) (queue : QueueName) (jobId : String) : Option Job :=
  (b.relay.queues queue).find? fun job => job.jobId = jobId

/-- A job of a queue that is in a state. -/
def heldJob (b : Bridge ι) (queue : QueueName) (jobId : String) (state : JobState) : Option Job :=
  if (b.handling (queue, jobId)).state = state then b.jobWith queue jobId else none

def step (givesBack : GivesBack) (b : Bridge ι) : BridgeEvent ι → Bridge ι
  | .relay (.remove _ _) => b
  | .relay event => { b with relay := b.relay.step event }
  | .take queue jobId =>
    match b.heldJob queue jobId .waiting with
    | none => b
    | some job =>
      { b.setHandling queue jobId { b.handling (queue, jobId) with state := .active } with
        processors := ⟨queue, job, false⟩ :: b.processors }
  | .emit index =>
    match b.processors[index]? with
    | none => b
    | some p =>
      -- the processor has one `emit`
      if p.emitted then b
      else
        { b with
          processors := b.processors.set index { p with emitted := true }
          emitted := emissionOf p.queue p.job :: b.emitted }
  | .settle index threw =>
    match b.processors[index]? with
    | none => b
    | some p =>
      if p.emitted then
        let b := { b with processors := b.processors.eraseIdx index }
        -- a worker whose lock has expired settles nothing
        if (b.heldJob p.queue p.job.jobId .active).isSome then
          let handling := b.handling (p.queue, p.job.jobId)
          b.setHandling p.queue p.job.jobId
            (if threw then handling.setBack givesBack .threw else { handling with state := .finished })
        else b
      else b
  | .die index => { b with processors := b.processors.eraseIdx index }
  | .stall queue jobId =>
    match b.heldJob queue jobId .active with
    | none => b
    | some _ =>
      let handling := (b.handling (queue, jobId)).setBack givesBack .stalled
      { b.setHandling queue jobId handling with
        givenUp := if handling.state = .finished then (queue, jobId) :: b.givenUp else b.givenUp }
  | .remove queue jobId =>
    match b.heldJob queue jobId .finished with
    | none => b
    | some _ =>
      { b.setHandling queue jobId .new with relay := b.relay.step (.remove queue jobId) }

end Bridge

end EmailTriage.Queue
