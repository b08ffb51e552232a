import EmailTriage.Queue.EventBridge
import EmailTriage.Queue.OutboxWrites
import EmailTriage.Queue.RoutedJobs

/-!
# What the bridge emits

Whatever the overlap of sweeps, processors, expired locks and removals, and whatever BullMQ's rule for
jobs that are not completed: an event on the bus comes from a row of the outbox, through a queue its
type routes to, and carries the id and the tenant of the row even where its payload has properties of
these names. A job that a queue has accepted is still to be processed, or was emitted, or BullMQ was
done with it when a lock had expired. And if BullMQ puts a job back at most so many times, a row is
emitted through a queue at most once more than that for each time that its job was in the queue.

## The shape of the proofs

`BridgeInv` is what every step keeps, and says all of this but for the number of emissions. Its lemmas
are about one change each: another handling of a job (`BridgeInv.setHandling`), an emission, a job that
is accepted or removed. `EmissionBound` counts: the emissions that were made, those that processors are
about to make, and the times that the job may still be taken add up to no more than what the removals
allow.
-/

namespace EmailTriage.Queue

open Js Db Runs

variable {ι : Type}

/-- What has become of a job that a queue accepted. -/
def Handled (b : Bridge ι) (queue : QueueName) (job : Job) : Prop :=
  (job ∈ b.relay.queues queue ∧ (b.handling (queue, job.jobId)).state ≠ .finished) ∨
    emissionOf queue job ∈ b.emitted ∨ (queue, job.jobId) ∈ b.givenUp

/-- The relay keeps what it keeps; adds and accepted jobs are for queues their events route to; a job that
is not in its queue has no handling; processors work on accepted jobs; what was emitted is the event of an
accepted job; and each of these was handled. -/
structure BridgeInv (start : OutboxTable) (b : Bridge ι) : Prop where
  relay : Inv start b.relay
  inFlight : ∀ queue job, InFlight b.relay queue job → Targets queue job
  accepted : ∀ queue job, (queue, job) ∈ b.relay.accepted → Targets queue job
  idle : ∀ queue jobId, (∀ job ∈ b.relay.queues queue, job.jobId ≠ jobId) →
    b.handling (queue, jobId) = .new
  processors : ∀ p ∈ b.processors, (p.queue, p.job) ∈ b.relay.accepted ∧
    (p.emitted = true → emissionOf p.queue p.job ∈ b.emitted)
  emitted : ∀ e ∈ b.emitted, ∃ job, (e.queue, job) ∈ b.relay.accepted ∧ e = emissionOf e.queue job
  handled : ∀ queue job, (queue, job) ∈ b.relay.accepted → Handled b queue job

/-- Nothing has been emitted in the beginning. -/
theorem bridgeInv_init (start : OutboxTable) : BridgeInv start
    (Bridge.init (World.init start) : Bridge ι) where
  relay := inv_init start
  inFlight queue job h := by
    rcases h with h | ⟨worker, w, _, _, _, h, -⟩
    · cases h
    · cases h
  accepted queue job h := by cases h
  idle queue jobId _ := rfl
  processors p h := by cases h
  emitted e h := by cases h
  handled queue job h := by cases h

/-- The id of a job that was accepted determines the job. -/
theorem Inv.eq_of_jobId {start : OutboxTable} {s : World ι} (hs : Inv start s) {queue : QueueName}
    {job job' : Job} (h : (queue, job) ∈ s.accepted) (h' : (queue, job') ∈ s.accepted)
    (hid : job.jobId = job'.jobId) : job = job' := by
  obtain ⟨r, hr, rfl⟩ := hs.accepted queue job h
  obtain ⟨r', hr', rfl⟩ := hs.accepted queue job' h'
  have heq : r = r' := Table.eq_of_id_eq hr hr' (jobId_inj hid)
  rw [heq]

/-- A job that is found is in the queue, under its id. -/
theorem Bridge.of_jobWith {b : Bridge ι} {queue : QueueName} {jobId : String} {job : Job}
    (h : b.jobWith queue jobId = some job) : job ∈ b.relay.queues queue ∧ job.jobId = jobId := by
  unfold jobWith at h
  exact ⟨List.mem_of_find?_eq_some h, by simpa using List.find?_some h⟩

/-- A job that is held is in the state asked for. -/
theorem Bridge.of_heldJob {b : Bridge ι} {queue : QueueName} {jobId : String} {state : JobState} {job : Job}
    (h : b.heldJob queue jobId state = some job) :
    (b.handling (queue, jobId)).state = state ∧ job ∈ b.relay.queues queue ∧ job.jobId = jobId := by
  unfold heldJob at h
  split at h
  · next hstate => exact ⟨hstate, of_jobWith h⟩
  · cases h

variable {start : OutboxTable} {b : Bridge ι}

/-- How one job is handled does not change how others are. -/
theorem Bridge.handling_setHandling (b : Bridge ι) (queue : QueueName) (jobId : String)
    (handling : Handling) (queue' : QueueName) (jobId' : String) :
    (b.setHandling queue jobId handling).handling (queue', jobId') =
      if queue' = queue ∧ jobId' = jobId then handling else b.handling (queue', jobId') := by
  unfold setHandling
  dsimp only
  rw [Function.update_apply]
  simp only [Prod.mk.injEq]

/-- A job in its queue may be handled in another way, unless that is the end of it. -/
theorem BridgeInv.setHandling (hb : BridgeInv start b) {queue : QueueName} {job : Job}
    (hjob : job ∈ b.relay.queues queue) (handling : Handling)
    (hfinished : handling.state = .finished →
      emissionOf queue job ∈ b.emitted ∨ (queue, job.jobId) ∈ b.givenUp) :
    BridgeInv start (b.setHandling queue job.jobId handling) := by
  refine ⟨hb.relay, hb.inFlight, hb.accepted, fun queue' jobId' hnone => ?_, hb.processors, hb.emitted,
    fun queue' job' hjob' => ?_⟩
  · rw [Bridge.handling_setHandling, if_neg]
    · exact hb.idle queue' jobId' hnone
    · rintro ⟨rfl, rfl⟩
      exact hnone job hjob rfl
  · unfold Handled
    rw [Bridge.handling_setHandling]
    by_cases hsame : queue' = queue ∧ job'.jobId = job.jobId
    · obtain ⟨rfl, hid⟩ := hsame
      have heq : job' = job := hb.relay.eq_of_jobId hjob' (hb.relay.queues queue' job hjob) hid
      rw [if_pos ⟨rfl, hid⟩, heq]
      by_cases hend : handling.state = .finished
      · exact .inr (hfinished hend)
      · exact .inl ⟨hjob, hend⟩
    · rw [if_neg hsame]
      exact hb.handled queue' job' hjob'

/-- A processor may leave. -/
theorem BridgeInv.eraseProcessor (hb : BridgeInv start b) (index : ℕ) :
    BridgeInv start { b with processors := b.processors.eraseIdx index } :=
  ⟨hb.relay, hb.inFlight, hb.accepted, hb.idle,
    fun p hp => hb.processors p (List.mem_of_mem_eraseIdx hp), hb.emitted, hb.handled⟩

/-- A processor emits the event of its job. -/
theorem BridgeInv.emit (hb : BridgeInv start b) {index : ℕ} {p : Processor}
    (hp : b.processors[index]? = some p) :
    BridgeInv start
      { b with
        processors := b.processors.set index { p with emitted := true }
        emitted := emissionOf p.queue p.job :: b.emitted } := by
  have hmem := List.mem_of_getElem? hp
  refine ⟨hb.relay, hb.inFlight, hb.accepted, hb.idle, fun p' hp' => ?_, fun e he => ?_,
    fun queue job hjob => ?_⟩
  · rcases List.mem_or_eq_of_mem_set hp' with hp' | rfl
    · obtain ⟨hjob, hemitted⟩ := hb.processors p' hp'
      exact ⟨hjob, fun h => List.mem_cons_of_mem _ (hemitted h)⟩
    · exact ⟨(hb.processors p hmem).1, fun _ => List.mem_cons_self⟩
  · rcases List.mem_cons.mp he with rfl | he
    · exact ⟨p.job, (hb.processors p hmem).1, rfl⟩
    · exact hb.emitted e he
  · rcases hb.handled queue job hjob with hopen | hemitted | hgone
    · exact .inl hopen
    · exact .inr (.inl (List.mem_cons_of_mem _ hemitted))
    · exact .inr (.inr hgone)

/-- A queue that accepts an add in flight has its job to be processed. -/
theorem BridgeInv.accept (hb : BridgeInv start b) {queue : QueueName} {job : Job} {s : World ι}
    (hrelay : Inv start s) (hinFlight : ∀ queue job, InFlight s queue job → Targets queue job)
    (hjob : InFlight b.relay queue job) (hsame : SameQueues s (b.relay.accept queue job)) :
    BridgeInv start { b with relay := s } := by
  have htargets := hb.inFlight queue job hjob
  obtain ⟨hqueues, haccepted⟩ := hsame
  unfold World.accept at hqueues haccepted
  split at hqueues
  · next hdup =>
    -- the queue holds the job already
    rw [if_pos hdup] at haccepted
    refine ⟨hrelay, hinFlight, ?_, ?_, ?_, ?_, ?_⟩
    · rw [haccepted]
      exact hb.accepted
    · rw [hqueues]
      exact hb.idle
    · rw [haccepted]
      exact hb.processors
    · rw [haccepted]
      exact hb.emitted
    · unfold Handled
      rw [haccepted, hqueues]
      exact hb.handled
  · next hnew =>
    rw [if_neg hnew] at haccepted
    dsimp only at hqueues haccepted
    have hhandling : b.handling (queue, job.jobId) = .new := by
      refine hb.idle queue job.jobId fun job' hjob' hid => hnew ?_
      exact List.any_eq_true.mpr ⟨job', hjob', decide_eq_true hid⟩
    have hmem : ∀ queue' job', job' ∈ b.relay.queues queue' → job' ∈ s.queues queue' := by
      intro queue' job' hjob'
      rw [hqueues]
      by_cases hqueue : queue' = queue
      · subst hqueue
        rw [Function.update_self]
        exact List.mem_cons_of_mem _ hjob'
      · rw [Function.update_of_ne hqueue]
        exact hjob'
    refine ⟨hrelay, hinFlight, fun queue' job' hjob' => ?_, fun queue' jobId' hnone => ?_,
      fun p hp => ?_, fun e he => ?_, fun queue' job' hjob' => ?_⟩
    · rw [haccepted] at hjob'
      rcases List.mem_cons.mp hjob' with heq | hjob'
      · obtain ⟨rfl, rfl⟩ := Prod.mk.inj heq
        exact htargets
      · exact hb.accepted queue' job' hjob'
    · exact hb.idle queue' jobId' fun job' hjob' => hnone job' (hmem queue' job' hjob')
    · obtain ⟨hp, hemitted⟩ := hb.processors p hp
      rw [haccepted]
      exact ⟨List.mem_cons_of_mem _ hp, hemitted⟩
    · obtain ⟨job', hjob', heq⟩ := hb.emitted e he
      rw [haccepted]
      exact ⟨job', List.mem_cons_of_mem _ hjob', heq⟩
    · rw [haccepted] at hjob'
      rcases List.mem_cons.mp hjob' with heq | hjob'
      · obtain ⟨rfl, rfl⟩ := Prod.mk.inj heq
        refine .inl ⟨?_, ?_⟩
        · rw [hqueues, Function.update_self]
          exact List.mem_cons_self
        · rw [hhandling]
          exact JobState.noConfusion
      · exact (hb.handled queue' job' hjob').imp_left fun h => ⟨hmem queue' job' h.1, h.2⟩

variable [DecidableEq ι] {givesBack : GivesBack}

/-- A step of the relay keeps the invariant. -/
theorem BridgeInv.relayStep (hb : BridgeInv start b) (event : Event ι)
    (hevent : ∀ queue jobId, event ≠ .remove queue jobId) :
    BridgeInv start { b with relay := b.relay.step event } := by
  have hrelay := hb.relay.step event
  have hinFlight : ∀ queue job, InFlight (b.relay.step event) queue job → Targets queue job :=
    fun queue job h => (inFlight_step event h).elim (hb.inFlight queue job) id
  rcases accepts_step b.relay event hevent with ⟨hqueues, haccepted⟩ | ⟨queue, job, hjob, hsame⟩
  · refine ⟨hrelay, hinFlight, ?_, ?_, ?_, ?_, ?_⟩
    · rw [haccepted]
      exact hb.accepted
    · rw [hqueues]
      exact hb.idle
    · rw [haccepted]
      exact hb.processors
    · rw [haccepted]
      exact hb.emitted
    · unfold Handled
      rw [haccepted, hqueues]
      exact hb.handled
  · exact hb.accept hrelay hinFlight hjob hsame

/-- A job that has been processed may be removed. -/
theorem BridgeInv.remove (hb : BridgeInv start b) {queue : QueueName} {jobId : String}
    (hstate : (b.handling (queue, jobId)).state = .finished) :
    BridgeInv start
      { b.setHandling queue jobId .new with relay := b.relay.step (.remove queue jobId) } := by
  -- the other jobs of the queue, and the other queues, are as they were
  have hmem : ∀ queue' job, job ∈ (b.relay.step (.remove queue jobId)).queues queue' ↔
      job ∈ b.relay.queues queue' ∧ ¬(queue' = queue ∧ job.jobId = jobId) := by
    intro queue' job
    by_cases hqueue : queue' = queue
    · subst hqueue
      simp [World.step]
    · simp [World.step, hqueue]
  refine ⟨hb.relay.step (.remove queue jobId), hb.inFlight, hb.accepted,
    fun queue' jobId' hnone => ?_, hb.processors,
    hb.emitted, fun queue' job hjob => ?_⟩
  · have hhandling := b.handling_setHandling queue jobId .new queue' jobId'
    by_cases hsame : queue' = queue ∧ jobId' = jobId
    · rw [if_pos hsame] at hhandling
      exact hhandling
    · rw [if_neg hsame] at hhandling
      refine hhandling.trans (hb.idle queue' jobId' fun job hjob hid => ?_)
      refine hnone job ((hmem queue' job).mpr ⟨hjob, ?_⟩) hid
      rw [hid]
      exact hsame
  · rcases hb.handled queue' job hjob with ⟨hjob, hopen⟩ | hdone
    · -- a job that is open is not the one that is removed
      have hother : ¬(queue' = queue ∧ job.jobId = jobId) := by
        rintro ⟨rfl, rfl⟩
        exact hopen hstate
      refine .inl ⟨(hmem queue' job).mpr ⟨hjob, hother⟩, ?_⟩
      have hhandling := b.handling_setHandling queue jobId .new queue' job.jobId
      rw [if_neg hother] at hhandling
      intro hfinished
      exact hopen (hhandling ▸ hfinished)
    · exact .inr hdone

/-- A processor whose listeners have settled: the job is done with, or put back. -/
theorem BridgeInv.settle (hb : BridgeInv start b) (index : ℕ) (threw : Bool) :
    BridgeInv start (b.step givesBack (.settle index threw)) := by
  unfold Bridge.step
  dsimp only
  split
  · exact hb
  · next p hp =>
    split
    · next hemitted =>
      have herased := hb.eraseProcessor index
      split
      · next hheld =>
        obtain ⟨job, hjob⟩ := Option.isSome_iff_exists.mp hheld
        obtain ⟨-, hqueue, hid⟩ := Bridge.of_heldJob hjob
        obtain ⟨haccepted, hevent⟩ := hb.processors p (List.mem_of_getElem? hp)
        have heq : job = p.job := hb.relay.eq_of_jobId (hb.relay.queues _ job hqueue) haccepted hid
        rw [heq] at hqueue
        exact herased.setHandling hqueue _ fun _ => .inl (hevent hemitted)
      · exact herased
    · exact hb

/-- Every step keeps the invariant. -/
theorem BridgeInv.step (hb : BridgeInv start b) (event : BridgeEvent ι) :
    BridgeInv start (b.step givesBack event) := by
  cases event with
  | relay event =>
    cases event with
    | remove queue jobId => exact hb
    | insert => exact hb.relayStep _ fun _ _ h => by cases h
    | select => exact hb.relayStep _ fun _ _ h => by cases h
    | sweep => exact hb.relayStep _ fun _ _ h => by cases h
    | landOrphan => exact hb.relayStep _ fun _ _ h => by cases h
  | take queue jobId =>
    unfold Bridge.step
    dsimp only
    split
    · exact hb
    · next job hjob =>
      obtain ⟨-, hqueue, rfl⟩ := Bridge.of_heldJob hjob
      have htaken := hb.setHandling hqueue
        { b.handling (queue, job.jobId) with state := .active } JobState.noConfusion
      refine ⟨htaken.relay, htaken.inFlight, htaken.accepted, htaken.idle, fun p hp => ?_,
        htaken.emitted, htaken.handled⟩
      rcases List.mem_cons.mp hp with rfl | hp
      · exact ⟨hb.relay.queues queue job hqueue, Bool.noConfusion⟩
      · exact hb.processors p hp
  | emit index =>
    unfold Bridge.step
    dsimp only
    split
    · exact hb
    · next p hp =>
      split
      · exact hb
      · exact hb.emit hp
  | settle index threw => exact hb.settle index threw
  | die index => exact hb.eraseProcessor index
  | stall queue jobId =>
    unfold Bridge.step
    dsimp only
    split
    · exact hb
    · next job hjob =>
      obtain ⟨-, hqueue, rfl⟩ := Bridge.of_heldJob hjob
      split
      · next hfinished =>
        -- BullMQ is done with the job
        have hgone : BridgeInv start { b with givenUp := (queue, job.jobId) :: b.givenUp } := by
          refine ⟨hb.relay, hb.inFlight, hb.accepted, hb.idle, hb.processors, hb.emitted,
            fun queue' job' hjob' => ?_⟩
          rcases hb.handled queue' job' hjob' with hopen | hemitted | hgone
          · exact .inl hopen
          · exact .inr (.inl hemitted)
          · exact .inr (.inr (List.mem_cons_of_mem _ hgone))
        exact hgone.setHandling hqueue _ fun _ => .inr List.mem_cons_self
      · next hopen => exact hb.setHandling hqueue _ fun hfinished => absurd hfinished hopen
  | remove queue jobId =>
    unfold Bridge.step
    dsimp only
    split
    · exact hb
    · next job hjob => exact hb.remove (Bridge.of_heldJob hjob).1

/-- The invariant holds after any steps. -/
theorem bridgeInv_foldl (givesBack : GivesBack) (start : OutboxTable) (events : List (BridgeEvent ι)) :
    BridgeInv start (events.foldl (Bridge.step givesBack) (Bridge.init (World.init start))) :=
  foldl_invariant (fun _ event hb => hb.step event) (bridgeInv_init start) events

/-! ## The rows of the table

A step of the bridge leaves the table alone, and a step of the relay extends it: rows keep the event they
hold, so a job can be compared with its row at any later time.
-/

/-- A write to the outbox leaves the events of its rows alone. -/
theorem sameEvent_onRow (write : TableWrite) (r : OutboxRow) : SameEvent (write.onRow r) r := by
  unfold TableWrite.onRow
  split
  · split
    · exact ⟨rfl, rfl, rfl, rfl⟩
    · exact .refl r
  · split
    · exact ⟨rfl, rfl, rfl, rfl⟩
    · exact .refl r
  · exact .refl r

/-- The table grows with every step of the relay. -/
theorem extends_relayStep (s : World ι) (event : Event ι) :
    Extends s.table (s.step event).table :=
  fun r hr => ⟨_, (written_step s event).onRow_mem hr, sameEvent_onRow _ r⟩

/-- Every step of the relay and the bridge keeps the rows. -/
theorem extends_bridgeStep (b : Bridge ι) (event : BridgeEvent ι) :
    Extends b.relay.table (b.step givesBack event).relay.table := by
  cases event with
  -- only the relay writes to the table; a job is removed by the bridge's own event
  | relay event =>
    cases event with
    | remove queue jobId => exact .refl _
    | insert => exact extends_relayStep _ _
    | select => exact extends_relayStep _ _
    | sweep => exact extends_relayStep _ _
    | landOrphan => exact extends_relayStep _ _
  | take queue jobId =>
    unfold Bridge.step
    dsimp only
    split
    · exact .refl _
    · exact .refl _
  | emit index =>
    unfold Bridge.step
    dsimp only
    split
    · exact .refl _
    · split
      · exact .refl _
      · exact .refl _
  | settle index threw =>
    unfold Bridge.step
    dsimp only
    split
    · exact .refl _
    · split
      · split
        · exact .refl _
        · exact .refl _
      · exact .refl _
  | die index => exact .refl _
  | stall queue jobId =>
    unfold Bridge.step
    dsimp only
    split
    · exact .refl _
    · exact .refl _
  | remove queue jobId =>
    unfold Bridge.step
    dsimp only
    split
    · exact .refl _
    · exact .refl _

/-! ## Emissions and rows

Every emission is traced back through its job to a row of the table, and every row of which all jobs have
been emitted has reached all its queues.
-/

/-- An emission is of a row: it came through a queue that the row routes to, under the type of the row,
and its properties are those of the payload but for the id and the tenant, which are those of the row.
-/
structure EmissionOfRow (r : OutboxRow) (e : Emission) : Prop where
  routed : ∃ queues, route r.eventType = .targets queues ∧ e.queue ∈ queues
  name : e.name = r.eventType
  outboxEventId : e.event.get "outboxEventId" = .str r.id
  tenantId : e.event.get "tenantId" = .str r.tenantId
  payload : ∀ key, key ≠ "outboxEventId" → key ≠ "tenantId" →
    e.event.get key = (Value.obj r.payload.spread).get key

/-- A job of a row is emitted as the event of that row. -/
theorem emissionOfRow_jobOf {r : OutboxRow} {queue : QueueName} (h : Targets queue (jobOf r queue)) :
    EmissionOfRow r (emissionOf queue (jobOf r queue)) where
  routed := h
  name := rfl
  outboxEventId := by
    unfold emissionOf
    rw [Value.get_setField, if_neg (by decide), Value.get_setField, if_pos rfl]
    rfl
  tenantId := by
    unfold emissionOf
    rw [Value.get_setField, if_pos rfl]
    rfl
  payload key hid htenant := by
    unfold emissionOf
    rw [Value.get_setField, if_neg htenant, Value.get_setField, if_neg hid]
    rfl

omit [DecidableEq ι] in
/-- Every emission is of a stored row, and says of it what its job says. -/
theorem BridgeInv.exists_row (hb : BridgeInv start b) {e : Emission} (he : e ∈ b.emitted) :
    ∃ r ∈ b.relay.table.rows, EmissionOfRow r e ∧ e = emissionOf e.queue (jobOf r e.queue) := by
  obtain ⟨job, hjob, heq⟩ := hb.emitted e he
  obtain ⟨r, hr, rfl⟩ := hb.relay.accepted _ job hjob
  refine ⟨r, hr, ?_, heq⟩
  rw [heq]
  exact emissionOfRow_jobOf (hb.accepted _ _ hjob)

/-- After any steps of the relay and the bridge, everything emitted is of a row of the outbox, and what
comes through one queue with the id of one row is always the same event. -/
theorem emitted_of_row (givesBack : GivesBack) (start : OutboxTable) (events : List (BridgeEvent ι)) :
    let b := events.foldl (Bridge.step givesBack) (Bridge.init (World.init start))
    (∀ e ∈ b.emitted, ∃ r ∈ b.relay.table.rows, EmissionOfRow r e) ∧
      ∀ e ∈ b.emitted, ∀ e' ∈ b.emitted, e.queue = e'.queue →
        e.event.get "outboxEventId" = e'.event.get "outboxEventId" → e = e' := by
  intro b
  have hb : BridgeInv start b := bridgeInv_foldl givesBack start events
  constructor
  · intro e he
    obtain ⟨r, hr, hrow, -⟩ := hb.exists_row he
    exact ⟨r, hr, hrow⟩
  · intro e he e' he' hqueue hid
    obtain ⟨r, hr, hrow, heq⟩ := hb.exists_row he
    obtain ⟨r', hr', hrow', heq'⟩ := hb.exists_row he'
    rw [hrow.outboxEventId, hrow'.outboxEventId] at hid
    have hrr : r = r' := Table.eq_of_id_eq hr hr' (Value.str.inj hid)
    rw [heq, heq', hrr, hqueue]

/-- After any steps, and by any rule of BullMQ, a row that is published was so from the start, or in
each queue of its type its job is still to be processed, was emitted, or was given up when a lock on it
had expired. -/
theorem published_handled (givesBack : GivesBack) (start : OutboxTable) (events : List (BridgeEvent ι)) :
    let b := events.foldl (Bridge.step givesBack) (Bridge.init (World.init start))
    ∀ r ∈ b.relay.table.rows, r.published = true →
      (∃ r₀ ∈ start.rows, r₀.id = r.id ∧ r₀.published = true) ∨
        ∃ queues, route r.eventType = .targets queues ∧
          ∀ queue ∈ queues, Handled b queue (jobOf r queue) := by
  intro b r hr hpublished
  have hb : BridgeInv start b := bridgeInv_foldl givesBack start events
  refine (hb.relay.rows r hr hpublished).imp_right ?_
  rintro ⟨queues, hroute, haccepted⟩
  exact ⟨queues, hroute, fun queue hqueue => hb.handled queue _ (haccepted queue hqueue)⟩

/-! ## How often a row is emitted

A job is taken once, and again each time the queue gives it back. The bound counts, for one row and one
queue, the emissions so far, those that are pending, and the times the queue may still give the job back.
-/

/-- The emissions of a row through a queue. -/
def emissions (b : Bridge ι) (queue : QueueName) (rowId : String) : ℕ :=
  b.emitted.countP fun e => e.queue = queue ∧ (e.event.get "outboxEventId").isStr rowId

/-- The processors that have yet to emit the row. -/
def pendingEmissions (b : Bridge ι) (queue : QueueName) (rowId : String) : ℕ :=
  b.processors.countP fun p => p.queue = queue ∧ p.job.outboxEventId = rowId ∧ p.emitted = false

/-- BullMQ's rule puts a job back `limit` times at most, whatever the setback. -/
def GivesBackAtMost (limit : ℕ) (givesBack : GivesBack) : Prop :=
  ∀ setbacks setback, limit ≤ setbacks.length → givesBack setbacks setback = false

/-- How often a job in its queue may still be taken, if it is put back `limit` times at most. -/
def takesLeft (limit : ℕ) (handling : Handling) : ℕ :=
  match handling.state with
  | .waiting => limit + 1 - handling.setbacks.length
  | .active => limit - handling.setbacks.length
  | .finished => 0

/-- A job that is put back is not taken more often. -/
theorem takesLeft_setBack_le {limit : ℕ} (hlimit : GivesBackAtMost limit givesBack) {handling : Handling}
    (hactive : handling.state = .active) (hreturned : handling.setbacks.length ≤ limit) (setback : Setback) :
    takesLeft limit (handling.setBack givesBack setback) ≤ takesLeft limit handling ∧
      (handling.setBack givesBack setback).setbacks.length ≤ limit := by
  unfold Handling.setBack
  split
  · next hback =>
    have hlt : handling.setbacks.length < limit := by
      by_contra hle
      rw [hlimit _ setback (Nat.le_of_not_lt hle)] at hback
      cases hback
    refine ⟨?_, hlt⟩
    unfold takesLeft
    rw [hactive]
    dsimp only
    rw [List.length_cons]
    omega
  · exact ⟨Nat.zero_le _, hreturned⟩

/-- The removals of a job among some steps. -/
def removals (events : List (BridgeEvent ι)) (queue : QueueName) (rowId : String) : ℕ :=
  events.countP fun
    | .remove queue' jobId' => queue' = queue ∧ jobId' = jobId rowId queue
    | _ => false

/-- Each time that the job is in the queue accounts for so many emissions, those made, those to come
from a processor, and those for which the job is still to be taken. -/
structure EmissionBound (limit : ℕ) (queue : QueueName) (rowId : String) (removed : ℕ) (b : Bridge ι) :
    Prop where
  total : emissions b queue rowId + pendingEmissions b queue rowId +
    takesLeft limit (b.handling (queue, jobId rowId queue)) ≤ (limit + 1) * (removed + 1)
  returned : ∀ queue' jobId', (b.handling (queue', jobId')).setbacks.length ≤ limit

omit [DecidableEq ι] in
/-- A job that is handled in another way, with as many takes left at most. -/
theorem EmissionBound.setHandling {limit : ℕ} {queue : QueueName} {rowId : String} {removed : ℕ}
    (hb : EmissionBound limit queue rowId removed b) (queue' : QueueName)
      (jobId' : String) (handling : Handling)
    (htakes : takesLeft limit handling ≤ takesLeft limit (b.handling (queue', jobId')))
    (hreturned : handling.setbacks.length ≤ limit) :
    EmissionBound limit queue rowId removed (b.setHandling queue' jobId' handling) := by
  constructor
  · have htotal := hb.total
    rw [Bridge.handling_setHandling]
    split
    · next hsame =>
      rw [← hsame.1, ← hsame.2] at htakes
      show emissions b queue rowId + pendingEmissions b queue rowId + _ ≤ _
      omega
    · exact htotal
  · intro queue'' jobId''
    rw [Bridge.handling_setHandling]
    split
    · exact hreturned
    · exact hb.returned queue'' jobId''

omit [DecidableEq ι] in
/-- A processor that is gone may have emitted less than it could. -/
theorem EmissionBound.eraseProcessor {limit : ℕ} {queue : QueueName} {rowId : String} {removed : ℕ}
    (hb : EmissionBound limit queue rowId removed b) (index : ℕ) :
    EmissionBound limit queue rowId removed { b with processors := b.processors.eraseIdx index } := by
  have hle : pendingEmissions { b with processors := b.processors.eraseIdx index } queue rowId ≤
      pendingEmissions b queue rowId := (List.eraseIdx_sublist _ _).countP_le
  exact ⟨(Nat.add_le_add_right (Nat.add_le_add_left hle _) _).trans hb.total, hb.returned⟩

omit [DecidableEq ι] in
/-- In a queue, a job has the id of a row exactly if it is for that row. -/
theorem BridgeInv.jobId_eq_iff (hb : BridgeInv start b) {queue : QueueName} {job : Job}
    (hjob : job ∈ b.relay.queues queue) (rowId : String) :
    job.jobId = jobId rowId queue ↔ job.outboxEventId = rowId := by
  obtain ⟨r, -, rfl⟩ := hb.relay.accepted queue job (hb.relay.queues queue job hjob)
  constructor
  · exact jobId_inj
  · rintro rfl
    rfl

omit [DecidableEq ι] in
/-- A worker takes a job: one take less is left, and one emission more is to come. -/
theorem EmissionBound.take {limit : ℕ} {queue : QueueName} {rowId : String} {removed : ℕ}
    (hinv : BridgeInv start b)
    (hb : EmissionBound limit queue rowId removed b) {queue' : QueueName} {job : Job}
    (hjob : job ∈ b.relay.queues queue') (hwaiting : (b.handling (queue', job.jobId)).state = .waiting) :
    EmissionBound limit queue rowId removed
      { b.setHandling queue' job.jobId { b.handling (queue', job.jobId) with state := .active } with
        processors := ⟨queue', job, false⟩ :: b.processors } := by
  have hreturned := hb.returned queue' job.jobId
  -- what a job can still be taken goes down by one, and one worker more is going to emit
  have htakes : takesLeft limit { b.handling (queue', job.jobId) with state := .active } + 1 =
      takesLeft limit (b.handling (queue', job.jobId)) := by
    unfold takesLeft
    rw [hwaiting]
    dsimp only
    omega
  have hset := hb.setHandling queue' job.jobId
    { b.handling (queue', job.jobId) with state := .active } (by omega) hreturned
  refine ⟨?_, hset.returned⟩
  have htotal := hb.total
  have hhandling := b.handling_setHandling queue' job.jobId
    { b.handling (queue', job.jobId) with state := .active } queue (jobId rowId queue)
  have hpending : pendingEmissions { b.setHandling queue' job.jobId
        { b.handling (queue', job.jobId) with state := .active } with
      processors := ⟨queue', job, false⟩ :: b.processors } queue rowId = pendingEmissions b queue rowId +
        if queue = queue' ∧ jobId rowId queue = job.jobId then 1 else 0 := by
    unfold pendingEmissions
    rw [List.countP_cons]
    refine congrArg _ (if_congr ?_ rfl rfl)
    rw [decide_eq_true_eq]
    constructor
    · rintro ⟨rfl, hid, -⟩
      exact ⟨rfl, ((hinv.jobId_eq_iff hjob rowId).mpr hid).symm⟩
    · rintro ⟨rfl, hid⟩
      exact ⟨rfl, (hinv.jobId_eq_iff hjob rowId).mp hid.symm, rfl⟩
  rw [hpending]
  show emissions b queue rowId + _ + takesLeft limit ((b.setHandling queue' job.jobId _).handling _) ≤ _
  rw [hhandling]
  split
  · next hsame =>
    obtain ⟨rfl, hid⟩ := hsame
    rw [hid] at htotal
    omega
  · omega

omit [DecidableEq ι] in
/-- A processor emits: the emission to come is made. -/
theorem EmissionBound.emit {limit : ℕ} {queue : QueueName} {rowId : String} {removed : ℕ}
    (hb : EmissionBound limit queue rowId removed b)
    {index : ℕ} {p : Processor} (hp : b.processors[index]? = some p) (hpending : ¬p.emitted = true) :
    EmissionBound limit queue rowId removed
      { b with
        processors := b.processors.set index { p with emitted := true }
        emitted := emissionOf p.queue p.job :: b.emitted } := by
  refine ⟨?_, hb.returned⟩
  have htotal := hb.total
  obtain ⟨hlt, hget⟩ := List.getElem?_eq_some_iff.mp hp
  -- the id of the row is set last, so that no key of the payload can hide it
  have hid : (emissionOf p.queue p.job).event.get "outboxEventId" = .str p.job.outboxEventId := by
    unfold emissionOf
    rw [Value.get_setField, if_neg (by decide), Value.get_setField, if_pos rfl]
  have hemissions : (emissionOf p.queue p.job :: b.emitted).countP (fun e =>
      e.queue = queue ∧ (e.event.get "outboxEventId").isStr rowId) = emissions b queue rowId +
        if p.queue = queue ∧ p.job.outboxEventId = rowId then 1 else 0 := by
    rw [List.countP_cons]
    refine congrArg _ (if_congr ?_ rfl rfl)
    rw [hid]
    simp [emissionOf, Value.isStr]
  -- the worker that emits is no longer one that is going to: the two counts change by one each
  have hprocessors : (b.processors.set index { p with emitted := true }).countP (fun p =>
      p.queue = queue ∧ p.job.outboxEventId = rowId ∧ p.emitted = false) +
        (if p.queue = queue ∧ p.job.outboxEventId = rowId then 1 else 0) =
            pendingEmissions b queue rowId := by
    have hle : (if p.queue = queue ∧ p.job.outboxEventId = rowId then 1 else 0) ≤
        pendingEmissions b queue rowId := by
      split
      · next hsame =>
        refine List.countP_pos_iff.mpr ⟨p, List.mem_of_getElem? hp, ?_⟩
        simp [hsame, hpending]
      · exact Nat.zero_le _
    rw [List.countP_set hlt, hget]
    simp only [Bool.not_eq_true] at hpending
    simp only [hpending, and_true, Bool.true_eq_false, and_false, decide_false, decide_eq_true_eq,
      Bool.false_eq_true, if_false, Nat.add_zero]
    unfold pendingEmissions at hle ⊢
    omega
  have hsum : emissions b queue rowId + (if p.queue = queue ∧ p.job.outboxEventId = rowId then 1 else 0) +
      (b.processors.set index { p with emitted := true }).countP (fun p =>
        p.queue = queue ∧ p.job.outboxEventId = rowId ∧ p.emitted = false) +
      takesLeft limit (b.handling (queue, jobId rowId queue)) ≤ (limit + 1) * (removed + 1) := by
    omega
  rw [← hemissions] at hsum
  exact hsum

/-- A step keeps the bound, which a removal of the job raises. -/
theorem EmissionBound.step {limit : ℕ} (hlimit : GivesBackAtMost limit givesBack) {queue : QueueName}
    {rowId : String} {removed : ℕ} (hinv : BridgeInv start b)
      (hb : EmissionBound limit queue rowId removed b)
    (event : BridgeEvent ι) :
    EmissionBound limit queue rowId (removed + removals [event] queue rowId) (b.step givesBack event) := by
  cases event with
  | relay event =>
    -- nothing the relay does takes or emits a job; removing one is a step of the bridge
    cases event with
    | remove queue' jobId' => exact hb
    | insert => exact ⟨hb.total, hb.returned⟩
    | select => exact ⟨hb.total, hb.returned⟩
    | sweep => exact ⟨hb.total, hb.returned⟩
    | landOrphan => exact ⟨hb.total, hb.returned⟩
  | take queue' jobId' =>
    unfold Bridge.step
    dsimp only
    split
    · exact hb
    · next job hjob =>
      obtain ⟨hwaiting, hqueue, rfl⟩ := Bridge.of_heldJob hjob
      exact hb.take hinv hqueue hwaiting
  | emit index =>
    unfold Bridge.step
    dsimp only
    split
    · exact hb
    · next p hp =>
      split
      · exact hb
      · next hpending => exact hb.emit hp hpending
  | settle index =>
    unfold Bridge.step
    dsimp only
    split
    · exact hb
    · next p hp =>
      split
      · have herased := hb.eraseProcessor index
        split
        · next hheld =>
          -- a worker that has lost the lock settles nothing; one that holds it leaves the job
          -- finished or back in the queue
          obtain ⟨job, hjob⟩ := Option.isSome_iff_exists.mp hheld
          obtain ⟨hactive, -, -⟩ := Bridge.of_heldJob hjob
          split
          · obtain ⟨htakes, hreturned⟩ := takesLeft_setBack_le hlimit hactive (hb.returned _ _) .threw
            exact herased.setHandling _ _ _ htakes hreturned
          · exact herased.setHandling _ _ _ (Nat.zero_le _) (hb.returned _ _)
        · exact herased
      · exact hb
  | die index => exact hb.eraseProcessor index
  | stall queue' jobId' =>
    unfold Bridge.step
    dsimp only
    split
    · exact hb
    · next job hjob =>
      obtain ⟨hactive, -, -⟩ := Bridge.of_heldJob hjob
      obtain ⟨htakes, hreturned⟩ := takesLeft_setBack_le hlimit hactive (hb.returned _ _) .stalled
      have hset := hb.setHandling queue' jobId' _ htakes hreturned
      exact ⟨hset.total, hset.returned⟩
  | remove queue' jobId' =>
    unfold Bridge.step
    dsimp only
    split
    · exact ⟨hb.total.trans (Nat.mul_le_mul_left _ (by omega)), hb.returned⟩
    · next job hjob =>
      obtain ⟨hfinished, -, -⟩ := Bridge.of_heldJob hjob
      have htotal := hb.total
      have hhandling := b.handling_setHandling queue' jobId' .new
      constructor
      · -- a removed job can be taken as often as a new one, which is what the removal adds to the
        -- bound
        show emissions b queue rowId + pendingEmissions b queue rowId +
          takesLeft limit ((b.setHandling queue' jobId' .new).handling _) ≤ _
        rw [hhandling]
        unfold removals
        rw [List.countP_singleton]
        split
        · next hsame =>
          obtain ⟨rfl, rfl⟩ := hsame
          have hleft : takesLeft limit (.new : Handling) = limit + 1 := rfl
          rw [hleft, if_pos (by simp), ← Nat.add_assoc, Nat.mul_succ]
          omega
        · exact htotal.trans (Nat.mul_le_mul_left _ (by omega))
      · intro queue'' jobId''
        show ((b.setHandling queue' jobId' .new).handling _).setbacks.length ≤ _
        rw [hhandling]
        split
        · exact Nat.zero_le _
        · exact hb.returned queue'' jobId''

/-- After any steps, if BullMQ puts a job back `limit` times at most, a row has been emitted through a
queue at most once more than that for each time that its job was in the queue, which is once and again
after every removal. -/
theorem emissions_le (givesBack : GivesBack) (limit : ℕ) (hlimit : GivesBackAtMost limit givesBack)
    (start : OutboxTable) (events : List (BridgeEvent ι)) (queue : QueueName) (rowId : String) :
    emissions (events.foldl (Bridge.step givesBack) (Bridge.init (World.init start))) queue rowId ≤
      (limit + 1) * (removals events queue rowId + 1) := by
  have hbound : ∀ (events : List (BridgeEvent ι)) (b : Bridge ι) (removed : ℕ), BridgeInv start b →
      EmissionBound limit queue rowId removed b →
      EmissionBound limit queue rowId (removed + removals events queue rowId)
        (events.foldl (Bridge.step givesBack) b) := by
    intro events
    induction events with
    | nil => exact fun b removed _ hb => hb
    | cons event events ih =>
      intro b removed hinv hb
      have hremovals : removals ([event] ++ events) queue rowId =
          removals [event] queue rowId + removals events queue rowId := List.countP_append
      rw [List.singleton_append] at hremovals
      rw [hremovals, ← Nat.add_assoc]
      exact ih _ _ (hinv.step event) (hb.step hlimit hinv event)
  have hinit : EmissionBound limit queue rowId 0 (Bridge.init (World.init start) : Bridge ι) :=
    ⟨le_of_eq (by rw [Nat.mul_one]; exact Nat.zero_add _), fun _ _ => Nat.zero_le _⟩
  have htotal := (hbound events _ 0 (bridgeInv_init start) hinit).total
  rw [Nat.zero_add] at htotal
  omega

/-- BullMQ's rule as it is without settings: a stalled job is put back once, and one whose processor
has thrown is not put back. -/
def givesBackOnce : GivesBack
  | setbacks, .stalled => setbacks.isEmpty
  | _, .threw => false

/-- A row is written and its job added, a worker takes the job and emits, its lock expires, and another
worker takes the job and emits. -/
def emittedTwice : List (BridgeEvent Unit) :=
  [.relay (.insert "row-1" "tenant-1" "message-1" "IngestedMessage" "MessageIngestedEvent" (.obj []) 0),
    .relay (.select () fun _ => 0), .relay (.sweep () .next), .relay (.sweep () (.land .classification)),
    .take .classification "row-1-classification", .emit 0, .stall .classification "row-1-classification",
    .take .classification "row-1-classification", .emit 0]

/-- The bound is reached: the row has been emitted twice, and its job was not removed. -/
theorem emissions_emittedTwice :
    emissions (emittedTwice.foldl (Bridge.step givesBackOnce) (Bridge.init (World.init .empty)))
        .classification "row-1" = 2 ∧
      emissions (emittedTwice.foldl (Bridge.step givesBackOnce) (Bridge.init (World.init .empty)))
        .classification "row-1" ≤ (1 + 1) * (0 + 1) := by
  have hlimit : GivesBackAtMost 1 givesBackOnce := by
    intro setbacks setback h
    cases setback with
    | stalled => exact List.isEmpty_eq_false_iff.mpr (List.ne_nil_of_length_pos h)
    | threw => rfl
  exact ⟨by decide +kernel,
    emissions_le givesBackOnce 1 hlimit .empty emittedTwice .classification "row-1"⟩

end EmailTriage.Queue
