import EmailTriage.Queue.OutboxDelivery

/-!
# Jobs reach the queues of their event only

The adds in flight are those of running sweeps and those that outlived one. Each was started for a queue
that the event of its row routes to, and a queue accepts nothing else.

`inFlight_step` says that every add a step starts is for such a queue, and `accepts_step` that the
queues only grow by an add in flight; a job that is removed is an event of its own. The bridge takes
its jobs from these queues, so what it emits goes back to a row that routes to the queue.
-/

namespace EmailTriage.Queue

/-- The event of a job routes to a queue. -/
def Targets (queue : QueueName) (job : Job) : Prop :=
  ∃ queues, route job.eventType = .targets queues ∧ queue ∈ queues

variable {ι : Type}

/-- An add that has not reached its queue. -/
def InFlight (s : World ι) (queue : QueueName) (job : Job) : Prop :=
  (queue, job) ∈ s.orphans ∨ ∃ worker w row waiting landed, s.sweeps worker = some w ∧
    w.phase = .adding row waiting landed ∧ queue ∈ waiting ∧ job = jobOf row queue

/-- An add that a phase is about to make. -/
def PhaseAdds (queue : QueueName) (job : Job) : Phase → Prop
  | .adding row waiting _ => queue ∈ waiting ∧ job = jobOf row queue
  | _ => False

/-- A row is started for the queues its event routes to. -/
theorem targets_startRow {row : OutboxRow} {queue : QueueName} {job : Job}
    (h : PhaseAdds queue job (startRow row)) : Targets queue job := by
  unfold startRow at h
  split at h
  · exact h.elim
  · exact h.elim
  · exact h.elim
  · next queues _ hroute =>
    obtain ⟨hqueue, rfl⟩ := h
    exact ⟨queues, hroute, hqueue⟩

variable [DecidableEq ι]

/-- The adds after a sweep has moved on are those of its new phase, or were there. -/
theorem inFlight_setSweep {s : World ι} {worker : ι} {sweep : Option Sweep} {queue : QueueName} {job : Job}
    (h : InFlight (s.setSweep worker sweep) queue job) :
    (∃ w, sweep = some w ∧ PhaseAdds queue job w.phase) ∨ InFlight s queue job := by
  rcases h with h | ⟨worker', w, row, waiting, landed, hw, hphase, hqueue, hjob⟩
  · exact .inr (.inl h)
  · unfold World.setSweep at hw
    dsimp only at hw
    by_cases hworker : worker' = worker
    · rw [hworker, Function.update_self] at hw
      refine .inl ⟨w, hw, ?_⟩
      rw [hphase]
      exact ⟨hqueue, hjob⟩
    · rw [Function.update_of_ne hworker] at hw
      exact .inr (.inr ⟨worker', w, row, waiting, landed, hw, hphase, hqueue, hjob⟩)

omit [DecidableEq ι] in
/-- What is in flight after an add was in flight before. -/
theorem inFlight_accept {s : World ι} {queue : QueueName} {job : Job} (queue' : QueueName) (job' : Job)
    (h : InFlight (s.accept queue' job') queue job) : InFlight s queue job := by
  unfold InFlight at h
  rw [World.orphans_accept, World.sweeps_accept] at h
  exact h

omit [DecidableEq ι] in
/-- The adds that a sweep leaves behind were its own. -/
theorem inFlight_abandon {s : World ι} {worker : ι} {w : Sweep} (hw : s.sweeps worker = some w)
    {row : OutboxRow} {waiting landed : List QueueName} (hphase : w.phase = .adding row waiting landed)
    {queue : QueueName} {job : Job} (h : InFlight (s.abandon row waiting) queue job) :
    InFlight s queue job := by
  rcases h with h | h
  · rcases List.mem_append.mp h with h | h
    · exact .inl h
    · obtain ⟨queue', hqueue', heq⟩ := List.mem_map.mp h
      obtain ⟨rfl, rfl⟩ := Prod.mk.inj heq
      exact .inr ⟨worker, w, row, waiting, landed, hw, hphase, hqueue', rfl⟩
  · exact .inr h

/-- A sweep starts adds for the queues of a row only. -/
theorem inFlight_sweepStep {s : World ι} {worker : ι} {w : Sweep} (hw : s.sweeps worker = some w)
    (event : SweepEvent) {queue : QueueName} {job : Job}
    (h : InFlight (s.sweepStep worker w event) queue job) : InFlight s queue job ∨ Targets queue job := by
  -- the adds of a phase that has fewer of them than the one before
  have hfewer : ∀ {row : OutboxRow} {waiting waiting' landed : List QueueName},
      w.phase = .adding row waiting landed → (∀ q ∈ waiting', q ∈ waiting) → queue ∈ waiting' →
      job = jobOf row queue → InFlight s queue job := by
    intro row waiting waiting' landed hphase hsub hqueue hjob
    exact .inr ⟨worker, w, row, waiting, landed, hw, hphase, hsub queue hqueue, hjob⟩
  cases event with
  | next =>
    simp only [World.sweepStep] at h
    split at h
    · rcases inFlight_setSweep h with ⟨w', hw', hadds⟩ | h
      · rw [← Option.some.inj hw'] at hadds
        exact .inr (targets_startRow hadds)
      · exact .inl h
    · rcases inFlight_setSweep h with ⟨w', hw', -⟩ | h
      · cases hw'
      · exact .inl h
    · exact .inl h
  | land queue' =>
    simp only [World.sweepStep] at h
    split at h
    · next row waiting landed hphase =>
      split at h
      · rcases inFlight_setSweep h with ⟨w', hw', hadds⟩ | h
        · rw [← Option.some.inj hw'] at hadds
          exact .inl (hfewer hphase (fun q hq => List.mem_of_mem_erase hq) hadds.1 hadds.2)
        · exact .inl (inFlight_accept _ _ h)
      · exact .inl h
    · exact .inl h
  | resolve queue' =>
    simp only [World.sweepStep] at h
    split at h
    · next row waiting landed hphase =>
      split at h
      · rcases inFlight_setSweep h with ⟨w', hw', hadds⟩ | h
        · rw [← Option.some.inj hw'] at hadds
          dsimp only at hadds
          split at hadds
          · exact hadds.elim
          · exact .inl (hfewer hphase (fun q hq => hq) hadds.1 hadds.2)
        · exact .inl h
      · exact .inl h
    · exact .inl h
  | reject queue' message =>
    simp only [World.sweepStep] at h
    split at h
    · next row waiting landed hphase =>
      split at h
      · rcases inFlight_setSweep h with ⟨w', hw', hadds⟩ | h
        · rw [← Option.some.inj hw'] at hadds
          exact hadds.elim
        · exact .inl (inFlight_abandon hw hphase h)
      · exact .inl h
    · exact .inl h
  | update now error =>
    simp only [World.sweepStep] at h
    split at h
    · split at h
      · rcases inFlight_setSweep h with ⟨w', hw', hadds⟩ | h
        · rw [← Option.some.inj hw'] at hadds
          exact hadds.elim
        · exact .inl h
      · rcases inFlight_setSweep h with ⟨w', hw', hadds⟩ | h
        · rw [← Option.some.inj hw'] at hadds
          exact hadds.elim
        · exact .inl h
    · exact .inl h
  | markFailed error =>
    simp only [World.sweepStep] at h
    split at h
    · split at h
      · rcases inFlight_setSweep h with ⟨w', hw', hadds⟩ | h
        · rw [← Option.some.inj hw'] at hadds
          exact hadds.elim
        · exact .inl h
      · rcases inFlight_setSweep h with ⟨w', hw', -⟩ | h
        · cases hw'
        · exact .inl h
    · exact .inl h
  | stop =>
    simp only [World.sweepStep] at h
    split at h
    · next row waiting landed hphase =>
      rcases inFlight_setSweep h with ⟨w', hw', -⟩ | h
      · cases hw'
      · exact .inl (inFlight_abandon hw hphase h)
    · rcases inFlight_setSweep h with ⟨w', hw', -⟩ | h
      · cases hw'
      · exact .inl h

/-- Every add that a step of the relay starts is for a queue its event routes to. -/
theorem inFlight_step {s : World ι} (event : Event ι) {queue : QueueName} {job : Job}
    (h : InFlight (s.step event) queue job) : InFlight s queue job ∨ Targets queue job := by
  cases event with
  | insert id tenantId aggregateId aggregateType eventType payload now => exact .inl h
  | select worker rank =>
    simp only [World.step] at h
    split at h
    · rcases inFlight_setSweep h with ⟨w', hw', hadds⟩ | h
      · rw [← Option.some.inj hw'] at hadds
        exact hadds.elim
      · exact .inl h
    · exact .inl h
  | sweep worker event =>
    simp only [World.step] at h
    split at h
    · exact .inl h
    · next w hw => exact inFlight_sweepStep hw event h
  | landOrphan index =>
    simp only [World.step] at h
    split at h
    · exact .inl h
    · next queue' job' horphan =>
      refine .inl (inFlight_accept queue' job' ?_)
      rcases h with h | h
      · refine .inl ?_
        rw [World.orphans_accept]
        exact List.mem_of_mem_eraseIdx h
      · exact .inr h
  | remove queue' jobId => exact .inl h

/-! ## What a queue accepts

Only an add makes a queue accept a job, and an add is for a queue of the route of its row.
-/

/-- The queues and the log are those of another world. -/
structure SameQueues (s s' : World ι) : Prop where
  queues : s.queues = s'.queues
  accepted : s.accepted = s'.accepted

/-- A step of a sweep leaves the queues alone, or an add in flight reaches its queue. -/
theorem accepts_sweepStep {s : World ι} {worker : ι} {w : Sweep} (hw : s.sweeps worker = some w)
    (event : SweepEvent) :
    SameQueues (s.sweepStep worker w event) s ∨
      ∃ queue job, InFlight s queue job ∧ SameQueues (s.sweepStep worker w event) (s.accept queue job) := by
  cases event with
  | land queue =>
    simp only [World.sweepStep]
    split
    · next row waiting landed hphase =>
      split
      · next hqueue =>
        -- only `land` reaches a queue, and it lands what a sweep has under way
        exact .inr ⟨queue, jobOf row queue, .inr ⟨worker, w, row, waiting, landed, hw, hphase, hqueue, rfl⟩,
          rfl, rfl⟩
      · exact .inl ⟨rfl, rfl⟩
    · exact .inl ⟨rfl, rfl⟩
  | next =>
    left
    simp only [World.sweepStep]
    split
    · exact ⟨rfl, rfl⟩
    · exact ⟨rfl, rfl⟩
    · exact ⟨rfl, rfl⟩
  | resolve queue =>
    left
    simp only [World.sweepStep]
    split
    · split
      · exact ⟨rfl, rfl⟩
      · exact ⟨rfl, rfl⟩
    · exact ⟨rfl, rfl⟩
  | reject queue message =>
    left
    simp only [World.sweepStep]
    split
    · split
      · exact ⟨rfl, rfl⟩
      · exact ⟨rfl, rfl⟩
    · exact ⟨rfl, rfl⟩
  | update now error =>
    left
    simp only [World.sweepStep]
    split
    · split
      · exact ⟨rfl, rfl⟩
      · exact ⟨rfl, rfl⟩
    · exact ⟨rfl, rfl⟩
  | markFailed error =>
    left
    simp only [World.sweepStep]
    split
    · split
      · exact ⟨rfl, rfl⟩
      · exact ⟨rfl, rfl⟩
    · exact ⟨rfl, rfl⟩
  | stop =>
    left
    simp only [World.sweepStep]
    split
    · exact ⟨rfl, rfl⟩
    · exact ⟨rfl, rfl⟩

/-- A step of the relay leaves the queues alone, or an add in flight reaches its queue, or a job is
removed. -/
theorem accepts_step (s : World ι) (event : Event ι) (hevent : ∀ queue jobId, event ≠ .remove queue jobId) :
    SameQueues (s.step event) s ∨
      ∃ queue job, InFlight s queue job ∧ SameQueues (s.step event) (s.accept queue job) := by
  cases event with
  | insert id tenantId aggregateId aggregateType eventType payload now => exact .inl ⟨rfl, rfl⟩
  | select worker rank =>
    left
    simp only [World.step]
    split
    · exact ⟨rfl, rfl⟩
    · exact ⟨rfl, rfl⟩
  | sweep worker event =>
    simp only [World.step]
    split
    · exact .inl ⟨rfl, rfl⟩
    · next w hw => exact accepts_sweepStep hw event
  | landOrphan index =>
    simp only [World.step]
    split
    · exact .inl ⟨rfl, rfl⟩
    · next queue job horphan =>
      exact .inr ⟨queue, job, .inl (List.mem_of_getElem? horphan), rfl, rfl⟩
  | remove queue jobId => exact absurd rfl (hevent queue jobId)

end EmailTriage.Queue
