import EmailTriage.Queue.OutboxRelay

/-!
# Published rows were delivered

Whatever the overlap of sweeps, the failing adds and the stops, a row is only marked published once
every queue its event type routes to has accepted its job. The invariant carries the copies of rows
that sweeps and jobs hold: they agree with the row in the table on what a job is made of, which no
update ever changes.

The invariant `Inv` has a clause for each place where a row or a job can be: the rows of the table
(`RowOk`), the batch and the phase of each sweep (`SweepOk`), and the jobs that are in flight or
accepted (`JobOk`). A step of the relay changes one of these places and leaves the others alone, so
each clause has a lemma for the steps that touch it and one that says it survives when the table or the
queues grow. `Inv.step` assembles them, and `published_delivered` reads the result off the invariant of
a reachable state.
-/

namespace EmailTriage.Queue

open Js Db Runs

/-! ## Copies of a row

A sweep works on copies of rows that it has read. What identifies the event of a row never changes, so a
copy is as good as the row for making its jobs.
-/

/-- Two rows that make the same jobs. -/
structure SameEvent (a b : OutboxRow) : Prop where
  id : a.id = b.id
  tenantId : a.tenantId = b.tenantId
  eventType : a.eventType = b.eventType
  payload : a.payload = b.payload

/-- A row holds the event it holds. -/
theorem SameEvent.refl (a : OutboxRow) : SameEvent a a := ⟨rfl, rfl, rfl, rfl⟩

/-- Of two rows with one event, either can be taken for the other. -/
theorem SameEvent.symm {a b : OutboxRow} (h : SameEvent a b) : SameEvent b a :=
  ⟨h.id.symm, h.tenantId.symm, h.eventType.symm, h.payload.symm⟩

/-- Copies of copies hold the event. -/
theorem SameEvent.trans {a b c : OutboxRow} (h : SameEvent a b) (h' : SameEvent b c) :
    SameEvent a c :=
  ⟨h.id.trans h'.id, h.tenantId.trans h'.tenantId, h.eventType.trans h'.eventType,
    h.payload.trans h'.payload⟩

/-- The jobs of a row depend on its event only. -/
theorem SameEvent.jobOf_eq {a b : OutboxRow} (h : SameEvent a b) (queue : QueueName) :
    jobOf a queue = jobOf b queue := by
  simp [jobOf, h.id, h.tenantId, h.eventType, h.payload]

/-- A copy of a row of the table. -/
def CopyOf (t : OutboxTable) (row : OutboxRow) : Prop := ∃ r ∈ t.rows, SameEvent r row

/-- A table that still has the rows of `t`, up to their progress. -/
def Extends (t t' : OutboxTable) : Prop := ∀ r ∈ t.rows, CopyOf t' r

/-- A table extends itself. -/
theorem Extends.refl (t : OutboxTable) : Extends t t := fun r hr => ⟨r, hr, .refl r⟩

/-- A copy of a row of a table is one of a row of the tables that extend it. -/
theorem CopyOf.extends {t t' : OutboxTable} {row : OutboxRow} (h : CopyOf t row)
    (ht : Extends t t') : CopyOf t' row := by
  obtain ⟨r, hr, hsame⟩ := h
  obtain ⟨r', hr', hsame'⟩ := ht r hr
  exact ⟨r', hr', hsame'.trans hsame⟩

/-- An update that leaves the event alone keeps the rows. -/
theorem extends_update {t t' : OutboxTable} {id : String} {f : Patch OutboxRow}
    (hf : ∀ r, SameEvent (f.apply r) r) (h : t.update id f = some t') : Extends t t' := by
  intro r hr
  refine ⟨_, (Table.mem_update h _).mpr ⟨r, hr, rfl⟩, ?_⟩
  split
  · exact hf r
  · exact .refl r

/-- A new row takes nothing from the others. -/
theorem extends_create {t t' : OutboxTable} {row : OutboxRow} (h : t.create row = some t') :
    Extends t t' :=
  fun r hr => ⟨r, (Table.mem_create h r).mpr (.inl hr), .refl r⟩

/-! ## Deliveries

A row has been delivered when every queue of its route has accepted its job.
-/

/-- Every queue the row routes to has accepted its job. -/
def AllAccepted (accepted : List (QueueName × Job)) (row : OutboxRow) : Prop :=
  ∃ queues, route row.eventType = .targets queues ∧
    ∀ queue ∈ queues, (queue, jobOf row queue) ∈ accepted

/-- What the queues have accepted stays accepted. -/
theorem AllAccepted.mono {accepted accepted' : List (QueueName × Job)} {row : OutboxRow}
    (h : AllAccepted accepted row) (hsub : ∀ x ∈ accepted, x ∈ accepted') :
    AllAccepted accepted' row := by
  obtain ⟨queues, hroute, hall⟩ := h
  exact ⟨queues, hroute, fun queue hqueue => hsub _ (hall queue hqueue)⟩

/-- What was accepted for a copy was accepted for the row. -/
theorem AllAccepted.congr {accepted : List (QueueName × Job)} {a b : OutboxRow}
    (h : AllAccepted accepted a) (hsame : SameEvent a b) : AllAccepted accepted b := by
  obtain ⟨queues, hroute, hall⟩ := h
  refine ⟨queues, by rw [← hsame.eventType, hroute], fun queue hqueue => ?_⟩
  rw [← hsame.jobOf_eq]
  exact hall queue hqueue

/-! ## The invariant

The running sweeps hold copies of rows, and a sweep that is about to publish has had all its adds
accepted. So every row that was published by a sweep was delivered first.
-/

/-- What a sweep knows in each phase. -/
def PhaseOk (t : OutboxTable) (accepted : List (QueueName × Job)) : Phase → Prop
  | .scanning => True
  | .adding row waiting _ => CopyOf t row ∧ ∃ queues, route row.eventType = .targets queues ∧
      ∀ queue ∈ queues, queue ∈ waiting ∨ (queue, jobOf row queue) ∈ accepted
  | .publishing row => CopyOf t row ∧ AllAccepted accepted row
  | .failing row _ => CopyOf t row

/-- What a sweep knows. -/
def SweepOk (t : OutboxTable) (accepted : List (QueueName × Job)) (w : Sweep) : Prop :=
  PhaseOk t accepted w.phase ∧ ∀ row ∈ w.rest, CopyOf t row

/-- A job that was made from a row of the table. -/
def JobOk (t : OutboxTable) (queue : QueueName) (job : Job) : Prop :=
  ∃ r ∈ t.rows, job = jobOf r queue

/-- A row is published only if it was at the start, or its jobs were accepted. -/
def RowOk (start : OutboxTable) (accepted : List (QueueName × Job)) (r : OutboxRow) : Prop :=
  r.published = true →
    (∃ r₀ ∈ start.rows, r₀.id = r.id ∧ r₀.published = true) ∨ AllAccepted accepted r

section

variable {ι : Type}

structure Inv (start : OutboxTable) (s : World ι) : Prop where
  sweeps : ∀ worker w, s.sweeps worker = some w → SweepOk s.table s.accepted w
  orphans : ∀ queue job, (queue, job) ∈ s.orphans → JobOk s.table queue job
  queues : ∀ queue job, job ∈ s.queues queue → (queue, job) ∈ s.accepted
  accepted : ∀ queue job, (queue, job) ∈ s.accepted → JobOk s.table queue job
  rows : ∀ r ∈ s.table.rows, RowOk start s.accepted r

/-- Nothing has been published in the beginning but what the table came with. -/
theorem inv_init (start : OutboxTable) : Inv start (World.init start : World ι) where
  sweeps _ _ h := absurd h (by simp [World.init])
  orphans _ _ h := absurd h (by simp [World.init])
  queues _ _ h := absurd h (by simp [World.init])
  accepted _ _ h := absurd h (by simp [World.init])
  rows r hr hpublished := .inl ⟨r, hr, rfl, hpublished⟩

/-- A job made from a copy of a row carries the event of that row. -/
theorem CopyOf.jobOk {t : OutboxTable} {row : OutboxRow} (h : CopyOf t row) (queue : QueueName) :
    JobOk t queue (jobOf row queue) := by
  obtain ⟨r, hr, hsame⟩ := h
  exact ⟨r, hr, (hsame.jobOf_eq queue).symm⟩

/-- It does so in every later table. -/
theorem JobOk.extends {t t' : OutboxTable} {queue : QueueName} {job : Job} (h : JobOk t queue job)
    (ht : Extends t t') : JobOk t' queue job := by
  obtain ⟨r, hr, rfl⟩ := h
  exact (ht r hr).jobOk queue

/-- What a sweep knows stays true when the table and the log grow. -/
theorem PhaseOk.mono {t t' : OutboxTable} {accepted accepted' : List (QueueName × Job)}
    {phase : Phase} (h : PhaseOk t accepted phase) (ht : Extends t t')
    (hsub : ∀ x ∈ accepted, x ∈ accepted') : PhaseOk t' accepted' phase := by
  cases phase with
  | scanning => exact trivial
  | adding row waiting landed =>
    obtain ⟨hrow, queues, hroute, hall⟩ := h
    exact ⟨hrow.extends ht, queues, hroute, fun queue hqueue => (hall queue hqueue).imp_right (hsub _)⟩
  | publishing row => exact ⟨h.1.extends ht, h.2.mono hsub⟩
  | failing row message => exact h.extends ht

/-- What a sweep may rely on stays true while tables and queues grow. -/
theorem SweepOk.mono {t t' : OutboxTable} {accepted accepted' : List (QueueName × Job)}
    {w : Sweep} (h : SweepOk t accepted w) (ht : Extends t t')
    (hsub : ∀ x ∈ accepted, x ∈ accepted') : SweepOk t' accepted' w :=
  ⟨h.1.mono ht hsub, fun row hrow => (h.2 row hrow).extends ht⟩

variable [DecidableEq ι] {start : OutboxTable} {s : World ι}

/-! ## Steps

One lemma for each thing a step does to the world: moving a sweep, writing the table, accepting a job,
leaving adds in flight. The steps are put together from them.
-/

/-- A sweep may move on to what it can rely on. -/
theorem Inv.setSweep (hs : Inv start s) (worker : ι) {sweep : Option Sweep}
    (hsweep : ∀ w, sweep = some w → SweepOk s.table s.accepted w) :
    Inv start (s.setSweep worker sweep) := by
  refine ⟨?_, hs.orphans, hs.queues, hs.accepted, hs.rows⟩
  unfold World.setSweep
  rw [Function.forall_update_iff s.sweeps fun _ sweep =>
    ∀ w, sweep = some w → SweepOk s.table s.accepted w]
  exact ⟨hsweep, fun worker' _ => hs.sweeps worker'⟩

omit [DecidableEq ι] in
/-- A new table keeps the invariant if it keeps the rows and publishes only delivered ones. -/
theorem Inv.setTable (hs : Inv start s) {table : OutboxTable} (ht : Extends s.table table)
    (hrows : ∀ r ∈ table.rows, RowOk start s.accepted r) : Inv start (s.setTable table) where
  sweeps worker w hw := (hs.sweeps worker w hw).mono ht fun _ h => h
  orphans queue job h := (hs.orphans queue job h).extends ht
  queues := hs.queues
  accepted queue job h := (hs.accepted queue job h).extends ht
  rows := hrows

omit [DecidableEq ι] in
/-- An add forgets no job that was accepted. -/
theorem accepted_subset_accept (s : World ι) (queue : QueueName) (job : Job) :
    ∀ x ∈ s.accepted, x ∈ (s.accept queue job).accepted := by
  intro x hx
  unfold World.accept
  split
  · exact hx
  · exact List.mem_cons_of_mem _ hx

omit [DecidableEq ι] in
/-- A job that reached its queue has been accepted by it, now or before: a job with its id that is
in the queue was made from the same row. -/
theorem Inv.mem_accept (hs : Inv start s) {queue : QueueName} {job : Job}
    (hjob : JobOk s.table queue job) : (queue, job) ∈ (s.accept queue job).accepted := by
  unfold World.accept
  split
  · next hdup =>
    obtain ⟨job', hjob', hid⟩ := List.any_eq_true.mp hdup
    rw [decide_eq_true_eq] at hid
    have hmem := hs.queues queue job' hjob'
    obtain ⟨r, hr, rfl⟩ := hjob
    obtain ⟨r', hr', rfl⟩ := hs.accepted queue job' hmem
    have heq : r' = r := Table.eq_of_id_eq hr' hr (jobId_inj hid)
    rw [← heq]
    exact hmem
  · exact List.mem_cons_self

omit [DecidableEq ι] in
/-- An add that reaches its queue keeps the invariant. -/
theorem Inv.accept (hs : Inv start s) {queue : QueueName} {job : Job}
    (hjob : JobOk s.table queue job) : Inv start (s.accept queue job) := by
  have hsub := accepted_subset_accept s queue job
  unfold World.accept at hsub ⊢
  split
  · exact hs
  · next hnew =>
    rw [if_neg hnew] at hsub
    refine ⟨fun worker w hw => (hs.sweeps worker w hw).mono (.refl _) hsub, hs.orphans,
      fun queue' job' hjob' => ?_, fun queue' job' hjob' => ?_, fun r hr hpublished => ?_⟩
    · by_cases hqueue : queue' = queue
      · subst hqueue
        simp only [Function.update_self, List.mem_cons] at hjob'
        rcases hjob' with rfl | hjob'
        · exact List.mem_cons_self
        · exact hsub _ (hs.queues queue' job' hjob')
      · simp only [Function.update_of_ne hqueue] at hjob'
        exact hsub _ (hs.queues queue' job' hjob')
    · rcases List.mem_cons.mp hjob' with heq | hmem
      · obtain ⟨rfl, rfl⟩ := Prod.mk.inj heq
        exact hjob
      · exact hs.accepted queue' job' hmem
    · exact (hs.rows r hr hpublished).imp_right fun h => h.mono hsub

omit [DecidableEq ι] in
/-- The adds that a sweep leaves in flight are jobs of its row. -/
theorem Inv.abandon (hs : Inv start s) {row : OutboxRow} (hrow : CopyOf s.table row)
    (waiting : List QueueName) : Inv start (s.abandon row waiting) := by
  refine ⟨hs.sweeps, fun queue job hjob => ?_, hs.queues, hs.accepted, hs.rows⟩
  rcases List.mem_append.mp hjob with hjob | hjob
  · exact hs.orphans queue job hjob
  · obtain ⟨queue', -, heq⟩ := List.mem_map.mp hjob
    obtain ⟨rfl, rfl⟩ := Prod.mk.inj heq
    exact hrow.jobOk queue'

/-- The phase in which a row is started fits the row. -/
theorem phaseOk_startRow {t : OutboxTable} {row : OutboxRow} (hrow : CopyOf t row)
    (accepted : List (QueueName × Job)) : PhaseOk t accepted (startRow row) := by
  unfold startRow
  split
  · exact hrow
  · exact hrow
  · next hroute => exact ⟨hrow, [], hroute, by simp⟩
  · next queues _ hroute => exact ⟨hrow, queues, hroute, fun queue hqueue => .inl hqueue⟩

/-- Publishing a row all of whose jobs were accepted. -/
theorem rowOk_publish {t t' : OutboxTable} {accepted : List (QueueName × Job)} {row : OutboxRow}
    {now : ℤ} (hrow : CopyOf t row) (hall : AllAccepted accepted row)
    (hrows : ∀ r ∈ t.rows, RowOk start accepted r) (h : t.update row.id (publish now) = some t') :
    ∀ r ∈ t'.rows, RowOk start accepted r := by
  intro r' hr'
  obtain ⟨r, hr, rfl⟩ := (Table.mem_update h r').mp hr'
  split
  · next hid =>
    intro _
    obtain ⟨r₁, hr₁, hsame⟩ := hrow
    have heq : r = r₁ := Table.eq_of_id_eq hr hr₁ (hid.trans hsame.id.symm)
    rw [heq]
    exact .inr (hall.congr (hsame.symm.trans ⟨rfl, rfl, rfl, rfl⟩))
  · exact hrows r hr

/-- Counting a failure publishes nothing. -/
theorem rowOk_countFailure {t t' : OutboxTable} {accepted : List (QueueName × Job)} {id : String}
    {message : String} (hrows : ∀ r ∈ t.rows, RowOk start accepted r)
    (h : t.update id (countFailure message) = some t') :
    ∀ r ∈ t'.rows, RowOk start accepted r := by
  intro r' hr'
  obtain ⟨r, hr, rfl⟩ := (Table.mem_update h r').mp hr'
  split
  · intro hpublished
    exact (hrows r hr hpublished).imp_right fun hall => hall.congr ⟨rfl, rfl, rfl, rfl⟩
  · exact hrows r hr

/-- A sweep may move on to a phase that fits, with the same rows left. -/
theorem Inv.moveSweep {s' : World ι} (hs' : Inv start s') (ht : Extends s.table s'.table) {w : Sweep}
    (hrest : ∀ row ∈ w.rest, CopyOf s.table row) (worker : ι) {w' : Sweep}
    (hphase : PhaseOk s'.table s'.accepted w'.phase) (hrest' : w'.rest = w.rest) :
    Inv start (s'.setSweep worker (some w')) := by
  refine hs'.setSweep worker fun w'' hw'' => ?_
  rw [← Option.some.inj hw'']
  exact ⟨hphase, fun row hrow => (hrest row (hrest' ▸ hrow)).extends ht⟩

/-- A sweep may end. -/
theorem Inv.endSweep (hs : Inv start s) (worker : ι) : Inv start (s.setSweep worker none) :=
  hs.setSweep worker fun w' hw' => by cases hw'

/-- An add lands: its queue has accepted it. -/
theorem Inv.land (hs : Inv start s) {worker : ι} {w : Sweep} (hw : s.sweeps worker = some w)
    (queue : QueueName) : Inv start (s.sweepStep worker w (.land queue)) := by
  obtain ⟨hphase, hrest⟩ := hs.sweeps worker w hw
  simp only [World.sweepStep]
  split
  · next row waiting landed hadding =>
    rw [hadding] at hphase
    obtain ⟨hrow, queues, hroute, hall⟩ := hphase
    split
    · next hwaiting =>
      have hjob := hrow.jobOk queue
      have htable := s.table_accept queue (jobOf row queue)
      have ht : Extends s.table (s.accept queue (jobOf row queue)).table := by
        rw [htable]
        exact .refl _
      refine (hs.accept hjob).moveSweep ht hrest worker ?_ rfl
      refine ⟨by rw [htable]; exact hrow, queues, hroute, fun queue' hqueue' => ?_⟩
      by_cases hne : queue' = queue
      · rw [hne]
        exact .inr (hs.mem_accept hjob)
      · rcases hall queue' hqueue' with hwaiting' | haccepted
        · exact .inl ((List.mem_erase_of_ne hne).mpr hwaiting')
        · exact .inr (accepted_subset_accept s queue _ _ haccepted)
    · exact hs
  · exact hs

/-- An add that has landed resolves: after the last one the row may be published. -/
theorem Inv.resolve (hs : Inv start s) {worker : ι} {w : Sweep} (hw : s.sweeps worker = some w)
    (queue : QueueName) : Inv start (s.sweepStep worker w (.resolve queue)) := by
  obtain ⟨hphase, hrest⟩ := hs.sweeps worker w hw
  simp only [World.sweepStep]
  split
  · next row waiting landed hadding =>
    rw [hadding] at hphase
    obtain ⟨hrow, queues, hroute, hall⟩ := hphase
    split
    · refine hs.moveSweep (.refl _) hrest worker ?_ rfl
      simp only
      split
      · next hempty =>
        refine ⟨hrow, queues, hroute, fun queue' hqueue' => ?_⟩
        rcases hall queue' hqueue' with hwaiting | haccepted
        · rw [hempty.1] at hwaiting
          cases hwaiting
        · exact haccepted
      · exact ⟨hrow, queues, hroute, hall⟩
    · exact hs
  · exact hs

/-- A step of a sweep preserves the invariant. -/
theorem Inv.sweepStep (hs : Inv start s) {worker : ι} {w : Sweep}
    (hw : s.sweeps worker = some w) (event : SweepEvent) :
    Inv start (s.sweepStep worker w event) := by
  obtain ⟨hphase, hrest⟩ := hs.sweeps worker w hw
  cases event with
  | next =>
    simp only [World.sweepStep]
    split
    · next row rest _ hrows =>
      rw [hrows] at hrest
      refine hs.setSweep worker fun w' hw' => ?_
      -- the row that is started and the rows that are left were all selected
      rw [← Option.some.inj hw']
      exact ⟨phaseOk_startRow (hrest row List.mem_cons_self) _,
        fun row' hrow' => hrest row' (List.mem_cons_of_mem _ hrow')⟩
    · exact hs.endSweep worker
    · exact hs
  | land queue => exact hs.land hw queue
  | resolve queue => exact hs.resolve hw queue
  | reject queue message =>
    simp only [World.sweepStep]
    split
    · next row waiting landed hadding =>
      -- a rejected add leaves the other adds of the row without a sweep that waits for them
      rw [hadding] at hphase
      split
      · exact (hs.abandon hphase.1 waiting).moveSweep (.refl _) hrest worker hphase.1 rfl
      · exact hs
    · exact hs
  | update now error =>
    simp only [World.sweepStep]
    split
    · next row hpublishing =>
      rw [hpublishing] at hphase
      split
      · next table hupdate =>
        -- the update changes no column that routing reads, and the row is in all its queues by then
        have ht : Extends s.table table := extends_update (fun _ => ⟨rfl, rfl, rfl, rfl⟩) hupdate
        have hs' := hs.setTable ht (rowOk_publish hphase.1 hphase.2 hs.rows hupdate)
        exact hs'.moveSweep ht hrest worker trivial rfl
      · exact hs.moveSweep (.refl _) hrest worker hphase.1 rfl
    · exact hs
  | markFailed error =>
    simp only [World.sweepStep]
    split
    · next row message hfailing =>
      split
      · next table hupdate =>
        have ht : Extends s.table table := extends_update (fun _ => ⟨rfl, rfl, rfl, rfl⟩) hupdate
        have hs' := hs.setTable ht (rowOk_countFailure hs.rows hupdate)
        exact hs'.moveSweep ht hrest worker trivial rfl
      · exact hs.endSweep worker
    · exact hs
  | stop =>
    simp only [World.sweepStep]
    split
    · next row waiting landed hadding =>
      -- the adds that have not landed go on without the worker
      rw [hadding] at hphase
      exact (hs.abandon hphase.1 waiting).endSweep worker
    · exact hs.endSweep worker

/-- Every step preserves the invariant. -/
theorem Inv.step (hs : Inv start s) (event : Event ι) : Inv start (s.step event) := by
  cases event with
  | insert id tenantId aggregateId aggregateType eventType payload now =>
    simp only [World.step]
    rcases hcreate : s.table.create ⟨id, tenantId, aggregateId, aggregateType, eventType, payload,
      false, 0, none, now, none⟩ with _ | table
    · rw [Option.getD_none]
      exact hs
    · rw [Option.getD_some]
      refine hs.setTable (extends_create hcreate) fun r hr => ?_
      rcases (Table.mem_create hcreate r).mp hr with hr | rfl
      · exact hs.rows r hr
      · -- a new row is not published, so nothing is claimed about its queues
        intro hpublished
        cases hpublished
  | select worker rank =>
    simp only [World.step]
    split
    · refine hs.setSweep worker fun w hw => ?_
      rw [← Option.some.inj hw]
      -- the batch is a copy of rows that are in the table now
      exact ⟨trivial, fun row hrow => ⟨row, (of_mem_selectBatch hrow).1, .refl row⟩⟩
    · exact hs
  | sweep worker event =>
    simp only [World.step]
    split
    · exact hs
    · next w hw => exact hs.sweepStep hw event
  | landOrphan index =>
    simp only [World.step]
    split
    · exact hs
    · next queue job horphan =>
      -- an add that no sweep waits for lands like any other one
      have hjob := hs.orphans queue job (List.mem_of_getElem? horphan)
      have haccept := hs.accept hjob
      refine ⟨haccept.sweeps, fun queue' job' hjob' => ?_, haccept.queues, haccept.accepted,
        haccept.rows⟩
      refine haccept.orphans queue' job' ?_
      rw [World.orphans_accept]
      exact List.mem_of_mem_eraseIdx hjob'
  | remove queue jobId =>
    refine ⟨hs.sweeps, hs.orphans, fun queue' job hjob => ?_, hs.accepted, hs.rows⟩
    refine hs.queues queue' job ?_
    -- what a queue has had stays on record in `accepted`
    by_cases hqueue : queue' = queue
    · subst hqueue
      simp only [World.step, Function.update_self] at hjob
      exact List.mem_of_mem_filter hjob
    · simpa only [World.step, Function.update_of_ne hqueue] using hjob

/-- A row has been delivered: every queue of its event type has accepted a job with the row's id,
tenant and payload. -/
def Delivered (s : World ι) (r : OutboxRow) : Prop :=
  ∃ queues, route r.eventType = .targets queues ∧ ∀ queue ∈ queues, ∃ job,
    (queue, job) ∈ s.accepted ∧ job.jobId = r.id ++ "-" ++ queue.text ∧ job.tenantId = r.tenantId ∧
      job.payload = r.payload

omit [DecidableEq ι] in
/-- A row whose adds were all accepted has been delivered. -/
theorem AllAccepted.delivered {r : OutboxRow} (h : AllAccepted s.accepted r) : Delivered s r := by
  obtain ⟨queues, hroute, haccepted⟩ := h
  exact ⟨queues, hroute, fun queue hqueue => ⟨_, haccepted queue hqueue, rfl, rfl, rfl⟩⟩

/-- After any steps of any workers, a published row was published from the start or has been
delivered; so a row without a route is never marked published. -/
theorem published_delivered (start : OutboxTable) (events : List (Event ι)) :
    ∀ r ∈ (events.foldl World.step (World.init start)).table.rows, r.published = true →
      (∃ r₀ ∈ start.rows, r₀.id = r.id ∧ r₀.published = true) ∨
        Delivered (events.foldl World.step (World.init start)) r := by
  have hinv : Inv start (events.foldl World.step (World.init start)) :=
    foldl_invariant (fun s event hs => hs.step event) (inv_init start) events
  intro r hr hpublished
  exact (hinv.rows r hr hpublished).imp_right fun hall => hall.delivered

end

/-- A row that is inserted and relayed by one sweep. -/
def relayedRow : List (Event Unit) :=
  [.insert "row" "tenant" "aggregate" "MailboxAuthorization" "MailboxAuthorizedEvent" .null 0,
    .select () fun _ => 0, .sweep () .next, .sweep () (.land .mailboxIngestion),
    .sweep () (.resolve .mailboxIngestion), .sweep () (.update 1 none)]

/-- The row once it is published. -/
def publishedRow : OutboxRow :=
  ⟨"row", "tenant", "aggregate", "MailboxAuthorization", "MailboxAuthorizedEvent", .null, true, 0,
    none, 0, some 1⟩

/-- The row is published, and was delivered. -/
theorem published_delivered_relayedRow :
    Delivered (relayedRow.foldl World.step (World.init Table.empty)) publishedRow := by
  have hmem : publishedRow ∈ (relayedRow.foldl World.step (World.init Table.empty)).table.rows :=
    List.mem_cons_self
  rcases published_delivered Table.empty relayedRow publishedRow hmem rfl with ⟨r₀, hr₀, -⟩ | h
  · cases hr₀
  · exact h

end EmailTriage.Queue
