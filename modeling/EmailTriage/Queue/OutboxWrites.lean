import EmailTriage.Queue.OutboxRelay

/-!
# What a step writes to the outbox

Of all the steps of the relay only three write to `domain_event_outbox`: an insertion, the update that
marks a row published, and the one that counts a failure. `World.writes` names the write of a step, and
`written_step` says what it makes of the table. A `Counted` world also counts the updates of each row.

The invariants about single rows are proved over these writes and not over the steps of the sweeps: a
property of a row that every `TableWrite` keeps is kept by every step. `Tally` is the rule for sums
over the rows of the table, which say how often a row was published and how many failures of it were
counted.
-/

namespace EmailTriage.Queue

open Js Db

/-! ## Writes

What a step does to the table is an insertion, a publish or a counted failure, or nothing.
-/

/-- A write to the table. -/
inductive TableWrite where
  | none
  | insert (row : OutboxRow)
  | publish (id : String) (now : ℤ)
  | countFailure (id message : String)

/-- The table after a write. -/
def Written (t t' : OutboxTable) : TableWrite → Prop
  | .none => t' = t
  | .insert row => t.create row = some t' ∧ row.published = false ∧ row.attempts = 0
  | .publish id now => t.update id (publish now) = some t'
  | .countFailure id message => t.update id (countFailure message) = some t'

/-- What a write makes of a row that is there. -/
def TableWrite.onRow : TableWrite → OutboxRow → OutboxRow
  | .publish id now, r => if r.id = id then (Queue.publish now).apply r else r
  | .countFailure id message, r => if r.id = id then (Queue.countFailure message).apply r else r
  | _, r => r

@[simp] theorem TableWrite.id_onRow (write : TableWrite) (r : OutboxRow) :
    (write.onRow r).id = r.id := by
  unfold TableWrite.onRow
  split
  · split <;> rfl
  · split <;> rfl
  · rfl

variable {t t' : OutboxTable} {write : TableWrite}

/-- A row is in the new table as the write has made it. -/
theorem Written.onRow_mem (h : Written t t' write) {r : OutboxRow} (hr : r ∈ t.rows) :
    write.onRow r ∈ t'.rows := by
  cases write with
  | none => exact h ▸ hr
  | insert row => exact (Table.mem_create h.1 _).mpr (.inl hr)
  | publish id now => exact (Table.mem_update h _).mpr ⟨r, hr, rfl⟩
  | countFailure id message => exact (Table.mem_update h _).mpr ⟨r, hr, rfl⟩

/-- A row after a write was there before, or is the one inserted. -/
theorem Written.of_mem (h : Written t t' write) {r' : OutboxRow} (hr' : r' ∈ t'.rows) :
    (∃ r ∈ t.rows, write.onRow r = r') ∨
      (write = .insert r' ∧ (∀ r ∈ t.rows, r.id ≠ r'.id) ∧ r'.published = false ∧ r'.attempts = 0) := by
  cases write with
  | none => exact .inl ⟨r', h ▸ hr', rfl⟩
  | insert row =>
    obtain ⟨hcreate, hpublished, hattempts⟩ := h
    rcases (Table.mem_create hcreate r').mp hr' with hr | rfl
    · exact .inl ⟨r', hr, rfl⟩
    · have hnew := (Table.isSome_create_iff.mp (Option.isSome_iff_exists.mpr ⟨t', hcreate⟩)).1
      exact .inr ⟨rfl, hnew, hpublished, hattempts⟩
  | publish id now => exact .inl ((Table.mem_update h r').mp hr')
  | countFailure id message => exact .inl ((Table.mem_update h r').mp hr')

/-! ## The write of a step

Which of them it is can be read off the state before the step.
-/

/-- The write of a sweep whose update succeeds. -/
def Sweep.writes (t : OutboxTable) (w : Sweep) : SweepEvent → TableWrite
  | .update now .none =>
    match w.phase with
    | .publishing row =>
      if (t.update row.id (Queue.publish now)).isSome then .publish row.id now else .none
    | _ => .none
  | .markFailed .none =>
    match w.phase with
    | .failing row message =>
      if (t.update row.id (Queue.countFailure message)).isSome then .countFailure row.id message
      else .none
    | _ => .none
  | _ => .none

/-- The row of an insertion. -/
def insertedRow (id tenantId aggregateId aggregateType eventType : String) (payload : Value)
    (now : ℤ) : OutboxRow :=
  ⟨id, tenantId, aggregateId, aggregateType, eventType, payload, false, 0, .none, now, .none⟩

variable {ι : Type} [DecidableEq ι]

/-- The write of a step. -/
def World.writes (s : World ι) : Event ι → TableWrite
  | .insert id tenantId aggregateId aggregateType eventType payload now =>
    let row := insertedRow id tenantId aggregateId aggregateType eventType payload now
    if (s.table.create row).isSome then .insert row else .none
  | .sweep worker event =>
    match s.sweeps worker with
    | .none => .none
    | some w => w.writes s.table event
  | _ => .none

/-- Marking a row published. -/
theorem written_update (s : World ι) (worker : ι) (w : Sweep) (now : ℤ) (error : Option String) :
    Written s.table (s.sweepStep worker w (.update now error)).table
      (w.writes s.table (.update now error)) := by
  unfold World.sweepStep Sweep.writes
  rcases w.phase with _ | _ | ⟨row⟩ | _
  · cases error <;> exact rfl
  · cases error <;> exact rfl
  · rcases error with _ | error
    · dsimp only
      rcases hupdate : s.table.update row.id (publish now) with _ | table
      · exact rfl
      · exact hupdate
    · exact rfl
  · cases error <;> exact rfl

/-- Counting a failure. -/
theorem written_markFailed (s : World ι) (worker : ι) (w : Sweep) (error : Option String) :
    Written s.table (s.sweepStep worker w (.markFailed error)).table
      (w.writes s.table (.markFailed error)) := by
  unfold World.sweepStep Sweep.writes
  rcases w.phase with _ | _ | _ | ⟨row, message⟩
  · cases error <;> exact rfl
  · cases error <;> exact rfl
  · cases error <;> exact rfl
  · rcases error with _ | error
    · dsimp only
      rcases hupdate : s.table.update row.id (countFailure message) with _ | table
      · exact rfl
      · exact hupdate
    · exact rfl

/-- A step of a sweep makes of the table what it writes. -/
theorem written_sweepStep (s : World ι) (worker : ι) (w : Sweep) (event : SweepEvent) :
    Written s.table (s.sweepStep worker w event).table (w.writes s.table event) := by
  cases event with
  | next =>
    unfold World.sweepStep
    dsimp only
    split
    · rfl
    · rfl
    · rfl
  | land queue =>
    unfold World.sweepStep
    dsimp only
    split
    · split
      · exact World.table_accept _ _ _
      · rfl
    · rfl
  | resolve queue =>
    unfold World.sweepStep
    dsimp only
    split
    · split
      · rfl
      · rfl
    · rfl
  | reject queue message =>
    unfold World.sweepStep
    dsimp only
    split
    · split
      · rfl
      · rfl
    · rfl
  | update now error => exact written_update s worker w now error
  | markFailed error => exact written_markFailed s worker w error
  | stop =>
    unfold World.sweepStep
    dsimp only
    split
    · rfl
    · rfl

/-- A step makes of the table what it writes. -/
theorem written_step (s : World ι) (event : Event ι) :
    Written s.table (s.step event).table (s.writes event) := by
  cases event with
  | insert id tenantId aggregateId aggregateType eventType payload now =>
    unfold World.step World.writes
    dsimp only
    -- a row that cannot be created, since its id is taken, leaves the table alone
    change Written _ ((s.table.create (insertedRow id tenantId aggregateId aggregateType eventType
      payload now)).getD s.table) _
    rcases hcreate : s.table.create (insertedRow id tenantId aggregateId aggregateType eventType
      payload now) with _ | table
    · exact rfl
    · exact ⟨hcreate, rfl, rfl⟩
  | select worker rank =>
    unfold World.step
    dsimp only
    split
    · rfl
    · rfl
  | sweep worker event =>
    unfold World.step World.writes
    dsimp only
    rcases s.sweeps worker with _ | w
    · rfl
    · exact written_sweepStep s worker w event
  | landOrphan index =>
    unfold World.step
    dsimp only
    split
    · rfl
    · exact World.table_accept _ _ _
  | remove queue jobId => rfl

/-! ## Counting

The writes that publish a row and those that count a failure of it are counted in a ghost. The counters of
the rows are compared with it.
-/

/-- How often a write marks a row published. -/
def TableWrite.publishes : TableWrite → String → ℕ
  | .publish id _, id' => if id' = id then 1 else 0
  | _, _ => 0

/-- How often a write counts a failure of a row. -/
def TableWrite.failures : TableWrite → String → ℕ
  | .countFailure id _, id' => if id' = id then 1 else 0
  | _, _ => 0

/-- A write adds the failures it counts. -/
theorem attempts_onRow (write : TableWrite) (r : OutboxRow) :
    (write.onRow r).attempts = r.attempts + write.failures r.id := by
  unfold TableWrite.onRow TableWrite.failures
  cases write with
  | none => rfl
  | insert row => rfl
  | publish id now =>
    dsimp only
    split
    · rfl
    · rfl
  | countFailure id message =>
    dsimp only
    split
    · rfl
    · rfl

/-- A world, with how often each row was marked published and how often a failure of it was counted. -/
structure Counted (ι : Type) where
  world : World ι
  publishes : String → ℕ
  failures : String → ℕ

namespace Counted

def init : Counted ι := ⟨World.init Table.empty, fun _ => 0, fun _ => 0⟩

def step (c : Counted ι) (event : Event ι) : Counted ι where
  world := c.world.step event
  publishes id := c.publishes id + (c.world.writes event).publishes id
  failures id := c.failures id + (c.world.writes event).failures id

/-- Counting changes nothing. -/
theorem world_foldl (c : Counted ι) (events : List (Event ι)) :
    (events.foldl step c).world = events.foldl World.step c.world := by
  induction events generalizing c with
  | nil => rfl
  | cons event events ih => exact ih (c.step event)

end Counted

/-- A count of each row agrees with what the row says of it, and an id no row has counts nothing. -/
structure Tally (m : OutboxRow → ℕ) (t : OutboxTable) (count : String → ℕ) : Prop where
  rows : ∀ r ∈ t.rows, count r.id = m r
  absent : ∀ id, (∀ r ∈ t.rows, r.id ≠ id) → count id = 0

/-- An empty table has nothing to count. -/
theorem tally_empty (m : OutboxRow → ℕ) : Tally m Table.empty fun _ => 0 where
  rows r hr := by cases hr
  absent _ _ := rfl

/-- A count stays right when it grows as the rows do. -/
theorem Tally.written {m : OutboxRow → ℕ} {count n : String → ℕ} (hcount : Tally m t count)
    (h : Written t t' write) (hnew : ∀ r, r.published = false → r.attempts = 0 → m r = 0)
    (hrow : ∀ r ∈ t.rows, m (write.onRow r) = m r + n r.id)
    (habsent : ∀ id, (∀ r ∈ t.rows, r.id ≠ id) → n id = 0) : Tally m t' fun id => count id + n id where
  rows r' hr' := by
    rcases h.of_mem hr' with ⟨r, hr, rfl⟩ | ⟨-, hids, hpublished, hattempts⟩
    · rw [TableWrite.id_onRow, hcount.rows r hr, hrow r hr]
    · rw [hcount.absent r'.id hids, habsent r'.id hids, hnew r' hpublished hattempts]
  absent id hid := by
    have hids : ∀ r ∈ t.rows, r.id ≠ id := by
      intro r hr
      rw [← write.id_onRow r]
      exact hid _ (h.onRow_mem hr)
    rw [hcount.absent id hids, habsent id hids]

/-- An update is of a row that is there. -/
theorem Written.publishes_absent (h : Written t t' write) (id : String)
    (hid : ∀ r ∈ t.rows, r.id ≠ id) : write.publishes id = 0 := by
  cases write with
  | publish id' now =>
    obtain ⟨r, hr, rfl⟩ := Table.exists_of_update h
    exact if_neg fun heq => hid r hr heq.symm
  | none => rfl
  | insert row => rfl
  | countFailure id' message => rfl

/-- A write counts no failure of a row that is not there. -/
theorem Written.failures_absent (h : Written t t' write) (id : String)
    (hid : ∀ r ∈ t.rows, r.id ≠ id) : write.failures id = 0 := by
  cases write with
  | countFailure id' message =>
    obtain ⟨r, hr, rfl⟩ := Table.exists_of_update h
    exact if_neg fun heq => hid r hr heq.symm
  | none => rfl
  | insert row => rfl
  | publish id' now => rfl

end EmailTriage.Queue
