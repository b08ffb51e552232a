import EmailTriage.Queue.OutboxWrites

/-!
# Overlapping sweeps

A sweep reads its batch first and updates the rows later, by their id alone. `onePublish_iff` says when
no row is marked published twice, changed after it was published or counted beyond the limit: each
update must find its row as the selection left it. Sweeps that never overlap meet this condition.

Two sweeps that have read the same row both update it, since the update does not ask whether the row is
still unpublished. The condition `UpdatesPending` is on the writes of a run: `onePublish_step` says of
one write that it keeps the three facts exactly if it finds its row pending, and `onePublish_iff`
follows for every run by counting the updates of each row.

For sweeps that do not overlap the condition holds by itself. `OneSweep` says that at most one sweep is
running, and that the rows it still has to do are selectable and pairwise different. A run in which a
sweep starts only when no other is running stays there, and `onePublish_of_startsAlone` concludes that
it is safe.
-/

namespace EmailTriage.Queue

open Js Db Runs

/-! ## One publish

A step publishes a row a second time exactly if it updates a row that is no longer pending, which needs
two sweeps that hold the same row.
-/

/-- No row has been marked published twice, the step leaves published rows alone, and no counter is
beyond the limit. -/
structure OnePublish {ι : Type} (c : Counted ι) (_ : Event ι) (c' : Counted ι) : Prop where
  once : ∀ id, c'.publishes id ≤ 1
  kept : ∀ r ∈ c.world.table.rows, r.published = true → r ∈ c'.world.table.rows
  attempts : ∀ r ∈ c'.world.table.rows, r.attempts ≤ MAX_ATTEMPTS

/-- An update that marks a row published finds it unpublished, and one that counts a failure finds it
selectable. -/
def TableWrite.Pending (t : OutboxTable) : TableWrite → Prop
  | .publish id _ => ∀ r ∈ t.rows, r.id = id → r.published = false
  | .countFailure id _ => ∀ r ∈ t.rows, r.id = id → Selectable r
  | _ => True

variable {t t' : OutboxTable} {write : TableWrite}

/-- A pending write leaves a published row alone. -/
theorem TableWrite.Pending.onRow_of_published (h : write.Pending t) {r : OutboxRow} (hr : r ∈ t.rows)
    (hpublished : r.published = true) : write.onRow r = r := by
  cases write with
  | none => rfl
  | insert row => rfl
  | publish id now =>
    refine if_neg fun hid => ?_
    rw [h r hr hid] at hpublished
    cases hpublished
  | countFailure id message =>
    refine if_neg fun hid => ?_
    rw [(h r hr hid).1] at hpublished
    cases hpublished

/-- A pending write marks a row published once. -/
theorem TableWrite.Pending.published_onRow (h : write.Pending t) {r : OutboxRow} (hr : r ∈ t.rows) :
    (write.onRow r).published.toNat = r.published.toNat + write.publishes r.id := by
  unfold TableWrite.onRow TableWrite.publishes
  cases write with
  | none => rfl
  | insert row => rfl
  | publish id now =>
    dsimp only
    split
    · next hid =>
      rw [h r hr hid]
      rfl
    · rfl
  | countFailure id message =>
    dsimp only
    split
    · rfl
    · rfl

/-- A row that is still pending has attempts left, so one more is within the limit. -/
theorem TableWrite.Pending.attempts_le (h : write.Pending t) {r : OutboxRow} (hr : r ∈ t.rows)
    (hattempts : r.attempts ≤ MAX_ATTEMPTS) : (write.onRow r).attempts ≤ MAX_ATTEMPTS := by
  rw [attempts_onRow]
  unfold TableWrite.failures
  cases write with
  | countFailure id message =>
    dsimp only
    split
    · next hid => exact (h r hr hid).2
    · exact hattempts
  | none => exact hattempts
  | insert row => exact hattempts
  | publish id now => exact hattempts

/-- The invariant of a run of pending writes. -/
structure PublishesCounted (t : OutboxTable) (publishes : String → ℕ) : Prop where
  tally : Tally (fun r => r.published.toNat) t publishes
  attempts : ∀ r ∈ t.rows, r.attempts ≤ MAX_ATTEMPTS

/-- A row is published once at most. -/
theorem PublishesCounted.le_one {publishes : String → ℕ} (h : PublishesCounted t publishes)
    (id : String) : publishes id ≤ 1 := by
  by_cases hid : ∃ r ∈ t.rows, r.id = id
  · obtain ⟨r, hr, rfl⟩ := hid
    rw [h.tally.rows r hr]
    exact Bool.toNat_le _
  · rw [h.tally.absent id fun r hr heq => hid ⟨r, hr, heq⟩]
    exact Nat.zero_le 1

/-- A write to a row that is still pending is counted. -/
theorem PublishesCounted.written {publishes : String → ℕ} (hs : PublishesCounted t publishes)
    (h : Written t t' write) (hpending : write.Pending t) :
    PublishesCounted t' fun id => publishes id + write.publishes id where
  tally := by
    refine hs.tally.written h (fun r hpublished _ => ?_) (fun r hr => hpending.published_onRow hr)
      h.publishes_absent
    rw [hpublished]
    rfl
  attempts r' hr' := by
    rcases h.of_mem hr' with ⟨r, hr, rfl⟩ | ⟨-, -, -, hattempts⟩
    · exact hpending.attempts_le hr (hs.attempts r hr)
    · rw [hattempts]
      exact Nat.zero_le _

/-- A write that marks no row published twice, leaves published rows alone and keeps the counters in
their limit is pending. -/
theorem PublishesCounted.pending {publishes : String → ℕ} (hs : PublishesCounted t publishes)
    (h : Written t t' write) (honce : ∀ id, publishes id + write.publishes id ≤ 1)
    (hkept : ∀ r ∈ t.rows, r.published = true → r ∈ t'.rows)
    (hattempts : ∀ r ∈ t'.rows, r.attempts ≤ MAX_ATTEMPTS) : write.Pending t := by
  cases write with
  | none => trivial
  | insert row => trivial
  | publish id now =>
    rintro r hr rfl
    -- a published row would be counted twice
    have hle := honce r.id
    rw [hs.tally.rows r hr, TableWrite.publishes, if_pos rfl] at hle
    exact Bool.toNat_eq_zero.mp (by omega)
  | countFailure id message =>
    rintro r hr rfl
    have hmem := h.onRow_mem hr
    have hcount : (TableWrite.countFailure r.id message |>.onRow r).attempts = r.attempts + 1 := by
      rw [attempts_onRow, TableWrite.failures, if_pos rfl]
    refine ⟨Bool.eq_false_iff.mpr fun hpublished => ?_, ?_⟩
    · -- the row would have to be there as it was
      have heq := Table.eq_of_id_eq hmem (hkept r hr hpublished) (TableWrite.id_onRow _ _)
      rw [heq] at hcount
      omega
    · have hle := hattempts _ hmem
      rw [hcount] at hle
      exact hle

variable {ι : Type} [DecidableEq ι]

/-- A step whose update, if it makes one, is pending. -/
def UpdatesPending (c : Counted ι) (event : Event ι) (_ : Counted ι) : Prop :=
  (c.world.writes event).Pending c.world.table

/-- One step keeps the count exactly if what it updates is pending. -/
theorem onePublish_step {c : Counted ι} (hs : PublishesCounted c.world.table c.publishes)
    (event : Event ι) :
    OnePublish c event (c.step event) ↔ UpdatesPending c event (c.step event) := by
  have h := written_step c.world event
  constructor
  · rintro ⟨honce, hkept, hattempts⟩
    exact hs.pending h honce hkept hattempts
  · intro hpending
    have hs' := hs.written h hpending
    refine ⟨hs'.le_one, fun r hr hpublished => ?_, hs'.attempts⟩
    have hmem := h.onRow_mem hr
    rw [hpending.onRow_of_published hr hpublished] at hmem
    exact hmem

omit [DecidableEq ι] in
/-- Nothing is published in the beginning. -/
theorem publishesCounted_init :
    PublishesCounted (Counted.init : Counted ι).world.table (Counted.init : Counted ι).publishes where
  tally := tally_empty _
  attempts r hr := by cases hr

/-- In any run of any workers from the empty table, no row is marked published twice, changed once it is
published or counted beyond the limit, exactly when every update that marks a row published finds it
unpublished, and every update that counts a failure finds it selectable. -/
theorem onePublish_iff (events : List (Event ι)) :
    let run := exec Counted.step Counted.init events
    Along OnePublish Counted.init run ↔ Along UpdatesPending Counted.init run := by
  intro run
  refine along_iff (I := fun c => PublishesCounted c.world.table c.publishes) ?_ ?_
    (along_exec Counted.step Counted.init events) publishesCounted_init
  · rintro c event c' hs rfl
    exact onePublish_step hs event
  · rintro c event c' hs rfl hpending
    exact hs.written (written_step c.world event) hpending

/-- Two workers relay the same row. -/
def relayedTwice : List (Event Bool) :=
  [.insert "row" "tenant" "aggregate" "MailboxAuthorization" "MailboxAuthorizedEvent" .null 0,
    .select true fun _ => 0, .select false fun _ => 0,
    .sweep true .next, .sweep true (.land .mailboxIngestion), .sweep true (.resolve .mailboxIngestion),
    .sweep false .next, .sweep false (.land .mailboxIngestion),
    .sweep false (.resolve .mailboxIngestion),
    .sweep true (.update 1 none), .sweep false (.update 2 none)]

/-- Both mark it published. -/
theorem not_onePublish_relayedTwice :
    ¬Along OnePublish Counted.init (exec Counted.step Counted.init relayedTwice) := by
  rintro ⟨-, -, -, -, -, -, -, -, -, -, h, -⟩
  have htwice := h.once "row"
  revert htwice
  decide

/-! ## Sweeps that do not overlap

While one sweep runs at a time, what it holds is still pending when it comes to its update, unless another
process writes the row. `Advances` says what one step does to the running sweep.
-/

/-- The row a sweep works on. -/
def Phase.row : Phase → Option OutboxRow
  | .scanning => none
  | .adding row _ _ => some row
  | .publishing row => some row
  | .failing row _ => some row

/-- A sweep works on the row that it takes. -/
theorem row_startRow (row : OutboxRow) : (startRow row).row = some row := by
  unfold startRow
  split <;> rfl

/-- The rows a sweep still holds. -/
def Sweep.held (w : Sweep) : List OutboxRow := w.phase.row.toList ++ w.rest

/-- The rows a sweep holds are selectable, and it holds each of them once. -/
structure Holds (t : OutboxTable) (w : Sweep) : Prop where
  nodup : (w.held.map OutboxRow.id).Nodup
  selectable : ∀ row ∈ w.held, ∀ r ∈ t.rows, r.id = row.id → Selectable r

/-- At most one sweep runs, and it holds selectable rows. -/
structure OneSweep (s : World ι) : Prop where
  one : ∀ worker worker' w w', s.sweeps worker = some w → s.sweeps worker' = some w' →
    worker = worker'
  holds : ∀ worker w, s.sweeps worker = some w → Holds s.table w

/-- A sweep moves on: it holds the same rows and has written nothing, or it is done with the first of
them and has written nothing else. -/
def Moves (w w' : Sweep) (write : TableWrite) : Prop :=
  (w'.held = w.held ∧ write = .none) ∨
    ∃ row, w.held = row :: w'.held ∧ ∀ r, r.id ≠ row.id → write.onRow r = r

/-- A sweep that goes on with the same row has written nothing. -/
theorem Moves.of_row {w w' : Sweep} (hrow : w'.phase.row = w.phase.row) (hrest : w'.rest = w.rest) :
    Moves w w' .none := by
  refine .inl ⟨?_, rfl⟩
  unfold Sweep.held
  rw [hrow, hrest]

/-- A sweep that goes back to scanning is done with its row. -/
theorem Moves.of_scanning {w : Sweep} {row : OutboxRow} (hrow : w.phase.row = some row)
    (hwrite : ∀ r, r.id ≠ row.id → write.onRow r = r) (relayed failed : ℕ) :
    Moves w ⟨.scanning, w.rest, relayed, failed⟩ write := by
  refine .inr ⟨row, ?_, hwrite⟩
  unfold Sweep.held
  rw [hrow]
  rfl

/-- From `s` to `s'` the sweep of a worker ends or moves on, and the other sweeps stay as they are. -/
def Advances (s : World ι) (worker : ι) (w : Sweep) (write : TableWrite) (s' : World ι) : Prop :=
  ∃ sweep, s'.sweeps = Function.update s.sweeps worker sweep ∧
    ∀ w', sweep = some w' → Moves w w' write

section Advances

variable {s s' : World ι} {worker : ι} {w : Sweep}

/-- A step that leaves the sweeps alone. -/
theorem Advances.stay (hw : s.sweeps worker = some w) (hs' : s'.sweeps = s.sweeps) :
    Advances s worker w .none s' := by
  refine ⟨some w, ?_, ?_⟩
  · rw [hs', ← hw, Function.update_eq_self]
  · rintro w' ⟨⟩
    exact .inl ⟨rfl, rfl⟩

/-- A step that moves one sweep on. -/
theorem Advances.move (hs' : s'.sweeps = s.sweeps) {w' : Sweep} (hmoves : Moves w w' write) :
    Advances s worker w write (s'.setSweep worker (some w')) := by
  refine ⟨some w', by rw [← hs']; rfl, ?_⟩
  rintro w'' ⟨⟩
  exact hmoves

/-- A step that ends a sweep. -/
theorem Advances.finish (hs' : s'.sweeps = s.sweeps) :
    Advances s worker w write (s'.setSweep worker none) :=
  ⟨none, by rw [← hs']; rfl, fun w' h => by cases h⟩

/-- The update that marks a row published. -/
theorem advances_update (hw : s.sweeps worker = some w) (now : ℤ) (error : Option String) :
    Advances s worker w (w.writes s.table (.update now error))
      (s.sweepStep worker w (.update now error)) := by
  unfold World.sweepStep Sweep.writes
  rcases hphase : w.phase with _ | _ | ⟨row⟩ | _
  · cases error <;> exact .stay hw rfl
  · cases error <;> exact .stay hw rfl
  · have hrow : w.phase.row = some row := by
      rw [hphase]
      rfl
    rcases error with _ | error
    · dsimp only
      rcases s.table.update row.id (publish now) with _ | table
      · -- the row is gone, and the sweep goes on to count a failure of it
        exact .move rfl (.of_row hrow.symm rfl)
      · refine .move rfl (.of_scanning hrow ?_ _ _)
        exact fun r hr => if_neg hr
    · exact .move rfl (.of_row hrow.symm rfl)
  · cases error <;> exact .stay hw rfl

/-- The update that counts a failure. -/
theorem advances_markFailed (hw : s.sweeps worker = some w) (error : Option String) :
    Advances s worker w (w.writes s.table (.markFailed error))
      (s.sweepStep worker w (.markFailed error)) := by
  unfold World.sweepStep Sweep.writes
  rcases hphase : w.phase with _ | _ | _ | ⟨row, message⟩
  · cases error <;> exact .stay hw rfl
  · cases error <;> exact .stay hw rfl
  · cases error <;> exact .stay hw rfl
  · have hrow : w.phase.row = some row := by
      rw [hphase]
      rfl
    rcases error with _ | error
    · dsimp only
      rcases s.table.update row.id (countFailure message) with _ | table
      · exact .finish rfl
      · refine .move rfl (.of_scanning hrow ?_ _ _)
        exact fun r hr => if_neg hr
    · exact .finish rfl

/-- A step of a sweep leaves the other sweeps alone, and ends the sweep or moves it on. -/
theorem advances_sweepStep (hw : s.sweeps worker = some w) (event : SweepEvent) :
    Advances s worker w (w.writes s.table event) (s.sweepStep worker w event) := by
  cases event with
  | next =>
    unfold World.sweepStep
    dsimp only
    split
    · -- `next` takes the row out of the batch and into the phase, so that the sweep holds the same
      -- rows
      next row rest hphase hrest =>
      refine .move rfl (.inl ⟨?_, rfl⟩)
      unfold Sweep.held
      rw [hphase, hrest, row_startRow]
      rfl
    · exact .finish rfl
    · exact .stay hw rfl
  | land queue =>
    unfold World.sweepStep
    dsimp only
    split
    · next row waiting landed hphase =>
      split
      · refine .move (World.sweeps_accept _ _ _) (.of_row ?_ rfl)
        rw [hphase]
        rfl
      · exact .stay hw rfl
    · exact .stay hw rfl
  | resolve queue =>
    unfold World.sweepStep
    dsimp only
    split
    · next row waiting landed hphase =>
      split
      · refine .move rfl (.of_row ?_ rfl)
        rw [hphase]
        dsimp only
        split
        · rfl
        · rfl
      · exact .stay hw rfl
    · exact .stay hw rfl
  | reject queue message =>
    unfold World.sweepStep
    dsimp only
    split
    · next row waiting landed hphase =>
      split
      · refine .move rfl (.of_row ?_ rfl)
        rw [hphase]
        rfl
      · exact .stay hw rfl
    · exact .stay hw rfl
  -- the two writes of a sweep are the only events that change the table
  | update now error => exact advances_update hw now error
  | markFailed error => exact advances_markFailed hw error
  | stop =>
    unfold World.sweepStep
    dsimp only
    split
    · exact .finish rfl
    · exact .finish rfl

end Advances

/-- A sweep that holds its rows makes pending updates only. -/
theorem Holds.pending {w : Sweep} (h : Holds t w) (event : SweepEvent) :
    (w.writes t event).Pending t := by
  have hrow : ∀ {row : OutboxRow}, w.phase.row = some row → ∀ r ∈ t.rows, r.id = row.id →
      Selectable r := by
    intro row hphase
    refine h.selectable row (List.mem_append_left _ ?_)
    rw [hphase]
    exact List.mem_singleton_self row
  unfold Sweep.writes
  split
  · split
    · next row hphase =>
      split
      · intro r hr hid
        exact (hrow (by rw [hphase]; rfl) r hr hid).1
      · trivial
    · trivial
  · split
    · next row message hphase =>
      split
      · exact hrow (by rw [hphase]; rfl)
      · trivial
    · trivial
  · trivial

/-- What a sweep holds stays selectable as long as the writes leave it alone. -/
theorem Holds.written {w w' : Sweep} (hs : Holds t w) (h : Written t t' write)
    (hheld : w'.held.Sublist w.held)
    (halone : ∀ row ∈ w'.held, ∀ r ∈ t.rows, r.id = row.id → write.onRow r = r) : Holds t' w' where
  nodup := (hheld.map _).nodup hs.nodup
  selectable row hrow r' hr' hid := by
    rcases h.of_mem hr' with ⟨r, hr, rfl⟩ | ⟨-, -, hpublished, hattempts⟩
    · rw [TableWrite.id_onRow] at hid
      rw [halone row hrow r hr hid]
      exact hs.selectable row (hheld.mem hrow) r hr hid
    · unfold Selectable
      rw [hpublished, hattempts]
      exact ⟨rfl, by decide⟩

/-- A sweep that moves on still holds selectable rows. -/
theorem Holds.moves {w w' : Sweep} (hs : Holds t w) (h : Written t t' write)
    (hmoves : Moves w w' write) : Holds t' w' := by
  rcases hmoves with ⟨hheld, rfl⟩ | ⟨row, hheld, halone⟩
  · exact hs.written h (hheld ▸ List.Sublist.refl _) fun _ _ _ _ _ => rfl
  · -- the row that is done is not among those that are still held
    have hnodup := hs.nodup
    rw [hheld, List.map_cons, List.nodup_cons] at hnodup
    refine hs.written h (hheld ▸ List.sublist_cons_self _ _) fun row' hrow' r _ hid => halone r ?_
    rintro heq
    exact hnodup.1 (List.mem_map.mpr ⟨row', hrow', hid.symm.trans heq⟩)

/-- A sweep starts only when no other one runs. -/
def StartsAlone (c : Counted ι) (event : Event ι) (_ : Counted ι) : Prop :=
  match event with
  | .select _ _ => ∀ worker, c.world.sweeps worker = none
  | _ => True

omit [DecidableEq ι] in
/-- One sweep at a time makes pending updates only. -/
theorem OneSweep.pending {s : World ι} (hs : OneSweep s) (event : Event ι) :
    (s.writes event).Pending s.table := by
  cases event with
  | insert id tenantId aggregateId aggregateType eventType payload now =>
    unfold World.writes
    dsimp only
    split
    · trivial
    · trivial
  | select worker rank => trivial
  | sweep worker event =>
    unfold World.writes
    dsimp only
    split
    · trivial
    · next w hw => exact (hs.holds worker w hw).pending event
  | landOrphan index => trivial
  | remove queue jobId => trivial

omit [DecidableEq ι] in
/-- No sweep runs in the beginning. -/
theorem oneSweep_init : OneSweep (World.init Table.empty : World ι) where
  one _ _ _ _ h := by cases h
  holds _ _ h := by cases h

/-- The only sweep changes, or the first one starts. -/
theorem oneSweep_update {s s' : World ι} {worker : ι} {sweep : Option Sweep}
    (hsweeps : s'.sweeps = Function.update s.sweeps worker sweep)
    (hone : ∀ worker' w', s.sweeps worker' = some w' → worker' = worker)
    (hholds : ∀ w', sweep = some w' → Holds s'.table w') : OneSweep s' := by
  have honly : ∀ worker' w', s'.sweeps worker' = some w' → worker' = worker ∧ sweep = some w' := by
    intro worker' w' hw'
    rw [hsweeps] at hw'
    by_cases hworker : worker' = worker
    · rw [hworker, Function.update_self] at hw'
      exact ⟨hworker, hw'⟩
    · rw [Function.update_of_ne hworker] at hw'
      exact absurd (hone worker' w' hw') hworker
  refine ⟨fun worker₁ worker₂ w₁ w₂ h₁ h₂ => ?_,
    fun worker' w' hw' => hholds w' (honly worker' w' hw').2⟩
  exact (honly worker₁ w₁ h₁).1.trans (honly worker₂ w₂ h₂).1.symm

omit [DecidableEq ι] in
/-- A step that leaves the sweeps alone and writes nothing to the rows there keeps one sweep at a time. -/
theorem OneSweep.of_sweeps_eq {s s' : World ι} (hs : OneSweep s) (hsweeps : s'.sweeps = s.sweeps)
    (h : Written s.table s'.table write) (honRow : ∀ r, write.onRow r = r) : OneSweep s' := by
  refine ⟨?_, fun worker w hw => ?_⟩
  · rw [hsweeps]
    exact hs.one
  · rw [hsweeps] at hw
    exact (hs.holds worker w hw).written h (List.Sublist.refl _) fun _ _ r _ _ => honRow r

/-- A sweep that starts while no other one runs is the only one, and holds what it has selected. -/
theorem oneSweep_select {s : World ι} (hidle : ∀ worker, s.sweeps worker = none) (worker : ι)
    (rank : String → ℕ) : OneSweep (s.step (.select worker rank)) := by
  have hstep : s.step (.select worker rank)
      = s.setSweep worker (some ⟨.scanning, selectBatch s.table rank, 0, 0⟩) := by
    unfold World.step
    dsimp only
    rw [hidle worker]
  rw [hstep]
  refine oneSweep_update (s := s) rfl ?_ ?_
  · intro worker' w' hw'
    rw [hidle worker'] at hw'
    cases hw'
  · rintro w' ⟨⟩
    refine ⟨nodup_selectBatch _ _, fun row hrow r hr hid => ?_⟩
    obtain ⟨hmem, hselectable⟩ := of_mem_selectBatch hrow
    rw [Table.eq_of_id_eq hr hmem hid]
    exact hselectable

/-- A step of the only sweep keeps it the only one. -/
theorem OneSweep.sweepStep {s : World ι} (hs : OneSweep s) {worker : ι} {w : Sweep}
    (hw : s.sweeps worker = some w) (event : SweepEvent) : OneSweep (s.sweepStep worker w event) := by
  obtain ⟨sweep, hsweeps, hmoves⟩ := advances_sweepStep hw event
  refine oneSweep_update hsweeps (fun worker' w' hw' => hs.one worker' worker w' w hw' hw)
    fun w' hw' => ?_
  exact (hs.holds worker w hw).moves (written_sweepStep s worker w event) (hmoves w' hw')

/-- A step that starts no second sweep keeps one sweep at a time. -/
theorem OneSweep.step {c : Counted ι} (hs : OneSweep c.world) (event : Event ι)
    (halone : StartsAlone c event (c.step event)) : OneSweep (c.world.step event) := by
  have hwritten := written_step c.world event
  cases event with
  | insert id tenantId aggregateId aggregateType eventType payload now =>
    refine hs.of_sweeps_eq rfl hwritten fun r => ?_
    unfold World.writes
    dsimp only
    split
    · rfl
    · rfl
  | select worker rank => exact oneSweep_select halone worker rank
  | sweep worker event =>
    unfold World.step
    dsimp only
    rcases hw : c.world.sweeps worker with _ | w
    · exact hs
    · exact hs.sweepStep hw event
  | landOrphan index =>
    refine hs.of_sweeps_eq ?_ hwritten fun r => rfl
    unfold World.step
    dsimp only
    split
    · rfl
    · exact World.sweeps_accept _ _ _
  | remove queue jobId => exact hs.of_sweeps_eq rfl hwritten fun r => rfl

/-- Sweeps that never overlap mark no row published twice, leave published rows alone and keep the
counters in their limit. -/
theorem onePublish_of_startsAlone (events : List (Event ι))
    (halone : Along StartsAlone Counted.init (exec Counted.step Counted.init events)) :
    Along OnePublish Counted.init (exec Counted.step Counted.init events) := by
  refine (Along.guarded (I := fun c => PublishesCounted c.world.table c.publishes ∧ OneSweep c.world)
    ?_ (along_exec Counted.step Counted.init events) halone
    ⟨publishesCounted_init, oneSweep_init⟩).1
  rintro c event c' ⟨hcounted, hone⟩ rfl hevent
  have hpending := hone.pending event
  exact ⟨(onePublish_step hcounted event).mpr hpending,
    hcounted.written (written_step c.world event) hpending, hone.step event hevent⟩

end EmailTriage.Queue
