import Mathlib.Algebra.Order.BigOperators.Group.List
import EmailTriage.Queue.OutboxWrites

/-!
# Undisturbed sweeps

A sweep that runs alone from its selection to its end, with queues that accept every add and a
database that answers, publishes each routed row of its batch and counts a failure of the others,
in whatever order the adds of a row reach their queues and resolve (`Settles`):
`CalmSweep.relay` says what becomes of the table, and `CalmSweep.at_run` shows it for the steps of the
system. Every such sweep uses up attempts or publishes, so no selectable row waits behind others forever.
-/

namespace EmailTriage.Queue

open Js Db

/-- A row whose event type has an entry in the routing table. -/
def Routed (r : OutboxRow) : Prop := ∃ queues, route r.eventType = .targets queues

/-- The attempts a selectable row has left. -/
def attemptsLeft (r : OutboxRow) : ℕ := if Selectable r then MAX_ATTEMPTS - r.attempts else 0

/-- The attempts all selectable rows have left. -/
def budget (t : OutboxTable) : ℕ := (t.rows.map attemptsLeft).sum

/-- Steps in which all waiting adds reach their queues and all adds resolve, in any order. -/
inductive Settles : (waiting landed : List QueueName) → List SweepEvent → Prop
  | done : Settles [] [] []
  | land {queue : QueueName} {waiting landed : List QueueName} {events : List SweepEvent}
      (h : queue ∈ waiting) (hrest : Settles (waiting.erase queue) (queue :: landed) events) :
      Settles waiting landed (.land queue :: events)
  | resolve {queue : QueueName} {waiting landed : List QueueName} {events : List SweepEvent}
      (h : queue ∈ landed) (hrest : Settles waiting (landed.erase queue) events) :
      Settles waiting landed (.resolve queue :: events)

/-- The choices of an undisturbed sweep: the order of rows created at the same time, the order in which
the adds of each row land and resolve, and the time at which it publishes the row. -/
structure CalmSweep where
  rank : String → ℕ
  adds : OutboxRow → List QueueName → List SweepEvent
  settles : ∀ row queues, Settles queues [] (adds row queues)
  now : String → ℤ

namespace Settles

/-- When no add is left, nothing happens. -/
theorem eq_nil {events : List SweepEvent} (h : Settles [] [] events) : events = [] := by
  cases h with
  | done => rfl
  | land h => cases h
  | resolve h => cases h

/-- The adds that have landed can resolve one after the other. -/
theorem resolves (landed : List QueueName) : Settles [] landed (landed.map .resolve) := by
  induction landed with
  | nil => exact .done
  | cons queue landed ih =>
    refine .resolve List.mem_cons_self ?_
    rwa [List.erase_cons_head]

/-- All adds can land before the first one resolves. -/
theorem lands (waiting landed : List QueueName) :
    Settles waiting landed (waiting.map .land ++ (waiting.reverse ++ landed).map .resolve) := by
  induction waiting generalizing landed with
  | nil => exact resolves landed
  | cons queue waiting ih =>
    rw [List.reverse_cons, List.append_assoc]
    refine .land List.mem_cons_self ?_
    rw [List.erase_cons_head]
    exact ih (queue :: landed)

end Settles

namespace CalmSweep

/-- A sweep in which all adds of a row land before the first one resolves. -/
instance : Inhabited CalmSweep where
  default :=
    { rank := fun _ => 0
      adds := fun _ queues => queues.map .land ++ (queues.reverse ++ []).map .resolve
      settles := fun _ queues => .lands queues []
      now := fun _ => 0 }

/-- The steps from one row of the batch to the next. -/
def rowEvents (calm : CalmSweep) (row : OutboxRow) : List SweepEvent :=
  .next :: match startRow row with
    | .scanning => []
    | .adding row queues _ => calm.adds row queues ++ [.update (calm.now row.id) none]
    | .publishing row => [.update (calm.now row.id) none]
    | .failing _ _ => [.markFailed none]

variable {ι : Type}

/-- The steps of the sweep. -/
def events (calm : CalmSweep) (worker : ι) (t : OutboxTable) : List (Event ι) :=
  .select worker calm.rank ::
    ((selectBatch t calm.rank).flatMap calm.rowEvents ++ [SweepEvent.next]).map (.sweep worker)

/-- What the sweep does to a row of its batch. -/
def patch (calm : CalmSweep) (row : OutboxRow) : Patch OutboxRow :=
  match startRow row with
  | .failing _ message => countFailure message
  -- a row without targets is published too
  | _ => publish (calm.now row.id)

/-- The table once the sweep is done with a row. -/
def settle (calm : CalmSweep) (t : OutboxTable) (row : OutboxRow) : OutboxTable :=
  t.updateMany (fun r => r.id = row.id) (calm.patch row)

/-- The table after the sweep. -/
def relay (calm : CalmSweep) (t : OutboxTable) : OutboxTable :=
  (selectBatch t calm.rank).foldl calm.settle t

/-! ## The steps of a sweep

`At` fixes the table and the phase of one worker. Each lemma takes the worker from one phase to the
next by the events of a `CalmSweep`.
-/

variable [DecidableEq ι]

/-- The world after an undisturbed sweep. -/
def run (worker : ι) (s : World ι) (calm : CalmSweep) : World ι :=
  (calm.events worker s.table).foldl World.step s

/-- The world after some steps of one sweep. -/
def sweepRun (worker : ι) (s : World ι) (events : List SweepEvent) : World ι :=
  (events.map (.sweep worker)).foldl World.step s

/-- The table, and what the sweep of a worker is doing. -/
structure At (worker : ι) (t : OutboxTable) (w : Option Sweep) (s : World ι) : Prop where
  table : s.table = t
  sweep : s.sweeps worker = w

variable {worker : ι} {s : World ι} {t : OutboxTable} {row : OutboxRow} {rest : List OutboxRow}
  {relayed failed : ℕ}

/-- Steps after steps. -/
theorem sweepRun_append (worker : ι) (s : World ι) (events events' : List SweepEvent) :
    sweepRun worker s (events ++ events') = sweepRun worker (sweepRun worker s events) events' := by
  unfold sweepRun
  rw [List.map_append, List.foldl_append]

/-- The first step of a sweep that is running, and the others after it. -/
theorem sweepRun_cons {w : Sweep} (hs : At worker t (some w) s) (event : SweepEvent)
    (events : List SweepEvent) :
    sweepRun worker s (event :: events) = sweepRun worker (s.sweepStep worker w event) events := by
  have hstep : s.step (.sweep worker event) = s.sweepStep worker w event := by
    unfold World.step
    dsimp only
    rw [hs.sweep]
  unfold sweepRun
  rw [List.map_cons, List.foldl_cons, hstep]

/-- A sweep that is moved on is where it was moved. -/
theorem at_setSweep {s' : World ι} (htable : s'.table = t) (worker : ι) (w : Option Sweep) :
    At worker t w (s'.setSweep worker w) :=
  ⟨htable, Function.update_self _ _ _⟩

/-- Once all adds have reached their queues and resolved, the row is to be published. -/
theorem at_settled {waiting landed : List QueueName} {events : List SweepEvent}
    (hevents : Settles waiting landed events) (hadds : waiting ≠ [] ∨ landed ≠ [])
    (hs : At worker t (some ⟨.adding row waiting landed, rest, relayed, failed⟩) s) :
    At worker t (some ⟨.publishing row, rest, relayed, failed⟩) (sweepRun worker s events) := by
  induction hevents generalizing s with
  | done => exact absurd hadds (by simp)
  | land hqueue hrest ih =>
    rw [sweepRun_cons hs]
    refine ih (.inr (List.cons_ne_nil _ _)) ?_
    unfold World.sweepStep
    dsimp only
    rw [if_pos hqueue]
    exact at_setSweep ((World.table_accept _ _ _).trans hs.table) _ _
  | @resolve queue waiting landed events hqueue hrest ih =>
    rw [sweepRun_cons hs]
    have hstep : s.sweepStep worker ⟨.adding row waiting landed, rest, relayed, failed⟩ (.resolve queue)
        = s.setSweep worker (some ⟨if waiting = [] ∧ landed.erase queue = [] then .publishing row
          else .adding row waiting (landed.erase queue), rest, relayed, failed⟩) := by
      unfold World.sweepStep
      dsimp only
      rw [if_pos hqueue]
    rw [hstep]
    by_cases hlast : waiting = [] ∧ landed.erase queue = []
    · -- the last add has resolved
      rw [hlast.1, hlast.2] at hrest
      rw [if_pos hlast, hrest.eq_nil]
      exact at_setSweep hs.table _ _
    · rw [if_neg hlast]
      exact ih (not_and_or.mp hlast) (at_setSweep hs.table _ _)

/-- An update of a row that is there succeeds. -/
theorem update_eq {id : String} (hid : ∃ r ∈ t.rows, r.id = id) (f : Patch OutboxRow) :
    t.update id f = some (t.updateMany (fun r => r.id = id) f) := by
  unfold Table.update
  exact if_pos (List.any_eq_true.mpr (hid.imp fun r hr => ⟨hr.1, decide_eq_true hr.2⟩))

/-- The row is published. -/
theorem at_update (hid : ∃ r ∈ t.rows, r.id = row.id) (now : ℤ)
    (hs : At worker t (some ⟨.publishing row, rest, relayed, failed⟩) s) :
    At worker (t.updateMany (fun r => r.id = row.id) (publish now))
      (some ⟨.scanning, rest, relayed + 1, failed⟩) (sweepRun worker s [.update now none]) := by
  rw [sweepRun_cons hs]
  unfold World.sweepStep
  dsimp only
  rw [hs.table, update_eq hid]
  refine at_setSweep ?_ worker _
  rfl

/-- The failure is counted. -/
theorem at_markFailed (hid : ∃ r ∈ t.rows, r.id = row.id) {message : String}
    (hs : At worker t (some ⟨.failing row message, rest, relayed, failed⟩) s) :
    At worker (t.updateMany (fun r => r.id = row.id) (countFailure message))
      (some ⟨.scanning, rest, relayed, failed + 1⟩) (sweepRun worker s [.markFailed none]) := by
  rw [sweepRun_cons hs]
  unfold World.sweepStep
  dsimp only
  rw [hs.table, update_eq hid]
  refine at_setSweep ?_ worker _
  rfl

/-- A row is started in one of three ways. -/
theorem startRow_cases (row : OutboxRow) :
    startRow row = .publishing row ∨ (∃ message, startRow row = .failing row message) ∨
      ∃ queues, queues ≠ [] ∧ startRow row = .adding row queues [] := by
  unfold startRow
  rcases route row.eventType with _ | _ | queues
  · exact .inr (.inl ⟨_, rfl⟩)
  · exact .inr (.inl ⟨_, rfl⟩)
  · rcases queues with _ | ⟨queue, queues⟩
    · exact .inl rfl
    · exact .inr (.inr ⟨_, List.cons_ne_nil queue queues, rfl⟩)

/-- The steps for a row settle it. -/
theorem at_rowEvents (calm : CalmSweep) (hid : ∃ r ∈ t.rows, r.id = row.id)
    (hs : At worker t (some ⟨.scanning, row :: rest, relayed, failed⟩) s) :
    ∃ relayed' failed', At worker (calm.settle t row) (some ⟨.scanning, rest, relayed', failed'⟩)
      (sweepRun worker s (calm.rowEvents row)) := by
  unfold rowEvents
  rw [sweepRun_cons hs]
  have hnext : At worker t (some ⟨startRow row, rest, relayed, failed⟩)
      (s.sweepStep worker ⟨.scanning, row :: rest, relayed, failed⟩ .next) :=
    at_setSweep hs.table _ _
  generalize s.sweepStep worker ⟨.scanning, row :: rest, relayed, failed⟩ .next = s' at hnext ⊢
  unfold settle patch
  rcases startRow_cases row with hstart | ⟨message, hstart⟩ | ⟨queues, hqueues, hstart⟩
  · rw [hstart] at hnext ⊢
    exact ⟨_, _, at_update hid _ hnext⟩
  · rw [hstart] at hnext ⊢
    exact ⟨_, _, at_markFailed hid hnext⟩
  · rw [hstart] at hnext ⊢
    dsimp only
    rw [sweepRun_append]
    exact ⟨_, _, at_update hid _ (at_settled (calm.settles row queues) (.inl hqueues) hnext)⟩

/-! ## What a sweep makes of the table

The rows of the batch are settled one after the other. A batch holds a row once, so settling them in
turn is settling each row of the table by itself.
-/

omit [DecidableEq ι] in
/-- Settling a row changes no other one. -/
theorem rows_settle (calm : CalmSweep) (t : OutboxTable) (row : OutboxRow) :
    (calm.settle t row).rows
      = t.rows.map fun r => if r.id = row.id then (calm.patch row).apply r else r := by
  unfold settle Table.updateMany
  simp

/-- The row after a sweep over a batch. -/
def settleRow (calm : CalmSweep) (batch : List OutboxRow) (r : OutboxRow) : OutboxRow :=
  if r.id ∈ batch.map OutboxRow.id then (calm.patch r).apply r else r

/-- A sweep over a batch of rows of the table settles each of them. -/
theorem rows_foldl_settle (calm : CalmSweep) {batch : List OutboxRow} {t : OutboxTable}
    (hbatch : ∀ row ∈ batch, row ∈ t.rows) (hnodup : (batch.map OutboxRow.id).Nodup) :
    (batch.foldl calm.settle t).rows = t.rows.map (calm.settleRow batch) := by
  induction batch generalizing t with
  | nil =>
    unfold settleRow
    simp
  | cons row batch ih =>
    rw [List.map_cons, List.nodup_cons] at hnodup
    have hne : ∀ row' ∈ batch, row'.id ≠ row.id :=
      fun row' hrow' heq => hnodup.1 (List.mem_map.mpr ⟨row', hrow', heq⟩)
    rw [List.foldl_cons, ih ?_ hnodup.2, rows_settle, List.map_map]
    · refine List.map_congr_left fun r hr => ?_
      unfold settleRow
      rw [Function.comp_apply]
      by_cases hid : r.id = row.id
      · -- the row itself, which is not in the rest of the batch
        have heq : r = row := Table.eq_of_id_eq hr (hbatch row List.mem_cons_self) hid
        have hid' : ((calm.patch row).apply row).id = row.id := (calm.patch row).id_apply row
        rw [heq, if_pos rfl, hid', if_neg hnodup.1, List.map_cons, if_pos List.mem_cons_self]
      · have hmem : r.id ∈ (row :: batch).map OutboxRow.id ↔ r.id ∈ batch.map OutboxRow.id := by
          rw [List.map_cons, List.mem_cons, or_iff_right hid]
        rw [if_neg hid]
        exact if_congr hmem.symm rfl rfl
    · intro row' hrow'
      rw [rows_settle]
      refine List.mem_map.mpr ⟨row', hbatch row' (List.mem_cons_of_mem _ hrow'), ?_⟩
      exact if_neg (hne row' hrow')

/-- A sweep settles the rows of its batch and leaves the others alone. -/
theorem rows_relay (calm : CalmSweep) (t : OutboxTable) :
    (calm.relay t).rows = t.rows.map (calm.settleRow (selectBatch t calm.rank)) :=
  rows_foldl_settle calm (fun _ h => (of_mem_selectBatch h).1) (nodup_selectBatch t calm.rank)

/-- The steps for a batch. -/
theorem at_batch (calm : CalmSweep) {batch : List OutboxRow}
    (hbatch : ∀ row ∈ batch, ∃ r ∈ t.rows, r.id = row.id)
    (hs : At worker t (some ⟨.scanning, batch, relayed, failed⟩) s) :
    ∃ relayed' failed', At worker (batch.foldl calm.settle t)
      (some ⟨.scanning, [], relayed', failed'⟩) (sweepRun worker s (batch.flatMap calm.rowEvents)) := by
  induction batch generalizing s t relayed failed with
  | nil => exact ⟨_, _, hs⟩
  | cons row batch ih =>
    obtain ⟨relayed', failed', hrow⟩ := at_rowEvents calm (hbatch row List.mem_cons_self) hs
    rw [List.flatMap_cons, sweepRun_append]
    refine ih (fun row' hrow' => ?_) hrow
    obtain ⟨r, hr, hid⟩ := hbatch row' (List.mem_cons_of_mem _ hrow')
    rw [rows_settle]
    refine ⟨_, List.mem_map_of_mem hr, ?_⟩
    rw [← hid]
    split
    · exact (calm.patch row).id_apply r
    · rfl

/-- The steps of an undisturbed sweep make of the table what `relay` says, and end the sweep. -/
theorem at_run (calm : CalmSweep) (hs : s.sweeps worker = none) :
    At worker (calm.relay s.table) none (run worker s calm) := by
  have hselect : At worker s.table (some ⟨.scanning, selectBatch s.table calm.rank, 0, 0⟩)
      (s.step (.select worker calm.rank)) := by
    unfold World.step
    dsimp only
    rw [hs]
    exact at_setSweep rfl _ _
  obtain ⟨relayed, failed, hbatch⟩ :=
    at_batch calm (fun row hrow => ⟨row, (of_mem_selectBatch hrow).1, rfl⟩) hselect
  have hrun : run worker s calm = sweepRun worker (s.step (.select worker calm.rank))
      ((selectBatch s.table calm.rank).flatMap calm.rowEvents ++ [SweepEvent.next]) := rfl
  rw [hrun, sweepRun_append, sweepRun_cons hbatch]
  exact at_setSweep hbatch.table _ _

/-! ## Every row gets its turn

A sweep takes the oldest selectable rows. Each of them loses an attempt or its selection, so the attempts
that are left shrink with every sweep, and a row that waits comes to its turn.
-/

section

omit [DecidableEq ι]

variable {r : OutboxRow}

/-- A row of the batch is settled. -/
theorem settleRow_of_mem (calm : CalmSweep) {batch : List OutboxRow} (hr : r ∈ batch) :
    calm.settleRow batch r = (calm.patch r).apply r :=
  if_pos (List.mem_map_of_mem hr)

/-- A row that is not in the batch is left alone. -/
theorem settleRow_relay (calm : CalmSweep) (hr : r ∈ t.rows) (hbatch : r ∉ selectBatch t calm.rank) :
    calm.settleRow (selectBatch t calm.rank) r = r := by
  refine if_neg fun hid => ?_
  obtain ⟨row, hrow, hid⟩ := List.mem_map.mp hid
  have heq : row = r := Table.eq_of_id_eq (of_mem_selectBatch hrow).1 hr hid
  exact hbatch (heq ▸ hrow)

/-- A routed row is published. -/
theorem patch_of_routed (calm : CalmSweep) (hroute : Routed r) :
    calm.patch r = publish (calm.now r.id) := by
  obtain ⟨queues, hroute⟩ := hroute
  unfold patch startRow
  rw [hroute]
  rcases queues with _ | ⟨queue, queues⟩
  · rfl
  · rfl

/-- A row is published, or a failure of it is counted. -/
theorem patch_cases (calm : CalmSweep) (row : OutboxRow) :
    (∃ now, calm.patch row = publish now) ∨ ∃ message, calm.patch row = countFailure message := by
  unfold patch
  rcases startRow_cases row with hstart | ⟨message, hstart⟩ | ⟨queues, -, hstart⟩
  · rw [hstart]
    exact .inl ⟨_, rfl⟩
  · rw [hstart]
    exact .inr ⟨_, rfl⟩
  · rw [hstart]
    exact .inl ⟨_, rfl⟩

/-- A row that had its turn has fewer attempts left. -/
theorem attemptsLeft_patch (calm : CalmSweep) (hselectable : Selectable r) :
    attemptsLeft ((calm.patch r).apply r) < attemptsLeft r := by
  have hleft : attemptsLeft r = MAX_ATTEMPTS - r.attempts := if_pos hselectable
  have hlt := hselectable.2
  rcases calm.patch_cases r with ⟨now, hpatch⟩ | ⟨message, hpatch⟩
  · have hdone : attemptsLeft ((publish now).apply r) = 0 :=
      if_neg fun h => Bool.false_ne_true h.1.symm
    rw [hpatch, hdone, hleft]
    omega
  · have hcounted : ((countFailure message).apply r).attempts = r.attempts + 1 := rfl
    rw [hpatch, hleft]
    unfold attemptsLeft
    rw [hcounted]
    split
    · omega
    · omega

/-- The oldest selectable rows have their turn before one that waits, so the budget shrinks. -/
theorem budget_relay_lt (calm : CalmSweep) (hr : r ∈ t.rows) (hselectable : Selectable r) :
    budget (calm.relay t) < budget t := by
  have hpending := (@mem_pending_iff t calm.rank r).mpr ⟨hr, hselectable⟩
  obtain ⟨row, hrow⟩ : ∃ row, row ∈ selectBatch t calm.rank := by
    refine List.exists_mem_of_ne_nil _ fun hnil => ?_
    rcases List.take_eq_nil_iff.mp hnil with hzero | hnil
    · cases hzero
    · rw [hnil] at hpending
      cases hpending
  have hturn : ∀ row ∈ selectBatch t calm.rank,
      attemptsLeft (calm.settleRow (selectBatch t calm.rank) row) < attemptsLeft row := by
    intro row hrow
    rw [calm.settleRow_of_mem hrow]
    exact calm.attemptsLeft_patch (of_mem_selectBatch hrow).2
  unfold budget
  rw [rows_relay, List.map_map]
  refine List.sum_lt_sum _ _ (fun row hrow => ?_) ⟨row, (of_mem_selectBatch hrow).1, hturn row hrow⟩
  by_cases hbatch : row ∈ selectBatch t calm.rank
  · exact (hturn row hbatch).le
  · rw [Function.comp_apply, calm.settleRow_relay hrow hbatch]

/-- A published row stays as it is. -/
theorem mem_foldl_relay (calms : List CalmSweep) (hr : r ∈ t.rows) (hpublished : r.published = true) :
    r ∈ (calms.foldl (fun t calm => calm.relay t) t).rows := by
  induction calms generalizing t with
  | nil => exact hr
  | cons calm calms ih =>
    refine ih ?_
    have hbatch : r ∉ selectBatch t calm.rank := by
      intro hmem
      rw [(of_mem_selectBatch hmem).2.1] at hpublished
      cases hpublished
    rw [rows_relay]
    exact List.mem_map.mpr ⟨r, hr, calm.settleRow_relay hr hbatch⟩

/-- As many undisturbed sweeps as there are attempts left publish every selectable row with a route. -/
theorem published_foldl_relay (calms : List CalmSweep) (hr : r ∈ t.rows) (hselectable : Selectable r)
    (hroute : Routed r) (hbudget : budget t ≤ calms.length) :
    ∃ r' ∈ (calms.foldl (fun t calm => calm.relay t) t).rows, r'.id = r.id ∧ r'.published = true := by
  induction calms generalizing t with
  | nil =>
    -- a selectable row has attempts left, so the budget is not used up
    have hleft : attemptsLeft r = MAX_ATTEMPTS - r.attempts := if_pos hselectable
    have hle : attemptsLeft r ≤ budget t := List.le_sum_of_mem (List.mem_map_of_mem hr)
    have hlt := hselectable.2
    rw [List.length_nil] at hbudget
    omega
  | cons calm calms ih =>
    rw [List.foldl_cons]
    by_cases hbatch : r ∈ selectBatch t calm.rank
    · -- its turn: it is published, and no later sweep selects it
      have hmem : (publish (calm.now r.id)).apply r ∈ (calm.relay t).rows := by
        rw [rows_relay, ← calm.patch_of_routed hroute, ← calm.settleRow_of_mem hbatch]
        exact List.mem_map_of_mem hr
      exact ⟨_, mem_foldl_relay calms hmem rfl, rfl, rfl⟩
    · -- it waits, and the rows before it have used up a part of the budget
      have hmem : r ∈ (calm.relay t).rows := by
        rw [rows_relay]
        exact List.mem_map.mpr ⟨r, hr, calm.settleRow_relay hr hbatch⟩
      have hlt := calm.budget_relay_lt hr hselectable
      rw [List.length_cons] at hbudget
      exact ih hmem (by omega)

end

/-- Undisturbed sweeps one after the other. -/
theorem at_foldl_run (calms : List CalmSweep) (hs : s.sweeps worker = none) :
    At worker (calms.foldl (fun t calm => calm.relay t) s.table) none (calms.foldl (run worker) s) := by
  induction calms generalizing s with
  | nil => exact ⟨rfl, hs⟩
  | cons calm calms ih =>
    have hrun := at_run calm hs
    have hrest := ih hrun.sweep
    rw [hrun.table] at hrest
    exact hrest

end CalmSweep

end EmailTriage.Queue
