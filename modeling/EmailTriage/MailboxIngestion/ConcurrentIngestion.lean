import Mathlib.Data.List.Forall2
import EmailTriage.MailboxIngestion.IngestedMessageRepository

/-!
# Messages are ingested exactly once

Whatever the interleaving and the failures of the calls of `save`, the two tables hold what they held at
the start and, after it, what a log of calls wrote: each of these calls inserted one message and the
outbox rows of its own events, and returned that message. Every other call has written nothing, and
those among them that returned found the message of another one.

A call writes in one transaction, so the log grows by a whole entry or not at all:
`IngestionInv.commit` is the one step that appends to it. The unique key of `ingested_messages` is what
keeps a second call from inserting the same message, and a call that loses that race reads what the
other one wrote.
-/

namespace EmailTriage.MailboxIngestion

open Db Runs IngestedMessageRepository
open Queue (OutboxRow)

/-- A call that has inserted a message, with what it wrote. -/
structure Inserted (ι : Type) where
  call : ι
  row : IngestedMessageRow
  written : List OutboxRow

/-- The outbox rows of some events. -/
def EventRows (tenantId : String) (events : List OutboxEventInput) (written : List OutboxRow) : Prop :=
  List.Forall₂ (fun event row => ∃ id now, row = outboxRow id now tenantId event) events written

section

variable {ι : Type}

/-- The tables hold what they held at the start and what the calls of the log wrote. Each of these calls
has returned the message it inserted, and any call that has returned has returned a stored message with
its own key. -/
structure ExactlyOnce (start s : Ingestion ι) (log : List (Inserted ι)) : Prop where
  messages : s.messages.rows = start.messages.rows ++ log.map Inserted.row
  outbox : s.outbox = start.outbox ++ log.flatMap Inserted.written
  once : (log.map Inserted.call).Nodup
  logged : ∀ e ∈ log, ∃ save, s.calls e.call = .returned save e.row ∧
    (∃ id now, e.row = createData id now save.data) ∧
    EventRows save.data.tenantId save.events e.written
  returned : ∀ call save row, s.calls call = .returned save row →
    row ∈ s.messages.rows ∧ Schema.key row = keyOf save.data

/-- What a call in the middle of its writes has written so far. -/
def WritingOk : SavePhase → Prop
  | .writing save row rest written => (∃ id now, row = createData id now save.data) ∧
      ∃ done, save.events = done ++ rest ∧ EventRows save.data.tenantId done written
  | _ => True

/-- The invariant of any run. -/
structure IngestionInv (start s : Ingestion ι) (log : List (Inserted ι)) : Prop
    extends ExactlyOnce start s log where
  writing : ∀ call, WritingOk (s.calls call)

/-- Nothing was ingested in the beginning. -/
theorem ingestionInv_init (messages : IngestedMessageTable) (outbox : List OutboxRow) :
    IngestionInv (Ingestion.init messages outbox : Ingestion ι) (Ingestion.init messages outbox) [] where
  messages := (List.append_nil _).symm
  outbox := (List.append_nil _).symm
  once := List.nodup_nil
  logged e he := absurd he List.not_mem_nil
  returned call save row h := by cases h
  writing call := trivial

variable [DecidableEq ι] {start s : Ingestion ι} {log : List (Inserted ι)}

/-! ## Steps

The log has one entry for each message that was inserted, with the events that went into the outbox
with it. A call that fails or finds the message changes neither.
-/

/-- A call that has not returned moves on without a commit. -/
theorem IngestionInv.setCall (hs : IngestionInv start s log) {call : ι} {phase : SavePhase}
    (hopen : ∀ save row, s.calls call ≠ .returned save row) (hwriting : WritingOk phase)
    (hreturned : ∀ save row, phase = .returned save row →
      row ∈ s.messages.rows ∧ Schema.key row = keyOf save.data) :
    IngestionInv start (s.setCall call phase) log := by
  refine ⟨⟨hs.messages, hs.outbox, hs.once, fun e he => ?_, fun call' save row h => ?_⟩,
    fun call' => ?_⟩
  · obtain ⟨save, hsave, hrow⟩ := hs.logged e he
    have hne : e.call ≠ call := by
      rintro rfl
      exact hopen save e.row hsave
    exact ⟨save, (s.calls_setCall_of_ne hne phase).trans hsave, hrow⟩
  · by_cases hcall : call' = call
    · rw [hcall, Ingestion.calls_setCall_self] at h
      exact hreturned save row h
    · rw [Ingestion.calls_setCall_of_ne hcall] at h
      exact hs.returned call' save row h
  · by_cases hcall : call' = call
    · rw [hcall, Ingestion.calls_setCall_self]
      exact hwriting
    · rw [Ingestion.calls_setCall_of_ne hcall]
      exact hs.writing call'

/-- A commit adds its call to the log, or fails and changes neither table. -/
theorem IngestionInv.commit (hs : IngestionInv start s log) {call : ι} {save : Save}
    {row : IngestedMessageRow} {written : List OutboxRow}
    (hphase : s.calls call = .writing save row [] written) :
    ∃ log', IngestionInv start (s.commit call save row written) log' := by
  have hopen : ∀ save row, s.calls call ≠ .returned save row := by
    intro save' row' h
    rw [hphase] at h
    cases h
  unfold Ingestion.commit
  rcases hcreate : s.messages.create row with _ | messages
  · -- another call has committed the message first
    refine ⟨log, hs.setCall hopen trivial ?_⟩
    rintro save' row' ⟨⟩
  · have hwriting := hs.writing call
    rw [hphase] at hwriting
    obtain ⟨⟨id, now, hrow⟩, done, hdone, hwritten⟩ := hwriting
    rw [List.append_nil] at hdone
    have hrows := IngestedMessageTable.rows_create hcreate
    -- a call of the log has returned, and this one has not
    have hnew : call ∉ log.map Inserted.call := by
      intro hmem
      obtain ⟨e, he, rfl⟩ := List.mem_map.mp hmem
      obtain ⟨save', h, -⟩ := hs.logged e he
      exact hopen save' e.row h
    refine ⟨log ++ [⟨call, row, written⟩], ⟨?_, ?_, ?_, fun e he => ?_, fun call' save' row' h => ?_⟩,
      fun call' => ?_⟩
    · rw [List.map_append, ← List.append_assoc, ← hs.messages]
      exact hrows
    · rw [List.flatMap_append, ← List.append_assoc, ← hs.outbox]
      simp [Ingestion.setCall]
    · rw [List.map_append, List.nodup_append]
      refine ⟨hs.once, List.nodup_singleton _, ?_⟩
      rintro a ha b hb rfl
      rw [List.mem_singleton.mp hb] at ha
      exact hnew ha
    · rcases List.mem_append.mp he with he | he
      · obtain ⟨save', hsave', hrow'⟩ := hs.logged e he
        have hne : e.call ≠ call := fun h => hnew (h ▸ List.mem_map_of_mem he)
        exact ⟨save', (Ingestion.calls_setCall_of_ne hne _ _).trans hsave', hrow'⟩
      · rw [List.mem_singleton.mp he]
        refine ⟨save, Ingestion.calls_setCall_self _ _ _, ⟨id, now, hrow⟩, ?_⟩
        rw [hdone]
        exact hwritten
    · by_cases hcall : call' = call
      · rw [hcall, Ingestion.calls_setCall_self] at h
        obtain ⟨rfl, rfl⟩ := SavePhase.returned.inj h
        refine ⟨?_, by rw [hrow]; rfl⟩
        exact hrows ▸ List.mem_append_right _ (List.mem_singleton.mpr rfl)
      · rw [Ingestion.calls_setCall_of_ne hcall] at h
        obtain ⟨hmem, hkey⟩ := hs.returned call' save' row' h
        exact ⟨hrows ▸ List.mem_append_left _ hmem, hkey⟩
    · by_cases hcall : call' = call
      · rw [hcall, Ingestion.calls_setCall_self]
        exact trivial
      · rw [Ingestion.calls_setCall_of_ne hcall]
        exact hs.writing call'

/-- A statement of a call keeps the invariant. -/
theorem IngestionInv.runCall (hs : IngestionInv start s log) {call : ι} {phase : SavePhase}
    (hphase : s.calls call = phase) (id : String) (now : ℤ) :
    ∃ log', IngestionInv start (s.runCall call id now phase) log' := by
  have hopen : (∀ save row, phase ≠ .returned save row) →
      ∀ save row, s.calls call ≠ .returned save row := by
    intro h save row
    rw [hphase]
    exact h save row
  cases phase with
  | looking save =>
    have hlooking := hopen fun _ _ h => SavePhase.noConfusion h
    unfold Ingestion.runCall
    dsimp only
    rcases hfind : s.messages.find (keyOf save.data) with _ | existing
    · refine ⟨log, hs.setCall hlooking trivial ?_⟩
      rintro save' row' ⟨⟩
    · -- the message is there, and the call returns it
      refine ⟨log, hs.setCall hlooking trivial ?_⟩
      rintro save' row' ⟨⟩
      exact Table.find_eq_some_iff.mp hfind
  | inserting save =>
    have hinserting := hopen fun _ _ h => SavePhase.noConfusion h
    unfold Ingestion.runCall
    dsimp only
    rcases s.messages.create (createData id now save.data) with _ | messages
    · refine ⟨log, hs.setCall hinserting trivial ?_⟩
      rintro save' row' ⟨⟩
    · refine ⟨log, hs.setCall hinserting ⟨⟨id, now, rfl⟩, [], rfl, .nil⟩ ?_⟩
      rintro save' row' ⟨⟩
  | writing save row rest written =>
    cases rest with
    | nil => exact hs.commit hphase
    | cons event rest =>
      have hwriting := hs.writing call
      rw [hphase] at hwriting
      obtain ⟨hrow, done, hdone, hwritten⟩ := hwriting
      have hopen' := hopen fun _ _ h => SavePhase.noConfusion h
      -- the row of the event is written, and is on top of those that the call has written before
      refine ⟨log, hs.setCall hopen' ⟨hrow, done ++ [event], ?_, ?_⟩ ?_⟩
      · rw [hdone, List.append_assoc]
        rfl
      · exact List.rel_append hwritten (.cons ⟨id, now, rfl⟩ .nil)
      · rintro save' row' ⟨⟩
  | idle => exact ⟨log, hs⟩
  | returned save row => exact ⟨log, hs⟩
  | failed save => exact ⟨log, hs⟩

/-- A failure changes neither table. -/
theorem IngestionInv.failCall (hs : IngestionInv start s log) {call : ι} {phase : SavePhase}
    (hphase : s.calls call = phase) : IngestionInv start (s.failCall call phase) log := by
  have hfail : ∀ save : Save, (∀ save row, phase ≠ .returned save row) →
      IngestionInv start (s.setCall call (.failed save)) log := by
    intro save h
    refine hs.setCall (fun save' row' => hphase ▸ h save' row') trivial ?_
    rintro save' row' ⟨⟩
  cases phase with
  | looking save => exact hfail save fun _ _ h => SavePhase.noConfusion h
  | inserting save => exact hfail save fun _ _ h => SavePhase.noConfusion h
  | writing save row rest written => exact hfail save fun _ _ h => SavePhase.noConfusion h
  | idle => exact hs
  | returned save row => exact hs
  | failed save => exact hs

/-- Every step keeps the invariant, with a log that may have grown. -/
theorem IngestionInv.step (hs : IngestionInv start s log) (event : IngestionEvent ι) :
    ∃ log', IngestionInv start (s.step event) log' := by
  cases event with
  | start call save =>
    unfold Ingestion.step
    dsimp only
    split
    · next hphase =>
      refine ⟨log, hs.setCall (fun save' row' h => ?_) trivial ?_⟩
      · rw [hphase] at h
        cases h
      · rintro save' row' ⟨⟩
    · exact ⟨log, hs⟩
  | run call id now => exact hs.runCall rfl id now
  | fail call => exact ⟨log, hs.failCall rfl⟩

/-- After any steps of any calls, from any two tables: the tables hold what they held and what a log of
calls wrote, each of them a message with the outbox rows of its events; a call that failed is not among
them, and no two messages have the same key. -/
theorem exactlyOnce (messages : IngestedMessageTable) (outbox : List OutboxRow)
    (events : List (IngestionEvent ι)) :
    let start : Ingestion ι := Ingestion.init messages outbox
    let s := events.foldl Ingestion.step start
    (∃ log, ExactlyOnce start s log ∧
        ∀ call save, s.calls call = .failed save → call ∉ log.map Inserted.call) ∧
      (s.messages.rows.map Schema.key).Nodup := by
  intro start s
  obtain ⟨log, hinv⟩ : ∃ log, IngestionInv start s log :=
    foldl_invariant (I := fun s => ∃ log, IngestionInv start s log)
      (fun _ event ⟨_, hs⟩ => hs.step event) ⟨[], ingestionInv_init messages outbox⟩ events
  refine ⟨⟨log, hinv.toExactlyOnce, fun call save hfailed hmem => ?_⟩, s.messages.key_nodup⟩
  obtain ⟨e, he, rfl⟩ := List.mem_map.mp hmem
  obtain ⟨save', hreturned, -⟩ := hinv.logged e he
  rw [hfailed] at hreturned
  cases hreturned

end

end EmailTriage.MailboxIngestion
