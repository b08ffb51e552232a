import EmailTriage.Queue.OutboxDelivery
import EmailTriage.Queue.CalmSweep

/-!
# No row is lost before its last attempt

A row leaves the selection when it is published, and when `MAX_ATTEMPTS` failures of it were counted.
Until then it is selected again, and undisturbed sweeps deliver it.

The first half counts: the failures of a row are its attempts (`tally_failures`), so a row that is
neither published nor selectable has used all of them up. The second half starts from any state a run
reaches and lets undisturbed sweeps follow, each with an order of adds of its own.
-/

namespace EmailTriage.Queue

open Js Db Runs

variable {ι : Type} [DecidableEq ι]

/-- The counter of a row is the number of failures counted. -/
theorem tally_failures (events : List (Event ι)) :
    Tally OutboxRow.attempts (events.foldl Counted.step Counted.init).world.table
      (events.foldl Counted.step Counted.init).failures := by
  refine foldl_invariant (I := fun c : Counted ι => Tally OutboxRow.attempts c.world.table c.failures)
    (fun c event hc => ?_) (tally_empty _) events
  have h := written_step c.world event
  exact hc.written h (fun _ _ hattempts => hattempts) (fun r _ => attempts_onRow _ r) h.failures_absent

/-- A row that has attempts left is published or selectable. -/
theorem published_or_selectable {r : OutboxRow} (h : r.attempts < MAX_ATTEMPTS) :
    r.published = true ∨ Selectable r := by
  rcases hpublished : r.published with _ | _
  · exact .inr ⟨hpublished, h⟩
  · exact .inl rfl

/-- Undisturbed sweeps keep what every run keeps. -/
theorem Inv.foldl_run {start : OutboxTable} {s : World ι} (hs : Inv start s) (worker : ι)
    (calms : List CalmSweep) : Inv start (calms.foldl (CalmSweep.run worker) s) :=
  foldl_invariant (fun s calm hs => foldl_invariant (fun _ event hs => hs.step event) hs
    (calm.events worker s.table)) hs calms

/-- After any steps of any workers from the empty table, every row is published, or selectable, or has
had all its attempts. A selectable row with a route is delivered as soon as some worker makes as many
undisturbed sweeps as the selectable rows have attempts left. -/
theorem published_selectable_or_exhausted (events : List (Event ι)) :
    let c := events.foldl Counted.step Counted.init
    (∀ r ∈ c.world.table.rows,
        r.published = true ∨ Selectable r ∨ MAX_ATTEMPTS ≤ c.failures r.id) ∧
      ∀ worker, c.world.sweeps worker = none →
        ∀ calms : List CalmSweep, budget c.world.table ≤ calms.length →
          let s := calms.foldl (CalmSweep.run worker) c.world
          ∀ r ∈ c.world.table.rows, Selectable r → Routed r →
            ∃ r' ∈ s.table.rows, r'.id = r.id ∧ r'.published = true ∧ Delivered s r' := by
  intro c
  constructor
  · intro r hr
    rw [(tally_failures events).rows r hr]
    rcases Nat.lt_or_ge r.attempts MAX_ATTEMPTS with hlt | hge
    · exact (published_or_selectable hlt).imp_right .inl
    · exact .inr (.inr hge)
  · intro worker hidle calms hbudget s r hr hselectable hroute
    have hs := CalmSweep.at_foldl_run calms hidle
    obtain ⟨r', hr', hid, hpublished⟩ :=
      CalmSweep.published_foldl_relay calms hr hselectable hroute hbudget
    rw [← hs.table] at hr'
    -- what is published from the empty table on was delivered first
    have hinv : Inv Table.empty c.world := by
      rw [Counted.world_foldl]
      exact foldl_invariant (fun _ event hs => hs.step event) (inv_init _) events
    rcases (hinv.foldl_run worker calms).rows r' hr' hpublished with ⟨r₀, hr₀, -⟩ | hall
    · cases hr₀
    · exact ⟨r', hr', hid, hpublished, hall.delivered⟩

/-- A sweep in which the queue of the row rejects its add. -/
def failingSweep : List (Event Unit) :=
  [.select () fun _ => 0, .sweep () .next, .sweep () (.reject .mailboxIngestion "down"),
    .sweep () (.markFailed none), .sweep () .next]

/-- After ten failing sweeps the row is neither published nor selectable. -/
theorem not_published_or_selectable_failed :
    ¬∀ r ∈ (((.insert "row" "tenant" "aggregate" "MailboxAuthorization" "MailboxAuthorizedEvent" .null
          0 : Event Unit) :: (List.replicate 10 failingSweep).flatten).foldl World.step
        (World.init Table.empty)).table.rows,
      r.published = true ∨ Selectable r := by
  decide

end EmailTriage.Queue
