import Mathlib.Data.List.Pairwise
import EmailTriage.MailboxIngestion.ConcurrentIngestion
import EmailTriage.Queue.BridgeDelivery

/-!
# From a message to its events on the bus

The calls of `save`, the relay and the bridge over one table `domain_event_outbox`: a commit of `save`
makes its outbox rows visible to the sweeps, and is undone when one of them has the id of another row.
Other rows come from the other writers of the outbox. A message may be delivered any number of times by
its platform and its event any number of times by the queues, yet each event on the bus belongs to one
ingestion, and each message was ingested once.
-/

namespace EmailTriage.MailboxIngestion

open Db Runs
open Queue (OutboxRow OutboxTable Bridge BridgeEvent BridgeInv GivesBack Handled CopyOf Extends SameEvent jobOf route)

/-- The ingestion beside the relay and the bridge. -/
structure Pipeline (ι κ : Type) where
  ingestion : Ingestion ι
  bridge : Bridge κ

inductive PipelineEvent (ι κ : Type) where
  | ingest (event : IngestionEvent ι)
  | bridge (event : BridgeEvent κ)

/-- Insert rows one after the other. -/
def insertAll (t : OutboxTable) (rows : List OutboxRow) : Option OutboxTable := rows.foldlM Db.Table.create t

namespace Pipeline

variable {ι κ : Type} [DecidableEq ι] [DecidableEq κ]

def init (messages : IngestedMessageTable) : Pipeline ι κ :=
  ⟨Ingestion.init messages [], Bridge.init (.init .empty)⟩

/-- What becomes of the ingestion when a statement is refused. -/
def refuse (s : Ingestion ι) : IngestionEvent ι → Ingestion ι
  | .run call _ _ => s.step (.fail call)
  | _ => s

/-- A statement of a call of `save`; the rows a commit writes appear in the table. -/
def ingest (p : Pipeline ι κ) (event : IngestionEvent ι) : Pipeline ι κ :=
  let ingestion := p.ingestion.step event
  match insertAll p.bridge.relay.table (ingestion.outbox.drop p.ingestion.outbox.length) with
  | some table => ⟨ingestion, { p.bridge with relay := p.bridge.relay.setTable table }⟩
  | none => { p with ingestion := refuse p.ingestion event }

def step (givesBack : GivesBack) (p : Pipeline ι κ) : PipelineEvent ι κ → Pipeline ι κ
  | .ingest event => p.ingest event
  | .bridge event => { p with bridge := p.bridge.step givesBack event }

end Pipeline

/-! ## The outbox of the ingestion

The rows of the outbox are the events of the saves that were committed, in their order.
-/

section

variable {ι : Type} [DecidableEq ι]

/-- A step of the ingestion appends to its outbox. -/
theorem outbox_prefix_step (s : Ingestion ι) (event : IngestionEvent ι) :
    s.outbox <+: (s.step event).outbox := by
  -- only a commit writes to the outbox, and it appends
  have hcommit : ∀ call save row written, s.outbox <+: (s.commit call save row written).outbox := by
    intro call save row written
    unfold Ingestion.commit
    split
    · exact List.prefix_append _ _
    · exact List.prefix_rfl
  cases event with
  | start call save =>
    unfold Ingestion.step
    dsimp only
    split
    · exact List.prefix_rfl
    · exact List.prefix_rfl
  | run call id now =>
    unfold Ingestion.step Ingestion.runCall
    dsimp only
    split
    · split
      · exact List.prefix_rfl
      · exact List.prefix_rfl
    · split
      · exact List.prefix_rfl
      · exact List.prefix_rfl
    · exact List.prefix_rfl
    · exact hcommit call _ _ _
    · exact List.prefix_rfl
  | fail call =>
    unfold Ingestion.step Ingestion.failCall
    dsimp only
    split
    · exact List.prefix_rfl
    · exact List.prefix_rfl
    · exact List.prefix_rfl
    · exact List.prefix_rfl

/-- A refused statement writes nothing. -/
theorem outbox_refuse (s : Ingestion ι) (event : IngestionEvent ι) :
    (Pipeline.refuse s event).outbox = s.outbox := by
  unfold Pipeline.refuse
  split
  · unfold Ingestion.step Ingestion.failCall
    dsimp only
    split
    · rfl
    · rfl
    · rfl
    · rfl
  · rfl

end

/-- The rows of events that have just been written. -/
theorem EventRows.exists_eq {tenantId : String} {events : List OutboxEventInput} {written : List OutboxRow}
    (h : EventRows tenantId events written) {r : OutboxRow} (hr : r ∈ written) :
    ∃ event ∈ events, ∃ id now, r = outboxRow id now tenantId event := by
  unfold EventRows at h
  induction h with
  | nil => cases hr
  | cons hrow _ ih =>
    rcases List.mem_cons.mp hr with rfl | hr
    · exact ⟨_, List.mem_cons_self, hrow⟩
    · obtain ⟨event, hevent, hrow⟩ := ih hr
      exact ⟨event, List.mem_cons_of_mem _ hevent, hrow⟩

/-! ## Insertions

The outbox of the ingestion becomes the table of the relay by insertions, which keep the invariant of the
bridge.
-/

section

variable {κ : Type} [DecidableEq κ] {start : OutboxTable}

/-- The new rows come after the others. -/
theorem rows_insertAll {t t' : OutboxTable} {rows : List OutboxRow} (h : insertAll t rows = some t') :
    t'.rows = t.rows ++ rows := by
  induction rows generalizing t with
  | nil =>
    obtain rfl : t = t' := Option.some.inj h
    rw [List.append_nil]
  | cons r rows ih =>
    unfold insertAll at h
    rw [List.foldlM_cons] at h
    obtain ⟨t₁, hcreate, h⟩ := Option.bind_eq_some_iff.mp h
    rw [ih h, Table.rows_create hcreate, List.append_assoc, List.singleton_append]

/-- Rows that have just been written may be inserted at any time. -/
theorem bridgeInv_insertAll {b : Bridge κ} (hb : BridgeInv start b) {rows : List OutboxRow}
    (hrows : ∀ r ∈ rows, ∃ id now tenantId event, r = outboxRow id now tenantId event) {t : OutboxTable}
    (h : insertAll b.relay.table rows = some t) :
    BridgeInv start { b with relay := b.relay.setTable t } := by
  induction rows generalizing b with
  | nil =>
    obtain rfl : b.relay.table = t := Option.some.inj h
    exact hb
  | cons r rows ih =>
    unfold insertAll at h
    rw [List.foldlM_cons] at h
    obtain ⟨t₁, hcreate, h⟩ := Option.bind_eq_some_iff.mp h
    obtain ⟨id, now, tenantId, event, hr⟩ := hrows r List.mem_cons_self
    have hstep : b.relay.step (.insert id tenantId event.aggregateId event.aggregateType event.eventType
        event.payload now) = b.relay.setTable t₁ := by
      unfold Queue.World.step
      dsimp only
      have hrow : (⟨id, tenantId, event.aggregateId, event.aggregateType, event.eventType, event.payload,
          false, 0, none, now, none⟩ : OutboxRow) = r := hr.symm
      rw [hrow, hcreate, Option.getD_some]
    have hinserted := hb.relayStep (.insert id tenantId event.aggregateId event.aggregateType
      event.eventType event.payload now) fun _ _ h => by cases h
    rw [hstep] at hinserted
    exact ih (b := { b with relay := b.relay.setTable t₁ }) hinserted
      (fun r' hr' => hrows r' (List.mem_cons_of_mem _ hr')) h

end

/-! ## Runs

The ingestion, the relay and the bridge take their steps in any order. An emission is traced back to its
row, and the row to the save of its message.
-/

section

variable {ι κ : Type} [DecidableEq ι] [DecidableEq κ] {messages : IngestedMessageTable}

omit [DecidableEq ι] [DecidableEq κ] in
/-- The ingestion and the bridge keep what each of them keeps, and the rows of the outbox are in the
table, with different ids. -/
structure PipelineInv (messages : IngestedMessageTable) (p : Pipeline ι κ)
    (log : List (Inserted ι)) : Prop where
  ingestion : IngestionInv (Ingestion.init messages []) p.ingestion log
  bridge : BridgeInv .empty p.bridge
  rows : ∀ r ∈ p.ingestion.outbox, CopyOf p.bridge.relay.table r
  ids : (p.ingestion.outbox.map OutboxRow.id).Nodup

omit [DecidableEq ι] [DecidableEq κ] in
/-- Nothing was ingested in the beginning. -/
theorem pipelineInv_init (messages : IngestedMessageTable) :
    PipelineInv messages (Pipeline.init messages : Pipeline ι κ) [] where
  ingestion := ingestionInv_init messages []
  bridge := Queue.bridgeInv_init .empty
  rows r hr := by cases hr
  ids := List.nodup_nil

omit [DecidableEq ι] in
/-- The outbox is what the calls of the log wrote. -/
theorem IngestionInv.outbox_eq {s : Ingestion ι} {log : List (Inserted ι)}
    (hs : IngestionInv (Ingestion.init messages []) s log) : s.outbox = log.flatMap Inserted.written := by
  rw [hs.outbox]
  exact List.nil_append _

omit [DecidableEq ι] in
/-- Every row of the outbox was made from an event of a save. -/
theorem IngestionInv.exists_outboxRow {s : Ingestion ι} {log : List (Inserted ι)}
    (hs : IngestionInv (Ingestion.init messages []) s log) {r : OutboxRow} (hr : r ∈ s.outbox) :
    ∃ id now tenantId event, r = outboxRow id now tenantId event := by
  rw [hs.outbox_eq] at hr
  obtain ⟨x, hx, hr⟩ := List.mem_flatMap.mp hr
  obtain ⟨save, -, -, hwritten⟩ := hs.logged x hx
  obtain ⟨event, -, id, now, hrow⟩ := hwritten.exists_eq hr
  exact ⟨id, now, _, event, hrow⟩

/-- A statement of a call keeps the invariant. -/
theorem PipelineInv.ingest {p : Pipeline ι κ} {log : List (Inserted ι)} (hp : PipelineInv messages p log)
    (event : IngestionEvent ι) : ∃ log', PipelineInv messages (p.ingest event) log' := by
  obtain ⟨new, hnew⟩ := outbox_prefix_step p.ingestion event
  have hdrop : (p.ingestion.step event).outbox.drop p.ingestion.outbox.length = new := by
    rw [← hnew, List.drop_left]
  unfold Pipeline.ingest
  dsimp only
  rw [hdrop]
  split
  · next t ht =>
    obtain ⟨log', hingestion⟩ := hp.ingestion.step event
    have hrows := rows_insertAll ht
    have hsub : ∀ r ∈ new, r ∈ (p.ingestion.step event).outbox := fun r hr =>
      hnew ▸ List.mem_append_right _ hr
    refine ⟨log', hingestion, ?_, fun r hr => ?_, ?_⟩
    · exact bridgeInv_insertAll hp.bridge (fun r hr => hingestion.exists_outboxRow (hsub r hr)) ht
    · show CopyOf t r
      rw [← hnew] at hr
      rcases List.mem_append.mp hr with hr | hr
      · refine (hp.rows r hr).extends fun r' hr' => ⟨r', ?_, .refl r'⟩
        exact hrows ▸ List.mem_append_left _ hr'
      · exact ⟨r, hrows ▸ List.mem_append_right _ hr, .refl r⟩
    · show ((p.ingestion.step event).outbox.map OutboxRow.id).Nodup
      -- the table has the new rows and copies of the old ones, all with different ids
      have hids : (t.rows.map OutboxRow.id).Nodup := t.id_nodup
      rw [hrows, List.map_append, List.nodup_append] at hids
      obtain ⟨-, hnewIds, hdisjoint⟩ := hids
      rw [← hnew, List.map_append, List.nodup_append]
      refine ⟨hp.ids, hnewIds, ?_⟩
      rintro a ha b hb rfl
      obtain ⟨r, hr, rfl⟩ := List.mem_map.mp ha
      obtain ⟨r', hr', hsame⟩ := hp.rows r hr
      exact hdisjoint _ (List.mem_map_of_mem hr') _ hb hsame.id
  · -- nothing was written
    have hrefused : ∃ log', IngestionInv (Ingestion.init messages [])
        (Pipeline.refuse p.ingestion event) log' := by
      unfold Pipeline.refuse
      split
      · exact hp.ingestion.step _
      · exact ⟨log, hp.ingestion⟩
    obtain ⟨log', hingestion⟩ := hrefused
    have houtbox := outbox_refuse p.ingestion event
    exact ⟨log', hingestion, hp.bridge, houtbox ▸ hp.rows, houtbox ▸ hp.ids⟩

/-- Every step keeps the invariant. -/
theorem PipelineInv.step {p : Pipeline ι κ} {log : List (Inserted ι)} (hp : PipelineInv messages p log)
    (givesBack : GivesBack) (event : PipelineEvent ι κ) :
    ∃ log', PipelineInv messages (p.step givesBack event) log' := by
  cases event with
  | ingest event => exact hp.ingest event
  | bridge event =>
    exact ⟨log, hp.ingestion, hp.bridge.step event,
      fun r hr => (hp.rows r hr).extends (Queue.extends_bridgeStep p.bridge event), hp.ids⟩

/-- An event on the bus is of a row that an ingestion wrote. -/
def EmittedFor (e : Queue.Emission) (x : Inserted ι) : Prop := ∃ r ∈ x.written, Queue.EmissionOfRow r e

omit [DecidableEq ι] [DecidableEq κ] in
/-- An event on the bus is of one ingestion. -/
theorem PipelineInv.eq_of_emittedFor {p : Pipeline ι κ} {log : List (Inserted ι)}
    (hp : PipelineInv messages p log) {e : Queue.Emission} {x y : Inserted ι} (hx : x ∈ log) (hy : y ∈ log)
    (hex : EmittedFor e x) (hey : EmittedFor e y) : x = y := by
  obtain ⟨r, hr, her⟩ := hex
  obtain ⟨r', hr', her'⟩ := hey
  have hid : r.id = r'.id := by
    have heq := her.outboxEventId
    rw [her'.outboxEventId] at heq
    exact (Js.Value.str.inj heq).symm
  have hids := hp.ids
  rw [hp.ingestion.outbox_eq] at hids
  have hrr : r = r' := List.inj_on_of_nodup_map hids (List.mem_flatMap_of_mem hx hr)
    (List.mem_flatMap_of_mem hy hr') hid
  by_contra hne
  have : Std.Symm (Function.onFun List.Disjoint (@Inserted.written ι)) := ⟨fun _ _ h _ ha hb => h hb ha⟩
  have hdisjoint := (List.nodup_flatMap.mp hids.of_map).2.forall hx hy hne
  exact hdisjoint hr (hrr ▸ hr')

omit [DecidableEq ι] [DecidableEq κ] in
/-- A message is ingested once. -/
theorem PipelineInv.eq_of_key_eq {p : Pipeline ι κ} {log : List (Inserted ι)}
    (hp : PipelineInv messages p log) {x y : Inserted ι} (hx : x ∈ log) (hy : y ∈ log)
    (h : Schema.key x.row = Schema.key y.row) : x = y := by
  have hkeys := p.ingestion.messages.key_nodup
  rw [hp.ingestion.messages, List.map_append, List.nodup_append, List.map_map] at hkeys
  exact List.inj_on_of_nodup_map hkeys.2.1 hx hy h

/-- After any steps of the calls of `save`, the relay and the bridge, and by any rule of BullMQ for
jobs that are not completed, the ingestions are a log of calls that each inserted a message. Messages
of different ingestions have different keys. What an ingestion wrote to the outbox has the tenant of
its message and is still there; once published, each queue it routes to has it, or it was emitted
there, or BullMQ was done with it when a lock had expired. And an event on the bus is of one ingestion
at most. -/
theorem ingested_events (givesBack : GivesBack) (messages : IngestedMessageTable)
    (events : List (PipelineEvent ι κ)) :
    let p := events.foldl (Pipeline.step givesBack) (Pipeline.init messages)
    ∃ log, ExactlyOnce (Ingestion.init messages []) p.ingestion log ∧
      (∀ x ∈ log, ∀ y ∈ log, Schema.key x.row = Schema.key y.row → x = y) ∧
      (∀ x ∈ log, ∀ r ∈ x.written, r.tenantId = x.row.tenantId ∧
        ∃ r' ∈ p.bridge.relay.table.rows, SameEvent r' r ∧ (r'.published = true →
          ∃ queues, route r.eventType = .targets queues ∧
            ∀ queue ∈ queues, Handled p.bridge queue (jobOf r queue))) ∧
      ∀ e ∈ p.bridge.emitted, ∀ x ∈ log, ∀ y ∈ log, EmittedFor e x → EmittedFor e y → x = y := by
  intro p
  obtain ⟨log, hp⟩ : ∃ log, PipelineInv messages p log :=
    foldl_invariant (I := fun p : Pipeline ι κ => ∃ log, PipelineInv messages p log)
      (fun _ event ⟨_, hp⟩ => hp.step givesBack event) ⟨[], pipelineInv_init messages⟩ events
  refine ⟨log, hp.ingestion.toExactlyOnce, fun x hx y hy => hp.eq_of_key_eq hx hy, fun x hx r hr => ⟨?_, ?_⟩,
    fun e _ x hx y hy => hp.eq_of_emittedFor hx hy⟩
  · obtain ⟨save, -, ⟨id, now, hrow⟩, hwritten⟩ := hp.ingestion.logged x hx
    obtain ⟨event, -, id', now', hr'⟩ := hwritten.exists_eq hr
    rw [hrow, hr']
    rfl
  · have houtbox : r ∈ p.ingestion.outbox :=
      hp.ingestion.outbox_eq ▸ List.mem_flatMap_of_mem hx hr
    obtain ⟨r', hr', hsame⟩ := hp.rows r houtbox
    refine ⟨r', hr', hsame, fun hpublished => ?_⟩
    rcases hp.bridge.relay.rows r' hr' hpublished with ⟨r₀, hr₀, -⟩ | hall
    · cases hr₀
    · obtain ⟨queues, hroute, haccepted⟩ := hall.congr hsame
      exact ⟨queues, hroute, fun queue hqueue => hp.bridge.handled queue _ (haccepted queue hqueue)⟩

end

end EmailTriage.MailboxIngestion
