import EmailTriage.Lib.Keyed
import EmailTriage.Lib.Runs
import EmailTriage.MailboxWriteback.MessageWriteBackService

/-!
# Write-back calls that overlap

Calls on different facets of one message, with their database and adapter calls interleaved in any
order. Run without interruption, a call does what the service does (`store_serial`). When calls
overlap, each of them writes back all the facets it loaded, over what the others have stored since:
`facetsKept_of_current` says that nothing is lost as long as no call has loaded an outdated record.

`Knows` says what is known of a call at each point: the state it holds is one of the message, from the
answer of the adapter on it has a record of the call's own facet, and once the call is done that record
is stored. A write stores all facets of its copy, so a call that is done stays so exactly as long as
the others are `Current` when they write.
-/

namespace EmailTriage.MailboxWriteback.Concurrent

open Js Db Runs MessageWriteBackStateRepository

/-- How far a call has come, with what it holds in memory. -/
inductive JobState where
  | start
  | creating (aggregate : MessageWriteBackState)
  | creatingFound (aggregate : MessageWriteBackState) (existing : Option ℕ)
  | loaded (aggregate : MessageWriteBackState)
  | answered (aggregate : MessageWriteBackState) (result : ApplyFacetResult)
  | applied (aggregate : MessageWriteBackState)
  | found (aggregate : MessageWriteBackState) (existing : Option ℕ)
  | done (aggregate : MessageWriteBackState)
  | failed

/-- The database and the calls, each under its facet. -/
structure World where
  store : MessageWriteBackStateTable
  jobs : FacetType → JobState

namespace World

def init (store : MessageWriteBackStateTable) : World := ⟨store, fun _ => .start⟩

/-- The world after a call has moved on. -/
def move (s : World) (facetType : FacetType) (j : JobState) : World :=
  { s with jobs := Function.update s.jobs facetType j }

/-- The world after a call has written. -/
def commit (s : World) (facetType : FacetType) (t : MessageWriteBackStateTable) (j : JobState) :
    World :=
  { s.move facetType j with store := t }

end World

section

variable (column : Jsonb) (m : MessageRef) (calls : Keyed Call.facetType)

/-- One step of the call on a facet. -/
def step (s : World) (facetType : FacetType) : World :=
  match calls.find facetType with
  | none => s
  | some c =>
    match s.jobs facetType with
    | .start =>
      match findByMessageId s.store m.tenantId m.mailboxId m.messageId with
      | some a => s.move facetType (.loaded a)
      | none => s.move facetType (.creating (.create m.tenantId m.mailboxId m.messageId))
    -- `findOrCreateByMessageId` saves the new aggregate, in two calls of its own
    | .creating a => s.move facetType (.creatingFound a (findExisting s.store m.tenantId a))
    | .creatingFound a existing =>
      match write column s.store m.tenantId a existing with
      | some t => s.commit facetType t (.loaded a)
      | none => s.move facetType .failed
    | .loaded a =>
      match c.adapter with
      | .ok result => s.move facetType (.answered a result)
      | .error _ => s.move facetType .failed
    | .answered a result => s.move facetType (.applied (c.record result a))
    | .applied a => s.move facetType (.found a (findExisting s.store m.tenantId a))
    | .found a existing =>
      match write column s.store m.tenantId a existing with
      | some t => s.commit facetType t (.done a)
      | none => s.move facetType .failed
    | .done _ => s
    | .failed => s

/-- A call that is never interrupted does what the service does. -/
theorem store_serial {s : World} {c : Call} (hcall : calls.find c.facetType = some c)
    (hstart : s.jobs c.facetType = .start) :
    ((fun s => step column m calls s c.facetType)^[7] s).store
      = MessageWriteBackService.step column m s.store c := by
  unfold MessageWriteBackService.step MessageWriteBackService.applyFacet findOrCreateByMessageId save
  simp only [Function.iterate_succ, Function.iterate_zero, Function.comp_apply, id_eq]
  rcases hfind : findByMessageId s.store m.tenantId m.mailboxId m.messageId with _ | a
  · rcases hcreate : write column s.store m.tenantId
        (.create m.tenantId m.mailboxId m.messageId)
        (findExisting s.store m.tenantId (.create m.tenantId m.mailboxId m.messageId)) with _ | t
    · simp [step, hcall, hstart, hfind, hcreate, World.move]
    · rcases hadapter : c.adapter with e | result
      · simp [step, hcall, hstart, hfind, hcreate, hadapter, World.move, World.commit]
      · rcases hsave : write column t m.tenantId
            (c.record result (.create m.tenantId m.mailboxId m.messageId))
            (findExisting t m.tenantId
              (c.record result (.create m.tenantId m.mailboxId m.messageId))) with _ | t' <;>
          simp [step, hcall, hstart, hfind, hcreate, hadapter, hsave, World.move, World.commit]
  · rcases hadapter : c.adapter with e | result
    · simp [step, hcall, hstart, hfind, hadapter, World.move]
    · rcases hsave : write column s.store m.tenantId (c.record result a)
          (findExisting s.store m.tenantId (c.record result a)) with _ | t' <;>
        simp [step, hcall, hstart, hfind, hadapter, hsave, World.move, World.commit]

/-- Once every call is done, the record that each of them produced is stored. -/
def FacetsKept (s : World) : Prop :=
  (∀ c ∈ calls.items, ∃ a, s.jobs c.facetType = .done a) →
    ∀ c ∈ calls.items, ∀ a, s.jobs c.facetType = .done a →
      ∃ r, a.facets c.facetType = some r ∧ stored s.store m c.facetType = some (r.stored column)

/-- A call that is about to write holds the stored records of all other facets. -/
def Current (s : World) (facetType : FacetType) (_ : World) : Prop :=
  match s.jobs facetType with
  | .creatingFound a _ | .found a _ =>
    ∀ facetType', facetType' ≠ facetType → stored s.store m facetType' = a.facets facetType'
  | _ => True

/-! ## What a call holds

A call holds a copy of the record with its own facet changed, and the id of the row it has found.
-/

/-- The aggregate of the message. -/
def OfMessage (a : MessageWriteBackState) : Prop :=
  a.mailboxId = m.mailboxId ∧ a.messageId = m.messageId

/-- A row that was found stays there. -/
def Found (t : MessageWriteBackStateTable) (existing : Option ℕ) : Prop :=
  ∀ id, existing = some id →
    ∃ r, t.find (m.tenantId, m.mailboxId, m.messageId) = some r ∧ r.id = id

/-- What is known of a call at each point. -/
def Knows (t : MessageWriteBackStateTable) (facetType : FacetType) : JobState → Prop
  | .start => True
  | .creating a => OfMessage m a
  | .creatingFound a existing => OfMessage m a ∧ Found m t existing
  | .loaded a => OfMessage m a
  | .answered a _ => OfMessage m a
  | .applied a => OfMessage m a ∧ ∃ r, a.facets facetType = some r
  | .found a existing => OfMessage m a ∧ (∃ r, a.facets facetType = some r) ∧ Found m t existing
  | .done a => ∃ r, a.facets facetType = some r ∧ stored t m facetType = some (r.stored column)
  | .failed => True

/-- Every call knows what it should. -/
def Inv (s : World) : Prop := ∀ facetType, Knows column m s.store facetType (s.jobs facetType)

variable {column m calls}

/-- A write keeps the row of the message, and stores the facets of the aggregate in it. -/
theorem write_spec {t t' : MessageWriteBackStateTable} {a : MessageWriteBackState}
    {existing : Option ℕ} (ha : OfMessage m a) (hexisting : Found m t existing)
    (ht' : write column t m.tenantId a existing = some t') :
    stored t' m = a.facets.stored column ∧ ∀ existing', Found m t existing' → Found m t' existing' := by
  obtain ⟨hmailbox, hmessage⟩ := ha
  have hkey : (m.tenantId, m.mailboxId, m.messageId) = (m.tenantId, a.mailboxId, a.messageId) := by
    rw [hmailbox, hmessage]
  unfold Found at hexisting ⊢
  rw [hkey] at hexisting ⊢
  obtain ⟨r', hr', hfacets⟩ := find_write hexisting ht'
  refine ⟨?_, fun existing' hfound => ?_⟩
  · funext facetType
    unfold stored facetAt
    rw [hkey, hr', Option.bind_some, hfacets]
  · rw [write_eq] at ht'
    exact Table.Found.write hfound rfl hexisting ht'

/-- A call still knows what it did after another one has written what it held of its facet. -/
theorem Knows.write {t t' : MessageWriteBackStateTable} {a : MessageWriteBackState}
    {facetType : FacetType} {j : JobState} (hj : Knows column m t facetType j)
    (hstored : stored t' m = a.facets.stored column)
    (hfound : ∀ existing, Found m t existing → Found m t' existing)
    (hcurrent : stored t m facetType = a.facets facetType) : Knows column m t' facetType j := by
  cases j with
  | creatingFound b existing => exact ⟨hj.1, hfound existing hj.2⟩
  | found b existing => exact ⟨hj.1, hj.2.1, hfound existing hj.2.2⟩
  | done b =>
    obtain ⟨r, hr, hstoredr⟩ := hj
    refine ⟨r, hr, ?_⟩
    have h : stored t' m facetType = (a.facets facetType).map (·.stored column) := by
      rw [hstored]
      rfl
    rw [h, ← hcurrent, hstoredr, Option.map_some, FacetApplication.stored_stored]
  | _ => exact hj

/-! ## Steps

A save writes all facets of its copy. It keeps those of other calls if the copy has them as they are
stored.
-/

/-- No call has begun in the beginning. -/
theorem inv_init (store : MessageWriteBackStateTable) : Inv column m (World.init store) :=
  fun _ => trivial

/-- A call that moves on without writing keeps the invariant if it knows what it should. -/
theorem Inv.move {s : World} (hs : Inv column m s) {facetType : FacetType} {j : JobState}
    (hj : Knows column m s.store facetType j) : Inv column m (s.move facetType j) := by
  unfold Inv World.move
  rw [Function.forall_update_iff s.jobs fun facetType' j => Knows column m s.store facetType' j]
  exact ⟨hj, fun facetType' _ => hs facetType'⟩

/-- A call that writes what is current keeps the invariant. -/
theorem Inv.commit {s : World} (hs : Inv column m s) {facetType : FacetType}
    {a : MessageWriteBackState} {existing : Option ℕ} {t' : MessageWriteBackStateTable}
    {j : JobState} (ha : OfMessage m a) (hexisting : Found m s.store existing)
    (hcurrent : ∀ facetType', facetType' ≠ facetType →
      stored s.store m facetType' = a.facets facetType')
    (ht' : MessageWriteBackStateRepository.write column s.store m.tenantId a existing = some t')
    (hj : stored t' m = a.facets.stored column → Knows column m t' facetType j) :
    Inv column m (s.commit facetType t' j) := by
  obtain ⟨hstored, hfound⟩ := write_spec ha hexisting ht'
  unfold Inv World.commit World.move
  rw [Function.forall_update_iff s.jobs fun facetType' j => Knows column m t' facetType' j]
  exact ⟨hj hstored, fun facetType' hfacet =>
    (hs facetType').write hstored hfound (hcurrent facetType' hfacet)⟩

/-- The row `save` finds is the row of the message. -/
theorem found_of_message {t : MessageWriteBackStateTable} {a : MessageWriteBackState}
    (ha : OfMessage m a) : Found m t (findExisting t m.tenantId a) := by
  have hfound := found_findExisting t m.tenantId a
  rw [ha.1, ha.2] at hfound
  exact hfound

/-- A step that writes nothing outdated preserves the invariant. -/
theorem Inv.step {s : World} (hs : Inv column m s) (facetType : FacetType)
    (hcurrent : Current m s facetType (step column m calls s facetType)) :
    Inv column m (step column m calls s facetType) := by
  have hknows := hs facetType
  unfold Current at hcurrent
  unfold Concurrent.step
  rcases hcall : calls.find facetType with _ | c
  · exact hs
  · have hfacet : c.facetType = facetType := Keyed.key_of_find hcall
    cases hjob : s.jobs facetType with
    | start =>
      simp only
      rcases hload : findByMessageId s.store m.tenantId m.mailboxId m.messageId with _ | a
      · exact hs.move ⟨rfl, rfl⟩
      · -- what is loaded is the state of the message that was asked for
        obtain ⟨r, hr, ha⟩ := Option.map_eq_some_iff.mp hload
        have hkey := (Table.find_eq_some_iff.mp hr).2
        simp only [Schema.key, Prod.mk.injEq] at hkey
        rw [← ha]
        exact hs.move ⟨hkey.2.1, hkey.2.2⟩
    | creating a =>
      rw [hjob] at hknows
      exact hs.move ⟨hknows, found_of_message hknows⟩
    | creatingFound a existing =>
      rw [hjob] at hknows hcurrent
      simp only
      rcases hwrite : MessageWriteBackStateRepository.write column s.store m.tenantId a existing
        with _ | t'
      · exact hs.move trivial
      · exact hs.commit hknows.1 hknows.2 hcurrent hwrite fun _ => hknows.1
    | loaded a =>
      rw [hjob] at hknows
      simp only
      rcases c.adapter with e | result
      · exact hs.move trivial
      · exact hs.move hknows
    | answered a result =>
      rw [hjob] at hknows
      -- the other facets of the copy are what they were; its own facet has a record from here on
      have hrecord : (c.record result a).facets facetType
          = some (c.recordOf result (a.facets facetType)) := by
        rw [c.facets_record result a, hfacet, Function.update_self]
      obtain ⟨hmailbox, hmessage⟩ := c.key_record result a
      exact hs.move ⟨⟨hmailbox.trans hknows.1, hmessage.trans hknows.2⟩, _, hrecord⟩
    | applied a =>
      rw [hjob] at hknows
      exact hs.move ⟨hknows.1, hknows.2, found_of_message hknows.1⟩
    | found a existing =>
      rw [hjob] at hknows hcurrent
      obtain ⟨ha, ⟨r, hr⟩, hexisting⟩ := hknows
      simp only
      rcases hwrite : MessageWriteBackStateRepository.write column s.store m.tenantId a existing
        with _ | t'
      · exact hs.move trivial
      · refine hs.commit ha hexisting hcurrent hwrite fun hstored => ?_
        -- the row that the update was to find is there, since no row is ever deleted
        refine ⟨r, hr, ?_⟩
        rw [hstored]
        unfold Facets.stored
        rw [hr, Option.map_some]
    | done a => exact hs
    | failed => exact hs

/-- The invariant says that the records of the calls that are done are stored. -/
theorem Inv.facetsKept {s : World} (hs : Inv column m s) : FacetsKept column m calls s := by
  intro _ c _ a hdone
  have hknows := hs c.facetType
  rw [hdone] at hknows
  exact hknows

/-- If no call ever writes an outdated record of another facet, then no facet is lost, whatever the
order of the steps. -/
theorem facetsKept_of_current (column : Jsonb) (m : MessageRef) (calls : Keyed Call.facetType)
    (store : MessageWriteBackStateTable) (schedule : List FacetType)
    (h : Along (Current m) (World.init store)
      (exec (step column m calls) (World.init store) schedule)) :
    Along (fun _ _ s => FacetsKept column m calls s) (World.init store)
      (exec (step column m calls) (World.init store) schedule) := by
  have hstep : ∀ s facetType s', Inv column m s → s' = step column m calls s facetType →
      Current m s facetType s' → FacetsKept column m calls s' ∧ Inv column m s' := by
    rintro s facetType s' hs rfl hcurrent
    have hs' := hs.step facetType hcurrent
    exact ⟨hs'.facetsKept, hs'⟩
  exact (Along.guarded hstep (along_exec _ _ schedule) h (inv_init store)).1

end

/-! ## A lost facet

Two calls on different facets, first in turn and then overlapping.
-/

/-- A threat call and a category call, both successful. -/
def twoCalls : Keyed Call.facetType where
  items := [⟨.threat, .obj [("quarantined", .bool true)], .gmail, .ok ⟨true, none⟩, 0⟩,
    ⟨.category, .str "Sales", .gmail, .ok ⟨true, none⟩, 0⟩]
  nodup := by decide

/-- The message of the two calls. -/
def twoCallsMessage : MessageRef := ⟨"tenant", "mailbox", "message"⟩

/-- The category call is done before the threat call starts. -/
def serialSchedule : List FacetType :=
  List.replicate 7 .category ++ List.replicate 5 .threat

/-- Calls that do not overlap lose nothing. -/
theorem facetsKept_serialSchedule :
    Along (fun _ _ s => FacetsKept .exact twoCallsMessage twoCalls s) (World.init Table.empty)
      (exec (step .exact twoCallsMessage twoCalls) (World.init Table.empty) serialSchedule) := by
  refine facetsKept_of_current .exact twoCallsMessage twoCalls Table.empty serialSchedule ?_
  have hother : ∀ {P : FacetType → Prop}, P .threat → P .contact → P .priority →
      ∀ facetType, facetType ≠ .category → P facetType := by
    intro P hthreat hcontact hpriority facetType hne
    cases facetType with
    | category => exact absurd rfl hne
    | threat => exact hthreat
    | contact => exact hcontact
    | priority => exact hpriority
  refine ⟨trivial, trivial, hother rfl rfl rfl, trivial, trivial, trivial, hother rfl rfl rfl,
    trivial, trivial, trivial, trivial, ?_, trivial⟩
  intro facetType hne
  cases facetType with
  | threat => exact absurd rfl hne
  | _ => rfl

/-- The category call loads the message, and goes on once the threat call is done. -/
def overlappingSchedule : List FacetType :=
  List.replicate 4 .category ++ List.replicate 5 .threat ++ List.replicate 4 .category

/-- The threat record is overwritten by the category call. -/
theorem not_facetsKept_overlappingSchedule :
    ¬Along (fun _ _ s => FacetsKept .exact twoCallsMessage twoCalls s) (World.init Table.empty)
      (exec (step .exact twoCallsMessage twoCalls) (World.init Table.empty) overlappingSchedule) := by
  rintro ⟨-, -, -, -, -, -, -, -, -, -, -, -, hlast, -⟩
  have hkept := hlast (by
    intro c hc
    simp only [twoCalls, List.mem_cons, List.not_mem_nil, or_false] at hc
    rcases hc with rfl | rfl <;> exact ⟨_, rfl⟩)
  obtain ⟨r, -, hr⟩ := hkept _ List.mem_cons_self _ rfl
  cases hr

end EmailTriage.MailboxWriteback.Concurrent
