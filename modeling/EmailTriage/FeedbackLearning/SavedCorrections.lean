import Mathlib.Logic.Function.Basic
import EmailTriage.Lib.Runs
import EmailTriage.FeedbackLearning.CorrectionRecordRepository

/-!
# Sequences of saved corrections

A record has an id, a row has another one, and `save` looks for neither: it updates whatever row it
finds for the tenant and the message. `keepsCorrections_iff` says in which sequences of saves every
record keeps the row it was written to.

Beside the table a sequence keeps a ledger of the row that each record was written to last. A save that
finds a row of another record takes it over, and the other record is stored nowhere then, unless the
row holds already what is saved. `keepsCorrections_step_iff` says this of one save for every answer
that the database may give, and `OverwritesNoOther` is the condition along a sequence.
-/

namespace EmailTriage.FeedbackLearning

open Js Db Runs

/-- A call of `save`, with what the database answers and generates. -/
structure SaveCall where
  record : CorrectionRecord
  tenantId : String
  pick : ℕ
  now : ℤ
  newId : String

/-- The row a record was last written to. -/
structure Written where
  rowId : String
  record : CorrectionRecord

/-- The table, and what was saved under each record id. -/
structure Corrections where
  table : CorrectionRecordTable
  written : String → Option Written

namespace SaveCall

/-- The row the call finds. -/
def existing (c : SaveCall) (t : CorrectionRecordTable) : Option CorrectionRecordRow :=
  t.findFirst c.pick (CorrectionRecordRepository.isRecordOf c.tenantId c.record.messageId)

/-- The row the call writes. -/
def rowId (c : SaveCall) (t : CorrectionRecordTable) : String :=
  ((c.existing t).map (·.id)).getD c.newId

def save (c : SaveCall) (t : CorrectionRecordTable) : Option CorrectionRecordTable :=
  CorrectionRecordRepository.save t c.pick c.now c.newId c.record c.tenantId

/-- The database takes the source, and the id of a new row is new. -/
structure Accepted (c : SaveCall) (t : CorrectionRecordTable) : Prop where
  source : c.record.evidence.source.value = .undefined ∨
    ∃ source, c.record.evidence.source.value = .str source
  newId : c.existing t = none → ∀ r ∈ t.rows, r.id ≠ c.newId

end SaveCall

namespace Corrections

/-- Nothing is saved yet. -/
def start (table : CorrectionRecordTable) : Corrections := ⟨table, fun _ => none⟩

/-- One call. One that fails changes nothing. -/
def step (s : Corrections) (c : SaveCall) : Corrections :=
  match c.save s.table with
  | none => s
  | some table => ⟨table, Function.update s.written c.record.id (some ⟨c.rowId s.table, c.record⟩)⟩

end Corrections

/-- The row has the verdict, the source and the state of a record. -/
structure Holds (row : CorrectionRecordRow) (a : CorrectionRecord) : Prop where
  verdict : row.verdict.value = a.verdictSnapshot.toDb
  source : .str row.source = a.evidence.source.value
  state : row.state = a.state

/-- Every record is in the row it was last written to. -/
def Stored (s : Corrections) : Prop :=
  ∀ id w, s.written id = some w → ∃ row, s.table.find w.rowId = some row ∧ Holds row w.record

/-- No other record was last written to the row, and this one was, or the row has its id. -/
def BelongsTo (s : Corrections) (id : String) (row : CorrectionRecordRow) : Prop :=
  (∀ id' w, s.written id' = some w → w.rowId = row.id → id' = id) ∧
    ((∃ w, s.written id = some w ∧ w.rowId = row.id) ∨ row.id = id)

/-- After a save every record is stored, and the rows of the others are as before. -/
structure KeepsCorrections (s : Corrections) (c : SaveCall) (t : Corrections) : Prop where
  stored : Stored t
  unchanged : ∀ row ∈ s.table.rows, ¬BelongsTo s c.record.id row → row ∈ t.table.rows

/-- A call the database accepts brings a source, and finds no row of another record, unless the row
already holds what is saved. -/
def OverwritesNoOther (s : Corrections) (c : SaveCall) (_ : Corrections) : Prop :=
  c.Accepted s.table →
    c.record.evidence.source.value ≠ .undefined ∧
      ∀ existing, c.existing s.table = some existing → ¬BelongsTo s c.record.id existing →
        Holds existing c.record

/-! ## One save

A save finds its row by tenant and message, without the context, and writes the fields of its correction.
-/

section

variable {c : SaveCall} {t t' : CorrectionRecordTable}

/-- A save updates the row that it finds. -/
theorem SaveCall.rowId_of_existing {existing : CorrectionRecordRow} (h : c.existing t = some existing) :
    c.rowId t = existing.id := by
  unfold SaveCall.rowId
  rw [h]
  rfl

/-- Where it finds none it makes one with a new id. -/
theorem SaveCall.rowId_of_none (h : c.existing t = none) : c.rowId t = c.newId := by
  unfold SaveCall.rowId
  rw [h]
  rfl

/-- A column takes a text, and keeps what it has where there is nothing to take. -/
theorem sourceColumn_eq_some_iff {stored source : String} {v : Value} :
    CorrectionRecordRepository.sourceColumn stored v = some source ↔
      v = .undefined ∧ source = stored ∨ v = .str source := by
  unfold CorrectionRecordRepository.sourceColumn
  cases v <;> simp [eq_comm]

/-- Patching a row with what it holds changes nothing. -/
theorem updateData_of_holds {row : CorrectionRecordRow} {a : CorrectionRecord} (h : Holds row a) :
    (CorrectionRecordRepository.updateData a row.source).apply row = row := by
  obtain ⟨id, tenant_id, message_id, ⟨value, written⟩, source, state, created_at⟩ := row
  obtain ⟨rfl, -, rfl⟩ := h
  rfl

/-- A call that is accepted writes one row: a row it found keeps what the call brings anyway, and a row
after a call with a source holds the record. -/
theorem find_save (h : c.Accepted t) : ∃ t' row, c.save t = some t' ∧
    (∀ k, t'.find k = if k = c.rowId t then some row else t.find k) ∧
    (Holds row c.record ↔ c.record.evidence.source.value ≠ .undefined) ∧
    ∀ existing, c.existing t = some existing → Holds existing c.record → row = existing := by
  obtain ⟨hsource, hnew⟩ := h
  -- the source that ends up in the row, whatever default there is
  have hcolumn : ∀ stored, ∃ source,
      CorrectionRecordRepository.sourceColumn stored c.record.evidence.source.value = some source ∧
        (.str source = c.record.evidence.source.value ↔
          c.record.evidence.source.value ≠ .undefined) := by
    intro stored
    rcases hsource with hsource | ⟨source, hsource⟩
    · exact ⟨stored, sourceColumn_eq_some_iff.mpr (.inl ⟨hsource, rfl⟩), by simp [hsource]⟩
    · exact ⟨source, sourceColumn_eq_some_iff.mpr (.inr hsource), by simp [hsource]⟩
  unfold SaveCall.save CorrectionRecordRepository.save SaveCall.rowId
  rcases hexisting : c.existing t with _ | existing
  · obtain ⟨source, hcol, hheld⟩ := hcolumn "explicit_user_action"
    unfold SaveCall.existing at hexisting
    rw [hexisting]
    simp only [CorrectionRecord.toDb, hcol, Option.bind_eq_bind, Option.bind_some]
    have hfresh := hnew hexisting
    obtain ⟨t', ht'⟩ := Table.exists_create
      (r := { id := c.newId, tenant_id := c.tenantId, message_id := c.record.messageId
              verdict := ⟨c.record.verdictSnapshot.toDb, .inl ⟨c.record.verdictSnapshot, rfl⟩⟩
              source, state := c.record.state, created_at := c.now : CorrectionRecordRow })
      hfresh (Table.find_eq_none_iff.mpr hfresh)
    exact ⟨t', _, ht', Table.find_create ht', ⟨fun hrow => hheld.mp hrow.source,
      fun hne => ⟨rfl, hheld.mpr hne, rfl⟩⟩, fun _ h => by cases h⟩
  · obtain ⟨source, hcol, hheld⟩ := hcolumn existing.source
    have hmem := (Table.of_findFirst_eq_some hexisting).1
    unfold SaveCall.existing at hexisting
    rw [hexisting]
    simp only [CorrectionRecord.toDb, hcol, Option.bind_eq_bind, Option.bind_some]
    obtain ⟨t', ht', hfind⟩ := Table.find_update hmem
      (CorrectionRecordRepository.updateData c.record source)
    refine ⟨t', _, ht', hfind, ⟨fun hrow => hheld.mp hrow.source,
      fun hne => ⟨rfl, hheld.mpr hne, rfl⟩⟩, ?_⟩
    rintro _ ⟨⟩ hholds
    obtain rfl : source = existing.source := by
      have hne : c.record.evidence.source.value ≠ .undefined := by
        rw [← hholds.source]
        intro h
        cases h
      exact Value.str.inj ((hheld.mpr hne).trans hholds.source.symm)
    exact updateData_of_holds hholds

/-- Only a call that is accepted goes through. -/
theorem accepted_of_save (h : c.save t = some t') : c.Accepted t := by
  unfold SaveCall.save CorrectionRecordRepository.save at h
  have hcolumn : ∀ {stored source},
      CorrectionRecordRepository.sourceColumn stored c.record.evidence.source.value = some source →
        c.record.evidence.source.value = .undefined ∨
          ∃ source, c.record.evidence.source.value = .str source := by
    intro stored source hcol
    rcases sourceColumn_eq_some_iff.mp hcol with ⟨hvalue, -⟩ | hvalue
    · exact .inl hvalue
    · exact .inr ⟨source, hvalue⟩
  split at h
  · next existing hexisting =>
    obtain ⟨source, hcol, -⟩ := Option.bind_eq_some_iff.mp h
    exact ⟨hcolumn hcol, fun hnone => by
      unfold SaveCall.existing at hnone
      rw [hexisting] at hnone
      cases hnone⟩
  · obtain ⟨source, hcol, hcreate⟩ := Option.bind_eq_some_iff.mp h
    exact ⟨hcolumn hcol, fun _ => (Table.isSome_create_iff.mp (Option.isSome_of_eq_some hcreate)).1⟩

end

/-! ## Sequences

The corrections that were accepted, by row. A save keeps those of others exactly if it overwrites none.
-/

/-- Where the call fails, nothing changes. -/
theorem Corrections.step_of_not_accepted {s : Corrections} {c : SaveCall} (h : ¬c.Accepted s.table) :
    s.step c = s := by
  unfold step
  rcases hsave : c.save s.table with _ | t
  · rfl
  · exact absurd (accepted_of_save hsave) h

/-- What a call that is accepted makes of the table and of the ledger. -/
theorem Corrections.step_of_accepted {s : Corrections} {c : SaveCall} (h : c.Accepted s.table) :
    ∃ t' row, s.step c =
        ⟨t', Function.update s.written c.record.id (some ⟨c.rowId s.table, c.record⟩)⟩ ∧
      (∀ k, t'.find k = if k = c.rowId s.table then some row else s.table.find k) ∧
      (Holds row c.record ↔ c.record.evidence.source.value ≠ .undefined) ∧
      ∀ existing, c.existing s.table = some existing → Holds existing c.record → row = existing := by
  obtain ⟨t', row, hsave, hspec⟩ := find_save h
  refine ⟨t', row, ?_, hspec⟩
  unfold step
  rw [hsave]

/-- A save that keeps the corrections brings a source, and overwrites no row of another record. -/
theorem overwritesNoOther_of_keepsCorrections {s : Corrections} {c : SaveCall}
    (h : KeepsCorrections s c (s.step c)) : OverwritesNoOther s c (s.step c) := by
  intro haccepted
  obtain ⟨t', row, hstep, hfind, hholds, -⟩ := Corrections.step_of_accepted haccepted
  rw [hstep] at h
  obtain ⟨own, hown, hheld⟩ := h.stored c.record.id _ (Function.update_self ..)
  obtain rfl : row = own := by simpa [hfind] using hown
  refine ⟨hholds.mp hheld, fun existing hexisting hother => ?_⟩
  have hkept : existing ∈ t'.rows :=
    h.unchanged existing (Table.of_findFirst_eq_some hexisting).1 hother
  have hstill : t'.find existing.id = some existing := Table.find_key hkept
  rw [hfind, SaveCall.rowId_of_existing hexisting, if_pos rfl, Option.some.injEq] at hstill
  rw [← hstill]
  exact hheld

/-- A row that does not belong to the record is written only if it was found, and then it keeps what it
holds. -/
theorem find_other {s : Corrections} {c : SaveCall} (haccepted : c.Accepted s.table)
    {row other : CorrectionRecordRow}
    (hsame : ∀ existing, c.existing s.table = some existing → Holds existing c.record → row = existing)
    (hothers : ∀ existing, c.existing s.table = some existing → ¬BelongsTo s c.record.id existing →
      Holds existing c.record)
    (hmem : other ∈ s.table.rows) (hother : ¬BelongsTo s c.record.id other)
    (hrow : other.id = c.rowId s.table) : row = other := by
  rcases hexisting : c.existing s.table with _ | existing
  · -- the new row would have the id of one that is there
    have hnew := SaveCall.rowId_of_none hexisting
    exact absurd (hrow.trans hnew) (haccepted.newId hexisting other hmem)
  · obtain rfl : other = existing := Table.eq_of_id_eq hmem (Table.of_findFirst_eq_some hexisting).1
      (hrow.trans (SaveCall.rowId_of_existing hexisting))
    exact hsame other hexisting (hothers other hexisting hother)

/-- A save that overwrites no row of another record keeps the corrections. -/
theorem keepsCorrections_of_overwritesNoOther {s : Corrections} (hs : Stored s) {c : SaveCall}
    (haccepted : c.Accepted s.table) (h : OverwritesNoOther s c (s.step c)) :
    KeepsCorrections s c (s.step c) := by
  obtain ⟨t', row, hstep, hfind, hholds, hsame⟩ := Corrections.step_of_accepted haccepted
  obtain ⟨hsource, hothers⟩ := h haccepted
  rw [hstep]
  have hunchanged : ∀ other ∈ s.table.rows, ¬BelongsTo s c.record.id other →
      t'.find other.id = some other := by
    intro other hmem hother
    rw [hfind]
    by_cases hrow : other.id = c.rowId s.table
    · rw [if_pos hrow, find_other haccepted hsame hothers hmem hother hrow]
    · rw [if_neg hrow]
      exact Table.find_key hmem
  refine ⟨fun id w hw => ?_, fun other hmem hother =>
    (Table.find_eq_some_iff.mp (hunchanged other hmem hother)).1⟩
  dsimp only at hw ⊢
  by_cases hid : id = c.record.id
  · subst hid
    rw [Function.update_self, Option.some.injEq] at hw
    subst hw
    exact ⟨row, by rw [hfind, if_pos rfl], hholds.mpr hsource⟩
  · rw [Function.update_of_ne hid] at hw
    obtain ⟨other, hother, hheld⟩ := hs id w hw
    obtain ⟨hmem, hkey⟩ := Table.find_eq_some_iff.mp hother
    refine ⟨other, ?_, hheld⟩
    rw [← hkey]
    exact hunchanged other hmem fun hbelongs => hid (hbelongs.1 id w hw hkey.symm)

/-- One save keeps the corrections exactly if it overwrites no other one. -/
theorem keepsCorrections_step_iff {s : Corrections} (hs : Stored s) (c : SaveCall) :
    KeepsCorrections s c (s.step c) ↔ OverwritesNoOther s c (s.step c) := by
  by_cases haccepted : c.Accepted s.table
  · exact ⟨overwritesNoOther_of_keepsCorrections, keepsCorrections_of_overwritesNoOther hs haccepted⟩
  · rw [Corrections.step_of_not_accepted haccepted]
    exact iff_of_true ⟨hs, fun _ hmem _ => hmem⟩ fun h => absurd h haccepted

/-- In every sequence of saves, every save keeps the corrections exactly if none overwrites another
one. -/
theorem keepsCorrections_iff (table : CorrectionRecordTable) (calls : List SaveCall) :
    Along KeepsCorrections (Corrections.start table) (exec Corrections.step (.start table) calls) ↔
      Along OverwritesNoOther (Corrections.start table)
        (exec Corrections.step (.start table) calls) := by
  refine along_iff (I := Stored) ?_ ?_ (along_exec Corrections.step _ calls) (fun _ _ h => by cases h)
  · rintro s c t hs rfl
    exact keepsCorrections_step_iff hs c
  · rintro s c t hs rfl hoverwrites
    exact ((keepsCorrections_step_iff hs c).mpr hoverwrites).stored

/-! ## Two contexts

Two contexts correct the same message.
-/

/-- A correction of a message. -/
def correctionOf (id : String) (context : Verdict) (original corrected : String) : SaveCall where
  record := ⟨id, "tenant", "message",
    ⟨.of context, .of "message", .str original, .str corrected, ⟨.date (some 0)⟩⟩,
    ⟨.of .explicit_user_action, ⟨.date (some 0)⟩, 0⟩, .confirmed⟩
  tenantId := "tenant"
  pick := 0
  now := 0
  newId := id

/-- Two corrections of one message. -/
def twoContexts : List SaveCall :=
  [correctionOf "record-1" .classification "SPAM" "WORK",
    correctionOf "record-2" .threat "Clean" "HighRisk"]

/-- The second takes the row of the first. -/
theorem not_keepsCorrections_twoContexts :
    ¬Along KeepsCorrections (Corrections.start .empty)
      (exec Corrections.step (.start .empty) twoContexts) := by
  rintro ⟨-, hsecond, -⟩
  -- the first record was last written to a row that says `threat` now
  obtain ⟨row, hrow, hholds⟩ := hsecond.stored "record-1" ⟨"record-1", (correctionOf "record-1"
    .classification "SPAM" "WORK").record⟩ rfl
  have hcontext : some (Value.str "threat") = some (row.verdict.value.get "originatingContext") :=
    congrArg (Option.map fun row : CorrectionRecordRow => row.verdict.value.get "originatingContext") hrow
  rw [hholds.verdict] at hcontext
  exact absurd (Value.str.inj (Option.some.inj hcontext)) (by decide)

end EmailTriage.FeedbackLearning
