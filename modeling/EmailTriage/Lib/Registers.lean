import Mathlib.Logic.Function.Basic
import EmailTriage.Lib.Runs
import EmailTriage.Lib.Table

/-!
# Repositories that look up and then write

A `Repository` keeps one value for each unique key of a table. It saves a value in two calls, one that
looks for the row and one that updates it or creates it, reads it in one, and `findOrCreate` is a read
and, when there is no row, the save of a new value. Any number of clients make such requests, their
calls interleaved in any order, and any call may fail.

Beside the table runs the history of what the clients saw and wrote, the newest entry first.
`isRegister_run` says that such a repository is a register: every answer is what was last written. The
new value of `findOrCreate` comes over another one only if that was first written after the request had
looked, and a row is refused only then.
-/

namespace Db

open Runs

/-- How values of type `V` are kept in rows and answered as `A`. -/
structure Repository (Row : Type) {Id Key : Type} [Schema Row Id Key] (V A : Type) where
  key : V → Key
  patch : ℤ → V → Patch Row
  row : ℤ → Table Row → V → Row
  key_row : ∀ now t v, Schema.key (row now t v) = key v
  id_row : ∀ now (t : Table Row) v, ∀ r ∈ t.rows, Schema.id r ≠ Schema.id (row now t v)
  load : Row → A
  /-- The value `findOrCreate` makes for a key, and its answer then. -/
  fresh : Key → V
  key_fresh : ∀ k, key (fresh k) = k
  created : Key → A
  /-- What is read shows a value that was written. -/
  Shows : A → V → Prop
  shows_patch : ∀ now v r, Schema.key r = key v → Shows (load ((patch now v).apply r)) v
  shows_row : ∀ now t v, Shows (load (row now t v)) v
  shows_created : ∀ k, Shows (created k) (fresh k)

namespace Repository

variable {Row Id Key : Type} [Schema Row Id Key] {V A ι : Type} (R : Repository Row V A)

/-! ## Histories

What the clients have written and answered, latest first. A history is in order when every answer is
what was last written before it; a row that `findOrCreate` makes, or that is refused, was looked for
while nothing had been written.
-/

/-- An entry of the history. -/
inductive Entry (ι Key V A : Type) where
  | answered (client : ι) (k : Key) (answer : Option A)
  | wrote (client : ι) (v : V)
  | created (client : ι) (k : Key)
  /-- `findOrCreate` has found nothing, or a save has. -/
  | missed (client : ι) (k : Key)
  | looked (client : ι) (k : Key)
  /-- The unique key has refused a row. -/
  | refused (client : ι) (k : Key)

/-- What an entry writes. -/
def written : Entry ι Key V A → Option V
  | .wrote _ v => some v
  | .created _ k => some (R.fresh k)
  | _ => none

/-- An answer is what was last written, if anything was. -/
def Answers (answer : Option A) : Option V → Prop
  | none => answer = none
  | some v => ∃ a, answer = some a ∧ R.Shows a v

section

variable [DecidableEq Key]

/-- The value a history has last written at a key. -/
def lastWrite (k : Key) (history : List (Entry ι Key V A)) : Option V :=
  (history.filterMap R.written).find? fun v => R.key v = k

/-- An entry was made when nothing had been written at a key. -/
def MadeBefore (e : Entry ι Key V A) (k : Key) (history : List (Entry ι Key V A)) : Prop :=
  ∃ past, e :: past <:+ history ∧ R.lastWrite k past = none

/-- What is known of an entry from the history before it: an answer is what was last written; the new
value of `findOrCreate`, and a row that was refused, were looked for when nothing had been written. -/
def EntryOk (past : List (Entry ι Key V A)) : Entry ι Key V A → Prop
  | .answered _ k answer => R.Answers answer (R.lastWrite k past)
  | .created i k => R.MadeBefore (.missed i k) k past
  | .refused i k => R.MadeBefore (.looked i k) k past ∧ R.lastWrite k past ≠ none
  | _ => True

/-- Every entry is right by the history before it. -/
def HistoryOk (history : List (Entry ι Key V A)) : Prop :=
  ∀ e past, e :: past <:+ history → R.EntryOk past e

variable {R} {history history' : List (Entry ι Key V A)}

/-- An answer that was made before is made before everything that comes later. -/
theorem MadeBefore.mono {e : Entry ι Key V A} {k : Key} (h : R.MadeBefore e k history)
    (hsuffix : history <:+ history') : R.MadeBefore e k history' := by
  obtain ⟨past, hpast, hnone⟩ := h
  exact ⟨past, hpast.trans hsuffix, hnone⟩

/-- Entries that write nothing leave what was last written. -/
theorem lastWrite_append_of_nil {entries : List (Entry ι Key V A)} (h : entries.filterMap R.written = [])
    (k : Key) (history : List (Entry ι Key V A)) :
    R.lastWrite k (entries ++ history) = R.lastWrite k history := by
  unfold lastWrite
  rw [List.filterMap_append, h, List.nil_append]

/-- Among new entries with one write, that write is the last one of its key. -/
theorem lastWrite_append_of_singleton {entries : List (Entry ι Key V A)} {v : V}
    (h : entries.filterMap R.written = [v]) (k : Key) (history : List (Entry ι Key V A)) :
    R.lastWrite k (entries ++ history) = if k = R.key v then some v else R.lastWrite k history := by
  unfold lastWrite
  rw [List.filterMap_append, h, List.singleton_append, List.find?_cons]
  by_cases hk : k = R.key v
  · rw [if_pos hk, decide_eq_true hk.symm]
  · rw [if_neg hk, decide_eq_false fun heq => hk heq.symm]

/-- A history is in order if its latest entry is, and what came before. -/
theorem historyOk_cons {e : Entry ι Key V A} :
    R.HistoryOk (e :: history) ↔ R.EntryOk history e ∧ R.HistoryOk history := by
  constructor
  · intro h
    refine ⟨h e history List.suffix_rfl, fun e' past hpast => ?_⟩
    exact h e' past (hpast.trans (List.suffix_cons e history))
  · rintro ⟨he, h⟩ e' past hpast
    rcases List.suffix_cons_iff.mp hpast with heq | hsuffix
    · obtain ⟨rfl, rfl⟩ := List.cons.inj heq
      exact he
    · exact h e' past hsuffix

end

/-! ## Clients

A client looks its row up, and writes with the id it has found in a later call; a client that finds none
creates a row. Any client may have a turn between two calls of another one.
-/

inductive Request (Key V : Type) where
  | find (k : Key)
  | findOrCreate (k : Key)
  | save (v : V)

/-- How far a client has come. The last two are about to write: a value of their own, and the new value of
`findOrCreate`. -/
inductive Phase (Id Key V : Type) where
  | idle
  | asked (request : Request Key V)
  | missed (k : Key)
  | writing (v : V) (existing : Option Id)
  | creating (k : Key) (existing : Option Id)

/-- What a client does: it sends a request, or its next call is made, at a time, or fails. -/
inductive Turn (Key V : Type) where
  | request (request : Request Key V)
  | call (now : ℤ)
  | fail

structure World (Row : Type) {Id Key : Type} [Schema Row Id Key] (ι V A : Type) where
  table : Table Row
  phases : ι → Phase Id Key V
  history : List (Entry ι Key V A)

variable [DecidableEq Key] [DecidableEq Id] [DecidableEq ι]

/-- The world after a client has gone on, with what there is to record. -/
def World.move (w : World Row ι V A) (i : ι) (p : Phase Id Key V) (entries : List (Entry ι Key V A)) :
    World Row ι V A :=
  { w with phases := Function.update w.phases i p, history := entries ++ w.history }

/-- The second call of a save. -/
def write (t : Table Row) (now : ℤ) (v : V) (existing : Option Id) : Option (Table Row) :=
  t.write existing (R.patch now v) (R.row now t v)

/-- A save that is not interrupted. -/
def save (t : Table Row) (now : ℤ) (v : V) : Option (Table Row) :=
  R.write t now v ((t.find (R.key v)).map Schema.id)

/-- The answer to a read. -/
def read (t : Table Row) (k : Key) : Option A := (t.find k).map R.load

/-- `findOrCreate` when it is not interrupted, with the table it leaves. -/
def findOrCreate (t : Table Row) (now : ℤ) (k : Key) : Option (Table Row × A) :=
  match R.read t k with
  | some existing => some (t, existing)
  | none => (R.save t now (R.fresh k)).map fun t => (t, R.created k)

/-- The first call of a save, by a client. -/
def lookFor (w : World Row ι V A) (i : ι) (k : Key) (p : Option Id → Phase Id Key V) : World Row ι V A :=
  match w.table.find k with
  | some r => w.move i (p (some (Schema.id r))) []
  | none => w.move i (p none) [.looked i k]

/-- The second call of a save, by a client. -/
def commit (w : World Row ι V A) (i : ι) (now : ℤ) (v : V) (existing : Option Id)
    (entries : List (Entry ι Key V A)) : World Row ι V A :=
  match R.write w.table now v existing with
  | some t => { w.move i .idle entries with table := t }
  | none => w.move i .idle [.refused i (R.key v)]

/-- The next call of a client. -/
def call (w : World Row ι V A) (i : ι) (now : ℤ) : World Row ι V A :=
  match w.phases i with
  | .idle => w
  | .asked (.find k) => w.move i .idle [.answered i k (R.read w.table k)]
  | .asked (.findOrCreate k) =>
    match w.table.find k with
    | some r => w.move i .idle [.answered i k (some (R.load r))]
    | none => w.move i (.missed k) [.missed i k]
  | .asked (.save v) => lookFor w i (R.key v) (.writing v)
  | .missed k => lookFor w i k (.creating k)
  | .writing v existing => R.commit w i now v existing [.wrote i v]
  | .creating k existing =>
    R.commit w i now (R.fresh k) existing [.answered i k (some (R.created k)), .created i k]

def step (w : World Row ι V A) (turn : ι × Turn Key V) : World Row ι V A :=
  match turn with
  | (i, .request request) =>
    match w.phases i with
    | .idle => w.move i (.asked request) []
    | _ => w
  | (i, .call now) => R.call w i now
  | (i, .fail) => w.move i .idle []

/-- The world before the first request. -/
def start : World Row ι V A := ⟨Table.empty, fun _ => .idle, []⟩

/-! ## Clients that are not interrupted

The calls of one client, taken together, are the functions of the repository.
-/

omit [DecidableEq Key] [DecidableEq Id] in
/-- A client is in the phase it has moved to. -/
theorem World.phases_move (w : World Row ι V A) (i : ι) (p : Phase Id Key V)
    (entries : List (Entry ι Key V A)) : (w.move i p entries).phases i = p := Function.update_self ..

omit [DecidableEq Id] in
/-- Looking for a row moves the client on, and changes nothing but the history. -/
theorem exists_lookFor (w : World Row ι V A) (i : ι) (k : Key) (p : Option Id → Phase Id Key V) :
    ∃ entries, lookFor w i k p = w.move i (p ((w.table.find k).map Schema.id)) entries := by
  unfold lookFor
  rcases w.table.find k with _ | r
  · exact ⟨_, rfl⟩
  · exact ⟨_, rfl⟩

/-- What a commit makes of the table. -/
theorem table_commit (w : World Row ι V A) (i : ι) (now : ℤ) (v : V) (existing : Option Id)
    (entries : List (Entry ι Key V A)) :
    (R.commit w i now v existing entries).table = (R.write w.table now v existing).getD w.table := by
  unfold commit
  rcases R.write w.table now v existing with _ | t
  · rfl
  · rfl

section

variable {w : World Row ι V A} {i : ι} {k : Key} {v : V} {existing : Option Id}

/-- A client without a request does nothing. -/
theorem call_idle (hi : w.phases i = .idle) (now : ℤ) : R.call w i now = w := by
  unfold call
  rw [hi]

/-- A client that has found no row looks again before it creates one. -/
theorem call_missed (hi : w.phases i = .missed k) (now : ℤ) :
    R.call w i now = lookFor w i k (.creating k) := by
  unfold call
  rw [hi]

/-- A client that has looked for its row writes. -/
theorem call_writing (hi : w.phases i = .writing v existing) (now : ℤ) :
    R.call w i now = R.commit w i now v existing [.wrote i v] := by
  unfold call
  rw [hi]

/-- A client that creates a row has answered its request with it. -/
theorem call_creating (hi : w.phases i = .creating k existing) (now : ℤ) : R.call w i now =
    R.commit w i now (R.fresh k) existing [.answered i k (some (R.created k)), .created i k] := by
  unfold call
  rw [hi]

/-- A client that is not interrupted saves as `save` does. -/
theorem table_save (hi : w.phases i = .asked (.save v)) (now : ℤ) :
    (R.call (R.call w i now) i now).table = (R.save w.table now v).getD w.table := by
  obtain ⟨entries, hlook⟩ := exists_lookFor w i (R.key v) (.writing v)
  have hfirst : R.call w i now = lookFor w i (R.key v) (.writing v) := by
    unfold call
    rw [hi]
  rw [hfirst, hlook, R.call_writing (w.phases_move i _ entries), table_commit]
  rfl

/-- A client that is not interrupted finds or creates as `findOrCreate` does. -/
theorem table_findOrCreate (hi : w.phases i = .asked (.findOrCreate k)) (now : ℤ) :
    (R.call (R.call (R.call w i now) i now) i now).table =
      ((R.findOrCreate w.table now k).map Prod.fst).getD w.table := by
  unfold findOrCreate read
  rcases hfind : w.table.find k with _ | r
  · have hfirst : R.call w i now = w.move i (.missed k) [.missed i k] := by
      unfold call
      rw [hi]
      dsimp only
      rw [hfind]
    obtain ⟨entries, hlook⟩ := exists_lookFor (w.move i (.missed k) [.missed i k]) i k (.creating k)
    rw [hfirst, R.call_missed (w.phases_move i _ _), hlook,
      R.call_creating (World.phases_move _ i _ entries), table_commit]
    show (R.write w.table now (R.fresh k) ((w.table.find k).map Schema.id)).getD w.table = _
    dsimp only [Option.map_none]
    unfold save
    rw [R.key_fresh]
    rcases R.write w.table now (R.fresh k) _ with _ | t
    · rfl
    · rfl
  · have hfirst : R.call w i now = w.move i .idle [.answered i k (some (R.load r))] := by
      unfold call
      rw [hi]
      dsimp only
      rw [hfind]
    rw [hfirst, R.call_idle (w.phases_move i _ _), R.call_idle (w.phases_move i _ _)]
    rfl

end

/-! ## Steps

The invariant ties each row to the last write of its key and each client to what it has found. Every call
keeps it, so it holds after any turns of any clients.
-/

/-- What a client holds was found in the table, or looked for when nothing had been written. -/
def PhaseOk (t : Table Row) (history : List (Entry ι Key V A)) (i : ι) : Phase Id Key V → Prop
  | .missed k => R.MadeBefore (.missed i k) k history
  | .writing v existing => t.Found (R.key v) existing ∧
      (existing = none → R.MadeBefore (.looked i (R.key v)) (R.key v) history)
  | .creating k existing => t.Found k existing ∧
      (existing = none → R.MadeBefore (.looked i k) k history) ∧ R.MadeBefore (.missed i k) k history
  | _ => True

/-- The rows show what was last written, the clients hold what they found, and the history is right. -/
structure Inv (w : World Row ι V A) : Prop where
  rows : ∀ k, R.Answers ((w.table.find k).map R.load) (R.lastWrite k w.history)
  phases : ∀ i, R.PhaseOk w.table w.history i (w.phases i)
  history : R.HistoryOk w.history

variable {R} {w : World Row ι V A}

omit [DecidableEq Id] [DecidableEq ι] in
/-- A key has been written exactly if it has a row. -/
theorem Inv.lastWrite_eq_none_iff (hw : R.Inv w) (k : Key) :
    R.lastWrite k w.history = none ↔ w.table.find k = none := by
  have hrow := hw.rows k
  rcases hlast : R.lastWrite k w.history with _ | v <;> rw [hlast] at hrow
  · exact iff_of_true rfl (Option.map_eq_none_iff.mp hrow)
  · obtain ⟨a, ha, -⟩ := hrow
    refine iff_of_false (Option.some_ne_none v) fun hnone => ?_
    rw [hnone] at ha
    cases ha

omit [DecidableEq Id] [DecidableEq ι] in
/-- What a client holds stays right while the history grows and rows stay. -/
theorem PhaseOk.mono {t t' : Table Row} {history history' : List (Entry ι Key V A)} {i : ι}
    {p : Phase Id Key V} (h : R.PhaseOk t history i p)
    (ht : ∀ k existing, t.Found k existing → t'.Found k existing) (hsuffix : history <:+ history') :
    R.PhaseOk t' history' i p := by
  cases p with
  | missed k => exact MadeBefore.mono h hsuffix
  | writing v existing => exact ⟨ht _ _ h.1, fun hnone => (h.2 hnone).mono hsuffix⟩
  | creating k existing =>
    exact ⟨ht _ _ h.1, fun hnone => (h.2.1 hnone).mono hsuffix, h.2.2.mono hsuffix⟩
  | idle => exact trivial
  | asked request => exact trivial

omit [DecidableEq Id] in
/-- A step that does not write. -/
theorem Inv.move (hw : R.Inv w) {i : ι} {p : Phase Id Key V} {entries : List (Entry ι Key V A)}
    (hp : R.PhaseOk w.table (entries ++ w.history) i p) (hentries : R.HistoryOk (entries ++ w.history))
    (hnothing : entries.filterMap R.written = []) : R.Inv (w.move i p entries) := by
  refine ⟨fun k => ?_, fun j => ?_, hentries⟩
  · show R.Answers ((w.table.find k).map R.load) (R.lastWrite k (entries ++ w.history))
    rw [lastWrite_append_of_nil hnothing]
    exact hw.rows k
  · show R.PhaseOk w.table (entries ++ w.history) j (Function.update w.phases i p j)
    by_cases hj : j = i
    · rw [hj, Function.update_self]
      exact hp
    · rw [Function.update_of_ne hj]
      exact (hw.phases j).mono (fun _ _ h => h) (List.suffix_append _ _)

omit [DecidableEq Id] in
/-- The lookup of a save. -/
theorem Inv.lookFor (hw : R.Inv w) {i : ι} {k : Key} {p : Option Id → Phase Id Key V}
    (hp : ∀ history existing, w.history <:+ history → w.table.Found k existing →
      (existing = none → R.MadeBefore (.looked i k) k history) →
      R.PhaseOk w.table history i (p existing)) : R.Inv (lookFor w i k p) := by
  unfold Repository.lookFor
  rcases hfind : w.table.find k with _ | r
  · refine hw.move ?_ (historyOk_cons.mpr ⟨trivial, hw.history⟩) rfl
    refine hp _ _ (List.suffix_append _ _) (fun _ h => by cases h) fun _ => ?_
    exact ⟨w.history, List.suffix_rfl, (hw.lastWrite_eq_none_iff k).mpr hfind⟩
  · refine hw.move (hp _ _ List.suffix_rfl ?_ fun h => by cases h) hw.history rfl
    rintro _ ⟨⟩
    exact ⟨r, hfind, rfl⟩

/-- A write fails when nothing was found and a row is there by now. -/
theorem of_write_eq_none {t : Table Row} {now : ℤ} {v : V} {existing : Option Id}
    (hfound : t.Found (R.key v) existing) (h : R.write t now v existing = none) :
    existing = none ∧ t.find (R.key v) ≠ none := by
  rcases existing with _ | found
  · refine ⟨rfl, fun hfind => ?_⟩
    rw [← R.key_row now t v] at hfind
    obtain ⟨t', ht'⟩ := Table.exists_create (R.id_row now t v) hfind
    cases h.symm.trans ht'
  · obtain ⟨t', ht'⟩ := Table.exists_write_of_found hfound (R.patch now v) (R.row now t v)
    cases h.symm.trans ht'

/-- The row at the key of a write shows its value. -/
theorem answers_write {t t' : Table Row} {now : ℤ} {v : V} {existing : Option Id}
    (hfound : t.Found (R.key v) existing) (h : R.write t now v existing = some t') :
    R.Answers ((t'.find (R.key v)).map R.load) (some v) := by
  obtain ⟨⟨r, hr, hshape⟩, -, -⟩ := Table.find_write (R.key_row now t v) hfound h
  refine ⟨R.load r, by rw [hr]; rfl, ?_⟩
  rcases hshape with rfl | ⟨r₀, rfl⟩
  · exact R.shows_row now t v
  · have hkey := (Table.find_eq_some_iff.mp hr).2
    exact R.shows_patch now v r₀ (((R.patch now v).key_apply r₀).symm.trans hkey)

/-- The write of a save. -/
theorem Inv.commit (hw : R.Inv w) {i : ι} {now : ℤ} {v : V} {existing : Option Id}
    {entries : List (Entry ι Key V A)} (hfound : w.table.Found (R.key v) existing)
    (hlooked : existing = none → R.MadeBefore (.looked i (R.key v)) (R.key v) w.history)
    (hwritten : entries.filterMap R.written = [v]) (hentries : R.HistoryOk (entries ++ w.history)) :
    R.Inv (R.commit w i now v existing entries) := by
  unfold Repository.commit
  rcases hwrite : R.write w.table now v existing with _ | t
  · obtain ⟨hnone, hrow⟩ := of_write_eq_none hfound hwrite
    refine hw.move trivial (historyOk_cons.mpr ⟨⟨hlooked hnone, ?_⟩, hw.history⟩) rfl
    exact (hw.lastWrite_eq_none_iff _).not.mpr hrow
  · refine ⟨fun k => ?_, fun j => ?_, hentries⟩
    · show R.Answers ((t.find k).map R.load) (R.lastWrite k (entries ++ w.history))
      rw [lastWrite_append_of_singleton hwritten]
      by_cases hk : k = R.key v
      · rw [if_pos hk, hk]
        exact answers_write hfound hwrite
      · obtain ⟨-, -, hothers⟩ := Table.find_write (R.key_row now w.table v) hfound hwrite
        rw [if_neg hk, hothers k hk]
        exact hw.rows k
    · show R.PhaseOk t (entries ++ w.history) j (Function.update w.phases i .idle j)
      by_cases hj : j = i
      · rw [hj, Function.update_self]
        exact trivial
      · rw [Function.update_of_ne hj]
        exact (hw.phases j).mono (fun _ _ h => h.write_at (R.key_row now w.table v) hfound hwrite)
          (List.suffix_append _ _)

/-- The next call of a client. -/
theorem Inv.call (hw : R.Inv w) (i : ι) (now : ℤ) : R.Inv (R.call w i now) := by
  have hphase := hw.phases i
  unfold Repository.call
  rcases hi : w.phases i with _ | request | k | ⟨v, existing⟩ | ⟨k, existing⟩
  · exact hw
  · rcases request with k | k | v <;> dsimp only
    · exact hw.move trivial (historyOk_cons.mpr ⟨hw.rows k, hw.history⟩) rfl
    · have hrow := hw.rows k
      rcases hfind : w.table.find k with _ | r
      · refine hw.move ?_ (historyOk_cons.mpr ⟨trivial, hw.history⟩) rfl
        exact ⟨w.history, List.suffix_rfl, (hw.lastWrite_eq_none_iff k).mpr hfind⟩
      · rw [hfind] at hrow
        exact hw.move trivial (historyOk_cons.mpr ⟨hrow, hw.history⟩) rfl
    · exact hw.lookFor fun history existing _ hfound hlooked => ⟨hfound, hlooked⟩
  · rw [hi] at hphase
    refine hw.lookFor fun history existing hsuffix hfound hlooked => ?_
    exact ⟨hfound, hlooked, MadeBefore.mono hphase hsuffix⟩
  · rw [hi] at hphase
    exact hw.commit hphase.1 hphase.2 rfl (historyOk_cons.mpr ⟨trivial, hw.history⟩)
  · rw [hi] at hphase
    obtain ⟨hfound, hlooked, hmissed⟩ := hphase
    have hkey := R.key_fresh k
    rw [← hkey] at hfound hlooked
    refine hw.commit hfound hlooked rfl (historyOk_cons.mpr ⟨?_, historyOk_cons.mpr ⟨hmissed, hw.history⟩⟩)
    -- the answer is the value that was written just before it
    show R.Answers (some (R.created k)) (R.lastWrite k ([.created i k] ++ w.history))
    rw [lastWrite_append_of_singleton (v := R.fresh k) rfl, if_pos hkey.symm]
    exact ⟨R.created k, rfl, R.shows_created k⟩

/-- Whatever a client does next, the invariant holds. -/
theorem Inv.step (hw : R.Inv w) (turn : ι × Turn Key V) : R.Inv (R.step w turn) := by
  obtain ⟨i, turn⟩ := turn
  unfold Repository.step
  rcases turn with request | now | _ <;> dsimp only
  · rcases hi : w.phases i with _ | _ | _ | _ | _ <;> dsimp only
    · exact hw.move trivial hw.history rfl
    all_goals exact hw
  · exact hw.call i now
  · exact hw.move trivial hw.history rfl

omit [DecidableEq Id] [DecidableEq ι] in
/-- It holds of the empty table. -/
theorem inv_start : R.Inv (start : World Row ι V A) := by
  refine ⟨fun k => rfl, fun i => trivial, ?_⟩
  rintro e past hpast
  cases List.suffix_nil.mp hpast

variable (R) in
/-- It holds after any turns of any clients. -/
theorem inv_run (turns : List (ι × Turn Key V)) : R.Inv (turns.foldl R.step start) :=
  foldl_invariant (f := R.step) (fun _ turn hw => hw.step turn) inv_start turns

/-- A repository is a register: in any order of any calls, every answer is what was last written at its
key, and so is what the table holds. A value that `findOrCreate` created, and a row that was refused,
were looked for when nothing had been written. -/
structure IsRegister (R : Repository Row V A) (w : World Row ι V A) : Prop where
  answered : ∀ i k answer past, .answered i k answer :: past <:+ w.history →
    R.Answers answer (R.lastWrite k past)
  stored : ∀ k, R.Answers (R.read w.table k) (R.lastWrite k w.history)
  created : ∀ i k past, .created i k :: past <:+ w.history → R.MadeBefore (.missed i k) k past
  refused : ∀ i k past, .refused i k :: past <:+ w.history →
    R.MadeBefore (.looked i k) k past ∧ R.lastWrite k past ≠ none

variable (R) in
/-- After any turns of any clients, each row holds what was written last at its key. -/
theorem isRegister_run (turns : List (ι × Turn Key V)) : R.IsRegister (turns.foldl R.step start) := by
  have hw := R.inv_run turns
  exact ⟨fun _ _ _ past h => hw.history _ past h, hw.rows, fun _ _ past h => hw.history _ past h,
    fun _ _ past h => hw.history _ past h⟩

end Repository

end Db
