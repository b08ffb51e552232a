import Mathlib.Algebra.Order.BigOperators.Group.List
import Mathlib.Algebra.Order.Ring.Nat
import Mathlib.Data.List.Nodup

/-!
# Database tables with a primary key and a unique constraint

A `Table` carries the two constraints a database enforces, so a state that breaks them cannot be
built: `create` refuses a row that collides, and an update is a `Patch`, which leaves the
identifying columns alone. Rows keep a storage order, but nothing promises it: `findFirst` takes the
position of the match it returns as an argument, and a statement about every position is a statement
about every order in which a database may answer.

Reads go through `find`, the row at a unique key, and the `find_*` lemmas say what each write does to
it. A write in two calls, which first looks for the row, is `write`.
-/

namespace Db

/-- What identifies the rows of a table: the primary key, and the columns of a unique constraint. -/
class Schema (Row : Type) (Id Key : outParam Type) where
  id : Row → Id
  key : Row → Key

variable {Row Id Key : Type} [Schema Row Id Key]

/-- The rows of a table, with distinct primary keys and distinct unique keys. -/
structure Table (Row : Type) {Id Key : Type} [Schema Row Id Key] where
  rows : List Row
  id_nodup : (rows.map Schema.id).Nodup
  key_nodup : (rows.map Schema.key).Nodup

/-- An update that leaves the identifying columns of a row alone. -/
structure Patch (Row : Type) {Id Key : Type} [Schema Row Id Key] where
  apply : Row → Row
  id_apply : ∀ r, Schema.id (apply r) = Schema.id r
  key_apply : ∀ r, Schema.key (apply r) = Schema.key r

namespace Table

/-- The table without rows. -/
def empty : Table Row := ⟨[], by simp, by simp⟩

/-- All rows that satisfy a condition. -/
def findMany (t : Table Row) (p : Row → Bool) : List Row := t.rows.filter p

/-- Some row that satisfies a condition: the one at position `pick` among the matches. -/
def findFirst (t : Table Row) (pick : ℕ) (p : Row → Bool) : Option Row :=
  (t.findMany p)[pick % (t.findMany p).length]?

/-- Apply a patch to all rows that satisfy a condition. -/
def updateMany (t : Table Row) (p : Row → Bool) (f : Patch Row) : Table Row where
  rows := t.rows.map fun r => if p r then f.apply r else r
  id_nodup := by
    have h : (t.rows.map fun r => if p r then f.apply r else r).map Schema.id
        = t.rows.map Schema.id := by
      rw [List.map_map]
      refine List.map_congr_left fun r _ => ?_
      by_cases hp : p r <;> simp [hp, f.id_apply]
    rw [h]
    exact t.id_nodup
  key_nodup := by
    have h : (t.rows.map fun r => if p r then f.apply r else r).map Schema.key
        = t.rows.map Schema.key := by
      rw [List.map_map]
      refine List.map_congr_left fun r _ => ?_
      by_cases hp : p r <;> simp [hp, f.key_apply]
    rw [h]
    exact t.key_nodup

/-- Delete all rows that satisfy a condition. -/
def deleteMany (t : Table Row) (p : Row → Bool) : Table Row where
  rows := t.rows.filter fun r => !p r
  id_nodup := t.id_nodup.sublist (List.filter_sublist.map _)
  key_nodup := t.key_nodup.sublist (List.filter_sublist.map _)

variable [DecidableEq Key]

/-- The row at a unique key. -/
def find (t : Table Row) (k : Key) : Option Row := t.rows.find? fun r => Schema.key r = k

variable [DecidableEq Id]

/-- Apply a patch to the row with a primary key; a missing row is an error. -/
def update (t : Table Row) (i : Id) (f : Patch Row) : Option (Table Row) :=
  if t.rows.any fun r => Schema.id r = i then
    some (t.updateMany (fun r => Schema.id r = i) f)
  else none

/-- Insert a row; a collision with either constraint is an error. -/
def create (t : Table Row) (r : Row) : Option (Table Row) :=
  if h : (∀ r' ∈ t.rows, Schema.id r' ≠ Schema.id r) ∧ ∀ r' ∈ t.rows, Schema.key r' ≠ Schema.key r then
    some
      { rows := t.rows ++ [r]
        id_nodup := by
          rw [List.map_append, List.nodup_append]
          refine ⟨t.id_nodup, by simp, ?_⟩
          intro a ha b hb
          obtain ⟨r', hr', rfl⟩ := List.mem_map.mp ha
          simp only [List.map_cons, List.map_nil, List.mem_singleton] at hb
          exact hb ▸ h.1 r' hr'
        key_nodup := by
          rw [List.map_append, List.nodup_append]
          refine ⟨t.key_nodup, by simp, ?_⟩
          intro a ha b hb
          obtain ⟨r', hr', rfl⟩ := List.mem_map.mp ha
          simp only [List.map_cons, List.map_nil, List.mem_singleton] at hb
          exact hb ▸ h.2 r' hr' }
  else none

/-- Patch the row at a unique key, or insert `r` when there is none. -/
def upsert (t : Table Row) (k : Key) (f : Patch Row) (r : Row) : Option (Table Row) :=
  if (t.find k).isSome then some (t.updateMany (fun r' => Schema.key r' = k) f) else t.create r

/-! ## Reading

A row is determined by its id and by its key. What a query without an order answers first is any row that
matches.
-/

omit [DecidableEq Key] [DecidableEq Id] in
/-- The unique key of a row determines the row. -/
theorem eq_of_key_eq {t : Table Row} {r r' : Row} (hr : r ∈ t.rows) (hr' : r' ∈ t.rows)
    (h : Schema.key r = Schema.key r') : r = r' :=
  List.inj_on_of_nodup_map t.key_nodup hr hr' h

omit [DecidableEq Key] [DecidableEq Id] in
/-- The primary key of a row determines the row. -/
theorem eq_of_id_eq {t : Table Row} {r r' : Row} (hr : r ∈ t.rows) (hr' : r' ∈ t.rows)
    (h : Schema.id r = Schema.id r') : r = r' :=
  List.inj_on_of_nodup_map t.id_nodup hr hr' h

omit [DecidableEq Id] in
/-- A row is found under its key. -/
theorem find_eq_some_iff {t : Table Row} {k : Key} {r : Row} :
    t.find k = some r ↔ r ∈ t.rows ∧ Schema.key r = k := by
  constructor
  · intro h
    exact ⟨List.mem_of_find?_eq_some h, by simpa using List.find?_some h⟩
  · rintro ⟨hr, rfl⟩
    obtain ⟨r', hr'⟩ : ∃ r', t.find (Schema.key r) = some r' := by
      rw [← Option.isSome_iff_exists]
      simpa [find] using ⟨r, hr, rfl⟩
    have hk : Schema.key r' = Schema.key r := by simpa using List.find?_some hr'
    rw [hr', eq_of_key_eq (List.mem_of_find?_eq_some hr') hr hk]

omit [DecidableEq Id] in
/-- A row is found at its own key. -/
theorem find_key {t : Table Row} {r : Row} (hr : r ∈ t.rows) : t.find (Schema.key r) = some r :=
  find_eq_some_iff.mpr ⟨hr, rfl⟩

omit [DecidableEq Id] in
/-- Lookups determine the rows of a table. -/
theorem find_eq_find_iff {t t' : Table Row} :
    (∀ k, t'.find k = t.find k) ↔ ∀ r, r ∈ t'.rows ↔ r ∈ t.rows := by
  constructor
  · intro h r
    have hfind := h (Schema.key r)
    constructor
    · intro hr
      rw [find_key hr] at hfind
      exact (find_eq_some_iff.mp hfind.symm).1
    · intro hr
      rw [find_key hr] at hfind
      exact (find_eq_some_iff.mp hfind).1
  · intro h k
    refine Option.ext fun r => ?_
    rw [find_eq_some_iff, find_eq_some_iff, h]

omit [DecidableEq Id] in
/-- No row is found under a key that no row has. -/
theorem find_eq_none_iff {t : Table Row} {k : Key} :
    t.find k = none ↔ ∀ r ∈ t.rows, Schema.key r ≠ k := by
  simp [find]

omit [DecidableEq Key] [DecidableEq Id] in
/-- `findFirst` answers with a match. -/
theorem of_findFirst_eq_some {t : Table Row} {pick : ℕ} {p : Row → Bool} {r : Row}
    (h : t.findFirst pick p = some r) : r ∈ t.rows ∧ p r = true := by
  have hmem : r ∈ t.findMany p := List.mem_of_getElem? h
  exact List.mem_filter.mp hmem

omit [DecidableEq Key] [DecidableEq Id] in
/-- Where a row matches, `findFirst` answers with one. -/
theorem exists_findFirst {t : Table Row} {p : Row → Bool} {r : Row} (hr : r ∈ t.rows) (hp : p r = true)
    (pick : ℕ) : ∃ r', t.findFirst pick p = some r' := by
  have hpos : 0 < (t.findMany p).length := List.length_pos_of_mem (List.mem_filter.mpr ⟨hr, hp⟩)
  exact ⟨_, List.getElem?_eq_getElem (Nat.mod_lt pick hpos)⟩

omit [DecidableEq Key] [DecidableEq Id] in
/-- Where one row matches, `findFirst` answers with it, whatever the order. -/
theorem findFirst_of_findMany {t : Table Row} {p : Row → Bool} {r : Row} (h : t.findMany p = [r])
    (pick : ℕ) : t.findFirst pick p = some r := by
  unfold findFirst
  rw [h, List.length_singleton, Nat.mod_one]
  rfl

omit [DecidableEq Key] [DecidableEq Id] in
/-- A table is its rows. -/
theorem ext_rows {t t' : Table Row} (h : t.rows = t'.rows) : t = t' := by
  cases t
  cases t'
  simpa using h

/-! ## Writing

Each operation is known by what can be found afterwards: one key changes and the others do not.
-/

omit [DecidableEq Key] [DecidableEq Id] in
/-- A patch that does not change whether a row matches does not change which row is found. -/
theorem findFirst_updateMany {t : Table Row} {q : Row → Bool} {f : Patch Row} {p : Row → Bool}
    (hp : ∀ r, p (f.apply r) = p r) (pick : ℕ) :
    (t.updateMany q f).findFirst pick p =
      (t.findFirst pick p).map fun r => if q r then f.apply r else r := by
  have hpatched : ∀ r, p (if q r then f.apply r else r) = p r := by
    intro r
    by_cases hq : q r <;> simp [hq, hp]
  simp only [findFirst, findMany, updateMany, List.filter_map, Function.comp_def, hpatched,
    List.length_map, List.getElem?_map]

omit [DecidableEq Key] [DecidableEq Id] in
/-- Two updates that do the same to every row are one. -/
theorem updateMany_congr {t : Table Row} {p q : Row → Bool} {f g : Patch Row}
    (h : ∀ r ∈ t.rows, (if p r then f.apply r else r) = if q r then g.apply r else r) :
    t.updateMany p f = t.updateMany q g :=
  ext_rows (List.map_congr_left h)

omit [DecidableEq Key] in
/-- A row that is there can be updated. -/
theorem update_of_mem {t : Table Row} {r : Row} (hr : r ∈ t.rows) (f : Patch Row) :
    t.update (Schema.id r) f = some (t.updateMany (fun r' => Schema.id r' = Schema.id r) f) := by
  rw [update, if_pos]
  simpa using ⟨r, hr, rfl⟩

omit [DecidableEq Id] in
@[simp] theorem find_empty (k : Key) : (empty : Table Row).find k = none := rfl

omit [DecidableEq Id] in
/-- Updating rows and looking one of them up. -/
theorem find_updateMany (t : Table Row) (p : Row → Bool) (f : Patch Row) (k : Key) :
    (t.updateMany p f).find k = (t.find k).map fun r => if p r then f.apply r else r := by
  have hkey : ∀ r, Schema.key (if p r then f.apply r else r) = Schema.key r := by
    intro r
    by_cases hp : p r <;> simp [hp, f.key_apply]
  simp only [find, updateMany, List.find?_map, Function.comp_def, hkey]

omit [DecidableEq Id] in
/-- Deleting rows and looking one up. -/
theorem find_deleteMany (t : Table Row) (p : Row → Bool) (k : Key) :
    (t.deleteMany p).find k = (t.find k).filter fun r => !p r := by
  refine Option.ext fun r => ?_
  rw [find_eq_some_iff, Option.filter_eq_some_iff, find_eq_some_iff]
  show r ∈ t.rows.filter _ ∧ _ ↔ _
  rw [List.mem_filter]
  exact and_right_comm

/-- Updating a row that is there patches it and leaves the rows at other keys alone. -/
theorem find_update {t : Table Row} {r : Row} (hr : r ∈ t.rows) (f : Patch Row) :
    ∃ t', t.update (Schema.id r) f = some t' ∧
      ∀ k, t'.find k = if k = Schema.key r then some (f.apply r) else t.find k := by
  refine ⟨t.updateMany (fun r' => Schema.id r' = Schema.id r) f, update_of_mem hr f, fun k => ?_⟩
  rw [find_updateMany]
  by_cases hk : k = Schema.key r
  · rw [if_pos hk, find_eq_some_iff.mpr ⟨hr, hk.symm⟩]
    simp
  · rw [if_neg hk]
    cases h : t.find k with
    | none => rfl
    | some r' =>
      obtain ⟨hr', rfl⟩ := find_eq_some_iff.mp h
      have hid : Schema.id r' ≠ Schema.id r := fun hid => hk (by rw [eq_of_id_eq hr' hr hid])
      simp [hid]

omit [DecidableEq Key] in
/-- The rows after an update. -/
theorem mem_update {t t' : Table Row} {i : Id} {f : Patch Row} (h : t.update i f = some t')
    (r' : Row) : r' ∈ t'.rows ↔ ∃ r ∈ t.rows, (if Schema.id r = i then f.apply r else r) = r' := by
  unfold update at h
  split at h
  · rw [← Option.some.inj h]
    simp [updateMany]
  · cases h

omit [DecidableEq Key] in
/-- A row that was updated was there. -/
theorem exists_of_update {t t' : Table Row} {i : Id} {f : Patch Row} (h : t.update i f = some t') :
    ∃ r ∈ t.rows, Schema.id r = i := by
  unfold update at h
  split at h
  · next hany => simpa using hany
  · cases h

/-- An insertion appends its row. -/
theorem rows_create {t t' : Table Row} {r : Row} (h : t.create r = some t') :
    t'.rows = t.rows ++ [r] := by
  unfold create at h
  split at h
  · rw [← Option.some.inj h]
  · cases h

/-- A table has a new row and those it had before. -/
theorem mem_create {t t' : Table Row} {r : Row} (h : t.create r = some t') (r' : Row) :
    r' ∈ t'.rows ↔ r' ∈ t.rows ∨ r' = r := by
  rw [rows_create h, List.mem_append, List.mem_singleton]

/-- A row inserted without collision is found at its key, and the other keys are untouched. -/
theorem find_create {t t' : Table Row} {r : Row} (h : t.create r = some t') (k : Key) :
    t'.find k = if k = Schema.key r then some r else t.find k := by
  rw [create] at h
  split at h
  · next hnew =>
    rw [← Option.some.inj h]
    by_cases hk : k = Schema.key r
    · subst hk
      rw [if_pos rfl]
      exact find_eq_some_iff.mpr ⟨by simp, rfl⟩
    · have hk' : Schema.key r ≠ k := fun h => hk h.symm
      simp [find, List.find?_append, hk, hk']
  · exact absurd h (by simp)

/-- `create` succeeds when nothing collides. -/
theorem isSome_create_iff {t : Table Row} {r : Row} : (t.create r).isSome = true ↔
    (∀ r' ∈ t.rows, Schema.id r' ≠ Schema.id r) ∧ t.find (Schema.key r) = none := by
  unfold create
  rw [find_eq_none_iff]
  split
  · next hnew => exact iff_of_true rfl hnew
  · next hnew => exact iff_of_false Bool.false_ne_true hnew

/-- A row with a new id and a new key is stored. -/
theorem exists_create {t : Table Row} {r : Row} (hid : ∀ r' ∈ t.rows, Schema.id r' ≠ Schema.id r)
    (hkey : t.find (Schema.key r) = none) : ∃ t', t.create r = some t' :=
  Option.isSome_iff_exists.mp (isSome_create_iff.mpr ⟨hid, hkey⟩)

/-- A row that is there cannot be created. -/
theorem create_of_find {t : Table Row} {r r₀ : Row} (h : t.find (Schema.key r) = some r₀) :
    t.create r = none := by
  obtain ⟨hmem, hkey⟩ := find_eq_some_iff.mp h
  unfold create
  exact dif_neg fun hnew => hnew.2 r₀ hmem hkey

/-- Where there is a row at the key, an upsert updates it. -/
theorem upsert_eq_of_find {t : Table Row} {k : Key} {r₀ : Row} (h : t.find k = some r₀)
    (f : Patch Row) (r : Row) :
    t.upsert k f r = some (t.updateMany (fun r' => Schema.key r' = k) f) := by
  unfold upsert
  rw [h]
  rfl

/-- An upsert at the key of a row patches it. -/
theorem upsert_of_find {t : Table Row} {k : Key} {r₀ : Row} (h : t.find k = some r₀) (f : Patch Row)
    (r : Row) : ∃ t', t.upsert k f r = some t' ∧ t'.find k = some (f.apply r₀) := by
  refine ⟨_, upsert_eq_of_find h f r, ?_⟩
  rw [find_updateMany, h]
  simp [(find_eq_some_iff.mp h).2]

/-- An upsert leaves the rows at other keys alone. -/
theorem find_upsert_of_ne {t t' : Table Row} {k k' : Key} {f : Patch Row} {r : Row}
    (hkey : Schema.key r = k) (h : t.upsert k f r = some t') (hk : k' ≠ k) : t'.find k' = t.find k' := by
  unfold upsert at h
  split at h
  · rw [← Option.some.inj h, find_updateMany]
    rcases hfind : t.find k' with _ | r'
    · rfl
    · have hne : Schema.key r' ≠ k := fun heq => hk (by rw [← (find_eq_some_iff.mp hfind).2, heq])
      simp [hne]
  · rw [find_create h, hkey, if_neg hk]

/-- An upsert with a fresh row succeeds: it patches the row at the key, or inserts the new one, and
leaves the other keys alone. -/
theorem find_upsert {t : Table Row} {k : Key} (f : Patch Row) {r : Row} (hkey : Schema.key r = k)
    (hid : ∀ r' ∈ t.rows, Schema.id r' ≠ Schema.id r) :
    ∃ t', t.upsert k f r = some t' ∧
      ∀ k', t'.find k' = if k' = k then some (((t.find k).map f.apply).getD r) else t.find k' := by
  rcases hfind : t.find k with _ | r₀
  · unfold upsert
    rw [hfind]
    rw [← hkey] at hfind
    obtain ⟨t', ht'⟩ := exists_create hid hfind
    refine ⟨t', ht', fun k' => ?_⟩
    rw [find_create ht', hkey]
    rfl
  · obtain ⟨t', ht', hpatched⟩ := upsert_of_find hfind f r
    refine ⟨t', ht', fun k' => ?_⟩
    by_cases hk : k' = k
    · rw [if_pos hk, hk, hpatched]
      rfl
    · rw [if_neg hk, find_upsert_of_ne hkey ht' hk]

/-! ## Writing a row that was looked up

A client that has looked its row up writes by the id it has found, and creates a row where it has found
none. The write fails where another client has been faster.
-/

/-- Two calls write a row at a unique key: the first looks for its primary key, the second updates the
row it found or creates one. -/
def write (t : Table Row) (existing : Option Id) (f : Patch Row) (r : Row) : Option (Table Row) :=
  match existing with
  | some i => t.update i f
  | none => t.create r

/-- What the first call has found is there. -/
def Found (t : Table Row) (k : Key) (existing : Option Id) : Prop :=
  ∀ i, existing = some i → ∃ r, t.find k = some r ∧ Schema.id r = i

variable {t t' : Table Row} {k : Key} {existing : Option Id} {f : Patch Row} {r : Row}

omit [DecidableEq Id] in
/-- Looking a key up finds what is there. -/
theorem found_find (t : Table Row) (k : Key) : t.Found k ((t.find k).map Schema.id) :=
  fun _ h => Option.map_eq_some_iff.mp h

/-- Where there is a row already, none is made. -/
theorem write_none_of_find {r₀ : Row} (hr₀ : t.find (Schema.key r) = some r₀) :
    t.write none f r = none :=
  create_of_find hr₀

/-- A write changes the row at its key only, and keeps the primary key of a row that is there. -/
theorem find_write (hkey : Schema.key r = k) (hfound : t.Found k existing)
    (h : t.write existing f r = some t') :
    (∃ r', t'.find k = some r' ∧ (r' = r ∨ ∃ r₀, r' = f.apply r₀)) ∧
      (∀ r₀, t.find k = some r₀ → t'.find k = some (f.apply r₀)) ∧
      ∀ k', k' ≠ k → t'.find k' = t.find k' := by
  rcases existing with _ | i
  · have hnew := find_create h
    rw [hkey] at hnew
    refine ⟨⟨r, by rw [hnew, if_pos rfl], .inl rfl⟩, fun r₀ hr₀ => ?_, fun k' hk' => ?_⟩
    · -- the row is there, so creating it again collides with the unique key
      rw [← hkey] at hr₀
      rw [write_none_of_find hr₀] at h
      cases h
    · rw [hnew, if_neg hk']
  · obtain ⟨r₀, hr₀, rfl⟩ := hfound i rfl
    obtain ⟨hr₀mem, rfl⟩ := find_eq_some_iff.mp hr₀
    obtain ⟨t'', ht'', hupdate⟩ := find_update hr₀mem f
    obtain rfl : t'' = t' := Option.some.inj (ht''.symm.trans h)
    refine ⟨⟨f.apply r₀, by rw [hupdate, if_pos rfl], .inr ⟨r₀, rfl⟩⟩, fun r₁ hr₁ => ?_,
      fun k' hk' => ?_⟩
    · rw [hr₀] at hr₁
      rw [hupdate, if_pos rfl, Option.some.inj hr₁]
    · rw [hupdate, if_neg hk']

/-- A row that was found stays there. -/
theorem Found.write {existing' : Option Id} (hexisting' : t.Found k existing')
    (hkey : Schema.key r = k) (hfound : t.Found k existing) (h : t.write existing f r = some t') :
    t'.Found k existing' := by
  intro i hi
  obtain ⟨r₀, hr₀, hid⟩ := hexisting' i hi
  obtain ⟨-, hpatched, -⟩ := find_write hkey hfound h
  exact ⟨f.apply r₀, hpatched r₀ hr₀, (f.id_apply r₀).trans hid⟩

/-- A write leaves every row that was found, at any key. -/
theorem Found.write_at {k' : Key} {existing' : Option Id} (hexisting' : t.Found k' existing')
    (hkey : Schema.key r = k) (hfound : t.Found k existing) (h : t.write existing f r = some t') :
    t'.Found k' existing' := by
  by_cases hk : k' = k
  · subst hk
    exact hexisting'.write hkey hfound h
  · obtain ⟨-, -, hothers⟩ := find_write hkey hfound h
    intro i hi
    rw [hothers k' hk]
    exact hexisting' i hi

/-- A row that was found can be updated. -/
theorem exists_write_of_found {i : Id} (hfound : t.Found k (some i)) (f : Patch Row) (r : Row) :
    ∃ t', t.write (some i) f r = some t' := by
  obtain ⟨r₀, hr₀, rfl⟩ := hfound i rfl
  obtain ⟨t', ht', -⟩ := find_update (find_eq_some_iff.mp hr₀).1 f
  exact ⟨t', ht'⟩

/-! ## Fresh keys

A number that no row has yet.
-/

/-- A primary key no row has. -/
def freshId {Row Key : Type} [Schema Row ℕ Key] (t : Table Row) : ℕ :=
  (t.rows.map Schema.id).sum + 1

/-- A new number is not that of any row. -/
theorem ne_freshId {Row Key : Type} [Schema Row ℕ Key] {t : Table Row} {r : Row}
    (hr : r ∈ t.rows) : Schema.id r ≠ t.freshId := by
  have hle : Schema.id r ≤ (t.rows.map Schema.id).sum :=
    List.le_sum_of_mem (List.mem_map_of_mem hr)
  unfold freshId
  omega

end Table

end Db
