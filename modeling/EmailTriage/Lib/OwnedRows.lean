import EmailTriage.Lib.Table

/-!
# Rows with an owner

Where every row of a table has an owner, a call that names its owner in the condition sees the rows of
that owner only and changes no others. `SameOwned a t t'` says that two tables have the same rows of the
owner `a`, in whatever order and whatever else they hold, and `SameOthers a t t'` that they have the same
rows of everyone else.

The lemmas say, call by call, that a call in the name of `a` does the same on two tables with the same
rows of `a`, and leaves the rows of others alone.
-/

namespace Db

/-- The owner of a row. -/
class HasOwner (Row : Type) (Owner : outParam Type) where
  owner : Row → Owner

export HasOwner (owner)

variable {Row Id Key Owner : Type} [Schema Row Id Key] [HasOwner Row Owner]

namespace Table

/-- Two tables have the same rows of an owner. -/
def SameOwned (a : Owner) (t t' : Table Row) : Prop :=
  ∀ r : Row, owner r = a → (r ∈ t.rows ↔ r ∈ t'.rows)

/-- Two tables have the same rows of everyone but an owner. -/
def SameOthers (a : Owner) (t t' : Table Row) : Prop :=
  ∀ r : Row, owner r ≠ a → (r ∈ t.rows ↔ r ∈ t'.rows)

variable {a : Owner} {t t' : Table Row} {p : Row → Bool} {f : Patch Row} {r : Row}

/-- A table has the rows of the others that it has. -/
theorem SameOthers.refl {t : Table Row} : t.SameOthers a t := fun _ _ => Iff.rfl

/-- Two changes that leave the rows of the others. -/
theorem SameOthers.trans {t'' : Table Row} (h : t.SameOthers a t') (h' : t'.SameOthers a t'') :
    t.SameOthers a t'' :=
  fun r hr => (h r hr).trans (h' r hr)

/-- The matching rows, where only rows of an owner match. -/
theorem SameOwned.perm (h : t.SameOwned a t') (hp : ∀ r ∈ t.rows, p r = true → owner r = a)
    (hp' : ∀ r ∈ t'.rows, p r = true → owner r = a) : (t.findMany p).Perm (t'.findMany p) := by
  refine (List.perm_ext_iff_of_nodup ?_ ?_).mpr fun r => ?_
  · exact (List.Nodup.of_map _ t.id_nodup).filter _
  · exact (List.Nodup.of_map _ t'.id_nodup).filter _
  · unfold findMany
    rw [List.mem_filter, List.mem_filter]
    constructor
    · rintro ⟨hmem, hmatch⟩
      exact ⟨(h r (hp r hmem hmatch)).mp hmem, hmatch⟩
    · rintro ⟨hmem, hmatch⟩
      exact ⟨(h r (hp' r hmem hmatch)).mpr hmem, hmatch⟩

/-- The row at a key, where only rows of an owner have it. -/
theorem SameOwned.find [DecidableEq Key] (h : t.SameOwned a t') {k : Key}
    (hk : ∀ r ∈ t.rows, Schema.key r = k → owner r = a)
    (hk' : ∀ r ∈ t'.rows, Schema.key r = k → owner r = a) : t.find k = t'.find k := by
  refine Option.ext fun r => ?_
  rw [find_eq_some_iff, find_eq_some_iff]
  constructor
  · rintro ⟨hmem, hkey⟩
    exact ⟨(h r (hk r hmem hkey)).mp hmem, hkey⟩
  · rintro ⟨hmem, hkey⟩
    exact ⟨(h r (hk' r hmem hkey)).mpr hmem, hkey⟩

/-! ## Updates

An update that is limited to the rows of an owner leaves the rows of the others, and does the same to two
tables that agree on the owner's rows.
-/

/-- The rows after an update of rows of an owner. -/
theorem mem_updateMany_of_owner (hp : ∀ r ∈ t.rows, p r = true → owner r = a)
    (hf : ∀ r, owner (f.apply r) = owner r) (hr : owner r ≠ a) :
    r ∈ (t.updateMany p f).rows ↔ r ∈ t.rows := by
  unfold updateMany
  rw [List.mem_map]
  constructor
  · rintro ⟨r₀, hr₀, rfl⟩
    by_cases hmatch : p r₀ = true
    · rw [if_pos hmatch, hf] at hr
      exact absurd (hp r₀ hr₀ hmatch) hr
    · rw [if_neg hmatch]
      exact hr₀
  · intro hmem
    exact ⟨r, hmem, if_neg fun hmatch => hr (hp r hmem hmatch)⟩

/-- An update of rows of an owner leaves the other rows alone. -/
theorem sameOthers_updateMany (hp : ∀ r ∈ t.rows, p r = true → owner r = a)
    (hf : ∀ r, owner (f.apply r) = owner r) : t.SameOthers a (t.updateMany p f) :=
  fun _ hr => (mem_updateMany_of_owner hp hf hr).symm

/-- An update does the same to the rows of an owner in both tables. -/
theorem SameOwned.updateMany (h : t.SameOwned a t') (hf : ∀ r, owner (f.apply r) = owner r) :
    (t.updateMany p f).SameOwned a (t'.updateMany p f) := by
  intro r hr
  unfold Table.updateMany
  rw [List.mem_map, List.mem_map]
  refine exists_congr fun r₀ => and_congr_left ?_
  rintro rfl
  have howner : owner r₀ = a := by
    by_cases hmatch : p r₀ = true
    · rw [if_pos hmatch, hf] at hr
      exact hr
    · rw [if_neg hmatch] at hr
      exact hr
  exact h r₀ howner

/-- An update of a row of an owner by its primary key. -/
theorem SameOwned.update [DecidableEq Id] (h : t.SameOwned a t') (hr : r ∈ t.rows)
    (howner : owner r = a) (hf : ∀ r, owner (f.apply r) = owner r) :
    ∃ t₁ t₁', t.update (Schema.id r) f = some t₁ ∧ t'.update (Schema.id r) f = some t₁' ∧
      t₁.SameOwned a t₁' ∧ t.SameOthers a t₁ := by
  have hr' := (h r howner).mp hr
  refine ⟨_, _, update_of_mem hr f, update_of_mem hr' f, h.updateMany hf,
    sameOthers_updateMany (fun r₁ hr₁ hid => ?_) hf⟩
  rw [eq_of_id_eq hr₁ hr (of_decide_eq_true hid)]
  exact howner

/-! ## Insertions

So does an insertion of a row of the owner, if its id is new in both tables.
-/

variable [DecidableEq Id] [DecidableEq Key]

/-- A new row of an owner leaves the rows of the others. -/
theorem sameOthers_create {t₁ : Table Row} (howner : owner r = a) (h : t.create r = some t₁) :
    t.SameOthers a t₁ := by
  intro r' hr'
  rw [mem_create h]
  refine (or_iff_left ?_).symm
  rintro rfl
  exact hr' howner

/-- An insertion of a row of an owner, with a fresh primary key, fails in both tables or in neither. -/
theorem SameOwned.create (h : t.SameOwned a t') (howner : owner r = a)
    (hkey : ∀ r' ∈ t.rows, Schema.key r' = Schema.key r → owner r' = a)
    (hkey' : ∀ r' ∈ t'.rows, Schema.key r' = Schema.key r → owner r' = a)
    (hid : ∀ r' ∈ t.rows, Schema.id r' ≠ Schema.id r)
    (hid' : ∀ r' ∈ t'.rows, Schema.id r' ≠ Schema.id r) :
    (t.create r = none ∧ t'.create r = none) ∨
      ∃ t₁ t₁', t.create r = some t₁ ∧ t'.create r = some t₁' ∧ t₁.SameOwned a t₁' ∧
        t.SameOthers a t₁ := by
  have hfind := h.find hkey hkey'
  rcases hr : t.find (Schema.key r) with _ | r₀
  · rw [hr] at hfind
    obtain ⟨t₁, ht₁⟩ := exists_create hid hr
    obtain ⟨t₁', ht₁'⟩ := exists_create hid' hfind.symm
    refine .inr ⟨t₁, t₁', ht₁, ht₁', fun r' hr' => ?_, sameOthers_create howner ht₁⟩
    rw [mem_create ht₁, mem_create ht₁', h r' hr']
  · rw [hr] at hfind
    exact .inl ⟨create_of_find hr, create_of_find hfind.symm⟩

end Table

end Db
