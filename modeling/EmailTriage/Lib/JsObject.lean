import EmailTriage.Lib.JsNumber
import EmailTriage.Lib.Keyed
import Mathlib.Data.List.Sort

/-!
# Maps as objects

JavaScript programs copy a `Map` into an object to store it, and the properties of the object back into a
`Map`. The own properties of an object are entries with different keys, as those of a map are, but the key
`__proto__` is none of them: it sets the prototype. `find_toObject` and `find_ofObject` say what each copy
holds.

## The order of the properties

A map has its entries in the order in which they were added, an object has not: the keys that spell an
array index come first, in ascending order, and only the others come as they were added
(`indexedFirst`). `pairwise_indexedFirst` says where that fixes the order of two properties, and
`filter_indexedFirst` that the others keep theirs.
-/

namespace Js

variable {α β : Type*}

/-- A `Map` from strings. -/
abbrev StringMap (α : Type*) := Keyed (Prod.fst : String × α → String)

/-- The own properties of an object. -/
abbrev Object (α : Type*) := Keyed (Prod.fst : String × α → String)

/-- `object[key] = value`. -/
def Object.set (o : Object α) (key : String) (value : α) : Object α :=
  if key ≠ "__proto__" then o.put (key, value) else o

/-- The object with the entries of a map, each value converted. -/
def toObject (f : α → β) (m : StringMap α) : Object β :=
  m.items.foldl (fun o item => Object.set o item.1 (f item.2)) .empty

/-- The map with the properties of an object, each value converted. -/
def ofObject (f : β → α) (o : Object β) : StringMap α :=
  o.items.foldl (fun m item => m.put (item.1, f item.2)) .empty

/-- Converted entries with different keys are put in their order. -/
theorem items_foldl_put_map {l : List (String × α)} (h : (l.map Prod.fst).Nodup) (f : α → β) :
    ((l.map fun item => (item.1, f item.2)).foldl Keyed.put (.empty : StringMap β)).items =
      l.map fun item => (item.1, f item.2) := by
  rw [Keyed.items_foldl_put]
  · rfl
  · rw [Keyed.empty, List.nil_append, List.map_map]
    exact h

/-- An object has the items of the map, but for the one that names its prototype. -/
theorem items_toObject (f : α → β) (m : StringMap α) : (toObject f m).items =
    (m.items.filter (·.1 ≠ "__proto__")).map fun item => (item.1, f item.2) := by
  have hfold : toObject f m = ((m.items.filter (·.1 ≠ "__proto__")).map fun item =>
      (item.1, f item.2)).foldl Keyed.put .empty := by
    rw [List.foldl_map, List.foldl_filter]
    simp only [decide_eq_true_eq]
    rfl
  rw [hfold]
  exact items_foldl_put_map ((List.filter_sublist.map Prod.fst).nodup m.nodup) f

/-- A map has the items of the object. -/
theorem items_ofObject (f : β → α) (o : Object β) :
    (ofObject f o).items = o.items.map fun item => (item.1, f item.2) := by
  have hfold : ofObject f o = (o.items.map fun item => (item.1, f item.2)).foldl Keyed.put .empty := by
    rw [List.foldl_map]
    rfl
  rw [hfold]
  exact items_foldl_put_map o.nodup f

/-- A property of the object is an item of the map. -/
theorem mem_toObject {f : α → β} {m : StringMap α} {property : String × β} :
    property ∈ (toObject f m).items ↔
      ∃ item ∈ m.items, item.1 ≠ "__proto__" ∧ (item.1, f item.2) = property := by
  rw [items_toObject, List.mem_map]
  simp only [List.mem_filter, decide_eq_true_eq, and_assoc]

/-- The object has the entries of the map, but for the key that sets the prototype. -/
theorem find_toObject (f : α → β) (m : StringMap α) (k : String) : (toObject f m).find k =
    if k = "__proto__" then none else (m.find k).map fun item => (item.1, f item.2) := by
  by_cases hk : k = "__proto__"
  · rw [if_pos hk]
    refine List.find?_eq_none.mpr fun property hproperty hkey => ?_
    obtain ⟨item, -, hnot, rfl⟩ := mem_toObject.mp hproperty
    exact hnot ((of_decide_eq_true hkey).trans hk)
  · rw [if_neg hk]
    rcases hfind : m.find k with _ | item
    · refine List.find?_eq_none.mpr fun property hproperty hkey => ?_
      obtain ⟨item, hitem, -, rfl⟩ := mem_toObject.mp hproperty
      exact List.find?_eq_none.mp hfind item hitem hkey
    · have hkey := Keyed.key_of_find hfind
      rw [← hkey]
      exact Keyed.find_of_mem (mem_toObject.mpr ⟨item, Keyed.mem_of_find hfind, hkey.trans_ne hk, rfl⟩)

/-- The map has the properties of the object. -/
theorem find_ofObject (f : β → α) (o : Object β) (k : String) :
    (ofObject f o).find k = (o.find k).map fun item => (item.1, f item.2) :=
  Keyed.find_of_items_map (items_ofObject f o) (fun _ => rfl) k

/-! ## The order of the properties

An object enumerates the properties whose names are array indices first, in ascending order, and then the
others as they were added. A map enumerates everything as it was added, so a detour through an object can
move items past each other, but only such items.
-/

/-- The array index that a key spells. -/
def arrayIndex (key : String) : Option ℕ :=
  (decimal key).filter fun n => n.repr = key ∧ n < 4294967295

/-- The properties as `Object.entries` lists them, when they were added in this order. -/
def indexedFirst (items : List (String × α)) : List (String × α) :=
  (items.filter fun item => (arrayIndex item.1).isSome).insertionSort
      (fun a b => (arrayIndex a.1).getD 0 ≤ (arrayIndex b.1).getD 0) ++
    items.filter fun item => (arrayIndex item.1).isNone

/-- Different keys spell different indices. -/
theorem arrayIndex_inj {a b : String} {n : ℕ} (ha : arrayIndex a = some n) (hb : arrayIndex b = some n) :
    a = b := by
  have hspells : ∀ {key : String}, arrayIndex key = some n → n.repr = key := fun h =>
    (of_decide_eq_true (Option.filter_eq_some_iff.mp h).2).1
  exact (hspells ha).symm.trans (hspells hb)

/-- All properties are listed. -/
theorem indexedFirst_perm (items : List (String × α)) : (indexedFirst items).Perm items := by
  refine ((List.perm_insertionSort _ _).append_right _).trans ?_
  have hsplit := List.filter_append_perm (fun item : String × α => (arrayIndex item.1).isSome) items
  have hnone : (fun item : String × α => !(arrayIndex item.1).isSome) =
      fun item => (arrayIndex item.1).isNone := by
    funext item
    exact Option.not_isSome _
  rwa [hnone] at hsplit

/-- The sorted part has the properties with an index. -/
theorem isSome_of_mem_insertionSort {items : List (String × α)} {r : String × α → String × α → Prop}
    [DecidableRel r] {item : String × α}
    (h : item ∈ (items.filter fun item => (arrayIndex item.1).isSome).insertionSort r) :
    (arrayIndex item.1).isSome = true :=
  (List.mem_filter.mp ((List.mem_insertionSort r).mp h)).2

/-- Before an index there are only smaller ones. -/
theorem pairwise_indexedFirst {items : List (String × α)} (h : (items.map Prod.fst).Nodup) :
    (indexedFirst items).Pairwise fun a b => ∀ n, arrayIndex b.1 = some n →
      ∃ m, arrayIndex a.1 = some m ∧ m < n := by
  have hdifferent : (indexedFirst items).Pairwise fun a b => a.1 ≠ b.1 :=
    List.pairwise_map.mp (((indexedFirst_perm items).map Prod.fst).nodup_iff.mpr h)
  unfold indexedFirst at hdifferent ⊢
  obtain ⟨hsorted, -, -⟩ := List.pairwise_append.mp hdifferent
  have hlast : ∀ b ∈ items.filter fun item => (arrayIndex item.1).isNone, ∀ n, arrayIndex b.1 ≠ some n := by
    intro b hb n hn
    have hnone := (List.mem_filter.mp hb).2
    rw [hn] at hnone
    cases hnone
  refine List.pairwise_append.mpr ⟨?_, ?_, ?_⟩
  · refine List.Pairwise.imp_of_mem ?_ (hsorted.and (List.pairwise_insertionSort
      (fun a b : String × α => (arrayIndex a.1).getD 0 ≤ (arrayIndex b.1).getD 0) _))
    rintro a b ha - ⟨hne, hle⟩ n hn
    obtain ⟨m, hm⟩ := Option.isSome_iff_exists.mp (isSome_of_mem_insertionSort ha)
    rw [hm, hn] at hle
    refine ⟨m, hm, Nat.lt_of_le_of_ne hle ?_⟩
    rintro rfl
    exact hne (arrayIndex_inj hm hn)
  · exact List.pairwise_of_forall_mem_list fun a _ b hb n hn => absurd hn (hlast b hb n)
  · exact fun a _ b hb n hn => absurd hn (hlast b hb n)

/-- The properties without an index are listed as they were added. -/
theorem filter_indexedFirst (items : List (String × α)) :
    (indexedFirst items).filter (fun item => (arrayIndex item.1).isNone) =
      items.filter fun item => (arrayIndex item.1).isNone := by
  unfold indexedFirst
  rw [List.filter_append, List.filter_filter]
  have hsorted : ((items.filter fun item => (arrayIndex item.1).isSome).insertionSort
      (fun a b => (arrayIndex a.1).getD 0 ≤ (arrayIndex b.1).getD 0)).filter
        (fun item => (arrayIndex item.1).isNone) = [] := by
    refine List.filter_eq_nil_iff.mpr fun item hitem hnone => ?_
    have hsome := isSome_of_mem_insertionSort hitem
    rw [Option.isNone_iff_eq_none.mp hnone] at hsome
    cases hsome
  rw [hsorted, List.nil_append]
  simp only [Bool.and_self]

/-- The object whose properties are listed so. -/
def Object.enumerated (o : Object α) : Object α where
  items := indexedFirst o.items
  nodup := ((indexedFirst_perm o.items).map Prod.fst).nodup_iff.mpr o.nodup

end Js
