import Mathlib.Algebra.BigOperators.Group.Finset.Basic
import Mathlib.Data.List.Nodup

/-!
# Lists with one entry for each key

An insertion-ordered map, as JavaScript programs keep it: a `Map`, or an array whose entries are
looked up by one of their fields. `put` replaces the entry at a key in place and appends a new one.
`find_foldl_put` says what any number of `put` leaves, and `sum_items` sums up the entries key by key.
-/

/-- A list of entries with pairwise different keys. -/
structure Keyed {α κ : Type*} (key : α → κ) where
  items : List α
  nodup : (items.map key).Nodup

namespace Keyed

variable {α κ : Type*} {key : α → κ}

@[ext] theorem ext {m m' : Keyed key} (h : m.items = m'.items) : m = m' := by
  cases m
  cases m'
  simpa using h

/-- The map without entries. -/
def empty : Keyed key := ⟨[], List.nodup_nil⟩

variable [DecidableEq κ]

/-- The entry at a key. -/
def find (m : Keyed key) (k : κ) : Option α := m.items.find? fun a => key a = k

/-- Replace the entry that has the key of `a`, or append `a`. -/
def put (m : Keyed key) (a : α) : Keyed key :=
  if h : ∃ b ∈ m.items, key b = key a then
    { items := m.items.map fun b => if key b = key a then a else b
      nodup := by
        have hkeys : (m.items.map fun b => if key b = key a then a else b).map key
            = m.items.map key := by
          rw [List.map_map]
          refine List.map_congr_left fun b _ => ?_
          by_cases hb : key b = key a <;> simp [hb]
        rw [hkeys]
        exact m.nodup }
  else
    { items := m.items ++ [a]
      nodup := by
        rw [List.map_append, List.nodup_append]
        refine ⟨m.nodup, by simp, ?_⟩
        intro k hk k' hk' heq
        obtain ⟨b, hb, rfl⟩ := List.mem_map.mp hk
        simp only [List.map_cons, List.map_nil, List.mem_singleton] at hk'
        exact h ⟨b, hb, by rw [heq, hk']⟩ }

/-- Remove the entry at a key. -/
def delete (m : Keyed key) (k : κ) : Keyed key where
  items := m.items.filter fun a => key a ≠ k
  nodup := (List.filter_sublist.map key).nodup m.nodup

/-- What is found has the key that was looked for. -/
theorem key_of_find {m : Keyed key} {k : κ} {a : α} (h : m.find k = some a) : key a = k := by
  have hk := List.find?_some h
  simpa using hk

/-- What is found is one of the items. -/
theorem mem_of_find {m : Keyed key} {k : κ} {a : α} (h : m.find k = some a) : a ∈ m.items :=
  List.mem_of_find?_eq_some h

/-- An entry is found at its own key. -/
theorem find_of_mem {m : Keyed key} {a : α} (h : a ∈ m.items) : m.find (key a) = some a := by
  rcases hfind : m.find (key a) with _ | b
  · have hnone := List.find?_eq_none.mp hfind a h
    simp at hnone
  · have hkey := key_of_find hfind
    rw [List.inj_on_of_nodup_map m.nodup (mem_of_find hfind) h hkey]

/-- `put` sets the entry at the key of `a` and leaves the others alone. -/
theorem find_put (m : Keyed key) (a : α) (k : κ) :
    (m.put a).find k = if k = key a then some a else m.find k := by
  unfold put
  split
  · next h =>
    -- the entry that is replaced keeps its place, and its key
    have hkey : ∀ b, (decide (key (if key b = key a then a else b) = k)) = decide (key b = k) := by
      intro b
      by_cases hb : key b = key a <;> simp [hb]
    simp only [find, List.find?_map, Function.comp_def, hkey]
    by_cases hk : k = key a
    · rw [if_pos hk]
      obtain ⟨b, hb, hbkey⟩ := h
      have hfind := find_of_mem hb
      rw [hbkey, ← hk] at hfind
      rw [show List.find? (fun b => decide (key b = k)) m.items = some b from hfind]
      simp [hbkey]
    · rw [if_neg hk]
      rcases hfind : List.find? (fun b => decide (key b = k)) m.items with _ | b
      · rfl
      · have hb : key b = k := by simpa using List.find?_some hfind
        have hne : key b ≠ key a := fun heq => hk (by rw [← hb, heq])
        rw [Option.map_some, if_neg hne]
  · next h =>
    simp only [find, List.find?_append]
    by_cases hk : k = key a
    · have hnone : List.find? (fun b => decide (key b = k)) m.items = none := by
        rw [List.find?_eq_none]
        intro b hb hbk
        exact h ⟨b, hb, by rw [← hk]; simpa using hbk⟩
      rw [hnone, if_pos hk]
      simp [hk]
    · have hne : key a ≠ k := fun heq => hk heq.symm
      simp [hk, hne]

/-- `delete` removes the entry at its key and leaves the others alone. -/
theorem find_delete (m : Keyed key) (k k' : κ) :
    (m.delete k).find k' = if k' = k then none else m.find k' := by
  unfold delete find
  rw [List.find?_filter]
  by_cases hk : k' = k
  · rw [if_pos hk]
    refine List.find?_eq_none.mpr fun a _ ha => ?_
    obtain ⟨hne, hkey⟩ := of_decide_eq_true ha
    exact of_decide_eq_true hne ((of_decide_eq_true hkey).trans hk)
  · rw [if_neg hk]
    refine congrArg (List.find? · m.items) (funext fun a => ?_)
    rw [decide_eq_decide, decide_eq_true_iff, decide_eq_true_iff]
    exact and_iff_right_of_imp fun ha h => hk (ha.symm.trans h)

/-- The entries after `put`: the new one, and those at other keys. -/
theorem mem_put {m : Keyed key} {a b : α} :
    b ∈ (m.put a).items ↔ b = a ∨ (b ∈ m.items ∧ key b ≠ key a) := by
  have hfind := find_put m a (key b)
  constructor
  · intro hb
    rw [find_of_mem hb] at hfind
    split at hfind
    · exact .inl (Option.some.inj hfind)
    · next hkey => exact .inr ⟨mem_of_find hfind.symm, hkey⟩
  · rintro (rfl | ⟨hb, hkey⟩)
    · rw [if_pos rfl] at hfind
      exact mem_of_find hfind
    · rw [if_neg hkey, find_of_mem hb] at hfind
      exact mem_of_find hfind

/-- After any number of `put`, a key has the last entry that was put there. -/
theorem find_foldl_put (m : Keyed key) (as : List α) (k : κ) :
    (as.foldl put m).find k = ((as.filter fun a => key a = k).getLast?).or (m.find k) := by
  induction as generalizing m with
  | nil => rfl
  | cons a as ih =>
    rw [List.foldl_cons, ih, find_put, List.filter_cons]
    by_cases hk : key a = k
    · rw [if_pos hk.symm, if_pos (decide_eq_true hk), List.getLast?_cons, Option.some_or]
      rcases (as.filter fun a => key a = k).getLast? with _ | b
      · rfl
      · rfl
    · rw [if_neg (Ne.symm hk), if_neg fun h => hk (of_decide_eq_true h)]

/-- A key has an entry after any number of `put` if one was put there, or was there. -/
theorem isSome_find_foldl_put {m : Keyed key} {as : List α} {k : κ} :
    ((as.foldl put m).find k).isSome = true ↔ (∃ a ∈ as, key a = k) ∨ (m.find k).isSome = true := by
  rw [find_foldl_put, Option.isSome_or, Bool.or_eq_true]
  refine or_congr_left ?_
  rw [List.getLast?_isSome, Ne, List.filter_eq_nil_iff]
  simp only [decide_eq_true_eq, not_forall, not_not, exists_prop]

/-- `put` appends an entry whose key is new. -/
theorem items_put_of_new {m : Keyed key} {a : α} (h : key a ∉ m.items.map key) :
    (m.put a).items = m.items ++ [a] := by
  unfold put
  rw [dif_neg]
  rintro ⟨b, hb, hkey⟩
  exact h (hkey ▸ List.mem_map_of_mem hb)

/-- Entries with different new keys are appended in their order. -/
theorem items_foldl_put {m : Keyed key} {as : List α} (h : ((m.items ++ as).map key).Nodup) :
    (as.foldl put m).items = m.items ++ as := by
  induction as generalizing m with
  | nil => rw [List.foldl_nil, List.append_nil]
  | cons a as ih =>
    have hnew : (m.put a).items = m.items ++ [a] := by
      refine items_put_of_new fun hmem => ?_
      rw [List.map_append, List.nodup_append] at h
      exact h.2.2 _ hmem _ List.mem_cons_self rfl
    have hitems : (m.put a).items ++ as = m.items ++ a :: as := by
      rw [hnew, List.append_assoc, List.singleton_append]
    rw [List.foldl_cons, ih (hitems ▸ h), hitems]

/-- Maps with the same entries in another order find the same. -/
theorem find_perm {m m' : Keyed key} (h : m.items.Perm m'.items) (k : κ) : m.find k = m'.find k := by
  rcases hfind : m'.find k with _ | a
  · refine List.find?_eq_none.mpr fun b hb => ?_
    exact List.find?_eq_none.mp hfind b (h.mem_iff.mp hb)
  · rw [← key_of_find hfind]
    exact find_of_mem (h.mem_iff.mpr (mem_of_find hfind))

/-- A map whose entries are those of another, changed under their keys. -/
theorem find_of_items_map {β : Type*} {key' : β → κ} {m : Keyed key} {m' : Keyed key'} {f : α → β}
    (hitems : m'.items = m.items.map f) (hkey : ∀ a, key' (f a) = key a) (k : κ) :
    m'.find k = (m.find k).map f := by
  unfold find
  rw [hitems, List.find?_map]
  simp only [Function.comp_def, hkey]

/-- The sum over the entries, taken over the keys. -/
theorem sum_items [Fintype κ] {M : Type*} [AddCommMonoid M] (m : Keyed key) (f : α → M) :
    (m.items.map f).sum = ∑ k, ((m.find k).map f).getD 0 := by
  have hitems : (m.items.map f).sum = ((m.items.map key).map fun k => ((m.find k).map f).getD 0).sum := by
    rw [List.map_map]
    refine congrArg List.sum (List.map_congr_left fun a ha => ?_)
    rw [Function.comp_apply, find_of_mem ha]
    rfl
  rw [hitems, ← List.sum_toFinset _ m.nodup]
  refine Finset.sum_subset (Finset.subset_univ _) fun k _ hk => ?_
  have hnone : m.find k = none := by
    refine List.find?_eq_none.mpr fun a ha hkey => hk ?_
    rw [List.mem_toFinset]
    exact List.mem_map.mpr ⟨a, ha, of_decide_eq_true hkey⟩
  rw [hnone]
  rfl

end Keyed
