import Mathlib.Data.List.Nodup
import Mathlib.Data.List.Perm.Subperm

/-!
# Pages of a list that is read again for each page

A reader takes a list page by page, and the list may come in another order for every page. The pages still
have as many elements as the list, so the only thing that can go wrong is that an element has its place on
two of them (`perm_flatMap_pageOf_iff`): whatever is missed, something else is read twice.
-/

namespace Paging

variable {α : Type*}

/-- The page number `k` of a list. -/
def pageOf (size k : ℕ) (xs : List α) : List α := (xs.drop (k * size)).take size

/-- How many pages a list of a length has. -/
def pageCount (size length : ℕ) : ℕ := (length + size - 1) / size

/-- There is a page of a number if the rows go on that far. -/
theorem lt_pageCount_iff {size length k : ℕ} (hsize : 0 < size) :
    k < pageCount size length ↔ k * size < length := by
  unfold pageCount
  rw [Nat.lt_iff_add_one_le, Nat.le_div_iff_mul_le hsize, Nat.add_mul]
  omega

/-- The pages of a list that stays in order are the list. -/
theorem flatMap_pageOf (size : ℕ) (xs : List α) (pages : ℕ) :
    ((List.range pages).flatMap fun k => pageOf size k xs) = xs.take (pages * size) := by
  induction pages with
  | zero => rw [Nat.zero_mul, List.take_zero, List.range_zero, List.flatMap_nil]
  | succ pages ih =>
    rw [List.range_succ, List.flatMap_append, ih, Nat.succ_mul, List.take_add, List.flatMap_singleton]
    rfl

/-- The pages of lists of one length are of one length. -/
theorem length_pageOf {xs ys : List α} (h : xs.length = ys.length) (size k : ℕ) :
    (pageOf size k xs).length = (pageOf size k ys).length := by
  unfold pageOf
  rw [List.length_take, List.length_take, List.length_drop, List.length_drop, h]

/-- Whatever the orders are, the pages have as many elements as the list. -/
theorem length_flatMap_pageOf {size : ℕ} (hsize : 0 < size) {xs : List α} {orders : ℕ → List α}
    (horders : ∀ k, (orders k).length = xs.length) :
    ((List.range (pageCount size xs.length)).flatMap fun k => pageOf size k (orders k)).length
      = xs.length := by
  have hcover : xs.length ≤ pageCount size xs.length * size := by
    have hlast : ¬ pageCount size xs.length * size < xs.length :=
      (lt_pageCount_iff hsize).not.mp (Nat.lt_irrefl _)
    omega
  have hsame : ∀ k ∈ List.range (pageCount size xs.length),
      (pageOf size k (orders k)).length = (pageOf size k xs).length :=
    fun k _ => length_pageOf (horders k) size k
  rw [List.length_flatMap, List.map_congr_left hsame, ← List.length_flatMap, flatMap_pageOf,
    List.take_of_length_le hcover]

/-- A page repeats nothing that the list does not repeat. -/
theorem nodup_pageOf {xs : List α} (hnodup : xs.Nodup) (size k : ℕ) : (pageOf size k xs).Nodup :=
  (hnodup.sublist (List.drop_sublist _ xs)).sublist (List.take_sublist _ _)

variable [DecidableEq α]

/-- An element is on the page that its place is on. -/
theorem mem_pageOf_iff {size k : ℕ} (hsize : 0 < size) {xs : List α} (hnodup : xs.Nodup) {x : α} :
    x ∈ pageOf size k xs ↔ x ∈ xs ∧ xs.idxOf x / size = k := by
  unfold pageOf
  rw [List.mem_take_iff_getElem]
  constructor
  · rintro ⟨i, hi, rfl⟩
    rw [List.length_drop] at hi
    have hlt : k * size + i < xs.length := by omega
    rw [List.getElem_drop]
    refine ⟨List.getElem_mem hlt, ?_⟩
    rw [List.Nodup.idxOf_getElem hnodup _ hlt, Nat.mul_comm, Nat.mul_add_div hsize,
      Nat.div_eq_of_lt (by omega), Nat.add_zero]
  · rintro ⟨hx, rfl⟩
    have hlt := List.idxOf_lt_length_of_mem hx
    have hplace := Nat.div_add_mod (xs.idxOf x) size
    have hrest := Nat.mod_lt (xs.idxOf x) hsize
    rw [Nat.mul_comm] at hplace
    refine ⟨xs.idxOf x % size, ?_, ?_⟩
    · rw [List.length_drop]
      omega
    · rw [List.getElem_drop]
      simp only [hplace]
      exact List.getElem_idxOf hlt

/-- Pages of changing orders have every element once exactly when no element has its place on two of
them. -/
theorem perm_flatMap_pageOf_iff {size : ℕ} (hsize : 0 < size) {xs : List α} (hnodup : xs.Nodup)
    {orders : ℕ → List α} (horders : ∀ k, (orders k).Perm xs) :
    ((List.range (pageCount size xs.length)).flatMap fun k => pageOf size k (orders k)).Perm xs ↔
      ∀ j k, j < pageCount size xs.length → k < pageCount size xs.length → j ≠ k → ∀ x ∈ xs,
        ¬((orders j).idxOf x / size = j ∧ (orders k).idxOf x / size = k) := by
  -- an entry is on the page that its position in the page's own order falls on
  have hmem : ∀ k x, x ∈ pageOf size k (orders k) ↔ x ∈ xs ∧ (orders k).idxOf x / size = k := by
    intro k x
    rw [mem_pageOf_iff hsize ((horders k).nodup_iff.mpr hnodup), (horders k).mem_iff]
  constructor
  · intro hperm j k hj hk hne x hx ⟨hxj, hxk⟩
    have hdisjoint := (List.nodup_flatMap.mp (hperm.nodup_iff.mpr hnodup)).2
    have hpair := List.pairwise_iff_getElem.mp hdisjoint
    rcases Nat.lt_or_gt_of_ne hne with hlt | hlt
    · have h := hpair j k (by simpa using hj) (by simpa using hk) hlt
      simp only [List.getElem_range, Function.onFun] at h
      exact h ((hmem j x).mpr ⟨hx, hxj⟩) ((hmem k x).mpr ⟨hx, hxk⟩)
    · have h := hpair k j (by simpa using hk) (by simpa using hj) hlt
      simp only [List.getElem_range, Function.onFun] at h
      exact h ((hmem k x).mpr ⟨hx, hxk⟩) ((hmem j x).mpr ⟨hx, hxj⟩)
  · intro h
    have hpages : ((List.range (pageCount size xs.length)).flatMap
        fun k => pageOf size k (orders k)).Nodup := by
      refine List.nodup_flatMap.mpr ⟨fun k _ => ?_, ?_⟩
      · exact nodup_pageOf ((horders k).nodup_iff.mpr hnodup) size k
      · refine List.nodup_range.imp_of_mem fun {j k} hj hk hne x hxj hxk => ?_
        rw [List.mem_range] at hj hk
        exact h j k hj hk hne x ((hmem j x).mp hxj).1 ⟨((hmem j x).mp hxj).2, ((hmem k x).mp hxk).2⟩
    have hsubset : ((List.range (pageCount size xs.length)).flatMap
        fun k => pageOf size k (orders k)) ⊆ xs := by
      intro x hx
      obtain ⟨k, -, hxk⟩ := List.mem_flatMap.mp hx
      exact ((hmem k x).mp hxk).1
    -- no entry twice, none from elsewhere, and as many as there are
    refine (List.subperm_of_subset hpages hsubset).perm_of_length_le ?_
    exact Nat.le_of_eq (length_flatMap_pageOf hsize fun k => (horders k).length_eq).symm

end Paging
