import Mathlib.Data.List.Chain
import Mathlib.Order.Lattice

/-!
# Intervals back to back

Closed intervals, each of which begins where the one before it ends. A point that is the end of one of
them and the beginning of the next belongs to both, and every other point from the first beginning to
the last end to exactly one. `countP_contains_eq_one_iff` says so of any number of intervals, some of
which may be single points.
-/

namespace Intervals

variable {α β : Type*} [LinearOrder α] {lo hi : β → α}

/-- Whether a point is in the closed interval of `b`. -/
def Contains (lo hi : β → α) (t : α) (b : β) : Prop := lo b ≤ t ∧ t ≤ hi b

instance (lo hi : β → α) (t : α) (b : β) : Decidable (Contains lo hi t b) :=
  inferInstanceAs (Decidable (_ ∧ _))

/-- Each interval begins where the one before it ends, and ends no earlier than it begins. -/
structure BackToBack (lo hi : β → α) (l : List β) : Prop where
  ordered : ∀ b ∈ l, lo b ≤ hi b
  chained : l.IsChain fun a b => hi a = lo b

variable {a : β} {l : List β} {t : α}

/-- The later intervals are back to back. -/
theorem BackToBack.tail (h : BackToBack lo hi (a :: l)) : BackToBack lo hi l :=
  ⟨fun b hb => h.ordered b (List.mem_cons_of_mem a hb), h.chained.tail⟩

/-- The first interval ends before the others begin. -/
theorem BackToBack.hi_le_lo (h : BackToBack lo hi (a :: l)) {b : β} (hb : b ∈ l) : hi a ≤ lo b := by
  induction l generalizing a with
  | nil => cases hb
  | cons c l ih =>
    have hac : hi a = lo c := (List.isChain_cons_cons.mp h.chained).1
    rcases List.mem_cons.mp hb with rfl | hb
    · exact hac.le
    · calc hi a = lo c := hac
        _ ≤ hi c := h.ordered c (List.mem_cons_of_mem a List.mem_cons_self)
        _ ≤ lo b := ih h.tail hb

/-- A point before the end of the first interval is in none of the others. -/
theorem BackToBack.not_contains (h : BackToBack lo hi (a :: l)) (ht : t < hi a) {b : β} (hb : b ∈ l) :
    ¬Contains lo hi t b :=
  fun hc => absurd (ht.trans_le (h.hi_le_lo hb)) (not_lt.mpr hc.1)

/-- A point behind the first interval that is not behind all of them is not behind all others. -/
theorem exists_of_gt (h : ∃ b ∈ a :: l, t ≤ hi b) (ht : hi a < t) : ∃ b ∈ l, t ≤ hi b := by
  obtain ⟨b, hb, hbt⟩ := h
  rcases List.mem_cons.mp hb with rfl | hb
  · exact absurd hbt (not_le.mpr ht)
  · exact ⟨b, hb, hbt⟩

/-- Between the first beginning and the last end, a point is in exactly one interval unless one of the
later intervals begins there. -/
theorem countP_contains_eq_one_iff (h : BackToBack lo hi (a :: l)) (hlo : lo a ≤ t)
    (hhi : ∃ b ∈ a :: l, t ≤ hi b) :
    ((a :: l).countP fun b => Contains lo hi t b) = 1 ↔ ∀ b ∈ l, lo b ≠ t := by
  induction l generalizing a with
  | nil =>
    obtain ⟨b, hb, hbt⟩ := hhi
    obtain rfl := List.mem_singleton.mp hb
    refine iff_of_true ?_ fun c hc => by cases hc
    rw [List.countP_cons, List.countP_nil, if_pos (decide_eq_true ⟨hlo, hbt⟩)]
  | cons c l ih =>
    have hac : hi a = lo c := (List.isChain_cons_cons.mp h.chained).1
    rw [List.countP_cons]
    rcases lt_trichotomy t (hi a) with ht | ht | ht
    · -- before the end of the first one
      have hnone : ((c :: l).countP fun b => Contains lo hi t b) = 0 :=
        List.countP_eq_zero.mpr fun b hb => by simpa using h.not_contains ht hb
      rw [hnone, if_pos (decide_eq_true ⟨hlo, ht.le⟩)]
      exact iff_of_true rfl fun b hb => (ht.trans_le (h.hi_le_lo hb)).ne'
    · -- at the end of the first one, where the next begins
      have hsome : 0 < (c :: l).countP fun b => Contains lo hi t b := by
        refine List.countP_pos_iff.mpr ⟨c, List.mem_cons_self, decide_eq_true ⟨(hac ▸ ht).ge, ?_⟩⟩
        rw [ht, hac]
        exact h.tail.ordered c List.mem_cons_self
      rw [if_pos (decide_eq_true ⟨hlo, ht.le⟩)]
      refine iff_of_false (by omega) fun hne => ?_
      exact hne c List.mem_cons_self (hac.symm.trans ht.symm)
    · rw [if_neg (by simpa using fun hc : Contains lo hi t a => absurd hc.2 (not_le.mpr ht)), Nat.add_zero,
        ih h.tail (hac ▸ ht.le) (exists_of_gt hhi ht), List.forall_mem_cons]
      exact (and_iff_right (hac ▸ ht.ne)).symm

end Intervals
