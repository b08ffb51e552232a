import Mathlib.Algebra.Order.Round
import Mathlib.Data.Rat.Floor
import Mathlib.Tactic.Linarith

/-!
# Rounding and clamping

`Math.round` rounds halves up, as `round` does. `clamp lo hi x` is `Math.max(lo, Math.min(hi, x))`.
-/

namespace Js

/-! ## Rounding

`Math.round` rounds halves up, so an integer is reached from one half below on.
-/

section Rounding

variable {α : Type*} [Field α] [LinearOrder α] [IsStrictOrderedRing α] [FloorRing α]

/-- A number rounds to at least an integer from one half below it on. -/
theorem le_round_iff {n : ℤ} {x : α} : n ≤ round x ↔ (n : α) - 1 / 2 ≤ x := by
  rw [round_eq, Int.le_floor]
  exact sub_le_iff_le_add.symm

/-- It rounds to at most an integer up to one half above it, which is rounded up. -/
theorem round_le_iff {n : ℤ} {x : α} : round x ≤ n ↔ x < n + 1 / 2 := by
  rw [round_eq, Int.floor_le_iff]
  constructor
  · intro h
    linarith
  · intro h
    linarith

/-- Rounding keeps the order. -/
theorem round_mono {x y : α} (h : x ≤ y) : round x ≤ round y := by
  rw [round_eq, round_eq]
  exact Int.floor_le_floor (by linarith)

end Rounding

/-! ## Clamping

`Math.max(lo, Math.min(hi, x))`, for bounds in the right order.
-/

section Clamping

variable {α : Type*} [LinearOrder α] {lo hi x y : α}

def clamp (lo hi x : α) : α := max lo (min hi x)

/-- What is clamped is at least the lower bound. -/
theorem le_clamp (lo hi x : α) : lo ≤ clamp lo hi x := le_max_left ..

/-- It is at most the upper bound. -/
theorem clamp_le (h : lo ≤ hi) : clamp lo hi x ≤ hi := max_le h (min_le_left ..)

/-- Clamping keeps the order. -/
theorem clamp_mono (h : x ≤ y) : clamp lo hi x ≤ clamp lo hi y :=
  max_le_max_left lo (min_le_min_left hi h)

/-- Between the bounds nothing is changed. -/
theorem clamp_of_mem (hlo : lo ≤ x) (hhi : x ≤ hi) : clamp lo hi x = x := by
  rw [clamp, min_eq_right hhi, max_eq_right hlo]

/-- From the lower bound down it is the lower bound. -/
theorem clamp_of_le (h : x ≤ lo) : clamp lo hi x = lo :=
  max_eq_left ((min_le_right hi x).trans h)

@[simp] theorem clamp_clamp (h : lo ≤ hi) : clamp lo hi (clamp lo hi x) = clamp lo hi x :=
  clamp_of_mem (le_clamp ..) (clamp_le h)

end Clamping

end Js
