import Mathlib.Algebra.Order.Floor.Ring
import Mathlib.Data.Int.Log
import Mathlib.Data.Rat.Floor
import Mathlib.Tactic.Linarith
import EmailTriage.Lib.Doubles
import EmailTriage.Lib.JsMath

/-!
# Rounded arithmetic

A sum or a product of doubles is the exact one, rounded to 53 significant bits: to the nearest number
that has no more, or to the even one of two that are equally near. `fl` is this rounding on the
rationals, with the gradual underflow below `2 ^ -1022`; `Double.add` and `Double.mul` round with it,
and overflow to the infinities.

## What the rounding keeps

`fl_mono` says that it never swaps two numbers, and `fl_of_mul_two_pow` that it leaves those alone that
have 53 bits, the integers below `2 ^ 53` among them. Together they bound what a rounded result can be.
Where that is not enough, `natCast_le_fl_iff` says exactly which numbers are rounded up to a given
integer or beyond: those that are below it by at most half the distance to the double before it.
-/

namespace Js

/-! ## Rounding to an integer

Ties go to the even neighbour. All that rounding to 53 bits needs of it is that it keeps the order and the
sign, and which numbers reach a given integer.
-/

/-- The integer nearest to a number, or the even one of two that are equally near. -/
def roundEven (q : ℚ) : ℤ :=
  if q - ⌊q⌋ < 1 / 2 then ⌊q⌋ else if 1 / 2 < q - ⌊q⌋ then ⌊q⌋ + 1 else ⌊q⌋ + ⌊q⌋ % 2

/-- An integer is rounded to itself. -/
theorem roundEven_intCast (z : ℤ) : roundEven z = z := by
  unfold roundEven
  rw [Int.floor_intCast, sub_self, if_pos (by norm_num)]

/-- The result is the floor or the integer after it. -/
theorem roundEven_bounds (q : ℚ) : ⌊q⌋ ≤ roundEven q ∧ roundEven q ≤ ⌊q⌋ + 1 := by
  unfold roundEven
  split_ifs
  · omega
  · omega
  · omega

/-- Rounding never swaps two numbers: where the floors differ they decide, and between the same two
integers the distance to the lower one does. -/
theorem roundEven_mono {p q : ℚ} (h : p ≤ q) : roundEven p ≤ roundEven q := by
  rcases Int.lt_or_eq_of_le (Int.floor_le_floor h) with hlt | heq
  · have hp := (roundEven_bounds p).2
    have hq := (roundEven_bounds q).1
    omega
  · have hpq : p - ⌊q⌋ ≤ q - ⌊q⌋ := sub_le_sub_right h _
    unfold roundEven
    rw [heq]
    split_ifs with h₁ h₂ h₃ h₄ h₅ h₆
    all_goals first | omega | (exfalso; linarith)

/-- Rounding treats both signs alike. -/
theorem roundEven_neg (q : ℚ) : roundEven (-q) = -roundEven q := by
  by_cases hint : (⌊q⌋ : ℚ) = q
  · rw [← hint, ← Int.cast_neg, roundEven_intCast, roundEven_intCast]
  · -- the floor on the other side of zero is the integer after this one
    have hle := Int.floor_le q
    have hlt := Int.lt_floor_add_one q
    have hstrict : (⌊q⌋ : ℚ) < q := lt_of_le_of_ne hle hint
    have hfloor : ⌊-q⌋ = -⌊q⌋ - 1 := by
      rw [Int.floor_eq_iff]
      push_cast
      constructor
      · linarith
      · linarith
    have hdist : -q - ((-⌊q⌋ - 1 : ℤ) : ℚ) = 1 - (q - ⌊q⌋) := by
      push_cast
      ring
    unfold roundEven
    rw [hfloor, hdist]
    split_ifs with h₁ h₂ h₃ h₄ h₅ h₆
    all_goals first | omega | (exfalso; linarith)

/-- An even integer is reached from half a unit below it on. -/
theorem le_roundEven_iff {n : ℤ} (hn : n % 2 = 0) (q : ℚ) : n ≤ roundEven q ↔ (n : ℚ) - 1 / 2 ≤ q := by
  have hle := Int.floor_le q
  have hlt := Int.lt_floor_add_one q
  constructor
  · intro h
    unfold roundEven at h
    split_ifs at h with hlow hhigh
    · have hcast : (n : ℚ) ≤ ⌊q⌋ := by exact_mod_cast h
      linarith
    · have hcast : (n : ℚ) ≤ ⌊q⌋ + 1 := by exact_mod_cast h
      linarith
    · have hmod : ⌊q⌋ % 2 ≤ 1 := by omega
      have hcast : (n : ℚ) ≤ ⌊q⌋ + 1 := by exact_mod_cast (show n ≤ ⌊q⌋ + 1 by omega)
      linarith
  · intro h
    have hfloor : n ≤ ⌊q⌋ + 1 := by
      have hcast : (n : ℚ) < ⌊q⌋ + 2 := by linarith
      have hint : n < ⌊q⌋ + 2 := by exact_mod_cast hcast
      omega
    rcases Int.lt_or_eq_of_le hfloor with hbelow | hnext
    · exact (Int.lt_add_one_iff.mp hbelow).trans (roundEven_bounds q).1
    · -- the floor is the odd integer before `n`, so a tie goes up
      have hcast : (n : ℚ) = ⌊q⌋ + 1 := by exact_mod_cast hnext
      unfold roundEven
      split_ifs with hlow hhigh
      · exfalso
        linarith
      · exact hnext.le
      · omega

/-! ## Rounding to 53 bits

`lastBit` is the exponent of the last bit a number of this size has room for, and `fl` rounds to it.
Numbers that fit are left alone, and the order is kept although the last bit moves with the size.
-/

/-- The exponent of the last of the 53 bits of a number. -/
def lastBit (q : ℚ) : ℤ := max (Int.log 2 |q| - 52) (-1074)

/-- The double nearest to a number, were there no largest one. -/
def fl (q : ℚ) : ℚ := roundEven (q / 2 ^ lastBit q) * 2 ^ lastBit q

/-- The last bit does not depend on the sign. -/
theorem lastBit_neg (q : ℚ) : lastBit (-q) = lastBit q := by
  unfold lastBit
  rw [abs_neg]

/-- Both signs are rounded alike. -/
theorem fl_neg (q : ℚ) : fl (-q) = -fl q := by
  unfold fl
  rw [lastBit_neg, neg_div, roundEven_neg, Int.cast_neg, neg_mul]

/-- Zero is a double. -/
@[simp] theorem fl_zero : fl 0 = 0 := by
  unfold fl
  rw [zero_div]
  have hzero : roundEven 0 = 0 := roundEven_intCast 0
  rw [hzero, Int.cast_zero, zero_mul]

/-- The weight of a bit is positive. -/
theorem two_zpow_pos (e : ℤ) : (0 : ℚ) < 2 ^ e := zpow_pos two_pos e

/-- A number is below twice the weight of the first of its 53 bits. -/
theorem lt_two_zpow_lastBit {q : ℚ} : |q| < 2 ^ (lastBit q + 53) := by
  have hlog : |q| < 2 ^ (Int.log 2 |q| + 1) := by
    exact_mod_cast Int.lt_zpow_succ_log_self (b := 2) one_lt_two |q|
  refine hlog.trans_le (zpow_le_zpow_right₀ one_le_two ?_)
  unfold lastBit
  omega

/-- What has no bit after its last one is a double. -/
theorem fl_of_intCast_mul {q : ℚ} {n e : ℤ} (he : lastBit q ≤ e) (hq : q = n * 2 ^ e) : fl q = q := by
  obtain ⟨k, hk⟩ := Int.eq_ofNat_of_zero_le (sub_nonneg.mpr he)
  have hquotient : q / 2 ^ lastBit q = ((n * 2 ^ k : ℤ) : ℚ) := by
    rw [div_eq_iff (two_zpow_pos _).ne']
    refine hq.trans ?_
    push_cast
    rw [mul_assoc, ← zpow_natCast, ← zpow_add₀ two_ne_zero, ← hk, sub_add_cancel]
  unfold fl
  rw [hquotient, roundEven_intCast, ← hquotient, div_mul_cancel₀ _ (two_zpow_pos _).ne']

/-- A number of at most 53 bits is a double. -/
theorem fl_of_mul_two_pow {n e : ℤ} (hn : |n| < 2 ^ 53) (he : -1074 ≤ e) :
    fl ((n : ℚ) * 2 ^ e) = n * 2 ^ e := by
  rcases eq_or_ne n 0 with rfl | hne
  · rw [Int.cast_zero, zero_mul, fl_zero]
  · refine fl_of_intCast_mul (max_le ?_ he) rfl
    have hpos : 0 < |(n : ℚ) * 2 ^ e| :=
      abs_pos.mpr (mul_ne_zero (Int.cast_ne_zero.mpr hne) (two_zpow_pos e).ne')
    have hsmall : |(n : ℚ) * 2 ^ e| < ((2 : ℕ) : ℚ) ^ (e + 53) := by
      have hn' : |(n : ℚ)| < 2 ^ (53 : ℤ) := by exact_mod_cast hn
      rw [abs_mul, abs_of_pos (two_zpow_pos e), Nat.cast_ofNat, add_comm, zpow_add₀ two_ne_zero]
      exact mul_lt_mul_of_pos_right hn' (two_zpow_pos e)
    have hlog := (Int.lt_zpow_iff_log_lt one_lt_two hpos).mp hsmall
    omega

/-- An integer of at most 53 bits is a double. -/
theorem fl_intCast {z : ℤ} (h : |z| < 2 ^ 53) : fl z = z := by
  have hz := fl_of_mul_two_pow (e := 0) h (by decide)
  rwa [zpow_zero, mul_one] at hz

/-- A power of two is a double. -/
theorem fl_two_zpow {e : ℤ} (he : -1074 ≤ e) : fl (2 ^ e) = 2 ^ e := by
  have hpow := fl_of_mul_two_pow (n := 1) (by norm_num) he
  rwa [Int.cast_one, one_mul] at hpow

/-- The exponents of two positive numbers are ordered as the numbers are. -/
theorem lastBit_mono {p q : ℚ} (hp : 0 < p) (h : p ≤ q) : lastBit p ≤ lastBit q := by
  have hlog : Int.log 2 |p| ≤ Int.log 2 |q| := by
    rw [abs_of_pos hp, abs_of_pos (hp.trans_le h)]
    exact Int.log_mono_right hp h
  unfold lastBit
  omega

/-- Positive numbers are not swapped. Where the exponents differ, the power of two between the numbers,
which is a double, stays between the results. -/
theorem fl_mono_of_pos {p q : ℚ} (hp : 0 < p) (h : p ≤ q) : fl p ≤ fl q := by
  have hq := hp.trans_le h
  rcases Int.lt_or_eq_of_le (lastBit_mono hp h) with hlt | heq
  · -- the power of two that `p` is below, and `q` is not
    have hbelow : fl p ≤ 2 ^ (lastBit p + 53) := by
      have hquotient : p / 2 ^ lastBit p ≤ ((2 ^ 53 : ℤ) : ℚ) := by
        rw [div_le_iff₀ (two_zpow_pos _)]
        have hsmall := (le_abs_self p).trans lt_two_zpow_lastBit.le
        rw [add_comm, zpow_add₀ two_ne_zero] at hsmall
        exact_mod_cast hsmall
      have hround : roundEven (p / 2 ^ lastBit p) ≤ 2 ^ 53 := by
        have hmono := roundEven_mono hquotient
        rwa [roundEven_intCast] at hmono
      have hcast : ((roundEven (p / 2 ^ lastBit p) : ℤ) : ℚ) ≤ 2 ^ (53 : ℤ) := by exact_mod_cast hround
      rw [add_comm, zpow_add₀ two_ne_zero]
      exact mul_le_mul_of_nonneg_right hcast (two_zpow_pos _).le
    have habove : 2 ^ (lastBit q + 52) ≤ fl q := by
      have hexp : lastBit q = Int.log 2 q - 52 := by
        have hmin : -1074 ≤ lastBit p := le_max_right ..
        unfold lastBit at hlt hmin ⊢
        rw [abs_of_pos hq] at hlt ⊢
        omega
      have hpow : ((2 : ℕ) : ℚ) ^ Int.log 2 q ≤ q := Int.zpow_log_le_self one_lt_two hq
      have hquotient : ((2 ^ 52 : ℤ) : ℚ) ≤ q / 2 ^ lastBit q := by
        rw [le_div_iff₀ (two_zpow_pos _), hexp]
        have hsplit : (2 : ℚ) ^ Int.log 2 q = 2 ^ (52 : ℤ) * 2 ^ (Int.log 2 q - 52) := by
          rw [← zpow_add₀ two_ne_zero]
          congr 1
          ring
        rw [Nat.cast_ofNat, hsplit] at hpow
        exact_mod_cast hpow
      have hround : 2 ^ 52 ≤ roundEven (q / 2 ^ lastBit q) := by
        have hmono := roundEven_mono hquotient
        rwa [roundEven_intCast] at hmono
      have hcast : (2 : ℚ) ^ (52 : ℤ) ≤ (roundEven (q / 2 ^ lastBit q) : ℤ) := by exact_mod_cast hround
      rw [add_comm, zpow_add₀ two_ne_zero]
      exact mul_le_mul_of_nonneg_right hcast (two_zpow_pos _).le
    refine hbelow.trans (le_trans ?_ habove)
    exact zpow_le_zpow_right₀ one_le_two (by omega)
  · -- with the same last bit the order is that of the rounded quotients
    have hdiv : p / 2 ^ lastBit q ≤ q / 2 ^ lastBit q := div_le_div_of_nonneg_right h (two_zpow_pos _).le
    have hcast : ((roundEven (p / 2 ^ lastBit q) : ℤ) : ℚ) ≤ (roundEven (q / 2 ^ lastBit q) : ℤ) := by
      exact_mod_cast roundEven_mono hdiv
    unfold fl
    rw [heq]
    exact mul_le_mul_of_nonneg_right hcast (two_zpow_pos _).le

/-- What is not negative is rounded to what is not negative. -/
theorem fl_nonneg {q : ℚ} (h : 0 ≤ q) : 0 ≤ fl q := by
  have hdiv : ((0 : ℤ) : ℚ) ≤ q / 2 ^ lastBit q := by
    rw [Int.cast_zero]
    exact div_nonneg h (two_zpow_pos _).le
  have hround := roundEven_mono hdiv
  rw [roundEven_intCast] at hround
  exact mul_nonneg (by exact_mod_cast hround) (two_zpow_pos _).le

/-- Rounding to doubles never swaps two numbers. -/
theorem fl_mono {p q : ℚ} (h : p ≤ q) : fl p ≤ fl q := by
  rcases lt_or_ge 0 p with hp | hp
  · exact fl_mono_of_pos hp h
  · rcases lt_or_ge q 0 with hq | hq
    · have hneg := fl_mono_of_pos (neg_pos.mpr hq) (neg_le_neg h)
      rw [fl_neg, fl_neg] at hneg
      exact neg_le_neg_iff.mp hneg
    · have hp' := fl_nonneg (neg_nonneg.mpr hp)
      rw [fl_neg] at hp'
      exact (neg_nonneg.mp hp').trans (fl_nonneg hq)

/-! ## Where an integer is reached

A sum that is rounded may reach a whole number from below. `natCast_le_fl_iff` says from where on: from
half a unit of the next smaller double.
-/

/-- Half the distance from a positive integer to the double before it. -/
def halfGap (n : ℕ) : ℚ := 2 ^ ((Nat.clog 2 n : ℤ) - 54)

/-- The gap before an integer below `2 ^ 51` is less than one. -/
theorem halfGap_lt_one {n : ℕ} (hn : n ≤ 2 ^ 51) : halfGap n < 1 := by
  have hclog : Nat.clog 2 n ≤ 51 := (Nat.clog_le_iff_le_pow one_lt_two).mpr hn
  exact zpow_lt_one_of_neg₀ one_lt_two (by omega)

/-- A number is rounded to an integer or beyond it exactly if it is below the integer by at most half the
distance to the double before it: a tie goes to the integer, whose last bit is zero. -/
theorem natCast_le_fl_iff {n : ℕ} (hpos : 0 < n) (hn : n ≤ 2 ^ 51) (q : ℚ) :
    (n : ℚ) ≤ fl q ↔ n - halfGap n ≤ q := by
  obtain ⟨c, hc⟩ : ∃ c, c = Nat.clog 2 n := ⟨_, rfl⟩
  have hc' : c ≤ 51 := hc ▸ (Nat.clog_le_iff_le_pow one_lt_two).mpr hn
  have hceil : (n : ℚ) ≤ 2 ^ (c : ℤ) := by
    rw [zpow_natCast]
    exact_mod_cast hc ▸ Nat.le_pow_clog one_lt_two n
  -- the binade before the integer begins at least half a unit before it
  have hbinade : (2 : ℚ) ^ ((c : ℤ) - 1) ≤ n - 1 / 2 := by
    rcases Nat.eq_zero_or_pos c with hzero | hcpos
    · have hone : (1 : ℚ) ≤ n := by exact_mod_cast hpos
      rw [hzero]
      norm_num
      linarith
    · obtain ⟨b, rfl⟩ := Nat.exists_eq_succ_of_ne_zero hcpos.ne'
      have hlt : 2 ^ b < n := by
        have hpred := Nat.pow_pred_clog_lt_self one_lt_two (x := n)
          (by
            by_contra hle
            have hone : n = 1 := by omega
            rw [hone, Nat.clog_one_right] at hc
            omega)
        rwa [← hc] at hpred
      have hle : (2 : ℚ) ^ b + 1 ≤ n := by exact_mod_cast hlt
      have hexp : ((b.succ : ℕ) : ℤ) - 1 = b := by
        push_cast
        ring
      rw [hexp, zpow_natCast]
      linarith
  have hgap : halfGap n ≤ 1 / 8 := by
    unfold halfGap
    rw [← hc]
    calc (2 : ℚ) ^ ((c : ℤ) - 54) ≤ 2 ^ (-3 : ℤ) := zpow_le_zpow_right₀ one_le_two (by omega)
      _ = 1 / 8 := by norm_num
  have hgapPos : 0 < halfGap n := two_zpow_pos _
  rcases le_or_gt (2 ^ (c : ℤ)) q with habove | hbelow
  · refine iff_of_true ?_ (by linarith)
    have hpow := fl_mono habove
    rw [fl_two_zpow (by omega)] at hpow
    exact hceil.trans hpow
  · rcases lt_or_ge q (2 ^ ((c : ℤ) - 1)) with hlow | hhigh
    · refine iff_of_false (not_le.mpr ?_) (not_le.mpr (by linarith))
      have hpow := fl_mono hlow.le
      rw [fl_two_zpow (by omega)] at hpow
      linarith
    · -- here the last bit is that of the binade, and the integer an even number of it
      have hq : 0 < q := (two_zpow_pos _).trans_le hhigh
      have hlog : Int.log 2 |q| = c - 1 := by
        rw [abs_of_pos hq]
        have hle := (Int.zpow_le_iff_le_log (b := 2) one_lt_two (x := (c : ℤ) - 1) hq).mp
          (by exact_mod_cast hhigh)
        have hlt := (Int.lt_zpow_iff_log_lt (b := 2) one_lt_two (x := (c : ℤ)) hq).mp
          (by exact_mod_cast hbelow)
        omega
      have hlast : lastBit q = c - 53 := by
        unfold lastBit
        rw [hlog]
        omega
      obtain ⟨k, hk⟩ : ∃ k : ℕ, 53 - c = k + 1 := ⟨52 - c, by omega⟩
      have hunits : (n : ℚ) = ((n * 2 ^ (k + 1) : ℤ) : ℚ) * 2 ^ ((c : ℤ) - 53) := by
        push_cast
        rw [mul_assoc, ← zpow_natCast, ← zpow_add₀ two_ne_zero]
        have hexp : ((k + 1 : ℕ) : ℤ) + ((c : ℤ) - 53) = 0 := by omega
        rw [hexp, zpow_zero, mul_one]
      have heven : ((n : ℤ) * 2 ^ (k + 1)) % 2 = 0 := by
        rw [pow_succ, ← mul_assoc]
        exact Int.mul_emod_left _ _
      have hhalf : halfGap n = 1 / 2 * 2 ^ ((c : ℤ) - 53) := by
        have hexp : ((c : ℤ) - 54) = -1 + ((c : ℤ) - 53) := by ring
        unfold halfGap
        rw [← hc, hexp, zpow_add₀ two_ne_zero]
        norm_num
      unfold fl
      rw [hlast]
      conv_lhs => rw [hunits, mul_le_mul_iff_left₀ (two_zpow_pos _)]
      rw [Int.cast_le, le_roundEven_iff heven, le_div_iff₀ (two_zpow_pos _), sub_mul, ← hunits, ← hhalf]

/-! ## Whole parts

What `ToIntegerOrInfinity` makes of a finite number.
-/

/-- A number without its fraction. -/
def wholePart (q : ℚ) : ℤ := if 0 ≤ q then ⌊q⌋ else ⌈q⌉

/-- An integer is its own whole part. -/
theorem wholePart_intCast (z : ℤ) : wholePart z = z := by
  unfold wholePart
  rw [Int.floor_intCast, Int.ceil_intCast, ite_self]

/-- The whole part is less than one away. -/
theorem abs_sub_wholePart_lt (q : ℚ) : |q - wholePart q| < 1 := by
  unfold wholePart
  split
  · have hlo := Int.floor_le q
    have hhi := Int.lt_floor_add_one q
    exact abs_lt.mpr ⟨by linarith, by linarith⟩
  · have hlo := Int.le_ceil q
    have hhi := Int.ceil_lt_add_one q
    exact abs_lt.mpr ⟨by linarith, by linarith⟩

/-- The numbers with a given whole part: those up to the next integer, and for zero those down to the one
before it, too. -/
theorem wholePart_eq_iff (n : ℕ) (q : ℚ) :
    wholePart q = n ↔ (if n = 0 then -1 < q else (n : ℚ) ≤ q) ∧ q < n + 1 := by
  have hn : (0 : ℚ) ≤ n := Nat.cast_nonneg n
  unfold wholePart
  split
  · next hsign =>
    rw [Int.floor_eq_iff, Int.cast_natCast]
    split
    · next hzero =>
      rw [hzero, Nat.cast_zero]
      exact and_congr_left' (iff_of_true hsign (by linarith))
    · exact Iff.rfl
  · next hsign =>
    rw [not_le] at hsign
    rw [Int.ceil_eq_iff, Int.cast_natCast]
    split
    · next hzero =>
      rw [hzero, Nat.cast_zero, zero_sub]
      exact and_congr_right' (iff_of_true hsign.le (by linarith))
    · next hpos =>
      have hone : (1 : ℚ) ≤ n := by exact_mod_cast Nat.pos_of_ne_zero hpos
      exact iff_of_false (fun h => by linarith [h.1]) fun h => by linarith [h.1]

/-! ## Sums and products

The operations are those on rational numbers, rounded once. A result half a unit beyond the largest double
becomes infinite, and what has no value is not a number.
-/

namespace Double

/-- The double nearest to a number; from half a unit beyond the largest one on, infinity. -/
def ofRat (q : ℚ) : Double := if 2 ^ 1024 ≤ |fl q| then .infinite (q < 0) else .finite (fl q)

/-- `x + y`. -/
def add : Double → Double → Double
  | .finite x, .finite y => ofRat (x + y)
  | .infinite x, .infinite y => if x = y then .infinite x else .nan
  | .infinite x, .finite _ => .infinite x
  | .finite _, .infinite y => .infinite y
  | _, _ => .nan

/-- `x * y`. A product of infinity and zero is not a number. -/
def mul : Double → Double → Double
  | .finite x, .finite y => ofRat (x * y)
  | .infinite x, .infinite y => .infinite (x != y)
  | .infinite negative, .finite q | .finite q, .infinite negative =>
    if q = 0 then .nan else .infinite (negative != (q < 0))
  | _, _ => .nan

/-- `-x`. -/
def neg : Double → Double
  | .finite x => .finite (-x)
  | .infinite negative => .infinite !negative
  | .nan => .nan

/-- `x - y`. -/
def sub (x y : Double) : Double := x.add y.neg

/-- The whole part of a number that is finite. -/
def truncate : Double → Option ℤ
  | .finite q => some (wholePart q)
  | _ => none

@[simp] theorem truncate_finite (q : ℚ) : (finite q).truncate = some (wholePart q) := rfl

/-- A number well below the largest double is rounded to 53 bits, and to nothing else. -/
theorem ofRat_of_abs_le {q : ℚ} (h : |q| ≤ 2 ^ 1023) : ofRat q = .finite (fl q) := by
  have hbound : (2 : ℚ) ^ (1023 : ℕ) = 2 ^ (1023 : ℤ) := rfl
  have hupper : fl q ≤ 2 ^ 1023 := by
    have hmono := fl_mono ((le_abs_self q).trans h)
    rwa [hbound, fl_two_zpow (by decide)] at hmono
  have hlower : -fl q ≤ 2 ^ 1023 := by
    have hmono := fl_mono ((neg_le_abs q).trans h)
    rwa [hbound, fl_neg, fl_two_zpow (by decide)] at hmono
  refine if_neg (not_le.mpr ?_)
  calc |fl q| ≤ 2 ^ 1023 := abs_le'.mpr ⟨hupper, hlower⟩
    _ < 2 ^ 1024 := pow_lt_pow_right₀ one_lt_two (by decide)

/-- An integer of at most 53 bits is a double. -/
theorem ofRat_intCast {z : ℤ} (h : |z| < 2 ^ 53) : ofRat z = .finite z := by
  have hz : |(z : ℚ)| < 2 ^ 53 := by exact_mod_cast h
  rw [ofRat_of_abs_le (hz.le.trans (pow_le_pow_right₀ one_le_two (by decide))), fl_intCast h]

/-! ## `Math`

The functions of `Math` that the scores and lengths go through, on all doubles.
-/

/-- `Math.abs(x)`. -/
def mathAbs : Double → Double
  | .nan => .nan
  | .finite q => .finite |q|
  | .infinite _ => .infinite false

/-- `Math.round(x)`: halves are rounded up. -/
def mathRound : Double → Double
  | .nan => .nan
  | .finite q => .finite (round q : ℤ)
  | .infinite negative => .infinite negative

/-- `Math.min(x, y)`. -/
def mathMin : Double → Double → Double
  | .nan, _ | _, .nan => .nan
  | x, y => if x.le y then x else y

/-- `Math.max(x, y)`. -/
def mathMax : Double → Double → Double
  | .nan, _ | _, .nan => .nan
  | x, y => if x.le y then y else x

/-! ## Order

Sums, products and `Math` never swap two numbers, and each is stated for `le`, so that the results of
whole computations can be compared without a look at what is rounded in them.
-/

/-- Numbers that are at most each other are equal. -/
theorem le_antisymm {x y : Double} (h : x.le y = true) (h' : y.le x = true) : x = y := by
  rcases x with _ | p | _ | _
  · cases h
  · rcases y with _ | q | _ | _
    · cases h
    · exact congrArg finite ((le_finite_iff.mp h).antisymm (le_finite_iff.mp h'))
    · cases h'
    · cases h
  · rcases y with _ | q | _ | _
    · cases h
    · cases h
    · rfl
    · cases h
  · rcases y with _ | q | _ | _
    · cases h'
    · cases h'
    · cases h'
    · rfl

/-- What lies between finite numbers is finite. -/
theorem exists_finite_of_le {x : Double} {l h : ℚ} (hl : (finite l).le x = true)
    (hh : x.le (finite h) = true) :
    ∃ q, x = finite q ∧ l ≤ q ∧ q ≤ h := by
  rcases x with _ | q | _ | _
  · cases hh
  · exact ⟨q, rfl, le_finite_iff.mp hl, le_finite_iff.mp hh⟩
  · cases hh
  · cases hl

/-- Minus infinity is below every number. -/
theorem infinite_true_le {y : Double} (h : y ≠ nan) : (infinite true).le y = true := by
  rcases y with _ | q | _ | _
  · exact absurd rfl h
  all_goals rfl

/-- Plus infinity is above every number. -/
theorem le_infinite_false {x : Double} (h : x ≠ nan) : x.le (infinite false) = true := by
  rcases x with _ | q | _ | _
  · exact absurd rfl h
  all_goals rfl

/-- Rounding gives a number. -/
theorem ofRat_ne_nan (q : ℚ) : ofRat q ≠ nan := by
  unfold ofRat
  split
  · exact fun h => by cases h
  · exact fun h => by cases h

/-- What is rounded to an infinity has its sign. -/
theorem le_abs_fl_iff (q : ℚ) : (2 : ℚ) ^ 1024 ≤ |fl q| ↔
    (0 ≤ q ∧ 2 ^ 1024 ≤ fl q) ∨ (q < 0 ∧ fl q ≤ -2 ^ 1024) := by
  rcases lt_or_ge q 0 with hneg | hpos
  · have hfl : fl q ≤ 0 := by
      have hmono := fl_mono hneg.le
      rwa [fl_zero] at hmono
    rw [abs_of_nonpos hfl, le_neg, and_iff_right hneg]
    exact ⟨.inr, fun h => h.resolve_left fun hpos => not_lt.mpr hpos.1 hneg⟩
  · rw [abs_of_nonneg (fl_nonneg hpos), and_iff_right hpos]
    exact ⟨.inl, fun h => h.resolve_right fun hneg => not_lt.mpr hpos hneg.1⟩

/-- Rounding never swaps two numbers, not even where it overflows. -/
theorem ofRat_mono {p q : ℚ} (h : p ≤ q) : (ofRat p).le (ofRat q) = true := by
  have hpos : (0 : ℚ) < 2 ^ 1024 := pow_pos two_pos 1024
  by_cases hp : 2 ^ 1024 ≤ |fl p|
  · have hofp : ofRat p = infinite (p < 0) := if_pos hp
    rcases (le_abs_fl_iff p).mp hp with ⟨hsign, hlarge⟩ | ⟨hsign, -⟩
    · -- the larger number overflows, too
      have hq : 2 ^ 1024 ≤ |fl q| := hlarge.trans ((fl_mono h).trans (le_abs_self _))
      have hofq : ofRat q = infinite (q < 0) := if_pos hq
      rw [hofp, hofq, decide_eq_false (not_lt.mpr hsign), decide_eq_false (not_lt.mpr (hsign.trans h))]
      rfl
    · rw [hofp, decide_eq_true hsign]
      exact infinite_true_le (ofRat_ne_nan q)
  · have hofp : ofRat p = finite (fl p) := if_neg hp
    by_cases hq : 2 ^ 1024 ≤ |fl q|
    · have hofq : ofRat q = infinite (q < 0) := if_pos hq
      rcases (le_abs_fl_iff q).mp hq with ⟨hsign, -⟩ | ⟨hsign, hlarge⟩
      · rw [hofq, decide_eq_false (not_lt.mpr hsign)]
        exact le_infinite_false (ofRat_ne_nan p)
      · refine absurd ((le_abs_fl_iff p).mpr (.inr ⟨h.trans_lt hsign, ?_⟩)) hp
        exact (fl_mono h).trans hlarge
    · have hofq : ofRat q = finite (fl q) := if_neg hq
      rw [hofp, hofq]
      exact le_finite_iff.mpr (fl_mono h)

/-- Adding a finite number to a number gives a number. -/
theorem add_finite_ne_nan {x : Double} (h : x ≠ nan) (q : ℚ) : x.add (finite q) ≠ nan := by
  rcases x with _ | p | _ | _
  · exact absurd rfl h
  · exact ofRat_ne_nan _
  · exact fun h => by cases h
  · exact fun h => by cases h

/-- Sums are in the order of their terms. -/
theorem add_finite_mono {x y : Double} {p q : ℚ} (h : x.le y = true) (hpq : p ≤ q) :
    (x.add (finite p)).le (y.add (finite q)) = true := by
  obtain ⟨hx, hy⟩ := ne_nan_of_le h
  rcases x with _ | x | _ | _
  · exact absurd rfl hx
  · rcases y with _ | y | _ | _
    · exact absurd rfl hy
    · exact ofRat_mono (add_le_add (le_finite_iff.mp h) hpq)
    · exact le_infinite_false (ofRat_ne_nan _)
    · cases h
  · rcases y with _ | y | _ | _
    · cases h
    · cases h
    · rfl
    · cases h
  · exact infinite_true_le (add_finite_ne_nan hy q)

/-- `xs.reduce((sum, x) => sum + x, sum)`. -/
def addAll (sum : Double) (xs : List Double) : Double := xs.foldl add sum

/-- What is added to NaN stays NaN. -/
theorem addAll_nan (xs : List Double) : addAll nan xs = nan := by
  unfold addAll
  induction xs with
  | nil => rfl
  | cons x xs ih => exact ih

/-- A sum with NaN is NaN. -/
theorem addAll_of_nan_mem {xs : List Double} (h : nan ∈ xs) (sum : Double) : addAll sum xs = nan := by
  induction xs generalizing sum with
  | nil => cases h
  | cons x xs ih =>
    rcases List.mem_cons.mp h with rfl | h
    · have hadd : sum.add nan = nan := by cases sum <;> rfl
      show addAll (sum.add nan) xs = nan
      rw [hadd, addAll_nan]
    · exact ih h (sum.add x)

/-- Sums of lists are in the order of their terms. -/
theorem addAll_mono {xs ys : List Double}
    (h : List.Forall₂ (fun x y => ∃ p q, x = finite p ∧ y = finite q ∧ p ≤ q) xs ys) {s t : Double}
    (hst : s.le t = true) : (addAll s xs).le (addAll t ys) = true := by
  induction h generalizing s t with
  | nil => exact hst
  | cons hxy _ ih =>
    obtain ⟨p, q, rfl, rfl, hpq⟩ := hxy
    exact ih (add_finite_mono hst hpq)

/-- Products with a number that is not negative are in the order of the other factor. -/
theorem mul_finite_mono {p q w : ℚ} (hw : 0 ≤ w) (h : p ≤ q) :
    ((finite p).mul (finite w)).le ((finite q).mul (finite w)) = true :=
  ofRat_mono (mul_le_mul_of_nonneg_right h hw)

/-- `Math.round` never swaps two numbers. -/
theorem mathRound_mono {x y : Double} (h : x.le y = true) : x.mathRound.le y.mathRound = true := by
  obtain ⟨hx, hy⟩ := ne_nan_of_le h
  rcases x with _ | p | _ | _
  · exact absurd rfl hx
  · rcases y with _ | q | _ | _
    · exact absurd rfl hy
    · exact le_finite_iff.mpr (by exact_mod_cast round_mono (le_finite_iff.mp h))
    · rfl
    · cases h
  · rcases y with _ | q | _ | _
    · cases h
    · cases h
    · rfl
    · cases h
  · rcases y with _ | q | _ | _
    · exact absurd rfl hy
    all_goals rfl

/-! ## Clamping

`Math.max(lo, Math.min(hi, x))` keeps the order of its last argument.
-/

/-- `Math.max(lo, Math.min(hi, x))`. -/
def clamp (lo hi : ℚ) (x : Double) : Double := (finite lo).mathMax ((finite hi).mathMin x)

/-- `Math.min` of finite numbers. -/
theorem mathMin_finite (p q : ℚ) : (finite p).mathMin (finite q) = finite (min p q) := by
  rcases le_or_gt p q with h | h
  · rw [min_eq_left h]
    exact if_pos (le_finite_iff.mpr h)
  · rw [min_eq_right h.le]
    exact if_neg fun hle => not_le.mpr h (le_finite_iff.mp hle)

/-- `Math.max` of finite numbers. -/
theorem mathMax_finite (p q : ℚ) : (finite p).mathMax (finite q) = finite (max p q) := by
  rcases le_or_gt p q with h | h
  · rw [max_eq_right h]
    exact if_pos (le_finite_iff.mpr h)
  · rw [max_eq_left h.le]
    exact if_neg fun hle => not_le.mpr h (le_finite_iff.mp hle)

/-- What is finite is clamped as a rational is. -/
@[simp] theorem clamp_finite (lo hi q : ℚ) : clamp lo hi (finite q) = finite (Js.clamp lo hi q) := by
  unfold clamp Js.clamp
  rw [mathMin_finite, mathMax_finite]

/-- Clamping never swaps two numbers: an infinity is clamped to one of the bounds. -/
theorem clamp_mono {lo hi : ℚ} (hbounds : lo ≤ hi) {x y : Double} (h : x.le y = true) :
    (clamp lo hi x).le (clamp lo hi y) = true := by
  have hlow : clamp lo hi (infinite true) = finite lo := rfl
  have hhigh : clamp lo hi (infinite false) = finite hi :=
      (mathMax_finite lo hi).trans (by rw [max_eq_right hbounds])
  obtain ⟨hx, hy⟩ := ne_nan_of_le h
  rcases x with _ | p | _ | _
  · exact absurd rfl hx
  · rcases y with _ | q | _ | _
    · exact absurd rfl hy
    · rw [clamp_finite, clamp_finite]
      exact le_finite_iff.mpr (Js.clamp_mono (le_finite_iff.mp h))
    · rw [clamp_finite, hhigh]
      exact le_finite_iff.mpr (clamp_le hbounds)
    · cases h
  · rcases y with _ | q | _ | _
    · cases h
    · cases h
    · rw [hhigh]
      exact le_finite_iff.mpr le_rfl
    · cases h
  · rw [hlow]
    rcases y with _ | q | _ | _
    · exact absurd rfl hy
    · rw [clamp_finite]
      exact le_finite_iff.mpr (le_clamp ..)
    · rw [hhigh]
      exact le_finite_iff.mpr hbounds
    · exact le_finite_iff.mpr le_rfl

end Double

end Js
