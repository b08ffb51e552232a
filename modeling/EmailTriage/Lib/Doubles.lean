import Mathlib.Algebra.Group.Int.Defs
import Mathlib.Data.List.TakeWhile
import EmailTriage.Lib.JsNumber
import EmailTriage.Lib.JsValue

/-!
# Doubles

What rounding to 53 significant bits does to integers: it keeps those below 2 ^ 53, and it never swaps
two of them (`roundToDouble_mono`). Numbers that may be fractions are exact rationals, beside NaN and
the infinities.
-/

namespace Js

/-! ## Rounding to a unit

Rounding to the multiples of a unit, ties to the even multiple.
-/

/-- The multiple of a unit nearest to a number, or the even one of two that are equally near. -/
def roundTo (unit n : ℕ) : ℕ :=
  if unit < 2 * (n % unit) ∨ (2 * (n % unit) = unit ∧ n / unit % 2 = 1) then (n / unit + 1) * unit
  else n / unit * unit

/-- The weight of the last of 53 significant bits. -/
def lastPlace (n : ℕ) : ℕ := 2 ^ (n.log2 - 52)

/-- A whole number is rounded to the last place that its size leaves. -/
theorem roundToDouble_eq (n : ℕ) : roundToDouble n = roundTo (lastPlace n) n := rfl

/-- Rounding goes no further down than to the multiple below. -/
theorem le_roundTo (unit n : ℕ) : n / unit * unit ≤ roundTo unit n := by
  unfold roundTo
  split
  · exact Nat.mul_le_mul_right unit (Nat.le_succ _)
  · exact le_refl _

/-- Rounding goes no further up than to the multiple above. -/
theorem roundTo_le (unit n : ℕ) : roundTo unit n ≤ (n / unit + 1) * unit := by
  unfold roundTo
  split
  · exact le_refl _
  · exact Nat.mul_le_mul_right unit (Nat.le_succ _)

/-- Whole numbers are multiples of one. -/
theorem roundTo_one (n : ℕ) : roundTo 1 n = n := by
  unfold roundTo
  rw [Nat.mod_one, Nat.div_one, if_neg (by omega), Nat.mul_one]

/-- Rounding to the multiples of a unit keeps the order. -/
theorem roundTo_mono (unit : ℕ) {m n : ℕ} (h : m ≤ n) : roundTo unit m ≤ roundTo unit n := by
  rcases Nat.eq_or_lt_of_le (Nat.div_le_div_right (c := unit) h) with hquotient | hquotient
  · -- between the same multiples, the remainder decides
    have hremainder : m % unit ≤ n % unit := by
      have hm := Nat.div_add_mod m unit
      have hn := Nat.div_add_mod n unit
      rw [hquotient] at hm
      omega
    unfold roundTo
    rw [hquotient]
    split
    · next hup =>
      rw [if_pos]
      rcases hup with hup | ⟨hhalf, hodd⟩
      · exact .inl (by omega)
      · rcases Nat.eq_or_lt_of_le hremainder with heq | hlt
        · exact .inr ⟨by rw [← heq]; exact hhalf, hodd⟩
        · exact .inl (by omega)
    · split
      · exact Nat.mul_le_mul_right unit (Nat.le_succ _)
      · exact le_refl _
  · calc roundTo unit m
      _ ≤ (m / unit + 1) * unit := roundTo_le unit m
      _ ≤ n / unit * unit := Nat.mul_le_mul_right unit hquotient
      _ ≤ roundTo unit n := le_roundTo unit n

/-! ## Rounding to 53 bits

Whole numbers of more than 53 bits are rounded to a multiple of a power of two, which grows with the
number; the order is kept across the places where it grows.
-/

/-- A number of at most 53 bits is a double. -/
theorem roundToDouble_of_lt {n : ℕ} (h : n < 2 ^ 53) : roundToDouble n = n := by
  have hlog : n.log2 - 52 = 0 := by
    rcases Nat.eq_zero_or_pos n with rfl | hn
    · rfl
    · have := (Nat.log2_lt hn.ne').mpr h
      omega
  rw [roundToDouble_eq, lastPlace, hlog]
  exact roundTo_one n

/-- A number beyond 2 ^ 53 is rounded to one between the powers of two around it. -/
theorem roundToDouble_bounds {n : ℕ} (h : 52 ≤ n.log2) :
    2 ^ n.log2 ≤ roundToDouble n ∧ roundToDouble n ≤ 2 ^ (n.log2 + 1) := by
  have hn : n ≠ 0 := by
    rintro rfl
    exact absurd h (by decide)
  have hunit : 0 < lastPlace n := Nat.two_pow_pos _
  have hlow : 2 ^ 52 * lastPlace n = 2 ^ n.log2 := by
    rw [lastPlace, ← Nat.pow_add, Nat.add_sub_cancel' h]
  have hhigh : 2 ^ 53 * lastPlace n = 2 ^ (n.log2 + 1) := by
    rw [lastPlace, ← Nat.pow_add]
    congr 1
    omega
  rw [roundToDouble_eq]
  constructor
  · have hquotient : 2 ^ 52 ≤ n / lastPlace n := by
      rw [Nat.le_div_iff_mul_le hunit, hlow]
      exact Nat.log2_self_le hn
    calc 2 ^ n.log2
      _ = 2 ^ 52 * lastPlace n := hlow.symm
      _ ≤ n / lastPlace n * lastPlace n := Nat.mul_le_mul_right _ hquotient
      _ ≤ roundTo (lastPlace n) n := le_roundTo _ n
  · have hquotient : n / lastPlace n + 1 ≤ 2 ^ 53 := by
      rw [Nat.succ_le_iff, Nat.div_lt_iff_lt_mul hunit, hhigh]
      exact Nat.lt_log2_self
    calc roundTo (lastPlace n) n
      _ ≤ (n / lastPlace n + 1) * lastPlace n := roundTo_le _ n
      _ ≤ 2 ^ 53 * lastPlace n := Nat.mul_le_mul_right _ hquotient
      _ = 2 ^ (n.log2 + 1) := hhigh

/-- Rounding to doubles keeps the order, although the unit changes with the size. -/
theorem roundToDouble_mono {m n : ℕ} (h : m ≤ n) : roundToDouble m ≤ roundToDouble n := by
  by_cases hplace : lastPlace m = lastPlace n
  · rw [roundToDouble_eq, roundToDouble_eq, hplace]
    exact roundTo_mono _ h
  · -- a power of two lies between them
    have hlog : m.log2 ≤ n.log2 := by
      rcases eq_or_ne m 0 with rfl | hm
      · exact Nat.zero_le _
      · exact (Nat.le_log2 (by omega)).mpr ((Nat.log2_self_le hm).trans h)
    have hbits : m.log2 - 52 ≠ n.log2 - 52 := fun heq => hplace (congrArg (2 ^ ·) heq)
    refine le_trans ?_ (roundToDouble_bounds (by omega)).1
    by_cases hm : 52 ≤ m.log2
    · exact (roundToDouble_bounds hm).2.trans (Nat.pow_le_pow_right (by decide) (by omega))
    · have hsmall : m < 2 ^ 53 := Nat.lt_log2_self.trans_le (Nat.pow_le_pow_right (by decide) (by omega))
      rw [roundToDouble_of_lt hsmall]
      exact hsmall.le.trans (Nat.pow_le_pow_right (by decide) (by omega))

/-- Rounding keeps powers of two as bounds. -/
theorem roundToDouble_le_two_pow {n k : ℕ} (h : n ≤ 2 ^ k) : roundToDouble n ≤ 2 ^ k := by
  refine (roundToDouble_mono h).trans (le_of_eq ?_)
  rw [roundToDouble_eq, lastPlace, Nat.log2_two_pow]
  rcases Nat.lt_or_ge k 52 with hk | hk
  · rw [Nat.sub_eq_zero_of_le hk.le]
    exact roundTo_one _
  · have hdvd : 2 ^ (k - 52) ∣ 2 ^ k := Nat.pow_dvd_pow 2 (Nat.sub_le _ _)
    unfold roundTo
    rw [Nat.mod_eq_zero_of_dvd hdvd, if_neg (by have := Nat.two_pow_pos (k - 52); omega)]
    exact Nat.div_mul_cancel hdvd

/-! ## Integers as doubles

What `parseInt` makes of a decimal text, however long it is.
-/

/-- A number up to a power of two is rounded to one of at most as many bits. -/
theorem log2_roundToDouble_le {n k : ℕ} (h : n ≤ 2 ^ k) : (roundToDouble n).log2 ≤ k := by
  rcases eq_or_ne (roundToDouble n) 0 with hzero | hne
  · rw [hzero]
    exact Nat.zero_le k
  · refine Nat.lt_succ_iff.mp ((Nat.log2_lt hne).mpr ?_)
    exact (roundToDouble_le_two_pow h).trans_lt (Nat.pow_lt_pow_right (by decide) (Nat.lt_succ_self k))

/-- A number up to a power of two in the range of doubles does not become infinite. -/
theorem toNumber_of_le {n k : ℕ} (h : n ≤ 2 ^ k) (hk : k < 1024) (negative : Bool) :
    toNumber negative n = .finite (if negative then -roundToDouble n else roundToDouble n) := by
  unfold toNumber
  dsimp only
  rw [if_pos ((log2_roundToDouble_le h).trans_lt hk)]

/-- Numbers that are not equally near to a double are in the order of their doubles. -/
theorem roundToDouble_le_iff {m n : ℕ} :
    (roundToDouble m ≤ roundToDouble n ↔ m ≤ n) ↔ m ≤ n ∨ roundToDouble m ≠ roundToDouble n := by
  constructor
  · intro h
    by_cases hround : roundToDouble m = roundToDouble n
    · exact .inl (h.mp hround.le)
    · exact .inr hround
  · rintro (h | h)
    · exact iff_of_true (roundToDouble_mono h) h
    · refine ⟨fun hle => ?_, roundToDouble_mono⟩
      by_contra hlt
      exact h (Nat.le_antisymm hle (roundToDouble_mono (Nat.le_of_not_le hlt)))

/-- The codes of the digits. -/
theorem toNat_of_isDigit {c : Char} (h : c.isDigit = true) : 48 ≤ c.toNat ∧ c.toNat ≤ 57 := by
  simp only [Char.isDigit, Bool.and_eq_true, decide_eq_true_eq, ge_iff_le, UInt32.le_iff_toNat_le] at h
  exact h

/-- A digit is no white space. -/
theorem isWhiteSpace_of_isDigit {c : Char} (h : c.isDigit = true) : isWhiteSpace c = false := by
  have hc := toNat_of_isDigit h
  have hlist : ∀ k ≤ 57, 48 ≤ k →
      k ∉ [0x9, 0xa, 0xb, 0xc, 0xd, 0x20, 0xa0, 0x1680, 0x2028, 0x2029, 0x202f, 0x205f, 0x3000, 0xfeff] := by
    decide
  rw [isWhiteSpace, decide_eq_false (hlist c.toNat hc.2 hc.1), decide_eq_false (by omega)]
  rfl

/-- `parseInt` reads a text of decimal digits as its double. -/
theorem parseInt_of_decimal {s : String} {n : ℕ} (h : decimal s = some n) :
    parseInt s = toNumber false n := by
  unfold decimal at h
  split at h
  · next hdigits =>
    obtain ⟨hne, hall⟩ := hdigits
    obtain rfl := Option.some.inj h
    have htake : s.toList.takeWhile Char.isDigit = s.toList :=
      List.takeWhile_eq_self_iff.mpr (List.all_eq_true.mp hall)
    rcases hs : s.toList with _ | ⟨c, cs⟩
    · exact absurd hs hne
    · rw [hs] at hall htake
      have hc : c.isDigit = true := List.all_eq_true.mp hall c List.mem_cons_self
      unfold parseInt
      rw [hs, List.dropWhile_cons_of_neg (by rw [isWhiteSpace_of_isDigit hc]; decide)]
      have hminus : c ≠ '-' := by
        rintro rfl
        cases hc
      have hplus : c ≠ '+' := by
        rintro rfl
        cases hc
      simp [hminus, hplus, htake]
  · cases h

/-- The digits of a number spell it. -/
theorem decimal_repr (n : ℕ) : decimal n.repr = some n := by
  have hdigits : n.repr.toList = Nat.toDigits 10 n := Nat.toList_repr
  have hall : (Nat.toDigits 10 n).all Char.isDigit = true :=
    List.all_eq_true.mpr fun c hc => Nat.isDigit_of_mem_toDigits (by decide) (le_refl 10) hc
  unfold decimal
  rw [hdigits, if_pos ⟨Nat.toDigits_ne_nil, hall⟩]
  exact congrArg some Nat.ofDigitChars_ten_toDigits

/-! ## Reading without a radix

Without a radix `parseInt` reads hexadecimal digits too, and a sign. What matters to the callers is
when the number is negative and which decimal texts stand for themselves.
-/

/-- A minus and digits that are not all zero. -/
def SpellsNegative (s : String) : Prop :=
  (readSign s).1 = true ∧ ∃ d ∈ (leadingDigits (readSign s).2).2, d ≠ 0

instance (s : String) : Decidable (SpellsNegative s) := inferInstanceAs (Decidable (_ ∧ _))

/-- A positive whole number is not rounded to zero. -/
theorem roundToDouble_pos {n : ℕ} (h : 0 < n) : 0 < roundToDouble n := by
  have hone : roundToDouble 1 = 1 := roundToDouble_of_lt (by decide)
  have hmono : roundToDouble 1 ≤ roundToDouble n := roundToDouble_mono h
  omega

/-- Minus zero is not below zero. -/
theorem isNegative_toNumber {negative : Bool} {n : ℕ} :
    (toNumber negative n).isNegative = true ↔ negative = true ∧ 0 < n := by
  have hround : 0 < n ↔ 0 < roundToDouble n := by
    constructor
    · exact roundToDouble_pos
    · intro h
      by_contra hn
      obtain rfl : n = 0 := by omega
      exact absurd h (by decide)
  rw [hround]
  unfold toNumber
  dsimp only
  split_ifs with hsmall hnegative
  · unfold Number.isNegative
    rw [decide_eq_true_eq, Int.neg_lt_zero_iff, Int.natCast_pos]
    exact (and_iff_right hnegative).symm
  · unfold Number.isNegative
    rw [decide_eq_true_eq]
    exact iff_of_false (Int.not_lt.mpr (Int.natCast_nonneg _)) fun h => hnegative h.1
  · -- a number beyond the doubles is not zero
    refine (and_iff_left (Nat.pos_of_ne_zero ?_)).symm
    intro hzero
    rw [hzero] at hsmall
    exact hsmall (by decide)

/-- Digits spell zero when they are zeros. -/
theorem foldl_digits_pos {base : ℕ} (hbase : 0 < base) {digits : List ℕ} {n : ℕ} :
    0 < digits.foldl (fun n d => base * n + d) n ↔ 0 < n ∨ ∃ d ∈ digits, d ≠ 0 := by
  induction digits generalizing n with
  | nil => simp
  | cons d digits ih =>
    rw [List.foldl_cons, ih]
    have hstep : 0 < base * n + d ↔ 0 < n ∨ d ≠ 0 := by
      rw [Nat.add_pos_iff_pos_or_pos, Nat.mul_pos_iff_of_pos_left hbase, Nat.pos_iff_ne_zero (n := d)]
    rw [hstep, or_assoc]
    simp

/-- The base is ten or sixteen. -/
theorem leadingDigits_base_pos (cs : List Char) : 0 < (leadingDigits cs).1 := by
  unfold leadingDigits
  split
  · exact Nat.succ_pos 15
  · exact Nat.succ_pos 15
  · exact Nat.succ_pos 9

/-- A text is read as a negative number when it spells one. -/
theorem isNegative_parseIntAnyBase {s : String} :
    (parseIntAnyBase s).isNegative = true ↔ SpellsNegative s := by
  unfold parseIntAnyBase SpellsNegative
  rcases readSign s with ⟨negative, rest⟩
  have hbase := leadingDigits_base_pos rest
  dsimp only
  rcases hdigits : leadingDigits rest with ⟨base, _ | ⟨d, digits⟩⟩
  · simp [Number.isNegative]
  · rw [hdigits] at hbase
    dsimp only
    rw [isNegative_toNumber, foldl_digits_pos hbase]
    simp

/-- The digits of a decimal text, read without a radix. -/
theorem foldl_digitsWhile {cs : List Char} (hall : cs.all Char.isDigit = true) (n : ℕ) :
    (digitsWhile decimalDigit cs).foldl (fun n d => 10 * n + d) n
      = cs.foldl (fun n c => 10 * n + (c.toNat - '0'.toNat)) n := by
  induction cs generalizing n with
  | nil => rfl
  | cons c cs ih =>
    rw [List.all_cons, Bool.and_eq_true] at hall
    have hdigit : decimalDigit c = some (c.toNat - '0'.toNat) := if_pos hall.1
    rw [digitsWhile, hdigit, List.foldl_cons, List.foldl_cons]
    exact ih hall.2 _

/-- A text of decimal digits has base 10. -/
theorem leadingDigits_of_decimal {cs : List Char} (hall : cs.all Char.isDigit = true) :
    leadingDigits cs = (10, digitsWhile decimalDigit cs) := by
  have hx : ∀ c ∈ cs, c ≠ 'x' ∧ c ≠ 'X' := by
    intro c hc
    have hdigit := List.all_eq_true.mp hall c hc
    constructor <;> rintro rfl <;> cases hdigit
  unfold leadingDigits
  split
  · exact absurd rfl (hx 'x' (by simp)).1
  · exact absurd rfl (hx 'X' (by simp)).2
  · rfl

/-- A text of decimal digits is read as its double without a radix, too. -/
theorem parseIntAnyBase_of_decimal {s : String} {n : ℕ} (h : decimal s = some n) :
    parseIntAnyBase s = toNumber false n := by
  unfold decimal at h
  split_ifs at h with hdigits
  obtain ⟨hne, hall⟩ := hdigits
  obtain rfl := Option.some.inj h
  have hsign : readSign s = (false, s.toList) := by
    rcases hs : s.toList with _ | ⟨c, cs⟩
    · exact absurd hs hne
    · rw [hs] at hall
      -- a digit is no sign and no white space
      have hc : c.isDigit = true := List.all_eq_true.mp hall c List.mem_cons_self
      have hminus : c ≠ '-' := by
        rintro rfl
        cases hc
      have hplus : c ≠ '+' := by
        rintro rfl
        cases hc
      unfold readSign
      rw [hs, List.dropWhile_cons_of_neg (by rw [isWhiteSpace_of_isDigit hc]; decide)]
      simp [hminus, hplus]
  unfold parseIntAnyBase
  rw [hsign]
  dsimp only
  rw [leadingDigits_of_decimal hall]
  rcases hread : digitsWhile decimalDigit s.toList with _ | ⟨d, digits⟩
  · -- a text that is not empty has a first digit
    rcases hs : s.toList with _ | ⟨c, cs⟩
    · exact absurd hs hne
    · rw [hs] at hall hread
      have hc : c.isDigit = true := List.all_eq_true.mp hall c List.mem_cons_self
      have hdigit : decimalDigit c = some (c.toNat - '0'.toNat) := if_pos hc
      rw [digitsWhile, hdigit] at hread
      cases hread
  · dsimp only
    rw [← hread, foldl_digitsWhile hall]
    rfl

/-- Integers of less than 53 bits are doubles. -/
theorem ofBigInt_of_lt {z : ℤ} (h : z.natAbs < 2 ^ 53) : ofBigInt z = .finite z := by
  rw [ofBigInt, toNumber_of_le h.le (by decide), roundToDouble_of_lt h]
  congr 1
  split
  · next hneg =>
    have := of_decide_eq_true hneg
    omega
  · next hneg =>
    have := of_decide_eq_false (Bool.eq_false_iff.mpr hneg)
    omega

namespace Number

/-- `x + y`: the sum, rounded. -/
def add : Number → Number → Number
  | .finite x, .finite y => ofBigInt (x + y)
  | .infinite x, .infinite y => if x = y then .infinite x else .nan
  | .infinite x, .finite _ => .infinite x
  | .finite _, .infinite y => .infinite y
  | _, _ => .nan

/-- `-x`. -/
def neg : Number → Number
  | .nan => .nan
  | .finite x => .finite (-x)
  | .infinite negative => .infinite !negative

/-- `x - y`. -/
def sub (x y : Number) : Number := x.add y.neg

/-- `Math.abs(x)`. -/
def abs : Number → Number
  | .nan => .nan
  | .finite x => .finite x.natAbs
  | .infinite _ => .infinite false

/-- `x % y`, with the sign of `x`. -/
def mod : Number → Number → Number
  | .finite x, .finite y => if y = 0 then .nan else .finite (x.tmod y)
  | .finite x, .infinite _ => .finite x
  | _, _ => .nan

/-- The 32 bits of a number that the bitwise operators work on. -/
def toInt32 : Number → BitVec 32
  | .finite x => .ofInt 32 x
  | _ => 0

/-- `x << n`. -/
def shiftLeft (x : Number) (n : ℕ) : Number := .finite (x.toInt32 <<< n).toInt

/-- `x & y`. -/
def and (x y : Number) : Number := .finite (x.toInt32 &&& y.toInt32).toInt

/-- A sum of at most 53 bits is exact. -/
theorem add_finite {x y : ℤ} (h : (x + y).natAbs < 2 ^ 53) :
    (finite x).add (.finite y) = .finite (x + y) := ofBigInt_of_lt h

/-- A difference of at most 53 bits is exact. -/
theorem sub_finite {x y : ℤ} (h : (x - y).natAbs < 2 ^ 53) :
    (finite x).sub (.finite y) = .finite (x - y) := ofBigInt_of_lt h

/-- A shift of an integer, in the range of 32 bits. -/
theorem shiftLeft_finite (x : ℤ) (n : ℕ) :
    (finite x).shiftLeft n = .finite ((x * 2 ^ n).bmod (2 ^ 32)) := by
  have hpow : BitVec.twoPow 32 n = BitVec.ofInt 32 (2 ^ n) := by
    apply BitVec.eq_of_toNat_eq
    rw [BitVec.toNat_twoPow, BitVec.toNat_ofInt]
    norm_cast
  rw [shiftLeft, toInt32, BitVec.shiftLeft_eq_mul_twoPow, hpow, ← BitVec.ofInt_mul, BitVec.toInt_ofInt]

/-- The and of an integer with itself, in the range of 32 bits. -/
theorem and_self_finite (x : ℤ) : (finite x).and (.finite x) = .finite (x.bmod (2 ^ 32)) := by
  rw [Number.and, BitVec.and_self, toInt32, BitVec.toInt_ofInt]

end Number

/-! ## Fractions

Doubles with fractions, the infinities and what is not a number, with their order. Nothing is at most, or
less than, what is not a number.
-/

/-- A double that may be a fraction. -/
inductive Double where
  | nan
  | finite (q : ℚ)
  | infinite (negative : Bool)
deriving DecidableEq

/-- A number that `parseInt` or integer arithmetic returns. -/
def Number.toDouble : Number → Double
  | .nan => .nan
  | .finite z => .finite z
  | .infinite negative => .infinite negative

namespace Double

/-- `x <= y`; a comparison with NaN is false. -/
def le : Double → Double → Bool
  | .nan, _ => false
  | _, .nan => false
  | .finite x, .finite y => x ≤ y
  | .infinite true, _ => true
  | _, .infinite false => true
  | _, _ => false

/-- `x < y`. -/
def lt : Double → Double → Bool
  | .nan, _ => false
  | _, .nan => false
  | x, y => !y.le x

/-- The order of finite doubles is the one of their values. -/
theorem le_finite_iff {x y : ℚ} : (finite x).le (finite y) = true ↔ x ≤ y := decide_eq_true_iff

/-- So is the strict one. -/
theorem lt_finite_iff {x y : ℚ} : (finite x).lt (finite y) = true ↔ x < y := by
  have hlt : (finite x).lt (finite y) = !(finite y).le (finite x) := rfl
  rw [hlt, Bool.not_eq_true', ← Bool.not_eq_true, le_finite_iff]
  exact Rat.not_le

/-- Only numbers are in order. -/
theorem ne_nan_of_le {x y : Double} (h : x.le y = true) : x ≠ nan ∧ y ≠ nan := by
  constructor
  · rintro rfl
    cases h
  · rintro rfl
    cases x <;> cases h

/-- Of two numbers, one is not below the other exactly if the other is at most it. -/
theorem lt_eq_false_iff {x y : Double} (hx : x ≠ nan) (hy : y ≠ nan) :
    x.lt y = false ↔ y.le x = true := by
  have hlt : x.lt y = !y.le x := by
    unfold lt
    split
    · exact absurd rfl hx
    · exact absurd rfl hy
    · rfl
  rw [hlt, Bool.not_eq_false']

/-- A number is at most itself, if it is one. -/
theorem le_refl {x : Double} (h : x ≠ nan) : x.le x = true := by
  rcases x with _ | p | _ | _
  · exact absurd rfl h
  · exact le_finite_iff.mpr Rat.le_refl
  · rfl
  · rfl

/-- The order is transitive. -/
theorem le_trans {x y z : Double} (h : x.le y = true) (h' : y.le z = true) : x.le z = true := by
  rcases x with _ | p | _ | _
  · cases h
  · rcases y with _ | q | _ | _ <;> rcases z with _ | r | _ | _ <;> try cases h'
    · exact le_finite_iff.mpr (Rat.le_trans (le_finite_iff.mp h) (le_finite_iff.mp h'))
    all_goals first | rfl | cases h
  · -- nothing but plus infinity is above plus infinity
    rcases y with _ | q | _ | _
    · cases h
    · cases h
    · exact h'
    · cases h
  · rcases z with _ | r | _ | _
    · exact absurd rfl (ne_nan_of_le h').2
    all_goals rfl

/-- What is compared successfully is a number. -/
theorem ne_nan_of_lt {x y : Double} (h : x.lt y = true) : x ≠ nan ∧ y ≠ nan := by
  constructor
  · rintro rfl
    cases h
  · rintro rfl
    cases x <;> cases h

/-- A strict step and another one. -/
theorem lt_of_lt_of_le {x y z : Double} (h : x.lt y = true) (h' : y.le z = true) : x.lt z = true := by
  obtain ⟨hx, hy⟩ := ne_nan_of_lt h
  by_contra hxz
  rw [Bool.not_eq_true, lt_eq_false_iff hx (ne_nan_of_le h').2] at hxz
  rw [(lt_eq_false_iff hx hy).mpr (le_trans h' hxz)] at h
  cases h

/-- A step and a strict one. -/
theorem lt_of_le_of_lt {x y z : Double} (h : x.le y = true) (h' : y.lt z = true) : x.lt z = true := by
  obtain ⟨hy, hz⟩ := ne_nan_of_lt h'
  by_contra hxz
  rw [Bool.not_eq_true, lt_eq_false_iff (ne_nan_of_le h).1 hz] at hxz
  rw [(lt_eq_false_iff hy hz).mpr (le_trans hxz h)] at h'
  cases h'

/-- `BigInt(x)`, which throws unless the number is an integer. -/
def toBigInt : Double → Except Exception ℤ
  | .finite q => if q.den = 1 then .ok q.num else .error .rangeError
  | _ => .error .rangeError

/-- A whole number becomes itself. -/
theorem toBigInt_finite (z : ℤ) : (finite z).toBigInt = .ok z := rfl

/-- `BigInt` throws on every number but the integers. -/
theorem toBigInt_eq_error {x : Double} (h : ∀ z : ℤ, x ≠ .finite z) : x.toBigInt = .error .rangeError := by
  cases x with
  | nan => rfl
  | infinite negative => rfl
  | finite q =>
    refine if_neg fun hden => h q.num ?_
    rw [(Rat.den_eq_one_iff q).mp hden]

end Double

/-! ## The text of an integer

The text that an integer prints begins with a digit or a minus sign.
-/

/-- The text of a natural number begins with a digit. -/
theorem exists_toList_toString_nat (n : ℕ) :
    ∃ c cs, (toString n).toList = c :: cs ∧ c.isDigit = true := by
  have hdigits : (toString n).toList = Nat.toDigits 10 n := String.toList_ofList
  rcases hn : Nat.toDigits 10 n with _ | ⟨c, cs⟩
  · exact absurd hn Nat.toDigits_ne_nil
  · refine ⟨c, cs, hdigits.trans hn, ?_⟩
    exact Nat.isDigit_of_mem_toDigits (by decide) (le_refl 10) (hn ▸ List.mem_cons_self)

/-- The text of a negative number is a minus sign and its absolute value. -/
theorem toList_toString_negSucc (n : ℕ) :
    (toString (Int.negSucc n)).toList = '-' :: (toString (n + 1)).toList := by
  have hneg : toString (Int.negSucc n) = "-" ++ toString (n + 1) := rfl
  rw [hneg, String.toList_append]
  rfl

/-- The text of an integer begins with a digit or a minus sign. -/
theorem exists_toList_toString (n : ℤ) :
    ∃ c cs, (toString n).toList = c :: cs ∧ (c = '-' ∨ c.isDigit = true) := by
  rcases n with m | m
  · obtain ⟨c, cs, hcs, hdigit⟩ := exists_toList_toString_nat m
    exact ⟨c, cs, hcs, .inr hdigit⟩
  · exact ⟨'-', _, toList_toString_negSucc m, .inl rfl⟩

end Js
