import EmailTriage.Prioritization.RoundedPriority

/-!
# What lasts of a contribution

A weight between zero and one draws a whole number towards zero, as far as rounding lets it: what lasts
of the number is the largest part that the weight does not change. So the number and its lasting part
bound all that the number becomes, from both sides and however often it is weighted.

All of this is computed with doubles. The proofs do not look at what is rounded: products never swap
two numbers, whatever they are rounded to (`weighted_mono`), and a whole number of the size of a
contribution is a double.

## Lasting parts

`exists_lasts` describes them: they are kept by the weight, have the sign of the number, and are the
largest such part. A number that is weighted keeps what lasts of it (`lasting_weighted`), since the
number that it becomes lies between. `exists_bounds` is what the rounds of scoring need: two bounds,
and the weight leads from between them to between them.
-/

namespace EmailTriage.Prioritization.Rounded

open Js

namespace MessagePriority

/-- What lasts of a whole number that a weight is applied to again and again: the largest part of it
that the weight does not change. -/
def lasting (weight : Double) : Double → Double
  | .finite q =>
    if 0 ≤ q then
      .finite (Nat.findGreatest (fun n => weighted weight (.finite n) = .finite n) ⌊q⌋.toNat : ℕ)
    else .finite (-(Nat.findGreatest
      (fun n => weighted weight (.finite (-n)) = .finite (-n)) ⌊-q⌋.toNat : ℕ))
  | c => c

/-- The least that a contribution becomes: what lasts of it if it counts for the message, and the whole
contribution if it counts against it. -/
def least (weight c : Double) : Double := if Double.le (.finite 0) c then lasting weight c else c

/-- The most that a contribution becomes. -/
def most (weight c : Double) : Double := if Double.le (.finite 0) c then c else lasting weight c

/-- A weight between zero and one. -/
def IsShare (weight : Double) : Prop := Double.le (.finite 0) weight = true ∧ weight.le (.finite 1) = true

instance (weight : Double) : Decidable (IsShare weight) := inferInstanceAs (Decidable (_ ∧ _))

/-! ## Whole numbers under a weight

A contribution is weighted and rounded to a whole number. A weight between zero and one brings a whole
number no further from zero, and keeps the order.
-/

/-- A whole number within the range of contributions is a double, and stays what it is when it is
rounded. -/
theorem mathRound_ofRat {z : ℤ} (h : |z| ≤ 100) : (Double.ofRat z).mathRound = .finite z := by
  rw [Double.ofRat_intCast (h.trans_lt (by norm_num))]
  show Double.finite (round (z : ℚ) : ℤ) = .finite z
  rw [round_intCast]

/-- What is rounded to a number between two whole ones is a whole one. -/
theorem exists_mathRound_eq {x : Double} {l h : ℤ} (hl : Double.le (.finite l) x.mathRound = true)
    (hh : x.mathRound.le (.finite h) = true) : ∃ z : ℤ, x.mathRound = .finite z ∧ l ≤ z ∧ z ≤ h := by
  rcases x with _ | q | _ | _
  · cases hh
  · exact ⟨round q, rfl, by exact_mod_cast Double.le_finite_iff.mp hl,
      by exact_mod_cast Double.le_finite_iff.mp hh⟩
  · cases hh
  · cases hl

/-- What is stored is a whole number within the range, or no number. -/
theorem eq_of_not_outOfRange {weight c : Double} (h : outOfRange (weighted weight c) = false) :
    weighted weight c = .nan ∨ ∃ z : ℤ, weighted weight c = .finite z ∧ |z| ≤ 100 := by
  unfold weighted at h ⊢
  rcases hproduct : c.mul weight with _ | q | _ | _
  · exact .inl rfl
  · right
    rw [hproduct] at h
    obtain ⟨hlo, hhi⟩ := Bool.or_eq_false_iff.mp h
    refine ⟨round q, rfl, abs_le.mpr ⟨?_, ?_⟩⟩
    · have hle := (Double.lt_eq_false_iff (by rintro ⟨⟩) (by rintro ⟨⟩)).mp hlo
      exact_mod_cast Double.le_finite_iff.mp hle
    · have hle := (Double.lt_eq_false_iff (by rintro ⟨⟩) (by rintro ⟨⟩)).mp hhi
      exact_mod_cast Double.le_finite_iff.mp hle
  · rw [hproduct] at h
    exact absurd h (by decide)
  · rw [hproduct] at h
    exact absurd h (by decide)

/-- A weight between zero and one is a finite number. -/
theorem IsShare.finite {weight : Double} (h : IsShare weight) :
    ∃ w : ℚ, weight = .finite w ∧ 0 ≤ w ∧ w ≤ 1 := by
  obtain ⟨hlo, hhi⟩ := h
  rcases weight with _ | w | _ | _
  · cases hhi
  · exact ⟨w, rfl, Double.le_finite_iff.mp hlo, Double.le_finite_iff.mp hhi⟩
  · cases hhi
  · cases hlo

section Share

variable {w : ℚ} (hw : 0 ≤ w) (hw' : w ≤ 1)

include hw

/-- A larger contribution has a larger weighted one. -/
theorem weighted_mono {c c' : ℚ} (h : c ≤ c') :
    (weighted (.finite w) (.finite c)).le (weighted (.finite w) (.finite c')) = true :=
  Double.mathRound_mono (Double.mul_finite_mono hw h)

include hw'

/-- A whole number that is weighted comes nearer to zero. -/
theorem exists_weighted_eq {z : ℤ} (hz : |z| ≤ 100) :
    ∃ z' : ℤ, weighted (.finite w) (.finite z) = .finite z' ∧ (0 ≤ z → 0 ≤ z' ∧ z' ≤ z) ∧
      (z ≤ 0 → z ≤ z' ∧ z' ≤ 0) := by
  have hzero : (Double.ofRat (0 : ℤ)).mathRound = .finite (0 : ℤ) := mathRound_ofRat (by decide)
  have hself := mathRound_ofRat hz
  rcases le_total 0 z with hsign | hsign
  · have hcast : (0 : ℚ) ≤ z := by exact_mod_cast hsign
    have hlo := Double.mathRound_mono (Double.ofRat_mono (p := (0 : ℤ)) (q := z * w)
      (by rw [Int.cast_zero]; exact mul_nonneg hcast hw))
    have hhi := Double.mathRound_mono
        (Double.ofRat_mono (p := z * w) (q := z) (mul_le_of_le_one_right hcast hw'))
    rw [hzero] at hlo
    rw [hself] at hhi
    obtain ⟨z', hz', h0, hle⟩ := exists_mathRound_eq hlo hhi
    exact ⟨z', hz', fun _ => ⟨h0, hle⟩, fun h => by omega⟩
  · have hcast : (z : ℚ) ≤ 0 := by exact_mod_cast hsign
    have hlo := Double.mathRound_mono (Double.ofRat_mono (p := z) (q := z * w) (by nlinarith))
    have hhi := Double.mathRound_mono (Double.ofRat_mono (p := z * w) (q := (0 : ℤ))
      (by rw [Int.cast_zero]; exact mul_nonpos_of_nonpos_of_nonneg hcast hw))
    rw [hself] at hlo
    rw [hzero] at hhi
    obtain ⟨z', hz', hge, h0⟩ := exists_mathRound_eq hlo hhi
    exact ⟨z', hz', fun h => by omega, fun _ => ⟨hge, h0⟩⟩

end Share

/-! ## What lasts

Weighting again and again ends at a number that its weight leaves as it is: the largest such number on the
way to zero.
-/

/-- The parts of a whole number that count for the message. -/
theorem lasting_natCast (weight : Double) (n : ℕ) : lasting weight (.finite n) =
    .finite (Nat.findGreatest (fun m => weighted weight (.finite m) = .finite m) n : ℕ) := by
  unfold lasting
  dsimp only
  rw [if_pos (Nat.cast_nonneg n), Int.floor_natCast, Int.toNat_natCast]

/-- The parts of a whole number that count against it. -/
theorem lasting_neg_natCast (weight : Double) {n : ℕ} (hn : 0 < n) : lasting weight (.finite (-n)) =
    .finite (-(Nat.findGreatest (fun m => weighted weight (.finite (-m)) = .finite (-m)) n : ℕ)) := by
  have hpos : (0 : ℚ) < n := by exact_mod_cast hn
  unfold lasting
  dsimp only
  rw [if_neg (by linarith), neg_neg, Int.floor_natCast, Int.toNat_natCast]

/-- A whole number that the weight does not change lasts. -/
theorem lasting_of_kept {weight : Double} {z : ℤ} (h : weighted weight (.finite z) = .finite z) :
    lasting weight (.finite z) = .finite z := by
  obtain ⟨n, rfl | rfl⟩ := Int.eq_nat_or_neg z
  · rw [Int.cast_natCast] at h ⊢
    rw [lasting_natCast, Nat.findGreatest_eq h]
  · rw [Int.cast_neg, Int.cast_natCast] at h ⊢
    rcases Nat.eq_zero_or_pos n with rfl | hn
    · rw [Nat.cast_zero, neg_zero] at h ⊢
      have hzero := lasting_natCast weight 0
      rw [Nat.findGreatest_zero, Nat.cast_zero] at hzero
      exact hzero
    · rw [lasting_neg_natCast weight hn, Nat.findGreatest_eq h]

/-- A weight between zero and one leaves zero alone. -/
theorem weighted_zero (w : ℚ) : weighted (.finite w) (.finite 0) = .finite 0 := by
  have hzero := mathRound_ofRat (z := 0) (by decide)
  rw [Int.cast_zero] at hzero
  show (Double.ofRat (0 * w)).mathRound = _
  rw [zero_mul, hzero]

/-- The largest number up to `n` of a property that zero has. -/
theorem exists_findGreatest_eq {P : ℕ → Prop} [DecidablePred P] (hzero : P 0) (n : ℕ) :
    ∃ m, Nat.findGreatest P n = m ∧ P m ∧ m ≤ n ∧ ∀ k ≤ n, P k → k ≤ m :=
  ⟨_, rfl, Nat.findGreatest_spec (Nat.zero_le n) hzero, Nat.findGreatest_le n,
    fun _ hk hP => Nat.le_findGreatest hk hP⟩

/-- What lasts of a whole number under a weight: the weight does not change it, it has the sign of the
number and is not further from zero, and nothing more of the number has these properties. -/
structure Lasts (w : ℚ) (z l : ℤ) : Prop where
  lasting : lasting (.finite w) (.finite z) = .finite l
  kept : weighted (.finite w) (.finite l) = .finite l
  pos : 0 ≤ z → 0 ≤ l ∧ l ≤ z
  neg : z ≤ 0 → z ≤ l ∧ l ≤ 0
  greatest : ∀ m : ℤ, weighted (.finite w) (.finite m) = .finite m →
    (0 ≤ m → m ≤ z → m ≤ l) ∧ (m ≤ 0 → z ≤ m → l ≤ m)

/-- Something lasts of every whole number. -/
theorem exists_lasts (w : ℚ) (z : ℤ) : ∃ l, Lasts w z l := by
  have hzero := weighted_zero w
  obtain ⟨n, rfl | rfl⟩ := Int.eq_nat_or_neg z
  · obtain ⟨l, hl, hkept, hle, hgreatest⟩ := exists_findGreatest_eq
      (P := fun m : ℕ => weighted (.finite w) (.finite m) = .finite m) (by rw [Nat.cast_zero]; exact hzero) n
    refine ⟨l, ?_, ?_, by omega, by omega, fun m hm => ⟨fun hpos hmn => ?_, by omega⟩⟩
    · rw [Int.cast_natCast, Int.cast_natCast, lasting_natCast, hl]
    · rw [Int.cast_natCast]
      exact hkept
    · obtain ⟨k, rfl⟩ := Int.eq_ofNat_of_zero_le hpos
      rw [Int.cast_natCast] at hm
      exact_mod_cast hgreatest k (by omega) hm
  · obtain ⟨l, hl, hkept, hle, hgreatest⟩ := exists_findGreatest_eq
      (P := fun m : ℕ => weighted (.finite w) (.finite (-m)) = .finite (-m))
      (by rw [Nat.cast_zero, neg_zero]; exact hzero) n
    refine ⟨-l, ?_, ?_, by omega, by omega, fun m hm => ⟨by omega, fun hneg hmn => ?_⟩⟩
    · rcases Nat.eq_zero_or_pos n with rfl | hn
      · obtain rfl : l = 0 := by omega
        exact lasting_of_kept (by rw [Nat.cast_zero, neg_zero, Int.cast_zero]; exact hzero)
      · rw [Int.cast_neg, Int.cast_natCast, lasting_neg_natCast _ hn, hl, Int.cast_neg, Int.cast_natCast]
    · rw [Int.cast_neg, Int.cast_natCast]
      exact hkept
    · obtain ⟨k, hk⟩ := Int.eq_ofNat_of_zero_le (neg_nonneg.mpr hneg)
      obtain rfl : m = -k := by omega
      rw [Int.cast_neg, Int.cast_natCast] at hm
      have hkl := hgreatest k (by omega) hm
      omega

/-- Weighting a whole number leaves what lasts of it. -/
theorem lasting_weighted {w : ℚ} (hw : 0 ≤ w) (hw' : w ≤ 1) {z z' : ℤ} (hz : |z| ≤ 100)
    (h : weighted (.finite w) (.finite z) = .finite z') :
    lasting (.finite w) (.finite z') = lasting (.finite w) (.finite z) := by
  obtain ⟨l, hl⟩ := exists_lasts w z
  obtain ⟨l', hl'⟩ := exists_lasts w z'
  obtain ⟨_, heq, hpos, hneg⟩ := exists_weighted_eq hw hw' hz
  obtain rfl : z' = _ := by exact_mod_cast Double.finite.inj (h.symm.trans heq)
  have hmono : ∀ {a b a' b' : ℤ}, weighted (.finite w) (.finite a) = .finite a' →
      weighted (.finite w) (.finite b) = .finite b' → a ≤ b → a' ≤ b' := by
    intro a b a' b' ha hb hab
    have hle := weighted_mono hw (Int.cast_le.mpr hab : (a : ℚ) ≤ b)
    rw [ha, hb] at hle
    exact_mod_cast Double.le_finite_iff.mp hle
  -- what lasts of either number is reached by the other one
  have hsame : l' = l := by
    rcases le_total 0 z with hsign | hsign
    · have hlz := hl.pos hsign
      have hzz := hpos hsign
      have hlz' := hl'.pos hzz.1
      have hle := hmono hl.kept h hlz.2
      have h₁ := (hl'.greatest l hl.kept).1 hlz.1 hle
      have h₂ := (hl.greatest l' hl'.kept).1 hlz'.1 (hlz'.2.trans hzz.2)
      omega
    · have hlz := hl.neg hsign
      have hzz := hneg hsign
      have hlz' := hl'.neg hzz.2
      have hle := hmono h hl.kept hlz.1
      have h₁ := (hl'.greatest l hl.kept).2 hlz.2 hle
      have h₂ := (hl.greatest l' hl'.kept).2 hlz'.2 (hzz.1.trans hlz'.1)
      omega
  rw [hl.lasting, hl'.lasting, hsame]

/-- The least and the most that a whole number becomes bound it, and what lies between them stays
there. -/
structure Bounds (weight : Double) (z l h : ℤ) : Prop where
  least : least weight (.finite z) = .finite l
  most : most weight (.finite z) = .finite h
  mem : l ≤ z ∧ z ≤ h
  range : -100 ≤ l ∧ h ≤ 100
  closed : ∀ c, Double.le (.finite l) c = true → c.le (.finite h) = true →
    Double.le (.finite l) (weighted weight c) = true ∧ (weighted weight c).le (.finite h) = true

/-- A contribution that is kept, or weighted between zero and one, has bounds. -/
theorem exists_bounds {weight : Double} {z : ℤ} (hz : |z| ≤ 100)
    (h : weighted weight (.finite z) = .finite z ∨ IsShare weight) : ∃ l h, Bounds weight z l h := by
  obtain ⟨hlo, hhi⟩ := abs_le.mp hz
  have hle : Double.le (.finite 0) (.finite z) = true ↔ 0 ≤ z :=
    Double.le_finite_iff.trans (by rw [← Int.cast_zero, Int.cast_le])
  rcases h with hkept | hshare
  · refine ⟨z, z, ?_, ?_, ⟨le_rfl, le_rfl⟩, ⟨hlo, hhi⟩, ?_⟩
    · unfold MessagePriority.least
      rw [lasting_of_kept hkept, ite_self]
    · unfold MessagePriority.most
      rw [lasting_of_kept hkept, ite_self]
    · intro c hl hh
      obtain rfl := Double.le_antisymm hh hl
      rw [hkept]
      exact ⟨hl, hh⟩
  · obtain ⟨w, rfl, hw, hw'⟩ := hshare.finite
    obtain ⟨l, hl, hkept, hpos, hneg, -⟩ := exists_lasts w z
    obtain ⟨z', hz', hpos', hneg'⟩ := exists_weighted_eq hw hw' hz
    -- what lies between two numbers stays between what these become
    have hclosed : ∀ a b : ℤ, Double.le (.finite a) (weighted (.finite w) (.finite a)) = true →
        (weighted (.finite w) (.finite b)).le (.finite b) = true → ∀ c, Double.le (.finite a) c = true →
        c.le (.finite b) = true → Double.le (.finite a) (weighted (.finite w) c) = true ∧
          (weighted (.finite w) c).le (.finite b) = true := by
      intro a b ha hb c hac hcb
      obtain ⟨q, rfl, haq, hqb⟩ := Double.exists_finite_of_le hac hcb
      exact ⟨Double.le_trans ha (weighted_mono hw haq), Double.le_trans (weighted_mono hw hqb) hb⟩
    have hself : Double.le (.finite l) (weighted (.finite w) (.finite l)) = true ∧
        (weighted (.finite w) (.finite l)).le (.finite l) = true := by
      rw [hkept]
      exact ⟨Double.le_refl (by rintro ⟨⟩), Double.le_refl (by rintro ⟨⟩)⟩
    by_cases hsign : 0 ≤ z
    · refine ⟨l, z, ?_, ?_, ⟨(hpos hsign).2, le_rfl⟩, ⟨by omega, hhi⟩, hclosed l z hself.1 ?_⟩
      · exact (if_pos (hle.mpr hsign)).trans hl
      · exact if_pos (hle.mpr hsign)
      · rw [hz']
        exact Double.le_finite_iff.mpr (by exact_mod_cast (hpos' hsign).2)
    · refine ⟨z, l, ?_, ?_, ⟨le_rfl, (hneg (by omega)).1⟩, ⟨hlo, by omega⟩, hclosed z l ?_ hself.2⟩
      · exact if_neg (mt hle.mp hsign)
      · exact (if_neg (mt hle.mp hsign)).trans hl
      · rw [hz']
        exact Double.le_finite_iff.mpr (by exact_mod_cast (hneg' (by omega)).1)

/-! ## Small weights

A weight below one half leaves no whole number but zero as it is.
-/

/-- A weight of at most three eighths changes every whole number but zero. -/
theorem eq_zero_of_kept {w : ℚ} (hsmall : w ≤ 3 / 8) {z : ℤ} (hz : |z| ≤ 100)
    (hkept : weighted (.finite w) (.finite z) = .finite z) : z = 0 := by
  -- with the weight three eighths, the product has three bits after the point
  have hproduct : Double.ofRat (z * (3 / 8)) = .finite (z * (3 / 8)) := by
    have hthree : (z * (3 / 8) : ℚ) = ((3 * z : ℤ) : ℚ) * 2 ^ (-3 : ℤ) := by
      push_cast
      norm_num
      ring
    have hbound : |(z * (3 / 8) : ℚ)| ≤ 2 ^ 1023 := by
      have hz' : |(z : ℚ)| ≤ 100 := by exact_mod_cast hz
      have hpow : (100 : ℚ) ≤ 2 ^ 1023 :=
        le_trans (by norm_num) (pow_le_pow_right₀ one_le_two (show 7 ≤ 1023 by decide))
      refine le_trans ?_ hpow
      rw [abs_mul, abs_of_pos (by norm_num : (0 : ℚ) < 3 / 8)]
      linarith
    rw [Double.ofRat_of_abs_le hbound, hthree, fl_of_mul_two_pow ?_ (by decide)]
    rw [abs_mul]
    calc |(3 : ℤ)| * |z| ≤ |(3 : ℤ)| * 100 := by gcongr
      _ < 2 ^ 53 := by norm_num
  rcases le_total 0 z with hsign | hsign
  · have hcast : (0 : ℚ) ≤ z := by exact_mod_cast hsign
    have hle := Double.mathRound_mono (Double.ofRat_mono (p := z * w) (q := z * (3 / 8))
      (mul_le_mul_of_nonneg_left hsmall hcast))
    have hself : (Double.ofRat (z * w)).mathRound = .finite z := hkept
    rw [hself, hproduct] at hle
    have hround := le_round_iff.mp
        (by exact_mod_cast Double.le_finite_iff.mp hle : z ≤ round (z * (3 / 8) : ℚ))
    have hlt : (z : ℚ) < 1 := by linarith
    have hlt' : z < 1 := by exact_mod_cast hlt
    omega
  · have hcast : (z : ℚ) ≤ 0 := by exact_mod_cast hsign
    have hle := Double.mathRound_mono (Double.ofRat_mono (p := z * (3 / 8)) (q := z * w)
      (mul_le_mul_of_nonpos_left hsmall hcast))
    have hself : (Double.ofRat (z * w)).mathRound = .finite z := hkept
    rw [hself, hproduct] at hle
    have hround := round_le_iff.mp
        (by exact_mod_cast Double.le_finite_iff.mp hle : round (z * (3 / 8) : ℚ) ≤ z)
    have hlt : (-1 : ℚ) < z := by linarith
    have hlt' : -1 < z := by exact_mod_cast hlt
    omega

end MessagePriority

end EmailTriage.Prioritization.Rounded
