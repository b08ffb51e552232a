import EmailTriage.Lib.Binary64
import EmailTriage.Lib.JsDate

/-!
# Dates from numbers, and minutes of the local time

`Date.ofDouble` is `new Date(x)` for a number `x`. `getMinutes` and `setMinutes` work on the local
time, which is ahead of UTC by an offset that does not change. The parts of the local time are put
together again by sums and products of doubles, which are rounded where the minutes are many.

## When minutes lead nowhere

`setMinutes_eq_self_iff` says that a date stays the same exactly if its own minutes are set. Rounding
cannot hide another number of minutes: one minute more and one minute less lead to dates that are
computed exactly, rounding is monotone, so all larger and all smaller numbers lead beyond these.
`truncate_add_eq_iff` then says which lengths, added to the minutes as doubles, have no effect.
-/

namespace Js

namespace Date

/-- `new Date(x)` for a number: whole milliseconds, as far as a date reaches. -/
def ofDouble (x : Double) : Date := x.truncate.bind clip

/-- How far the local time is ahead of UTC, in milliseconds: less than a day in either direction. -/
abbrev Offset := {o : ℤ // -86400000 < o ∧ o < 86400000}

/-- `d.getMinutes()`: the minute of the hour of the local time. -/
def getMinutes (offset : Offset) : Date → Double
  | some t => .finite ((t + offset.1) / 60000 % 60 : ℤ)
  | none => .nan

/-- The instant with the hour, second and millisecond of a local time, and with other minutes. What
overflows here lies beyond the dates as well. -/
def withMinutes (offset : Offset) (t minutes : ℤ) : ℚ :=
  let l := t + offset.1
  fl ((l / 86400000 * 86400000 : ℤ) +
    fl (fl (fl ((l / 3600000 % 24 * 3600000 : ℤ) + fl (minutes * 60000 : ℤ)) + (l / 1000 % 60 * 1000 : ℤ)) +
      (l % 1000 : ℤ))) - offset.1

/-- `d.setMinutes(minutes)`: the minutes become whole, and the date is invalid if they are no finite
number, or lead beyond the instants that a date can hold. -/
def setMinutes (offset : Offset) (d : Date) (minutes : Double) : Date :=
  d.bind fun t => minutes.truncate.bind fun m => ofDouble (.finite (withMinutes offset t m))

/-! ## Setting the minutes

A date in a zone of constant offset keeps its hour, second and millisecond when its minutes are set, and
moves by the difference of the minutes.
-/

/-- A whole number is the instant it names, within the range of dates. -/
theorem ofDouble_intCast (z : ℤ) : ofDouble (.finite z) = clip z := by
  unfold ofDouble
  rw [Double.truncate_finite, wholePart_intCast, Option.bind_some]

/-- A date that a number names is less than a millisecond away from it. -/
theorem abs_sub_lt_of_ofDouble {q : ℚ} {t : ℤ} (h : ofDouble (.finite q) = some t) : |q - t| < 1 := by
  unfold ofDouble clip at h
  rw [Double.truncate_finite, Option.bind_some] at h
  split at h
  · rw [← Option.some.inj h]
    exact abs_sub_wholePart_lt q
  · cases h

/-- More minutes lead to a later instant, or to the same one. -/
theorem withMinutes_mono (offset : Offset) (t : ℤ) {m n : ℤ} (h : m ≤ n) :
    withMinutes offset t m ≤ withMinutes offset t n := by
  have hcast : ((m * 60000 : ℤ) : ℚ) ≤ (n * 60000 : ℤ) := by
    exact_mod_cast (by omega : m * 60000 ≤ n * 60000)
  unfold withMinutes
  refine sub_le_sub_right (fl_mono (add_le_add_right (fl_mono (add_le_add_left ?_ _)) _)) _
  exact fl_mono (add_le_add_left (fl_mono (add_le_add_right (fl_mono hcast) _)) _)

/-- Within an hour of the minute of the date, the new instant is computed exactly. -/
theorem withMinutes_eq (offset : Offset) (t : Instant) {m : ℤ} (h : |m| ≤ 60) :
    withMinutes offset t.1 m = (t.1 + (m - (t.1 + offset.1) / 60000 % 60) * 60000 : ℤ) := by
  obtain ⟨t, ht⟩ := t
  obtain ⟨o, ho⟩ := offset
  obtain ⟨hm, hm'⟩ := abs_le.mp h
  dsimp only [withMinutes]
  generalize hl : t + o = l
  have hexact : ∀ z : ℤ, -9000000000000000 ≤ z → z ≤ 9000000000000000 → fl z = z := by
    intro z hz hz'
    refine fl_intCast (abs_lt.mpr ⟨?_, ?_⟩)
    · norm_num
      omega
    · norm_num
      omega
  rw [hexact _ (by omega) (by omega), ← Int.cast_add, hexact _ (by omega) (by omega), ← Int.cast_add,
    hexact _ (by omega) (by omega), ← Int.cast_add, hexact _ (by omega) (by omega), ← Int.cast_add,
    hexact _ (by omega) (by omega)]
  have hparts : l / 86400000 * 86400000 + (l / 3600000 % 24 * 3600000 + m * 60000 + l / 1000 % 60 * 1000 +
      l % 1000) - o = t + (m - l / 60000 % 60) * 60000 := by
    omega
  exact_mod_cast hparts

/-- A date stays the same exactly if its own minutes are set. -/
theorem setMinutes_eq_self_iff (offset : Offset) (t : Instant) (minutes : Double) :
    setMinutes offset (some t.1) minutes = some t.1 ↔
      minutes.truncate = some ((t.1 + offset.1) / 60000 % 60) := by
  unfold setMinutes
  rw [Option.bind_some]
  rcases minutes.truncate with _ | m
  · exact iff_of_false (by rintro ⟨⟩) (by rintro ⟨⟩)
  · rw [Option.bind_some, Option.some.injEq]
    generalize hk : (t.1 + offset.1) / 60000 % 60 = k
    have hk' : 0 ≤ k ∧ k < 60 := by omega
    constructor
    · intro h
      obtain ⟨hlo, hhi⟩ := abs_lt.mp (abs_sub_lt_of_ofDouble h)
      by_contra hne
      -- a minute more or less is a minute away already
      rcases Int.lt_or_gt_of_ne hne with hlt | hgt
      · have hless := withMinutes_eq offset t (m := k - 1) (abs_le.mpr ⟨by omega, by omega⟩)
        have hmono := withMinutes_mono offset t.1 (show m ≤ k - 1 by omega)
        rw [hless, hk] at hmono
        push_cast at hmono
        linarith
      · have hmore := withMinutes_eq offset t (m := k + 1) (abs_le.mpr ⟨by omega, by omega⟩)
        have hmono := withMinutes_mono offset t.1 (show k + 1 ≤ m by omega)
        rw [hmore, hk] at hmono
        push_cast at hmono
        linarith
    · rintro rfl
      rw [withMinutes_eq offset t (abs_le.mpr ⟨by omega, by omega⟩), hk, sub_self, zero_mul, add_zero,
        ofDouble_intCast]
      exact if_pos t.2

/-! ## Adding to the minutes

The minutes are a small whole number and the sum is rounded, so a number that is not zero may add nothing,
and one that is below one may add a minute.
-/

/-- A length that adds nothing to a minute of the hour: one that does not lead to the next minute and,
unless the minute is the first one, not below this one, each up to half the distance to the next
double. Below the first minute there is a whole minute more that is cut off. -/
def AddsNothing (minute : ℕ) (length : ℚ) : Prop :=
  (if minute = 0 then halfGap 1 - 1 < length else -halfGap minute ≤ length) ∧
    length < 1 - halfGap (minute + 1)

instance (minute : ℕ) (length : ℚ) : Decidable (AddsNothing minute length) :=
  inferInstanceAs (Decidable (_ ∧ _))

/-- A sum that stays small does not overflow. -/
theorem truncate_add_finite {n : ℕ} (hn : n < 60) (p q : ℚ) :
    ((Double.finite p).add (.finite q)).truncate = some (n : ℤ) ↔ wholePart (fl (p + q)) = n := by
  have hadd : (Double.finite p).add (.finite q) = .ofRat (p + q) := rfl
  rw [hadd]
  unfold Double.ofRat
  split
  · next hhuge =>
    refine iff_of_false (by rintro ⟨⟩) fun hwhole => ?_
    have hclose := abs_sub_wholePart_lt (fl (p + q))
    rw [hwhole, Int.cast_natCast] at hclose
    have hn' : (n : ℚ) < 60 := by exact_mod_cast hn
    have hn₀ : (0 : ℚ) ≤ n := Nat.cast_nonneg n
    obtain ⟨hlo, hhi⟩ := abs_lt.mp hclose
    have hsmall : |fl (p + q)| < 61 := abs_lt.mpr ⟨by linarith, by linarith⟩
    have hpow : (61 : ℚ) < 2 ^ 1024 :=
      lt_of_lt_of_le (by norm_num) (pow_le_pow_right₀ one_le_two (show 6 ≤ 1024 by decide))
    exact absurd (hhuge.trans_lt (hsmall.trans hpow)) (lt_irrefl _)
  · exact Option.some_inj

/-- The whole part of a minute and a length, added as doubles, is the minute exactly if the length adds
nothing. -/
theorem truncate_add_eq_iff {minute : ℕ} (hminute : minute < 60) (length : Double) :
    ((Double.finite minute).add length).truncate = some (minute : ℤ) ↔
      ∃ q, length = .finite q ∧ AddsNothing minute q := by
  rcases length with _ | q | negative
  · exact iff_of_false (by rintro ⟨⟩) (by rintro ⟨q, ⟨⟩, -⟩)
  · have hexists : (∃ q', Double.finite q = .finite q' ∧ AddsNothing minute q') ↔ AddsNothing minute q := by
      constructor
      · rintro ⟨q', hq', h⟩
        obtain rfl := Double.finite.inj hq'
        exact h
      · exact fun h => ⟨q, rfl, h⟩
    have hupper : fl (minute + q) < minute + 1 ↔ q < 1 - halfGap (minute + 1) := by
      have hnext := natCast_le_fl_iff (n := minute + 1) (by omega) (by omega) (minute + q)
      push_cast at hnext
      rw [← not_le, hnext, not_le]
      constructor
      · intro h
        linarith
      · intro h
        linarith
    -- the sum has the minute as its whole part: it is at least the minute, and below the next one
    rw [truncate_add_finite hminute, wholePart_eq_iff, hexists, hupper]
    unfold AddsNothing
    refine and_congr_left' ?_
    split
    · next hzero =>
      -- the whole part of a negative sum is zero as well, as long as it is above minus one
      have hone := natCast_le_fl_iff (n := 1) (by omega) (by omega) (-q)
      rw [Nat.cast_one, fl_neg] at hone
      rw [hzero, Nat.cast_zero, zero_add, ← not_le, ← not_le, not_iff_not, le_neg, hone]
      constructor
      · intro h
        linarith
      · intro h
        linarith
    · next hpos =>
      rw [natCast_le_fl_iff (Nat.pos_of_ne_zero hpos) (by omega)]
      constructor
      · intro h
        linarith
      · intro h
        linarith
  · exact iff_of_false (by cases negative <;> rintro ⟨⟩) (by rintro ⟨q, ⟨⟩, -⟩)

end Date

end Js
