import Mathlib.Algebra.Group.Nat.Defs
import Mathlib.Data.Int.Notation

/-!
# JavaScript dates

A `Date` is a number of milliseconds since 1970-01-01 UTC, or the invalid date, which
`new Date(undefined)` makes. `toISOString` prints the proleptic Gregorian calendar and `parse` reads
back exactly the texts it prints; other texts give the invalid date.
-/

namespace Js

/-- A `Date`: milliseconds since the epoch, `none` for the invalid date. -/
abbrev Date := Option ℤ

namespace Date

/-- Year, month and day of a day number counted from the epoch. Years are counted from March, in
eras of 400 years. -/
def civilOfDays (days : ℤ) : ℤ × ℤ × ℤ :=
  let z := days + 719468
  let doe := z % 146097
  let yoe := (doe - doe / 1460 + doe / 36524 - doe / 146096) / 365
  let doy := doe - (365 * yoe + yoe / 4 - yoe / 100)
  let mp := (5 * doy + 2) / 153
  let month := if mp < 10 then mp + 3 else mp - 9
  let year := yoe + z / 146097 * 400
  (if month ≤ 2 then year + 1 else year, month, doy - (153 * mp + 2) / 5 + 1)

/-- The day number of a year, month and day. -/
def daysOfCivil (year month day : ℤ) : ℤ :=
  let y := if month ≤ 2 then year - 1 else year
  let yoe := y % 400
  let mp := if month > 2 then month - 3 else month + 9
  let doy := (153 * mp + 2) / 5 + day - 1
  y / 400 * 146097 + (yoe * 365 + yoe / 4 - yoe / 100 + doy) - 719468

/-- The last `width` decimal digits of `n`. -/
def digits : (width : ℕ) → (n : ℕ) → List Char
  | 0, _ => []
  | width + 1, n => digits width (n / 10) ++ [Nat.digitChar (n % 10)]

/-- Four digits for the years 0 to 9999, a sign and six digits for the others. -/
def yearDigits (year : ℤ) : List Char :=
  if 0 ≤ year ∧ year ≤ 9999 then digits 4 year.toNat
  else (if year < 0 then '-' else '+') :: digits 6 year.natAbs

/-- `new Date(t).toISOString()` for a valid date. -/
def toISOString (t : ℤ) : String :=
  let (year, month, day) := civilOfDays (t / 86400000)
  let ms := (t % 86400000).toNat
  String.ofList <|
    yearDigits year ++ '-' :: digits 2 month.toNat ++ '-' :: digits 2 day.toNat ++
      'T' :: digits 2 (ms / 3600000) ++ ':' :: digits 2 (ms / 60000 % 60) ++
      ':' :: digits 2 (ms / 1000 % 60) ++ '.' :: digits 3 (ms % 1000) ++ ['Z']

/-- Read exactly `width` decimal digits after the number read so far. -/
def readDigits : (width acc : ℕ) → List Char → Option (ℕ × List Char)
  | 0, acc, cs => some (acc, cs)
  | width + 1, acc, c :: cs =>
    if c.isDigit then readDigits width (acc * 10 + (c.toNat - '0'.toNat)) cs else none
  | _ + 1, _, [] => none

/-- Read one character. -/
def readChar (c : Char) : List Char → Option (List Char)
  | c' :: cs => if c' = c then some cs else none
  | [] => none

/-- Read a year of four digits, or of a sign and six digits. -/
def readYear : List Char → Option (ℤ × List Char)
  | '+' :: cs => (readDigits 6 0 cs).map fun (n, cs) => ((n : ℤ), cs)
  | '-' :: cs => (readDigits 6 0 cs).map fun (n, cs) => (-(n : ℤ), cs)
  | cs => (readDigits 4 0 cs).map fun (n, cs) => ((n : ℤ), cs)

/-- The instant a text in the format of `toISOString` names. -/
def readFields (cs : List Char) : Option ℤ := do
  let (year, cs) ← readYear cs
  let (month, cs) ← readDigits 2 0 (← readChar '-' cs)
  let (day, cs) ← readDigits 2 0 (← readChar '-' cs)
  let (hour, cs) ← readDigits 2 0 (← readChar 'T' cs)
  let (minute, cs) ← readDigits 2 0 (← readChar ':' cs)
  let (second, cs) ← readDigits 2 0 (← readChar ':' cs)
  let (milli, _) ← readDigits 3 0 (← readChar '.' cs)
  let ms : ℕ := ((hour * 60 + minute) * 60 + second) * 1000 + milli
  return daysOfCivil year month day * 86400000 + ms

/-- `new Date(s)` for a text that `toISOString` printed, the invalid date for any other. -/
def parse (s : String) : Date :=
  (readFields s.toList).filter fun t => toISOString t = s

example : toISOString 0 = "1970-01-01T00:00:00.000Z" := by decide +kernel

example : parse "2026-08-21T16:00:00.000Z" = some 1787328000000 := by decide +kernel

/-! ## Reading back what `toISOString` prints

A date of the range that JavaScript has is printed with its year, month, day and time of day, and `new
Date` reads the same instant from that text. The proof goes field by field, and the year is the one
field of varying width.
-/

/-- The instants a date can hold: a hundred million days on either side of the epoch. -/
abbrev Instant := {t : ℤ // -8640000000000000 ≤ t ∧ t ≤ 8640000000000000}

/-- The epoch itself is one. -/
theorem isInstant_zero : -8640000000000000 ≤ (0 : ℤ) ∧ (0 : ℤ) ≤ 8640000000000000 := by decide

/-- A date of JavaScript is invalid or such an instant. -/
def Representable (d : Date) : Prop :=
  ∀ t, d = some t → -8640000000000000 ≤ t ∧ t ≤ 8640000000000000

/-- An instant is one that a date can hold. -/
theorem representable_some (t : Instant) : Representable (some t.1) := by
  rintro _ ⟨⟩
  exact t.2

/-- The day of the year in an era of 400 years. The cycles of 4, 100 and 400 years that end before the day
are `q`, `c` and `e`, its year is `4 * q + k`, and `g` the century of that. -/
theorem dayOfYear_bounds {doe q c e k g : ℤ} (hdoe : 0 ≤ doe ∧ doe < 146097)
    (hq : 1460 * q ≤ doe ∧ doe < 1460 * q + 1460) (hc : 36524 * c ≤ doe ∧ doe < 36524 * c + 36524)
    (he : 146096 * e ≤ doe ∧ doe < 146096 * e + 146096)
    (hk : 365 * k ≤ doe - 1461 * q + c - e ∧ doe - 1461 * q + c - e < 365 * k + 365)
    (hg : 100 * g ≤ 4 * q + k ∧ 4 * q + k < 100 * g + 100) :
    0 ≤ doe - (365 * (4 * q + k) + (q + k / 4) - g) ∧
      doe - (365 * (4 * q + k) + (q + k / 4) - g) ≤ 365 := by
  -- a cycle of 4 years has 1461 days, not 1460, so the last days of a cycle may be counted in the next
  have hk' : k = -1 ∨ (0 ≤ k ∧ k ≤ 3) := by omega
  have he' : e = 0 ∨ e = 1 := by omega
  have hg' : g = c - 1 ∨ g = c := by omega
  have hc' : c = 0 ∨ c = 1 ∨ c = 2 ∨ c = 3 ∨ c = 4 := by omega
  rcases hk' with rfl | hk' <;> rcases he' with rfl | rfl <;> rcases hg' with rfl | rfl <;>
    rcases hc' with rfl | rfl | rfl | rfl | rfl <;> omega

/-- `daysOfCivil` is the inverse of `civilOfDays`, whose parts have their usual range. -/
theorem civilOfDays_spec (days : ℤ) : ∃ year month day, civilOfDays days = (year, month, day) ∧
    daysOfCivil year month day = days ∧ 1 ≤ month ∧ month ≤ 12 ∧ 1 ≤ day ∧ day ≤ 31 ∧
    (days + 719468) / 146097 * 400 ≤ year ∧ year ≤ (days + 719468) / 146097 * 400 + 400 := by
  unfold civilOfDays daysOfCivil
  dsimp only
  refine ⟨_, _, _, rfl, ?_⟩
  -- the day of the era, the era of 400 years, and the year of the era
  generalize hdoe : (days + 719468) % 146097 = doe
  generalize hera : (days + 719468) / 146097 = era
  generalize hyoe : (doe - doe / 1460 + doe / 36524 - doe / 146096) / 365 = yoe
  have hdays : days = era * 146097 + doe - 719468 := by omega
  have hyear : (yoe + era * 400) % 400 = yoe ∧ (yoe + era * 400) / 400 = era := by omega
  -- the leap days of the era are accounted for, so that a day of the year is left
  have hdoy : 0 ≤ doe - (365 * yoe + yoe / 4 - yoe / 100) ∧
      doe - (365 * yoe + yoe / 4 - yoe / 100) ≤ 365 := by
    have hbounds := @dayOfYear_bounds doe (doe / 1460) (doe / 36524) (doe / 146096)
      (yoe - 4 * (doe / 1460)) (yoe / 100) (by omega) (by omega) (by omega) (by omega) (by omega)
      (by omega)
    have hleap : doe / 1460 + (yoe - 4 * (doe / 1460)) / 4 = yoe / 4 := by omega
    have hyoe' : 4 * (doe / 1460) + (yoe - 4 * (doe / 1460)) = yoe := by omega
    rw [hleap, hyoe'] at hbounds
    exact hbounds
  generalize hdoy' : doe - (365 * yoe + yoe / 4 - yoe / 100) = doy at *
  generalize hmp : (5 * doy + 2) / 153 = mp at *
  by_cases hwinter : mp < 10
  · -- from March to December
    have hmonth : ¬mp + 3 ≤ 2 := by omega
    have hlate : mp + 3 > 2 := by omega
    simp only [hwinter, hmonth, hlate, if_true, if_false, Int.add_sub_cancel, hyear]
    omega
  · have hmonth : mp - 9 ≤ 2 := by omega
    have hlate : ¬mp - 9 > 2 := by omega
    simp only [hwinter, hmonth, hlate, if_true, if_false, Int.add_sub_cancel, Int.sub_add_cancel,
      hyear]
    omega

/-- The character of a digit is one, and has its value. -/
theorem digitChar_spec (n : ℕ) : (Nat.digitChar (n % 10)).isDigit = true ∧
    (Nat.digitChar (n % 10)).toNat - '0'.toNat = n % 10 := by
  have hlt : n % 10 < 10 := Nat.mod_lt n (by decide)
  generalize n % 10 = d at hlt
  revert d
  decide

/-- The last digit is read after the others. -/
theorem readDigits_succ (width acc : ℕ) (cs : List Char) :
    readDigits (width + 1) acc cs =
      (readDigits width acc cs).bind fun p => readDigits 1 p.1 p.2 := by
  induction width generalizing acc cs with
  | zero => rfl
  | succ width ih =>
    cases cs with
    | nil => rfl
    | cons c cs =>
      rw [readDigits, readDigits]
      split
      · exact ih _ _
      · rfl

/-- Digits that are printed are read back. -/
theorem readDigits_digits (width acc n : ℕ) (cs : List Char) :
    readDigits width acc (digits width n ++ cs) = some (acc * 10 ^ width + n % 10 ^ width, cs) := by
  induction width generalizing n cs with
  | zero => simp [readDigits, digits, Nat.mod_one]
  | succ width ih =>
    obtain ⟨hdigit, hvalue⟩ := digitChar_spec n
    have hmod : n % 10 ^ (width + 1) = n / 10 % 10 ^ width * 10 + n % 10 := by
      rw [Nat.pow_succ', Nat.mod_mul, Nat.mul_comm, Nat.add_comm]
    rw [readDigits_succ, digits, List.append_assoc, ih, Option.bind_some]
    simp only [List.singleton_append, readDigits, hdigit, if_true, hvalue]
    rw [hmod, Nat.add_mul, Nat.mul_assoc, ← Nat.pow_succ, Nat.add_assoc]

/-- The year is read as it was printed, with four digits or with a sign and six. -/
theorem readYear_yearDigits {year : ℤ} (h : -1000000 < year ∧ year < 1000000) (cs : List Char) :
    readYear (yearDigits year ++ cs) = some (year, cs) := by
  unfold yearDigits
  by_cases hshort : 0 ≤ year ∧ year ≤ 9999
  · have hread : readYear (digits 4 year.toNat ++ cs) =
        (readDigits 4 0 (digits 4 year.toNat ++ cs)).map fun (n, cs) => ((n : ℤ), cs) := by
      have hdigit := (digitChar_spec (year.toNat / 10 / 10 / 10)).1
      simp only [digits, List.nil_append, List.cons_append]
      generalize Nat.digitChar (year.toNat / 10 / 10 / 10 % 10) = c at hdigit
      -- a digit is no sign
      unfold readYear
      split
      · next heq =>
        rw [(List.cons.inj heq).1] at hdigit
        exact absurd hdigit (by decide)
      · next heq =>
        rw [(List.cons.inj heq).1] at hdigit
        exact absurd hdigit (by decide)
      · rfl
    rw [if_pos hshort, hread, readDigits_digits]
    simp only [Option.map_some, Option.some.injEq, Prod.mk.injEq, and_true]
    omega
  · rw [if_neg hshort]
    by_cases hneg : year < 0
    · rw [if_pos hneg, List.cons_append, readYear, readDigits_digits]
      simp only [Option.map_some, Option.some.injEq, Prod.mk.injEq, and_true]
      omega
    · rw [if_neg hneg, List.cons_append, readYear, readDigits_digits]
      simp only [Option.map_some, Option.some.injEq, Prod.mk.injEq, and_true]
      omega

/-- Every instant is read back from the text that it prints. -/
theorem readFields_toISOString (t : Instant) : readFields (toISOString t).toList = some t.1 := by
  obtain ⟨t, ht⟩ := t
  obtain ⟨year, month, day, hcivil, hdays, hmonth, hmonth', hday, hday', hyear, hyear'⟩ :=
    civilOfDays_spec (t / 86400000)
  have hrange : -1000000 < year ∧ year < 1000000 := by omega
  dsimp only
  unfold toISOString
  rw [hcivil, String.toList_ofList]
  simp only [List.append_assoc, List.cons_append]
  unfold readFields
  simp only [readYear_yearDigits hrange, readDigits_digits, readChar, if_true, Option.bind_eq_bind,
    Option.bind_some, Option.pure_def]
  have hmonthNat : ((0 * 10 ^ 2 + month.toNat % 10 ^ 2 : ℕ) : ℤ) = month := by omega
  have hdayNat : ((0 * 10 ^ 2 + day.toNat % 10 ^ 2 : ℕ) : ℤ) = day := by omega
  rw [hmonthNat, hdayNat, hdays]
  simp only [Option.some.injEq]
  omega

/-- `new Date(d.toISOString())` is the same instant. -/
theorem parse_toISOString (t : Instant) : parse (toISOString t) = some t.1 := by
  rw [parse, readFields_toISOString]
  simp

/-! ## The day of the month

`setDate` moves a date by whole days, so what is subtracted from the day of the month is subtracted
from the date.
-/

/-- The date at a time, invalid beyond the instants that a date can hold. -/
def clip (t : ℤ) : Date := if -8640000000000000 ≤ t ∧ t ≤ 8640000000000000 then some t else none

/-- `d.getDate()`, where the local time is UTC; `none` is NaN. -/
def getDate (d : Date) : Option ℤ := d.map fun t => (civilOfDays (t / 86400000)).2.2

/-- `d.setDate(day)`, where the local time is UTC: the month is counted on in both directions from its
first day, and the time of the day stays. -/
def setDate (d : Date) (day : Option ℤ) : Date :=
  match d, day with
  | some t, some day =>
    let (year, month, _) := civilOfDays (t / 86400000)
    clip (daysOfCivil year month day * 86400000 + t % 86400000)
  | _, _ => none

/-- `a <= b`; a comparison with the invalid date is false. -/
def le : Date → Date → Bool
  | some a, some b => a ≤ b
  | _, _ => false

/-- `a < b`. -/
def lt : Date → Date → Bool
  | some a, some b => a < b
  | _, _ => false

@[simp] theorem le_some_iff {a b : ℤ} : le (some a) (some b) = true ↔ a ≤ b := decide_eq_true_iff

@[simp] theorem lt_some_iff {a b : ℤ} : lt (some a) (some b) = true ↔ a < b := decide_eq_true_iff

/-- Setting the day of the month back by some days leads back by that many days, across the ends of
months and years. -/
theorem setDate_getDate_sub (t n : ℤ) :
    setDate (some t) ((getDate (some t)).map (· - n)) = clip (t - n * 86400000) := by
  obtain ⟨year, month, day, hcivil, hdays, -⟩ := civilOfDays_spec (t / 86400000)
  have hback : daysOfCivil year month (day - n) = t / 86400000 - n := by
    rw [← hdays]
    unfold daysOfCivil
    dsimp only
    omega
  unfold getDate setDate
  rw [Option.map_some, Option.map_some]
  dsimp only
  rw [hcivil]
  dsimp only
  rw [hback]
  refine congrArg clip ?_
  omega

end Date

end Js
