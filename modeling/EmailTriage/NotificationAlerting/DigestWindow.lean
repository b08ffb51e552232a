import EmailTriage.Lib.Intervals
import EmailTriage.Lib.JsDate
import Mathlib.Order.OrderDual
import Mathlib.Tactic.Linarith
import Mathlib.Tactic.Ring

/-!
# Windows of digests

`src/notification-alerting/domain/value-objects/digest-window.ts`: the day or the week that a digest is
about. `containsDate` includes both ends of the window. In windows that follow one another the time at
which one ends and the next begins is therefore contained twice, and `coveredOnce_iff` says that this
is the only such time.

The windows go back from the last end by whole days in UTC, so in milliseconds they are intervals of
one length that are back to back, and the number of them that contain a time is a fact about such
intervals (`countP_bounds_eq_one_iff`). An invalid end has no windows that contain anything.
-/

namespace EmailTriage.NotificationAlerting

open Js

inductive Cadence where
  | daily
  | weekly
deriving DecidableEq

structure DigestWindow where
  windowStart : Date
  windowEnd : Date
  cadence : Cadence

namespace DigestWindow

/-- The window of some days that ends at a date. -/
def endingAt (cadence : Cadence) (days : ℤ) (endDate : Date) : DigestWindow :=
  ⟨endDate.setDate (endDate.getDate.map (· - days)), endDate, cadence⟩

def daily (endDate : Date) : DigestWindow := endingAt .daily 1 endDate

def weekly (endDate : Date) : DigestWindow := endingAt .weekly 7 endDate

def containsDate (w : DigestWindow) (date : Date) : Bool := w.windowStart.le date && date.le w.windowEnd

end DigestWindow

namespace Cadence

/-- The window of a cadence. -/
def window : Cadence → Date → DigestWindow
  | .daily => DigestWindow.daily
  | .weekly => DigestWindow.weekly

/-- The milliseconds of a window. -/
def length : Cadence → ℤ
  | .daily => 86400000
  | .weekly => 604800000

/-- Windows that follow one another, from the newest to the oldest: each begins where the next one
ends. -/
def windows (cadence : Cadence) : ℕ → Date → List DigestWindow
  | 0, _ => []
  | n + 1, endDate =>
    cadence.window endDate :: cadence.windows n (cadence.window endDate).windowStart

/-- Where the oldest of the windows begins. -/
def oldestStart (cadence : Cadence) : ℕ → Date → Date
  | 0, endDate => endDate
  | n + 1, endDate => cadence.oldestStart n (cadence.window endDate).windowStart

/-- If the time comes after the oldest start and not after the end, it is in exactly one of the
windows. -/
def CoveredOnce (cadence : Cadence) (endDate : Date) (n : ℕ) (t : Date) : Prop :=
  (cadence.oldestStart n endDate).lt t = true → t.le endDate = true →
    ((cadence.windows n endDate).countP fun w => w.containsDate t) = 1

/-! ## Windows in milliseconds

Each window has the length of its cadence and ends where the later one begins.
-/

/-- Every window takes some time. -/
theorem length_pos (cadence : Cadence) : 0 < cadence.length := by
  cases cadence with
  | daily => decide
  | weekly => decide

/-- A window begins its length before its end, if a date can hold that. -/
theorem windowStart_window (cadence : Cadence) (t : ℤ) :
    (cadence.window (some t)).windowStart = Date.clip (t - cadence.length) := by
  cases cadence with
  | daily => exact Date.setDate_getDate_sub t 1
  | weekly => exact Date.setDate_getDate_sub t 7

/-- A window ends when it is asked to. -/
theorem windowEnd_window (cadence : Cadence) (endDate : Date) :
    (cadence.window endDate).windowEnd = endDate := by
  cases cadence with
  | daily => rfl
  | weekly => rfl

/-- A window without an end has no start. -/
theorem oldestStart_none (cadence : Cadence) (n : ℕ) : cadence.oldestStart n none = none := by
  induction n with
  | zero => rfl
  | succ n ih =>
    cases cadence with
    | daily => exact ih
    | weekly => exact ih

/-- The oldest window begins as many lengths before the end as there are windows, or nowhere. -/
theorem oldestStart_eq (cadence : Cadence) (n : ℕ) (e : Date.Instant) :
    cadence.oldestStart n (some e.1) =
      if -8640000000000000 ≤ e.1 - n * cadence.length then some (e.1 - n * cadence.length) else none := by
  have hpos := cadence.length_pos
  induction n generalizing e with
  | zero =>
    rw [oldestStart, if_pos (by simpa using e.2.1)]
    simp
  | succ n ih =>
    have hlength : ((n + 1 : ℕ) : ℤ) * cadence.length = cadence.length + n * cadence.length := by
      rw [Nat.cast_succ, add_one_mul, add_comm]
    have hle : 0 ≤ n * cadence.length := Int.mul_nonneg (Int.natCast_nonneg n) hpos.le
    rw [oldestStart, windowStart_window, hlength, ← sub_sub]
    unfold Date.clip
    by_cases hrange : -8640000000000000 ≤ e.1 - cadence.length
    · rw [if_pos ⟨hrange, by linarith [e.2.2]⟩]
      exact ih ⟨e.1 - cadence.length, hrange, by linarith [e.2.2]⟩
    · rw [if_neg fun h => hrange h.1, oldestStart_none, if_neg (by linarith)]

/-- The starts and ends of windows that follow one another, from the newest to the oldest. -/
def bounds (length : ℤ) : ℕ → ℤ → List (ℤ × ℤ)
  | 0, _ => []
  | n + 1, e => (e - length, e) :: bounds length n (e - length)

/-- The bounds of the windows, counted from the latest one. -/
theorem mem_bounds {length e : ℤ} {n : ℕ} {b : ℤ × ℤ} :
    b ∈ bounds length n e ↔ ∃ k < n, b = (e - (k + 1) * length, e - k * length) := by
  induction n generalizing e with
  | zero => exact iff_of_false List.not_mem_nil fun ⟨k, hk, _⟩ => absurd hk (Nat.not_lt_zero k)
  | succ n ih =>
    have hback : ∀ k : ℤ, e - length - k * length = e - (k + 1) * length := by
      intro k
      ring
    rw [bounds, List.mem_cons, ih]
    constructor
    · rintro (rfl | ⟨k, hk, rfl⟩)
      · refine ⟨0, Nat.succ_pos n, ?_⟩
        rw [Nat.cast_zero, zero_add, one_mul, zero_mul, sub_zero]
      · refine ⟨k + 1, Nat.succ_lt_succ hk, ?_⟩
        rw [hback, hback, Nat.cast_succ]
    · rintro ⟨k, hk, rfl⟩
      rcases k with _ | k
      · refine .inl ?_
        rw [Nat.cast_zero, zero_add, one_mul, zero_mul, sub_zero]
      · refine .inr ⟨k, Nat.lt_of_succ_lt_succ hk, ?_⟩
        rw [hback, hback, Nat.cast_succ]

/-- Read from the newest to the oldest, the intervals are back to back. -/
theorem backToBack_bounds {length : ℤ} (hlength : 0 < length) (n : ℕ) (e : ℤ) :
    Intervals.BackToBack (fun b => OrderDual.toDual b.2) (fun b => OrderDual.toDual b.1)
      (bounds length n e) := by
  constructor
  · intro b hb
    obtain ⟨k, -, rfl⟩ := mem_bounds.mp hb
    refine OrderDual.toDual_le_toDual.mpr ?_
    dsimp only
    linarith
  · induction n generalizing e with
    | zero => exact List.isChain_nil
    | succ n ih =>
      rcases n with _ | n
      · exact List.isChain_singleton _
      · exact List.isChain_cons_cons.mpr ⟨rfl, ih (e - length)⟩

/-- Between the oldest start and the end, a time is in exactly one of the intervals, or it is a later
end. -/
theorem countP_bounds_eq_one_iff {length e t : ℤ} {n : ℕ} (hlength : 0 < length)
    (hstart : e - n * length < t)
    (hend : t ≤ e) :
    ((bounds length n e).countP fun b => Intervals.Contains (fun b => OrderDual.toDual b.2)
        (fun b => OrderDual.toDual b.1) (OrderDual.toDual t) b) = 1 ↔
      ∀ k : ℕ, 0 < k → k < n → t ≠ e - k * length := by
  rcases n with _ | n
  · rw [Nat.cast_zero, zero_mul, sub_zero] at hstart
    exact absurd hend (not_le.mpr hstart)
  · have holdest : (e - (n + 1) * length, e - n * length) ∈ bounds length (n + 1) e :=
      mem_bounds.mpr ⟨n, Nat.lt_succ_self n, rfl⟩
    rw [Nat.cast_succ] at hstart
    refine (Intervals.countP_contains_eq_one_iff (backToBack_bounds hlength (n + 1) e) hend
      ⟨_, holdest, hstart.le⟩).trans ?_
    constructor
    · intro hne k hk hkn ht
      obtain ⟨k, rfl⟩ := Nat.exists_eq_succ_of_ne_zero hk.ne'
      have hlater : (e - length - (k + 1) * length, e - length - k * length) ∈
          bounds length n (e - length) :=
        mem_bounds.mpr ⟨k, Nat.lt_of_succ_lt_succ hkn, rfl⟩
      refine hne _ hlater (congrArg OrderDual.toDual ?_)
      rw [ht, Nat.cast_succ]
      ring
    · rintro hne b hb hbt
      obtain ⟨k, hk, rfl⟩ := mem_bounds.mp hb
      refine hne (k + 1) (Nat.succ_pos k) (Nat.succ_lt_succ hk) ?_
      have ht : e - length - k * length = t := OrderDual.toDual_inj.mp hbt
      rw [← ht, Nat.cast_succ]
      ring

/-- The windows contain what the intervals do, if their oldest start is a date. -/
theorem countP_windows (cadence : Cadence) (n : ℕ) (e : Date.Instant)
    (h : -8640000000000000 ≤ e.1 - n * cadence.length) (t : ℤ) :
    ((cadence.windows n (some e.1)).countP fun w => w.containsDate (some t)) =
      (bounds cadence.length n e.1).countP fun b => Intervals.Contains (fun b => OrderDual.toDual b.2)
        (fun b => OrderDual.toDual b.1) (OrderDual.toDual t) b := by
  have hpos := cadence.length_pos
  induction n generalizing e with
  | zero => rfl
  | succ n ih =>
    rw [Nat.cast_succ, add_one_mul, add_comm, ← sub_sub] at h
    have hle : 0 ≤ n * cadence.length := Int.mul_nonneg (Int.natCast_nonneg n) hpos.le
    have hstart : (cadence.window (some e.1)).windowStart = some (e.1 - cadence.length) := by
      rw [windowStart_window, Date.clip, if_pos ⟨by linarith, by linarith [e.2.2]⟩]
    rw [windows, bounds, List.countP_cons, List.countP_cons, hstart,
      ih ⟨e.1 - cadence.length, by linarith, by linarith [e.2.2]⟩ h]
    congr 2
    unfold DigestWindow.containsDate Intervals.Contains Date.le
    rw [hstart, windowEnd_window]
    simp only [OrderDual.toDual_le_toDual, Bool.and_eq_true, decide_eq_true_eq, and_comm]

/-! ## Times covered once

The windows include both their ends, so the time at which one ends and the next begins is in both.
-/

/-- The time is where one of the windows ends and the next begins, and all of them are in the range of
dates.
-/
def IsBoundary (cadence : Cadence) (e : Date.Instant) (n : ℕ) (t : Date.Instant) : Prop :=
  -8640000000000000 ≤ e.1 - n * cadence.length ∧ ∃ k : ℕ, 0 < k ∧ k < n ∧ t.1 = e.1 - k * cadence.length

/-- A time after the oldest start and not after the end is in exactly one of the windows unless one of
them ends there and the next begins. -/
theorem coveredOnce_iff (cadence : Cadence) (e : Date.Instant) (n : ℕ) (t : Date.Instant) :
    cadence.CoveredOnce (some e.1) n (some t.1) ↔ ¬cadence.IsBoundary e n t := by
  have hpos := cadence.length_pos
  unfold CoveredOnce IsBoundary
  rw [oldestStart_eq]
  by_cases hrange : -8640000000000000 ≤ e.1 - n * cadence.length
  · rw [if_pos hrange, countP_windows cadence n e hrange, Date.lt_some_iff, Date.le_some_iff,
      and_iff_right hrange]
    constructor
    · rintro honce ⟨k, hk, hkn, ht⟩
      have hlater : ((k : ℤ) + 1) * cadence.length ≤ n * cadence.length :=
        mul_le_mul_of_nonneg_right (by exact_mod_cast hkn) hpos.le
      have hback : 0 ≤ k * cadence.length := Int.mul_nonneg (Int.natCast_nonneg k) hpos.le
      rw [add_one_mul] at hlater
      have hstart : e.1 - n * cadence.length < t.1 := by linarith
      have hend : t.1 ≤ e.1 := by linarith
      have hone := honce hstart hend
      rw [countP_bounds_eq_one_iff hpos hstart hend] at hone
      exact hone k hk hkn ht
    · intro hnot hstart hend
      exact (countP_bounds_eq_one_iff hpos hstart hend).mpr fun k hk hkn ht => hnot ⟨k, hk, hkn, ht⟩
  · rw [if_neg hrange]
    exact iff_of_true (fun h => by cases h) fun h => hrange h.1

/-- Noon of three days, and the noon between the two windows that end there. -/
def threeNoons : Date.Instant × Date.Instant := (⟨216000000, by decide⟩, ⟨129600000, by decide⟩)

/-- Of two daily windows, both contain the noon at which one ends and the other begins. -/
theorem not_coveredOnce_noon : ¬Cadence.daily.CoveredOnce (some threeNoons.1.1) 2 (some threeNoons.2.1) := by
  intro h
  exact absurd (h (by decide +kernel) (by decide +kernel)) (by decide +kernel)

end Cadence

end EmailTriage.NotificationAlerting
