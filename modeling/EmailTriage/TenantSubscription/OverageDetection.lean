import Mathlib.Algebra.BigOperators.Group.List.Basic
import Mathlib.Algebra.GroupWithZero.Nat
import Mathlib.Data.List.Induction
import EmailTriage.Lib.Doubles
import EmailTriage.Lib.Effect
import EmailTriage.TenantSubscription.UsageMeter

/-!
# Overage is detected once

`atomicIncrement` of the aggregate takes any number. `BigInt` throws on those that are no integers,
before anything has changed. A meter that has not reached its threshold raises one event over any
sequence of calls that reaches it (`detectsOnce_run`).

A call that throws counts for nothing, and no call lowers the count. So one call of a run reaches the
threshold (`exists_crossing`); the calls before it raise nothing because they stay below, and those
after it because the flag is set (`counted_run`). `raisedBy_of_crosses` puts the three parts together.
-/

namespace EmailTriage.TenantSubscription.OverageDetection

open Js

/-- `atomicIncrement` with any number for the amount. -/
def atomicIncrement (amount : Double) (now : ℤ) : Effect UsageMeter Unit := do
  let amount ← MonadExcept.ofExcept amount.toBigInt
  let meter ← get
  let newCount := meter.usageCount + amount
  -- Only raise event once per threshold crossing
  if !meter.overageDetected && decide (meter.overageThreshold ≤ newCount) then
    modify fun m => { m with
      overageDetected := true
      uncommittedEvents := m.uncommittedEvents ++ [m.overage newCount] }
  modify fun m => { m with usageCount := newCount, lastIncrementedAt := some now }

/-- A meter that has not reached its threshold, and has not reported an overage. -/
def Unreached := { m : UsageMeter // m.overageDetected = false ∧ m.usageCount < m.overageThreshold }

/-- A call of `atomicIncrement`, whose amount is not negative if it is an integer. -/
structure IncrementCall where
  amount : Double
  now : ℤ
  nonneg : ∀ z : ℤ, amount = .finite z → 0 ≤ z

/-- What a call counts: nothing if its amount is no integer. -/
def IncrementCall.counted (call : IncrementCall) : ℕ :=
  match call.amount.toBigInt with
  | .ok amount => amount.toNat
  | .error _ => 0

/-- The meter after some calls. -/
def run (m : UsageMeter) (calls : List IncrementCall) : UsageMeter :=
  calls.foldl (fun m call => after (atomicIncrement call.amount call.now) m) m

/-- The event that a meter has reached its threshold with a count, raised by the call after some
others. -/
structure RaisedBy (m : UsageMeter) (before : List IncrementCall) (call : IncrementCall) (count : ℤ) :
    Prop where
  first : ∀ k ≤ before.length, (run m (before.take k)).usageCount < m.overageThreshold
  silent : (run m before).uncommittedEvents = m.uncommittedEvents
  counted : (run m (before ++ [call])).usageCount = count
  reached : m.overageThreshold ≤ count
  raised : (run m (before ++ [call])).uncommittedEvents = m.uncommittedEvents ++ [m.overage count]
  carries : count.natAbs < 2 ^ 53 → (m.overage count).usage = .finite count

/-- The calls count what they should, those without an integer throw and change nothing, and one event is
raised if the threshold is reached, by the first call that reaches it. -/
structure DetectsOnce (m : UsageMeter) (calls : List IncrementCall) : Prop where
  counts : (run m calls).usageCount = m.usageCount + (calls.map IncrementCall.counted).sum
  flags : (run m calls).overageDetected = decide (m.overageThreshold ≤ (run m calls).usageCount)
  throws : ∀ before call rest, calls = before ++ call :: rest → (∀ z : ℤ, call.amount ≠ .finite z) →
    atomicIncrement call.amount call.now (run m before) = .error .rangeError (run m before)
  quiet : (run m calls).usageCount < m.overageThreshold →
    (run m calls).uncommittedEvents = m.uncommittedEvents
  raises : m.overageThreshold ≤ (run m calls).usageCount →
    ∃ before call rest count, calls = before ++ call :: rest ∧ RaisedBy m before call count ∧
      (run m calls).uncommittedEvents = m.uncommittedEvents ++ [m.overage count]

/-! ## One call

What a call does for each amount that it may get: it throws, or adds a natural number.
-/

variable {m : UsageMeter} {amount : Double} {now : ℤ}

/-- An amount that is no whole number leaves the meter as it is. -/
theorem atomicIncrement_of_error {e : Exception} (h : amount.toBigInt = .error e) (m : UsageMeter) :
    atomicIncrement amount now m = .error e m := by
  unfold atomicIncrement
  rw [h]
  exact bind_of_error (ofExcept_error e m) _

/-- With a natural number for the amount, the meter changes as modelled before. -/
theorem atomicIncrement_natCast (n : ℕ) (m : UsageMeter) :
    atomicIncrement (.finite (n : ℤ)) now m = .ok () (m.atomicIncrement now n) := by
  have hget : (get : Effect UsageMeter UsageMeter) m = .ok m m := rfl
  unfold atomicIncrement UsageMeter.atomicIncrement UsageMeter.crosses
  rw [Double.toBigInt_finite, bind_of_ok (ofExcept_ok (n : ℤ) m), bind_of_ok hget]
  dsimp only
  rcases !m.overageDetected && decide (m.overageThreshold ≤ m.usageCount + n) with _ | _
  · rfl
  · rfl

/-- A call does what the increment by what it counts does, except for the time when it throws. -/
theorem after_call (call : IncrementCall) (m : UsageMeter) :
    after (atomicIncrement call.amount call.now) m = m.atomicIncrement call.now call.counted ∨
      call.counted = 0 ∧ after (atomicIncrement call.amount call.now) m = m := by
  by_cases h : ∃ z : ℤ, call.amount = .finite z
  · obtain ⟨z, hz⟩ := h
    obtain ⟨n, rfl⟩ := Int.eq_ofNat_of_zero_le (call.nonneg z hz)
    refine .inl ?_
    have hcounted : call.counted = n := by
      rw [IncrementCall.counted, hz]
      rfl
    rw [hcounted, hz]
    exact after_of_ok (atomicIncrement_natCast n m)
  · have herror := Double.toBigInt_eq_error fun z hz => h ⟨z, hz⟩
    refine .inr ⟨?_, after_of_error (atomicIncrement_of_error herror m)⟩
    rw [IncrementCall.counted, herror]

/-! ## Calls that raise nothing

Below the threshold calls only add up.
-/

/-- The meter has counted an amount and raised nothing. -/
structure Counted (m m' : UsageMeter) (n : ℕ) : Prop where
  count : m'.usageCount = m.usageCount + n
  flag : m'.overageDetected = m.overageDetected
  events : m'.uncommittedEvents = m.uncommittedEvents
  threshold : m'.overageThreshold = m.overageThreshold
  overage : m'.overage = m.overage

/-- Nothing has been counted before the first call. -/
theorem Counted.refl (m : UsageMeter) : Counted m m 0 := ⟨(Int.add_zero _).symm, rfl, rfl, rfl, rfl⟩

/-- Calls after calls add up. -/
theorem Counted.trans {m m₁ m₂ : UsageMeter} {n k : ℕ} (h : Counted m m₁ n) (h' : Counted m₁ m₂ k) :
    Counted m m₂ (n + k) where
  count := by
    rw [h'.count, h.count, Int.natCast_add, add_assoc]
  flag := h'.flag.trans h.flag
  events := h'.events.trans h.events
  threshold := h'.threshold.trans h.threshold
  overage := h'.overage.trans h.overage

/-- What is counted before an amount counts towards the crossing. -/
theorem Counted.crosses {m m' : UsageMeter} {n : ℕ} (h : Counted m m' n) (k : ℕ) :
    m'.crosses k = m.crosses (n + k) := by
  unfold UsageMeter.crosses
  rw [h.flag, h.threshold, h.count, Int.natCast_add, add_assoc]

/-- What more does not cross, less does not. -/
theorem crosses_of_le {n k : ℕ} (h : n ≤ k) (hk : m.crosses k = false) : m.crosses n = false := by
  unfold UsageMeter.crosses at hk ⊢
  rcases hflag : m.overageDetected with _ | _
  · rw [hflag] at hk
    have := of_decide_eq_false hk
    exact decide_eq_false (by omega)
  · rfl

/-- An increment that crosses no threshold is counted and raises no flag. -/
theorem counted_atomicIncrement {n : ℕ} (h : m.crosses n = false) :
    Counted m (m.atomicIncrement now n) n := by
  unfold UsageMeter.atomicIncrement
  rw [h]
  exact ⟨rfl, rfl, rfl, rfl, rfl⟩

/-- The first call, and the others after it. -/
theorem run_cons (m : UsageMeter) (call : IncrementCall) (calls : List IncrementCall) :
    run m (call :: calls) = run (after (atomicIncrement call.amount call.now) m) calls := rfl

/-- Calls after calls. -/
theorem run_append (m : UsageMeter) (calls calls' : List IncrementCall) :
    run m (calls ++ calls') = run (run m calls) calls' := List.foldl_append

/-- Calls that stay below the threshold together, or come after it was reached, raise nothing. -/
theorem counted_run (calls : List IncrementCall)
    (h : m.crosses (calls.map IncrementCall.counted).sum = false) :
    Counted m (run m calls) (calls.map IncrementCall.counted).sum := by
  induction calls generalizing m with
  | nil => exact .refl m
  | cons call calls ih =>
    rw [List.map_cons, List.sum_cons] at h ⊢
    have hcall : Counted m (after (atomicIncrement call.amount call.now) m) call.counted := by
      rcases after_call call m with hafter | ⟨hzero, hafter⟩
      · rw [hafter]
        exact counted_atomicIncrement (crosses_of_le (Nat.le_add_right _ _) h)
      · rw [hafter, hzero]
        exact .refl m
    rw [run_cons]
    exact hcall.trans (ih ((hcall.crosses _).trans h))

/-! ## The call that reaches the threshold

Where the sum of all calls reaches the threshold, there is a first call at which it does, and this one
raises the flag.
-/

/-- Where a sum of calls crosses the threshold, one of them does. -/
theorem exists_crossing (hm : m.crosses 0 = false) (calls : List IncrementCall)
    (h : m.crosses (calls.map IncrementCall.counted).sum = true) :
    ∃ before call rest, calls = before ++ call :: rest ∧
      m.crosses (before.map IncrementCall.counted).sum = false ∧
      m.crosses ((before.map IncrementCall.counted).sum + call.counted) = true := by
  induction calls using List.reverseRecOn with
  | nil => exact absurd h (Bool.eq_false_iff.mp hm)
  | append_singleton calls call ih =>
    by_cases hcalls : m.crosses (calls.map IncrementCall.counted).sum = true
    · obtain ⟨before, call', rest, rfl, hbefore, hcall'⟩ := ih hcalls
      exact ⟨before, call', rest ++ [call], by rw [List.append_assoc, List.cons_append], hbefore, hcall'⟩
    · refine ⟨calls, call, [], rfl, Bool.eq_false_iff.mpr hcalls, ?_⟩
      rw [List.map_append, List.sum_append, List.map_singleton, List.sum_singleton] at h
      exact h

/-- A meter whose overage is detected is never detected again. -/
theorem crosses_of_detected (h : m.overageDetected = true) (n : ℕ) : m.crosses n = false := by
  rw [UsageMeter.crosses, h]
  rfl

/-- Below the threshold, an amount crosses it exactly if the sum reaches it. -/
theorem Unreached.crosses (m : Unreached) (n : ℕ) :
    m.1.crosses n = decide (m.1.overageThreshold ≤ m.1.usageCount + n) := by
  rw [UsageMeter.crosses, m.2.1]
  rfl

/-- What does not cross the threshold stays below it. -/
theorem Unreached.lt_of_crosses (m : Unreached) {n : ℕ} (h : m.1.crosses n = false) :
    m.1.usageCount + n < m.1.overageThreshold := by
  rw [m.crosses] at h
  exact Int.not_le.mp (of_decide_eq_false h)

/-- The first calls count no more than all of them. -/
theorem sum_take_le (calls : List IncrementCall) (k : ℕ) :
    ((calls.take k).map IncrementCall.counted).sum ≤ (calls.map IncrementCall.counted).sum := by
  rw [List.map_take, ← List.sum_take_add_sum_drop (calls.map IncrementCall.counted) k]
  exact Nat.le_add_right _ _

/-- A call that crosses the threshold changes the meter as modelled before. -/
theorem run_of_crosses {before : List IncrementCall} {call : IncrementCall}
    (hbefore : m.crosses (before.map IncrementCall.counted).sum = false)
    (hcall : m.crosses ((before.map IncrementCall.counted).sum + call.counted) = true) :
    run m (before ++ [call]) = (run m before).atomicIncrement call.now call.counted := by
  rw [run_append]
  rcases after_call call (run m before) with hafter | ⟨hzero, -⟩
  · exact hafter
  · -- a call that throws counts nothing, so it crosses nothing
    rw [hzero, Nat.add_zero, hbefore] at hcall
    cases hcall

/-- The call that crosses the threshold raises the event. -/
theorem raisedBy_of_crosses (m : Unreached) {before : List IncrementCall} {call : IncrementCall}
    (hbefore : m.1.crosses (before.map IncrementCall.counted).sum = false)
    (hcall : m.1.crosses ((before.map IncrementCall.counted).sum + call.counted) = true) :
    RaisedBy m.1 before call (m.1.usageCount + (before.map IncrementCall.counted).sum + call.counted) ∧
      (run m.1 (before ++ [call])).overageDetected = true := by
  have hcounted := counted_run before hbefore
  have hcrosses : (run m.1 before).crosses call.counted = true := (hcounted.crosses _).trans hcall
  have hrun := run_of_crosses hbefore hcall
  refine ⟨⟨fun k hk => ?_, hcounted.events, ?_, ?_, ?_, fun hexact => ofBigInt_of_lt hexact⟩, ?_⟩
  · have htake := crosses_of_le (sum_take_le before k) hbefore
    rw [(counted_run _ htake).count]
    exact m.lt_of_crosses htake
  · rw [hrun, UsageMeter.usageCount_atomicIncrement, hcounted.count]
  · rw [m.crosses, Int.natCast_add, ← add_assoc] at hcall
    exact of_decide_eq_true hcall
  · rw [hrun, UsageMeter.uncommittedEvents_atomicIncrement, hcrosses, if_pos rfl, hcounted.events,
      hcounted.overage, hcounted.count]
  · rw [hrun, UsageMeter.overageDetected_atomicIncrement, hcrosses, Bool.or_true]

/-! ## Any calls

The two cases together.
-/

/-- The calls count what they should, and a meter that has not reached its threshold raises one event
if they reach it. -/
theorem detectsOnce_run (m : Unreached) (calls : List IncrementCall) : DetectsOnce m.1 calls := by
  have hthrows : ∀ before call rest, calls = before ++ call :: rest →
      (∀ z : ℤ, call.amount ≠ .finite z) →
      atomicIncrement call.amount call.now (run m.1 before) = .error .rangeError (run m.1 before) :=
    fun before _ _ _ h => atomicIncrement_of_error (Double.toBigInt_eq_error h) (run m.1 before)
  rcases htotal : m.1.crosses (calls.map IncrementCall.counted).sum with _ | _
  · have hcounted := counted_run calls htotal
    have hlt := m.lt_of_crosses htotal
    rw [← hcounted.count] at hlt
    refine ⟨hcounted.count, ?_, hthrows, fun _ => hcounted.events, fun hreached => ?_⟩
    · rw [hcounted.flag, m.2.1]
      exact (decide_eq_false (Int.not_le.mpr hlt)).symm
    · exact absurd hreached (Int.not_le.mpr hlt)
  · -- the first call that crosses the threshold, the calls before it and those behind it
    obtain ⟨before, call, rest, rfl, hbefore, hcall⟩ :=
      exists_crossing ((m.crosses 0).trans (decide_eq_false (by simpa using m.2.2))) calls htotal
    obtain ⟨hraised, hdetected⟩ := raisedBy_of_crosses m hbefore hcall
    have hrest := counted_run rest (crosses_of_detected hdetected _)
    have hrun : run m.1 (before ++ call :: rest) = run (run m.1 (before ++ [call])) rest := by
      rw [← run_append, List.append_assoc, List.singleton_append]
    rw [← hrun] at hrest
    have hcount : (run m.1 (before ++ call :: rest)).usageCount =
        m.1.usageCount + ((before ++ call :: rest).map IncrementCall.counted).sum := by
      rw [hrest.count, hraised.counted, List.map_append, List.sum_append, List.map_cons, List.sum_cons,
        Int.natCast_add, Int.natCast_add]
      omega
    have hreached : m.1.overageThreshold ≤ (run m.1 (before ++ call :: rest)).usageCount := by
      rw [hrest.count, hraised.counted]
      exact Int.le_trans hraised.reached (Int.le_add_of_nonneg_right (Int.natCast_nonneg _))
    refine ⟨hcount, ?_, hthrows, fun hlt => absurd hreached (Int.not_le.mpr hlt), fun _ => ?_⟩
    · rw [hrest.flag, hdetected]
      exact (decide_eq_true hreached).symm
    · exact ⟨before, call, rest, _, rfl, hraised, hrest.events.trans hraised.raised⟩

end EmailTriage.TenantSubscription.OverageDetection
