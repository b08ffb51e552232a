import Mathlib.Algebra.BigOperators.Group.List.Basic
import Mathlib.Algebra.Order.BigOperators.Group.List
import Mathlib.Algebra.Order.Ring.Rat
import Mathlib.Data.List.Induction
import Mathlib.Data.List.Infix
import EmailTriage.MailboxIngestion.RateLimiter

/-!
# Quota units

A call of `enforceQuota` says how many units it needs, and the adapter does not look at them: it grants
the first calls after a reset, as many as the limit has units. `withinQuota_iff` says which calls stay
within the quota all the same.

`Metered` counts calls as the adapter does, and beside them the units of the calls that were granted.
Both are functions of the calls since the last reset (`tracks_run`): the granted ones are the first of
them, as many as the limit says. So the units of a run stay within the quota exactly if those of its
first calls do, after every reset.
-/

namespace EmailTriage.MailboxIngestion

/-- The units a platform grants between two resets; a limit that is no number grants none. -/
def RateLimited.quota (s : RateLimited) : ℕ := s.limit.getD 0

/-- The counters, and the units that each mailbox was granted since its counter was last reset. -/
structure Metered where
  counters : RateLimiter
  granted : RateLimited → ℚ

/-- A call of `enforceQuota`. -/
abbrev QuotaCall := RateLimited × ℚ

namespace Metered

def initial : Metered := ⟨.initial, fun _ => 0⟩

def step (m : Metered) (op : RateLimiterOperation) : Metered where
  counters := (m.counters.step op).1
  granted := match op with
    | .enforceQuota s units =>
      if (m.counters.step op).2 = .allowed true then Function.update m.granted s (m.granted s + units)
      else m.granted
    | .getCurrentUsage _ => m.granted
    | .reset s => fun t => if t.key = s.key then 0 else m.granted t

/-- What a new adapter has granted after some operations. -/
def run (ops : List RateLimiterOperation) : Metered := ops.foldl step initial

end Metered

/-! ## The calls that are granted

The counter counts calls, while the quota is meant in units. A ghost adds the units of the granted
calls up, and is compared with the counter along every run.
-/

/-- The calls under a key since its last reset, after one more operation. -/
def recordCall (key : String) (calls : List QuotaCall) : RateLimiterOperation → List QuotaCall
  | .enforceQuota s units => if s.key = key then calls ++ [(s, units)] else calls
  | .getCurrentUsage _ => calls
  | .reset s => if s.key = key then [] else calls

/-- The calls under a key since its last reset. -/
def callsSinceReset (key : String) (ops : List RateLimiterOperation) : List QuotaCall :=
  ops.foldl (recordCall key) []

/-- The units of a mailbox in some calls. -/
def unitsOf (s : RateLimited) (calls : List QuotaCall) : ℚ :=
  ((calls.filter fun call => call.1 = s).map Prod.snd).sum

/-- The units of a mailbox in the first calls under its key since the last reset, as many calls as its
limit has units. -/
def firstUnits (s : RateLimited) (ops : List RateLimiterOperation) : ℚ :=
  unitsOf s ((callsSinceReset s.key ops).take s.quota)

/-- In every state of the run, no mailbox was granted more units since its last reset than the limit. -/
def WithinQuota (ops : List RateLimiterOperation) : Prop :=
  ∀ before, before <+: ops → ∀ s, (Metered.run before).granted s ≤ s.quota

/-- In every state of the run, the units of a mailbox in the first calls since its last reset, as many
as the limit, are at most the limit. -/
def FirstWithinQuota (ops : List RateLimiterOperation) : Prop :=
  ∀ before, before <+: ops → ∀ s, firstUnits s before ≤ s.quota

variable {ops : List RateLimiterOperation} {op : RateLimiterOperation} {s t : RateLimited} {units : ℚ}

/-- One call more is allowed below the quota. -/
theorem allows_succ_iff (s : RateLimited) (n : ℕ) : s.allows (n + 1) = true ↔ n < s.quota := by
  unfold RateLimited.allows RateLimited.quota
  rcases s.limit with _ | limit
  · exact iff_of_false nofun (Nat.not_lt_zero n)
  · exact decide_eq_true_iff

/-- The latest operation decides what is recorded after the others. -/
theorem callsSinceReset_append (key : String) (ops : List RateLimiterOperation) (op : RateLimiterOperation) :
    callsSinceReset key (ops ++ [op]) = recordCall key (callsSinceReset key ops) op := by
  unfold callsSinceReset
  rw [List.foldl_append]
  rfl

/-- Units add up. -/
theorem unitsOf_append (s : RateLimited) (calls calls' : List QuotaCall) :
    unitsOf s (calls ++ calls') = unitsOf s calls + unitsOf s calls' := by
  unfold unitsOf
  rw [List.filter_append, List.map_append, List.sum_append]

/-- A call for another quota brings no units. -/
theorem unitsOf_singleton_of_ne (h : s ≠ t) (units : ℚ) : unitsOf t [(s, units)] = 0 := by
  unfold unitsOf
  rw [List.filter_singleton, decide_eq_false h]
  rfl

/-- A call brings its units to its own quota. -/
theorem unitsOf_singleton_self (s : RateLimited) (units : ℚ) : unitsOf s [(s, units)] = units := by
  unfold unitsOf
  rw [List.filter_singleton, decide_eq_true rfl]
  exact add_zero units

/-- A call adds its units to the first ones if it is among these. -/
theorem firstUnits_enforceQuota (ops : List RateLimiterOperation) (s t : RateLimited) (units : ℚ) :
    firstUnits t (ops ++ [.enforceQuota s units]) = firstUnits t ops +
      if s = t ∧ (callsSinceReset s.key ops).length < s.quota then units else 0 := by
  unfold firstUnits
  rw [callsSinceReset_append, recordCall]
  by_cases hkey : s.key = t.key
  · rw [if_pos hkey, List.take_append, unitsOf_append]
    congr 1
    by_cases hst : s = t
    · subst hst
      by_cases hlt : (callsSinceReset s.key ops).length < s.quota
      · rw [if_pos ⟨rfl, hlt⟩, List.take_of_length_le (Nat.sub_pos_of_lt hlt)]
        exact unitsOf_singleton_self s units
      · rw [if_neg fun h => hlt h.2, Nat.sub_eq_zero_of_le (Nat.not_lt.mp hlt)]
        rfl
    · rw [if_neg fun h => hst h.1]
      rcases t.quota - (callsSinceReset t.key ops).length with _ | n
      · rfl
      · rw [List.take_succ_cons, List.take_nil]
        exact unitsOf_singleton_of_ne hst units
  · rw [if_neg hkey, if_neg fun h => hkey (congrArg RateLimited.key h.1), add_zero]

/-- A reset forgets the units of its key, and no others. -/
theorem firstUnits_reset (ops : List RateLimiterOperation) (s t : RateLimited) :
    firstUnits t (ops ++ [.reset s]) = if t.key = s.key then 0 else firstUnits t ops := by
  unfold firstUnits
  rw [callsSinceReset_append, recordCall]
  by_cases hkey : s.key = t.key
  · rw [if_pos hkey, if_pos hkey.symm, List.take_nil]
    rfl
  · rw [if_neg hkey, if_neg (Ne.symm hkey)]

/-- What the counters and the granted units are after the operations. -/
structure Tracks (ops : List RateLimiterOperation) (m : Metered) : Prop where
  counters : ∀ key, m.counters.usage key = (callsSinceReset key ops).length
  granted : ∀ s, m.granted s = firstUnits s ops

namespace Tracks

variable {m : Metered}

/-- The counter of a key counts the calls since its last reset. -/
theorem counters_step (h : Tracks ops m) (op : RateLimiterOperation) (key : String) :
    (m.step op).counters.usage key = (callsSinceReset key (ops ++ [op])).length := by
  rw [callsSinceReset_append]
  by_cases hkey : op.subject.key = key
  · subst hkey
    have hcount := h.counters op.subject.key
    cases op with
    | enforceQuota s units =>
      rw [recordCall, RateLimiterOperation.subject, if_pos rfl, List.length_append, ← h.counters s.key]
      exact RateLimiter.usage_enforceQuota m.counters s units
    | getCurrentUsage s => exact hcount
    | reset s =>
      rw [recordCall, RateLimiterOperation.subject, if_pos rfl]
      exact RateLimiter.usage_reset m.counters s
  · have hother : (m.step op).counters.usage key = m.counters.usage key :=
      RateLimiter.usage_congr (RateLimiter.step_of_ne hkey)
    rw [hother, h.counters key]
    cases op with
    | enforceQuota s units => exact (congrArg List.length (if_neg hkey)).symm
    | getCurrentUsage s => rfl
    | reset s => exact (congrArg List.length (if_neg hkey)).symm

/-- The units granted are those of the first calls since the last reset. -/
theorem granted_step (h : Tracks ops m) (op : RateLimiterOperation) (t : RateLimited) :
    (m.step op).granted t = firstUnits t (ops ++ [op]) := by
  cases op with
  | enforceQuota s units =>
    have hallowed : (m.counters.step (.enforceQuota s units)).2 = .allowed true ↔
        (callsSinceReset s.key ops).length < s.quota := by
      rw [← allows_succ_iff, ← h.counters s.key]
      exact ⟨fun heq => RateLimiterAnswer.allowed.inj heq, congrArg RateLimiterAnswer.allowed⟩
    rw [firstUnits_enforceQuota, ← h.granted t, Metered.step]
    dsimp only
    by_cases hlt : (callsSinceReset s.key ops).length < s.quota
    · rw [if_pos (hallowed.mpr hlt)]
      by_cases hst : s = t
      · subst hst
        rw [Function.update_self, if_pos ⟨rfl, hlt⟩]
      · rw [Function.update_of_ne (Ne.symm hst), if_neg fun hand => hst hand.1, add_zero]
    · rw [if_neg fun heq => hlt (hallowed.mp heq), if_neg fun hand => hlt hand.2, add_zero]
  | getCurrentUsage s =>
    have hcalls := callsSinceReset_append t.key ops (.getCurrentUsage s)
    rw [firstUnits, hcalls]
    exact h.granted t
  | reset s =>
    rw [firstUnits_reset, ← h.granted t]
    rfl

end Tracks

/-- The counters count the calls, and the first ones are granted. -/
theorem tracks_run (ops : List RateLimiterOperation) : Tracks ops (Metered.run ops) := by
  induction ops using List.reverseRecOn with
  | nil =>
    refine ⟨fun _ => rfl, fun s => ?_⟩
    rw [firstUnits, callsSinceReset, List.foldl_nil, List.take_nil]
    rfl
  | append_singleton ops op ih =>
    have hrun : Metered.run (ops ++ [op]) = (Metered.run ops).step op := List.foldl_append
    rw [hrun]
    exact ⟨ih.counters_step op, ih.granted_step op⟩

/-- A run stays within the quota if and only if the first calls since a reset, as many as the limit,
do. -/
theorem withinQuota_iff (ops : List RateLimiterOperation) : WithinQuota ops ↔ FirstWithinQuota ops := by
  refine forall_congr' fun before => forall_congr' fun _ => forall_congr' fun s => ?_
  rw [(tracks_run before).granted s]

/-- One call may take more than the limit. -/
theorem not_withinQuota_300 : ¬WithinQuota [.enforceQuota ⟨"gmail", "tenant-1", "mailbox-1"⟩ 300] := by
  intro h
  exact absurd (h _ (List.prefix_refl _) ⟨"gmail", "tenant-1", "mailbox-1"⟩) (by decide +kernel)

/-! ## Calls of one unit

Where no call is for more than one unit, counting calls keeps within the quota.
-/

/-- What was recorded was asked for. -/
theorem mem_of_mem_callsSinceReset {key : String} {call : QuotaCall} (h : call ∈ callsSinceReset key ops) :
    .enforceQuota call.1 call.2 ∈ ops := by
  induction ops using List.reverseRecOn with
  | nil => cases h
  | append_singleton ops op ih =>
    rw [List.mem_append, List.mem_singleton]
    rw [callsSinceReset_append] at h
    cases op with
    | enforceQuota s units =>
      rw [recordCall] at h
      split at h
      · rcases List.mem_append.mp h with h | h
        · exact .inl (ih h)
        · obtain rfl := List.mem_singleton.mp h
          exact .inr rfl
      · exact .inl (ih h)
    | getCurrentUsage s => exact .inl (ih h)
    | reset s =>
      rw [recordCall] at h
      split at h
      · cases h
      · exact .inl (ih h)

/-- Calls for one unit at most bring as many units as there are calls, at most. -/
theorem unitsOf_le_length {calls : List QuotaCall} (h : ∀ call ∈ calls, call.2 ≤ 1) (s : RateLimited) :
    unitsOf s calls ≤ calls.length := by
  have hfilter : ∀ units ∈ (calls.filter fun call => call.1 = s).map Prod.snd, units ≤ 1 := by
    intro units hunits
    obtain ⟨call, hcall, rfl⟩ := List.mem_map.mp hunits
    exact h call (List.mem_filter.mp hcall).1
  refine (List.sum_le_card_nsmul _ 1 hfilter).trans ?_
  rw [List.length_map, nsmul_one]
  exact_mod_cast List.length_filter_le _ _

/-- Calls that need at most one unit each stay within the quota. -/
theorem withinQuota_of_le_one
    (h : ∀ s units, .enforceQuota s units ∈ ops → units ≤ 1) : WithinQuota ops := by
  intro before hbefore s
  have hcalls : ∀ call ∈ (callsSinceReset s.key before).take s.quota, call.2 ≤ 1 := fun call hcall =>
    h call.1 call.2 (hbefore.subset (mem_of_mem_callsSinceReset (List.mem_of_mem_take hcall)))
  rw [(tracks_run before).granted s]
  refine (unitsOf_le_length hcalls s).trans ?_
  exact_mod_cast (List.length_take_le _ _)

end EmailTriage.MailboxIngestion
