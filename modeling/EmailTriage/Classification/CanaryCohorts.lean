import Mathlib.Tactic.Ring
import EmailTriage.Classification.CanaryPercentages

/-!
# The cohort of a canary rollout

Which tenants get the canary version. `hashTenantId` of
`src/classification/services/canary-rollout.service.ts` mixes shifts, additions of doubles and 32-bit
truncation. Its intermediate values are exact, so the hash is a polynomial of the code units
(`hashTenantId_eq`), and the cohort grows with the percentage and with the set of beta tenants
(`cohortLaw`).

JavaScript shifts and truncates to 32 bits, but adds doubles. The sums stay below `2 ^ 53`
(`natAbs_wrapped_le`), where doubles are exact, so truncating at every step is the same as truncating
once at the end. The last section carries the service of this module to the one with whole percentages,
so that both answer with the same version.
-/

namespace EmailTriage.Classification

open Js

namespace CanaryRolloutService

/-- One round of the loop of `hashTenantId`. -/
def hashStep (hash : Number) (char : UInt16) : Number :=
  let hash := ((hash.shiftLeft 5).sub hash).add (.finite char.toNat)
  hash.and hash

/-- `hashTenantId`. -/
def hashTenantId (tenantId : Utf16) : Number := (tenantId.foldl hashStep (.finite 0)).abs

/-- The bucket of a tenant. -/
def bucket (tenantId : Utf16) : Number := (hashTenantId tenantId).mod (.finite 100)

/-- `getTenantPipelineVersion`. -/
def getTenantPipelineVersion (s : CanaryRolloutService) (tenantId : Utf16) : String :=
  match s.activeCanary with
  | none => s.currentProductionVersion
  | some canaryVersion =>
    -- Beta tenants always get canary first
    if tenantId ∈ s.betaTenantIds then canaryVersion
    -- Random percentage slice for canary rollout
    else if (Double.finite 0).lt s.canaryPercentage && (bucket tenantId).toDouble.lt s.canaryPercentage then
      canaryVersion
    else s.currentProductionVersion

/-! ## The hash

The hash is computed with doubles and 32-bit operations. No intermediate number needs more than 53
bits, so nothing is rounded, and the hash is a polynomial modulo 2 to the 32.
-/

/-- The base-31 polynomial of the code units. -/
def polynomial (tenantId : Utf16) : ℤ := tenantId.foldl (fun value char => 31 * value + char.toNat) 0

/-- The polynomial, reduced to a signed 32-bit integer after every step. -/
def wrapped (tenantId : Utf16) : ℤ :=
  tenantId.foldl (fun value char => (31 * value + char.toNat).bmod (2 ^ 32)) 0

/-- A signed number of 32 bits. -/
theorem natAbs_bmod_le (x : ℤ) : (x.bmod (2 ^ 32)).natAbs ≤ 2 ^ 31 := by
  have hlow := Int.le_bmod (x := x) (m := 2 ^ 32) (by decide)
  have hhigh := Int.bmod_lt (x := x) (m := 2 ^ 32) (by decide)
  omega

/-- Shifting by five bits and subtracting is multiplying by 31. -/
theorem bmod_shift (value : ℤ) (char : ℕ) :
    ((value * 2 ^ 5).bmod (2 ^ 32) - value + char).bmod (2 ^ 32) = (31 * value + char).bmod (2 ^ 32) := by
  have hsum : (value * 2 ^ 5).bmod (2 ^ 32) - value + char =
      (value * 2 ^ 5).bmod (2 ^ 32) + (char - value) := by
    ring
  have hvalue : value * 2 ^ 5 + ((char : ℤ) - value) = 31 * value + char := by
    ring
  rw [hsum, Int.bmod_add_bmod, hvalue]

/-- All values of a round are exact. -/
theorem hashStep_finite {value : ℤ} (h : value.natAbs ≤ 2 ^ 31) (char : UInt16) :
    hashStep (.finite value) char = .finite ((31 * value + char.toNat).bmod (2 ^ 32)) := by
  have hshift := natAbs_bmod_le (value * 2 ^ 5)
  have hchar := char.toNat_lt
  rw [hashStep, Number.shiftLeft_finite, Number.sub_finite (by omega), Number.add_finite (by omega),
    Number.and_self_finite, bmod_shift]

/-- So is the hash before its sign is dropped. -/
theorem natAbs_wrapped_le (tenantId : Utf16) : (wrapped tenantId).natAbs ≤ 2 ^ 31 := by
  induction tenantId using List.reverseRecOn with
  | nil => decide
  | append_singleton tenantId char _ =>
    rw [wrapped, List.foldl_append]
    exact natAbs_bmod_le _

/-- The loop computes the reduced polynomial. -/
theorem foldl_hashStep (tenantId : Utf16) :
    tenantId.foldl hashStep (.finite 0) = .finite (wrapped tenantId) := by
  induction tenantId using List.reverseRecOn with
  | nil => rfl
  | append_singleton tenantId char ih =>
    rw [wrapped, List.foldl_append, List.foldl_append, ih]
    exact hashStep_finite (natAbs_wrapped_le tenantId) char

/-- The hash is the absolute value of the wrapped one; no rounding is in the way. -/
theorem hashTenantId_eq (tenantId : Utf16) :
    hashTenantId tenantId = .finite (wrapped tenantId).natAbs := by
  rw [hashTenantId, foldl_hashStep]
  rfl

/-- Reducing after every step is reducing once. -/
theorem wrapped_eq_bmod (tenantId : Utf16) : wrapped tenantId = (polynomial tenantId).bmod (2 ^ 32) := by
  induction tenantId using List.reverseRecOn with
  | nil => rfl
  | append_singleton tenantId char ih =>
    have hpolynomial : polynomial (tenantId ++ [char]) = 31 * polynomial tenantId + char.toNat := by
      rw [polynomial, List.foldl_append]
      rfl
    have hwrapped : wrapped (tenantId ++ [char]) = (31 * wrapped tenantId + char.toNat).bmod (2 ^ 32) := by
      rw [wrapped, List.foldl_append]
      rfl
    rw [hwrapped, hpolynomial, ih, ← Int.bmod_add_bmod, Int.mul_bmod_bmod, Int.bmod_add_bmod]

/-- The bucket is the hash modulo a hundred. -/
theorem bucket_eq (tenantId : Utf16) :
    bucket tenantId = .finite ((wrapped tenantId).natAbs % 100 : ℕ) := by
  rw [bucket, hashTenantId_eq, Number.mod, if_neg (by decide)]
  rfl

/-! ## The cohort

A tenant is in the cohort of a canary if its bucket is below the percentage, whatever else is set.
-/

/-- A canary version beside the one in production. -/
structure Canary where
  version : String
  production : String
  nonempty : version ≠ ""
  differs : version ≠ production

/-- The tenant gets the canary version at a percentage, with some beta tenants. -/
def Canary.Gets (c : Canary) (percentage : Double) (betaTenantIds : Finset Utf16)
    (tenantId : Utf16) : Prop :=
  getTenantPipelineVersion ⟨c.production, some c.version, percentage, betaTenantIds⟩ tenantId = c.version

/-- The bucket of a tenant is well-defined, and the cohort grows with the percentage and with the beta
tenants, from these at 0 to all tenants at 100. -/
structure CohortLaw (c : Canary) (tenantId : Utf16) : Prop where
  hash : hashTenantId tenantId = .finite (wrapped tenantId).natAbs
  reduced : wrapped tenantId = (polynomial tenantId).bmod (2 ^ 32)
  inRange : ∃ n : ℕ, n ≤ 99 ∧ bucket tenantId = .finite n
  nested : ∀ p p' B B', p.le p' = true → B ⊆ B' → c.Gets p B tenantId → c.Gets p' B' tenantId
  all : ∀ B, c.Gets (.finite 100) B tenantId
  beta : ∀ B, c.Gets (.finite 0) B tenantId ↔ tenantId ∈ B

/-- Beta tenants get the canary version, and those whose bucket is below the percentage. -/
theorem Canary.gets_iff (c : Canary) (p : Double) (B : Finset Utf16) (tenantId : Utf16) :
    c.Gets p B tenantId ↔
      tenantId ∈ B ∨ (Double.finite ((wrapped tenantId).natAbs % 100 : ℕ)).lt p = true := by
  have hactive : activeCanary ⟨c.production, some c.version, p, B⟩ = some c.version := by
    rw [activeCanary, Option.filter_some, if_pos (decide_eq_true c.nonempty)]
  have hbucket : (bucket tenantId).toDouble = .finite ((wrapped tenantId).natAbs % 100 : ℕ) := by
    rw [bucket_eq]
    rfl
  have hzero : (Double.finite 0).le (.finite ((wrapped tenantId).natAbs % 100 : ℕ)) = true :=
    Double.le_finite_iff.mpr (by exact_mod_cast Nat.zero_le _)
  rw [Canary.Gets, getTenantPipelineVersion, hactive, hbucket]
  dsimp only
  by_cases hB : tenantId ∈ B
  · rw [if_pos hB]
    exact iff_of_true rfl (.inl hB)
  · rw [if_neg hB, or_iff_right hB]
    constructor
    · intro h
      by_contra hlt
      rw [if_neg fun hslice => hlt (Bool.and_eq_true_iff.mp hslice).2] at h
      exact c.differs h.symm
    · intro hlt
      exact if_pos (Bool.and_eq_true_iff.mpr ⟨Double.lt_of_le_of_lt hzero hlt, hlt⟩)

/-- The law holds for every canary version and every tenant. -/
theorem cohortLaw (c : Canary) (tenantId : Utf16) : CohortLaw c tenantId where
  hash := hashTenantId_eq tenantId
  reduced := wrapped_eq_bmod tenantId
  inRange := ⟨_, Nat.le_of_lt_succ (Nat.mod_lt _ (by decide)), bucket_eq tenantId⟩
  nested p p' B B' hp hB hgets := by
    rw [c.gets_iff] at hgets ⊢
    exact hgets.imp (fun hmem => hB hmem) fun hlt => Double.lt_of_lt_of_le hlt hp
  all B := by
    rw [c.gets_iff, Double.lt_finite_iff]
    exact .inr (by exact_mod_cast Nat.mod_lt _ (by decide))
  beta B := by
    rw [c.gets_iff, Double.lt_finite_iff]
    refine or_iff_left ?_
    exact_mod_cast Nat.not_lt_zero _

/-! ## Texts for tenant ids

The same for ids as texts, by their code units.
-/

/-- On texts, the hash is the one that was modelled before. -/
theorem natAbs_wrapped_utf16 (tenantId : String) :
    (wrapped (utf16 tenantId)).natAbs = RolloutState.hashTenantId tenantId := by
  have hstep : ∀ (value : ℤ) (char : UInt16), (31 * value + char.toNat).bmod (2 ^ 32) =
      RolloutState.toInt32 (RolloutState.toInt32 (value * 32) - value + char.toNat) :=
    fun value char => (bmod_shift value char.toNat).symm
  unfold wrapped RolloutState.hashTenantId
  simp only [← map_toNat_utf16, bind_pure_comp, List.map_eq_map, List.map_map, List.foldl_map, hstep]
  rfl

/-- On texts and whole percentages, tenants get the version they got there. -/
theorem getTenantPipelineVersion_toService (s : RolloutState) (tenantId : String) :
    s.toService.getTenantPipelineVersion (utf16 tenantId) = s.getTenantPipelineVersion tenantId := by
  have hactive : s.toService.activeCanary = s.activeCanary := rfl
  have hbeta : utf16 tenantId ∈ s.toService.betaTenantIds ↔ tenantId ∈ s.betaTenantIds := by
    refine Finset.mem_image.trans ⟨?_, fun h => ⟨tenantId, h, rfl⟩⟩
    rintro ⟨t, ht, heq⟩
    rwa [← utf16_inj heq]
  have hbucket : (bucket (utf16 tenantId)).toDouble =
      .finite ((RolloutState.hashTenantId tenantId) % 100 : ℕ) := by
    rw [bucket_eq, natAbs_wrapped_utf16]
    rfl
  have hslice : (Double.lt (.finite 0) s.toService.canaryPercentage && Double.lt
        (.finite (RolloutState.hashTenantId tenantId % 100 : ℕ)) s.toService.canaryPercentage) = true ↔
      s.canaryPercentage > 0 ∧ (RolloutState.hashTenantId tenantId : ℤ) % 100 < s.canaryPercentage := by
    rw [Bool.and_eq_true, RolloutState.toService, Double.lt_finite_iff, Double.lt_finite_iff,
      ← Int.cast_natCast, Rat.intCast_lt_intCast]
    exact and_congr Rat.intCast_pos Iff.rfl
  unfold getTenantPipelineVersion RolloutState.getTenantPipelineVersion
  rw [hactive, hbucket]
  rcases s.activeCanary with _ | canaryVersion
  · rfl
  · simp only [hbeta, hslice]
    rfl

end CanaryRolloutService

end EmailTriage.Classification
