import EmailTriage.Prioritization.LastingContributions

/-!
# Scoring a message again

`computeScore` returns weighted components, and `updateScore` stores them where the next `computeScore`
reads its input, so every round weights the contributions once more. `rescoringIdempotent_when` says
for which components and weights the score nevertheless stays.

## Why the score stays

The contribution that was stored first and its lasting part bound all the later ones, whatever the
round. The bounds do not depend on the rounds, and where they have the same score, every round in
between has that score, too: `Confined` is the invariant, and `score_confined` what it means for the
score. Any weight that is not between zero and one has to leave the stored contribution alone.

## The other direction

With weights between zero and one, the contributions have come down to their lasting parts after a
hundred rounds at most (`score_of_computes_again`, by induction over a bound of those that are not
kept), so a score that stays is that of the lasting parts. If all contributions have one sign, this is
the condition again. With both signs, what one contribution loses in a round another may win, and the
score can stay by coincidence.
-/

namespace EmailTriage.Prioritization.Rounded

open Js

namespace MessagePriority

/-! ## Rounds

A round computes a score and updates the priority with it and with the weighted components.
-/

/-- A round of `computeScore` and `updateScore`. -/
def rescore (weights : ScoringWeights) (p : MessagePriority) (now : ℤ) :
    Except Exception MessagePriority := do
  let (score, components) ← p.computeScore weights
  return (p.updateScore score components now).1

/-- Once a score and its components are stored, `computeScore` returns the same score after any further
rounds. -/
def RescoringIdempotent (p : MessagePriority) (weights : ScoringWeights) : Prop :=
  ∀ score cs now, p.computeScore weights = .ok (score, cs) → ∀ times : List ℤ, ∃ p' cs',
    times.foldlM (rescore weights) (p.updateScore score cs now).1 = .ok p' ∧
      p'.computeScore weights = .ok (score, cs')

/-! ## Components and weights that keep the score

The condition is one on the components and the weights before the first round: what the rounds keep of the
contributions has the clamped sum that the first round has.
-/

/-- The contribution that the first round stores. -/
def stored (weights : ScoringWeights) (comp : ScoreComponent) : Double :=
  weighted (weights.weight comp.signal) comp.contribution

/-- Every contribution that is stored is kept by its weight, or the weight is between zero and one; and
the least and the most that the contributions become have the same score, unless one of them is not a
number, when no score is one either. -/
structure KeepsScore (weights : ScoringWeights) (components : List ScoreComponent) : Prop where
  weights_again : ∀ comp ∈ components,
    weighted (weights.weight comp.signal) (stored weights comp) = stored weights comp ∨
      IsShare (weights.weight comp.signal)
  score_again : .nan ∈ components.map (stored weights) ∨
    clampScore (Double.addAll (.finite 0)
        (components.map fun comp => least (weights.weight comp.signal) (stored weights comp))) =
      clampScore (Double.addAll (.finite 0)
        (components.map fun comp => most (weights.weight comp.signal) (stored weights comp)))

/-- Some component cannot be weighted at all: `computeScore` throws. -/
def Throws (weights : ScoringWeights) (components : List ScoreComponent) : Prop :=
  ∃ comp ∈ components, outOfRange (stored weights comp) = true

/-! ## What every round keeps

From the first round on a contribution stays between what lasts of it and what was stored first, so the
score stays between two sums.
-/

/-- A stored component lies between the least and the most that the contribution stored first becomes. -/
structure Confined (weights : ScoringWeights) (comp c : ScoreComponent) : Prop where
  signal : c.signal = comp.signal
  contribution : (stored weights comp = .nan ∧ c.contribution = .nan) ∨
    ∃ z l h : ℤ, stored weights comp = .finite z ∧ Bounds (weights.weight comp.signal) z l h ∧
      Double.le (.finite l) c.contribution = true ∧ c.contribution.le (.finite h) = true

variable {weights : ScoringWeights} {comp c : ScoreComponent} {components cs : List ScoreComponent}

/-- The component that is stored first is confined. -/
theorem confined_of_weighs (hc : Weighs weights comp c)
    (hagain : weighted (weights.weight comp.signal) (stored weights comp) = stored weights comp ∨
      IsShare (weights.weight comp.signal)) : Confined weights comp c := by
  have hrange : outOfRange (stored weights comp) = false := exists_weighs_iff.mp ⟨c, hc⟩
  have hstored : c.contribution = stored weights comp := hc.contribution
  refine ⟨hc.signal, ?_⟩
  rcases eq_of_not_outOfRange hrange with hnan | ⟨z, hz, hle⟩
  · exact .inl ⟨hnan, hstored.trans hnan⟩
  · have hz' : stored weights comp = .finite z := hz
    rw [hz'] at hagain
    obtain ⟨l, h, hbounds⟩ := exists_bounds hle hagain
    refine .inr ⟨z, l, h, hz', hbounds, ?_, ?_⟩
    · rw [hstored, hz']
      exact Double.le_finite_iff.mpr (by exact_mod_cast hbounds.mem.1)
    · rw [hstored, hz']
      exact Double.le_finite_iff.mpr (by exact_mod_cast hbounds.mem.2)

/-- The components that are stored first are confined. -/
theorem forall₂_confined (hkeeps : KeepsScore weights components)
    (hcs : List.Forall₂ (Weighs weights) components cs) : List.Forall₂ (Confined weights) components cs := by
  have hagain := hkeeps.weights_again
  clear hkeeps
  induction hcs with
  | nil => exact .nil
  | cons hc _ ih =>
    obtain ⟨hcomp, hcomponents⟩ := List.forall_mem_cons.mp hagain
    exact .cons (confined_of_weighs hc hcomp) (ih hcomponents)

/-- What lies between bounds within the range is within the range. -/
theorem not_outOfRange_of_le {x : Double} {l h : ℤ} (hrange : -100 ≤ l ∧ h ≤ 100)
    (hl : Double.le (.finite l) x = true) (hh : x.le (.finite h) = true) : outOfRange x = false := by
  have hlo : Double.le (.finite (-100)) (.finite l) = true :=
    Double.le_finite_iff.mpr (by exact_mod_cast hrange.1)
  have hhi : Double.le (.finite h) (.finite 100) = true :=
      Double.le_finite_iff.mpr (by exact_mod_cast hrange.2)
  have hnumber := (Double.ne_nan_of_le hl).2
  unfold outOfRange
  rw [Bool.or_eq_false_iff]
  exact ⟨(Double.lt_eq_false_iff hnumber (by rintro ⟨⟩)).mpr (Double.le_trans hlo hl),
    (Double.lt_eq_false_iff (by rintro ⟨⟩) hnumber).mpr (Double.le_trans hh hhi)⟩

/-- A confined component is weighted without an exception, and stays confined. -/
theorem Confined.step (hc : Confined weights comp c) :
    ∃ c', Weighs weights c c' ∧ Confined weights comp c' := by
  have hweight : weights.weight c.signal = weights.weight comp.signal := by rw [hc.signal]
  rcases hc.contribution with ⟨hnan, hcnan⟩ | ⟨z, l, h, hz, hbounds, hl, hh⟩
  · have hagain : weighted (weights.weight c.signal) c.contribution = .nan := by
      rw [hcnan]
      rfl
    obtain ⟨c', hc'⟩ := exists_weighs_iff.mpr (by rw [hagain]; rfl : outOfRange _ = false)
    exact ⟨c', hc', hc'.signal.trans hc.signal, .inl ⟨hnan, hc'.contribution.trans hagain⟩⟩
  · obtain ⟨hl', hh'⟩ := hbounds.closed _ hl hh
    rw [← hweight] at hl' hh'
    obtain ⟨c', hc'⟩ := exists_weighs_iff.mpr (not_outOfRange_of_le hbounds.range hl' hh')
    refine ⟨c', hc', hc'.signal.trans hc.signal, .inr ⟨z, l, h, hz, hbounds, ?_, ?_⟩⟩
    · rw [hc'.contribution]
      exact hl'
    · rw [hc'.contribution]
      exact hh'

/-- A list of confined components is weighted without an exception, and stays confined. -/
theorem exists_weighs_of_confined (hcs : List.Forall₂ (Confined weights) components cs) :
    ∃ cs', List.Forall₂ (Weighs weights) cs cs' ∧ List.Forall₂ (Confined weights) components cs' := by
  induction hcs with
  | nil => exact ⟨[], .nil, .nil⟩
  | cons hc _ ih =>
    obtain ⟨c', hweighs, hconfined⟩ := hc.step
    obtain ⟨cs', hweighs', hconfined'⟩ := ih
    exact ⟨c' :: cs', .cons hweighs hweighs', .cons hconfined hconfined'⟩

/-- A confined component that is a number is a finite one between the bounds. -/
theorem Confined.between (hc : Confined weights comp c) (hnumber : stored weights comp ≠ .nan) :
    ∃ l q h : ℚ, least (weights.weight comp.signal) (stored weights comp) = .finite l ∧
      c.contribution = .finite q ∧ most (weights.weight comp.signal) (stored weights comp) = .finite h ∧
      l ≤ q ∧ q ≤ h := by
  rcases hc.contribution with ⟨hnan, -⟩ | ⟨z, l, h, hz, hbounds, hl, hh⟩
  · exact absurd hnan hnumber
  · rw [hz]
    obtain ⟨q, hq, hle, hle'⟩ := Double.exists_finite_of_le hl hh
    exact ⟨l, q, h, hbounds.least, hq, hbounds.most, hle, hle'⟩

/-- The sums of confined components lie between those of the bounds. -/
theorem sum_confined (hcs : List.Forall₂ (Confined weights) components cs)
    (hnumbers : ∀ comp ∈ components, stored weights comp ≠ .nan) :
    (Double.addAll (.finite 0)
        (components.map fun comp => least (weights.weight comp.signal) (stored weights comp))).le
      (Double.addAll (.finite 0) (contributions cs)) = true ∧
    (Double.addAll (.finite 0) (contributions cs)).le (Double.addAll (.finite 0)
        (components.map fun comp => most (weights.weight comp.signal) (stored weights comp))) = true := by
  have hzero : Double.le (.finite 0) (.finite 0) = true := Double.le_refl (by rintro ⟨⟩)
  have hbetween : List.Forall₂ (fun comp c => ∃ l q h : ℚ,
      least (weights.weight comp.signal) (stored weights comp) = .finite l ∧ c.contribution = .finite q ∧
        most (weights.weight comp.signal) (stored weights comp) = .finite h ∧
        l ≤ q ∧ q ≤ h) components cs := by
    induction hcs with
    | nil => exact .nil
    | cons hc _ ih =>
      obtain ⟨hnumber, hnumbers⟩ := List.forall_mem_cons.mp hnumbers
      exact .cons (hc.between hnumber) (ih hnumbers)
  constructor
  · refine Double.addAll_mono ?_ hzero
    rw [List.forall₂_map_left_iff, List.forall₂_map_right_iff]
    refine hbetween.imp fun comp c h => ?_
    obtain ⟨l, q, -, hl, hq, -, hle, -⟩ := h
    exact ⟨l, q, hl, hq, hle⟩
  · refine Double.addAll_mono ?_ hzero
    rw [List.forall₂_map_left_iff, List.forall₂_map_right_iff]
    refine hbetween.flip.imp fun c comp h => ?_
    obtain ⟨-, q, h, -, hq, hh, -, hle⟩ := h
    exact ⟨q, h, hq, hh, hle⟩

/-- Where a contribution was stored that is no number, there still is one. -/
theorem nan_mem_contributions (hcs : List.Forall₂ (Confined weights) components cs)
    (hnan : .nan ∈ components.map (stored weights)) : .nan ∈ contributions cs := by
  induction hcs with
  | nil => cases hnan
  | cons hc _ ih =>
    rcases List.mem_cons.mp hnan with hnan | hnan
    · rcases hc.contribution with ⟨-, hcnan⟩ | ⟨z, l, h, hz, -⟩
      · exact List.mem_cons.mpr (.inl hcnan.symm)
      · cases hnan.trans hz
    · exact List.mem_cons_of_mem _ (ih hnan)

/-- The score that is kept. -/
def keptScore (weights : ScoringWeights) (components : List ScoreComponent) : Double :=
  if .nan ∈ components.map (stored weights) then .nan
  else clampScore (Double.addAll (.finite 0)
    (components.map fun comp => most (weights.weight comp.signal) (stored weights comp)))

/-- Confined components have the score that is kept. -/
theorem score_confined (hkeeps : KeepsScore weights components)
    (hcs : List.Forall₂ (Confined weights) components cs) :
    clampScore (Double.addAll (.finite 0) (contributions cs)) = keptScore weights components := by
  unfold keptScore
  split
  · next hnan =>
    rw [Double.addAll_of_nan_mem (nan_mem_contributions hcs hnan)]
    rfl
  · next hnumbers =>
    obtain ⟨hlow, hhigh⟩ := sum_confined hcs fun comp hcomp hnan =>
      hnumbers (List.mem_map.mpr ⟨comp, hcomp, hnan⟩)
    have hsame := hkeeps.score_again.resolve_left hnumbers
    refine Double.le_antisymm (Double.clamp_mono (by norm_num) hhigh) ?_
    rw [← hsame]
    exact Double.clamp_mono (by norm_num) hlow

/-! ## Rounds that keep the score

Where the two sums are clamped to one score, every round has it.
-/

/-- A priority with confined components is scored as before, and its components stay confined. -/
theorem computeScore_of_confined (hkeeps : KeepsScore weights components) {p : MessagePriority}
    (hp : List.Forall₂ (Confined weights) components p.components) :
    ∃ cs, p.computeScore weights = .ok (keptScore weights components, cs) ∧
      List.Forall₂ (Confined weights) components cs := by
  obtain ⟨cs, hcs, hconfined⟩ := exists_weighs_of_confined hp
  exact ⟨cs, computeScore_eq_ok_iff.mpr ⟨hcs, (score_confined hkeeps hconfined).symm⟩, hconfined⟩

/-- A round leads to a priority that is scored as it computed. -/
theorem rescore_eq_ok_iff {p p' : MessagePriority} {now : ℤ} : rescore weights p now = .ok p' ↔
    ∃ score cs, p.computeScore weights = .ok (score, cs) ∧ (p.updateScore score cs now).1 = p' := by
  unfold rescore
  rcases hscore : p.computeScore weights with e | ⟨score, cs⟩
  · constructor
    · intro h
      cases h
    · rintro ⟨score, cs, h, -⟩
      cases h
  · constructor
    · intro h
      exact ⟨score, cs, rfl, Except.ok.inj h⟩
    · rintro ⟨score', cs', h, rfl⟩
      cases h
      rfl

/-- Any number of rounds on confined components keep the score. -/
theorem computes_again_of_confined (hkeeps : KeepsScore weights components) (times : List ℤ)
    {p : MessagePriority} (hp : List.Forall₂ (Confined weights) components p.components) :
    ∃ p' cs', times.foldlM (rescore weights) p = .ok p' ∧
      p'.computeScore weights = .ok (keptScore weights components, cs') := by
  obtain ⟨cs, hcs, hconfined⟩ := computeScore_of_confined hkeeps hp
  induction times generalizing p cs with
  | nil => exact ⟨p, cs, rfl, hcs⟩
  | cons now times ih =>
    have hround : rescore weights p now = .ok (p.updateScore _ cs now).1 :=
      rescore_eq_ok_iff.mpr ⟨_, cs, hcs, rfl⟩
    have hnext : List.Forall₂ (Confined weights) components
        (p.updateScore (keptScore weights components) cs now).1.components := by
      rw [components_updateScore]
      exact hconfined
    obtain ⟨cs', hcs', hconfined'⟩ := computeScore_of_confined hkeeps hnext
    rw [List.foldlM_cons, hround]
    exact ih hnext cs' hcs' hconfined'

/-- Components and weights that keep the score make re-scoring idempotent. -/
theorem rescoringIdempotent_of_keepsScore {p : MessagePriority} (hkeeps : KeepsScore weights p.components) :
    RescoringIdempotent p weights := by
  intro score cs now hscore times
  obtain ⟨hcs, rfl⟩ := computeScore_eq_ok_iff.mp hscore
  have hconfined := forall₂_confined hkeeps hcs
  rw [score_confined hkeeps hconfined]
  refine computes_again_of_confined hkeeps times ?_
  rw [components_updateScore]
  exact hconfined

/-! ## Scores that are kept

The other way round: after enough rounds only what lasts is left, so a score that is kept is the one of
what lasts.
-/

/-- A stored component with a weight between zero and one, which is kept, or has come down to `n`. -/
structure Shrinking (weights : ScoringWeights) (n : ℕ) (c : ScoreComponent) : Prop where
  share : IsShare (weights.weight c.signal)
  whole : ∃ z : ℤ, c.contribution = .finite z ∧ |z| ≤ 100 ∧
    (weighted (weights.weight c.signal) (.finite z) = .finite z ∨ |z| ≤ n)

/-- Weighting a component brings it further down, and leaves what lasts of it. -/
theorem Shrinking.step {n : ℕ} {c c' : ScoreComponent} (h : Shrinking weights (n + 1) c)
    (hc : Weighs weights c c') : Shrinking weights n c' ∧
      lasting (weights.weight c'.signal) c'.contribution =
          lasting (weights.weight c.signal) c.contribution := by
  obtain ⟨z, hz, hrange, hdown⟩ := h.whole
  obtain ⟨w, hweight, hw, hw'⟩ := h.share.finite
  obtain ⟨z', hz', hpos, hneg⟩ := exists_weighted_eq hw hw' hrange
  have hcontribution : c'.contribution = .finite z' := by rw [hc.contribution, hz, hweight, hz']
  -- weighting by a number between 0 and 1 never takes a contribution away from zero
  have hrange' : |z'| ≤ |z| := by
    rcases le_total 0 z with hsign | hsign
    · rw [abs_of_nonneg (hpos hsign).1, abs_of_nonneg hsign]
      exact (hpos hsign).2
    · rw [abs_of_nonpos (hneg hsign).2, abs_of_nonpos hsign]
      exact neg_le_neg (hneg hsign).1
  rw [hc.signal, hcontribution, hz, hweight]
  refine ⟨⟨?_, z', hcontribution, hrange'.trans hrange, ?_⟩, lasting_weighted hw hw' hrange hz'⟩
  · rw [hc.signal]
    exact h.share
  · rw [hc.signal, hweight]
    rw [hweight] at hdown
    by_cases hkept : z' = z
    · left
      rw [hkept] at hz' ⊢
      exact hz'
    · right
      -- a contribution that is changed is nearer to zero by one at least
      have hbound := hdown.resolve_left fun hself =>
        hkept (by exact_mod_cast Double.finite.inj (hz'.symm.trans hself))
      rcases le_total 0 z with hsign | hsign
      · have hzz := hpos hsign
        rw [abs_of_nonneg hsign] at hbound
        rw [abs_of_nonneg hzz.1]
        push_cast at hbound
        omega
      · have hzz := hneg hsign
        rw [abs_of_nonpos hsign] at hbound
        rw [abs_of_nonpos hzz.2]
        push_cast at hbound
        omega

/-- What lasts of the contributions of a list. -/
def lastingContributions (weights : ScoringWeights) (components : List ScoreComponent) : List Double :=
  components.map fun c => lasting (weights.weight c.signal) c.contribution

/-- Weighting a list brings its components further down, and leaves what lasts of them. -/
theorem forall_shrinking {n : ℕ} (hcs : List.Forall₂ (Weighs weights) components cs)
    (h : ∀ c ∈ components, Shrinking weights (n + 1) c) :
    (∀ c ∈ cs, Shrinking weights n c) ∧
        lastingContributions weights cs = lastingContributions weights components := by
  unfold lastingContributions
  induction hcs with
  | nil => exact ⟨fun c hc => absurd hc List.not_mem_nil, rfl⟩
  | cons hc _ ih =>
    obtain ⟨hcomp, hcomponents⟩ := List.forall_mem_cons.mp h
    obtain ⟨hc', hlasting⟩ := hcomp.step hc
    obtain ⟨hcs', hlasting'⟩ := ih hcomponents
    refine ⟨List.forall_mem_cons.mpr ⟨hc', hcs'⟩, ?_⟩
    rw [List.map_cons, List.map_cons, hlasting, hlasting']

/-- Components that have come down to zero, or are kept, are weighted to what lasts of them. -/
theorem contributions_of_kept (hcs : List.Forall₂ (Weighs weights) components cs)
    (h : ∀ c ∈ components, Shrinking weights 0 c) :
    contributions cs = lastingContributions weights components := by
  unfold contributions lastingContributions
  induction hcs with
  | nil => rfl
  | @cons comp _ _ _ hc _ ih =>
    obtain ⟨hcomp, hcomponents⟩ := List.forall_mem_cons.mp h
    obtain ⟨z, hz, -, hdown⟩ := hcomp.whole
    obtain ⟨w, hweight, -⟩ := hcomp.share.finite
    have hkept : weighted (weights.weight comp.signal) (.finite z) = .finite z := by
      refine hdown.elim id fun hzero => ?_
      obtain rfl : z = 0 := abs_nonpos_iff.mp hzero
      rw [hweight, Int.cast_zero, weighted_zero]
    rw [List.map_cons, List.map_cons, ih hcomponents, hc.contribution, hz, hkept, lasting_of_kept hkept]

/-- With weights between zero and one, a score that stays is that of the lasting contributions. -/
theorem score_of_computes_again {score : Double} (n : ℕ) {p : MessagePriority}
    (h : ∀ c ∈ p.components, Shrinking weights n c)
    (hagain : ∀ times : List ℤ, ∃ p' cs', times.foldlM (rescore weights) p = .ok p' ∧
      p'.computeScore weights = .ok (score, cs')) :
    score = clampScore (Double.addAll (.finite 0) (lastingContributions weights p.components)) := by
  obtain ⟨p₀, cs, hp₀, hcs⟩ := hagain []
  obtain rfl := Except.ok.inj hp₀
  obtain ⟨hweighs, hscore⟩ := computeScore_eq_ok_iff.mp hcs
  induction n generalizing p cs with
  | zero => rw [hscore, contributions_of_kept hweighs h]
  | succ n ih =>
    obtain ⟨hdown, hlasting⟩ := forall_shrinking hweighs h
    have hround : rescore weights p 0 = .ok (p.updateScore score cs 0).1 :=
      rescore_eq_ok_iff.mpr ⟨score, cs, hcs, rfl⟩
    have hagain' : ∀ times : List ℤ, ∃ p' cs',
        times.foldlM (rescore weights) (p.updateScore score cs 0).1 = .ok p' ∧
          p'.computeScore weights = .ok (score, cs') := by
      intro times
      obtain ⟨p', cs', hp', hcs'⟩ := hagain (0 :: times)
      rw [List.foldlM_cons, hround] at hp'
      exact ⟨p', cs', hp', hcs'⟩
    obtain ⟨p₁, cs₁, hp₁, hcs₁⟩ := hagain' []
    obtain rfl := Except.ok.inj hp₁
    obtain ⟨hweighs₁, hscore₁⟩ := computeScore_eq_ok_iff.mp hcs₁
    rw [← hlasting, ← components_updateScore p score cs 0]
    refine ih ?_ hagain' cs₁ rfl hcs₁ hweighs₁ hscore₁
    rw [components_updateScore]
    exact hdown

/-- All contributions count for the message, or all against it. -/
def OneSigned (components : List ScoreComponent) : Prop :=
  (∀ comp ∈ components, Double.le (.finite 0) comp.contribution = true) ∨
    ∀ comp ∈ components, comp.contribution.le (.finite 0) = true

/-- A contribution that a weight between zero and one is applied to keeps its sign. -/
theorem stored_sign (hshare : IsShare (weights.weight comp.signal)) :
    (Double.le (.finite 0) comp.contribution = true → Double.le (.finite 0) (stored weights comp) = true) ∧
      (comp.contribution.le (.finite 0) = true → (stored weights comp).le (.finite 0) = true) := by
  obtain ⟨w, hweight, hw, -⟩ := hshare.finite
  obtain ⟨hlo, hhi⟩ := Bool.or_eq_false_iff.mp comp.bounded
  unfold stored
  rw [hweight]
  constructor
  · intro hsign
    have hnumber := (Double.ne_nan_of_le hsign).2
    obtain ⟨q, hq, hle, -⟩ := Double.exists_finite_of_le hsign
      ((Double.lt_eq_false_iff (by rintro ⟨⟩) hnumber).mp hhi)
    have hmono := weighted_mono hw hle
    rwa [weighted_zero, ← hq] at hmono
  · intro hsign
    have hnumber := (Double.ne_nan_of_le hsign).1
    obtain ⟨q, hq, -, hle⟩ := Double.exists_finite_of_le
      ((Double.lt_eq_false_iff hnumber (by rintro ⟨⟩)).mp hlo) hsign
    have hmono := weighted_mono hw hle
    rwa [weighted_zero, ← hq] at hmono

/-- A list can be weighted exactly if its components can. -/
theorem exists_forall₂_weighs_iff :
    (∃ cs, List.Forall₂ (Weighs weights) components cs) ↔ ¬Throws weights components := by
  have hrange : ¬Throws weights components ↔ ∀ comp ∈ components, ∃ c, Weighs weights comp c := by
    unfold Throws stored
    simp only [not_exists, not_and, Bool.not_eq_true, exists_weighs_iff]
  rw [hrange]
  clear hrange
  induction components with
  | nil => exact iff_of_true ⟨[], .nil⟩ fun comp hcomp => absurd hcomp List.not_mem_nil
  | cons comp components ih =>
    rw [List.forall_mem_cons]
    constructor
    · rintro ⟨cs, hcs⟩
      obtain ⟨c, cs', hc, hcs', -⟩ := List.forall₂_cons_left_iff.mp hcs
      exact ⟨⟨c, hc⟩, ih.mp ⟨cs', hcs'⟩⟩
    · rintro ⟨⟨c, hc⟩, hcomponents⟩
      obtain ⟨cs, hcs⟩ := ih.mpr hcomponents
      exact ⟨c :: cs, .cons hc hcs⟩

/-- The components that are returned have the contributions that the first round stores. -/
theorem contributions_of_weighs (hcs : List.Forall₂ (Weighs weights) components cs) :
    contributions cs = components.map (stored weights) ∧ lastingContributions weights cs =
      components.map fun comp => lasting (weights.weight comp.signal) (stored weights comp) := by
  unfold contributions lastingContributions
  induction hcs with
  | nil => exact ⟨rfl, rfl⟩
  | @cons comp _ _ _ hc _ ih =>
    have hstored : (ScoreComponent.contribution _) = stored weights comp := hc.contribution
    constructor
    · rw [List.map_cons, List.map_cons, hstored, ih.1]
    · rw [List.map_cons, List.map_cons, hc.signal, hstored, ih.2]

/-- Components that are numbers, with weights between zero and one, come down from a hundred. -/
theorem shrinking_of_weighs (hcs : List.Forall₂ (Weighs weights) components cs)
    (hshare : ∀ comp ∈ components, IsShare (weights.weight comp.signal))
    (hnumbers : ∀ comp ∈ components, stored weights comp ≠ .nan) : ∀ c ∈ cs, Shrinking weights 100 c := by
  induction hcs with
  | nil => exact fun c hc => absurd hc List.not_mem_nil
  | @cons comp c _ _ hc _ ih =>
    obtain ⟨hcomp, hshare⟩ := List.forall_mem_cons.mp hshare
    obtain ⟨hnumber, hnumbers⟩ := List.forall_mem_cons.mp hnumbers
    refine List.forall_mem_cons.mpr ⟨?_, ih hshare hnumbers⟩
    obtain ⟨z, hz, hrange⟩ := (eq_of_not_outOfRange (exists_weighs_iff.mp ⟨c, hc⟩)).resolve_left hnumber
    refine ⟨?_, z, hc.contribution.trans hz, hrange, .inr hrange⟩
    rw [hc.signal]
    exact hcomp

/-- With weights between zero and one, a score that stays is the one of what lasts of the
contributions. -/
theorem score_of_rescoringIdempotent {p : MessagePriority}
    (hshare : ∀ comp ∈ p.components, IsShare (weights.weight comp.signal))
    (hnumbers : ∀ comp ∈ p.components, stored weights comp ≠ .nan) (h : RescoringIdempotent p weights)
    {score : Double} (hscore : p.computeScore weights = .ok (score, cs)) :
    score = clampScore (Double.addAll (.finite 0)
      (p.components.map fun comp => lasting (weights.weight comp.signal) (stored weights comp))) := by
  obtain ⟨hcs, -⟩ := computeScore_eq_ok_iff.mp hscore
  have hlasts := score_of_computes_again 100
    (by rw [components_updateScore]; exact shrinking_of_weighs hcs hshare hnumbers) (h score cs 0 hscore)
  rw [components_updateScore, (contributions_of_weighs hcs).2] at hlasts
  exact hlasts

/-- Of contributions of one sign, the least and the most are the contributions and what lasts of them. -/
theorem keepsScore_of_score {p : MessagePriority}
    (hshare : ∀ comp ∈ p.components, IsShare (weights.weight comp.signal)) (hsigned : OneSigned p.components)
    (hsame : clampScore (Double.addAll (.finite 0) (p.components.map (stored weights))) =
      clampScore (Double.addAll (.finite 0)
        (p.components.map fun comp => lasting (weights.weight comp.signal) (stored weights comp)))) :
    KeepsScore weights p.components := by
  refine ⟨fun comp hcomp => .inr (hshare comp hcomp), .inr ?_⟩
  rcases hsigned with hpos | hneg
  · -- with no contribution below zero the smallest sum is that of the lasting parts, and the
    -- largest one is the first
    have hleast : ∀ comp ∈ p.components, least (weights.weight comp.signal) (stored weights comp) =
        lasting (weights.weight comp.signal) (stored weights comp) := fun comp hcomp =>
      if_pos ((stored_sign (hshare comp hcomp)).1 (hpos comp hcomp))
    have hmost : ∀ comp ∈ p.components, most (weights.weight comp.signal) (stored weights comp) =
        stored weights comp := fun comp hcomp =>
      if_pos ((stored_sign (hshare comp hcomp)).1 (hpos comp hcomp))
    rw [List.map_congr_left hleast, List.map_congr_left hmost]
    exact hsame.symm
  · -- nothing of zero is lost
    have hzero : ∀ comp ∈ p.components, Double.le (.finite 0) (stored weights comp) = true →
        lasting (weights.weight comp.signal) (stored weights comp) = stored weights comp := by
      intro comp hcomp hpos
      obtain ⟨w, hweight, -⟩ := (hshare comp hcomp).finite
      have heq := Double.le_antisymm ((stored_sign (hshare comp hcomp)).2 (hneg comp hcomp)) hpos
      have hkept : lasting (.finite w) (.finite ((0 : ℤ) : ℚ)) = .finite ((0 : ℤ) : ℚ) :=
        lasting_of_kept (by rw [Int.cast_zero]; exact weighted_zero w)
      rw [heq, hweight]
      rwa [Int.cast_zero] at hkept
    have hleast : ∀ comp ∈ p.components, least (weights.weight comp.signal) (stored weights comp) =
        stored weights comp := by
      intro comp hcomp
      unfold least
      split
      · next hpos => exact hzero comp hcomp hpos
      · rfl
    have hmost : ∀ comp ∈ p.components, most (weights.weight comp.signal) (stored weights comp) =
        lasting (weights.weight comp.signal) (stored weights comp) := by
      intro comp hcomp
      unfold most
      split
      · next hpos => exact (hzero comp hcomp hpos).symm
      · rfl
    rw [List.map_congr_left hleast, List.map_congr_left hmost]
    exact hsame

/-- Re-scoring keeps the score if `computeScore` throws, so that there is none, or the components and
weights keep it; and with weights between zero and one and contributions of one sign it keeps no other
score. -/
theorem rescoringIdempotent_when (p : MessagePriority) (weights : ScoringWeights) :
    (Throws weights p.components ∨ KeepsScore weights p.components → RescoringIdempotent p weights) ∧
      ((∀ comp ∈ p.components, IsShare (weights.weight comp.signal)) → OneSigned p.components →
        RescoringIdempotent p weights → Throws weights p.components ∨ KeepsScore weights p.components) := by
  constructor
  · rintro (hthrows | hkeeps)
    · intro score cs now hscore
      obtain ⟨hcs, -⟩ := computeScore_eq_ok_iff.mp hscore
      exact absurd hthrows (exists_forall₂_weighs_iff.mp ⟨cs, hcs⟩)
    · exact rescoringIdempotent_of_keepsScore hkeeps
  · intro hshare hsigned h
    by_cases hthrows : Throws weights p.components
    · exact .inl hthrows
    · right
      by_cases hnan : .nan ∈ p.components.map (stored weights)
      · exact ⟨fun comp hcomp => .inr (hshare comp hcomp), .inl hnan⟩
      · obtain ⟨cs, hcs⟩ := exists_forall₂_weighs_iff.mpr hthrows
        have hnumbers : ∀ comp ∈ p.components, stored weights comp ≠ .nan := fun comp hcomp heq =>
          hnan (List.mem_map.mpr ⟨comp, hcomp, heq⟩)
        have hscore : p.computeScore weights = .ok
            (clampScore (Double.addAll (.finite 0) (p.components.map (stored weights))), cs) :=
          computeScore_eq_ok_iff.mpr ⟨hcs, by rw [(contributions_of_weighs hcs).1]⟩
        exact keepsScore_of_score hshare hsigned (score_of_rescoringIdempotent hshare hnumbers h hscore)

/-- Weights of which the first one is nearly all. -/
def nearlyAll : ScoringWeights :=
  ⟨.ofRat 0.99, .ofRat 0.01, .finite 0, .finite 0, .finite 0, by decide +kernel⟩

/-- A contribution of 60 for a VIP sender. -/
def sixty : ScoreComponent := ⟨.VipStatus, .finite 60, "VIP sender", by decide⟩

/-- The most that a VIP sender contributes. -/
def vipSender : ScoreComponent := ⟨.VipStatus, .finite 100, "VIP sender", by decide⟩

/-- Three VIP senders with nearly all the weight: a contribution of 60 is stored as 59, then as 58, and
comes down to 50, which is more than enough for the highest score. -/
theorem rescoringIdempotent_nearlyAll :
    stored nearlyAll sixty = .finite 59 ∧ weighted (nearlyAll.weight .VipStatus) (.finite 59) = .finite 58 ∧
      RescoringIdempotent (new "tenant" "message" [sixty, sixty, sixty] (.finite 0) .Normal true 0 0)
          nearlyAll := by
  refine ⟨by decide +kernel, by decide +kernel, ?_⟩
  refine (rescoringIdempotent_when _ nearlyAll).1 (.inr ⟨?_, .inr (by decide +kernel)⟩)
  show ∀ comp ∈ [sixty, sixty, sixty], _
  simp only [List.forall_mem_cons, List.not_mem_nil, false_implies, implies_true, and_true]
  have hshare : IsShare (nearlyAll.weight sixty.signal) := by decide +kernel
  exact ⟨.inr hshare, .inr hshare, .inr hshare⟩

/-- A VIP sender scored with the default weights: first 25, and in the end nothing. -/
theorem not_rescoringIdempotent_vip :
    ¬RescoringIdempotent (new "tenant" "message" [vipSender] (.finite 0) .Normal true 0 0) .defaults := by
  intro h
  have hfirst : (new "tenant" "message" [vipSender] (.finite 0) .Normal true 0 0).computeScore .defaults =
      .ok (.finite 25, [⟨.VipStatus, .finite 25, "VIP sender", by decide⟩]) :=
    computeScore_eq_ok_iff.mpr ⟨.cons ⟨rfl, by decide +kernel, rfl⟩ .nil, by decide +kernel⟩
  have hcomponents : (new "tenant" "message" [vipSender] (.finite 0) .Normal true 0 0).components =
      [vipSender] :=
    rfl
  have hscore := score_of_rescoringIdempotent
    (by rw [hcomponents, List.forall_mem_singleton]; decide +kernel)
    (by rw [hcomponents, List.forall_mem_singleton]; decide +kernel) h hfirst
  exact absurd hscore (by decide +kernel)

/-! ## The default weights

The default weights leave no contribution in the end, so that they keep the score zero only.
-/

/-- The default weights are at most three eighths. -/
theorem exists_defaults_eq (signal : SignalType) :
    ∃ w, ScoringWeights.defaults.weight signal = .finite w ∧ 0 ≤ w ∧ w ≤ 3 / 8 := by
  have hbounds : Double.le (.finite 0) (ScoringWeights.defaults.weight signal) = true ∧
      (ScoringWeights.defaults.weight signal).le (.finite (3 / 8)) = true := by
    cases signal <;> decide +kernel
  exact Double.exists_finite_of_le hbounds.1 hbounds.2

/-- A contribution that is a number is weighted to a number by a finite weight. -/
theorem stored_ne_nan {w : ℚ} (hweight : weights.weight comp.signal = .finite w)
    (hnumber : comp.contribution ≠ .nan) : stored weights comp ≠ .nan := by
  obtain ⟨hlo, hhi⟩ := Bool.or_eq_false_iff.mp comp.bounded
  obtain ⟨q, hq, -⟩ := Double.exists_finite_of_le
    ((Double.lt_eq_false_iff hnumber (by rintro ⟨⟩)).mp hlo)
      ((Double.lt_eq_false_iff (by rintro ⟨⟩) hnumber).mp hhi)
  unfold stored
  rw [hweight, hq]
  show (Double.ofRat (q * w)).mathRound ≠ .nan
  have hproduct := Double.ofRat_ne_nan (q * w)
  generalize Double.ofRat (q * w) = product at hproduct ⊢
  rcases product with _ | r | _ | _
  · exact absurd rfl hproduct
  all_goals exact fun h => by cases h

/-- With the default weights and contributions that are numbers, re-scoring keeps no score but zero. -/
theorem score_eq_zero_of_rescoringIdempotent {p : MessagePriority}
    (hnumbers : ∀ comp ∈ p.components, comp.contribution ≠ .nan) (h : RescoringIdempotent p .defaults)
    {score : Double} (hscore : p.computeScore .defaults = .ok (score, cs)) : score = .finite 0 := by
  obtain ⟨hcs, -⟩ := computeScore_eq_ok_iff.mp hscore
  have hshare : ∀ comp ∈ p.components, IsShare (ScoringWeights.defaults.weight comp.signal) := by
    intro comp _
    obtain ⟨w, hweight, hw, hsmall⟩ := exists_defaults_eq comp.signal
    rw [hweight]
    exact ⟨Double.le_finite_iff.mpr hw, Double.le_finite_iff.mpr (hsmall.trans (by norm_num))⟩
  have hstored : ∀ comp ∈ p.components, stored .defaults comp ≠ .nan := by
    intro comp hcomp
    obtain ⟨w, hweight, -⟩ := exists_defaults_eq comp.signal
    exact stored_ne_nan hweight (hnumbers comp hcomp)
  -- every default weight is small enough for the contributions to go down to zero
  have hlasting : ∀ comp ∈ p.components,
      lasting (ScoringWeights.defaults.weight comp.signal) (stored .defaults comp) = .finite 0 := by
    intro comp hcomp
    obtain ⟨w, hweight, hw, hsmall⟩ := exists_defaults_eq comp.signal
    have hrange : outOfRange (stored .defaults comp) = false :=
      Bool.eq_false_iff.mpr fun hout => exists_forall₂_weighs_iff.mp ⟨cs, hcs⟩ ⟨comp, hcomp, hout⟩
    obtain ⟨z, hz, hbound⟩ := (eq_of_not_outOfRange hrange).resolve_left (hstored comp hcomp)
    obtain ⟨l, hl, hkept, hpos, hneg, -⟩ := exists_lasts w z
    obtain ⟨hlo, hhi⟩ := abs_le.mp hbound
    have hzero : l = 0 := by
      refine eq_zero_of_kept hsmall (abs_le.mpr ?_) hkept
      omega
    have hz' : stored .defaults comp = .finite z := hz
    rw [hz', hweight, hl, hzero, Int.cast_zero]
  rw [score_of_rescoringIdempotent hshare hstored h hscore, List.map_congr_left hlasting]
  -- a sum of zeros, whatever their number
  have hsum : ∀ n, Double.addAll (.finite 0) (List.replicate n (.finite 0)) = .finite 0 := by
    intro n
    induction n with
    | zero => rfl
    | succ n ih =>
      rw [List.replicate_succ]
      have hadd : (Double.finite 0).add (.finite 0) = .finite 0 := by decide +kernel
      show Double.addAll ((Double.finite 0).add (.finite 0)) _ = _
      rw [hadd, ih]
  rw [List.map_const', hsum]
  decide +kernel

end MessagePriority

end EmailTriage.Prioritization.Rounded
