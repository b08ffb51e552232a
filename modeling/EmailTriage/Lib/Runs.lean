import Mathlib.Data.List.Basic

/-!
# Runs of a labelled step relation

A run is the list of its labels, each with the state it led to. `Along R s r` says that every step
of the run `r` from `s` satisfies `R`, so `Along step s r` is the statement that `r` is a run of
`step`, and `Along Q s r` is a property of that run. Invariants are packaged once:

* `Along.invariant` carries an invariant to the final state;
* `Along.guarded` carries an invariant that only the steps meeting a guard preserve;
* `along_iff` compares two properties of the steps of one run.

`exec` builds the run of a deterministic step function. `foldl_filter` compares it with the run that
some of the labels are deleted from, and `allows_answers` the answers of a machine with what a
specification allows.
-/

namespace Runs

variable {σ α : Type*}

/-- Every step of the run `r` from `s` satisfies `R`. -/
def Along (R : σ → α → σ → Prop) : σ → List (α × σ) → Prop
  | _, [] => True
  | s, (a, t) :: r => R s a t ∧ Along R t r

/-- The state a run ends in. -/
def final : σ → List (α × σ) → σ
  | s, [] => s
  | _, (_, t) :: r => final t r

@[simp] theorem along_nil (R : σ → α → σ → Prop) (s : σ) : Along R s [] := trivial

@[simp] theorem along_cons (R : σ → α → σ → Prop) (s : σ) (a : α) (t : σ) (r : List (α × σ)) :
    Along R s ((a, t) :: r) ↔ R s a t ∧ Along R t r := Iff.rfl

@[simp] theorem final_nil (s : σ) : final s ([] : List (α × σ)) = s := rfl

@[simp] theorem final_cons (s : σ) (a : α) (t : σ) (r : List (α × σ)) :
    final s ((a, t) :: r) = final t r := rfl

instance decidableAlong (R : σ → α → σ → Prop) [∀ s a t, Decidable (R s a t)] :
    ∀ (s : σ) (r : List (α × σ)), Decidable (Along R s r)
  | _, [] => inferInstanceAs (Decidable True)
  | s, (a, t) :: r =>
    have : Decidable (Along R t r) := decidableAlong R t r
    inferInstanceAs (Decidable (R s a t ∧ Along R t r))

/-- Two properties that agree on every step agree on every run. -/
theorem along_congr {R R' : σ → α → σ → Prop} (h : ∀ s a t, R s a t ↔ R' s a t) {s : σ}
    {r : List (α × σ)} : Along R s r ↔ Along R' s r := by
  have heq : R = R' := funext fun s => funext fun a => funext fun t => propext (h s a t)
  rw [heq]

/-- What holds of every step that has a property holds along a run whose steps have it. -/
theorem Along.mono {R R' : σ → α → σ → Prop} (h : ∀ s a t, R s a t → R' s a t) {s : σ} {r : List (α × σ)}
    (hr : Along R s r) : Along R' s r := by
  induction r generalizing s with
  | nil => exact trivial
  | cons p r ih => exact ⟨h s p.1 p.2 hr.1, ih hr.2⟩

/-! ## Invariants

What every step preserves holds along a run. A step may rely on the invariant before it (`along_iff`),
or on a condition that holds along the run (`Along.guarded`).
-/

section Invariants

variable {step C Q : σ → α → σ → Prop} {I : σ → Prop}

/-- An invariant of the steps holds in the state a run ends in. -/
theorem Along.invariant (hstep : ∀ s a t, I s → step s a t → I t) {s : σ} {r : List (α × σ)}
    (h : Along step s r) (hs : I s) : I (final s r) := by
  induction r generalizing s with
  | nil => exact hs
  | cons p r ih =>
    obtain ⟨a, t⟩ := p
    exact ih h.2 (hstep s a t hs h.1)

/-- In a run whose steps all meet the guard `C`, an invariant that guarded steps preserve yields
whatever it yields for a guarded step. -/
theorem Along.guarded (hstep : ∀ s a t, I s → step s a t → C s a t → Q s a t ∧ I t)
    {s : σ} {r : List (α × σ)} (h : Along step s r) (hC : Along C s r) (hs : I s) :
    Along Q s r ∧ I (final s r) := by
  induction r generalizing s with
  | nil => exact ⟨trivial, hs⟩
  | cons p r ih =>
    obtain ⟨a, t⟩ := p
    obtain ⟨hQ, ht⟩ := hstep s a t hs h.1 hC.1
    obtain ⟨hQr, hfin⟩ := ih h.2 hC.2 ht
    exact ⟨⟨hQ, hQr⟩, hfin⟩

/-- Two properties of the steps of a run agree when they agree on each step from a state of the
invariant, and the steps that have the second one preserve the invariant. -/
theorem along_iff (hiff : ∀ s a t, I s → step s a t → (Q s a t ↔ C s a t))
    (hpres : ∀ s a t, I s → step s a t → C s a t → I t)
    {s : σ} {r : List (α × σ)} (h : Along step s r) (hs : I s) :
    Along Q s r ↔ Along C s r := by
  induction r generalizing s with
  | nil => exact Iff.rfl
  | cons p r ih =>
    obtain ⟨a, t⟩ := p
    rw [along_cons, along_cons, hiff s a t hs h.1]
    constructor
    · rintro ⟨hC, hQ⟩
      exact ⟨hC, (ih h.2 (hpres s a t hs h.1 hC)).mp hQ⟩
    · rintro ⟨hC, hCr⟩
      exact ⟨hC, (ih h.2 (hpres s a t hs h.1 hC)).mpr hCr⟩

end Invariants

/-! ## Deterministic steps

The run of a step function is determined by its actions, and ends where folding the function ends.
-/

/-- The run of the step function `f` on a list of labels. -/
def exec (f : σ → α → σ) : σ → List α → List (α × σ)
  | _, [] => []
  | s, a :: as => (a, f s a) :: exec f (f s a) as

/-- A run of a step function takes its steps. -/
theorem along_exec (f : σ → α → σ) (s : σ) (as : List α) :
    Along (fun s a t => t = f s a) s (exec f s as) := by
  induction as generalizing s with
  | nil => exact trivial
  | cons a as ih => exact ⟨rfl, ih (f s a)⟩

/-- It ends where the steps lead, one after the other. -/
theorem final_exec (f : σ → α → σ) (s : σ) (as : List α) :
    final s (exec f s as) = as.foldl f s := by
  induction as generalizing s with
  | nil => rfl
  | cons a as ih => exact ih (f s a)

/-- An invariant of a step function holds after any labels. -/
theorem foldl_invariant {f : σ → α → σ} {I : σ → Prop} (hstep : ∀ s a, I s → I (f s a)) {s : σ}
    (hs : I s) (as : List α) : I (as.foldl f s) := by
  rw [← final_exec]
  refine Along.invariant ?_ (along_exec f s as) hs
  rintro s a t hs rfl
  exact hstep s a hs

/-- When the labels that are kept act alike on related states, and a deleted label leaves the state
related to the same ones, a run and the run of the labels that are kept end in related states. -/
theorem foldl_filter {f : σ → α → σ} {keep : α → Bool} {R : σ → σ → Prop}
    (hkeep : ∀ s t a, R s t → keep a = true → R (f s a) (f t a))
    (hdelete : ∀ s t a, R s t → keep a = false → R (f s a) t) {s t : σ} (h : R s t) (as : List α) :
    R (as.foldl f s) ((as.filter keep).foldl f t) := by
  induction as generalizing s t with
  | nil => exact h
  | cons a as ih =>
    rw [List.foldl_cons, List.filter_cons]
    by_cases ha : keep a = true
    · rw [if_pos ha, List.foldl_cons]
      exact ih (hkeep s t a h ha)
    · rw [if_neg ha]
      exact ih (hdelete s t a h (Bool.eq_false_iff.mpr ha))

/-! ## Steps that answer

A system is seen through its answers. Two systems that are related and answer alike, step by step, give
the same answers to every list of actions.
-/

section Answers

variable {τ ω : Type*}

/-- The answers of a machine to a list of labels. -/
def answers (f : σ → α → σ × ω) : σ → List α → List (α × ω)
  | _, [] => []
  | s, a :: as => (a, (f s a).2) :: answers f (f s a).1 as

/-- A specification allows a list of answers if it can go along with them. -/
def Allows (spec : τ → α → ω → τ → Prop) : τ → List (α × ω) → Prop
  | _, [] => True
  | t, (a, b) :: r => ∃ t', spec t a b t' ∧ Allows spec t' r

/-- A machine whose steps the specification can follow gives allowed answers only. -/
theorem allows_answers {f : σ → α → σ × ω} {spec : τ → α → ω → τ → Prop} {R : σ → τ → Prop}
    (hstep : ∀ s t a, R s t → ∃ t', spec t a (f s a).2 t' ∧ R (f s a).1 t') {s : σ} {t : τ} (h : R s t)
    (as : List α) : Allows spec t (answers f s as) := by
  induction as generalizing s t with
  | nil => exact trivial
  | cons a as ih =>
    obtain ⟨t', hspec, h'⟩ := hstep s t a h
    exact ⟨t', hspec, ih h'⟩

end Answers

end Runs
