import EmailTriage.Lib.Runs

/-!
# Updates computed from a copy

Several parties change one shared value. A party that changes it in place applies its change to the
value; a party that works on a copy, read some time before, writes back the changed copy, and what
others have changed in between is lost. Beside the shared value runs the exact one, to which every
change is applied in turn.

`along_exact_iff` says which runs lose nothing: those in which every step leaves what its change makes of
the shared value.
-/

namespace Runs

variable {σ α β : Type*}

/-- A step whose change is `f`, and that leaves what `f` makes of the shared value exactly if it meets the
condition `C`. -/
def Changes (value exact : σ → β) (C : Prop) (s t : σ) : Prop :=
  ∃ f : β → β, exact t = f (exact s) ∧ (C ↔ value t = f (value s))

variable {value exact : σ → β} {C : Prop} {s t : σ}

/-- A step that touches neither value meets the condition that is always true. -/
theorem changes_of_eq (hvalue : value t = value s) (hexact : exact t = exact s) :
    Changes value exact True s t :=
  ⟨id, hexact, iff_of_true trivial hvalue⟩

/-- Conditions that say the same. -/
theorem Changes.congr {C' : Prop} (h : Changes value exact C s t) (hC : C' ↔ C) :
    Changes value exact C' s t := by
  rw [hC]
  exact h

/-- From a state where nothing is lost, a step loses nothing exactly if it meets its condition. -/
theorem Changes.exact_iff (h : Changes value exact C s t) (hs : value s = exact s) :
    value t = exact t ↔ C := by
  obtain ⟨f, hf, hC⟩ := h
  rw [hC, hf, hs]

variable {step D : σ → α → σ → Prop} {I : σ → Prop}

/-- A run loses nothing exactly if each of its steps meets its condition. -/
theorem along_exact_iff
    (hstep : ∀ s a t, I s → value s = exact s → step s a t →
      I t ∧ Changes value exact (D s a t) s t)
    {r : List (α × σ)} (h : Along step s r) (hs : I s) (hexact : value s = exact s) :
    Along (fun _ _ t => value t = exact t) s r ↔ Along D s r := by
  refine along_iff (I := fun s => I s ∧ value s = exact s) ?_ ?_ h ⟨hs, hexact⟩
  · rintro s a t ⟨hI, heq⟩ hsat
    exact (hstep s a t hI heq hsat).2.exact_iff heq
  · rintro s a t ⟨hI, heq⟩ hsat hD
    obtain ⟨hIt, hchanges⟩ := hstep s a t hI heq hsat
    exact ⟨hIt, (hchanges.exact_iff heq).mpr hD⟩

end Runs
