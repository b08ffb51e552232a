import EmailTriage.Lib.Effect

/-!
# One computation in two worlds

What a computation tells about the world it runs in is what its results differ in. `SameRun R x s t`
says that `x` ends in the same way from `s` and from `t`, with the same result or the same exception,
and that it leaves worlds related by `R`. Relating the worlds that an observer cannot tell apart makes
this noninterference; relating them to the worlds of the start as well, a frame condition.

The rules follow the statements of a method.
-/

namespace Js

variable {ε σ α β : Type}

/-- `x` ends in the same way in both worlds, and leaves related ones. -/
def SameRun (R : σ → σ → Prop) (x : EStateM ε σ α) (s t : σ) : Prop :=
  match x s, x t with
  | .ok a s', .ok b t' => a = b ∧ R s' t'
  | .error e s', .error f t' => e = f ∧ R s' t'
  | _, _ => False

/-- The worlds are still `s` and `t`. -/
def Still (s t : σ) : σ → σ → Prop := fun s' t' => s' = s ∧ t' = t

/-- Read from the world. -/
def reads (f : σ → α) : EStateM ε σ α := fun s => .ok (f s) s

/-- Write to the world, where the write is not refused. -/
def writes (e : ε) (f : σ → Option (α × σ)) : EStateM ε σ α := fun s =>
  match f s with
  | some (a, s') => .ok a s'
  | none => .error e s

/-- A write that is not refused. -/
theorem writes_of_some {e : ε} {f : σ → Option (α × σ)} {s s' : σ} {a : α} (h : f s = some (a, s')) :
    writes e f s = .ok a s' := by
  unfold writes
  rw [h]

/-- Reading once for each element. -/
theorem mapM_reads {γ : Type} (f : γ → σ → α) (xs : List γ) (s : σ) :
    (xs.mapM fun x => (reads (f x) : EStateM ε σ α)) s = .ok (xs.map fun x => f x s) s := by
  induction xs with
  | nil => rfl
  | cons x xs ih =>
    have hx : (reads (f x) : EStateM ε σ α) s = .ok (f x s) s := rfl
    rw [List.mapM_cons, bind_of_ok hx, bind_of_ok ih]
    rfl

/-- What a computation ends with. -/
def answer (x : EStateM ε σ α) (s : σ) : Except ε α :=
  match x s with
  | .ok a _ => .ok a
  | .error e _ => .error e

/-- An answer is the result of a run that returns. -/
theorem answer_eq_ok_iff {x : EStateM ε σ α} {s : σ} {a : α} :
    answer x s = .ok a ↔ ∃ s', x s = .ok a s' := by
  unfold answer
  rcases x s with ⟨b, s'⟩ | ⟨e, s'⟩
  · constructor
    · intro h
      exact ⟨s', by rw [Except.ok.inj h]⟩
    · rintro ⟨s'', h⟩
      rw [(EStateM.Result.ok.inj h).1]
  · refine iff_of_false (fun h => by cases h) ?_
    rintro ⟨s', h⟩
    cases h

/-- The answer is that of the second part, once the first has returned. -/
theorem answer_bind_of_ok {x : EStateM ε σ α} {s s₁ : σ} {a : α} (h : x s = .ok a s₁)
    (f : α → EStateM ε σ β) : answer (x >>= f) s = answer (f a) s₁ := by
  unfold answer
  rw [bind_of_ok h]

/-- A computation that throws answers with the error. -/
theorem answer_bind_of_error {x : EStateM ε σ α} {s s₁ : σ} {e : ε} (h : x s = .error e s₁)
    (f : α → EStateM ε σ β) : answer (x >>= f) s = .error e := by
  unfold answer
  rw [bind_of_error h]

/-- A computation that begins with a read. -/
theorem answer_reads_bind (f : σ → α) (g : α → EStateM ε σ β) (s : σ) :
    answer (reads f >>= g) s = answer (g (f s)) s := rfl

/-- A result that is thrown or handed on is the answer. -/
theorem answer_ofExcept (y : Except ε α) (s : σ) :
    answer (MonadExcept.ofExcept y : EStateM ε σ α) s = y := by
  rcases y with e | a
  · rfl
  · rfl

/-- The same answer, and related worlds afterwards. -/
theorem sameRun_iff {R : σ → σ → Prop} {x : EStateM ε σ α} {s t : σ} :
    SameRun R x s t ↔ answer x s = answer x t ∧ R (after x s) (after x t) := by
  unfold SameRun answer after
  rcases x s with ⟨a, s'⟩ | ⟨e, s'⟩
  · rcases x t with ⟨b, t'⟩ | ⟨f, t'⟩
    · rw [Except.ok.injEq]
    · exact iff_of_false id fun h => by cases h.1
  · rcases x t with ⟨b, t'⟩ | ⟨f, t'⟩
    · exact iff_of_false id fun h => by cases h.1
    · rw [Except.error.injEq]

namespace SameRun

variable {R R' : σ → σ → Prop} {x : EStateM ε σ α} {s t : σ}

/-- A value is the same in both runs. -/
theorem pure (a : α) (h : R s t) : SameRun R (Pure.pure a : EStateM ε σ α) s t := ⟨rfl, h⟩

/-- So is an error. -/
theorem throw (e : ε) (h : R s t) : SameRun R (throw e : EStateM ε σ α) s t := ⟨rfl, h⟩

/-- So is a result that is thrown or handed on. -/
theorem ofExcept (y : Except ε α) (h : R s t) :
    SameRun R (MonadExcept.ofExcept y : EStateM ε σ α) s t := by
  rcases y with e | a
  · exact ⟨rfl, h⟩
  · exact ⟨rfl, h⟩

/-- So is a value that may be missing. -/
theorem orThrow (e : ε) (y : Option α) (h : R s t) :
    SameRun R (orThrow e y : EStateM ε σ α) s t := by
  rcases y with _ | a
  · exact ⟨rfl, h⟩
  · exact ⟨rfl, h⟩

/-- Two runs that end in states with more in common. -/
theorem mono (hx : SameRun R' x s t) (hR : ∀ s' t', R' s' t' → R s' t') : SameRun R x s t := by
  obtain ⟨hanswer, hafter⟩ := sameRun_iff.mp hx
  exact sameRun_iff.mpr ⟨hanswer, hR _ _ hafter⟩

/-- A read that sees no difference. -/
theorem reads {f : σ → α} (hf : f s = f t) (h : R s t) : SameRun R (reads f : EStateM ε σ α) s t :=
  ⟨hf, h⟩

/-- A write that is refused in both worlds or in neither. -/
theorem writes {e : ε} {f : σ → Option (α × σ)} (h : R s t)
    (hf : (f s = none ∧ f t = none) ∨
      ∃ a s' t', f s = some (a, s') ∧ f t = some (a, t') ∧ R s' t') :
    SameRun R (writes e f) s t := by
  unfold SameRun Js.writes
  rcases hf with ⟨hs, ht⟩ | ⟨a, s', t', hs, ht, hst⟩
  · rw [hs, ht]
    exact ⟨rfl, h⟩
  · rw [hs, ht]
    exact ⟨rfl, hst⟩

/-- A write of what was made of the world, if anything was. -/
theorem writesMap {β : Type} {e : ε} {u : σ → Option β} {g : σ → β → α × σ} (h : R s t)
    (hu : (u s = none ∧ u t = none) ∨
      ∃ b b', u s = some b ∧ u t = some b' ∧ (g s b).1 = (g t b').1 ∧ R (g s b).2 (g t b').2) :
    SameRun R (Js.writes e fun s => (u s).map (g s)) s t := by
  refine .writes h ?_
  rcases hu with ⟨hs, ht⟩ | ⟨b, b', hs, ht, hanswer, hR⟩
  · rw [hs, ht]
    exact .inl ⟨rfl, rfl⟩
  · rw [hs, ht]
    exact .inr ⟨(g s b).1, (g s b).2, (g t b').2, rfl, congrArg some (Prod.ext hanswer.symm rfl), hR⟩

/-- The second part runs with what is known of the result of the first. -/
theorem bind {f : α → EStateM ε σ β} (hx : SameRun R' x s t) (hR : ∀ s' t', R' s' t' → R s' t')
    (hf : ∀ a s' t', x s = .ok a s' → x t = .ok a t' → R' s' t' → SameRun R (f a) s' t') :
    SameRun R (x >>= f) s t := by
  unfold SameRun at hx ⊢
  rcases hs : x s with ⟨a, s'⟩ | ⟨e, s'⟩
  · rcases ht : x t with ⟨b, t'⟩ | ⟨e, t'⟩
    · rw [hs, ht] at hx
      obtain ⟨rfl, hst⟩ := hx
      rw [bind_of_ok hs, bind_of_ok ht]
      exact hf a s' t' hs ht hst
    · rw [hs, ht] at hx
      exact hx.elim
  · rcases ht : x t with ⟨b, t'⟩ | ⟨e', t'⟩
    · rw [hs, ht] at hx
      exact hx.elim
    · rw [hs, ht] at hx
      rw [bind_of_error hs, bind_of_error ht]
      exact ⟨hx.1, hR s' t' hx.2⟩

/-- After a part that only reads, the second one runs in the same worlds. -/
theorem bindRead {f : α → EStateM ε σ β} (hx : SameRun (Still s t) x s t) (hR : R s t)
    (hf : ∀ a, x s = .ok a s → x t = .ok a t → SameRun R (f a) s t) : SameRun R (x >>= f) s t := by
  refine hx.bind ?_ ?_
  · rintro _ _ ⟨rfl, rfl⟩
    exact hR
  · rintro a _ _ hs ht ⟨rfl, rfl⟩
    exact hf a hs ht

/-- A loop whose turns keep the relation. -/
theorem forM {xs : List α} {f : α → EStateM ε σ PUnit}
    (hf : ∀ a s t, R s t → SameRun R (f a) s t) (h : R s t) : SameRun R (xs.forM f) s t := by
  induction xs generalizing s t with
  | nil => exact ⟨rfl, h⟩
  | cons a xs ih =>
    have hcons : (a :: xs).forM f = (f a >>= fun _ => xs.forM f) := rfl
    rw [hcons]
    exact (hf a s t h).bind (fun _ _ hst => hst) fun _ _ _ _ _ hst => ih hst

/-- Reading for each element of a list. -/
theorem mapM {xs : List α} {f : α → EStateM ε σ β} (hf : ∀ a ∈ xs, SameRun (Still s t) (f a) s t) :
    SameRun (Still s t) (xs.mapM f) s t := by
  induction xs with
  | nil => exact .pure _ ⟨rfl, rfl⟩
  | cons a xs ih =>
    rw [List.mapM_cons]
    refine (hf a List.mem_cons_self).bindRead ⟨rfl, rfl⟩ fun b _ _ => ?_
    refine (ih fun a' ha' => hf a' (List.mem_cons_of_mem _ ha')).bindRead ⟨rfl, rfl⟩ fun bs _ _ => ?_
    exact .pure _ ⟨rfl, rfl⟩

/-- Both runs answer alike. -/
theorem answer_eq (h : SameRun R x s t) : answer x s = answer x t := (sameRun_iff.mp h).1

/-- Both runs end in related states. -/
theorem after (h : SameRun R x s t) : R (after x s) (after x t) := (sameRun_iff.mp h).2

end SameRun

end Js
