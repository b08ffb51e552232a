import EmailTriage.Lib.JsValue

/-!
# Computations that throw and act on a world

An asynchronous method awaits one call after another; an exception ends it, and what was written to the
world before stays written. `Effect σ` is that, with `σ` for the world. The lemmas take a result apart
along the statements of a method.
-/

namespace Js

/-- A computation on the world `σ` that may throw. -/
abbrev Effect (σ : Type) := EStateM Exception σ

variable {ε σ α β : Type}

/-- What is known when a chain of fallible steps succeeded. -/
theorem except_bind_eq_ok {x : Except ε α} {f : α → Except ε β} {b : β} :
    (x >>= f) = .ok b ↔ ∃ a, x = .ok a ∧ f a = .ok b := by
  rcases x with e | a
  · constructor
    · intro h
      cases h
    · rintro ⟨a, ha, -⟩
      cases ha
  · constructor
    · intro h
      exact ⟨a, rfl, h⟩
    · rintro ⟨a', ha', h⟩
      rw [Except.ok.inj ha']
      exact h

/-- A computation goes on with the result of its first part. -/
theorem bind_of_ok {x : EStateM ε σ α} {s s₁ : σ} {a : α} (h : x s = .ok a s₁)
    (f : α → EStateM ε σ β) : (x >>= f) s = f a s₁ := by
  have hbind : (x >>= f) s = EStateM.bind x f s := rfl
  rw [hbind]
  unfold EStateM.bind
  rw [h]

/-- A computation stops where its first part threw. -/
theorem bind_of_error {x : EStateM ε σ α} {s s₁ : σ} {e : ε} (h : x s = .error e s₁)
    (f : α → EStateM ε σ β) : (x >>= f) s = .error e s₁ := by
  have hbind : (x >>= f) s = EStateM.bind x f s := rfl
  rw [hbind]
  unfold EStateM.bind
  rw [h]

/-- What does not throw is not caught. -/
theorem tryCatch_of_ok {x : EStateM ε σ α} {s s₁ : σ} {a : α} (h : x s = .ok a s₁)
    (handler : ε → EStateM ε σ α) : (MonadExcept.tryCatch x handler : EStateM ε σ α) s = .ok a s₁ := by
  have htry : (MonadExcept.tryCatch x handler : EStateM ε σ α) s = EStateM.tryCatch x handler s := rfl
  rw [htry]
  unfold EStateM.tryCatch
  rw [h]

/-- A handler goes on in the world that the exception left. -/
theorem tryCatch_of_error {x : EStateM ε σ α} {s s₁ : σ} {e : ε} (h : x s = .error e s₁)
    (handler : ε → EStateM ε σ α) :
    (MonadExcept.tryCatch x handler : EStateM ε σ α) s = handler e s₁ := by
  have htry : (MonadExcept.tryCatch x handler : EStateM ε σ α) s = EStateM.tryCatch x handler s := rfl
  rw [htry]
  unfold EStateM.tryCatch
  rw [h]
  rfl

/-- Mapping succeeds when each element does. -/
theorem exists_mapM_eq_ok {f : α → Except ε β} {xs : List α} :
    (∃ ys, xs.mapM f = .ok ys) ↔ ∀ x ∈ xs, ∃ y, f x = .ok y := by
  induction xs with
  | nil => exact ⟨fun _ x hx => absurd hx List.not_mem_nil, fun _ => ⟨[], rfl⟩⟩
  | cons x xs ih =>
    rw [List.mapM_cons, List.forall_mem_cons, ← ih]
    constructor
    · rintro ⟨ys, h⟩
      obtain ⟨y, hy, h⟩ := except_bind_eq_ok.mp h
      obtain ⟨ys', hys', -⟩ := except_bind_eq_ok.mp h
      exact ⟨⟨y, hy⟩, ys', hys'⟩
    · rintro ⟨⟨y, hy⟩, ys, hys⟩
      exact ⟨y :: ys, except_bind_eq_ok.mpr ⟨y, hy, except_bind_eq_ok.mpr ⟨ys, hys, rfl⟩⟩⟩

/-- What is read off the results of a mapping is read off the elements. -/
theorem map_eq_of_mapM_of_mem {γ : Type} {f : α → Except ε β} {g : β → γ} {h : α → γ} {xs : List α}
    (hfg : ∀ x ∈ xs, ∀ y, f x = .ok y → g y = h x) {ys : List β} (hys : xs.mapM f = .ok ys) :
    ys.map g = xs.map h := by
  induction xs generalizing ys with
  | nil =>
    obtain rfl : [] = ys := Except.ok.inj hys
    rfl
  | cons x xs ih =>
    rw [List.mapM_cons] at hys
    obtain ⟨y, hy, hys⟩ := except_bind_eq_ok.mp hys
    obtain ⟨ys', hys', hys⟩ := except_bind_eq_ok.mp hys
    obtain rfl : y :: ys' = ys := Except.ok.inj hys
    rw [List.map_cons, List.map_cons, hfg x List.mem_cons_self y hy,
      ih (fun x' hx' => hfg x' (List.mem_cons_of_mem _ hx')) hys']

/-- A function of the results of a mapping that succeeds, taken as one of its arguments. -/
theorem map_eq_of_mapM_eq_ok {γ : Type} {f : α → Except ε β} {g : β → γ} {h : α → γ}
    (hfg : ∀ x y, f x = .ok y → g y = h x) {xs : List α} {ys : List β} (hys : xs.mapM f = .ok ys) :
    ys.map g = xs.map h :=
  map_eq_of_mapM_of_mem (fun x _ => hfg x) hys

/-- A result of a mapping is that of an element. -/
theorem exists_of_mem_mapM {f : α → Except ε β} {xs : List α} {ys : List β} (hys : xs.mapM f = .ok ys)
    {y : β} (hy : y ∈ ys) : ∃ x ∈ xs, f x = .ok y := by
  induction xs generalizing ys with
  | nil =>
    obtain rfl : [] = ys := Except.ok.inj hys
    cases hy
  | cons x xs ih =>
    rw [List.mapM_cons] at hys
    obtain ⟨y', hy', hys⟩ := except_bind_eq_ok.mp hys
    obtain ⟨ys', hys', hys⟩ := except_bind_eq_ok.mp hys
    obtain rfl : y' :: ys' = ys := Except.ok.inj hys
    rcases List.mem_cons.mp hy with rfl | hy
    · exact ⟨x, List.mem_cons_self, hy'⟩
    · obtain ⟨x', hx', hresult⟩ := ih hys' hy
      exact ⟨x', List.mem_cons_of_mem _ hx', hresult⟩

/-- A mapping that fails has failed at an element. -/
theorem exists_of_mapM_eq_error {f : α → Except ε β} {xs : List α} {e : ε} (h : xs.mapM f = .error e) :
    ∃ x ∈ xs, f x = .error e := by
  induction xs with
  | nil => cases h
  | cons x xs ih =>
    rw [List.mapM_cons] at h
    rcases hx : f x with e' | y
    · rw [hx] at h
      exact ⟨x, List.mem_cons_self, hx.trans (congrArg Except.error (Except.error.inj h))⟩
    · rw [hx] at h
      rcases hxs : xs.mapM f with e' | ys
      · have he : e' = e := Except.error.inj (by rw [hxs] at h; exact h)
        obtain ⟨x', hx', hfail⟩ := ih (hxs.trans (congrArg Except.error he))
        exact ⟨x', List.mem_cons_of_mem _ hx', hfail⟩
      · rw [hxs] at h
        cases h

/-- Mappings that agree on the elements are one. -/
theorem mapM_congr_of_mem {f g : α → Except ε β} {xs : List α} (h : ∀ x ∈ xs, f x = g x) :
    xs.mapM f = xs.mapM g := by
  induction xs with
  | nil => rfl
  | cons x xs ih =>
    rw [List.mapM_cons, List.mapM_cons, h x List.mem_cons_self,
      ih fun x' hx' => h x' (List.mem_cons_of_mem _ hx')]

/-- Two results that fail in one way at most are equal if they succeed alike. -/
theorem except_eq_of_ok_iff {x y : Except ε α} {e : ε} (hx : ∀ e', x = .error e' → e' = e)
    (hy : ∀ e', y = .error e' → e' = e) (hok : ∀ a, x = .ok a ↔ y = .ok a) : x = y := by
  rcases y with e' | a
  · rcases x with e'' | b
    · rw [hx e'' rfl, hy e' rfl]
    · exact ((hok b).mp rfl).symm
  · exact (hok a).mpr rfl

/-- What is known when two computations succeeded one after the other. -/
theorem bind_eq_ok {x : EStateM ε σ α} {f : α → EStateM ε σ β} {s s' : σ} {b : β} :
    (x >>= f) s = .ok b s' ↔ ∃ a s₁, x s = .ok a s₁ ∧ f a s₁ = .ok b s' := by
  rcases hx : x s with ⟨a, s₁⟩ | ⟨e, s₁⟩
  · rw [bind_of_ok hx]
    constructor
    · intro h
      exact ⟨a, s₁, rfl, h⟩
    · rintro ⟨a', s₁', h', h⟩
      cases h'
      exact h
  · rw [bind_of_error hx]
    constructor
    · intro h
      cases h
    · rintro ⟨a', s₁', h', -⟩
      cases h'

/-- A value changes no state. -/
theorem pure_eq_ok {s s' : σ} {a b : α} :
    (pure a : EStateM ε σ α) s = .ok b s' ↔ a = b ∧ s = s' := by
  have hpure : (pure a : EStateM ε σ α) s = .ok a s := rfl
  rw [hpure, EStateM.Result.ok.injEq]

/-- A result that is there. -/
theorem ofExcept_ok (a : α) (s : σ) :
    (MonadExcept.ofExcept (.ok a : Except ε α) : EStateM ε σ α) s = .ok a s := rfl

/-- An error is thrown. -/
theorem ofExcept_error (e : ε) (s : σ) :
    (MonadExcept.ofExcept (.error e : Except ε α) : EStateM ε σ α) s = .error e s := rfl

/-- A result that is thrown or handed on does not change the state. -/
theorem ofExcept_eq_ok {x : Except ε α} {s s' : σ} {a : α} :
    (MonadExcept.ofExcept x : EStateM ε σ α) s = .ok a s' ↔ x = .ok a ∧ s = s' := by
  rcases x with e | b
  · constructor
    · intro h
      cases h
    · rintro ⟨h, -⟩
      cases h
  · rw [ofExcept_ok, EStateM.Result.ok.injEq, Except.ok.injEq]

/-- What is there, or an exception. -/
def orThrow (e : ε) : Option α → EStateM ε σ α
  | some a => pure a
  | none => throw e

/-- A value that is not there is thrown about. -/
theorem orThrow_eq_ok {e : ε} {x : Option α} {s s' : σ} {a : α} :
    (orThrow e x : EStateM ε σ α) s = .ok a s' ↔ x = some a ∧ s = s' := by
  rcases x with _ | b
  · constructor
    · intro h
      cases h
    · rintro ⟨h, -⟩
      cases h
  · rw [Option.some.injEq]
    exact pure_eq_ok

/-- Elements that are all there are what is left of them. -/
theorem mapM_orThrow_eq_ok {γ : Type} {e : ε} {f : γ → Option α} {xs : List γ} {ys : List α} {s s' : σ} :
    (xs.mapM fun x => (orThrow e (f x) : EStateM ε σ α)) s = .ok ys s' ↔
      (∀ x ∈ xs, (f x).isSome = true) ∧ ys = xs.filterMap f ∧ s = s' := by
  induction xs generalizing ys s' with
  | nil =>
    rw [List.mapM_nil, pure_eq_ok, List.filterMap_nil, eq_comm (a := [])]
    exact (and_iff_right fun x hx => absurd hx List.not_mem_nil).symm
  | cons x xs ih =>
    rw [List.mapM_cons, bind_eq_ok, List.forall_mem_cons]
    constructor
    · rintro ⟨a, s₁, ha, h⟩
      obtain ⟨hx, rfl⟩ := orThrow_eq_ok.mp ha
      obtain ⟨ys', s₂, hys', h⟩ := bind_eq_ok.mp h
      obtain ⟨hall, rfl, rfl⟩ := ih.mp hys'
      obtain ⟨rfl, rfl⟩ := pure_eq_ok.mp h
      refine ⟨⟨?_, hall⟩, ?_, rfl⟩
      · rw [hx]
        rfl
      · rw [List.filterMap_cons_some hx]
    · rintro ⟨⟨hx, hall⟩, rfl, rfl⟩
      obtain ⟨a, ha⟩ := Option.isSome_iff_exists.mp hx
      rw [List.filterMap_cons_some ha]
      refine ⟨a, s, orThrow_eq_ok.mpr ⟨ha, rfl⟩, ?_⟩
      exact bind_eq_ok.mpr ⟨_, s, ih.mpr ⟨hall, rfl, rfl⟩, rfl⟩

/-! ## Failing in one way only

A computation whose every throw is the same error, so that callers need not tell the errors apart.
-/

/-- Whatever a computation throws is one and the same exception. -/
def FailsAs (e : ε) (x : EStateM ε σ α) : Prop := ∀ s e' s', x s = .error e' s' → e' = e

section FailsAs

variable {e : ε}

/-- A value throws nothing. -/
theorem FailsAs.pure (a : α) : FailsAs e (Pure.pure a : EStateM ε σ α) := fun _ _ _ h => by cases h

/-- The error itself. -/
theorem FailsAs.throw : FailsAs e (throw e : EStateM ε σ α) := fun _ _ _ h => by
  cases h
  rfl

/-- A missing value throws the error. -/
theorem FailsAs.orThrow (y : Option α) : FailsAs e (orThrow e y : EStateM ε σ α) := by
  rcases y with _ | a
  · exact .throw
  · exact .pure a

/-- A result that can be no other error. -/
theorem FailsAs.ofExcept {y : Except ε α} (hy : ∀ e', y = .error e' → e' = e) :
    FailsAs e (MonadExcept.ofExcept y : EStateM ε σ α) := by
  rcases y with e' | a
  · rw [hy e' rfl]
    exact .throw
  · exact .pure a

/-- Neither of the two parts throws another one. -/
theorem FailsAs.bind {x : EStateM ε σ α} {f : α → EStateM ε σ β} (hx : FailsAs e x)
    (hf : ∀ a, FailsAs e (f a)) : FailsAs e (x >>= f) := by
  intro s e' s' h
  rcases hs : x s with ⟨a, s₁⟩ | ⟨e₁, s₁⟩
  · rw [bind_of_ok hs] at h
    exact hf a s₁ e' s' h
  · rw [bind_of_error hs] at h
    obtain ⟨rfl, -⟩ := EStateM.Result.error.inj h
    exact hx s e₁ s₁ hs

/-- A mapping whose turns can throw no other error. -/
theorem FailsAs.mapM {xs : List α} {f : α → EStateM ε σ β} (hf : ∀ a, FailsAs e (f a)) :
    FailsAs e (xs.mapM f) := by
  induction xs with
  | nil => exact .pure _
  | cons a xs ih =>
    rw [List.mapM_cons]
    exact (hf a).bind fun b => ih.bind fun bs => .pure _

end FailsAs

/-! ## The world afterwards

What a computation leaves, whether it returns or throws. `Keeps` says that a part of the state is left
alone in either case.
-/

/-- The world a computation leaves, whether it returned or threw. -/
def after (x : EStateM ε σ α) (s : σ) : σ :=
  match x s with
  | .ok _ s' => s'
  | .error _ s' => s'

/-- What a computation that returns leaves. -/
theorem after_of_ok {x : EStateM ε σ α} {s s' : σ} {a : α} (h : x s = .ok a s') :
    after x s = s' := by
  unfold after
  rw [h]

/-- What a computation that throws leaves. -/
theorem after_of_error {x : EStateM ε σ α} {s s' : σ} {e : ε} (h : x s = .error e s') :
    after x s = s' := by
  unfold after
  rw [h]

/-- A computation goes on from the world its first part left. -/
theorem after_bind_of_ok {x : EStateM ε σ α} {s s₁ : σ} {a : α} (h : x s = .ok a s₁)
    (f : α → EStateM ε σ β) : after (x >>= f) s = after (f a) s₁ := by
  unfold after
  rw [bind_of_ok h]

/-- What comes after a throw changes nothing. -/
theorem after_bind_of_error {x : EStateM ε σ α} {s s₁ : σ} {e : ε} (h : x s = .error e s₁)
    (f : α → EStateM ε σ β) : after (x >>= f) s = s₁ :=
  after_of_error (bind_of_error h f)

/-- A computation leaves a part of the world alone. -/
def Keeps {γ : Type} (part : σ → γ) (x : EStateM ε σ α) : Prop :=
  ∀ s, part (after x s) = part s

section Keeps

variable {γ : Type} {part : σ → γ}

/-- A value keeps every part of the state. -/
theorem Keeps.pure (a : α) : Keeps part (Pure.pure a : EStateM ε σ α) := fun _ => rfl

/-- The second part may use what is known of the result of the first. -/
theorem Keeps.bind {x : EStateM ε σ α} {f : α → EStateM ε σ β} (hx : Keeps part x)
    (hf : ∀ s a s₁, x s = .ok a s₁ → part (after (f a) s₁) = part s₁) : Keeps part (x >>= f) := by
  intro s
  have hs := hx s
  rcases h : x s with ⟨a, s₁⟩ | ⟨e, s₁⟩
  · rw [after_of_ok h] at hs
    rw [after_bind_of_ok h, hf s a s₁ h, hs]
  · rw [after_of_error h] at hs
    rw [after_bind_of_error h, hs]

/-- A loop keeps what each of its turns keeps. -/
theorem Keeps.forM {xs : List α} {f : α → EStateM ε σ PUnit} (hf : ∀ a, Keeps part (f a)) :
    Keeps part (xs.forM f) := by
  induction xs with
  | nil => exact .pure _
  | cons a xs ih =>
    have hcons : (a :: xs).forM f = (f a >>= fun _ => xs.forM f) := rfl
    rw [hcons]
    exact (hf a).bind fun _ _ s₁ _ => ih s₁

end Keeps

/-! ## Returning

Whether a computation returns, without what it returns.
-/

/-- Whether a computation returns. -/
def returns (x : EStateM ε σ α) (s : σ) : Bool :=
  match x s with
  | .ok _ _ => true
  | .error _ _ => false

/-- A computation with a result returns. -/
theorem returns_of_ok {x : EStateM ε σ α} {s s' : σ} {a : α} (h : x s = .ok a s') :
    returns x s = true := by
  unfold returns
  rw [h]

/-- One that throws does not. -/
theorem returns_of_error {x : EStateM ε σ α} {s s' : σ} {e : ε} (h : x s = .error e s') :
    returns x s = false := by
  unfold returns
  rw [h]

/-- A computation that returns has a result. -/
theorem exists_of_returns {x : EStateM ε σ α} {s : σ} (h : returns x s = true) :
    ∃ a, x s = .ok a (after x s) := by
  rcases hx : x s with ⟨a, s'⟩ | ⟨e, s'⟩
  · rw [after_of_ok hx]
    exact ⟨a, rfl⟩
  · rw [returns_of_error hx] at h
    cases h

/-- After a part that returns, the rest decides. -/
theorem returns_bind_of_ok {x : EStateM ε σ α} {s s₁ : σ} {a : α} (h : x s = .ok a s₁)
    (f : α → EStateM ε σ β) : returns (x >>= f) s = returns (f a) s₁ := by
  unfold returns
  rw [bind_of_ok h]

/-- After a part that throws, nothing returns. -/
theorem returns_bind_of_error {x : EStateM ε σ α} {s s₁ : σ} {e : ε} (h : x s = .error e s₁)
    (f : α → EStateM ε σ β) : returns (x >>= f) s = false :=
  returns_of_error (bind_of_error h f)

/-- What comes last and always returns does not matter. -/
theorem returns_bind {f : α → EStateM ε σ β} (hf : ∀ a s, returns (f a) s = true)
    (x : EStateM ε σ α) (s : σ) : returns (x >>= f) s = returns x s := by
  rcases h : x s with ⟨a, s₁⟩ | ⟨e, s₁⟩
  · rw [returns_bind_of_ok h, returns_of_ok h, hf a s₁]
  · rw [returns_bind_of_error h, returns_of_error h]

/-- A loop returns if each of its turns does. -/
theorem returns_forM {xs : List α} {f : α → EStateM ε σ PUnit}
    (hf : ∀ a s, returns (f a) s = true) (s : σ) : returns (xs.forM f) s = true := by
  induction xs generalizing s with
  | nil => rfl
  | cons a xs ih =>
    have hcons : (a :: xs).forM f = (f a >>= fun _ => xs.forM f) := rfl
    rw [hcons, returns_bind fun _ s => ih s]
    exact hf a s

end Js
