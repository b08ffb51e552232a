import EmailTriage.Lib.RegExp

/-!
# Reading a text with a regular expression

The loop over `exec` with the flag `g` reads a text from left to right, and goes on after each match.
`scan` is this loop for any way to match at a position, so also for a pattern with `^` before it.

Two descriptions of what the loop finds: where matches that overlap agree on a key, `mem_scan_key_iff`
says that these are the keys of all occurrences; otherwise they are the tokens into which the text is
divided, and there is one division only (`Recognizes.division_matchAll`).
-/

namespace Js.RegExp

/-! ## Literals and runs

How the parts of the patterns match: a literal matches itself, and a run as far as it goes.
-/

/-- A literal matches where it stands, and the pattern goes on after it. -/
theorem exec_literal_append (l : List Char) (Q : Pattern) (prev : Option Char) (s : List Char) :
    exec (literal l ++ Q) prev (l ++ s) = (exec Q (last prev l) s).map ((l.map fun c => [c]) ++ ·) := by
  induction l generalizing prev with
  | nil => simp [literal, last]
  | cons c l ih =>
    have hlast : last prev (c :: l) = last (last prev [c]) l := last_append prev [c] l
    show exec (.char _ :: (literal l ++ Q)) prev (c :: (l ++ s)) = _
    rw [exec, hlast]
    simp [Item.lengths, ih, Function.comp_def]

/-- Where a pattern matches that begins with a literal, the literal stands. -/
theorem exists_of_exec_literal {l : List Char} {Q : Pattern} {prev : Option Char} {s : List Char}
    {ms : List (List Char)} (h : exec (literal l ++ Q) prev s = some ms) :
    ∃ s' ms', s = l ++ s' ∧ ms = (l.map fun c => [c]) ++ ms' ∧ exec Q (last prev l) s' = some ms' := by
  obtain ⟨ms₁, ms₂, rest, rfl, rfl, hl, hQ⟩ := exec_append h
  obtain rfl := matches_literal.mp hl
  rw [flatten_map_singleton] at hQ ⊢
  exact ⟨rest, ms₂, rfl, rfl, hQ⟩

/-- A run at the end of a pattern goes as far as it can. -/
theorem exec_plus (p : Char → Bool) (prev : Option Char) (s : List Char) :
    exec [.plus p] prev s = if s.takeWhile p = [] then none else some [s.takeWhile p] := by
  have htake : s.take (run p s) = s.takeWhile p := by
    rw [run]
    exact List.prefix_iff_eq_take.mp (List.takeWhile_prefix p) |>.symm
  rcases hrun : run p s with _ | n
  · have hnil : s.takeWhile p = [] := List.length_eq_zero_iff.mp hrun
    rw [if_pos hnil]
    simp [exec, Item.lengths, hrun]
  · have hne : s.takeWhile p ≠ [] := by
      intro hnil
      rw [run, hnil] at hrun
      cases hrun
    rw [if_neg hne, ← htake, hrun]
    simp [exec, Item.lengths, hrun, List.range_succ]

/-- What is matched is as long as the characters of the kind go on. -/
theorem exec_plus_iff {p : Char → Bool} {prev : Option Char} {s : List Char} {ms : List (List Char)} :
    exec [.plus p] prev s = some ms ↔ ∃ m rest, ms = [m] ∧ s = m ++ rest ∧ m ≠ [] ∧
      (∀ c ∈ m, p c = true) ∧ ∀ c ∈ rest.head?, p c = false := by
  rw [exec_plus]
  constructor
  · intro h
    by_cases hnil : s.takeWhile p = []
    · rw [if_pos hnil] at h
      cases h
    · rw [if_neg hnil, Option.some.injEq] at h
      refine ⟨_, s.dropWhile p, h.symm, List.takeWhile_append_dropWhile.symm, hnil,
        fun c => List.mem_takeWhile_imp, fun c hc => ?_⟩
      have hnot := List.head?_dropWhile_not p s
      rwa [Option.mem_def.mp hc] at hnot
  · rintro ⟨m, rest, rfl, rfl, hne, hm, hrest⟩
    have htake : (m ++ rest).takeWhile p = m := by
      have hnot := List.head?_dropWhile_not p (m ++ rest)
      refine (run_unique (fun c => List.mem_takeWhile_imp) hm (fun c hc => ?_) hrest
        List.takeWhile_append_dropWhile).1
      rwa [Option.mem_def.mp hc] at hnot
    rw [htake, if_neg hne]

/-! ## The loop

A loop over a matcher that consumes something each time finds what matches somewhere, and of two
matches of the same key the later one decides.
-/

/-- The loop over a way to match at a position that matches no empty text. -/
def scan (m : Option Char → List Char → Option (List (List Char))) :
    (fuel : ℕ) → Option Char → List Char → List (List (List Char))
  | 0, _, _ => []
  | fuel + 1, prev, s =>
    match m prev s with
    | some ms => ms :: scan m fuel (last prev ms.flatten) (s.drop ms.flatten.length)
    | none =>
      match s with
      | [] => []
      | c :: s => scan m fuel (some c) s

/-- What is matched is the beginning of the text, and not empty. -/
structure Progresses (m : Option Char → List Char → Option (List (List Char))) : Prop where
  prefixed : ∀ prev s ms, m prev s = some ms → ∃ rest, s = ms.flatten ++ rest
  nonempty : ∀ prev s ms, m prev s = some ms → ms.flatten ≠ []

section

variable {m : Option Char → List Char → Option (List (List Char))} {prev : Option Char} {s : List Char}
  {ms : List (List Char)}

/-- What the loop finds is matched somewhere. -/
theorem exists_of_mem_scan (hm : Progresses m) {fuel : ℕ} (h : ms ∈ scan m fuel prev s) :
    ∃ pre rest, s = pre ++ rest ∧ m (last prev pre) rest = some ms := by
  induction fuel generalizing prev s with
  | zero => cases h
  | succ fuel ih =>
    unfold scan at h
    rcases hfirst : m prev s with _ | ms₁
    · rw [hfirst] at h
      rcases s with _ | ⟨c, s⟩
      · cases h
      · obtain ⟨pre, rest, rfl, hmatch⟩ := ih h
        refine ⟨c :: pre, rest, rfl, ?_⟩
        rw [← List.singleton_append, last_append]
        exact hmatch
    · rw [hfirst] at h
      obtain ⟨s', rfl⟩ := hm.prefixed prev s ms₁ hfirst
      rcases List.mem_cons.mp h with rfl | h
      · exact ⟨[], _, rfl, hfirst⟩
      · rw [List.drop_left] at h
        obtain ⟨pre, rest, rfl, hmatch⟩ := ih h
        refine ⟨ms₁.flatten ++ pre, rest, (List.append_assoc ..).symm, ?_⟩
        rw [last_append]
        exact hmatch

/-- Whatever is matched has the key of something that the loop finds, if matches that overlap have one
key. -/
theorem exists_mem_scan {κ : Type*} {key : List (List Char) → κ} (hm : Progresses m)
    (hoverlap : ∀ prev s ms ms' pre rest, m prev s = some ms → s = pre ++ rest →
      pre.length < ms.flatten.length → m (last prev pre) rest = some ms' → key ms' = key ms)
    {fuel : ℕ} {pre rest : List Char} (hfuel : (pre ++ rest).length < fuel)
    (h : m (last prev pre) rest = some ms) : ∃ ms' ∈ scan m fuel prev (pre ++ rest), key ms' = key ms := by
  induction fuel generalizing prev pre with
  | zero => cases hfuel
  | succ fuel ih =>
    unfold scan
    rcases hfirst : m prev (pre ++ rest) with _ | ms₁
    · rcases pre with _ | ⟨c, pre⟩
      · rw [List.nil_append] at hfirst
        exact absurd (hfirst.symm.trans h) (by simp)
      · rw [← List.singleton_append, last_append] at h
        exact ih (Nat.lt_of_succ_lt_succ hfuel) h
    · by_cases hlt : pre.length < ms₁.flatten.length
      · exact ⟨ms₁, List.mem_cons_self, (hoverlap prev _ ms₁ ms pre rest hfirst rfl hlt h).symm⟩
      · -- the match is after the first one
        obtain ⟨s', hs'⟩ := hm.prefixed prev _ ms₁ hfirst
        obtain ⟨pre', rfl⟩ : ms₁.flatten <+: pre := List.prefix_of_prefix_length_le ⟨s', hs'.symm⟩
          (List.prefix_append pre rest) (not_lt.mp hlt)
        have hpos := List.length_pos_iff.mpr (hm.nonempty prev _ ms₁ hfirst)
        rw [List.append_assoc, List.length_append] at hfuel
        rw [last_append] at h
        obtain ⟨ms', hms', hkey⟩ := ih (by omega) h
        refine ⟨ms', List.mem_cons_of_mem _ ?_, hkey⟩
        rw [List.append_assoc, List.drop_left]
        exact hms'

/-- The keys the loop finds are those of everything that is matched. -/
theorem mem_scan_key_iff {κ : Type*} {key : List (List Char) → κ} (hm : Progresses m)
    (hoverlap : ∀ prev s ms ms' pre rest, m prev s = some ms → s = pre ++ rest →
      pre.length < ms.flatten.length → m (last prev pre) rest = some ms' → key ms' = key ms)
    (s : List Char) (k : κ) :
    k ∈ (scan m (s.length + 1) none s).map key ↔
      ∃ pre rest ms, s = pre ++ rest ∧ m pre.getLast? rest = some ms ∧ key ms = k := by
  have hlast : ∀ pre, last none pre = pre.getLast? := fun pre => Option.or_none
  constructor
  · intro h
    obtain ⟨ms, hms, rfl⟩ := List.mem_map.mp h
    obtain ⟨pre, rest, rfl, hmatch⟩ := exists_of_mem_scan hm hms
    rw [hlast] at hmatch
    exact ⟨pre, rest, ms, rfl, hmatch, rfl⟩
  · rintro ⟨pre, rest, ms, rfl, hmatch, rfl⟩
    rw [← hlast] at hmatch
    obtain ⟨ms', hms', hkey⟩ := exists_mem_scan hm hoverlap (Nat.lt_succ_self _) hmatch
    exact List.mem_map.mpr ⟨ms', hms', hkey⟩

end

/-! ## Divisions

What a text is divided into does not depend on a matcher. A matcher that recognises what may begin at a
place makes the loop find the division, and there is one only.
-/

/-- A text is divided into tokens from its beginning: each is the first one after the one before. `R s
t rest` says that the text `s` begins with the token `t`, and goes on with `rest`. -/
inductive Division {T : Type} (R : List Char → T → List Char → Prop) : List Char → List T → Prop
  | done (s : List Char) (hnone : ∀ pre s' t rest, s = pre ++ s' → ¬R s' t rest) : Division R s []
  | next (pre s rest : List Char) (t : T) (ts : List T) (ht : R s t rest)
      (hfirst : ∀ pre' s' t' rest', pre ++ s = pre' ++ s' → R s' t' rest' → pre.length ≤ pre'.length)
      (h : Division R rest ts) : Division R (pre ++ s) (t :: ts)

/-- A pattern matches, at any position, exactly the tokens there. -/
structure Recognizes {T : Type} (P : Pattern) (R : List Char → T → List Char → Prop)
    (groups : T → List (List Char)) : Prop where
  exec_iff : ∀ prev s ms, exec P prev s = some ms ↔ ∃ t rest, R s t rest ∧ ms = groups t
  text : ∀ s t rest, R s t rest → s = (groups t).flatten ++ rest
  nonempty : ∀ t, (groups t).flatten ≠ []
  injective : Function.Injective groups

namespace Recognizes

variable {T : Type} {P : Pattern} {R : List Char → T → List Char → Prop} {groups : T → List (List Char)}
  (hP : Recognizes P R groups) {s rest : List Char} {t : T} {ts : List T}

include hP

/-- A text begins with one token at most. -/
theorem unique {t' : T} {rest' : List Char} (h : R s t rest) (h' : R s t' rest') :
    t = t' ∧ rest = rest' := by
  have hexec := (hP.exec_iff none s _).mpr ⟨t, rest, h, rfl⟩
  have hexec' := (hP.exec_iff none s _).mpr ⟨t', rest', h', rfl⟩
  obtain rfl := hP.injective (Option.some.inj (hexec.symm.trans hexec'))
  exact ⟨rfl, List.append_cancel_left ((hP.text s t rest h).symm.trans (hP.text s t rest' h'))⟩

/-- What begins in a text is not empty. -/
theorem ne_nil (h : R s t rest) : s ≠ [] := by
  rw [hP.text s t rest h]
  exact fun hnil => hP.nonempty t (List.append_eq_nil_iff.mp hnil).1

/-- An empty text has one division, which is empty. -/
theorem division_nil_iff : Division R [] ts ↔ ts = [] := by
  constructor
  · intro h
    generalize hs : ([] : List Char) = s at h
    cases h with
    | done => rfl
    | next pre s rest t ts ht =>
      exact absurd (List.append_eq_nil_iff.mp hs.symm).2 (hP.ne_nil ht)
  · rintro rfl
    refine .done [] fun pre s' t rest hs ht => ?_
    exact hP.ne_nil ht (List.append_eq_nil_iff.mp hs.symm).2

/-- A token at the beginning is the first one. -/
theorem division_token_iff (ht : R s t rest) :
    Division R s ts ↔ ∃ ts', ts = t :: ts' ∧ Division R rest ts' := by
  constructor
  · intro h
    cases h with
    | done _ hnone => exact absurd ht (hnone [] s t rest rfl)
    | next pre s₁ rest₁ t₁ ts₁ ht₁ hfirst h =>
      obtain rfl := List.length_eq_zero_iff.mp (Nat.le_zero.mp (hfirst [] _ t rest rfl ht))
      obtain ⟨rfl, rfl⟩ := hP.unique ht ht₁
      exact ⟨ts₁, rfl, h⟩
  · rintro ⟨ts', rfl, h⟩
    exact .next [] s rest t ts' ht (fun _ _ _ _ _ _ => Nat.zero_le _) h

omit hP in
/-- A character at which no token begins does not count. -/
theorem division_cons_iff {c : Char} (hnone : ∀ t rest, ¬R (c :: s) t rest) :
    Division R (c :: s) ts ↔ Division R s ts := by
  constructor
  · intro h
    generalize hs : c :: s = s' at h
    cases h with
    | done _ hnone' =>
      refine .done s fun pre s' t rest heq => hnone' (c :: pre) s' t rest ?_
      rw [← hs, heq, List.cons_append]
    | next pre s₁ rest t ts ht hfirst h =>
      -- the first token is not at the front, and is as early in the shorter text
      rcases pre with _ | ⟨d, pre⟩
      · rw [List.nil_append] at hs
        exact absurd ht (by rw [← hs]; exact hnone t rest)
      · obtain ⟨rfl, rfl⟩ := List.cons.inj hs
        refine .next pre s₁ rest t ts ht (fun pre' s' t' rest' heq ht' => ?_) h
        have hle := hfirst (c :: pre') s' t' rest' (by rw [List.cons_append, List.cons_append, heq]) ht'
        exact Nat.le_of_succ_le_succ hle
  · intro h
    cases h with
    | done _ hnone' =>
      refine .done _ fun pre s' t rest heq ht => ?_
      rcases pre with _ | ⟨d, pre⟩
      · rw [List.nil_append] at heq
        exact hnone t rest (heq ▸ ht)
      · exact hnone' pre s' t rest (List.cons.inj heq).2 ht
    | next pre s₁ rest t ts ht hfirst h =>
      refine .next (c :: pre) s₁ rest t ts ht (fun pre' s' t' rest' heq ht' => ?_) h
      rcases pre' with _ | ⟨d, pre'⟩
      · rw [List.nil_append] at heq
        exact absurd ht' (by rw [← heq]; exact hnone t' rest')
      · exact Nat.succ_le_succ (hfirst pre' s' t' rest' (List.cons.inj heq).2 ht')

/-- The loop finds the tokens, and there is one way only to divide a text into them. -/
theorem division_matchAll (fuel : ℕ) (prev : Option Char) (s : List Char) (hfuel : s.length < fuel) :
    ∃ ts, matchAll P fuel prev s = ts.map groups ∧ ∀ ts', Division R s ts' ↔ ts' = ts := by
  induction fuel generalizing prev s with
  | zero => cases hfuel
  | succ fuel ih =>
    unfold matchAll
    rcases hexec : exec P prev s with _ | ms
    · -- nothing begins here, and the next character is tried
      have hnone : ∀ t rest, ¬R s t rest := by
        intro t rest ht
        rw [(hP.exec_iff prev s _).mpr ⟨t, rest, ht, rfl⟩] at hexec
        cases hexec
      rcases s with _ | ⟨c, s⟩
      · exact ⟨[], rfl, fun _ => hP.division_nil_iff⟩
      · obtain ⟨ts, hts, hunique⟩ := ih (some c) s (Nat.lt_of_succ_lt_succ hfuel)
        exact ⟨ts, hts, fun ts' => (division_cons_iff hnone).trans (hunique ts')⟩
    · obtain ⟨t, rest, ht, rfl⟩ := (hP.exec_iff prev s ms).mp hexec
      -- a token is not empty, so that the fuel lasts for the rest of the text
      have htext := hP.text s t rest ht
      have hpos := List.length_pos_iff.mpr (hP.nonempty t)
      have hlength := congrArg List.length htext
      rw [List.length_append] at hlength
      have hdrop : s.drop (groups t).flatten.length = rest := by rw [htext, List.drop_left]
      dsimp only
      rw [hdrop]
      obtain ⟨ts, hts, hunique⟩ := ih (last prev (groups t).flatten) rest (by omega)
      refine ⟨t :: ts, by rw [hts, List.map_cons], fun ts' => ?_⟩
      rw [hP.division_token_iff ht]
      constructor
      · rintro ⟨ts'', rfl, h⟩
        rw [(hunique ts'').mp h]
      · rintro rfl
        exact ⟨ts, rfl, (hunique ts).mpr rfl⟩

end Recognizes

end Js.RegExp
