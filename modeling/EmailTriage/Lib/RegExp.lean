import Mathlib.Data.List.TakeWhile

/-!
# JavaScript regular expressions without nesting

A `Pattern` is a sequence of items, each a character of a class, a run of such characters, or a word
boundary. `exec` matches it at one position, by backtracking: an item tries its lengths in the order of
JavaScript, the longest first where it is greedy. It answers with what each item has matched, in which
the caller finds its capture groups.

`Matches` says what a match is without saying how it is found. `exec_sound` and `exec_complete` connect
the two.
-/

namespace Js.RegExp

/-- `\w`. -/
def isWord (c : Char) : Bool :=
  ('0'.toNat ≤ c.toNat && c.toNat ≤ '9'.toNat) || ('A'.toNat ≤ c.toNat && c.toNat ≤ 'Z'.toNat) ||
    ('a'.toNat ≤ c.toNat && c.toNat ≤ 'z'.toNat) || c = '_'

/-- `\s`. -/
def isSpace (c : Char) : Bool :=
  (9 ≤ c.toNat && c.toNat ≤ 13) || (0x2000 ≤ c.toNat && c.toNat ≤ 0x200a) ||
    [0x20, 0xa0, 0x1680, 0x2028, 0x2029, 0x202f, 0x205f, 0x3000, 0xfeff].contains c.toNat

/-- `.`. -/
def isDot (c : Char) : Bool := !List.contains [0xa, 0xd, 0x2028, 0x2029] c.toNat

/-- An item of a pattern: a class, `*`, `+`, `*?`, and `\b`. -/
inductive Item where
  | char (p : Char → Bool)
  | star (p : Char → Bool)
  | plus (p : Char → Bool)
  | lazyStar (p : Char → Bool)
  | boundary

abbrev Pattern := List Item

/-- The characters of a text, one by one. -/
def literal (s : List Char) : Pattern := s.map fun c => .char fun d => d = c

/-- The same with the flag `i`, for ASCII characters. -/
def caseless (s : List Char) : Pattern := s.map fun c => .char fun d => d.toLower = c.toLower

/-- The last character before a position, once `m` is matched. -/
def last (prev : Option Char) (m : List Char) : Option Char := m.getLast?.or prev

/-! ## Matching

The matcher tries the lengths of an item in the order that greedy and lazy quantifiers prescribe, and
takes the first one with which the rest matches.
-/

/-- How many characters of a class a text begins with. -/
def run (p : Char → Bool) (s : List Char) : ℕ := (s.takeWhile p).length

/-- The lengths an item may match, in the order in which they are tried. -/
def Item.lengths : Item → Option Char → List Char → List ℕ
  | .char p, _, s => if s.head?.any p then [1] else []
  | .star p, _, s => (List.range (run p s + 1)).reverse
  | .plus p, _, s => ((List.range (run p s)).map (· + 1)).reverse
  | .lazyStar p, _, s => List.range (run p s + 1)
  | .boundary, prev, s => if prev.any isWord = s.head?.any isWord then [] else [0]

/-- The first match at a position. -/
def exec : Pattern → Option Char → List Char → Option (List (List Char))
  | [], _, _ => some []
  | x :: P, prev, s =>
    (x.lengths prev s).findSome? fun n =>
      (exec P (last prev (s.take n)) (s.drop n)).map (s.take n :: ·)

/-- The first match from a position on. -/
def search (P : Pattern) : Option Char → List Char → Option (List (List Char))
  | prev, [] => exec P prev []
  | prev, c :: s => (exec P prev (c :: s)).or (search P (some c) s)

/-- `test`. -/
def test (P : Pattern) (s : List Char) : Bool := (search P none s).isSome

/-- The matches that a loop over `exec` with the flag `g` finds, for a pattern that matches no empty
text. -/
def matchAll (P : Pattern) : (fuel : ℕ) → Option Char → List Char → List (List (List Char))
  | 0, _, _ => []
  | fuel + 1, prev, s =>
    match exec P prev s with
    | some ms => ms :: matchAll P fuel (last prev ms.flatten) (s.drop ms.flatten.length)
    | none =>
      match s with
      | [] => []
      | c :: s => matchAll P fuel (some c) s

/-! ## What a match is

`Matches` says what a match is without an order. The matcher finds one only if there is one
(`exec_sound`), and finds one if there is one (`exec_complete`).
-/

/-- An item matches a text between what is before and what comes after. -/
def Item.Fits : Item → Option Char → List Char → List Char → Prop
  | .char p, _, m, _ => ∃ c, m = [c] ∧ p c = true
  | .star p, _, m, _ => ∀ c ∈ m, p c = true
  | .plus p, _, m, _ => m ≠ [] ∧ ∀ c ∈ m, p c = true
  | .lazyStar p, _, m, _ => ∀ c ∈ m, p c = true
  | .boundary, prev, m, rest => m = [] ∧ prev.any isWord ≠ rest.head?.any isWord

/-- The items of a pattern match one text each. -/
def Matches : Pattern → Option Char → List (List Char) → List Char → Prop
  | [], _, ms, _ => ms = []
  | x :: P, prev, ms, rest =>
    ∃ m ms', ms = m :: ms' ∧ x.Fits prev m (ms'.flatten ++ rest) ∧ Matches P (last prev m) ms' rest

/-- A run is at least as long as the characters of its kind that a text begins with. -/
theorem le_run_iff {p : Char → Bool} {s : List Char} {n : ℕ} :
    n ≤ run p s ↔ n ≤ s.length ∧ ∀ c ∈ s.take n, p c = true := by
  unfold run
  induction s generalizing n with
  | nil => simp
  | cons c s ih =>
    rcases n with _ | n
    · simp
    · rw [List.takeWhile_cons]
      by_cases hc : p c = true
      · simp [hc, ih]
      · simp [hc]

/-- A text of length one is its first character. -/
theorem take_eq_singleton_iff {s : List Char} {n : ℕ} {c : Char} (hn : n ≤ s.length) :
    s.take n = [c] ↔ n = 1 ∧ s.head? = some c := by
  rcases n with _ | _ | n
  · simp
  · rcases s with _ | ⟨d, s⟩ <;> simp
  · refine iff_of_false (fun h => ?_) (by simp)
    have hlength := congrArg List.length h
    rw [List.length_take_of_le hn, List.length_singleton] at hlength
    omega

/-- What is taken from a text is empty only if nothing is taken. -/
theorem take_eq_nil_iff {s : List Char} {n : ℕ} (hn : n ≤ s.length) : s.take n = [] ↔ n = 0 := by
  rw [← List.length_eq_zero_iff, List.length_take_of_le hn]

/-- An item tries exactly the lengths that fit. -/
theorem Item.mem_lengths_iff {x : Item} {prev : Option Char} {s : List Char} {n : ℕ} :
    n ∈ x.lengths prev s ↔ n ≤ s.length ∧ x.Fits prev (s.take n) (s.drop n) := by
  cases x with
  | char p =>
    have hfits : n ≤ s.length ∧ Fits (.char p) prev (s.take n) (s.drop n) ↔
        n = 1 ∧ s.head?.any p = true := by
      constructor
      · rintro ⟨hle, c, htake, hc⟩
        obtain ⟨rfl, hhead⟩ := (take_eq_singleton_iff hle).mp htake
        exact ⟨rfl, by rw [hhead]; exact hc⟩
      · rintro ⟨rfl, hany⟩
        rcases s with _ | ⟨c, s⟩
        · cases hany
        · exact ⟨Nat.succ_le_succ (Nat.zero_le _), c, rfl, hany⟩
    rw [hfits]
    by_cases hp : s.head?.any p = true <;> simp [lengths, hp]
  | star p => simp only [lengths, Fits, List.mem_reverse, List.mem_range, Nat.lt_succ_iff, le_run_iff]
  | plus p =>
    rcases n with _ | n
    · simp [lengths, Fits]
    · simp only [lengths, Fits, List.mem_reverse, List.mem_map, List.mem_range, Nat.add_right_cancel_iff,
        exists_eq_right]
      -- one or more is zero or more of which there is one
      rw [← Nat.succ_le_iff, le_run_iff]
      constructor
      · rintro ⟨hle, hall⟩
        exact ⟨hle, fun hnil => Nat.succ_ne_zero n ((take_eq_nil_iff hle).mp hnil), hall⟩
      · rintro ⟨hle, -, hall⟩
        exact ⟨hle, hall⟩
  | lazyStar p => simp only [lengths, Fits, List.mem_range, Nat.lt_succ_iff, le_run_iff]
  | boundary =>
    have hfits : n ≤ s.length ∧ Fits .boundary prev (s.take n) (s.drop n) ↔
        n = 0 ∧ prev.any isWord ≠ s.head?.any isWord := by
      constructor
      · rintro ⟨hle, htake, hne⟩
        obtain rfl := (take_eq_nil_iff hle).mp htake
        exact ⟨rfl, hne⟩
      · rintro ⟨rfl, hne⟩
        exact ⟨Nat.zero_le _, rfl, hne⟩
    rw [hfits]
    by_cases hsame : prev.any isWord = s.head?.any isWord <;> simp [lengths, hsame]

/-- What `exec` finds is a match. -/
theorem exec_sound {P : Pattern} {prev : Option Char} {s : List Char} {ms : List (List Char)}
    (h : exec P prev s = some ms) : ∃ rest, s = ms.flatten ++ rest ∧ Matches P prev ms rest := by
  induction P generalizing prev s ms with
  | nil =>
    obtain rfl : [] = ms := Option.some.inj h
    exact ⟨s, rfl, rfl⟩
  | cons x P ih =>
    obtain ⟨n, hn, hm⟩ := List.exists_of_findSome?_eq_some h
    obtain ⟨ms', hms', rfl⟩ := Option.map_eq_some_iff.mp hm
    obtain ⟨-, hfits⟩ := Item.mem_lengths_iff.mp hn
    obtain ⟨rest, hrest, hmatches⟩ := ih hms'
    rw [hrest] at hfits
    refine ⟨rest, ?_, _, _, rfl, hfits, hmatches⟩
    rw [List.flatten_cons, List.append_assoc, ← hrest, List.take_append_drop]

/-- Where there is a match, `exec` finds one. -/
theorem exec_complete {P : Pattern} {prev : Option Char} {ms : List (List Char)} {rest : List Char}
    (h : Matches P prev ms rest) : (exec P prev (ms.flatten ++ rest)).isSome = true := by
  induction P generalizing prev ms with
  | nil => rfl
  | cons x P ih =>
    obtain ⟨m, ms', rfl, hfits, hmatches⟩ := h
    have htake : ((m :: ms').flatten ++ rest).take m.length = m := by simp
    have hdrop : ((m :: ms').flatten ++ rest).drop m.length = ms'.flatten ++ rest := by simp
    unfold exec
    rw [List.findSome?_isSome_iff]
    refine ⟨m.length, Item.mem_lengths_iff.mpr ⟨by simp, ?_⟩, ?_⟩
    · rw [htake, hdrop]
      exact hfits
    · rw [htake, hdrop, Option.isSome_map]
      exact ih hmatches

/-! ## Patterns made of parts

A pattern is matched part by part, and a lazy star stops at the first place where the rest matches.
-/

/-- The last character of two texts. -/
theorem last_append (prev : Option Char) (a b : List Char) : last prev (a ++ b) = last (last prev a) b := by
  unfold last
  rw [List.getLast?_append, Option.or_assoc]

/-- Two patterns one after the other match two parts of a text. -/
theorem matches_append {P Q : Pattern} {prev : Option Char} {ms : List (List Char)} {rest : List Char} :
    Matches (P ++ Q) prev ms rest ↔ ∃ ms₁ ms₂, ms = ms₁ ++ ms₂ ∧
      Matches P prev ms₁ (ms₂.flatten ++ rest) ∧ Matches Q (last prev ms₁.flatten) ms₂ rest := by
  induction P generalizing prev ms with
  | nil =>
    constructor
    · intro h
      exact ⟨[], ms, rfl, rfl, h⟩
    · rintro ⟨ms₁, ms₂, rfl, rfl, h⟩
      exact h
  | cons x P ih =>
    constructor
    · rintro ⟨m, ms', rfl, hfits, h⟩
      obtain ⟨ms₁, ms₂, rfl, hP, hQ⟩ := ih.mp h
      refine ⟨m :: ms₁, ms₂, rfl, ⟨m, ms₁, rfl, ?_, hP⟩, ?_⟩
      · rwa [List.flatten_append, List.append_assoc] at hfits
      · rwa [List.flatten_cons, last_append]
    · rintro ⟨_, ms₂, rfl, ⟨m, ms₁, rfl, hfits, hP⟩, hQ⟩
      refine ⟨m, ms₁ ++ ms₂, rfl, ?_, ih.mpr ⟨ms₁, ms₂, rfl, hP, ?_⟩⟩
      · rwa [List.flatten_append, List.append_assoc]
      · rwa [List.flatten_cons, last_append] at hQ

/-- A literal matches its characters, each on its own. -/
theorem matches_literal {s : List Char} {prev : Option Char} {ms : List (List Char)} {rest : List Char} :
    Matches (literal s) prev ms rest ↔ ms = s.map fun c => [c] := by
  induction s generalizing prev ms with
  | nil => exact Iff.rfl
  | cons c s ih =>
    constructor
    · rintro ⟨m, ms', rfl, ⟨d, rfl, hd⟩, h⟩
      rw [ih.mp h, of_decide_eq_true hd]
      rfl
    · rintro rfl
      exact ⟨[c], _, rfl, ⟨c, rfl, decide_eq_true rfl⟩, ih.mpr rfl⟩

/-- What a literal matches is the text it stands for. -/
theorem flatten_map_singleton (s : List Char) : (s.map fun c => [c]).flatten = s := by
  rw [← List.flatMap_def, List.flatMap_singleton']

/-- A pattern in two parts is matched part by part. -/
theorem exec_append {P Q : Pattern} {prev : Option Char} {s : List Char} {ms : List (List Char)}
    (h : exec (P ++ Q) prev s = some ms) : ∃ ms₁ ms₂ rest, ms = ms₁ ++ ms₂ ∧ s = ms₁.flatten ++ rest ∧
      Matches P prev ms₁ rest ∧ exec Q (last prev ms₁.flatten) rest = some ms₂ := by
  induction P generalizing prev s ms with
  | nil => exact ⟨[], ms, s, rfl, rfl, rfl, h⟩
  | cons x P ih =>
    obtain ⟨n, hn, hm⟩ := List.exists_of_findSome?_eq_some h
    obtain ⟨ms', hms', rfl⟩ := Option.map_eq_some_iff.mp hm
    obtain ⟨-, hfits⟩ := Item.mem_lengths_iff.mp hn
    obtain ⟨ms₁, ms₂, rest, rfl, hrest, hP, hQ⟩ := ih hms'
    rw [hrest] at hfits
    refine ⟨s.take n :: ms₁, ms₂, rest, rfl, ?_, ⟨_, _, rfl, hfits, hP⟩, ?_⟩
    · rw [List.flatten_cons, List.append_assoc, ← hrest, List.take_append_drop]
    · rwa [List.flatten_cons, last_append]

/-- A lazy run ends where what follows matches first. -/
theorem exec_lazyStar {p : Char → Bool} {Q : Pattern} {prev : Option Char} {s : List Char}
    {ms : List (List Char)} (h : exec (.lazyStar p :: Q) prev s = some ms) :
    ∃ m ms' rest, ms = m :: ms' ∧ s = m ++ rest ∧ exec Q (last prev m) rest = some ms' ∧
      ∀ n < m.length, exec Q (last prev (s.take n)) (s.drop n) = none := by
  obtain ⟨before, n, after, hrange, hn, hbefore⟩ := List.findSome?_eq_some_iff.mp h
  obtain ⟨ms', hms', rfl⟩ := Option.map_eq_some_iff.mp hn
  -- the lengths are tried in increasing order
  have hshorter : ∀ k < n, k ∈ before := by
    intro k hk
    have hmem : n ∈ Item.lengths (.lazyStar p) prev s := by
      rw [hrange]
      exact List.mem_append_right _ List.mem_cons_self
    have hk' : k ∈ before ++ n :: after := by
      rw [← hrange]
      exact List.mem_range.mpr (hk.trans (List.mem_range.mp hmem))
    have hsorted : (before ++ n :: after).Pairwise (· < ·) := by
      rw [← hrange]
      exact List.pairwise_lt_range
    rcases List.mem_append.mp hk' with hk' | hk'
    · exact hk'
    · rw [List.pairwise_append, List.pairwise_cons] at hsorted
      rcases List.mem_cons.mp hk' with rfl | hk'
      · exact absurd hk (lt_irrefl _)
      · exact absurd hk (hsorted.2.1.1 k hk').not_gt
  refine ⟨_, ms', s.drop n, rfl, (List.take_append_drop n s).symm, hms', fun k hk => ?_⟩
  exact Option.map_eq_none_iff.mp (hbefore k (hshorter k (hk.trans_le (List.length_take_le n s))))

/-! ## Runs

A run of characters of a kind is as long as it goes on, which leaves one way to match it.
-/

/-- A run of characters of a class ends in one place. -/
theorem run_unique {p : Char → Bool} {a a' x x' : List Char} (ha : ∀ c ∈ a, p c = true)
    (ha' : ∀ c ∈ a', p c = true) (hx : ∀ c ∈ x.head?, p c = false)
    (hx' : ∀ c ∈ x'.head?, p c = false) (h : a ++ x = a' ++ x') : a = a' ∧ x = x' := by
  induction a generalizing a' with
  | nil =>
    rcases a' with _ | ⟨c, a'⟩
    · exact ⟨rfl, h⟩
    · rw [List.nil_append] at h
      have hc := hx c (by rw [h]; rfl)
      rw [ha' c List.mem_cons_self] at hc
      cases hc
  | cons c a ih =>
    rcases a' with _ | ⟨c', a'⟩
    · rw [List.nil_append] at h
      have hc := hx' c (by rw [← h]; rfl)
      rw [ha c List.mem_cons_self] at hc
      cases hc
    · rw [List.cons_append, List.cons_append, List.cons.injEq] at h
      obtain ⟨rfl, hrest⟩ := ih (fun d hd => ha d (List.mem_cons_of_mem _ hd))
        (fun d hd => ha' d (List.mem_cons_of_mem _ hd)) h.2
      exact ⟨by rw [h.1], hrest⟩

/-- A word character is no space. -/
theorem isSpace_eq_false_of_isWord {c : Char} (h : isWord c = true) : isSpace c = false := by
  have hbounds : 48 ≤ c.toNat ∧ c.toNat ≤ 122 := by
    simp only [isWord, Bool.or_eq_true, Bool.and_eq_true, decide_eq_true_eq] at h
    change (((48 ≤ c.toNat ∧ c.toNat ≤ 57) ∨ 65 ≤ c.toNat ∧ c.toNat ≤ 90) ∨
      97 ≤ c.toNat ∧ c.toNat ≤ 122) ∨ c = '_' at h
    rcases h with h | rfl
    · omega
    · decide
  unfold isSpace
  simp
  omega

/-- The first occurrence of a literal is in one place. -/
theorem first_unique {l x x' s s' : List Char} (hx : ∀ pre post, x ++ l = pre ++ l ++ post → post = [])
    (hx' : ∀ pre post, x' ++ l = pre ++ l ++ post → post = [])
    (h : x ++ (l ++ s) = x' ++ (l ++ s')) : x = x' ∧ s = s' := by
  -- the shorter of the two would have another one after it
  have hle : ∀ {x x' s s' : List Char}, (∀ pre post, x' ++ l = pre ++ l ++ post → post = []) →
      x ++ (l ++ s) = x' ++ (l ++ s') → x'.length ≤ x.length := by
    intro x x' s s' hx' h
    by_contra hlt
    have hprefix : x ++ l <+: x' ++ l := by
      refine List.prefix_of_prefix_length_le (List.prefix_append _ s) ⟨s', ?_⟩ ?_
      · rw [List.append_assoc, List.append_assoc, h]
      · rw [List.length_append, List.length_append]
        omega
    obtain ⟨post, hpost⟩ := hprefix
    have hnil := hx' x post hpost.symm
    have hlengths := congrArg List.length hpost
    rw [hnil, List.append_nil, List.length_append, List.length_append] at hlengths
    omega
  have hlength : x.length = x'.length := le_antisymm (hle hx h.symm) (hle hx' h)
  obtain ⟨rfl, hrest⟩ := List.append_inj h hlength
  exact ⟨rfl, List.append_cancel_left hrest⟩

/-- A lazy run before a literal ends at its first occurrence. -/
theorem first_of_lazy {l : List Char} {prev : Option Char} {body rest : List Char}
    (hlazy : ∀ n < body.length, exec (literal l) (last prev ((body ++ (l ++ rest)).take n))
      ((body ++ (l ++ rest)).drop n) = none) :
    ∀ pre post, body ++ l = pre ++ l ++ post → post = [] := by
  intro pre post hpost
  by_contra hne
  have hlengths := congrArg List.length hpost
  have hpositive := List.length_pos_iff.mpr hne
  simp only [List.length_append] at hlengths
  have hdrop : (body ++ (l ++ rest)).drop pre.length = l ++ (post ++ rest) := by
    rw [← List.append_assoc, hpost, List.append_assoc, List.append_assoc, List.drop_left]
  have hsome : ∀ prev, (exec (literal l) prev (l ++ (post ++ rest))).isSome = true := by
    intro prev
    have hmatches : Matches (literal l) prev (l.map fun c => [c]) (post ++ rest) :=
      matches_literal.mpr rfl
    have hfound := exec_complete hmatches
    rwa [flatten_map_singleton] at hfound
  have hnone := hlazy pre.length (by omega)
  rw [hdrop] at hnone
  have hfound := hsome (last prev ((body ++ (l ++ rest)).take pre.length))
  rw [hnone] at hfound
  cases hfound

/-! ## Occurrences

Without anchors a pattern is found wherever it occurs, and `search` finds the first occurrence.
-/

/-- The pattern matches the text `x` between `pre` and `rest`. -/
def Occurs (P : Pattern) (pre x rest : List Char) : Prop :=
  ∃ ms, x = ms.flatten ∧ Matches P pre.getLast? ms rest

/-- What `search` finds is matched at the first position where anything is. -/
theorem first_of_search {P : Pattern} {prev : Option Char} {s : List Char} {ms : List (List Char)}
    (h : search P prev s = some ms) : ∃ pre rest, s = pre ++ rest ∧ exec P (last prev pre) rest = some ms ∧
      ∀ pre' rest', s = pre' ++ rest' → pre'.length < pre.length →
        exec P (last prev pre') rest' = none := by
  induction s generalizing prev with
  | nil => exact ⟨[], [], rfl, h, fun pre' rest' _ hlt => absurd hlt (Nat.not_lt_zero _)⟩
  | cons c s ih =>
    unfold search at h
    rcases hexec : exec P prev (c :: s) with _ | ms'
    · rw [hexec, Option.none_or] at h
      obtain ⟨pre, rest, rfl, hmatch, hfirst⟩ := ih h
      refine ⟨c :: pre, rest, rfl, ?_, fun pre' rest' heq hlt => ?_⟩
      · rw [← List.singleton_append, last_append]
        exact hmatch
      · rcases pre' with _ | ⟨d, pre'⟩
        · rw [List.nil_append] at heq
          rw [← heq]
          exact hexec
        · obtain ⟨rfl, hrest⟩ := List.cons.inj heq
          rw [← List.singleton_append, last_append]
          exact hfirst pre' rest' hrest (Nat.lt_of_succ_lt_succ hlt)
    · rw [hexec, Option.some_or, Option.some.injEq] at h
      rw [h] at hexec
      exact ⟨[], c :: s, rfl, hexec, fun pre' rest' _ hlt => absurd hlt (Nat.not_lt_zero _)⟩

/-- What `search` finds is a match somewhere. -/
theorem search_sound {P : Pattern} {prev : Option Char} {s : List Char}
    (h : (search P prev s).isSome = true) :
    ∃ pre ms rest, s = pre ++ (ms.flatten ++ rest) ∧ Matches P (last prev pre) ms rest := by
  induction s generalizing prev with
  | nil =>
    obtain ⟨ms, hms⟩ := Option.isSome_iff_exists.mp h
    obtain ⟨rest, hs, hmatches⟩ := exec_sound hms
    exact ⟨[], ms, rest, hs, hmatches⟩
  | cons c s ih =>
    unfold search at h
    rcases hexec : exec P prev (c :: s) with _ | ms
    · rw [hexec, Option.none_or] at h
      obtain ⟨pre, ms, rest, rfl, hmatches⟩ := ih h
      refine ⟨c :: pre, ms, rest, rfl, ?_⟩
      rw [← List.singleton_append, last_append]
      exact hmatches
    · obtain ⟨rest, hs, hmatches⟩ := exec_sound hexec
      exact ⟨[], ms, rest, hs, hmatches⟩

/-- `search` finds a match if there is one. -/
theorem search_complete {P : Pattern} {prev : Option Char} {pre : List Char} {ms : List (List Char)}
    {rest : List Char} (h : Matches P (last prev pre) ms rest) :
    (search P prev (pre ++ (ms.flatten ++ rest))).isSome = true := by
  induction pre generalizing prev with
  | nil =>
    have hexec : (exec P prev (ms.flatten ++ rest)).isSome = true := exec_complete h
    rw [List.nil_append]
    rcases hs : ms.flatten ++ rest with _ | ⟨c, s⟩
    · rw [hs] at hexec
      exact hexec
    · rw [hs] at hexec
      unfold search
      rw [Option.isSome_or, hexec, Bool.true_or]
  | cons c pre ih =>
    rw [← List.singleton_append, last_append] at h
    have hrest : (search P (some c) (pre ++ (ms.flatten ++ rest))).isSome = true := ih h
    rw [List.cons_append]
    unfold search
    rw [Option.isSome_or, hrest, Bool.or_true]

/-- A pattern is found in a text that has an occurrence. -/
theorem test_iff {P : Pattern} {s : List Char} :
    test P s = true ↔ ∃ pre x rest, s = pre ++ x ++ rest ∧ Occurs P pre x rest := by
  unfold test
  constructor
  · intro h
    obtain ⟨pre, ms, rest, rfl, hmatches⟩ := search_sound h
    refine ⟨pre, ms.flatten, rest, (List.append_assoc ..).symm, ms, rfl, ?_⟩
    rwa [last, Option.or_none] at hmatches
  · rintro ⟨pre, x, rest, rfl, ms, rfl, hmatches⟩
    rw [List.append_assoc]
    refine search_complete ?_
    rwa [last, Option.or_none]

end Js.RegExp
