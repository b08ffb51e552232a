import Mathlib.Data.Nat.Notation

/-!
# JavaScript strings

JavaScript counts UTF-16 code units. A string is any list of them, and different texts are different
strings (`utf16_inj`). `String.substring` with a limit keeps the longest prefix of whole characters
that fits: a character outside the basic plane that straddles the limit is dropped, where JavaScript
would keep half of it, which is not text.
-/

namespace Js

/-- The number of UTF-16 code units of a character. -/
def charUnits (c : Char) : ℕ := if c.toNat ≤ 0xffff then 1 else 2

/-- The number of UTF-16 code units of a text. -/
def utf16Units : List Char → ℕ
  | [] => 0
  | c :: cs => charUnits c + utf16Units cs

/-- The UTF-16 code units of a text, as `charCodeAt` reads them. -/
def codeUnits (cs : List Char) : List ℕ :=
  cs.flatMap fun c =>
    if c.toNat ≤ 0xffff then [c.toNat]
    else [0xd800 + (c.toNat - 0x10000) / 0x400, 0xdc00 + (c.toNat - 0x10000) % 0x400]

/-- The UTF-16 code units of a character. -/
def unitsOf (c : Char) : List ℕ :=
  if c.toNat ≤ 0xffff then [c.toNat]
  else [0xd800 + (c.toNat - 0x10000) / 0x400, 0xdc00 + (c.toNat - 0x10000) % 0x400]

/-- No character is one half of a surrogate pair. -/
theorem toNat_valid (c : Char) : c.toNat < 0xd800 ∨ 0xdfff < c.toNat ∧ c.toNat < 0x110000 := c.valid

/-- A character has one code unit at least. -/
theorem unitsOf_ne_nil (c : Char) : unitsOf c ≠ [] := by
  unfold unitsOf
  split
  · exact List.cons_ne_nil _ _
  · exact List.cons_ne_nil _ _

/-- A code unit has sixteen bits. -/
theorem unitsOf_lt {c : Char} {u : ℕ} (hu : u ∈ unitsOf c) : u < 65536 := by
  have hc := toNat_valid c
  unfold unitsOf at hu
  split at hu
  · have hu := List.mem_singleton.mp hu
    omega
  · rcases List.mem_cons.mp hu with hu | hu
    · omega
    · have hu := List.mem_singleton.mp hu
      omega

/-- The first units of a text say what its first character is. -/
theorem unitsOf_append_inj {c d : Char} {us vs : List ℕ} (h : unitsOf c ++ us = unitsOf d ++ vs) :
    c = d ∧ us = vs := by
  have hc := toNat_valid c
  have hd := toNat_valid d
  have hcd : c.toNat = d.toNat ∧ us = vs := by
    unfold unitsOf at h
    split at h <;> split at h <;> simp only [List.cons_append, List.nil_append, List.cons.injEq] at h
    · exact h
    · omega
    · omega
    · exact ⟨by omega, h.2.2⟩
  exact ⟨Char.toNat_inj.mp hcd.1, hcd.2⟩

/-- Texts with the same code units are the same. -/
theorem codeUnits_inj {cs ds : List Char} (h : codeUnits cs = codeUnits ds) : cs = ds := by
  induction cs generalizing ds with
  | nil =>
    cases ds with
    | nil => rfl
    | cons d ds => exact absurd (List.append_eq_nil_iff.mp h.symm).1 (unitsOf_ne_nil d)
  | cons c cs ih =>
    cases ds with
    | nil => exact absurd (List.append_eq_nil_iff.mp h).1 (unitsOf_ne_nil c)
    | cons d ds =>
      obtain ⟨rfl, hrest⟩ := unitsOf_append_inj h
      rw [ih hrest]

/-- A string as JavaScript has it. Not every list of code units is a text. -/
abbrev Utf16 := List UInt16

/-- The string of a text. -/
def utf16 (s : String) : Utf16 := (codeUnits s.toList).map UInt16.ofNat

/-- The code units of a text, as numbers. -/
theorem map_toNat_utf16 (s : String) : (utf16 s).map UInt16.toNat = codeUnits s.toList := by
  have hkeep : ∀ u ∈ codeUnits s.toList, (UInt16.toNat ∘ UInt16.ofNat) u = id u := by
    intro u hu
    obtain ⟨c, -, hc⟩ := List.mem_flatMap.mp hu
    exact UInt16.toNat_ofNat_of_lt' (unitsOf_lt hc)
  rw [utf16, List.map_map, List.map_congr_left hkeep, List.map_id]

/-- A text is read off its code units. -/
theorem utf16_inj {s t : String} (h : utf16 s = utf16 t) : s = t := by
  have hunits := congrArg (List.map UInt16.toNat) h
  rw [map_toNat_utf16, map_toNat_utf16] at hunits
  exact String.toList_inj.mp (codeUnits_inj hunits)

/-- The first separator ends the first part. -/
theorem append_separator_inj {α : Type} [DecidableEq α] {a : α} {x y u v : List α} (hx : a ∉ x) (hy : a ∉ y)
    (h : x ++ a :: u = y ++ a :: v) : x = y ∧ u = v := by
  have hfirst : ∀ {z w : List α}, a ∉ z → (z ++ a :: w).takeWhile (fun b => b ≠ a) = z := by
    intro z w hz
    have hpart : ∀ b ∈ z, decide (b ≠ a) = true := by
      intro b hb
      refine decide_eq_true ?_
      rintro rfl
      exact hz hb
    rw [List.takeWhile_append_of_pos hpart, List.takeWhile_cons_of_neg (by simp), List.append_nil]
  have hxy : x = y := by
    rw [← hfirst hx, h, hfirst hy]
  subst hxy
  exact ⟨rfl, (List.cons.inj (List.append_cancel_left h)).2⟩

/-- The first part of a text split at a character is what is before that character. -/
theorem headD_splitOn (separator : Char) (cs : List Char) :
    (cs.splitOn separator).headD [] = cs.takeWhile (· ≠ separator) := by
  induction cs with
  | nil => rfl
  | cons c cs ih =>
    rw [List.splitOn_cons_eq_if_modifyHead, List.takeWhile_cons]
    by_cases hc : c = separator
    · rw [if_pos (beq_iff_eq.mpr hc), if_neg (by simpa using hc)]
      rfl
    · obtain ⟨part, parts, hparts⟩ := List.exists_cons_of_ne_nil (List.splitOn_ne_nil separator cs)
      rw [hparts] at ih
      rw [if_neg (by simpa using hc), if_pos (decide_eq_true hc), hparts, ← ih]
      rfl

/-- The longest prefix with at most `limit` code units. -/
def takeUnits : (limit : ℕ) → List Char → List Char
  | _, [] => []
  | limit, c :: cs =>
    if charUnits c ≤ limit then c :: takeUnits (limit - charUnits c) cs else []

/-- No more code units are taken than asked for. -/
theorem utf16Units_takeUnits_le (limit : ℕ) (cs : List Char) :
    utf16Units (takeUnits limit cs) ≤ limit := by
  induction cs generalizing limit with
  | nil => exact Nat.zero_le limit
  | cons c cs ih =>
    rw [takeUnits]
    split
    · next hc =>
      have h := ih (limit - charUnits c)
      unfold utf16Units
      omega
    · exact Nat.zero_le limit

/-- A text that fits is kept whole. -/
theorem takeUnits_of_le {limit : ℕ} {cs : List Char} (h : utf16Units cs ≤ limit) :
    takeUnits limit cs = cs := by
  induction cs generalizing limit with
  | nil => rfl
  | cons c cs ih =>
    unfold utf16Units at h
    have hc : charUnits c ≤ limit := by omega
    have hcs : utf16Units cs ≤ limit - charUnits c := by omega
    rw [takeUnits, if_pos hc, ih hcs]

/-- `s.substring(0, limit)`. -/
def substring (s : String) (limit : ℕ) : String := String.ofList (takeUnits limit s.toList)

/-- `s.length`. -/
def stringLength (s : String) : ℕ := utf16Units s.toList

/-- The beginning of a text is as long as asked for, at most. -/
theorem stringLength_substring_le (s : String) (limit : ℕ) :
    stringLength (substring s limit) ≤ limit := by
  simpa [stringLength, substring] using utf16Units_takeUnits_le limit s.toList

/-- A text that is short enough is all of its beginning. -/
theorem substring_of_le {s : String} {limit : ℕ} (h : stringLength s ≤ limit) :
    substring s limit = s := by
  rw [substring, takeUnits_of_le h, String.ofList_toList]

end Js
