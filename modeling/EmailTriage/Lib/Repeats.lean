import Mathlib.Data.List.Nodup

/-!
# Repeated entries of a list

A list in which entries may occur again under a key they had before, as messages do that are delivered
more than once. `firsts` keeps the first entry of each key, and `filter_firsts_eq_iff` says when this
does not change which entries pass a test.
-/

namespace Repeats

variable {α κ : Type*} [DecidableEq κ] (key : α → κ)

/-- The entries whose key has not been seen, each key once. -/
def firsts (seen : List κ) : List α → List α
  | [] => []
  | a :: l => if key a ∈ seen then firsts (key a :: seen) l else a :: firsts (key a :: seen) l

/-- An entry of the list whose key was seen, or is that of an earlier entry. -/
def Repeated (seen : List κ) (l : List α) (a : α) : Prop :=
  ∃ before after, l = before ++ a :: after ∧ (key a ∈ seen ∨ key a ∈ before.map key)

variable {key} {seen : List κ}

omit [DecidableEq κ] in
/-- Nothing is repeated in an empty list. -/
theorem not_repeated_nil (a : α) : ¬Repeated key seen [] a := by
  rintro ⟨before, after, h, -⟩
  exact List.append_ne_nil_of_right_ne_nil _ (List.cons_ne_nil a after) h.symm

omit [DecidableEq κ] in
/-- Among the entries of a list with a head, the head is repeated if its key was seen, and the others
if they are behind the head. -/
theorem repeated_cons {a b : α} {l : List α} :
    Repeated key seen (a :: l) b ↔ (b = a ∧ key a ∈ seen) ∨ Repeated key (key a :: seen) l b := by
  constructor
  · rintro ⟨before, after, h, hkey⟩
    rcases before with _ | ⟨c, before⟩
    · obtain ⟨rfl, -⟩ := List.cons.inj h
      exact .inl ⟨rfl, hkey.resolve_right List.not_mem_nil⟩
    · obtain ⟨rfl, rfl⟩ := List.cons.inj h
      refine .inr ⟨before, after, rfl, ?_⟩
      rcases hkey with hseen | hbefore
      · exact .inl (List.mem_cons_of_mem _ hseen)
      · rcases List.mem_cons.mp hbefore with heq | hbefore
        · exact .inl (List.mem_cons.mpr (.inl heq))
        · exact .inr hbefore
  · rintro (⟨rfl, hseen⟩ | ⟨before, after, rfl, hkey⟩)
    · exact ⟨[], l, rfl, .inl hseen⟩
    · refine ⟨a :: before, after, rfl, ?_⟩
      rcases hkey with hseen | hbefore
      · rcases List.mem_cons.mp hseen with heq | hseen
        · exact .inr (List.mem_cons.mpr (.inl heq))
        · exact .inl hseen
      · exact .inr (List.mem_cons_of_mem _ hbefore)

variable (key) in
/-- The first ones are in the order of the list. -/
theorem firsts_sublist (seen : List κ) (l : List α) : (firsts key seen l).Sublist l := by
  induction l generalizing seen with
  | nil => exact List.Sublist.refl []
  | cons a l ih =>
    unfold firsts
    split
    · exact (ih _).cons a
    · exact (ih _).cons_cons a

/-- The entries that are kept have keys that were not seen. -/
theorem key_notMem_of_mem_firsts {a : α} {l : List α} (h : a ∈ firsts key seen l) : key a ∉ seen := by
  induction l generalizing seen with
  | nil => cases h
  | cons b l ih =>
    unfold firsts at h
    split at h
    · exact fun hseen => ih h (List.mem_cons_of_mem _ hseen)
    · next hb =>
      rcases List.mem_cons.mp h with rfl | h
      · exact hb
      · exact fun hseen => ih h (List.mem_cons_of_mem _ hseen)

/-- The entries that are kept have different keys. -/
theorem nodup_map_firsts (seen : List κ) (l : List α) : ((firsts key seen l).map key).Nodup := by
  induction l generalizing seen with
  | nil => exact List.nodup_nil
  | cons a l ih =>
    unfold firsts
    split
    · exact ih _
    · rw [List.map_cons, List.nodup_cons]
      refine ⟨fun hmem => ?_, ih _⟩
      obtain ⟨b, hb, hkey⟩ := List.mem_map.mp hmem
      exact key_notMem_of_mem_firsts hb (hkey ▸ List.mem_cons_self)

/-- The entries that are kept are all that pass a test exactly if no repeated entry passes it. -/
theorem filter_firsts_eq_iff (p : α → Bool) (seen : List κ) (l : List α) :
    (firsts key seen l).filter p = l.filter p ↔ ∀ a, Repeated key seen l a → p a = false := by
  induction l generalizing seen with
  | nil => exact iff_of_true rfl fun a h => absurd h (not_repeated_nil a)
  | cons a l ih =>
    -- the head is repeated if its key was seen, and the others are as they are behind it
    have hcons : (∀ b, Repeated key seen (a :: l) b → p b = false) ↔
        (key a ∈ seen → p a = false) ∧ ∀ b, Repeated key (key a :: seen) l b → p b = false := by
      constructor
      · intro h
        exact ⟨fun hseen => h a (repeated_cons.mpr (.inl ⟨rfl, hseen⟩)),
          fun b hb => h b (repeated_cons.mpr (.inr hb))⟩
      · rintro ⟨ha, hl⟩ b hb
        rcases repeated_cons.mp hb with ⟨rfl, hseen⟩ | hb
        · exact ha hseen
        · exact hl b hb
    rw [hcons, ← ih]
    by_cases hseen : key a ∈ seen
    · rw [firsts, if_pos hseen, List.filter_cons]
      by_cases hp : p a = true
      · -- the head passes and is dropped, so an entry is missing
        rw [if_pos hp]
        refine iff_of_false (fun h => ?_) fun h => ?_
        · have hle := ((firsts_sublist key (key a :: seen) l).filter p).length_le
          rw [h, List.length_cons] at hle
          omega
        · rw [h.1 hseen] at hp
          cases hp
      · -- what fails the test is in neither list
        rw [if_neg hp]
        exact (and_iff_right fun _ => Bool.eq_false_iff.mpr hp).symm
    · rw [firsts, if_neg hseen, List.filter_cons, List.filter_cons]
      by_cases hp : p a = true
      · rw [if_pos hp, if_pos hp, List.cons_inj_right]
        exact (and_iff_right fun h => absurd h hseen).symm
      · rw [if_neg hp, if_neg hp]
        exact (and_iff_right fun h => absurd h hseen).symm

end Repeats
