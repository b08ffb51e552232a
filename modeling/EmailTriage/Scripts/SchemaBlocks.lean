import EmailTriage.Scripts.CheckRlsPolicies

/-!
# The blocks of a schema

What the check takes for the models of a schema, said without an algorithm: a block begins at the first
`model Name {`, wherever it stands, and ends at the first line after it that begins with a closing brace.
`mem_tenantScopedTables_iff` says that the check finds the tables of these blocks.

Blocks are unique: a text begins with at most one block, and the next one begins after it
(`Block.text_unique`, `close_unique`). So the declarative description determines the list of blocks,
and the loop of the check finds that list (`matchAll_blocks`), whatever stands between them.
-/

namespace EmailTriage.CheckRlsPolicies

open Js RegExp

/-- A brace at the beginning of a line. -/
def close : Text := ['\n', '\x7d']

structure Block where
  space : Text
  name : Text
  gap : Text
  body : Text
  space_ne_nil : space ≠ []
  isSpace_space : ∀ c ∈ space, isSpace c = true
  name_ne_nil : name ≠ []
  isWord_name : ∀ c ∈ name, isWord c = true
  isSpace_gap : ∀ c ∈ gap, isSpace c = true
  /-- The body ends at the first closing brace. -/
  body_first : ∀ pre post, body ++ close = pre ++ close ++ post → post = []

namespace Block

def head (b : Block) : Text := "model".toList ++ (b.space ++ (b.name ++ (b.gap ++ ['\x7b'])))

def text (b : Block) : Text := b.head ++ (b.body ++ close)

/-- The check reads the block as a table with a tenant id. -/
def IsTenantScoped (b : Block) : Prop := test tenantIdPattern b.body = true

def table (b : Block) : Text := tableName b.name b.body

end Block

/-- The blocks of a text, from its beginning. -/
inductive Blocks : Text → List Block → Prop
  | done (s : Text) (hnone : ∀ pre (b : Block) post, s ≠ pre ++ (b.text ++ post)) : Blocks s []
  | next (pre : Text) (b : Block) (s : Text) (bs : List Block)
      (hfirst : ∀ pre' (b' : Block) post', pre ++ (b.text ++ s) = pre' ++ (b'.text ++ post') →
        pre.length ≤ pre'.length)
      (h : Blocks s bs) : Blocks (pre ++ (b.text ++ s)) (b :: bs)

/-! ## A block is where it is

A text that begins with a block determines the block.
-/

/-- The first closing brace is in one place. -/
theorem close_unique {x x' s s' : Text} (hx : ∀ pre post, x ++ close = pre ++ close ++ post → post = [])
    (hx' : ∀ pre post, x' ++ close = pre ++ close ++ post → post = [])
    (h : x ++ (close ++ s) = x' ++ (close ++ s')) : x = x' ∧ s = s' := first_unique hx hx' h

/-- After the space of a block comes no space, and after its name no word character. -/
theorem Block.head_name (b : Block) (s : Text) : ∀ c ∈ (b.name ++ s).head?, isSpace c = false := by
  obtain ⟨c, name, hname⟩ := List.exists_cons_of_ne_nil b.name_ne_nil
  rw [hname]
  rintro _ ⟨⟩
  exact isSpace_eq_false_of_isWord (b.isWord_name c (by rw [hname]; exact List.mem_cons_self))

/-- What comes after the name of a block does not go on with it. -/
theorem Block.head_gap (b : Block) (s : Text) : ∀ c ∈ (b.gap ++ '\x7b' :: s).head?, isWord c = false := by
  rcases hgap : b.gap with _ | ⟨c, gap⟩
  · rintro _ ⟨⟩
    rfl
  · rintro _ ⟨⟩
    by_contra hword
    have hnospace := isSpace_eq_false_of_isWord ((Bool.not_eq_false _).mp hword)
    rw [b.isSpace_gap c (by rw [hgap]; exact List.mem_cons_self)] at hnospace
    cases hnospace

/-- The parts of the text of a block, before any text behind it. -/
theorem Block.text_append (b : Block) (s : Text) : b.text ++ s =
    "model".toList ++ (b.space ++ (b.name ++ (b.gap ++ '\x7b' :: (b.body ++ (close ++ s))))) := by
  unfold text head
  simp only [List.append_assoc, List.cons_append, List.nil_append]

/-- A text begins with one block at most. -/
theorem Block.text_unique {b b' : Block} {s s' : Text} (h : b.text ++ s = b'.text ++ s') :
    b = b' ∧ s = s' := by
  rw [text_append, text_append] at h
  obtain ⟨hspace, h⟩ := run_unique b.isSpace_space b'.isSpace_space (b.head_name _) (b'.head_name _)
    (List.append_cancel_left h)
  obtain ⟨hname, h⟩ := run_unique b.isWord_name b'.isWord_name (b.head_gap _) (b'.head_gap _) h
  obtain ⟨hgap, h⟩ := run_unique b.isSpace_gap b'.isSpace_gap (by rintro _ ⟨⟩; decide)
    (by rintro _ ⟨⟩; decide) h
  obtain ⟨hbody, hs⟩ := close_unique b.body_first b'.body_first (List.cons.inj h).2
  obtain ⟨⟩ := b
  obtain ⟨⟩ := b'
  dsimp only at hspace hname hgap hbody
  subst hspace hname hgap hbody
  exact ⟨rfl, hs⟩

/-! ## The loop finds the blocks

The loop over the pattern finds the blocks of the schema, so the tables can be read off the division of
the text.
-/

/-- The part of the pattern before the body. -/
def headPattern : Pattern :=
  literal "model".toList ++ (.plus isSpace :: .plus isWord :: .star isSpace :: literal ['\x7b'])

/-- What the loop makes of a block. -/
def Block.groups (b : Block) : List Text :=
  "model".toList.map (fun c => [c]) ++
    ([b.space, b.name, b.gap] ++ ([['\x7b']] ++ (b.body :: close.map fun c => [c])))

/-- The groups of a block are its text. -/
theorem Block.flatten_groups (b : Block) : b.groups.flatten = b.text := by
  unfold groups text head
  simp only [List.flatten_append, List.flatten_cons, List.flatten_nil, flatten_map_singleton,
    List.append_assoc, List.append_nil]

/-- A brace further up would end the lazy run there. -/
theorem close_first {prev : Option Char} {body rest : Text}
    (hlazy : ∀ n < body.length, exec (literal close) (last prev ((body ++ (close ++ rest)).take n))
      ((body ++ (close ++ rest)).drop n) = none) :
    ∀ pre post, body ++ close = pre ++ close ++ post → post = [] := first_of_lazy hlazy

/-- Where the pattern matches, there is a block. -/
theorem exists_block_of_exec {prev : Option Char} {s : Text} {ms : List Text}
    (h : exec modelBlockPattern prev s = some ms) :
    ∃ (b : Block) (rest : Text), s = b.text ++ rest ∧ ms = b.groups := by
  have hparts : modelBlockPattern = headPattern ++ (.lazyStar (fun _ => true) :: literal close) := rfl
  rw [hparts] at h
  obtain ⟨ms₁, ms₂, s', rfl, rfl, hhead, h⟩ := exec_append h
  obtain ⟨body, ms', s'', rfl, rfl, hclose, hlazy⟩ := exec_lazyStar h
  obtain ⟨rest, rfl, hms'⟩ := exec_sound hclose
  obtain rfl := matches_literal.mp hms'
  obtain ⟨model, ms₁, rfl, hmodel, hrest⟩ := matches_append.mp hhead
  obtain rfl := matches_literal.mp hmodel
  obtain ⟨space, _, rfl, ⟨hspace, hspaces⟩, hrest⟩ := hrest
  obtain ⟨name, _, rfl, ⟨hname, hword⟩, gap, _, rfl, hgap, hbrace⟩ := hrest
  obtain rfl := matches_literal.mp hbrace
  have hfirst := close_first hlazy
  refine ⟨⟨space, name, gap, body, hspace, hspaces, hname, hword, hgap, hfirst⟩, rest, ?_, ?_⟩
  · rw [Block.text_append]
    simp only [List.flatten_append, List.flatten_cons, flatten_map_singleton, List.append_assoc,
      List.singleton_append]
  · exact List.append_assoc ..

/-- Where there is a block, the pattern matches it. -/
theorem exec_block (prev : Option Char) (b : Block) (rest : Text) :
    exec modelBlockPattern prev (b.text ++ rest) = some b.groups := by
  have hclose : Matches (literal ['\x7b'] ++ (.lazyStar (fun _ => true) :: literal close))
      (last (last (last (last prev "model".toList) b.space) b.name) b.gap)
      ([['\x7b']] ++ (b.body :: close.map fun c => [c])) rest :=
    matches_append.mpr ⟨_, _, rfl, matches_literal.mpr rfl, _, _, rfl, fun _ _ => rfl,
      matches_literal.mpr rfl⟩
  have hmatches : Matches modelBlockPattern prev b.groups rest :=
    matches_append.mpr ⟨_, _, rfl, matches_literal.mpr rfl, _, _, rfl, ⟨b.space_ne_nil, b.isSpace_space⟩,
      _, _, rfl, ⟨b.name_ne_nil, b.isWord_name⟩, _, _, rfl, b.isSpace_gap, hclose⟩
  have hsome := exec_complete hmatches
  rw [b.flatten_groups] at hsome
  obtain ⟨ms, hms⟩ := Option.isSome_iff_exists.mp hsome
  obtain ⟨b', rest', htext, rfl⟩ := exists_block_of_exec hms
  rw [hms, (Block.text_unique htext).1]

/-- A block is not empty. -/
theorem Block.text_ne_nil (b : Block) : b.text ≠ [] := by
  intro h
  have hspace := (List.append_eq_nil_iff.mp (List.append_eq_nil_iff.mp h).1).2
  exact b.space_ne_nil (List.append_eq_nil_iff.mp hspace).1

/-- There is no block in an empty text. -/
theorem blocks_nil_iff {bs : List Block} : Blocks [] bs ↔ bs = [] := by
  constructor
  · intro h
    generalize hs : ([] : Text) = s at h
    cases h with
    | done => rfl
    | next pre b s bs hfirst h =>
      have htext := (List.append_eq_nil_iff.mp (List.append_eq_nil_iff.mp hs.symm).2).1
      exact absurd htext b.text_ne_nil
  · rintro rfl
    refine .done [] fun pre b post h => ?_
    have htext := (List.append_eq_nil_iff.mp (List.append_eq_nil_iff.mp h.symm).2).1
    exact b.text_ne_nil htext

/-- A text that begins with a block has it for its first one. -/
theorem blocks_text_iff {b : Block} {s : Text} {bs : List Block} :
    Blocks (b.text ++ s) bs ↔ ∃ bs', bs = b :: bs' ∧ Blocks s bs' := by
  constructor
  · intro h
    generalize hs : b.text ++ s = s' at h
    cases h with
    | done _ hnone => exact absurd hs.symm (hnone [] b s)
    | next pre b' s' bs hfirst h =>
      have hpre := hfirst [] b s hs.symm
      obtain rfl := List.length_eq_zero_iff.mp (Nat.le_zero.mp hpre)
      obtain ⟨rfl, rfl⟩ := Block.text_unique hs
      exact ⟨bs, rfl, h⟩
  · rintro ⟨bs', rfl, h⟩
    exact .next [] b s bs' (fun _ _ _ _ => Nat.zero_le _) h

/-- A character at which no block begins does not count. -/
theorem blocks_cons_iff {c : Char} {s : Text} {bs : List Block}
    (hnone : ∀ (b : Block) post, c :: s ≠ b.text ++ post) : Blocks (c :: s) bs ↔ Blocks s bs := by
  constructor
  · intro h
    generalize hs : c :: s = s' at h
    cases h with
    | done _ hnone' =>
      refine .done s fun pre b post h => hnone' (c :: pre) b post ?_
      rw [← hs, h, List.cons_append]
    | next pre b s' bs hfirst h =>
      rcases pre with _ | ⟨d, pre⟩
      · exact absurd hs (hnone b s')
      · obtain ⟨rfl, rfl⟩ := List.cons.inj hs
        refine .next pre b s' bs (fun pre' b' post' heq => ?_) h
        have hle := hfirst (c :: pre') b' post' (by rw [List.cons_append, List.cons_append, heq])
        exact Nat.le_of_succ_le_succ hle
  · intro h
    cases h with
    | done _ hnone' =>
      refine .done _ fun pre b post heq => ?_
      rcases pre with _ | ⟨d, pre⟩
      · exact hnone b post heq
      · exact hnone' pre b post (List.cons.inj heq).2
    | next pre b s' bs hfirst h =>
      refine .next (c :: pre) b s' bs (fun pre' b' post' heq => ?_) h
      rcases pre' with _ | ⟨d, pre'⟩
      · exact absurd heq (hnone b' post')
      · exact Nat.succ_le_succ (hfirst pre' b' post' (List.cons.inj heq).2)

/-- The loop finds the blocks, and there is one way only to divide a text into them. -/
theorem matchAll_blocks (fuel : ℕ) (prev : Option Char) (s : Text) (hfuel : s.length < fuel) :
    ∃ bs, matchAll modelBlockPattern fuel prev s = bs.map Block.groups ∧
      ∀ bs', Blocks s bs' ↔ bs' = bs := by
  induction fuel generalizing prev s with
  | zero => cases hfuel
  | succ fuel ih =>
    unfold matchAll
    rcases hexec : exec modelBlockPattern prev s with _ | ms
    · have hnone : ∀ (b : Block) post, s ≠ b.text ++ post := by
        rintro b post rfl
        rw [exec_block] at hexec
        cases hexec
      rcases s with _ | ⟨c, s⟩
      · exact ⟨[], rfl, fun _ => blocks_nil_iff⟩
      · obtain ⟨bs, hbs, hunique⟩ := ih (some c) s (Nat.lt_of_succ_lt_succ hfuel)
        exact ⟨bs, hbs, fun bs' => (blocks_cons_iff hnone).trans (hunique bs')⟩
    · obtain ⟨b, rest, rfl, rfl⟩ := exists_block_of_exec hexec
      dsimp only
      rw [b.flatten_groups, List.drop_left]
      have hpositive := List.length_pos_iff.mpr b.text_ne_nil
      rw [List.length_append] at hfuel
      obtain ⟨bs, hbs, hunique⟩ := ih (last prev b.text) rest (by omega)
      refine ⟨b :: bs, by rw [hbs, List.map_cons], fun bs' => ?_⟩
      rw [blocks_text_iff]
      constructor
      · rintro ⟨bs'', rfl, h⟩
        rw [(hunique bs'').mp h]
      · rintro rfl
        exact ⟨bs, rfl, (hunique bs).mpr rfl⟩

/-- The check finds a table exactly if a block that has the word `tenant_id` in it names the table. -/
theorem mem_tenantScopedTables_iff {schema table : Text} : table ∈ tenantScopedTables schema ↔
    ∃ bs, Blocks schema bs ∧ ∃ b ∈ bs, b.IsTenantScoped ∧ b.table = table := by
  obtain ⟨bs, hbs, hunique⟩ := matchAll_blocks (schema.length + 1) none schema (Nat.lt_succ_self _)
  have hblock : ∀ b : Block, modelBlock b.groups = (b.name, b.body) := fun b => rfl
  unfold tenantScopedTables
  rw [hbs]
  simp only [List.mem_eraseDups, List.mem_map, List.mem_filter, List.map_map, Function.comp_apply, hblock]
  constructor
  · rintro ⟨_, ⟨⟨b, hb, rfl⟩, htenant⟩, rfl⟩
    exact ⟨bs, (hunique bs).mpr rfl, b, hb, htenant, rfl⟩
  · rintro ⟨bs', hbs', b, hb, htenant, rfl⟩
    obtain rfl := (hunique bs').mp hbs'
    exact ⟨_, ⟨⟨b, hb, rfl⟩, htenant⟩, rfl⟩

end EmailTriage.CheckRlsPolicies
