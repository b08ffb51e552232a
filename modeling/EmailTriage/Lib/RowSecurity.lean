import EmailTriage.Lib.OwnedRows

/-!
# Statements under row level security

A policy says which rows a statement sees and which rows it may leave behind. Under the policy of one
owner a statement runs on the rows of that owner as if there were no others (`exec_owned`) and leaves
the others alone (`owned_exec_of_ne`). Constraints are the exception, since they hold over all rows,
seen or not: `Attributed` says that the primary keys tell the owners apart, `Unshared` that no other
column of a unique constraint is shared, and `RefersTo` that the foreign keys of what is inserted are
for primary keys of the owner.
-/

namespace Db

/-- The primary key of a row, the pairs of rows that a constraint keeps apart, and for each foreign key
of a row that is not null the rows it is for. -/
class Constrained (Row : Type) (Id : outParam Type) where
  id : Row → Id
  clash : Row → Row → Bool
  foreignKeys : Row → List (Row → Bool)

variable {Row Id : Type} [Constrained Row Id]

/-- A row but for its primary key. -/
structure Draft (Row : Type) {Id : Type} [Constrained Row Id] where
  make : Id → Row
  id_make : ∀ i, Constrained.id (make i) = i

/-- An update that leaves the columns of the constraints alone. -/
structure Edit (Row : Type) {Id : Type} [Constrained Row Id] where
  apply : Row → Row
  id_apply : ∀ r, Constrained.id (apply r) = Constrained.id r
  clash_apply : ∀ r r', Constrained.clash (apply r) r' = Constrained.clash r r'
  foreignKeys_apply : ∀ r, Constrained.foreignKeys (apply r) = Constrained.foreignKeys r

/-- A statement; its condition holds of one row at most. -/
inductive Statement (Row : Type) {Id : Type} [Constrained Row Id] where
  | findUnique (p : Row → Bool)
  | update (p : Row → Bool) (f : Edit Row)
  | create (d : Draft Row)
  | upsert (p : Row → Bool) (f : Edit Row) (d : Draft Row)

namespace Statement

/-- Edit the rows that the policy shows. To find none is an error, and so is an edit that the policy
does not allow. -/
def edit (policy p : Row → Bool) (f : Edit Row) (t : List Row) : Option (Option Row × List Row) :=
  match (t.filter policy).find? p with
  | none => none
  | some r =>
    if (t.filter policy).all fun r => !p r || policy (f.apply r) then
      some (some (f.apply r), t.map fun r => if policy r && p r then f.apply r else r)
    else none

/-- The rows that a row refers to are there, whether a policy shows them or not. -/
def referenced (r : Row) (t : List Row) : Bool := (Constrained.foreignKeys r).all t.any

/-- A row without foreign keys, or with none that is not null, can always be inserted as far as these
go. -/
theorem referenced_of_foreignKeys_eq_nil {r : Row} (h : Constrained.foreignKeys r = []) {t : List Row} :
    referenced r t = true := by
  unfold referenced
  rw [h, List.all_nil]

/-- Insert a row. One that the policy does not allow is an error, and so is one that a constraint
forbids. -/
def insert (policy : Row → Bool) (r : Row) (t : List Row) : Option (Option Row × List Row) :=
  if policy r && t.all (fun r' => !Constrained.clash r r') && referenced r t then
    some (some r, t ++ [r])
  else none

/-- The row that a statement answers with and the rows after it, where the database draws the primary key
`i`. -/
def exec (policy : Row → Bool) (i : Id) (t : List Row) :
    Statement Row → Option (Option Row × List Row)
  | findUnique p => some ((t.filter policy).find? p, t)
  | update p f => edit policy p f t
  | create d => insert policy (d.make i) t
  | upsert p f d =>
    if (t.filter policy).any p then edit policy p f t else insert policy (d.make i) t

/-- What a statement inserts refers to rows with primary keys of a kind only. -/
def RefersTo (P : Id → Prop) : Statement Row → Prop
  | findUnique _ | update _ _ => True
  | create d | upsert _ _ d => ∀ i, ∀ p ∈ Constrained.foreignKeys (d.make i), ∀ r, p r = true →
    P (Constrained.id r)

end Statement

/-- The statements of a transaction, each of which may depend on what the ones before it answered. -/
inductive Program (Row α : Type) {Id : Type} [Constrained Row Id] where
  | ret (a : α)
  | exec (s : Statement Row) (next : Option Row → Program Row α)

/-- All statements of a transaction refer to rows with primary keys of a kind only. -/
def Program.RefersTo {α : Type} (P : Id → Prop) : Program Row α → Prop
  | .ret _ => True
  | .exec s next => s.RefersTo P ∧ ∀ a, (next a).RefersTo P

/-- A statement that was executed, with the policy it met and the primary key it drew. -/
structure Executed (Row : Type) {Id : Type} [Constrained Row Id] where
  policy : Row → Bool
  statement : Statement Row
  id : Id

/-- Execute statements one after the other. -/
def replay (es : List (Executed Row)) (t : List Row) : Option (List Row) :=
  es.foldlM (fun t e => (e.statement.exec e.policy e.id t).map Prod.snd) t

/-! ## The rows of an owner

The policy of an owner lets it see and write its own rows. No row belongs to two owners, by its id or
by its key.
-/

variable {Owner : Type} [DecidableEq Owner] [HasOwner Row Owner] {a b : Owner} {t t₁ : List Row} {i : Id}

/-- The policy that shows the rows of an owner. -/
def ofOwner (a : Owner) (r : Row) : Bool := owner r = a

def owned (a : Owner) (t : List Row) : List Row := t.filter (ofOwner a)

/-- The primary keys tell the owners apart. -/
def Attributed (whose : Id → Owner) (t : List Row) : Prop := ∀ r ∈ t, whose (Constrained.id r) = owner r

/-- Rows of two owners are kept apart by their primary keys only. -/
class Unshared (Row : Type) {Id Owner : outParam Type} [Constrained Row Id] [HasOwner Row Owner] : Prop where
  of_clash : ∀ r r' : Row, Constrained.clash r r' = true →
    owner r = owner r' ∨ Constrained.id r = Constrained.id r'

omit [Constrained Row Id] in
/-- The rows of an owner are those that have it. -/
theorem mem_owned {r : Row} : r ∈ owned a t ↔ r ∈ t ∧ owner r = a := by
  unfold owned ofOwner
  rw [List.mem_filter, decide_eq_true_eq]

omit [Constrained Row Id] in
/-- The rows of an owner in two tables, one after the other. -/
theorem owned_append (t t' : List Row) : owned a (t ++ t') = owned a t ++ owned a t' :=
  List.filter_append t t'

omit [Constrained Row Id] in
/-- Taking an owner's rows twice is taking them once. -/
theorem owned_owned (t : List Row) : owned a (owned a t) = owned a t := by
  unfold owned
  rw [List.filter_filter]
  refine List.filter_congr fun r _ => ?_
  rw [Bool.and_self]

omit [Constrained Row Id] in
/-- A map of the rows of an owner that keeps the owner. -/
theorem owned_map {p : Row → Bool} {f : Row → Row} (hf : ∀ r ∈ owned a t, p r = true → owner (f r) = a)
    (b : Owner) :
    owned b (t.map fun r => if ofOwner a r && p r then f r else r) =
      (owned b t).map fun r => if ofOwner a r && p r then f r else r := by
  induction t with
  | nil => rfl
  | cons r t ih =>
    have htail := ih fun r' hr' =>
      hf r' (mem_owned.mpr ⟨List.mem_cons_of_mem r (mem_owned.mp hr').1, (mem_owned.mp hr').2⟩)
    have howner : owner (if ofOwner a r && p r then f r else r) = owner r := by
      split
      · next h =>
        obtain ⟨hr, hp⟩ := Bool.and_eq_true_iff.mp h
        have hra : owner r = a := of_decide_eq_true hr
        rw [hf r (mem_owned.mpr ⟨List.mem_cons_self, hra⟩) hp, hra]
      · rfl
    unfold owned at htail ⊢
    rw [List.map_cons, List.filter_cons, List.filter_cons, htail]
    have hsame : ofOwner b (if ofOwner a r && p r then f r else r) = ofOwner b r := by
      unfold ofOwner at howner ⊢
      rw [howner]
    rw [hsame]
    split
    · rw [List.map_cons]
    · rfl

/-! ## Statements of an owner

A statement under the policy of an owner changes none of the others' rows, and does to the whole table
what it does to the owner's rows alone; the constraints that are checked without the policy are the
reason why ids, keys and references have to be kept apart.
-/

namespace Statement

omit [DecidableEq Owner] in
/-- A new row has an id of its owner. -/
theorem attributed_append {whose : Id → Owner} (ht : Attributed whose t) {r : Row}
    (hr : whose (Constrained.id r) = owner r) : Attributed whose (t ++ [r]) := by
  intro r' hr'
  rcases List.mem_append.mp hr' with hr' | hr'
  · exact ht r' hr'
  · rw [List.mem_singleton.mp hr']
    exact hr

section Edit

variable {p : Row → Bool} {f : Edit Row} {answer : Option Row}

/-- An edit of rows of an owner keeps them with that owner. -/
theorem of_edit (h : edit (ofOwner a) p f t = some (answer, t₁)) :
    (∀ r ∈ owned a t, p r = true → owner (f.apply r) = a) ∧
      t₁ = t.map fun r => if ofOwner a r && p r then f.apply r else r := by
  unfold edit at h
  split at h
  · cases h
  · split at h
    · next hall =>
      obtain ⟨-, rfl⟩ := Prod.mk.inj (Option.some.inj h)
      refine ⟨fun r hr hp => ?_, rfl⟩
      have hallowed := List.all_eq_true.mp hall r hr
      rw [hp] at hallowed
      exact of_decide_eq_true hallowed
    · cases h

/-- Editing the rows of an owner leaves those of another one. -/
theorem owned_edit_of_ne (h : edit (ofOwner a) p f t = some (answer, t₁)) (hb : b ≠ a) :
    owned b t₁ = owned b t := by
  obtain ⟨hkeeps, rfl⟩ := of_edit h
  rw [owned_map hkeeps]
  refine (List.map_congr_left fun r hr => ?_).trans (List.map_id _)
  have hne : ofOwner a r = false := decide_eq_false fun hra => hb ((mem_owned.mp hr).2.symm.trans hra)
  rw [hne, Bool.false_and, if_neg Bool.false_ne_true]
  rfl

/-- An edit under the policy of an owner does with the rows of the owner what it does with these alone. -/
theorem edit_owned (p : Row → Bool) (f : Edit Row) (t : List Row) :
    (edit (ofOwner a) p f t).map (Prod.map id (owned a)) = edit (ofOwner a) p f (owned a t) := by
  have hagain : (owned a t).filter (ofOwner a) = t.filter (ofOwner a) := owned_owned t
  unfold edit
  rw [hagain]
  split
  · rfl
  · split
    · next hall =>
      have hkeeps : ∀ r ∈ owned a t, p r = true → owner (f.apply r) = a := by
        intro r hr hp
        have hallowed := List.all_eq_true.mp hall r hr
        rw [hp] at hallowed
        exact of_decide_eq_true hallowed
      rw [Option.map_some, Prod.map_apply, owned_map hkeeps]
      rfl
    · rfl

/-- An edited row keeps its id and its owner. -/
theorem attributed_edit {whose : Id → Owner} (ht : Attributed whose t)
    (h : edit (ofOwner a) p f t = some (answer, t₁)) : Attributed whose t₁ := by
  obtain ⟨hkeeps, rfl⟩ := of_edit h
  intro r hr
  obtain ⟨r₀, hr₀, rfl⟩ := List.mem_map.mp hr
  split
  · next hmatch =>
    obtain ⟨howner, hp⟩ := Bool.and_eq_true_iff.mp hmatch
    have hra : owner r₀ = a := of_decide_eq_true howner
    rw [f.id_apply, ht r₀ hr₀, hra, hkeeps r₀ (mem_owned.mpr ⟨hr₀, hra⟩) hp]
  · exact ht r₀ hr₀

end Edit

section Insert

variable {answer : Option Row} {r : Row}

/-- A row that is inserted is allowed by the policy, and comes last. -/
theorem of_insert {policy : Row → Bool} (h : insert policy r t = some (answer, t₁)) :
    policy r = true ∧ t₁ = t ++ [r] := by
  unfold insert at h
  split at h
  · next hall =>
    obtain ⟨-, rfl⟩ := Prod.mk.inj (Option.some.inj h)
    exact ⟨(Bool.and_eq_true_iff.mp (Bool.and_eq_true_iff.mp hall).1).1, rfl⟩
  · cases h

/-- Inserting a row of an owner leaves the rows of another one. -/
theorem owned_insert_of_ne (h : insert (ofOwner a) r t = some (answer, t₁)) (hb : b ≠ a) :
    owned b t₁ = owned b t := by
  obtain ⟨hr, rfl⟩ := of_insert h
  have hra : owner r = a := of_decide_eq_true hr
  have hne : ¬ofOwner b r = true := fun hrb => hb ((of_decide_eq_true hrb).symm.trans hra)
  rw [owned_append]
  unfold owned
  rw [List.filter_cons_of_neg hne, List.filter_nil, List.append_nil]

/-- Rows with primary keys of an owner are there as soon as they are among the rows of the owner. -/
theorem referenced_owned {whose : Id → Owner} (ht : Attributed whose t)
    (hrefers : ∀ p ∈ Constrained.foreignKeys r, ∀ r', p r' = true → whose (Constrained.id r') = a) :
    Statement.referenced r t = Statement.referenced r (owned a t) := by
  unfold referenced
  rw [Bool.eq_iff_iff, List.all_eq_true, List.all_eq_true]
  refine forall₂_congr fun p hp => ?_
  rw [List.any_eq_true, List.any_eq_true]
  constructor
  · rintro ⟨r', hr', hfor⟩
    exact ⟨r', mem_owned.mpr ⟨hr', (ht r' hr').symm.trans (hrefers p hp r' hfor)⟩, hfor⟩
  · rintro ⟨r', hr', hfor⟩
    exact ⟨r', (mem_owned.mp hr').1, hfor⟩

/-- An insertion under the policy of an owner, where no other owner has the primary key or a row that
is referred to. -/
theorem insert_owned [Unshared Row] {whose : Id → Owner} (ht : Attributed whose t)
    (hrefers : ∀ p ∈ Constrained.foreignKeys r, ∀ r', p r' = true → whose (Constrained.id r') = a)
    (hfresh : ∀ r' ∈ t, owner r' ≠ a → Constrained.id r ≠ Constrained.id r') :
    (insert (ofOwner a) r t).map (Prod.map id (owned a)) = insert (ofOwner a) r (owned a t) := by
  unfold insert
  cases hr : ofOwner a r with
  | false => rfl
  | true =>
    have hra : owner r = a := of_decide_eq_true hr
    -- constraints are checked over the rows of all owners
    have hall : t.all (fun r' => !Constrained.clash r r') =
        (owned a t).all (fun r' => !Constrained.clash r r') := by
      rw [Bool.eq_iff_iff, List.all_eq_true, List.all_eq_true]
      constructor
      · exact fun h r' hr' => h r' (mem_owned.mp hr').1
      · intro h r' hr'
        by_cases howner : owner r' = a
        · exact h r' (mem_owned.mpr ⟨hr', howner⟩)
        · -- a row of another owner is in the way of none of this one
          have hclash : Constrained.clash r r' = false := by
            refine Bool.eq_false_iff.mpr fun hclash => ?_
            rcases Unshared.of_clash r r' hclash with hsame | hid
            · exact howner (hsame.symm.trans hra)
            · exact hfresh r' hr' howner hid
          rw [hclash]
          rfl
    rw [Bool.true_and, Bool.true_and, hall, referenced_owned ht hrefers]
    split
    · rw [Option.map_some, Prod.map_apply, owned_append]
      unfold owned
      rw [List.filter_cons_of_pos hr, List.filter_nil]
      rfl
    · rfl

end Insert

variable {s : Statement Row} {answer : Option Row}

/-- A statement under the policy of an owner leaves the rows of the others alone. -/
theorem owned_exec_of_ne (h : s.exec (ofOwner a) i t = some (answer, t₁)) (hb : b ≠ a) :
    owned b t₁ = owned b t := by
  cases s with
  | findUnique p =>
    obtain ⟨-, rfl⟩ := Prod.mk.inj (Option.some.inj h)
    rfl
  | update p f => exact owned_edit_of_ne h hb
  | create d => exact owned_insert_of_ne h hb
  | upsert p f d =>
    simp only [exec] at h
    split at h
    · exact owned_edit_of_ne h hb
    · exact owned_insert_of_ne h hb

/-- A statement under the policy of an owner does with the rows of the owner what it does with these
alone. -/
theorem exec_owned [Unshared Row] {whose : Id → Owner} (ht : Attributed whose t) (hi : whose i = a)
    {s : Statement Row} (hs : s.RefersTo fun i => whose i = a) :
    (s.exec (ofOwner a) i t).map (Prod.map id (owned a)) = s.exec (ofOwner a) i (owned a t) := by
  have hfresh : ∀ d : Draft Row, ∀ r ∈ t, owner r ≠ a → Constrained.id (d.make i) ≠ Constrained.id r := by
    intro d r hr hne hid
    rw [d.id_make] at hid
    exact hne (by rw [← ht r hr, ← hid, hi])
  have hagain : (owned a t).filter (ofOwner a) = t.filter (ofOwner a) := owned_owned t
  cases s with
  | findUnique p =>
    simp only [exec]
    rw [hagain]
    rfl
  | update p f => exact edit_owned p f t
  | create d => exact insert_owned ht (hs i) (hfresh d)
  | upsert p f d =>
    simp only [exec]
    rw [hagain]
    split
    · exact edit_owned p f t
    · exact insert_owned ht (hs i) (hfresh d)

/-- A statement gives the ids of its owner to the rows it makes. -/
theorem attributed_exec {whose : Id → Owner} (ht : Attributed whose t) (hi : whose i = a)
    (h : s.exec (ofOwner a) i t = some (answer, t₁)) : Attributed whose t₁ := by
  have hinsert : ∀ d : Draft Row, insert (ofOwner a) (d.make i) t = some (answer, t₁) →
      Attributed whose t₁ := by
    intro d h
    obtain ⟨hd, rfl⟩ := of_insert h
    refine attributed_append ht ?_
    rw [d.id_make, hi]
    exact (of_decide_eq_true hd : owner (d.make i) = a).symm
  cases s with
  | findUnique p =>
    obtain ⟨-, rfl⟩ := Prod.mk.inj (Option.some.inj h)
    exact ht
  | update p f => exact attributed_edit ht h
  | create d => exact hinsert d h
  | upsert p f d =>
    simp only [exec] at h
    split at h
    · exact attributed_edit ht h
    · exact hinsert d h

end Statement

/-! ## Transactions of an owner

The same of a record of statements that is replayed, by induction on the record.
-/

section Replay

variable {whose : Id → Owner} {es : List (Executed Row)}

/-- The statements of a transaction of an owner, with primary keys of that owner. -/
def ExecutedBy (whose : Id → Owner) (a : Owner) (es : List (Executed Row)) : Prop :=
  ∀ e ∈ es, e.policy = ofOwner a ∧ whose e.id = a ∧ e.statement.RefersTo fun i => whose i = a

omit [DecidableEq Owner] [HasOwner Row Owner] in
/-- A record of statements is replayed from its first one on. -/
theorem replay_cons (e : Executed Row) (es : List (Executed Row)) (t : List Row) :
    replay (e :: es) t = ((e.statement.exec e.policy e.id t).map Prod.snd).bind (replay es) := rfl

/-- So do all statements of a record. -/
theorem attributed_replay (hes : ExecutedBy whose a es) (ht : Attributed whose t)
    (h : replay es t = some t₁) : Attributed whose t₁ := by
  induction es generalizing t with
  | nil =>
    rw [← Option.some.inj h]
    exact ht
  | cons e es ih =>
    obtain ⟨hpolicy, hid, -⟩ := hes e List.mem_cons_self
    rw [replay_cons, hpolicy] at h
    obtain ⟨t', ht', hrest⟩ := Option.bind_eq_some_iff.mp h
    obtain ⟨⟨answer, t''⟩, hexec, rfl⟩ := Option.map_eq_some_iff.mp ht'
    exact ih (fun e' he' => hes e' (List.mem_cons_of_mem e he'))
      (Statement.attributed_exec ht hid hexec) hrest

/-- The statements of an owner leave the rows of another one. -/
theorem owned_replay_of_ne (hes : ExecutedBy whose a es) (h : replay es t = some t₁) (hb : b ≠ a) :
    owned b t₁ = owned b t := by
  induction es generalizing t with
  | nil => rw [← Option.some.inj h]
  | cons e es ih =>
    obtain ⟨hpolicy, -⟩ := hes e List.mem_cons_self
    rw [replay_cons, hpolicy] at h
    obtain ⟨t', ht', hrest⟩ := Option.bind_eq_some_iff.mp h
    obtain ⟨⟨answer, t''⟩, hexec, rfl⟩ := Option.map_eq_some_iff.mp ht'
    rw [ih (fun e' he' => hes e' (List.mem_cons_of_mem e he')) hrest]
    exact Statement.owned_exec_of_ne hexec hb

/-- A transaction of an owner does with the rows of the owner what it does with these alone. -/
theorem replay_owned [Unshared Row] (hes : ExecutedBy whose a es) (ht : Attributed whose t) :
    (replay es t).map (owned a) = replay es (owned a t) := by
  induction es generalizing t with
  | nil => rfl
  | cons e es ih =>
    obtain ⟨hpolicy, hid, hrefers⟩ := hes e List.mem_cons_self
    have hexec := Statement.exec_owned ht hid hrefers
    rw [replay_cons, replay_cons, hpolicy, ← hexec]
    rcases hrun : e.statement.exec (ofOwner a) e.id t with _ | ⟨answer, t'⟩
    · rfl
    · exact ih (fun e' he' => hes e' (List.mem_cons_of_mem e he')) (Statement.attributed_exec ht hid hrun)

variable [Unshared Row] {t' : List Row}

/-- Databases with the same rows of an owner have the same rows of it after a transaction of the owner. -/
theorem replay_congr (hes : ExecutedBy whose a es) (ht : Attributed whose t) (ht' : Attributed whose t')
    (h : owned a t = owned a t') : (replay es t).map (owned a) = (replay es t').map (owned a) := by
  rw [replay_owned hes ht, replay_owned hes ht', h]

/-- What a statement answers in a transaction of an owner depends on the rows of the owner only. -/
theorem answer_congr (hes : ExecutedBy whose a es) (ht : Attributed whose t) (ht' : Attributed whose t')
    (h : owned a t = owned a t') (hi : whose i = a) {s : Statement Row}
      (hs : s.RefersTo fun i => whose i = a) :
    ((replay es t).bind fun t => s.exec (ofOwner a) i t).map Prod.fst =
      ((replay es t').bind fun t => s.exec (ofOwner a) i t).map Prod.fst := by
  have hviews := replay_congr hes ht ht' h
  rcases hview : replay es t with _ | t₁ <;> rcases hview' : replay es t' with _ | t₁' <;>
    rw [hview, hview'] at hviews
  · cases hviews
  · cases hviews
  · have hexec := Statement.exec_owned (attributed_replay hes ht hview) hi hs
    have hexec' := Statement.exec_owned (attributed_replay hes ht' hview') hi hs
    rw [Option.some.inj hviews, ← hexec'] at hexec
    have hanswers := congrArg (Option.map Prod.fst) hexec
    rw [Option.map_map, Option.map_map] at hanswers
    exact hanswers

end Replay

end Db
