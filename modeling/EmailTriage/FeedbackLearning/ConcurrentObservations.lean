import EmailTriage.FeedbackLearning.SenderReputationCacheRepository
import EmailTriage.Lib.Runs
import Mathlib.Data.Fintype.Basic

/-!
# Observations that overlap

Any number of cycles of `findOrCreate`, `recordCategory` and `save` on one sender domain, with their
database calls interleaved in any order. A cycle writes the counts it has loaded, and its own
observation, over what the others have stored since. `countsObservations_iff` says in which runs no
observation is lost.

## The shape of the argument

A cycle makes its calls to the database one by one, between which the others go on, and `Phase.rank`
says how far it has come. `Counted` says that no cycle has failed and that the stored counts are those
of the completed cycles. A write keeps this exactly if the counts that it writes over are those its
cycle has loaded, and the row is still missing where none was found (`Current`). So each kind of step
has a lemma that says under which condition the counts are right after it (`After`), and the induction
over the run is left with the equivalence for one step. That every cycle gets to its end is a matter of
enough turns (`eq_done_of_rank`).
-/

namespace EmailTriage.FeedbackLearning.Concurrent

open Js Db Runs SenderReputationCacheRepository

/-- What a cycle records. -/
structure Cycle where
  category : String
  confidenceWeight : ℚ

/-- How far a cycle has come, with what it holds in memory. -/
inductive Phase where
  | start
  | creating
  | creatingFound (existing : Option ℕ)
  | loaded (cache : SenderReputationCache)
  | found (cache : SenderReputationCache) (recordedAt : ℤ) (existing : Option ℕ)
  | done
  | failed

/-- The calls that are left. -/
def Phase.rank : Phase → ℕ
  | .start => 5
  | .creating => 4
  | .creatingFound _ => 3
  | .loaded _ => 2
  | .found _ _ _ => 1
  | .done => 0
  | .failed => 0

def Phase.isDone : Phase → Bool
  | .done => true
  | _ => false

/-- The table and the cycles. -/
structure World (ι : Type) where
  table : SenderReputationCacheTable
  phases : ι → Phase

namespace World

variable {ι : Type} [DecidableEq ι]

/-- The world after a cycle has moved on. -/
def move (s : World ι) (i : ι) (p : Phase) : World ι := { s with phases := Function.update s.phases i p }

/-- The world after a cycle has written. -/
def commit (s : World ι) (i : ι) (t : SenderReputationCacheTable) (p : Phase) : World ι :=
  { s.move i p with table := t }

end World

section

variable {ι : Type} [DecidableEq ι] (column : CategoryColumn) (tenantId senderDomain : String)
  (cycles : ι → Cycle)

/-- One database call of a cycle, at a time. -/
def step (s : World ι) (turn : ι × ℤ) : World ι :=
  match turn with
  | (i, now) =>
    match s.phases i with
    | .start =>
      match findBySenderDomain s.table tenantId senderDomain with
      | some cache => s.move i (.loaded cache)
      | none => s.move i .creating
    -- `findOrCreate` saves the new cache, in two calls of its own
    | .creating =>
      s.move i (.creatingFound (findExisting s.table (.create tenantId senderDomain) tenantId))
    | .creatingFound existing =>
      match write column s.table now (.create tenantId senderDomain) tenantId existing with
      | some t => s.commit i t (.loaded (.create tenantId senderDomain))
      | none => s.move i .failed
    | .loaded cache => s.move i (.found cache now (findExisting s.table
        (cache.recordCategory (cycles i).category (cycles i).confidenceWeight now) tenantId))
    | .found cache recordedAt existing =>
      match write column s.table now
          (cache.recordCategory (cycles i).category (cycles i).confidenceWeight recordedAt) tenantId
          existing with
      | some t => s.commit i t .done
      | none => s.move i .failed
    | .done => s
    | .failed => s

/-- A cycle that is never interrupted does what its functions do. -/
theorem table_serial {s : World ι} {i : ι} (hi : s.phases i = .start) (now : ℤ) :
    ((fun s => step column tenantId senderDomain cycles s (i, now))^[5] s).table =
      match findOrCreate column s.table now tenantId senderDomain with
      | none => s.table
      | some (t, cache) =>
        (save column t now (cache.recordCategory (cycles i).category (cycles i).confidenceWeight now)
          tenantId).getD t := by
  unfold findOrCreate save
  simp only [Function.iterate_succ, Function.iterate_zero, Function.comp_apply, id_eq]
  rcases hload : findBySenderDomain s.table tenantId senderDomain with _ | cache
  · rcases hcreate : write column s.table now (.create tenantId senderDomain) tenantId
        (findExisting s.table (.create tenantId senderDomain) tenantId) with _ | t
    · simp [step, hi, hload, hcreate, World.move]
    · rcases hsave : write column t now ((SenderReputationCache.create tenantId senderDomain).recordCategory
          (cycles i).category (cycles i).confidenceWeight now) tenantId
          (findExisting t ((SenderReputationCache.create tenantId senderDomain).recordCategory
            (cycles i).category (cycles i).confidenceWeight now) tenantId) with _ | t' <;>
        simp [step, hi, hload, hcreate, hsave, World.move, World.commit]
  · rcases hsave : write column s.table now (cache.recordCategory (cycles i).category
        (cycles i).confidenceWeight now) tenantId (findExisting s.table (cache.recordCategory
          (cycles i).category (cycles i).confidenceWeight now) tenantId) with _ | t <;>
      simp [step, hi, hload, hsave, World.move, World.commit]

/-- The cycles that have recorded a category and are done. -/
def completed [Fintype ι] (s : World ι) (category : String) : Finset ι :=
  Finset.univ.filter fun i => (s.phases i).isDone = true ∧ (cycles i).category = category

/-- No cycle has failed, there is a row once a cycle is done, and the stored counts are those of the
cycles that are done. -/
structure Counted [Fintype ι] (s : World ι) : Prop where
  noError : ∀ i, s.phases i ≠ .failed
  row : ∀ i, s.phases i = .done → ∃ r, s.table.find (tenantId, senderDomain) = some r
  counts : ∀ category, storedCount s.table tenantId senderDomain category =
    (completed cycles s category).card

/-- A cycle that is about to write has found the row if there is one, and has loaded the stored counts;
and the category it records has no reserved name. -/
def Current (s : World ι) (i : ι) : Prop :=
  match s.phases i with
  | .creatingFound existing =>
    (existing = none → s.table.find (tenantId, senderDomain) = none) ∧
      ∀ k, storedCount s.table tenantId senderDomain k = 0
  | .found cache _ existing =>
    (existing = none → s.table.find (tenantId, senderDomain) = none) ∧
      (∀ k, storedCount s.table tenantId senderDomain k = cache.observationCount k) ∧
      (cycles i).category ≠ "__proto__"
  | _ => True

/-! ## What a cycle holds

A cycle reads the row, adds its observation to the copy and writes the copy by the id it has found.
-/

/-- What is known of a cycle at each point. -/
def Knows (t : SenderReputationCacheTable) : Phase → Prop
  | .creatingFound existing => t.Found (tenantId, senderDomain) existing
  | .loaded cache => cache.senderDomain = senderDomain ∧ cache.observationCount "__proto__" = 0
  | .found cache _ existing =>
    (cache.senderDomain = senderDomain ∧ cache.observationCount "__proto__" = 0) ∧
      t.Found (tenantId, senderDomain) existing
  | _ => True

/-- A write keeps what is known of a cycle. -/
theorem Knows.write {t t' : SenderReputationCacheTable} {now : ℤ} {aggregate : SenderReputationCache}
    {existing : Option ℕ} (hdomain : aggregate.senderDomain = senderDomain)
    (hfound : t.Found (tenantId, senderDomain) existing)
    (h : write column t now aggregate tenantId existing = some t') {p : Phase}
    (hp : Knows tenantId senderDomain t p) : Knows tenantId senderDomain t' p := by
  have hkey : Schema.key (createData column now t.freshId aggregate tenantId) = (tenantId, senderDomain) :=
    congrArg (tenantId, ·) hdomain
  cases p with
  | creatingFound existing' => exact Table.Found.write hp hkey hfound h
  | found cache recordedAt existing' => exact ⟨hp.1, Table.Found.write hp.2 hkey hfound h⟩
  | loaded cache => exact hp
  | start => exact trivial
  | creating => exact trivial
  | done => exact trivial
  | failed => exact trivial

/-! ## Completed cycles

The cycles that are through are counted by category.
-/

variable [Fintype ι] {cycles} {s s' : World ι} {i : ι}

/-- A cycle that goes on completes nothing. -/
theorem completed_of_update {p : Phase} (hphases : s'.phases = Function.update s.phases i p)
    (h : p.isDone = (s.phases i).isDone) (k : String) : completed cycles s' k = completed cycles s k := by
  unfold completed
  rw [hphases]
  refine Finset.filter_congr fun j _ => ?_
  by_cases hj : j = i
  · rw [hj, Function.update_self, h]
  · rw [Function.update_of_ne hj]

/-- A cycle that is done has completed its category. -/
theorem card_completed_done (hphases : s'.phases = Function.update s.phases i .done)
    (hi : (s.phases i).isDone = false) (k : String) : (completed cycles s' k).card =
      (completed cycles s k).card + if k = (cycles i).category then 1 else 0 := by
  have hnew : i ∉ completed cycles s k := by
    intro hmem
    exact Bool.eq_false_iff.mp hi (Finset.mem_filter.mp hmem).2.1
  by_cases hk : k = (cycles i).category
  · have hinsert : completed cycles s' k = insert i (completed cycles s k) := by
      ext j
      unfold completed
      rw [Finset.mem_insert, Finset.mem_filter, Finset.mem_filter, hphases]
      by_cases hj : j = i
      · rw [hj, Function.update_self]
        exact iff_of_true ⟨Finset.mem_univ i, rfl, hk.symm⟩ (.inl rfl)
      · rw [Function.update_of_ne hj, or_iff_right hj]
    rw [hinsert, Finset.card_insert_of_notMem hnew, if_pos hk]
  · rw [if_neg hk, Nat.add_zero]
    refine congrArg Finset.card (Finset.filter_congr fun j _ => ?_)
    rw [hphases]
    by_cases hj : j = i
    · rw [hj]
      exact iff_of_false (fun h => hk h.2.symm) fun h => hk h.2.symm
    · rw [Function.update_of_ne hj]

/-! ## One call

A cycle whose copy is still what is stored adds one observation to the row. `After` says what a call
leaves, by what the call depends on.
-/

variable {column tenantId senderDomain}

/-- The counts are right so far, and every cycle holds what it has found. -/
structure Inv (tenantId senderDomain : String) (cycles : ι → Cycle) (s : World ι) : Prop where
  counted : Counted tenantId senderDomain cycles s
  reserved : storedCount s.table tenantId senderDomain "__proto__" = 0
  knows : ∀ j, Knows tenantId senderDomain s.table (s.phases j)

/-- What holds after a call, if it leads to `s'`: the counts are right under a condition, and every cycle
holds what it has found. -/
structure After (tenantId senderDomain : String) (cycles : ι → Cycle) (condition : Prop) (s' : World ι) :
    Prop where
  counted : Counted tenantId senderDomain cycles s' ↔ condition
  reserved : storedCount s'.table tenantId senderDomain "__proto__" = 0
  knows : ∀ j, Knows tenantId senderDomain s'.table (s'.phases j)

omit [Fintype ι] in
/-- What holds of every phase holds after one of them has changed. -/
theorem forall_update {P : Phase → Prop} {phases : ι → Phase} (h : ∀ j, P (phases j)) {p : Phase} (hp : P p)
    (i j : ι) : P (Function.update phases i p j) :=
  (Function.forall_update_iff phases fun _ => P).mpr ⟨hp, fun j _ => h j⟩ j

/-- A cycle that goes on without an error leaves none. -/
theorem Counted.noError_update (h : Counted tenantId senderDomain cycles s) {p : Phase} (hp : p ≠ .failed)
    (i j : ι) : Function.update s.phases i p j ≠ .failed :=
  forall_update (P := (· ≠ .failed)) h.noError hp i j

/-- A call that only reads. -/
theorem after_read (hs : Inv tenantId senderDomain cycles s) {p : Phase}
    (hi : (s.phases i).isDone = false) (hdone : p.isDone = false) (hfailed : p ≠ .failed)
    (hp : Knows tenantId senderDomain s.table p) : After tenantId senderDomain cycles True (s.move i p) := by
  have hrow := forall_update (P := fun p => p = .done → ∃ r, s.table.find (tenantId, senderDomain) = some r)
    hs.counted.row (p := p) (fun h => by rw [h] at hdone; cases hdone) i
  refine ⟨iff_of_true ⟨hs.counted.noError_update hfailed i, hrow, fun k => ?_⟩ trivial, hs.reserved,
    forall_update hs.knows hp i⟩
  rw [completed_of_update rfl (hdone.trans hi.symm)]
  exact hs.counted.counts k

/-- A call that writes a cache, for a row that was found or not. -/
theorem after_write (hs : Inv tenantId senderDomain cycles s) {aggregate : SenderReputationCache}
    {existing : Option ℕ} (now : ℤ) {p : Phase} (hdomain : aggregate.senderDomain = senderDomain)
    (hfound : s.table.Found (tenantId, senderDomain) existing) (hfailed : p ≠ .failed)
    (hp : ∀ t, Knows tenantId senderDomain t p) : After tenantId senderDomain cycles
      ((existing = none → s.table.find (tenantId, senderDomain) = none) ∧
        ∀ k, (if k = "__proto__" then 0 else aggregate.observationCount k) =
          (completed cycles (s.move i p) k).card)
      (match write column s.table now aggregate tenantId existing with
        | some t => s.commit i t p
        | none => s.move i .failed) := by
  subst hdomain
  rcases hwrite : write column s.table now aggregate tenantId existing with _ | t
  · obtain ⟨hnone, hrow⟩ := (write_eq_none_iff hfound).mp hwrite
    refine ⟨iff_of_false (fun h => h.noError i (Function.update_self ..)) fun h => hrow (h.1 hnone),
      hs.reserved, forall_update (p := .failed) hs.knows trivial i⟩
  · obtain ⟨hrow, hstored⟩ := storedCount_write hfound hwrite
    have hnew : existing = none → s.table.find (tenantId, aggregate.senderDomain) = none := by
      intro hnone
      by_contra hfind
      cases hwrite.symm.trans ((write_eq_none_iff hfound).mpr ⟨hnone, hfind⟩)
    refine ⟨⟨fun h => ⟨hnew, fun k => (hstored k).symm.trans (h.counts k)⟩, fun h => ?_⟩, ?_, ?_⟩
    · exact ⟨hs.counted.noError_update hfailed i, fun _ _ => hrow, fun k => (hstored k).trans (h.2 k)⟩
    · exact hstored "__proto__"
    · exact forall_update
        (fun j => (hs.knows j).write column tenantId aggregate.senderDomain rfl hfound hwrite) (hp t) i

omit [DecidableEq ι] in
/-- Conditions that say the same. -/
theorem After.of_iff {condition condition' : Prop}
    (h : After tenantId senderDomain cycles condition s') (hiff : condition ↔ condition') :
    After tenantId senderDomain cycles condition' s' :=
  ⟨h.counted.trans hiff, h.reserved, h.knows⟩

/-- The new cache of `findOrCreate` is written over nothing, or over a row without counts. -/
theorem after_create (hs : Inv tenantId senderDomain cycles s) {existing : Option ℕ} (now : ℤ)
    (hi : s.phases i = .creatingFound existing) : After tenantId senderDomain cycles
      ((existing = none → s.table.find (tenantId, senderDomain) = none) ∧
        ∀ k, storedCount s.table tenantId senderDomain k = 0)
      (match write column s.table now (.create tenantId senderDomain) tenantId existing with
        | some t => s.commit i t (.loaded (.create tenantId senderDomain))
        | none => s.move i .failed) := by
  have hknows := hs.knows i
  rw [hi] at hknows
  refine (after_write hs now (p := .loaded (.create tenantId senderDomain)) rfl hknows (by rintro ⟨⟩)
    fun _ => ⟨rfl, rfl⟩).of_iff (and_congr_right fun _ => forall_congr' fun k => ?_)
  have hgoesOn : (Phase.loaded (.create tenantId senderDomain)).isDone = (s.phases i).isDone := by
    rw [hi]
    rfl
  rw [completed_of_update rfl hgoesOn, ← hs.counted.counts k, eq_comm]
  have hempty : (if k = "__proto__" then 0
      else (SenderReputationCache.create tenantId senderDomain).observationCount k) = 0 := ite_self 0
  rw [hempty]

/-- An observation is written over the counts that were loaded. -/
theorem after_observe (hs : Inv tenantId senderDomain cycles s) {cache : SenderReputationCache}
    {recordedAt : ℤ} {existing : Option ℕ} (now : ℤ) (hi : s.phases i = .found cache recordedAt existing) :
    After tenantId senderDomain cycles
      ((existing = none → s.table.find (tenantId, senderDomain) = none) ∧
        (∀ k, storedCount s.table tenantId senderDomain k = cache.observationCount k) ∧
        (cycles i).category ≠ "__proto__")
      (match write column s.table now
          (cache.recordCategory (cycles i).category (cycles i).confidenceWeight recordedAt) tenantId
          existing with
        | some t => s.commit i t .done
        | none => s.move i .failed) := by
  have hknows := hs.knows i
  rw [hi] at hknows
  obtain ⟨⟨hdomain, hunnamed⟩, hfound⟩ := hknows
  have hdomain' := (cache.senderDomain_recordCategory (cycles i).category (cycles i).confidenceWeight
    recordedAt).trans hdomain
  have hgoesOn : (s.phases i).isDone = false := by
    rw [hi]
    rfl
  refine (after_write hs now (p := .done) hdomain' hfound (by rintro ⟨⟩) fun _ => trivial).of_iff
    (and_congr_right fun _ => ?_)
  -- what is written and what should be differ from what is there by the same observation
  have hcounts : ∀ k, (completed cycles (s.move i .done) k).card =
      storedCount s.table tenantId senderDomain k + if k = (cycles i).category then 1 else 0 := by
    intro k
    rw [card_completed_done rfl hgoesOn, hs.counted.counts k]
  constructor
  · intro h
    refine ⟨fun k => ?_, fun hreserved => ?_⟩
    · have hk := h k
      rw [hcounts, SenderReputationCache.observationCount_recordCategory] at hk
      by_cases hname : k = "__proto__"
      · rw [hname, hs.reserved, hunnamed]
      · rw [if_neg hname] at hk
        exact (Nat.add_right_cancel hk).symm
    · have hk := h "__proto__"
      rw [hcounts, if_pos rfl, if_pos hreserved.symm] at hk
      exact Nat.succ_ne_zero _ hk.symm
  · rintro ⟨hloaded, hnamed⟩ k
    rw [hcounts, SenderReputationCache.observationCount_recordCategory]
    by_cases hname : k = "__proto__"
    · rw [if_pos hname, hname, hs.reserved, if_neg (Ne.symm hnamed)]
    · rw [if_neg hname, hloaded k]

variable (column) in
/-- One call. -/
theorem after_step (hs : Inv tenantId senderDomain cycles s) (turn : ι × ℤ) :
    After tenantId senderDomain cycles (Current tenantId senderDomain cycles s turn.1)
      (step column tenantId senderDomain cycles s turn) := by
  obtain ⟨i, now⟩ := turn
  have hknows := hs.knows i
  unfold step Current
  dsimp only
  rcases hi : s.phases i with _ | _ | existing | cache | ⟨cache, recordedAt, existing⟩ | _ | _
  · have hread : ∀ p : Phase, p.isDone = false → p ≠ .failed → Knows tenantId senderDomain s.table p →
        After tenantId senderDomain cycles True (s.move i p) :=
      fun p => after_read hs (by rw [hi]; rfl)
    dsimp only
    rcases hload : findBySenderDomain s.table tenantId senderDomain with _ | cache
    · exact hread .creating rfl (by rintro ⟨⟩) trivial
    · obtain ⟨hdomain, hstored⟩ := observationCount_findBySenderDomain hload
      exact hread (.loaded cache) rfl (by rintro ⟨⟩) ⟨hdomain, (hstored "__proto__").trans hs.reserved⟩
  · exact after_read hs (by rw [hi]; rfl) rfl (by rintro ⟨⟩) (Table.found_find _ _)
  · exact after_create hs now hi
  · rw [hi] at hknows
    refine after_read hs (by rw [hi]; rfl) rfl (by rintro ⟨⟩) ⟨hknows, ?_⟩
    unfold findExisting
    rw [SenderReputationCache.senderDomain_recordCategory, hknows.1]
    exact Table.found_find _ _
  · exact after_observe hs now hi
  · exact ⟨iff_of_true hs.counted trivial, hs.reserved, hs.knows⟩
  · exact absurd hi (hs.counted.noError i)

variable (column) in
/-- A turn that saves over what it has loaded keeps the invariant. -/
theorem inv_step (hs : Inv tenantId senderDomain cycles s) (turn : ι × ℤ)
    (h : Current tenantId senderDomain cycles s turn.1) :
    Inv tenantId senderDomain cycles (step column tenantId senderDomain cycles s turn) := by
  obtain ⟨hcounted, hreserved, hknows⟩ := after_step column hs turn
  exact ⟨hcounted.mpr h, hreserved, hknows⟩

/-! ## Progress

A cycle has a number of calls left, and every turn of its own takes one away.
-/

variable (column tenantId senderDomain cycles) in
omit [Fintype ι] in
/-- A call moves its own cycle only, and leaves it fewer calls. -/
theorem phases_step (s : World ι) (turn : ι × ℤ) : ∃ p : Phase, p.rank ≤ (s.phases turn.1).rank - 1 ∧
    (step column tenantId senderDomain cycles s turn).phases = Function.update s.phases turn.1 p := by
  obtain ⟨i, now⟩ := turn
  unfold step
  dsimp only
  split
  · next hi =>
    rw [hi]
    split
    · exact ⟨_, Nat.le_of_ble_eq_true rfl, rfl⟩
    · exact ⟨_, Nat.le_of_ble_eq_true rfl, rfl⟩
  · next hi => exact ⟨_, by rw [hi]; rfl, rfl⟩
  · next hi =>
    rw [hi]
    split
    · exact ⟨_, Nat.le_of_ble_eq_true rfl, rfl⟩
    · exact ⟨.failed, Nat.zero_le _, rfl⟩
  · next hi => exact ⟨_, by rw [hi]; rfl, rfl⟩
  · next hi =>
    split
    · exact ⟨.done, Nat.zero_le _, rfl⟩
    · exact ⟨.failed, Nat.zero_le _, rfl⟩
  · next hi => exact ⟨.done, Nat.zero_le _, by rw [← hi, Function.update_eq_self]⟩
  · next hi => exact ⟨.failed, Nat.zero_le _, by rw [← hi, Function.update_eq_self]⟩

/-- The calls a cycle has made. -/
def turnsOf (i : ι) (turns : List (ι × ℤ)) : ℕ := turns.countP fun turn => turn.1 = i

omit [Fintype ι] in
/-- What is left of a cycle after a sequence of calls. -/
theorem rank_foldl (s : World ι) (turns : List (ι × ℤ)) (i : ι) :
    ((turns.foldl (step column tenantId senderDomain cycles) s).phases i).rank ≤
      (s.phases i).rank - turnsOf i turns := by
  induction turns generalizing s with
  | nil => exact le_rfl
  | cons turn turns ih =>
    obtain ⟨p, hrank, hphases⟩ := phases_step column tenantId senderDomain cycles s turn
    refine (ih _).trans ?_
    rw [hphases, turnsOf, turnsOf, List.countP_cons]
    by_cases hi : turn.1 = i
    · rw [if_pos (decide_eq_true hi), ← hi, Function.update_self]
      omega
    · rw [if_neg fun h => hi (of_decide_eq_true h), Function.update_of_ne (Ne.symm hi)]
      exact le_rfl

/-! ## Runs

When all turns are taken, each cycle is done, and the row counts all observations exactly if each write
found what its cycle had read.
-/

/-- The world before any cycle has begun. -/
def World.init (t : SenderReputationCacheTable) : World ι := ⟨t, fun _ => .start⟩

omit [DecidableEq ι] in
/-- Nothing is counted for a domain without a row. -/
theorem inv_init {t : SenderReputationCacheTable} (h : t.find (tenantId, senderDomain) = none) :
    Inv tenantId senderDomain cycles (World.init t) := by
  have hstored : ∀ k, storedCount t tenantId senderDomain k = 0 := by
    intro k
    unfold storedCount
    rw [h]
    rfl
  refine ⟨⟨fun _ => by rintro ⟨⟩, fun _ hdone => (by cases hdone), fun k => ?_⟩, hstored _, fun _ => trivial⟩
  rw [World.init, hstored, eq_comm, Finset.card_eq_zero, completed]
  exact Finset.filter_false_of_mem fun _ _ hdone => Bool.false_ne_true hdone.1

/-- A cycle without calls left is done if it has not failed. -/
theorem eq_done_of_rank {p : Phase} (h : p.rank = 0) (hfailed : p ≠ .failed) : p = .done := by
  cases p with
  | done => rfl
  | failed => exact absurd rfl hfailed
  | _ => cases h

/-- The counts are right in every state of a run from a table without the domain exactly if every cycle
writes over what it has loaded; and then every cycle that has made its five calls is done. -/
theorem countsObservations_iff (column : CategoryColumn)
    (tenantId senderDomain : String) (cycles : ι → Cycle)
    (t : { t : SenderReputationCacheTable // t.find (tenantId, senderDomain) = none })
    (turns : List (ι × ℤ)) :
    (Along (fun _ _ s => Counted tenantId senderDomain cycles s) (World.init t.1)
        (exec (step column tenantId senderDomain cycles) (World.init t.1) turns) ↔
      Along (fun s turn _ => Current tenantId senderDomain cycles s turn.1) (World.init t.1)
        (exec (step column tenantId senderDomain cycles) (World.init t.1) turns)) ∧
    (Along (fun s turn _ => Current tenantId senderDomain cycles s turn.1) (World.init t.1)
        (exec (step column tenantId senderDomain cycles) (World.init t.1) turns) →
      ∀ i, 5 ≤ turnsOf i turns →
        (turns.foldl (step column tenantId senderDomain cycles) (World.init t.1)).phases i = .done) := by
  have hinit : Inv tenantId senderDomain cycles (World.init t.1) := inv_init t.2
  have hrun := along_exec (step column tenantId senderDomain cycles) (World.init t.1) turns
  constructor
  · refine along_iff (I := Inv tenantId senderDomain cycles) ?_ ?_ hrun hinit
    · rintro s turn s' hs rfl
      exact (after_step column hs turn).counted
    · rintro s turn s' hs rfl hcurrent
      exact inv_step column hs turn hcurrent
  · intro hcurrent i hturns
    have hfinal : Inv tenantId senderDomain cycles
        (turns.foldl (step column tenantId senderDomain cycles) (World.init t.1)) := by
      rw [← final_exec]
      refine (hrun.guarded (Q := fun _ _ _ => True) ?_ hcurrent hinit).2
      rintro s turn s' hs rfl hc
      exact ⟨trivial, inv_step column hs turn hc⟩
    refine eq_done_of_rank (Nat.le_zero.mp ?_) (hfinal.counted.noError i)
    exact (rank_foldl _ turns i).trans_eq (Nat.sub_eq_zero_of_le hturns)

/-- A domain that has no row. -/
def newDomain : { t : SenderReputationCacheTable // t.find ("tenant", "example.com") = none } :=
  ⟨.empty, rfl⟩

/-- Two cycles observe the same category. The second loads the row before the first has written its
observation, and writes its own over it. -/
theorem not_counted_overlapping : ¬Along
    (fun _ _ s => Counted "tenant" "example.com" (fun _ : Fin 2 => ⟨"Work", 0.8⟩) s)
    (World.init newDomain.1)
    (exec (step .ordered "tenant" "example.com" fun _ : Fin 2 => ⟨"Work", 0.8⟩) (World.init newDomain.1)
      [(0, 1), (0, 2), (0, 3), (1, 4), (0, 5), (0, 6), (1, 7), (1, 8)]) := by
  rintro ⟨-, -, -, -, -, -, -, hlast, -⟩
  exact absurd (hlast.counts "Work") (by decide +kernel)

end

end EmailTriage.FeedbackLearning.Concurrent
