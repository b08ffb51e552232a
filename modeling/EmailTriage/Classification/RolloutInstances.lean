import Mathlib.Logic.Function.Basic
import EmailTriage.Classification.CanaryRollout
import EmailTriage.Lib.LostUpdates

/-!
# Several instances of the rollout service

Instances of the service start, perform administrative operations and shut down over one database. Each
keeps its own copy of the state, reads the stored one only when it starts, and writes its whole copy back
on every operation that changes it, and once more when it shuts down.

`nothingLost_iff` says when this loses no operation.

## The shape of the argument

What is stored is compared with what the operations performed so far make of the state, as if each had
been applied to the stored one. An instance that writes a copy which is no longer up to date takes the
operations of the others back, unless that makes no difference to its write: `operate_eq_iff` says of
each operation which fields of the two have to agree. `Inv` is about the rows alone, that an instance
which is up has one to write to; the comparison itself is carried along a run by the rule for steps
that keep a property exactly under a condition, and `nothingLost_iff` turns it into a condition on the
writes.
-/

namespace EmailTriage.Classification

open Db Runs

/-- An instance: not running, started without having found a row, or running with its copy. -/
inductive RolloutInstance where
  | down
  | starting
  | up (copy : RolloutState)

/-- A step of an instance. Administrative operations are performed one after another. -/
inductive RolloutEvent (ι : Type) where
  | onModuleInit (i : ι) (pick : ℕ)
  | createRow (i : ι) (now : ℤ) (newId : String)
  | perform (i : ι) (operation : RolloutOperation) (now : ℤ)
  | onModuleDestroy (i : ι) (now : ℤ)

/-- The stored rows, the instances, and what the operations performed so far make of the state. -/
structure Rollout (ι : Type) where
  table : CanaryRolloutTable
  instances : ι → RolloutInstance
  effect : RolloutState

section

variable {ι : Type} [DecidableEq ι]

namespace Rollout

/-- Nothing runs, and the database has a row or none yet. -/
def init (row : Option CanaryRolloutStateRow) : Rollout ι where
  table := ⟨row.toList, by cases row <;> simp, by cases row <;> simp⟩
  instances _ := .down
  effect := (row.map (·.state)).getD .initial

/-- The state after an instance has changed. -/
def setInstance (s : Rollout ι) (i : ι) (x : RolloutInstance) : Rollout ι :=
  { s with instances := Function.update s.instances i x }

def step (s : Rollout ι) : RolloutEvent ι → Rollout ι
  | .onModuleInit i pick =>
    match s.instances i with
    | .down =>
      match s.table.findFirst pick with
      | some row => s.setInstance i (.up row.state)
      | none => s.setInstance i .starting
    | _ => s
  | .createRow i now newId =>
    match s.instances i with
    | .starting =>
      match s.table.createInitial now newId with
      | some table => { s.setInstance i (.up .initial) with table := table }
      | none => s.setInstance i .down
    | _ => s
  | .perform i operation now =>
    match s.instances i with
    | .up copy =>
      match copy.operate operation with
      | some copy =>
        { s.setInstance i (.up copy) with
          table := s.table.saveState now copy, effect := s.effect.apply operation }
      | none => { s with effect := s.effect.apply operation }
    | _ => s
  | .onModuleDestroy i now =>
    match s.instances i with
    | .up copy => { s.setInstance i .down with table := s.table.saveState now copy }
    | _ => s

end Rollout

/-- After the step, the stored state is what the operations performed so far make of it, and an instance
that starts from it gives every tenant the version they decide. -/
def NothingLost (_ : Rollout ι) (_ : RolloutEvent ι) (t : Rollout ι) : Prop :=
  (∀ pick, t.table.restored pick = t.effect) ∧
    ∀ pick tenantId, (t.table.restored pick).getTenantPipelineVersion tenantId =
      t.effect.getTenantPipelineVersion tenantId

/-- Whether an operation on the copy of an instance comes to the same as one on the stored state: the
copy is as the stored state in what the operation reads and in what it leaves as it is, or the difference
does not matter there. -/
def RolloutState.AgreesFor (copy stored : RolloutState) : RolloutOperation → Prop
  | .promoteCanaryToProduction =>
    match copy.activeCanary with
    | none => stored.activeCanary = none
    | some canaryVersion =>
      copy.betaTenantIds = stored.betaTenantIds ∧
        (stored.activeCanary = some canaryVersion ∨
          -- it has been promoted already
          stored.productionVersion = canaryVersion ∧ stored.canaryVersion = none ∧
            stored.canaryPercentage = 0)
  | .rollbackProduction _ => copy.betaTenantIds = stored.betaTenantIds
  | .startCanaryRollout canaryVersion startPercentage =>
    if canaryVersion = copy.productionVersion then
      canaryVersion = stored.productionVersion ∨
        stored.canaryVersion = some canaryVersion ∧
          stored.canaryPercentage = startPercentage.getD 5
    else
      copy.productionVersion = stored.productionVersion ∧
        copy.betaTenantIds = stored.betaTenantIds
  | .increaseCanaryPercentage newPercentage =>
    newPercentage ≤ 100 →
      if copy.activeCanary = none then
        stored.activeCanary = none ∨ stored.canaryPercentage = newPercentage
      else
        copy.productionVersion = stored.productionVersion ∧
          copy.canaryVersion = stored.canaryVersion ∧ copy.betaTenantIds = stored.betaTenantIds
  | .registerBetaTenant tenantId | .unregisterBetaTenant tenantId =>
    copy.productionVersion = stored.productionVersion ∧
      copy.canaryVersion = stored.canaryVersion ∧
      copy.canaryPercentage = stored.canaryPercentage ∧
      ∀ t ≠ tenantId, t ∈ copy.betaTenantIds ↔ t ∈ stored.betaTenantIds

/-- An instance does not write back what is outdated: one that operates agrees with the stored state for
the operation, one that shuts down holds the stored state, and one that creates the first row does not
come after a change. -/
def WritesUpToDate (s : Rollout ι) : RolloutEvent ι → Rollout ι → Prop
  | .onModuleInit _ _, _ => True
  | .createRow i now newId, _ => s.instances i = .starting →
      (s.table.createInitial now newId).isSome = true → ∀ pick, s.table.restored pick = .initial
  | .perform i operation _, _ => ∀ copy, s.instances i = .up copy →
      ∀ pick, copy.AgreesFor (s.table.restored pick) operation
  | .onModuleDestroy i _, _ => ∀ copy, s.instances i = .up copy →
      ∀ pick, s.table.restored pick = copy

/-! ## Operations on an outdated copy

An instance works on its copy. What it makes of the copy is what the operation makes of the stored state
exactly if the two agree on what the operation reads and keeps.
-/

namespace RolloutState

variable {copy stored : RolloutState}

/-- An active canary is the stored version of the canary. -/
theorem canaryVersion_of_activeCanary {s : RolloutState} {canaryVersion : String}
    (h : s.activeCanary = some canaryVersion) : s.canaryVersion = some canaryVersion :=
  (Option.filter_eq_some_iff.mp h).1

/-- A promotion by an instance is the one of the stored state if the copy agrees on what it reads. -/
theorem promote_eq_iff :
    (copy.operate .promoteCanaryToProduction).getD stored =
        stored.apply .promoteCanaryToProduction ↔
      copy.AgreesFor stored .promoteCanaryToProduction := by
  unfold apply AgreesFor
  dsimp only [operate]
  rcases hcopy : copy.activeCanary with _ | v <;> rcases hstored : stored.activeCanary with _ | w
  · exact iff_of_true rfl rfl
  · -- the stored canary version would be promoted
    refine iff_of_false (fun h => ?_) (Option.some_ne_none w)
    have hnone : stored.canaryVersion = none := congrArg canaryVersion h
    rw [canaryVersion_of_activeCanary hstored] at hnone
    exact Option.some_ne_none w hnone
  · refine RolloutState.ext_iff.trans ⟨?_, ?_⟩
    · rintro ⟨hproduction, hcanary, hpercentage, hbeta⟩
      exact ⟨hbeta, .inr ⟨hproduction.symm, hcanary.symm, hpercentage.symm⟩⟩
    · rintro ⟨hbeta, hnone | ⟨hproduction, hcanary, hpercentage⟩⟩
      · cases hnone
      · exact ⟨hproduction.symm, hcanary.symm, hpercentage.symm, hbeta⟩
  · refine RolloutState.ext_iff.trans ⟨?_, ?_⟩
    · rintro ⟨hproduction, -, -, hbeta⟩
      exact ⟨hbeta, .inl (congrArg some hproduction.symm)⟩
    · rintro ⟨hbeta, hcanary | ⟨-, hnone, -⟩⟩
      · exact ⟨(Option.some.inj hcanary).symm, rfl, rfl, hbeta⟩
      · rw [canaryVersion_of_activeCanary hstored] at hnone
        cases hnone

/-- So is the start of a rollout. -/
theorem start_eq_iff {canaryVersion : String} {startPercentage : Option ℤ} :
    (copy.operate (.startCanaryRollout canaryVersion startPercentage)).getD stored =
        stored.apply (.startCanaryRollout canaryVersion startPercentage) ↔
      copy.AgreesFor stored (.startCanaryRollout canaryVersion startPercentage) := by
  unfold apply AgreesFor
  dsimp only [operate]
  by_cases hcopy : canaryVersion = copy.productionVersion
  · rw [if_pos hcopy, if_pos hcopy]
    by_cases hstored : canaryVersion = stored.productionVersion
    · rw [if_pos hstored]
      exact iff_of_true rfl (.inl hstored)
    · rw [if_neg hstored, or_iff_right hstored]
      refine RolloutState.ext_iff.trans ⟨?_, ?_⟩
      · rintro ⟨-, hcanary, hpercentage, -⟩
        exact ⟨hcanary, hpercentage⟩
      · rintro ⟨hcanary, hpercentage⟩
        exact ⟨rfl, hcanary, hpercentage, rfl⟩
  · rw [if_neg hcopy, if_neg hcopy]
    by_cases hstored : canaryVersion = stored.productionVersion
    · -- the copy would start what is in production
      rw [if_pos hstored]
      refine iff_of_false (fun h => ?_) fun ⟨hproduction, _⟩ => hcopy (hstored.trans hproduction.symm)
      exact hcopy (hstored.trans (RolloutState.ext_iff.mp h).1.symm)
    · rw [if_neg hstored]
      refine RolloutState.ext_iff.trans ⟨?_, ?_⟩
      · rintro ⟨hproduction, -, -, hbeta⟩
        exact ⟨hproduction, hbeta⟩
      · rintro ⟨hproduction, hbeta⟩
        exact ⟨hproduction, rfl, rfl, hbeta⟩

/-- So is a change of the percentage. -/
theorem increase_eq_iff {newPercentage : ℤ} :
    (copy.operate (.increaseCanaryPercentage newPercentage)).getD stored =
        stored.apply (.increaseCanaryPercentage newPercentage) ↔
      copy.AgreesFor stored (.increaseCanaryPercentage newPercentage) := by
  unfold apply AgreesFor
  dsimp only [operate]
  by_cases hlarge : newPercentage > 100
  · rw [if_pos (.inr hlarge), if_pos (.inr hlarge)]
    exact iff_of_true rfl fun hsmall => absurd hlarge (Int.not_lt.mpr hsmall)
  simp only [hlarge, or_false, Option.isNone_iff_eq_none, Int.not_lt.mp hlarge, forall_const]
  by_cases hcopy : copy.activeCanary = none
  · -- without a canary of its own the instance throws, and its copy stays what it is
    rw [if_pos hcopy, if_pos hcopy]
    by_cases hstored : stored.activeCanary = none
    · rw [if_pos hstored]
      exact iff_of_true rfl (.inl hstored)
    · rw [if_neg hstored, or_iff_right hstored]
      refine RolloutState.ext_iff.trans ⟨fun h => h.2.2.1, fun h => ⟨rfl, rfl, h, rfl⟩⟩
  · rw [if_neg hcopy, if_neg hcopy]
    by_cases hstored : stored.activeCanary = none
    · -- the two differ in whether there is a canary version
      rw [if_pos hstored]
      have hcanary : copy.canaryVersion ≠ stored.canaryVersion := by
        intro heq
        unfold activeCanary at hcopy hstored
        exact hcopy (heq ▸ hstored)
      exact iff_of_false (fun h => hcanary (RolloutState.ext_iff.mp h).2.1) fun h => hcanary h.2.1
    · rw [if_neg hstored]
      refine RolloutState.ext_iff.trans ⟨?_, ?_⟩
      · rintro ⟨hproduction, hcanary, -, hbeta⟩
        exact ⟨hproduction, hcanary, hbeta⟩
      · rintro ⟨hproduction, hcanary, hbeta⟩
        exact ⟨hproduction, hcanary, rfl, hbeta⟩

/-- What an operation on the copy leaves stored is what it makes of the stored state exactly if the copy
agrees with that for the operation. -/
theorem operate_eq_iff {operation : RolloutOperation} :
    (copy.operate operation).getD stored = stored.apply operation ↔
      copy.AgreesFor stored operation := by
  cases operation with
  | promoteCanaryToProduction => exact promote_eq_iff
  | rollbackProduction previousVersion =>
    exact RolloutState.ext_iff.trans ⟨fun h => h.2.2.2, fun h => ⟨rfl, rfl, rfl, h⟩⟩
  | startCanaryRollout canaryVersion startPercentage => exact start_eq_iff
  | increaseCanaryPercentage newPercentage => exact increase_eq_iff
  | registerBetaTenant tenantId =>
    refine RolloutState.ext_iff.trans (and_congr_right' (and_congr_right' (and_congr_right' ?_)))
    change insert tenantId copy.betaTenantIds = insert tenantId stored.betaTenantIds ↔ _
    simp only [Finset.ext_iff, Finset.mem_insert]
    refine forall_congr' fun t => ?_
    by_cases ht : t = tenantId <;> simp [ht]
  | unregisterBetaTenant tenantId =>
    refine RolloutState.ext_iff.trans (and_congr_right' (and_congr_right' (and_congr_right' ?_)))
    change copy.betaTenantIds.erase tenantId = stored.betaTenantIds.erase tenantId ↔ _
    simp only [Finset.ext_iff, Finset.mem_erase]
    exact forall_congr' fun t => and_congr_right_iff

end RolloutState

/-! ## What is stored

The columns of the row, and what a service restores from them.
-/

namespace CanaryRolloutTable

variable {t t' : CanaryRolloutTable} {now : ℤ} {newId : String} {x : RolloutState}

/-- Every row may be the one that a lookup finds. -/
theorem restored_eq_iff : (∀ pick, t.restored pick = x) ↔
    (t.rows = [] → RolloutState.initial = x) ∧ ∀ r ∈ t.rows, r.state = x := by
  have hrestored : ∀ pick, t.restored pick =
      ((t.rows[pick % t.rows.length]?).map (·.state)).getD .initial := by
    intro pick
    unfold restored findFirst Table.findFirst Table.findMany
    rw [List.filter_true]
  constructor
  · intro h
    refine ⟨fun hnil => ?_, fun r hr => ?_⟩
    · have hx := h 0
      rw [hrestored, hnil] at hx
      exact hx
    · obtain ⟨i, hi, rfl⟩ := List.mem_iff_getElem.mp hr
      have hx := h i
      rw [hrestored, Nat.mod_eq_of_lt hi, List.getElem?_eq_getElem hi] at hx
      exact hx
  · rintro ⟨hnil, hrows⟩ pick
    rw [hrestored]
    rcases hrow : t.rows[pick % t.rows.length]? with _ | r
    · -- only a table without rows has none at a position below its length
      have hlen := List.getElem?_eq_none_iff.mp hrow
      refine hnil (List.length_eq_zero_iff.mp ?_)
      by_contra hpos
      exact absurd (Nat.mod_lt pick (Nat.pos_of_ne_zero hpos)) (Nat.not_lt.mpr hlen)
    · exact hrows r (List.mem_of_getElem? hrow)

/-- `saveState` stores its state, where there is a row to store it in. -/
theorem restored_saveState (h : t.rows ≠ []) (pick : ℕ) : (t.saveState now x).restored pick = x := by
  refine restored_eq_iff.mpr ⟨fun hnil => ?_, fun r hr => ?_⟩ pick
  · exact absurd (List.map_eq_nil_iff.mp hnil) h
  · obtain ⟨r₀, -, rfl⟩ := List.mem_map.mp hr
    simp [saveData]

/-- A fresh row may be the one that a lookup finds. -/
theorem restored_createInitial (h : t.createInitial now newId = some t') :
    (∀ pick, t'.restored pick = x) ↔ RolloutState.initial = x ∧ ∀ r ∈ t.rows, r.state = x := by
  rw [restored_eq_iff, Table.rows_create h]
  simp only [List.append_eq_nil_iff, List.cons_ne_nil, and_false, false_imp_iff, true_and,
    List.mem_append, List.mem_singleton]
  constructor
  · intro hall
    exact ⟨hall _ (.inr rfl), fun r hr => hall r (.inl hr)⟩
  · rintro ⟨hinitial, hrows⟩ r (hr | rfl)
    · exact hrows r hr
    · exact hinitial

end CanaryRolloutTable

/-! ## Steps

A ghost keeps what the operations make of the state, one after the other. A write of an outdated copy
makes the stored row differ from it.
-/

namespace Rollout

variable {s : Rollout ι}

/-- What an instance that starts may find stored, by the position of the row it finds. -/
def stored (s : Rollout ι) (pick : ℕ) : RolloutState := s.table.restored pick

/-- What it should find. -/
def expected (s : Rollout ι) (_ : ℕ) : RolloutState := s.effect

/-- An instance that runs has found a row or created one, and rows are never deleted. -/
def Inv (s : Rollout ι) : Prop := ∀ i copy, s.instances i = .up copy → s.table.rows ≠ []

/-- An instance may be up while there is a row. -/
theorem Inv.setInstance (hs : s.Inv) (i : ι) {x : RolloutInstance}
    (hx : ∀ copy, x = .up copy → s.table.rows ≠ []) : (s.setInstance i x).Inv := by
  intro j copy hj
  by_cases hij : j = i
  · subst hij
    exact hx copy ((Function.update_self ..).symm.trans hj)
  · exact hs j copy ((Function.update_of_ne hij ..).symm.trans hj)

/-- An instance that runs saves a state. -/
theorem Inv.saveState (hs : s.Inv) {i : ι} {copy : RolloutState} (hi : s.instances i = .up copy)
    (x : RolloutInstance) (now : ℤ) (saved effect : RolloutState) :
    Inv { s.setInstance i x with table := s.table.saveState now saved, effect := effect } := by
  intro j _ _ hnil
  exact hs i copy hi (List.map_eq_nil_iff.mp hnil)

omit [DecidableEq ι] in
/-- An operation is performed on the copy of its instance. -/
theorem writesUpToDate_perform {i : ι} {copy : RolloutState} (hi : s.instances i = .up copy)
    {operation : RolloutOperation} {now : ℤ} {t : Rollout ι} :
    WritesUpToDate s (.perform i operation now) t ↔
      ∀ pick, (copy.operate operation).getD (s.stored pick) = (s.stored pick).apply operation := by
  refine ⟨fun h pick => RolloutState.operate_eq_iff.mpr (h copy hi pick), fun h copy' hi' pick => ?_⟩
  rw [RolloutInstance.up.inj (hi'.symm.trans hi)]
  exact RolloutState.operate_eq_iff.mp (h pick)

omit [DecidableEq ι] in
/-- A shutdown writes what is stored exactly if the copy is that. -/
theorem writesUpToDate_onModuleDestroy {i : ι} {copy : RolloutState} (hi : s.instances i = .up copy)
    {now : ℤ} {t : Rollout ι} :
    WritesUpToDate s (.onModuleDestroy i now) t ↔ ∀ pick, s.stored pick = copy := by
  refine ⟨fun h => h copy hi, fun h copy' hi' => ?_⟩
  rw [RolloutInstance.up.inj (hi'.symm.trans hi)]
  exact h

/-- The second step of a boot: the row of the initial state is created, or the boot fails. -/
theorem Inv.createRow (hs : s.Inv) (hexact : s.stored = s.expected) (i : ι) (now : ℤ) (newId : String) :
    (s.step (.createRow i now newId)).Inv ∧
      Changes stored expected
        (WritesUpToDate s (.createRow i now newId) (s.step (.createRow i now newId))) s
        (s.step (.createRow i now newId)) := by
  have hstored : ∀ pick, s.table.restored pick = s.effect := congrFun hexact
  unfold Rollout.step WritesUpToDate
  dsimp only
  split
  · next hi =>
    split
    · next t' ht' =>
      refine ⟨fun _ _ _ hnil => ?_, id, rfl, ?_⟩
      · dsimp only at hnil
        rw [Table.rows_create ht'] at hnil
        exact List.append_ne_nil_of_right_ne_nil _ (List.cons_ne_nil _ _) hnil
      · -- the fresh row may be found, so it must hold what the other rows hold
        have hrows := (CanaryRolloutTable.restored_eq_iff.mp hstored).2
        have hcreated := CanaryRolloutTable.restored_createInitial (x := s.effect) ht'
        have hwritten : stored { s.setInstance i (.up .initial) with table := t' } = s.stored ↔
            RolloutState.initial = s.effect := by
          rw [hexact]
          exact funext_iff.trans (hcreated.trans (and_iff_left hrows))
        rw [id_eq, hwritten, ht']
        constructor
        · intro h
          rw [← hstored 0, h hi rfl 0]
        · intro h _ _ pick
          rw [hstored pick, h]
    · next hnone =>
      refine ⟨hs.setInstance i ?_, (changes_of_eq rfl rfl).congr (iff_of_true ?_ trivial)⟩
      · rintro copy ⟨⟩
      · intro _ hsome
        rw [hnone] at hsome
        cases hsome
  · next hi => exact ⟨hs, (changes_of_eq rfl rfl).congr (iff_of_true (fun h => absurd h hi) trivial)⟩

/-- An operation: what is written is what the copy has become. -/
theorem Inv.perform (hs : s.Inv) (i : ι) (operation : RolloutOperation) (now : ℤ) :
    (s.step (.perform i operation now)).Inv ∧
      Changes stored expected
        (WritesUpToDate s (.perform i operation now) (s.step (.perform i operation now))) s
        (s.step (.perform i operation now)) := by
  unfold Rollout.step
  dsimp only
  split
  · next copy hi =>
    split
    · next copy' hoperate =>
      refine ⟨hs.saveState hi _ now copy' _, fun g pick => (g pick).apply operation, rfl, ?_⟩
      have hsaved : stored { s.setInstance i (.up copy') with
          table := s.table.saveState now copy', effect := s.effect.apply operation } =
            fun _ => copy' :=
        funext (CanaryRolloutTable.restored_saveState (hs i copy hi))
      rw [hsaved, writesUpToDate_perform hi, hoperate, funext_iff]
      rfl
    · next hoperate =>
      refine ⟨hs, fun g pick => (g pick).apply operation, rfl, ?_⟩
      rw [writesUpToDate_perform hi, hoperate, funext_iff]
      rfl
  · next hi =>
    exact ⟨hs, (changes_of_eq rfl rfl).congr
      (iff_of_true (fun copy h => absurd h (hi copy)) trivial)⟩

/-- Every step keeps the invariant, and leaves what its operation makes of the stored state exactly if
what it writes is up to date. -/
theorem Inv.step (hs : s.Inv) (hexact : s.stored = s.expected) (e : RolloutEvent ι) :
    (s.step e).Inv ∧
      Changes stored expected (WritesUpToDate s e (s.step e)) s (s.step e) := by
  cases e with
  | onModuleInit i pick =>
    unfold Rollout.step
    dsimp only
    split
    · split
      · next row hrow =>
        refine ⟨hs.setInstance i fun _ _ hnil => ?_, changes_of_eq rfl rfl⟩
        have hmem := (Table.of_findFirst_eq_some hrow).1
        -- an instance has a copy only where there is a row to save it to
        rw [hnil] at hmem
        cases hmem
      · refine ⟨hs.setInstance i ?_, changes_of_eq rfl rfl⟩
        rintro copy ⟨⟩
    · exact ⟨hs, changes_of_eq rfl rfl⟩
  | createRow i now newId => exact hs.createRow hexact i now newId
  | perform i operation now => exact hs.perform i operation now
  | onModuleDestroy i now =>
    unfold Rollout.step
    dsimp only
    split
    · next copy hi =>
      refine ⟨hs.saveState hi _ now copy _, id, rfl, ?_⟩
      -- a shutdown writes its copy over every row
      have hsaved : stored { s.setInstance i .down with table := s.table.saveState now copy } =
          fun _ => copy :=
        funext (CanaryRolloutTable.restored_saveState (hs i copy hi))
      rw [hsaved, writesUpToDate_onModuleDestroy hi, id_eq, funext_iff]
      exact forall_congr' fun pick => eq_comm
    · next hi =>
      exact ⟨hs, (changes_of_eq rfl rfl).congr
        (iff_of_true (fun copy h => absurd h (hi copy)) trivial)⟩

end Rollout

omit [DecidableEq ι] in
/-- What tenants get is decided by what is stored. -/
theorem nothingLost_iff_stored {s t : Rollout ι} {e : RolloutEvent ι} :
    NothingLost s e t ↔ t.stored = t.expected := by
  constructor
  · rintro ⟨h, -⟩
    exact funext h
  · intro h
    have hstored : ∀ pick, t.table.restored pick = t.effect := congrFun h
    refine ⟨hstored, fun pick tenantId => ?_⟩
    rw [hstored]

/-- Whatever the order in which instances start, operate and shut down, no operation is lost exactly if
no instance writes back what is outdated. -/
theorem nothingLost_iff (row : Option CanaryRolloutStateRow) (events : List (RolloutEvent ι)) :
    Along NothingLost (Rollout.init row) (exec Rollout.step (Rollout.init row) events) ↔
      Along WritesUpToDate (Rollout.init row) (exec Rollout.step (Rollout.init row) events) := by
  rw [along_congr fun _ _ _ => nothingLost_iff_stored]
  refine along_exact_iff (I := Rollout.Inv) ?_ (along_exec _ _ events) ?_ ?_
  · rintro s e t hs hexact rfl
    exact hs.step hexact e
  · rintro i copy ⟨⟩
  · refine funext (CanaryRolloutTable.restored_eq_iff.mpr ?_)
    rcases row with _ | row
    · exact ⟨fun _ => rfl, fun r hr => absurd hr List.not_mem_nil⟩
    · refine ⟨fun hnil => absurd hnil (List.cons_ne_nil _ _), fun r hr => ?_⟩
      rw [List.mem_singleton.mp hr]
      rfl

end

/-! ## A rollback undone

An instance that has not seen a rollback writes its copy.
-/

/-- The first instance starts a canary rollout and promotes it, the second one starts, the first one rolls
back, and the second one shuts down. -/
def undoneRollback : List (RolloutEvent Bool) :=
  [.onModuleInit true 0, .createRow true 0 "row-1",
    .perform true (.startCanaryRollout "v2.0.0" none) 1,
    .perform true .promoteCanaryToProduction 2, .onModuleInit false 0,
    .perform true (.rollbackProduction "v1.0.0") 3, .onModuleDestroy false 4]

/-- The version that was rolled back is in production again. -/
theorem not_nothingLost_undoneRollback : ¬ Along NothingLost (Rollout.init none)
    (exec Rollout.step (Rollout.init none) undoneRollback) := by
  rintro ⟨-, -, -, -, -, -, ⟨hlast, -⟩, -⟩
  have hstored := hlast 0
  exact absurd hstored (by decide +kernel)

end EmailTriage.Classification
