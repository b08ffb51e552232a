import EmailTriage.TenantSubscription.UsageMeterRepository

/-!
# Two ways to count the same usage

The repository's `atomicIncrement` and the cycle of loading a meter, incrementing the aggregate and
saving it, each applied to the same amounts. The aggregate sets `overageDetected` and raises
`UsageOverageDetected` when the count reaches the threshold; the repository does neither.
`pathsAgree_iff` says which amounts hide the difference.

Both paths are run on the same amounts and from the same stored meter. `databasePath_eq` and
`aggregatePath_eq` say what each leaves: the same count, and on the second path the flag and the event
where the threshold is crossed. So they agree exactly if no amount crosses it, because the meter has
reported its overage already or because the sum stays below (`StaysBelow`).
-/

namespace EmailTriage.TenantSubscription

open Db UsageMeterRepository

/-- An amount to count, with what the database and the clock answer on the way. -/
structure UsageAmount where
  pick : ℕ
  now : ℤ
  newId : String
  amount : ℕ

/-- Counting an amount with `atomicIncrement` of the repository; `none` is a database error. -/
def databasePath (t : UsageMeterTable) (tenantId meterType : String) (c : UsageAmount) :
    Option (UsageMeterTable × Option UsageMeter) :=
  UsageMeterRepository.atomicIncrement t c.pick c.now tenantId meterType c.amount

/-- Counting an amount by loading the meter, incrementing it and saving it. -/
def aggregatePath (t : UsageMeterTable) (tenantId meterType : String) (c : UsageAmount) :
    Option (UsageMeterTable × Option UsageMeter) :=
  match findByTenantIdAndMeterType t c.pick tenantId meterType c.now with
  | none => some (t, none)
  | some meter =>
    let meter := meter.atomicIncrement c.now c.amount
    (UsageMeterRepository.save t c.now c.newId meter).map fun t' => (t', some meter)

/-- The count and the overage flag, stored and returned, and the events that were raised. -/
structure Counted where
  stored : Option (ℤ × Bool)
  returned : Option (ℤ × Bool)
  events : List UsageOverageDetected
deriving DecidableEq

/-- What counting has done to the meter at a key. -/
def countedOn (k : MeterKey) (a : UsageMeterTable × Option UsageMeter) : Counted where
  stored := (a.1.find k).map fun r => (r.usageCount, r.overageDetected)
  returned := a.2.map fun m => (m.usageCount, m.overageDetected)
  events := (a.2.map (·.uncommittedEvents)).getD []

/-- The two ways, each on its own table, do the same after each of the amounts. -/
def PathsAgree (k : MeterKey) : (t t' : UsageMeterTable) → List UsageAmount → Prop
  | _, _, [] => True
  | t, t', c :: cs => ∃ a a', databasePath t k.1 k.2.1 c = some a ∧
      aggregatePath t' k.1 k.2.1 c = some a' ∧ countedOn k a = countedOn k a' ∧
      PathsAgree k a.1 a'.1 cs

/-- The lookups for the amounts find the meter. -/
def FindsMeter (t : UsageMeterTable) (r : UsageMeterRow) (cs : List UsageAmount) : Prop :=
  ∀ c ∈ cs, (findCurrent t c.pick r.tenantId r.meterType c.now).map Schema.id = some (Schema.id r)

/-- The meter has reported its overage, or the amounts leave it below the threshold. -/
def StaysBelow (r : UsageMeterRow) (cs : List UsageAmount) : Prop :=
  cs ≠ [] → r.overageDetected = false →
    r.usageCount + (cs.map UsageAmount.amount).sum < r.overageThreshold

variable {t : UsageMeterTable} {r : UsageMeterRow} {c : UsageAmount}

/-- What the row of the meter becomes when the amount crosses no threshold. -/
def countedRow (r : UsageMeterRow) (c : UsageAmount) : UsageMeterRow :=
  (incrementData c.now c.amount).apply r

/-- The table in which the row of the meter has counted the amount. -/
def countedTable (t : UsageMeterTable) (r : UsageMeterRow) (c : UsageAmount) : UsageMeterTable :=
  t.updateMany (fun r' => Schema.id r' = Schema.id r) (incrementData c.now c.amount)

/-- The first call finds the meter. -/
theorem findCurrent_of_findsMeter (hr : r ∈ t.rows) {cs : List UsageAmount}
    (h : FindsMeter t r (c :: cs)) : findCurrent t c.pick r.tenantId r.meterType c.now = some r := by
  obtain ⟨r', hr', hid⟩ := Option.map_eq_some_iff.mp (h c List.mem_cons_self)
  rw [hr', Table.eq_of_id_eq (mem_of_findCurrent hr') hr hid]

/-- The repository stores the sum and returns it. -/
theorem databasePath_eq (hr : r ∈ t.rows)
    (hfind : findCurrent t c.pick r.tenantId r.meterType c.now = some r) :
    databasePath t r.tenantId r.meterType c =
      some (countedTable t r c, some (countedRow r c).toMeter) := by
  unfold databasePath UsageMeterRepository.atomicIncrement
  rw [hfind]
  dsimp only
  rw [increment_eq hr rfl]
  rfl

/-- The table in which the row of the meter has the count and the flag of the aggregate. -/
def savedTable (t : UsageMeterTable) (r : UsageMeterRow) (c : UsageAmount) : UsageMeterTable :=
  t.updateMany (fun r' => Schema.key r' = Schema.key r)
    (updateData c.now (r.toMeter.atomicIncrement c.now c.amount))

/-- The cycle stores and returns the incremented aggregate. -/
theorem aggregatePath_eq (hr : r ∈ t.rows)
    (hfind : findCurrent t c.pick r.tenantId r.meterType c.now = some r) :
    aggregatePath t r.tenantId r.meterType c =
      some (savedTable t r c, some (r.toMeter.atomicIncrement c.now c.amount)) := by
  have hkey : (r.toMeter.atomicIncrement c.now c.amount).key = Schema.key r := by
    rw [UsageMeter.key_atomicIncrement]
    rfl
  have hstored : t.find (r.toMeter.atomicIncrement c.now c.amount).key = some r := by
    rw [hkey, Table.find_key hr]
  unfold aggregatePath findByTenantIdAndMeterType savedTable
  rw [hfind]
  dsimp only [Option.map_some]
  rw [save, Table.upsert_eq_of_find hstored, hkey]
  rfl

/-- As long as the threshold is not crossed, both ways write the same. -/
theorem savedTable_eq (hr : r ∈ t.rows) (hcross : r.toMeter.crosses c.amount = false) :
    savedTable t r c = countedTable t r c := by
  refine Table.updateMany_congr fun r' hr' => ?_
  by_cases hkey : Schema.key r' = Schema.key r
  · obtain rfl := Table.eq_of_key_eq hr' hr hkey
    simp [updateData, incrementData, hcross]
  · have hid : Schema.id r' ≠ Schema.id r := fun hid => hkey (by rw [Table.eq_of_id_eq hr' hr hid])
    simp [hkey, hid]

/-- Both ways agree on an amount that does not cross the threshold. -/
theorem countedOn_eq (hr : r ∈ t.rows) (hcross : r.toMeter.crosses c.amount = false) :
    countedOn (Schema.key r) (countedTable t r c, some (countedRow r c).toMeter) =
      countedOn (Schema.key r)
        (savedTable t r c, some (r.toMeter.atomicIncrement c.now c.amount)) := by
  rw [savedTable_eq hr hcross]
  simp [countedOn, UsageMeter.uncommittedEvents_atomicIncrement, hcross, countedRow, incrementData]

/-- On the amount that crosses the threshold they differ: only the aggregate reports the overage. -/
theorem countedOn_ne (hcross : r.toMeter.crosses c.amount = true) (k : MeterKey) :
    countedOn k (countedTable t r c, some (countedRow r c).toMeter) ≠
      countedOn k (savedTable t r c, some (r.toMeter.atomicIncrement c.now c.amount)) := by
  intro h
  have hevents := congrArg Counted.events h
  simp [countedOn, UsageMeter.uncommittedEvents_atomicIncrement, hcross] at hevents

/-- An amount crosses the threshold or leaves the meter below it. -/
theorem staysBelow_cons (cs : List UsageAmount) : StaysBelow r (c :: cs) ↔
    r.toMeter.crosses c.amount = false ∧ StaysBelow (countedRow r c) cs := by
  have hcount : (countedRow r c).usageCount = r.usageCount + c.amount := rfl
  have hflag : (countedRow r c).overageDetected = r.overageDetected := rfl
  have hthreshold : (countedRow r c).overageThreshold = r.overageThreshold := rfl
  have hcrosses : r.toMeter.crosses c.amount = false ↔
      (r.overageDetected = false → r.usageCount + c.amount < r.overageThreshold) := by
    unfold UsageMeter.crosses UsageMeterRow.toMeter
    rcases r.overageDetected with _ | _ <;> simp
  unfold StaysBelow
  rw [hcrosses, hcount, hflag, hthreshold, List.map_cons, List.sum_cons]
  rcases cs with _ | ⟨c', cs⟩
  · simp
  · -- the amounts are not negative, so the last sum is the largest
    simp only [ne_eq, List.cons_ne_nil, not_false_eq_true, true_imp_iff, ← imp_and]
    refine imp_congr_right fun _ => ?_
    omega

/-- The meter as it is after an amount is found by the lookups for the later ones. -/
theorem FindsMeter.tail {cs : List UsageAmount} (h : FindsMeter t r (c :: cs)) :
    FindsMeter (countedTable t r c) (countedRow r c) cs := by
  intro c' hc'
  have hfind := h c' (List.mem_cons_of_mem c hc')
  obtain ⟨r', hr', hid⟩ := Option.map_eq_some_iff.mp hfind
  have hmatch : ∀ r', isCurrent r.tenantId r.meterType c'.now
      ((incrementData c.now c.amount).apply r') = isCurrent r.tenantId r.meterType c'.now r' :=
    fun _ => rfl
  have hfind' : findCurrent (countedTable t r c) c'.pick r.tenantId r.meterType c'.now =
      some ((incrementData c.now c.amount).apply r') := by
    unfold findCurrent at hr' ⊢
    unfold countedTable
    rw [Table.findFirst_updateMany hmatch, hr', Option.map_some, if_pos (by simpa using hid)]
  exact Option.map_eq_some_iff.mpr ⟨_, hfind', hid⟩

/-- The counted row is stored. -/
theorem mem_countedTable (hr : r ∈ t.rows) : countedRow r c ∈ (countedTable t r c).rows :=
  List.mem_map.mpr ⟨r, hr, by simp [countedRow]⟩

/-- For a meter that the lookups find, both ways to count agree on a sequence of amounts exactly if the
meter has reported its overage before, or the amounts leave it below its threshold. -/
theorem pathsAgree_iff {t : UsageMeterTable} {r : UsageMeterRow} {cs : List UsageAmount}
    (hr : r ∈ t.rows) (hfind : FindsMeter t r cs) :
    PathsAgree (Schema.key r) t t cs ↔ StaysBelow r cs := by
  induction cs generalizing t r with
  | nil => exact iff_of_true trivial fun h => absurd rfl h
  | cons c cs ih =>
    have hcurrent := findCurrent_of_findsMeter hr hfind
    have hdatabase := databasePath_eq hr hcurrent
    have haggregate := aggregatePath_eq hr hcurrent
    rw [staysBelow_cons]
    rcases hcross : r.toMeter.crosses c.amount with _ | _
    · have htail := ih (mem_countedTable hr) hfind.tail
      constructor
      · rintro ⟨a, a', ha, ha', -, hrest⟩
        obtain rfl := Option.some.inj (hdatabase.symm.trans ha)
        obtain rfl := Option.some.inj (haggregate.symm.trans ha')
        rw [savedTable_eq hr hcross] at hrest
        exact ⟨rfl, htail.mp hrest⟩
      · rintro ⟨-, hrest⟩
        refine ⟨_, _, hdatabase, haggregate, countedOn_eq hr hcross, ?_⟩
        rw [savedTable_eq hr hcross]
        exact htail.mpr hrest
    · constructor
      · rintro ⟨a, a', ha, ha', heq, -⟩
        obtain rfl := Option.some.inj (hdatabase.symm.trans ha)
        obtain rfl := Option.some.inj (haggregate.symm.trans ha')
        exact absurd heq (countedOn_ne hcross _)
      · rintro ⟨h, -⟩
        cases h

/-- Two amounts that stay below the threshold. -/
theorem pathsAgree_below : PathsAgree (Schema.key newMeter) oneMeter oneMeter
    [⟨0, 1, "new-1", 400⟩, ⟨0, 2, "new-2", 500⟩] := by
  refine (pathsAgree_iff (r := newMeter) List.mem_cons_self ?_).mpr ?_
  · unfold FindsMeter
    decide
  · intro _ _
    decide

/-- An amount that reaches the threshold. -/
theorem not_pathsAgree_crossing :
    ¬ PathsAgree (Schema.key newMeter) oneMeter oneMeter [⟨0, 1, "new-1", 1000⟩] := by
  have hcurrent : findCurrent oneMeter 0 "tenant-1" "llm_tokens" 1 = some newMeter := by
    decide
  rintro ⟨a, a', ha, ha', heq, -⟩
  obtain rfl := Option.some.inj ((databasePath_eq List.mem_cons_self hcurrent).symm.trans ha)
  obtain rfl := Option.some.inj ((aggregatePath_eq List.mem_cons_self hcurrent).symm.trans ha')
  exact countedOn_ne rfl _ heq

end EmailTriage.TenantSubscription
