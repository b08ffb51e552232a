import EmailTriage.Lib.Table
import EmailTriage.TenantSubscription.UsageMeter

/-!
# Storing usage meters

`src/tenant-subscription/infrastructure/repositories/usage-meter.repository.ts` over the table
`usage_meters` of `prisma/schema.prisma`, whose rows are unique on tenant, meter type and billing
period.

There are two ways to count usage. `atomicIncrement` adds to the stored count; loading a meter,
incrementing the aggregate and saving it writes the sum over whatever is stored. `find_increment` and
`find_save` say what each writes.

Which meter a call finds is up to the database where several contain the current time, so the lookups
take the position that it picks. What is proved about the two ways is in the modules that interleave
them.
-/

namespace EmailTriage.TenantSubscription

open Js Db

/-- A row of `usage_meters`. -/
structure UsageMeterRow where
  id : String
  tenantId : String
  meterType : String
  billingPeriodStart : ℤ
  billingPeriodEnd : ℤ
  usageCount : ℤ
  overageThreshold : ℤ
  overageDetected : Bool
  lastIncrementedAt : Option ℤ
  createdAt : ℤ
  updatedAt : ℤ
deriving DecidableEq

/-- What a meter is unique on: tenant, meter type, and start and end of the billing period. -/
abbrev MeterKey := String × String × ℤ × ℤ

instance : Schema UsageMeterRow String MeterKey where
  id := UsageMeterRow.id
  key r := (r.tenantId, r.meterType, r.billingPeriodStart, r.billingPeriodEnd)

/-- The table `usage_meters`. -/
abbrev UsageMeterTable := Table UsageMeterRow

def UsageMeter.key (m : UsageMeter) : MeterKey :=
  (m.tenantId, m.meterType, m.billingPeriodStart, m.billingPeriodEnd)

@[simp] theorem UsageMeter.key_atomicIncrement (m : UsageMeter) (now : ℤ) (amount : ℕ) :
    (m.atomicIncrement now amount).key = m.key := by
  unfold atomicIncrement key
  rcases m.crosses amount with _ | _
  · rfl
  · rfl

/-- The meter a row is loaded as. -/
def UsageMeterRow.toMeter (r : UsageMeterRow) : UsageMeter where
  id := r.id
  tenantId := r.tenantId
  meterType := r.meterType
  billingPeriodStart := r.billingPeriodStart
  billingPeriodEnd := r.billingPeriodEnd
  usageCount := r.usageCount
  overageThreshold := r.overageThreshold
  overageDetected := r.overageDetected
  lastIncrementedAt := r.lastIncrementedAt
  uncommittedEvents := []

namespace UsageMeterRow

variable (r : UsageMeterRow)

@[simp] theorem usageCount_toMeter : r.toMeter.usageCount = r.usageCount := rfl

@[simp] theorem overageDetected_toMeter : r.toMeter.overageDetected = r.overageDetected := rfl

@[simp] theorem uncommittedEvents_toMeter : r.toMeter.uncommittedEvents = [] := rfl

end UsageMeterRow

namespace UsageMeterRepository

/-- The `where` of both lookups: the meters whose billing period contains the instant. -/
def isCurrent (tenantId meterType : String) (now : ℤ) (r : UsageMeterRow) : Bool :=
  r.tenantId = tenantId ∧ r.meterType = meterType ∧ r.billingPeriodStart ≤ now ∧
    now ≤ r.billingPeriodEnd

/-- The row both lookups find. -/
def findCurrent (t : UsageMeterTable) (pick : ℕ) (tenantId meterType : String) (now : ℤ) :
    Option UsageMeterRow :=
  t.findFirst pick (isCurrent tenantId meterType now)

/-- `findByTenantIdAndMeterType`. -/
def findByTenantIdAndMeterType (t : UsageMeterTable) (pick : ℕ) (tenantId meterType : String)
    (now : ℤ) : Option UsageMeter :=
  (findCurrent t pick tenantId meterType now).map UsageMeterRow.toMeter

/-- The columns `atomicIncrement` writes: the count relative to what is stored. -/
def incrementData (now : ℤ) (amount : ℕ) : Patch UsageMeterRow where
  apply r := { r with
    usageCount := r.usageCount + amount
    lastIncrementedAt := some now
    updatedAt := now }
  id_apply _ := rfl
  key_apply _ := rfl

/-- The second call of `atomicIncrement`; `none` is a database error. -/
def increment (t : UsageMeterTable) (now : ℤ) (meter : UsageMeterRow) (amount : ℕ) :
    Option (UsageMeterTable × UsageMeter) := do
  let t' ← t.update meter.id (incrementData now amount)
  let updated ← t'.rows.find? fun r => r.id = meter.id
  return (t', updated.toMeter)

/-- `atomicIncrement`; `none` is a database error. -/
def atomicIncrement (t : UsageMeterTable) (pick : ℕ) (now : ℤ) (tenantId meterType : String)
    (amount : ℕ) : Option (UsageMeterTable × Option UsageMeter) :=
  match findCurrent t pick tenantId meterType now with
  | none => some (t, none)
  | some meter => (increment t now meter amount).map fun (t', m) => (t', some m)

/-- The columns `save` updates: the count as the aggregate has it. -/
def updateData (now : ℤ) (m : UsageMeter) : Patch UsageMeterRow where
  apply r := { r with
    usageCount := m.usageCount
    overageDetected := m.overageDetected
    lastIncrementedAt := if m.lastIncrementedAt.isSome then m.lastIncrementedAt
      else r.lastIncrementedAt
    updatedAt := now }
  id_apply _ := rfl
  key_apply _ := rfl

/-- The row `save` creates. -/
def createData (now : ℤ) (newId : String) (m : UsageMeter) : UsageMeterRow where
  id := newId
  tenantId := m.tenantId
  meterType := m.meterType
  billingPeriodStart := m.billingPeriodStart
  billingPeriodEnd := m.billingPeriodEnd
  usageCount := m.usageCount
  overageThreshold := m.overageThreshold
  overageDetected := m.overageDetected
  lastIncrementedAt := m.lastIncrementedAt
  createdAt := now
  updatedAt := now

/-- `save`; `none` is a database error. -/
def save (t : UsageMeterTable) (now : ℤ) (newId : String) (m : UsageMeter) :
    Option UsageMeterTable :=
  t.upsert m.key (updateData now m) (createData now newId m)

/-! ## What the calls write

An increment adds to the stored count, while a save writes the count of the aggregate.
-/

variable {t : UsageMeterTable} {r : UsageMeterRow} {now : ℤ}

/-- A lookup finds a stored row. -/
theorem mem_of_findCurrent {pick : ℕ} {tenantId meterType : String}
    (h : findCurrent t pick tenantId meterType now = some r) : r ∈ t.rows :=
  (Table.of_findFirst_eq_some h).1

/-- `atomicIncrement` adds to the count that is stored when it writes, and returns the row it wrote. -/
theorem increment_eq {meter : UsageMeterRow} (hr : r ∈ t.rows) (hid : r.id = meter.id) (now : ℤ)
    (amount : ℕ) :
    increment t now meter amount =
      some (t.updateMany (fun r' => Schema.id r' = Schema.id r) (incrementData now amount),
        ((incrementData now amount).apply r).toMeter) := by
  have hupdate : t.update meter.id (incrementData now amount) =
      some (t.updateMany (fun r' => Schema.id r' = Schema.id r) (incrementData now amount)) :=
    hid ▸ Table.update_of_mem hr _
  have hmem : (incrementData now amount).apply r ∈
      (t.updateMany (fun r' => Schema.id r' = Schema.id r) (incrementData now amount)).rows :=
    List.mem_map.mpr ⟨r, hr, by simp⟩
  have hrow : (t.updateMany (fun r' => Schema.id r' = Schema.id r)
      (incrementData now amount)).rows.find? (fun r' => r'.id = meter.id) =
        some ((incrementData now amount).apply r) := by
    rcases hfind : (t.updateMany _ _).rows.find? (fun r' => r'.id = meter.id) with _ | r'
    · have hne := List.find?_eq_none.mp hfind _ hmem
      exact absurd (by simp [incrementData, hid]) hne
    · have hid' : r'.id = r.id := by
        rw [hid]
        simpa using List.find?_some hfind
      rw [hfind, Table.eq_of_id_eq (List.mem_of_find?_eq_some hfind) hmem hid']
  rw [increment, hupdate]
  simp [hrow]

/-- An increment changes the row of its meter and no other one. -/
theorem find_increment {meter : UsageMeterRow} (hr : r ∈ t.rows) (hid : r.id = meter.id) (now : ℤ)
    (amount : ℕ) :
    ∃ t', increment t now meter amount = some (t', ((incrementData now amount).apply r).toMeter) ∧
      ∀ k, t'.find k =
        if k = Schema.key r then some ((incrementData now amount).apply r) else t.find k := by
  obtain ⟨t', ht', hfind⟩ := Table.find_update hr (incrementData now amount)
  obtain rfl := Option.some.inj (ht'.symm.trans (Table.update_of_mem hr _))
  exact ⟨_, increment_eq hr hid now amount, hfind⟩

/-- `save` writes the columns of the aggregate over those that are stored. -/
theorem find_save {m : UsageMeter} (hr : t.find m.key = some r) (now : ℤ) (newId : String) :
    ∃ t', save t now newId m = some t' ∧
      ∀ k, t'.find k = if k = m.key then some ((updateData now m).apply r) else t.find k := by
  obtain ⟨t', ht', hrow⟩ := Table.upsert_of_find hr (updateData now m) (createData now newId m)
  refine ⟨t', ht', fun k => ?_⟩
  by_cases hk : k = m.key
  · rw [if_pos hk, hk, hrow]
  · have hkey : Schema.key (createData now newId m) = m.key := rfl
    rw [if_neg hk]
    exact Table.find_upsert_of_ne hkey ht' hk

end UsageMeterRepository

/-- A meter that has counted nothing, with a threshold of 1000. -/
def newMeter : UsageMeterRow :=
  ⟨"meter-1", "tenant-1", "llm_tokens", 0, 100, 0, 1000, false, none, 0, 0⟩

/-- The table with that meter. -/
def oneMeter : UsageMeterTable := ⟨[newMeter], by simp, by simp⟩

end EmailTriage.TenantSubscription
