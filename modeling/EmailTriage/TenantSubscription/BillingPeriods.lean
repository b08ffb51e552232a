import EmailTriage.Lib.Intervals
import EmailTriage.TenantSubscription.UsageMeterRepository

/-!
# Meters whose billing periods follow one another

Both lookups of the repository take the meters whose billing period contains the current time, with
both ends of the period included. Where one period ends and the next begins, two meters match, and the
database may answer with either. `selectsOne_iff` says that this is the only such time.

The periods of a meter follow one another without a gap, and the argument is one about closed intervals
that do: a point lies in two of them exactly if it is the end of one that another one follows. The
repository's comparisons are those of the intervals (`countP_isCurrent`).
-/

namespace EmailTriage.TenantSubscription

open Db UsageMeterRepository

/-- The meters of one tenant and type among those that are stored, each with the billing period after
that of the one before it. -/
structure BillingPeriods where
  table : UsageMeterTable
  tenantId : String
  meterType : String
  first : UsageMeterRow
  later : List UsageMeterRow
  meters : (table.rows.filter fun r => r.tenantId = tenantId ∧ r.meterType = meterType).Perm
    (first :: later)
  backToBack : Intervals.BackToBack UsageMeterRow.billingPeriodStart UsageMeterRow.billingPeriodEnd
    (first :: later)

namespace BillingPeriods

/-- The meter of the last billing period. -/
def last (c : BillingPeriods) : UsageMeterRow := (c.first :: c.later).getLast (List.cons_ne_nil _ _)

/-- The times from the first start to before the last end. -/
def Covered (c : BillingPeriods) :=
  { now : ℤ // c.first.billingPeriodStart ≤ now ∧ now < c.last.billingPeriodEnd }

/-- A meter is the only one that is current, and both lookups take it. -/
structure Selects (c : BillingPeriods) (now : ℤ) (meter : UsageMeterRow) : Prop where
  current : ∀ r ∈ c.table.rows, isCurrent c.tenantId c.meterType now r = true ↔ r = meter
  found : ∀ pick, findByTenantIdAndMeterType c.table pick c.tenantId c.meterType now = some meter.toMeter
  incremented : ∀ pick amount, atomicIncrement c.table pick now c.tenantId c.meterType amount =
    (increment c.table now meter amount).map fun (t, m) => (t, some m)

variable {c : BillingPeriods} {now : ℤ}

/-- The current meters are those whose period contains the time. -/
theorem countP_isCurrent (c : BillingPeriods) (now : ℤ) :
    c.table.rows.countP (isCurrent c.tenantId c.meterType now) =
      (c.first :: c.later).countP fun r =>
        Intervals.Contains UsageMeterRow.billingPeriodStart UsageMeterRow.billingPeriodEnd now r := by
  rw [← c.meters.countP_eq, List.countP_filter]
  refine List.countP_congr fun r _ => ?_
  simp only [isCurrent, Intervals.Contains, decide_eq_true_eq, Bool.and_eq_true]
  exact ⟨fun ⟨htenant, htype, hperiod⟩ => ⟨decide_eq_true hperiod, htenant, htype⟩,
    fun ⟨hperiod, htenant, htype⟩ => ⟨htenant, htype, of_decide_eq_true hperiod⟩⟩

/-- The lookups take the meter if it is the only match. -/
theorem selects_of_findMany {meter : UsageMeterRow}
    (h : c.table.findMany (isCurrent c.tenantId c.meterType now) = [meter]) : c.Selects now meter := by
  have hfind : ∀ pick, findCurrent c.table pick c.tenantId c.meterType now = some meter :=
    Table.findFirst_of_findMany h
  refine ⟨fun r hr => ?_, fun pick => ?_, fun pick amount => ?_⟩
  · have hmem : r ∈ c.table.findMany (isCurrent c.tenantId c.meterType now) ↔ r = meter := by
      rw [h, List.mem_singleton]
    rw [← hmem, Table.findMany, List.mem_filter]
    exact (and_iff_right hr).symm
  · rw [findByTenantIdAndMeterType, hfind]
    rfl
  · unfold atomicIncrement
    rw [hfind]

/-- One meter is selected if and only if one is current. -/
theorem exists_selects_iff :
    (∃ meter, c.Selects now meter) ↔
      c.table.rows.countP (isCurrent c.tenantId c.meterType now) = 1 := by
  rw [List.countP_eq_length_filter]
  constructor
  · rintro ⟨meter, hcurrent, hfound, -⟩
    -- whichever the database finds, all that match are this one, and rows are different
    have hone : ∀ r ∈ c.table.rows.filter (isCurrent c.tenantId c.meterType now), r = meter :=
      fun r hr => (hcurrent r (List.mem_filter.mp hr).1).mp (List.mem_filter.mp hr).2
    have hnodup : (c.table.rows.filter (isCurrent c.tenantId c.meterType now)).Nodup :=
      List.filter_sublist.nodup c.table.id_nodup.of_map
    have hsome : (findCurrent c.table 0 c.tenantId c.meterType now).isSome = true := by
      have h0 := hfound 0
      rw [findByTenantIdAndMeterType] at h0
      obtain ⟨r, hr, -⟩ := Option.map_eq_some_iff.mp h0
      rw [hr]
      rfl
    obtain ⟨r, hr⟩ := Option.isSome_iff_exists.mp hsome
    have hmem := List.mem_filter.mpr (Table.of_findFirst_eq_some hr)
    refine le_antisymm ?_ (List.length_pos_of_mem hmem)
    rw [List.eq_replicate_of_mem hone] at hnodup ⊢
    rw [List.length_replicate]
    exact List.nodup_replicate.mp hnodup
  · intro h
    obtain ⟨meter, hmeter⟩ := List.length_eq_one_iff.mp h
    exact ⟨meter, selects_of_findMany hmeter⟩

/-- At a time from the first start to before the last end, one meter is selected unless one of the later
periods begins. -/
theorem selectsOne_iff (c : BillingPeriods) (now : c.Covered) :
    (∃ meter, c.Selects now.1 meter) ↔ ∀ r ∈ c.later, r.billingPeriodStart ≠ now.1 := by
  rw [exists_selects_iff, countP_isCurrent]
  exact Intervals.countP_contains_eq_one_iff c.backToBack now.2.1 ⟨c.last, List.getLast_mem _, now.2.2.le⟩

/-- The meters of two days. -/
def twoDays : BillingPeriods where
  table := ⟨[⟨"meter-1", "tenant-1", "llm_tokens", 0, 86400000, 0, 1000, false, none, 0, 0⟩,
    ⟨"meter-2", "tenant-1", "llm_tokens", 86400000, 172800000, 0, 1000, false, none, 0, 0⟩],
    by decide, by decide⟩
  tenantId := "tenant-1"
  meterType := "llm_tokens"
  first := ⟨"meter-1", "tenant-1", "llm_tokens", 0, 86400000, 0, 1000, false, none, 0, 0⟩
  later := [⟨"meter-2", "tenant-1", "llm_tokens", 86400000, 172800000, 0, 1000, false, none, 0, 0⟩]
  meters := List.Perm.refl _
  backToBack := ⟨by decide, by decide⟩

/-- The midnight between them. -/
def midnight : twoDays.Covered := ⟨86400000, by decide⟩

/-- At midnight both meters are current. -/
theorem not_selectsOne_midnight : ¬∃ meter, twoDays.Selects midnight.1 meter := by
  rintro ⟨meter, hcurrent, -⟩
  have hfirst := (hcurrent _ List.mem_cons_self).mp rfl
  have hsecond := (hcurrent _ (List.mem_cons_of_mem _ List.mem_cons_self)).mp rfl
  exact absurd (hfirst.trans hsecond.symm) (by decide)

end BillingPeriods

end EmailTriage.TenantSubscription
