import Mathlib.Logic.Function.Basic
import EmailTriage.Lib.LostUpdates
import EmailTriage.TenantSubscription.UsageMeterRepository

/-!
# Usage counted by concurrent calls

Any number of calls count usage at the same time. Some go through `atomicIncrement` of the repository,
which looks for the meter and then adds to the stored count; the others load a meter, increment the
aggregate and save it. Their database calls interleave freely.

A save writes the count its call has loaded, plus its amount, so what was counted in between is lost.
`countsAll_iff` says that nothing is lost exactly if every save finds the count it has loaded.
-/

namespace EmailTriage.TenantSubscription

open Db Runs UsageMeterRepository

/-- How far a call has come, with what it holds in memory. -/
inductive UsageCall where
  | idle
  | found (meter : UsageMeterRow) (now : ℤ) (amount : ℕ)
  | loaded (meter : UsageMeter)

/-- A database call of one of the calls. -/
inductive UsageEvent (ι : Type) where
  | find (call : ι) (pick : ℕ) (now : ℤ) (tenantId meterType : String) (amount : ℕ)
  | increment (call : ι)
  | load (call : ι) (pick : ℕ) (now : ℤ) (tenantId meterType : String)
  | save (call : ι) (now : ℤ) (newId : String) (amount : ℕ)

/-- The stored meters and the calls, and what the calls have counted so far on each meter. -/
structure Metering (ι : Type) where
  meters : UsageMeterTable
  calls : ι → UsageCall
  counted : MeterKey → ℕ

section

variable {ι : Type} [DecidableEq ι]

namespace Metering

def init (meters : UsageMeterTable) : Metering ι := ⟨meters, fun _ => .idle, fun _ => 0⟩

/-- The state after a call has moved on. -/
def move (s : Metering ι) (call : ι) (c : UsageCall) : Metering ι :=
  { s with calls := Function.update s.calls call c }

/-- The state after a call has counted an amount. -/
def count (s : Metering ι) (call : ι) (k : MeterKey) (amount : ℕ) (meters : UsageMeterTable) :
    Metering ι :=
  { s.move call .idle with
    meters := meters
    counted := Function.update s.counted k (s.counted k + amount) }

def step (s : Metering ι) : UsageEvent ι → Metering ι
  | .find call pick now tenantId meterType amount =>
    match s.calls call, findCurrent s.meters pick tenantId meterType now with
    | .idle, some meter => s.move call (.found meter now amount)
    | _, _ => s
  | .increment call =>
    match s.calls call with
    | .found meter now amount =>
      match UsageMeterRepository.increment s.meters now meter amount with
      | some (meters, _) => s.count call (Schema.key meter) amount meters
      | none => s.move call .idle
    | _ => s
  | .load call pick now tenantId meterType =>
    match s.calls call, findByTenantIdAndMeterType s.meters pick tenantId meterType now with
    | .idle, some meter => s.move call (.loaded meter)
    | _, _ => s
  | .save call now newId amount =>
    match s.calls call with
    | .loaded meter =>
      match UsageMeterRepository.save s.meters now newId (meter.atomicIncrement now amount) with
      | some meters => s.count call meter.key amount meters
      | none => s.move call .idle
    | _ => s

/-- The stored count of a meter. -/
def stored (k : MeterKey) (s : Metering ι) : Option ℤ :=
  (s.meters.find k).map (·.usageCount)

/-- The count a meter had at the start and all that has been counted on it. -/
def total (meters : UsageMeterTable) (k : MeterKey) (s : Metering ι) : Option ℤ :=
  (meters.find k).map fun r => r.usageCount + s.counted k

end Metering

/-- After the step, the stored count of the meter is the one at the start and all that has been
counted. -/
def CountsAll (meters : UsageMeterTable) (k : MeterKey) (_ : Metering ι) (_ : UsageEvent ι)
    (t : Metering ι) : Prop :=
  t.stored k = t.total meters k

/-- A save of the meter finds the count its call has loaded. -/
def SavesWhatItLoaded (k : MeterKey) (s : Metering ι) : UsageEvent ι → Metering ι → Prop
  | .save call _ _ _, _ => ∀ meter, s.calls call = .loaded meter → meter.key = k →
      s.stored k = some meter.usageCount
  | _, _ => True

/-! ## What a call knows

A call holds a meter that is stored; meters are never deleted.
-/

/-- The meter a call works on stays where it found it. -/
def UsageCall.Holds (t : UsageMeterTable) : UsageCall → Prop
  | .idle => True
  | .found meter _ _ => t.Found (Schema.key meter) (some meter.id)
  | .loaded meter => ∃ r, t.find meter.key = some r

/-- The rows of a table are still there, with their ids. -/
def Keeps (t t' : UsageMeterTable) : Prop :=
  ∀ k r, t.find k = some r → ∃ r', t'.find k = some r' ∧ r'.id = r.id

/-- A meter that a call holds is stored in every later table. -/
theorem UsageCall.Holds.keeps {t t' : UsageMeterTable} {c : UsageCall} (hc : c.Holds t)
    (ht : Keeps t t') : c.Holds t' := by
  cases c with
  | idle => trivial
  | found meter now amount =>
    intro id hid
    obtain ⟨r, hr, hrid⟩ := hc id hid
    obtain ⟨r', hr', hr'id⟩ := ht _ r hr
    exact ⟨r', hr', hr'id.trans hrid⟩
  | loaded meter =>
    obtain ⟨r, hr⟩ := hc
    obtain ⟨r', hr', -⟩ := ht _ r hr
    exact ⟨r', hr'⟩

/-- A table in which one row was patched keeps its rows. -/
theorem keeps_of_find {t t' : UsageMeterTable} {k : MeterKey} {r : UsageMeterRow}
    (hr : t.find k = some r) (f : Patch UsageMeterRow)
    (ht' : ∀ k', t'.find k' = if k' = k then some (f.apply r) else t.find k') : Keeps t t' := by
  intro k' r' hr'
  rw [ht']
  by_cases hk : k' = k
  · rw [if_pos hk]
    rw [hk, hr] at hr'
    obtain rfl := Option.some.inj hr'
    exact ⟨_, rfl, f.id_apply r⟩
  · rw [if_neg hk]
    exact ⟨r', hr', rfl⟩

/-- The counts after one row was written. -/
theorem counts_of_find {t t' : UsageMeterTable} {k : MeterKey} {r : UsageMeterRow}
    (hfind : ∀ k', t'.find k' = if k' = k then some r else t.find k') (k' : MeterKey) :
    (t'.find k').map (·.usageCount) =
      if k' = k then some r.usageCount else (t.find k').map (·.usageCount) := by
  rw [hfind]
  split
  · rfl
  · rfl

/-- Every call holds a meter that is there. -/
def Metering.Inv (s : Metering ι) : Prop := ∀ call, (s.calls call).Holds s.meters

/-- The second call of `atomicIncrement` adds its amount to the stored count. -/
theorem increment_of_holds {t : UsageMeterTable} {meter : UsageMeterRow} {now : ℤ} {amount : ℕ}
    (h : (UsageCall.found meter now amount).Holds t) :
    ∃ r t' m, t.find (Schema.key meter) = some r ∧ increment t now meter amount = some (t', m) ∧
      ∀ k, t'.find k =
        if k = Schema.key meter then some ((incrementData now amount).apply r) else t.find k := by
  obtain ⟨r, hr, hid⟩ := h meter.id rfl
  obtain ⟨hmem, hkey⟩ := Table.find_eq_some_iff.mp hr
  obtain ⟨t', ht', hfind⟩ := find_increment hmem hid now amount
  rw [hkey] at hfind
  exact ⟨r, t', _, hr, ht', hfind⟩

/-! ## Steps

An increment adds in the database. A save writes the count of its copy, and is exact only if nothing was
counted in between.
-/

namespace Metering

variable {s : Metering ι}

/-- A call may hold a meter that is stored. -/
theorem Inv.move (hs : s.Inv) (call : ι) {c : UsageCall} (hc : c.Holds s.meters) :
    (s.move call c).Inv := by
  unfold Inv Metering.move
  rw [Function.forall_update_iff s.calls fun _ c => c.Holds s.meters]
  exact ⟨hc, fun call' _ => hs call'⟩

/-- A call may count on meters that keep those of before. -/
theorem Inv.count (hs : s.Inv) (call : ι) (k : MeterKey) (amount : ℕ) {meters : UsageMeterTable}
    (hmeters : Keeps s.meters meters) : (s.count call k amount meters).Inv := by
  unfold Inv Metering.count Metering.move
  rw [Function.forall_update_iff s.calls fun _ c => c.Holds meters]
  exact ⟨trivial, fun call' _ => (hs call').keeps hmeters⟩

/-- Counting an amount on the row at a key adds it to the exact count of that key, and to the stored one
if the count it is added to is the stored one. -/
theorem changes_count (call : ι) (amount : ℕ) (start : UsageMeterTable) (k' : MeterKey) {k : MeterKey}
    {r : UsageMeterRow} (hr : s.meters.find k = some r) {meters : UsageMeterTable} {c : ℤ}
    (hfind : ∀ k', (meters.find k').map (·.usageCount) =
      if k' = k then some (c + amount) else s.stored k') :
    Changes (stored k') (total start k') (k' = k → s.stored k = some c) s
      (s.count call k amount meters) := by
  have hwritten : (s.count call k amount meters).stored k' =
      if k' = k then some (c + (amount : ℤ)) else s.stored k' := hfind k'
  rw [Changes, hwritten]
  by_cases hk : k' = k
  · subst hk
    refine ⟨Option.map (· + (amount : ℤ)), ?_, ?_⟩
    · unfold total Metering.count
      dsimp only
      rw [Function.update_self, Option.map_map]
      refine congrArg (fun f => Option.map f (start.find k')) (funext fun r => ?_)
      simp only [Function.comp_apply]
      omega
    · -- what was read is still stored exactly if the sum that is written is the one expected
      have hstored : s.stored k' = some r.usageCount := by rw [stored, hr, Option.map_some]
      rw [if_pos rfl, hstored, Option.map_some, Option.some.injEq, Option.some.injEq]
      constructor
      · intro h
        rw [h rfl]
      · intro h _
        omega
  · refine ⟨id, ?_, iff_of_true (fun h => absurd h hk) ?_⟩
    · unfold total Metering.count
      dsimp only
      rw [Function.update_of_ne hk]
      rfl
    · rw [if_neg hk]
      rfl

/-- Every step keeps the invariant. It adds to the stored count of a meter, except for a save, which adds
to the count it has loaded. -/
theorem Inv.step (hs : s.Inv) (start : UsageMeterTable) (k : MeterKey) (e : UsageEvent ι) :
    (s.step e).Inv ∧
      Changes (stored k) (total start k) (SavesWhatItLoaded k s e (s.step e)) s (s.step e) := by
  cases e with
  | find call pick now tenantId meterType amount =>
    unfold Metering.step
    dsimp only
    split
    · next meter _ hmeter =>
      refine ⟨hs.move call fun id hid => ?_, changes_of_eq rfl rfl⟩
      exact ⟨meter, Table.find_key (mem_of_findCurrent hmeter), Option.some.inj hid⟩
    · exact ⟨hs, changes_of_eq rfl rfl⟩
  | increment call =>
    unfold Metering.step
    dsimp only
    split
    · next meter now amount hcall =>
      have hholds := hs call
      rw [hcall] at hholds
      obtain ⟨r, t', m, hr, hinc, hfind⟩ := increment_of_holds hholds
      rw [hinc]
      refine ⟨hs.count call _ amount (keeps_of_find hr _ hfind), ?_⟩
      have hcounts := counts_of_find hfind
      -- the count it adds to is the stored one
      refine (changes_count call amount start k hr hcounts).congr (iff_of_true trivial fun _ => ?_)
      rw [stored, hr, Option.map_some]
    · exact ⟨hs, changes_of_eq rfl rfl⟩
  | load call pick now tenantId meterType =>
    unfold Metering.step
    dsimp only
    split
    · next meter _ hmeter =>
      refine ⟨hs.move call ?_, changes_of_eq rfl rfl⟩
      obtain ⟨r, hr, rfl⟩ := Option.map_eq_some_iff.mp hmeter
      exact ⟨r, Table.find_key (mem_of_findCurrent hr)⟩
    · exact ⟨hs, changes_of_eq rfl rfl⟩
  | save call now newId amount =>
    unfold Metering.step SavesWhatItLoaded
    dsimp only
    split
    · next meter hcall =>
      have hholds := hs call
      rw [hcall] at hholds
      obtain ⟨r, hr⟩ := hholds
      obtain ⟨t', hsave, hfind⟩ := find_save (m := meter.atomicIncrement now amount)
        (by rw [UsageMeter.key_atomicIncrement, hr]) now newId
      rw [UsageMeter.key_atomicIncrement] at hfind
      rw [hsave]
      refine ⟨hs.count call _ amount (keeps_of_find hr _ hfind), ?_⟩
      have hcounts := counts_of_find hfind
      refine (changes_count call amount start k hr hcounts).congr ⟨?_, ?_⟩
      · rintro h rfl
        exact h meter hcall rfl
      · rintro h meter' hcall' rfl
        obtain rfl := UsageCall.loaded.inj (hcall.symm.trans hcall')
        exact h rfl
    · next hidle =>
      refine ⟨hs, (changes_of_eq rfl rfl).congr (iff_of_true (fun meter hcall => ?_) trivial)⟩
      exact absurd hcall (hidle meter)

end Metering

/-- Whatever the order of the database calls, nothing that is counted on a meter is lost exactly if
every save of the meter finds the count its call has loaded. -/
theorem countsAll_iff (meters : UsageMeterTable) (k : MeterKey) (events : List (UsageEvent ι)) :
    Along (CountsAll meters k) (Metering.init meters)
        (exec Metering.step (Metering.init meters) events) ↔
      Along (SavesWhatItLoaded k) (Metering.init meters)
        (exec Metering.step (Metering.init meters) events) := by
  refine along_exact_iff (I := Metering.Inv) ?_ (along_exec _ _ events) (fun _ => trivial) ?_
  · rintro s e t hs - rfl
    exact hs.step meters k e
  · simp [Metering.stored, Metering.total, Metering.init]

end

/-! ## A lost count

Two calls that save the same copy.
-/

/-- Two calls load the meter before either saves. -/
def twoSaves : List (UsageEvent Bool) :=
  [.load true 0 1 "tenant-1" "llm_tokens", .load false 0 2 "tenant-1" "llm_tokens",
    .save true 3 "new-1" 5, .save false 4 "new-2" 3]

/-- Of the five and three units that were counted, three are stored. -/
theorem stored_twoSaves :
    (twoSaves.foldl Metering.step (Metering.init oneMeter)).stored
        ("tenant-1", "llm_tokens", 0, 100) ≠
      (twoSaves.foldl Metering.step (Metering.init oneMeter)).total oneMeter
        ("tenant-1", "llm_tokens", 0, 100) := by
  decide +kernel

end EmailTriage.TenantSubscription
