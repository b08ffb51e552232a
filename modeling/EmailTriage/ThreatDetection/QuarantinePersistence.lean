import Mathlib.Logic.Function.Basic
import EmailTriage.Lib.Runs
import EmailTriage.ThreatDetection.ThreatAssessmentRepository

/-!
# Quarantine decisions across saves and reloads

A process holds assessments in memory under handles, works on them, saves them and loads them again,
in any order. `QuarantineSurvives` is what a save should guarantee: the assessment reads back with its
action and its lock, and a save of a reloaded assessment that nobody overrode never releases a
locked row.

`save` writes the bare action and `findByMessageId` decodes it as an object, so every load starts from
the default decision. `quarantineSurvives_iff` says exactly which runs get away with it: those that
only ever save assessments without an action.
-/

namespace EmailTriage.ThreatDetection.Persistence

open Js Db Runs ThreatAssessmentRepository

/-- An assessment in memory, and how it got there. -/
structure Held where
  assessment : ThreatAssessment
  reloaded : Bool
  overridden : Bool

/-- The stored rows, and the assessments in memory by handle. -/
structure World where
  store : ThreatAssessmentTable
  memory : ℕ → Option Held

/-- What the process does with the assessment under a handle. -/
inductive Op where
  | create (handle : ℕ) (now : ℤ) (tenantId messageId : String)
  | find (handle : ℕ) (tenantId messageId : String)
  | assess (handle : ℕ) (now : ℤ) (layer : ThreatAssessment.Layer)
  | override (handle : ℕ) (now : ℤ) (newDecision : QuarantineDecision)
  | save (handle : ℕ) (now : ℤ) (newId : String)

namespace World

def init : World := ⟨Table.empty, fun _ => none⟩

/-- The world after storing something under a handle. -/
def hold (s : World) (handle : ℕ) (held : Option Held) : World :=
  { s with memory := Function.update s.memory handle held }

/-- One operation. An operation that throws changes nothing. -/
def step (s : World) : Op → World
  | .create handle now tenantId messageId =>
    s.hold handle (some ⟨ThreatAssessment.create now tenantId messageId, false, false⟩)
  | .find handle tenantId messageId =>
    s.hold handle ((findByMessageId s.store tenantId messageId).map fun (a, _) => ⟨a, true, false⟩)
  | .assess handle now layer =>
    match s.memory handle with
    | none => s
    | some held =>
      match held.assessment.assess now layer with
      | .ok a => s.hold handle (some { held with assessment := a })
      | .error _ => s
  | .override handle now newDecision =>
    match s.memory handle with
    | none => s
    | some held =>
      match held.assessment.overrideQuarantine now newDecision with
      | .ok a => s.hold handle (some { held with assessment := a, overridden := true })
      | .error _ => s
  | .save handle now newId =>
    match s.memory handle with
    | none => s
    | some held => { s with store := (save s.store now newId held.assessment).getD s.store }

end World

/-- The assessment reads back with its action and its lock. -/
def ReadsBack (t : ThreatAssessmentTable) (a : ThreatAssessment) : Prop :=
  ∃ b id, findByMessageId t a.tenantId a.messageId = some (b, id) ∧
    b.quarantineDecision.action = a.quarantineDecision.action ∧
    b.quarantineDecision.isLocked = a.quarantineDecision.isLocked ∧
    b.assessmentLocked = a.assessmentLocked

/-- What a save that the database accepts should guarantee. -/
def QuarantineSurvives (s : World) : Op → World → Prop
  | .save handle now newId, t => ∀ held, s.memory handle = some held →
      (save s.store now newId held.assessment).isSome = true →
      ReadsBack t.store held.assessment ∧
        (held.reloaded = true → held.overridden = false → ∀ r,
          s.store.find (held.assessment.tenantId, held.assessment.messageId) = some r →
          r.quarantine_locked = true →
          ∃ r', t.store.find (held.assessment.tenantId, held.assessment.messageId) = some r' ∧
            r'.LockedQuarantine)
  | _, _ => True

/-- A save of an assessment whose decision has no action, or one that the database refuses: the
message has no row, and the new id is taken. -/
def SavesNoAction (s : World) : Op → World → Prop
  | .save handle _ newId, _ => ∀ held, s.memory handle = some held →
      ((s.store.find (held.assessment.tenantId, held.assessment.messageId)).isSome = true ∨
        ∀ r ∈ s.store.rows, r.id ≠ newId) →
      held.assessment.quarantineDecision.action = .None
  | _, _ => True

/-- As long as no action is saved, no row is locked; and a lock flag in memory always comes with a
locked decision. -/
structure Unlocked (s : World) : Prop where
  rows : ∀ k r, s.store.find k = some r → r.quarantine_locked = false
  flags : ∀ handle held, s.memory handle = some held →
    held.assessment.assessmentLocked = true → held.assessment.quarantineDecision.isLocked = true

/-- Nothing is held or stored in the beginning. -/
theorem unlocked_init : Unlocked World.init :=
  ⟨fun k r h => by simp [World.init] at h, fun _ _ h => by simp [World.init] at h⟩

/-- Storing an assessment whose flag is coherent keeps the invariant. -/
theorem Unlocked.hold {s : World} (hs : Unlocked s) (handle : ℕ) {held : Option Held}
    (hheld : ∀ x, held = some x → x.assessment.assessmentLocked = true →
      x.assessment.quarantineDecision.isLocked = true) : Unlocked (s.hold handle held) := by
  refine ⟨hs.rows, ?_⟩
  unfold World.hold
  rw [Function.forall_update_iff s.memory fun _ held => ∀ x, held = some x →
    x.assessment.assessmentLocked = true → x.assessment.quarantineDecision.isLocked = true]
  exact ⟨hheld, fun handle' _ => hs.flags handle'⟩

/-- A decision without an action is not locked. -/
theorem isLocked_of_action_none {d : QuarantineDecision} (h : d.action = .None) :
    d.isLocked = false := by
  simp [QuarantineDecision.isLocked, h]

/-- A layer that accepts an assessment leaves its flag coherent. -/
theorem isLocked_of_assess {now : ℤ} {a a' : ThreatAssessment} {layer : ThreatAssessment.Layer}
    (h : a.assess now layer = .ok a') (hlocked : a'.assessmentLocked = true) :
    a'.quarantineDecision.isLocked = true := by
  cases ha : a.assessmentLocked with
  | true => simp [ThreatAssessment.assess_of_locked ha] at h
  | false =>
    obtain ⟨b, hb, -, -, hcases⟩ := ThreatAssessment.assess_spec now ha layer
    rw [hb, Except.ok.injEq] at h
    subst h
    rcases hcases with ⟨-, hdecision, -⟩ | ⟨-, hflag, -⟩
    · rw [hdecision, QuarantineDecision.isLocked_quarantine_policy]
    · rw [hflag] at hlocked
      exact absurd hlocked (by simp)

/-- An override clears the flag. -/
theorem assessmentLocked_of_override {now : ℤ} {a a' : ThreatAssessment} {d : QuarantineDecision}
    (h : a.overrideQuarantine now d = .ok a') : a'.assessmentLocked = false := by
  rw [ThreatAssessment.overrideQuarantine] at h
  split at h
  · exact absurd h (by simp)
  · split at h
    · exact absurd h (by simp)
    · rw [← Except.ok.inj h]

/-- Steps that save no action preserve the invariant. -/
theorem Unlocked.step {s : World} (hs : Unlocked s) (op : Op)
    (hop : SavesNoAction s op (s.step op)) : Unlocked (s.step op) := by
  cases op with
  | create handle now tenantId messageId =>
    refine hs.hold handle fun x hx => ?_
    rw [← Option.some.inj hx]
    exact id
  | find handle tenantId messageId =>
    refine hs.hold handle fun x hx hlocked => ?_
    obtain ⟨⟨a, id⟩, hfind, rfl⟩ := Option.map_eq_some_iff.mp hx
    -- a row does not hold the lock, so a copy that was loaded is never locked
    rw [(of_findByMessageId hfind).2.2.2.2] at hlocked
    exact absurd hlocked (by simp)
  | assess handle now layer =>
    rw [World.step]
    split
    · exact hs
    · split
      · next a ha =>
        refine hs.hold handle fun x hx => ?_
        rw [← Option.some.inj hx]
        exact isLocked_of_assess ha
      · exact hs
  | override handle now newDecision =>
    rw [World.step]
    split
    · exact hs
    · split
      · next a ha =>
        refine hs.hold handle fun x hx hlocked => ?_
        rw [← Option.some.inj hx, assessmentLocked_of_override ha] at hlocked
        exact absurd hlocked (by simp)
      · exact hs
  | save handle now newId =>
    rw [World.step]
    split
    · exact hs
    · next held hheld =>
      cases hsave : save s.store now newId held.assessment with
      | none => exact hs
      | some t =>
        have haccepted : (save s.store now newId held.assessment).isSome = true := by
          rw [hsave]
          rfl
        -- the one row that is written has the lock of a copy that decides nothing
        have haction := hop held hheld ((isSome_save_iff _ _ _ _).mp haccepted)
        obtain ⟨⟨r, hr, -, hrlocked⟩, hother⟩ := find_save hsave
        refine ⟨fun k r' hr' => ?_, hs.flags⟩
        rw [Option.getD_some] at hr'
        by_cases hk : k = (held.assessment.tenantId, held.assessment.messageId)
        · rw [hk, hr, Option.some.injEq] at hr'
          rw [← hr', hrlocked, isLocked_of_action_none haction]
        · exact hs.rows k r' (by rw [← hother k hk, hr'])

/-- After a save the assessment reads back exactly if it has no action. -/
theorem readsBack_iff {t t' : ThreatAssessmentTable} {now : ℤ} {newId : String}
    {a : ThreatAssessment} (h : save t now newId a = some t')
    (hflag : a.assessmentLocked = true → a.quarantineDecision.isLocked = true) :
    ReadsBack t' a ↔ a.quarantineDecision.action = .None := by
  constructor
  · rintro ⟨b, id, hfind, haction, -⟩
    rw [← haction, (of_findByMessageId hfind).2.2.1]
  · intro haction
    obtain ⟨⟨r, hr, -, -⟩, -⟩ := find_save h
    obtain ⟨b, hb, -⟩ := findByMessageId_of_find hr
    obtain ⟨-, -, hbaction, hblocked, hbflag⟩ := of_findByMessageId hb
    have hunlocked := isLocked_of_action_none haction
    refine ⟨b, r.id, hb, by rw [hbaction, haction], by rw [hblocked, hunlocked], ?_⟩
    rw [hbflag]
    cases hlock : a.assessmentLocked with
    | false => rfl
    | true => rw [hflag hlock] at hunlocked; exact absurd hunlocked (by simp)

/-- In a run from the empty database, every save keeps the quarantine it was given exactly if every
save is of an assessment without an action. -/
theorem quarantineSurvives_iff (ops : List Op) :
    Along QuarantineSurvives World.init (exec World.step World.init ops) ↔
      Along SavesNoAction World.init (exec World.step World.init ops) := by
  refine along_iff (I := Unlocked) ?_ ?_ (along_exec World.step World.init ops) unlocked_init
  · intro s op t hs ht
    cases op with
    | save handle now newId =>
      unfold QuarantineSurvives SavesNoAction
      simp only [← isSome_save_iff _ now]
      refine forall_congr' fun held => forall_congr' fun hheld => forall_congr' fun hsome => ?_
      obtain ⟨t', ht'⟩ := Option.isSome_iff_exists.mp hsome
      have hstore : t.store = t' := by
        rw [ht, World.step, hheld]
        simp only [ht', Option.getD_some]
      rw [hstore, readsBack_iff ht' (hs.flags handle held hheld)]
      refine ⟨And.left, fun haction => ⟨haction, fun _ _ r hr hlocked => ?_⟩⟩
      rw [hs.rows _ r hr] at hlocked
      exact absurd hlocked (by simp)
    | _ => exact Iff.rfl
  · intro s op t hs ht hop
    subst ht
    exact hs.step op hop

/-- A message that fails DMARC is assessed and saved. -/
def dmarcFailure : List Op :=
  [.create 0 0 "tenant" "message",
    .assess 0 1 (.authentication ⟨.fail, .fail, .fail, .failed, false⟩), .save 0 2 "row"]

/-- The quarantine of a DMARC failure is gone once it is reloaded. -/
theorem not_quarantineSurvives_dmarcFailure :
    ¬Along QuarantineSurvives World.init (exec World.step World.init dmarcFailure) := by
  rintro ⟨-, -, hsave, -⟩
  obtain ⟨⟨b, id, hfind, haction, -⟩, -⟩ := hsave _ rfl rfl
  rw [(of_findByMessageId hfind).2.2.1] at haction
  exact absurd haction (by decide)

end EmailTriage.ThreatDetection.Persistence
