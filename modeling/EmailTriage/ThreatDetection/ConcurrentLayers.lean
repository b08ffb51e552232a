import Mathlib.Logic.Function.Basic
import EmailTriage.Lib.Runs
import EmailTriage.ThreatDetection.ThreatAssessmentRepository

/-!
# Detection layers that run concurrently

Any number of jobs work on one message. Each loads the assessment (or creates it), runs its layer
and saves; its three database calls interleave freely with those of the others, and a job may crash
and be retried at any point. `QuarantineStays` is what the lock promises: once a save has stored a
locked quarantine, it stays.

Nothing protects the stored decision from a job that holds another copy, and nothing reloads the
lock. `quarantineStays_iff` says which interleavings are safe: those in which every job that
overwrites a stored quarantine quarantines itself.
-/

namespace EmailTriage.ThreatDetection.Concurrent

open Js Db Runs ThreatAssessmentRepository ThreatAssessment

/-- How far a job has come, with what it holds in memory. -/
inductive JobState where
  | start
  | loaded (assessment : ThreatAssessment)
  | assessed (assessment : ThreatAssessment)
  | found (assessment : ThreatAssessment) (existing : Option String)
  | done
  | failed

/-- One step of one job: it goes on, or it crashes. -/
inductive Event (ι : Type) where
  | run (job : ι) (now : ℤ) (newId : String)
  | crash (job : ι)

/-- The stored rows and the jobs, and whether a save has stored a locked quarantine yet. -/
structure World (ι : Type) where
  store : ThreatAssessmentTable
  jobs : ι → JobState
  quarantined : Bool

section

variable {ι : Type} [DecidableEq ι] (tenantId messageId : String) (layer : ι → Layer)

namespace World

def init (store : ThreatAssessmentTable) : World ι := ⟨store, fun _ => .start, false⟩

/-- The world after a job has moved on. -/
def move (s : World ι) (job : ι) (j : JobState) : World ι :=
  { s with jobs := Function.update s.jobs job j }

/-- The world after a job has written. -/
def commit (s : World ι) (job : ι) (a : ThreatAssessment) (t : ThreatAssessmentTable) : World ι :=
  { s.move job .done with
    store := t, quarantined := s.quarantined || a.quarantineDecision.isLocked }

def step (s : World ι) : Event ι → World ι
  | .crash job => s.move job .failed
  | .run job now newId =>
    match s.jobs job with
    | .start =>
      match findByMessageId s.store tenantId messageId with
      | some (a, _) => s.move job (.loaded a)
      | none => s.move job (.loaded (create now tenantId messageId))
    | .loaded a =>
      match a.assess now (layer job) with
      | .ok a => s.move job (.assessed a)
      | .error _ => s.move job .failed
    -- `save` first looks for the row, and writes in a second call
    | .assessed a =>
      s.move job (.found a ((findByMessageId s.store tenantId messageId).map (·.2)))
    | .found a existing =>
      match write s.store now newId a existing with
      | some t => s.commit job a t
      | none => s.move job .failed
    | .failed => s.move job .start
    | .done => s

/-- The message has a locked quarantine in the database. -/
def Locked (s : World ι) : Prop :=
  ∃ r, s.store.find (tenantId, messageId) = some r ∧ r.LockedQuarantine

omit [DecidableEq ι] in
/-- A quarantine is locked if the stored row says so. -/
theorem locked_iff (s : World ι) : s.Locked tenantId messageId ↔
    (s.store.find (tenantId, messageId)).any (fun r => r.LockedQuarantine) = true := by
  simp [Locked, Option.any_eq_true]

instance (s : World ι) : Decidable (s.Locked tenantId messageId) :=
  decidable_of_iff _ (s.locked_iff tenantId messageId).symm

end World

/-- Once a save has stored a locked quarantine, there is one after the step. -/
def QuarantineStays (s : World ι) (_ : Event ι) (t : World ι) : Prop :=
  s.quarantined = true → t.Locked tenantId messageId

instance (s : World ι) (e : Event ι) (t : World ι) :
    Decidable (QuarantineStays tenantId messageId s e t) :=
  inferInstanceAs (Decidable (_ = true → _))

/-- A job that is about to update the row after a quarantine was stored quarantines itself. -/
def UpdatesQuarantine (s : World ι) : Event ι → World ι → Prop
  | .run job _ _, _ => s.quarantined = true → ∀ a id, s.jobs job = .found a (some id) →
      (layer job).quarantines a.authenticationSignal = true
  | .crash _, _ => True

/-! ## What a job holds

A job holds the assessment that it has loaded, changed by its layer, and the id of the row it has found.
-/

/-- An assessment of the message that is locked exactly if its layer quarantines. -/
structure Assessed (l : Layer) (a : ThreatAssessment) : Prop where
  tenant : a.tenantId = tenantId
  message : a.messageId = messageId
  locked : a.quarantineDecision.isLocked = l.quarantines a.authenticationSignal

/-- What a job knows at each point: it starts from an assessment without a lock, and a row it has
found stays there. -/
def Knows (l : Layer) (t : ThreatAssessmentTable) : JobState → Prop
  | .loaded a => a.tenantId = tenantId ∧ a.messageId = messageId ∧
      a.quarantineDecision.isLocked = false ∧ a.assessmentLocked = false
  | .assessed a => Assessed tenantId messageId l a
  | .found a existing => Assessed tenantId messageId l a ∧
      ∀ id, existing = some id → ∃ r, t.find (tenantId, messageId) = some r ∧ r.id = id
  | _ => True

structure Inv (s : World ι) : Prop where
  jobs : ∀ job, Knows tenantId messageId (layer job) s.store (s.jobs job)
  stored : s.quarantined = true → s.Locked tenantId messageId

variable {tenantId messageId layer}

/-- A layer makes an assessed copy of a loaded one. -/
theorem assessed_of_loaded {now : ℤ} {l : Layer} {a a' : ThreatAssessment}
    {t : ThreatAssessmentTable} (h : Knows tenantId messageId l t (.loaded a))
    (ha' : a.assess now l = .ok a') : Assessed tenantId messageId l a' := by
  obtain ⟨htenant, hmessage, hdecision, hflag⟩ := h
  obtain ⟨b, hb, htenant', hmessage', hcases⟩ := assess_spec now hflag l
  rw [ha', Except.ok.injEq] at hb
  subst hb
  refine ⟨by rw [htenant', htenant], by rw [hmessage', hmessage], ?_⟩
  rw [quarantines_of_assess ha']
  rcases hcases with ⟨hq, hd, -⟩ | ⟨hq, -, hd | hd⟩
  · rw [hq, hd, QuarantineDecision.isLocked_quarantine_policy]
  · rw [hq, hd]
    rfl
  · rw [hq, hd, hdecision]

omit [DecidableEq ι] in
/-- A write keeps the row that another job has found. -/
theorem Knows.write {now : ℤ} {newId : String} {l l' : Layer} {a : ThreatAssessment}
    {existing : Option String} {t t' : ThreatAssessmentTable} {j : JobState}
    (hj : Knows tenantId messageId l t j) (ha : Knows tenantId messageId l' t (.found a existing))
    (ht' : write t now newId a existing = some t') : Knows tenantId messageId l t' j := by
  cases j with
  | found b existing' =>
    obtain ⟨⟨htenant, hmessage, -⟩, hexisting⟩ := ha
    subst htenant hmessage
    rw [write_eq] at ht'
    exact ⟨hj.1, Table.Found.write hj.2 rfl hexisting ht'⟩
  | _ => exact hj

/-- The row a job has written is a locked quarantine exactly if its layer quarantines. -/
theorem locked_commit_iff {now : ℤ} {newId : String} {l : Layer} {a : ThreatAssessment}
    {existing : Option String} {s : World ι} {t' : ThreatAssessmentTable} (job : ι)
    (ha : Knows tenantId messageId l s.store (.found a existing))
    (ht' : write s.store now newId a existing = some t') :
    (s.commit job a t').Locked tenantId messageId ↔
      l.quarantines a.authenticationSignal = true := by
  obtain ⟨⟨htenant, hmessage, hlocked⟩, hexisting⟩ := ha
  subst htenant hmessage
  obtain ⟨⟨r, hr, hdecision, hflag⟩, -⟩ := find_write hexisting ht'
  constructor
  · rintro ⟨r', hr', -, hr'flag⟩
    have heq : some r = some r' := hr.symm.trans hr'
    rw [← hlocked, ← hflag, Option.some.inj heq, hr'flag]
  · intro hq
    rw [← hlocked] at hq
    refine ⟨r, hr, ?_, by rw [hflag, hq]⟩
    rw [hdecision, QuarantineDecision.action_of_isLocked hq]

/-! ## Steps

While a job holds its copy, other jobs may save. Its save is right if the quarantine that is stored was in
the copy.
-/

omit [DecidableEq ι] in
/-- No call has begun in the beginning. -/
theorem inv_init (store : ThreatAssessmentTable) :
    Inv tenantId messageId layer (World.init store) :=
  ⟨fun _ => trivial, fun h => absurd h (by simp [World.init])⟩

/-- A job that moves on without writing keeps the invariant if it knows what it should. -/
theorem Inv.move {s : World ι} (hs : Inv tenantId messageId layer s) (job : ι) {j : JobState}
    (hj : Knows tenantId messageId (layer job) s.store j) :
    Inv tenantId messageId layer (s.move job j) := by
  refine ⟨?_, hs.stored⟩
  unfold World.move
  rw [Function.forall_update_iff s.jobs fun job' j => Knows tenantId messageId (layer job') s.store j]
  exact ⟨hj, fun job' _ => hs.jobs job'⟩

/-- A write keeps the invariant if it does not release a quarantine. -/
theorem Inv.commit {s : World ι} (hs : Inv tenantId messageId layer s) {job : ι} {now : ℤ}
    {newId : String} {a : ThreatAssessment} {existing : Option String}
    {t' : ThreatAssessmentTable} (hjob : s.jobs job = .found a existing)
    (ht' : write s.store now newId a existing = some t')
    (hq : s.quarantined = true → (layer job).quarantines a.authenticationSignal = true) :
    Inv tenantId messageId layer (s.commit job a t') := by
  have ha := hs.jobs job
  rw [hjob] at ha
  refine ⟨?_, fun hstored => ?_⟩
  · unfold World.commit World.move
    rw [Function.forall_update_iff s.jobs fun job' j => Knows tenantId messageId (layer job') t' j]
    exact ⟨trivial, fun job' _ => (hs.jobs job').write ha ht'⟩
  · rw [locked_commit_iff job ha ht']
    simp only [World.commit, Bool.or_eq_true] at hstored
    rcases hstored with hstored | hlocked
    · exact hq hstored
    · rw [← ha.1.locked, hlocked]

omit [DecidableEq ι] in
/-- A job that has found no row cannot create one once a quarantine is stored. -/
theorem write_none_of_quarantined {s : World ι} (hs : Inv tenantId messageId layer s) {job : ι}
    {a : ThreatAssessment} (hjob : s.jobs job = .found a none) (hq : s.quarantined = true)
    (now : ℤ) (newId : String) : write s.store now newId a none = none := by
  have ha := hs.jobs job
  rw [hjob] at ha
  obtain ⟨r, hr, -⟩ := hs.stored hq
  obtain ⟨htenant, hmessage, -⟩ := ha.1
  subst htenant hmessage
  rw [write_eq]
  exact Table.write_none_of_find hr

omit [DecidableEq ι] in
/-- A job that has found a row updates it: rows are never deleted. -/
theorem write_of_found {s : World ι} (hs : Inv tenantId messageId layer s) {job : ι}
    {a : ThreatAssessment} {id : String} (hjob : s.jobs job = .found a (some id)) (now : ℤ)
    (newId : String) : ∃ t', write s.store now newId a (some id) = some t' := by
  have ha := hs.jobs job
  rw [hjob] at ha
  rw [write_eq]
  exact Table.exists_write_of_found ha.2 _ _

/-- A step that does not release a quarantine preserves the invariant. -/
theorem Inv.step {s : World ι} (hs : Inv tenantId messageId layer s) (e : Event ι)
    (he : UpdatesQuarantine layer s e (s.step tenantId messageId layer e)) :
    Inv tenantId messageId layer (s.step tenantId messageId layer e) := by
  cases e with
  | crash job => exact hs.move job trivial
  | run job now newId =>
    have hknows := hs.jobs job
    cases hjob : s.jobs job with
    | start =>
      simp only [World.step, hjob]
      split
      · next a id hfind =>
        -- what is loaded has the tenant, the message and the decision of its row
        obtain ⟨htenant, hmessage, -, hdecision, hflag⟩ := of_findByMessageId hfind
        exact hs.move job ⟨htenant, hmessage, hdecision, hflag⟩
      · exact hs.move job ⟨rfl, rfl, rfl, rfl⟩
    | loaded a =>
      rw [hjob] at hknows
      simp only [World.step, hjob]
      split
      · next a' ha' => exact hs.move job (assessed_of_loaded hknows ha')
      · exact hs.move job trivial
    | assessed a =>
      rw [hjob] at hknows
      simp only [World.step, hjob]
      exact hs.move job ⟨hknows, found_findByMessageId s.store tenantId messageId⟩
    | found a existing =>
      simp only [World.step, hjob]
      split
      · next t' ht' =>
        refine hs.commit hjob ht' fun hq => ?_
        -- a quarantine has been stored since the lookup found nothing, and the key refuses a second
        -- row
        cases existing with
        | none =>
          rw [write_none_of_quarantined hs hjob hq] at ht'
          exact absurd ht' (by simp)
        | some id => exact he hq a id hjob
      · exact hs.move job trivial
    | failed =>
      simp only [World.step, hjob]
      exact hs.move job trivial
    | done =>
      simp only [World.step, hjob]
      exact hs

/-- From a state of the invariant, a step keeps the stored quarantine exactly if it updates it with
another one. -/
theorem quarantineStays_step_iff {s : World ι} (hs : Inv tenantId messageId layer s)
    (e : Event ι) :
    QuarantineStays tenantId messageId s e (s.step tenantId messageId layer e) ↔
      UpdatesQuarantine layer s e (s.step tenantId messageId layer e) := by
  cases e with
  | crash job => exact ⟨fun _ => trivial, fun _ => hs.stored⟩
  | run job now newId =>
    cases hjob : s.jobs job with
    | found a existing =>
      -- a create is refused by the unique key, so that the quarantine stays
      cases existing with
      | none =>
        have hvacuous : UpdatesQuarantine layer s (.run job now newId)
            (s.step tenantId messageId layer (.run job now newId)) := by
          intro _ b id hb
          rw [hjob] at hb
          cases hb
        refine ⟨fun _ => hvacuous, fun _ hq => ?_⟩
        simp only [World.step, hjob, write_none_of_quarantined hs hjob hq]
        exact hs.stored hq
      | some id =>
        -- an update writes the copy over the row, whatever the row has by now
        obtain ⟨t', ht'⟩ := write_of_found hs hjob now newId
        have ha := hs.jobs job
        rw [hjob] at ha
        simp only [QuarantineStays, World.step, hjob, ht', locked_commit_iff job ha ht',
          UpdatesQuarantine]
        refine imp_congr_right fun _ => ⟨fun hq b id' hb => ?_, fun hq => hq a id rfl⟩
        cases hb
        exact hq
    | _ =>
      refine ⟨fun _ _ b id hb => ?_, fun _ hq => ?_⟩
      · rw [hjob] at hb
        cases hb
      · obtain ⟨r, hr, hlocked⟩ := hs.stored hq
        refine ⟨r, ?_, hlocked⟩
        simp only [World.step, hjob]
        first
          | exact hr
          | split <;> exact hr

/-- A stored quarantine survives all jobs exactly if every job that updates the row after it also
quarantines. -/
theorem quarantineStays_iff (tenantId messageId : String) (layer : ι → Layer)
    (store : ThreatAssessmentTable) (events : List (Event ι)) :
    Along (QuarantineStays tenantId messageId) (World.init store)
        (exec (World.step tenantId messageId layer) (World.init store) events) ↔
      Along (UpdatesQuarantine layer) (World.init store)
        (exec (World.step tenantId messageId layer) (World.init store) events) := by
  refine along_iff (I := Inv tenantId messageId layer) ?_ ?_ (along_exec _ _ events)
    (inv_init store)
  · rintro s e t hs rfl
    exact quarantineStays_step_iff hs e
  · rintro s e t hs rfl he
    exact hs.step e he

end

/-! ## A release

A slower layer saves over a quarantine that it has not seen.
-/

/-- An authentication job on a DMARC failure, and a lookalike job on a harmless domain. -/
def twoLayers : Bool → Layer
  | true => .authentication ⟨.fail, .fail, .fail, .failed, false⟩
  | false => .lookalike ⟨"example.org", none, 999, false, true⟩

/-- The lookalike job loads the message, and goes on once the authentication job has saved. -/
def slowerLookalike : List (Event Bool) :=
  [.run false 0 "other", .run true 0 "row", .run true 0 "row", .run true 0 "row",
    .run true 0 "row", .run false 1 "other", .run false 1 "other", .run false 1 "other"]

/-- The slower, harmless layer releases the quarantined message. -/
theorem not_quarantineStays_slowerLookalike :
    ¬Along (QuarantineStays "tenant" "message") (World.init Table.empty)
      (exec (World.step "tenant" "message" twoLayers) (World.init Table.empty)
        slowerLookalike) := by
  decide +kernel

end EmailTriage.ThreatDetection.Concurrent
