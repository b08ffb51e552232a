import EmailTriage.ThreatDetection.AssessmentRuns

/-!
# The JSON of a threat assessment

`ThreatAssessment.toJSON` and `fromJSON`. The lock is written, but not read: the constructor computes it
from the decision. `roundTrips_run_iff` says in which runs every assessment on the way is read back as it
was written.

`roundTrips_iff` says of one assessment when it is read back as it was: its lock has to be the one that
its decision implies. A layer sets both together. An override sets the decision and leaves the lock, so
the condition on a run is about its overrides, and which action they set.
-/

namespace EmailTriage.ThreatDetection

open Js Runs

/-- `date.toISOString()`, which throws on an invalid date. -/
def isoText : Date → Except Exception Value
  | none => .error .rangeError
  | some t => .ok (.str (Date.toISOString t))

namespace QuarantineDecision

/-- A decision with a valid date is read back. -/
theorem fromJSON_toJSON {d : QuarantineDecision} {t : Date.Instant} (h : d.decidedAt = some t.1) :
    ∃ json, d.toJSON = .ok json ∧ fromJSON json = some d := by
  obtain ⟨action, decidedBy, decidedAt, reversible⟩ := d
  obtain rfl : decidedAt = some t.1 := h
  refine ⟨_, rfl, ?_⟩
  simp [fromJSON, fieldOr, Date.ofValue, Date.parse_toISOString]

end QuarantineDecision

namespace ThreatAssessment

def toJSON (a : ThreatAssessment) : Except Exception Value := do
  let quarantineDecision ← a.quarantineDecision.toJSON
  let createdAt ← isoText a.createdAt
  let updatedAt ← isoText a.updatedAt
  return .obj
    [("tenantId", toValue a.tenantId), ("messageId", toValue a.messageId),
      ("authenticationSignal", toNullable a.authenticationSignal),
      ("lookalikeScore", toNullable a.lookalikeScore),
      ("intentClassification", toNullable a.intentClassification),
      ("quarantineDecision", quarantineDecision), ("highestTierReached", toValue a.highestTierReached),
      ("assessmentLocked", toValue a.assessmentLocked), ("createdAt", createdAt),
      ("updatedAt", updatedAt)]

/-- What is written reads back as the same assessment, with the same lock. -/
def RoundTrips (a : ThreatAssessment) : Prop := ∃ json, a.toJSON = .ok json ∧ fromJSON json = some a

/-- The dates of an assessment, of which only that of the decision may be invalid. -/
structure Dated (a : ThreatAssessment) : Prop where
  createdAt : ∃ t : Date.Instant, a.createdAt = some t.1
  updatedAt : ∃ t : Date.Instant, a.updatedAt = some t.1
  decidedAt : a.quarantineDecision.decidedAt.Representable

/-- An assessment is read back exactly if its lock is that of its decision, and the date of that is
valid. -/
theorem roundTrips_iff {a : ThreatAssessment} (ha : Dated a) :
    RoundTrips a ↔ a.assessmentLocked = a.quarantineDecision.isLocked ∧
      a.quarantineDecision.decidedAt ≠ none := by
  obtain ⟨⟨created, hcreated⟩, ⟨updated, hupdated⟩, hdecided⟩ := ha
  rcases hdate : a.quarantineDecision.decidedAt with _ | t
  · refine iff_of_false ?_ fun h => h.2 rfl
    rintro ⟨json, hjson, -⟩
    have hthrows : a.toJSON = .error .rangeError := by
      unfold toJSON QuarantineDecision.toJSON
      rw [hdate]
      rfl
    rw [hthrows] at hjson
    cases hjson
  · obtain ⟨decision, hdecision, hread⟩ :=
      QuarantineDecision.fromJSON_toJSON (t := ⟨t, hdecided t hdate⟩) hdate
    obtain ⟨json, hjson, hcopy⟩ : ∃ json, a.toJSON = .ok json ∧ fromJSON json =
        some { a with assessmentLocked := a.quarantineDecision.isLocked } := by
      unfold toJSON
      rw [hdecision, hcreated, hupdated]
      refine ⟨_, rfl, ?_⟩
      simp [fromJSON, hread, JsonColumn.ofTruthy_toNullable, Date.ofValue, Date.parse_toISOString, new,
        ← hcreated, ← hupdated]
    unfold RoundTrips
    rw [hjson]
    simp only [Except.ok.injEq, exists_eq_left', hcopy, Option.some.injEq]
    obtain ⟨tenantId, messageId, auth, score, intent, decision', tier, createdAt, updatedAt, lock⟩ := a
    simp [eq_comm]

/-! ## Runs

Every operation keeps the invariant under which an assessment is read back as it was written. An override
may break it: with a decision whose lock does not fit its maker.
-/

/-- The decision an override brings is not one that would lock, and has a valid date. -/
def OverridesCoherently (a : ThreatAssessment) : Operation → ThreatAssessment → Prop
  | .overrideQuarantine _ newDecision _, _ =>
    a.assessmentLocked = true → newDecision.decidedBy ≠ .policy →
      newDecision.isLocked = false ∧ newDecision.decidedAt ≠ none
  | .assess .., _ => True

/-- A new assessment has valid dates. -/
theorem dated_create (now : Date.Instant) (tenantId messageId : String) :
    Dated (create now tenantId messageId) :=
  ⟨⟨now, rfl⟩, ⟨now, rfl⟩, Date.representable_some now⟩

/-- It is read back as it is. -/
theorem roundTrips_create (now : Date.Instant) (tenantId messageId : String) :
    RoundTrips (create now tenantId messageId) :=
  (roundTrips_iff (dated_create now tenantId messageId)).mpr ⟨rfl, Option.some_ne_none _⟩

/-- A layer does not change when the assessment was made. -/
theorem createdAt_record (a : ThreatAssessment) (layer : Layer) :
    (a.record layer).createdAt = a.createdAt := by
  cases layer <;> rfl

/-- The decision a layer leaves is dated, and locked exactly if the layer quarantines. -/
theorem decision_spec (now : Date.Instant) (recorded : Option AuthenticationSignal)
    {previous : QuarantineDecision} (hlocked : previous.isLocked = false)
    (hdate : ∃ t : Date.Instant, previous.decidedAt = some t.1) (layer : Layer) :
    (layer.decision now recorded previous).isLocked = layer.quarantines recorded ∧
      ∃ t : Date.Instant, (layer.decision now recorded previous).decidedAt = some t.1 := by
  unfold Layer.decision
  rcases layer.quarantines recorded with _ | _
  · rcases layer.flags with _ | _
    · exact ⟨hlocked, hdate⟩
    · exact ⟨rfl, now, rfl⟩
  · exact ⟨rfl, now, rfl⟩

/-- An override takes the decision it brings and unlocks. -/
theorem overrideQuarantine_eq (now : ℤ) (a : ThreatAssessment) (newDecision : QuarantineDecision) :
    (a.assessmentLocked = true ∧ newDecision.decidedBy ≠ .policy ∧
        a.overrideQuarantine now newDecision = .ok { a with
          quarantineDecision := newDecision, assessmentLocked := false, updatedAt := some now }) ∨
      (¬(a.assessmentLocked = true ∧ newDecision.decidedBy ≠ .policy) ∧
        ∃ e, a.overrideQuarantine now newDecision = .error e) := by
  unfold overrideQuarantine
  rcases a.assessmentLocked with _ | _
  · exact .inr ⟨fun h => Bool.false_ne_true h.1, _, rfl⟩
  · rcases newDecision.decidedBy with _ | _ | _
    · exact .inr ⟨fun h => h.2 rfl, _, rfl⟩
    · exact .inl ⟨rfl, by decide, rfl⟩
    · exact .inl ⟨rfl, by decide, rfl⟩

/-- A layer that runs on an assessment that is read back leads to one. -/
theorem roundTrips_assess {a : ThreatAssessment} (ha : Dated a) (hread : RoundTrips a)
    (now : Date.Instant) (layer : Layer) :
    Dated (a.step (.assess now layer)) ∧ RoundTrips (a.step (.assess now layer)) := by
  obtain ⟨hlock, hvalid⟩ := (roundTrips_iff ha).mp hread
  rcases hlocked : a.assessmentLocked with _ | _
  · obtain ⟨t, ht⟩ := Option.ne_none_iff_exists'.mp hvalid
    obtain ⟨hdecision, u, hu⟩ := decision_spec now a.authenticationSignal
      (hlock.symm.trans hlocked) ⟨⟨t, ha.decidedAt t ht⟩, ht⟩ layer
    rw [step_assess_of_unlocked hlocked]
    have hdated : Dated { a.record layer with
        quarantineDecision := layer.decision now a.authenticationSignal a.quarantineDecision
        highestTierReached := layer.tier
        updatedAt := some now.1
        assessmentLocked := layer.quarantines a.authenticationSignal } := by
      refine ⟨?_, ⟨now, rfl⟩, ?_⟩
      · dsimp only
        rw [createdAt_record]
        exact ha.createdAt
      · dsimp only
        rw [hu]
        exact Date.representable_some u
    refine ⟨hdated, (roundTrips_iff hdated).mpr ⟨hdecision.symm, ?_⟩⟩
    dsimp only
    rw [hu]
    exact Option.some_ne_none _
  · rw [step_assess_of_locked hlocked]
    exact ⟨ha, hread⟩

/-- A step from an assessment that is read back leads to one exactly if an override is coherent. -/
theorem roundTrips_step {a : ThreatAssessment} (ha : Dated a) (hread : RoundTrips a) (op : Operation) :
    Dated (a.step op) ∧ (RoundTrips (a.step op) ↔ OverridesCoherently a op (a.step op)) := by
  cases op with
  | assess now layer =>
    obtain ⟨hdated, hroundTrips⟩ := roundTrips_assess ha hread now layer
    exact ⟨hdated, iff_of_true hroundTrips trivial⟩
  | overrideQuarantine now newDecision representable =>
    unfold OverridesCoherently step perform
    dsimp only
    rcases overrideQuarantine_eq now a newDecision with ⟨hlocked, hmaker, hok⟩ | ⟨hrejected, e, he⟩
    · rw [hok]
      have hdated : Dated { a with
          quarantineDecision := newDecision, assessmentLocked := false, updatedAt := some now.1 } :=
        ⟨ha.createdAt, ⟨now, rfl⟩, representable⟩
      refine ⟨hdated, (roundTrips_iff hdated).trans ?_⟩
      exact ⟨fun h _ _ => ⟨h.1.symm, h.2⟩,
        fun h => ⟨(h hlocked hmaker).1.symm, (h hlocked hmaker).2⟩⟩
    · rw [he]
      exact ⟨ha, iff_of_true hread fun hlocked hmaker => absurd ⟨hlocked, hmaker⟩ hrejected⟩

/-- Every assessment of a run is read back as it was written, and so answers every further operation
alike, exactly if no override brings a decision that would lock or has no valid date. -/
theorem roundTrips_run_iff (now : Date.Instant) (tenantId messageId : String)
    (ops : List Operation) :
    RoundTrips (create now tenantId messageId) ∧
        Along (fun _ _ a => RoundTrips a) (create now tenantId messageId)
          (exec step (create now tenantId messageId) ops) ↔
      Along OverridesCoherently (create now tenantId messageId)
        (exec step (create now tenantId messageId) ops) := by
  rw [and_iff_right (roundTrips_create now tenantId messageId)]
  refine along_iff (I := fun a => Dated a ∧ RoundTrips a) ?_ ?_ (along_exec _ _ ops)
    ⟨dated_create now tenantId messageId, roundTrips_create now tenantId messageId⟩
  · rintro a op a' ⟨ha, hread⟩ rfl
    exact (roundTrips_step ha hread op).2
  · rintro a op a' ⟨ha, hread⟩ rfl hop
    obtain ⟨hdated, hiff⟩ := roundTrips_step ha hread op
    exact ⟨hdated, hiff.mpr hop⟩

/-- DMARC fails, and an administrator makes the quarantine final. -/
def finalQuarantine : List Operation :=
  [.assess epoch (.authentication ⟨.fail, .fail, .fail, .failed, false⟩),
    .overrideQuarantine epoch ⟨.Quarantine, .admin, some 0, false⟩ (Date.representable_some epoch)]

/-- The assessment is unlocked, and the copy that is read back is locked. -/
theorem not_roundTrips_finalQuarantine : ¬(RoundTrips (create 0 "tenant" "message") ∧
    Along (fun _ _ a => RoundTrips a) (create 0 "tenant" "message")
      (exec step (create 0 "tenant" "message") finalQuarantine)) := by
  rintro ⟨-, -, hlast, -⟩
  have hdated : Dated (exec step (create 0 "tenant" "message") finalQuarantine)[1].2 :=
    ⟨⟨epoch, rfl⟩, ⟨epoch, rfl⟩, Date.representable_some epoch⟩
  exact absurd ((roundTrips_iff hdated).mp hlast).1 (by decide)

end ThreatAssessment

end EmailTriage.ThreatDetection
