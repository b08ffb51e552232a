import EmailTriage.Lib.KeyOrder
import EmailTriage.Lib.Runs
import EmailTriage.MailboxWriteback.MessageWriteBackState

/-!
# Runs of the write-back aggregate

The operations of one `MessageWriteBackState`, in any order. `quarantineActive` is computed from the
threat facet by the constructor and by `recordFacetApplication`, but not by `applyFacet`:
`agreesWithCopy_iff` says in which runs the aggregate nevertheless answers as the copy that is loaded
from its `toDb`.

`detectDivergence` compares with the platform state recorded last, which `applyFacet` does not touch:
`detects_iff` says when that tells apart what was applied and what is observed.

Both results are about the state after any sequence of operations, by a step lemma that is an
equivalence. For the flag it compares what the operation does to the threat facet with what it does to
the flag; for the divergence it follows the platform state that was recorded last, which is the only
thing `detectDivergence` reads.
-/

namespace EmailTriage.MailboxWriteback

open Js Runs
open MailboxIngestion (Platform)

/-! ## The stored form

The facets are stored as JSON. The quarantine flag is not stored, and computed again from the facet of the
threat.
-/

/-- The object `FacetApplication.toDb` builds. -/
structure FacetData where
  facetType : FacetType
  desiredValue : Value
  lastKnownPlatformState : Value
  status : ApplicationStatus
  lastAttemptAt : Option ℤ
  retryCount : ℕ

namespace FacetApplication

def toDb (f : FacetApplication) : FacetData where
  facetType := f.facetType
  desiredValue := f.desiredValue
  lastKnownPlatformState := f.lastKnownPlatformState
  status := f.status
  lastAttemptAt := f.lastAttemptAt
  retryCount := f.retryCount

def fromDb (data : FacetData) : FacetApplication where
  facetType := data.facetType
  desiredValue := data.desiredValue
  lastKnownPlatformState := data.lastKnownPlatformState
  status := data.status
  lastAttemptAt := data.lastAttemptAt
  retryCount := data.retryCount

end FacetApplication

namespace MessageWriteBackState

def toDb (a : MessageWriteBackState) : FacetType → Option FacetData := fun facetType =>
  (a.facets facetType).map FacetApplication.toDb

/-- The constructor on what `toDb` has written. -/
def load (tenantId mailboxId messageId : String) (facetsData : FacetType → Option FacetData) :
    MessageWriteBackState :=
  .new tenantId mailboxId messageId fun facetType => (facetsData facetType).map FacetApplication.fromDb

/-! ## Runs

The operations on one aggregate.
-/

/-- The operations of the aggregate. -/
inductive Operation where
  | recordFacetApplication (facet : FacetApplication)
  | applyFacet (facetType : FacetType) (desiredValue : Value) (platform : Platform) (now : ℤ)
  | recordFacetFailure (facetType : FacetType) (reason : Option WriteBackFailureReason) (now : ℤ)
  | detectDivergence (facetType : FacetType) (observedPlatformState : Value) (now : ℤ)

def step (a : MessageWriteBackState) : Operation → MessageWriteBackState
  | .recordFacetApplication facet => a.recordFacetApplication facet
  | .applyFacet facetType desiredValue platform now => a.applyFacet facetType desiredValue platform now
  | .recordFacetFailure facetType reason now => a.recordFacetFailure facetType reason now
  | .detectDivergence facetType observedPlatformState now =>
    a.detectDivergence facetType observedPlatformState now

/-! ## The reloaded copy

The flag of the live object follows the calls, the one of its copy the stored facet. They part where a
quarantine is created by a call that does not set the flag.
-/

/-- The copy that is loaded from `toDb` has the same records and suppresses the same facets. -/
def AgreesWithCopy (a : MessageWriteBackState) : Prop :=
  let copy := load a.tenantId a.mailboxId a.messageId a.toDb
  copy.facets = a.facets ∧
    ∀ facetType, copy.shouldSuppressFacet facetType = a.shouldSuppressFacet facetType

/-- A threat record that `applyFacet` creates does not ask for quarantine. -/
def CreatesNoQuarantine (a : MessageWriteBackState) : Operation → MessageWriteBackState → Prop
  | .applyFacet facetType desiredValue _ _, _ =>
    facetType = .threat → a.facets .threat = none → quarantines desiredValue = false
  | _, _ => True

/-- Whether the threat record asks for quarantine. -/
def threatQuarantines (facets : Facets) : Bool :=
  (facets .threat).any fun threatFacet => quarantines threatFacet.desiredValue

/-- The flag decides what is suppressed. -/
theorem agreesWithCopy_iff_flag (a : MessageWriteBackState) :
    AgreesWithCopy a ↔ a.quarantineActive = threatQuarantines a.facets := by
  have hfacets : (load a.tenantId a.mailboxId a.messageId a.toDb).facets = a.facets := by
    funext facetType
    have hrecord : ∀ f : FacetApplication, FacetApplication.fromDb f.toDb = f := fun _ => rfl
    simp [load, new, updateQuarantineStatus, toDb, Option.map_map, Function.comp_def, hrecord]
  have hflag : (load a.tenantId a.mailboxId a.messageId a.toDb).quarantineActive =
      threatQuarantines a.facets := by
    rw [← hfacets]
    rfl
  unfold AgreesWithCopy
  dsimp only
  rw [and_iff_right hfacets]
  unfold shouldSuppressFacet
  rw [hflag]
  constructor
  · intro h
    have hcategory := h .category
    revert hcategory
    rcases threatQuarantines a.facets with _ | _ <;> rcases a.quarantineActive with _ | _ <;> decide
  · intro h facetType
    rw [h]

/-- A record that keeps the desired value of the one it replaces leaves the facets as they ask; a new one
asks for what its own value does. -/
theorem threatQuarantines_update (facets : Facets) (facetType : FacetType) {f : FacetApplication}
    {created : Value}
    (hf : f.desiredValue = ((facets facetType).map (·.desiredValue)).getD created) :
    threatQuarantines (Function.update facets facetType (some f)) =
      if facetType = .threat ∧ facets .threat = none then quarantines created
      else threatQuarantines facets := by
  unfold threatQuarantines
  by_cases hthreat : facetType = .threat
  · subst hthreat
    rw [Function.update_self, Option.any_some, hf]
    rcases facets .threat with _ | existing
    · rw [if_pos ⟨rfl, rfl⟩]
      rfl
    · rw [if_neg fun h => Option.some_ne_none existing h.2]
      rfl
  · rw [Function.update_of_ne (Ne.symm hthreat), if_neg fun h => hthreat h.1]

/-- Applying a facet does not change whether the message is in quarantine. -/
theorem quarantineActive_applyFacet (a : MessageWriteBackState) (facetType : FacetType)
    (desiredValue : Value) (platform : Platform) (now : ℤ) :
    (a.applyFacet facetType desiredValue platform now).quarantineActive = a.quarantineActive := by
  unfold applyFacet
  dsimp only
  split
  · rfl
  · rfl

/-- Without a threat record there is nothing that asks for quarantine. -/
theorem threatQuarantines_of_none {facets : Facets} (h : facets .threat = none) :
    threatQuarantines facets = false := by
  unfold threatQuarantines
  rw [h]
  rfl

/-- A failure leaves the facets as they ask: a new record has the empty object, which asks for nothing. -/
theorem threatQuarantines_recordFacetFailure (a : MessageWriteBackState) (facetType : FacetType)
    (reason : Option WriteBackFailureReason) (now : ℤ) :
    threatQuarantines (a.recordFacetFailure facetType reason now).facets = threatQuarantines a.facets := by
  rw [facets_recordFacetFailure, threatQuarantines_update a.facets facetType (desiredValue_failed ..)]
  split_ifs with hcreates
  · rw [threatQuarantines_of_none hcreates.2]
    rfl
  · rfl

/-- An observation leaves the flag and what the facets ask for. -/
theorem flag_detectDivergence (a : MessageWriteBackState) (facetType : FacetType)
    (observedPlatformState : Value) (now : ℤ) :
    (a.detectDivergence facetType observedPlatformState now).quarantineActive = a.quarantineActive ∧
      threatQuarantines (a.detectDivergence facetType observedPlatformState now).facets =
        threatQuarantines a.facets := by
  unfold detectDivergence
  split
  · exact ⟨rfl, rfl⟩
  · next facet hfacet =>
    split
    · exact ⟨rfl, rfl⟩
    · have hdesired : (facet.withPlatformState observedPlatformState).desiredValue =
          ((a.facets facetType).map (·.desiredValue)).getD facet.desiredValue := by
        rw [hfacet]
        rfl
      refine ⟨rfl, ?_⟩
      unfold setFacet push
      dsimp only
      rw [threatQuarantines_update a.facets facetType hdesired, if_neg]
      rintro ⟨rfl, hnone⟩
      rw [hfacet] at hnone
      cases hnone

/-- No operation but `applyFacet` makes the flag differ from what the threat record asks for. -/
theorem agreesWithCopy_step {a : MessageWriteBackState} (ha : AgreesWithCopy a) (op : Operation) :
    AgreesWithCopy (a.step op) ↔ CreatesNoQuarantine a op (a.step op) := by
  rw [agreesWithCopy_iff_flag] at ha ⊢
  cases op with
  | recordFacetApplication facet => exact iff_of_true rfl trivial
  | applyFacet facetType desiredValue platform now =>
    unfold CreatesNoQuarantine step
    dsimp only
    rw [quarantineActive_applyFacet, facets_applyFacet,
      threatQuarantines_update a.facets facetType (desiredValue_applied ..), ha]
    by_cases hcreates : facetType = .threat ∧ a.facets .threat = none
    · rw [if_pos hcreates, threatQuarantines_of_none hcreates.2]
      exact ⟨fun h _ _ => h.symm, fun h => (h hcreates.1 hcreates.2).symm⟩
    · rw [if_neg hcreates]
      exact iff_of_true rfl fun hthreat hnone => absurd ⟨hthreat, hnone⟩ hcreates
  | recordFacetFailure facetType reason now =>
    refine iff_of_true ?_ trivial
    exact ha.trans (threatQuarantines_recordFacetFailure a facetType reason now).symm
  | detectDivergence facetType observedPlatformState now =>
    obtain ⟨hflag, hfacets⟩ := flag_detectDivergence a facetType observedPlatformState now
    refine iff_of_true ?_ trivial
    exact hflag.trans (ha.trans hfacets.symm)

/-- In every run, the aggregate answers as the copy that is loaded from its `toDb` exactly if `applyFacet`
creates no threat record that asks for quarantine. -/
theorem agreesWithCopy_iff (tenantId mailboxId messageId : String) (ops : List Operation) :
    Along (fun _ _ a => AgreesWithCopy a) (create tenantId mailboxId messageId)
        (exec step (create tenantId mailboxId messageId) ops) ↔
      Along CreatesNoQuarantine (create tenantId mailboxId messageId)
        (exec step (create tenantId mailboxId messageId) ops) := by
  refine along_iff (I := AgreesWithCopy) ?_ ?_ (along_exec _ _ ops)
    ((agreesWithCopy_iff_flag _).mpr rfl)
  · rintro a op a' ha rfl
    exact agreesWithCopy_step ha op
  · rintro a op a' ha rfl hop
    exact (agreesWithCopy_step ha op).mpr hop

/-- A quarantine is applied to a message without records. -/
theorem not_agreesWithCopy_quarantined : ¬Along (fun _ _ a => AgreesWithCopy a)
    (create "tenant" "mailbox" "message") (exec step (create "tenant" "mailbox" "message")
      [.applyFacet .threat (.obj [("quarantined", .bool true)]) .gmail 0]) := by
  rintro ⟨hlast, -⟩
  exact absurd ((agreesWithCopy_iff_flag _).mp hlast) (by decide +kernel)

/-! ## Divergence

What is observed on the platform is compared with what was recorded, as printed texts.
-/

/-- The platform state recorded for a facet. -/
def recordedState (a : MessageWriteBackState) (facetType : FacetType) : Value :=
  ((a.facets facetType).map (·.lastKnownPlatformState)).getD .null

/-- `detectDivergence` keeps all records but for the platform state of its facet. -/
structure OnlyObserves (a a' : MessageWriteBackState) (facetType : FacetType) : Prop where
  other : ∀ facetType', facetType' ≠ facetType → a'.facets facetType' = a.facets facetType'
  desiredValue : (a'.facets facetType).map (·.desiredValue) = (a.facets facetType).map (·.desiredValue)
  status : (a'.facets facetType).map (·.status) = (a.facets facetType).map (·.status)
  retryCount : (a'.facets facetType).map (·.retryCount) = (a.facets facetType).map (·.retryCount)

/-- `detectDivergence` emits one event exactly if what is observed prints otherwise than what is recorded,
and records it. -/
theorem detectDivergence_spec {a : MessageWriteBackState} {facetType : FacetType}
    {facet : FacetApplication} (hfacet : a.facets facetType = some facet) (observed : Value) (now : ℤ) :
    (a.detectDivergence facetType observed now).domainEvents =
        (if sameJson facet.lastKnownPlatformState observed then a.domainEvents
        else a.domainEvents ++ [.WriteBackDivergenceDetected a.tenantId a.mailboxId a.messageId
          facetType facet.lastKnownPlatformState observed now]) ∧
      ∃ facet', (a.detectDivergence facetType observed now).facets facetType = some facet' ∧
        sameJson facet'.lastKnownPlatformState observed = true := by
  unfold detectDivergence
  rw [hfacet]
  dsimp only
  by_cases hsame : sameJson facet.lastKnownPlatformState observed = true
  · rw [if_pos hsame, if_pos hsame]
    exact ⟨rfl, facet, hfacet, hsame⟩
  · rw [if_neg hsame, if_neg hsame]
    refine ⟨rfl, facet.withPlatformState observed, Function.update_self .., ?_⟩
    exact decide_eq_true rfl

/-- `detectDivergence` changes no value, no status and no count. -/
theorem onlyObserves_detectDivergence (a : MessageWriteBackState) (facetType : FacetType)
    (observed : Value) (now : ℤ) :
    OnlyObserves a (a.detectDivergence facetType observed now) facetType := by
  unfold detectDivergence
  split
  · exact ⟨fun _ _ => rfl, rfl, rfl, rfl⟩
  · next facet hfacet =>
    split
    · exact ⟨fun _ _ => rfl, rfl, rfl, rfl⟩
    · have hrecord : ((a.push (.WriteBackDivergenceDetected a.tenantId a.mailboxId a.messageId facetType
          facet.lastKnownPlatformState observed now)).setFacet facetType
            (facet.withPlatformState observed)).facets facetType =
          some (facet.withPlatformState observed) := Function.update_self ..
      refine ⟨fun facetType' hne => Function.update_of_ne hne .., ?_, ?_, ?_⟩ <;>
        rw [hrecord, hfacet] <;> rfl

/-- What divergence detection should do right after `applyFacet`. -/
structure Detects (a : MessageWriteBackState) (facetType : FacetType) (v observed : Value)
    (platform : Platform) (now now' : ℤ) : Prop where
  silent : SameValue v observed →
    ((a.applyFacet facetType v platform now).detectDivergence facetType observed now').domainEvents =
      (a.applyFacet facetType v platform now).domainEvents
  emits : ¬SameValue v observed → ∃ expected,
    ((a.applyFacet facetType v platform now).detectDivergence facetType observed now').domainEvents =
      (a.applyFacet facetType v platform now).domainEvents ++
        [.WriteBackDivergenceDetected a.tenantId a.mailboxId a.messageId facetType expected observed
          now']
  again : ∀ now'',
    (((a.applyFacet facetType v platform now).detectDivergence facetType observed now').detectDivergence
      facetType observed now'').domainEvents =
      ((a.applyFacet facetType v platform now).detectDivergence facetType observed now').domainEvents
  onlyObserves : ∀ (b : MessageWriteBackState) facetType' observed' now'',
    OnlyObserves b (b.detectDivergence facetType' observed' now'') facetType'

/-- `applyFacet` leaves a record with the platform state recorded before. -/
theorem exists_facet_applyFacet (a : MessageWriteBackState) (facetType : FacetType) (v : Value)
    (platform : Platform) (now : ℤ) : ∃ facet,
      (a.applyFacet facetType v platform now).facets facetType = some facet ∧
        facet.lastKnownPlatformState = a.recordedState facetType := by
  rw [facets_applyFacet, Function.update_self]
  refine ⟨_, rfl, ?_⟩
  unfold applied recordedState
  rcases a.facets facetType with _ | existing
  · dsimp only
    split
    · rfl
    · rfl
  · dsimp only
    split
    · rfl
    · rfl

/-- Applying a facet does not change which message it is. -/
theorem ids_applyFacet (a : MessageWriteBackState) (facetType : FacetType) (v : Value)
    (platform : Platform) (now : ℤ) :
    (a.applyFacet facetType v platform now).tenantId = a.tenantId ∧
      (a.applyFacet facetType v platform now).mailboxId = a.mailboxId ∧
      (a.applyFacet facetType v platform now).messageId = a.messageId := by
  unfold applyFacet
  dsimp only
  split
  · exact ⟨rfl, rfl, rfl⟩
  · exact ⟨rfl, rfl, rfl⟩

/-- Right after `applyFacet`, divergence is detected as it should be exactly if the state recorded before
prints as what is observed just in case that is the value applied. -/
theorem detects_iff (a : MessageWriteBackState) (facetType : FacetType) (v observed : Value)
    (platform : Platform) (now now' : ℤ) :
    Detects a facetType v observed platform now now' ↔
      (sameJson (a.recordedState facetType) observed = true ↔ SameValue v observed) := by
  obtain ⟨facet, hfacet, hrecorded⟩ := exists_facet_applyFacet a facetType v platform now
  obtain ⟨htenant, hmailbox, hmessage⟩ := ids_applyFacet a facetType v platform now
  obtain ⟨hevents, facet', hfacet', hsame⟩ := detectDivergence_spec hfacet observed now'
  rw [hrecorded, htenant, hmailbox, hmessage] at hevents
  constructor
  · rintro ⟨hsilent, hemits, -, -⟩
    constructor
    · intro hprints
      by_contra hdiffers
      obtain ⟨expected, hexpected⟩ := hemits hdiffers
      rw [hevents, if_pos hprints] at hexpected
      exact List.cons_ne_nil _ _ (List.self_eq_append_right.mp hexpected)
    · intro hv
      by_contra hprints
      have hnothing := hsilent hv
      rw [hevents, if_neg hprints] at hnothing
      exact List.cons_ne_nil _ _ (List.append_right_eq_self.mp hnothing)
  · intro h
    refine ⟨fun hv => ?_, fun hv => ⟨a.recordedState facetType, ?_⟩, fun now'' => ?_, ?_⟩
    · rw [hevents, if_pos (h.mpr hv)]
    · rw [hevents, if_neg fun hprints => hv (h.mp hprints)]
    · rw [(detectDivergence_spec hfacet' observed now'').1, if_pos hsame]
    · exact onlyObserves_detectDivergence

/-- A label is applied to a message without records, and observed. -/
theorem not_detects_applied :
    ¬Detects (create "tenant" "mailbox" "message") .category (.str "Work") (.str "Work") .gmail 0 1 := by
  intro h
  have hlength := congrArg List.length (h.silent (.refl _))
  exact absurd hlength (by decide +kernel)

end MessageWriteBackState

end EmailTriage.MailboxWriteback
