import EmailTriage.ThreatDetection.ValueObjects

/-!
# The threat assessment aggregate

`src/threat-detection/domain/aggregates/threat-assessment.aggregate.ts`. Each detection layer
records its signal and may decide; a quarantine that policy decides locks the assessment, and only
`overrideQuarantine` unlocks it. The lock is a private flag beside the decision: the constructor
computes it from the decision, the operations set it by hand.

A method that assigns fields and may throw is a function to `Except`; `new Date()` is the argument
`now`.
-/

namespace EmailTriage.ThreatDetection

open Js

inductive ThreatTier where
  | AuthCheck
  | LookalikeCheck
  | IntentLlm
deriving DecidableEq

instance : Codec ThreatTier where
  toValue
    | .AuthCheck => .str "AuthCheck"
    | .LookalikeCheck => .str "LookalikeCheck"
    | .IntentLlm => .str "IntentLlm"
  ofValue
    | .str "AuthCheck" => some .AuthCheck
    | .str "LookalikeCheck" => some .LookalikeCheck
    | .str "IntentLlm" => some .IntentLlm
    | _ => none
  ofValue_toValue a := by cases a <;> rfl
  orElse_toValue a _ := by cases a <;> rfl

structure ThreatAssessment where
  tenantId : String
  messageId : String
  authenticationSignal : Option AuthenticationSignal
  lookalikeScore : Option LookalikeScore
  intentClassification : Option IntentClassification
  quarantineDecision : QuarantineDecision
  highestTierReached : ThreatTier
  createdAt : Date
  updatedAt : Date
  assessmentLocked : Bool

namespace ThreatAssessment

/-- The constructor: the lock flag is computed from the decision. -/
def new (tenantId messageId : String) (authenticationSignal : Option AuthenticationSignal)
    (lookalikeScore : Option LookalikeScore) (intentClassification : Option IntentClassification)
    (quarantineDecision : QuarantineDecision) (highestTierReached : ThreatTier)
    (createdAt updatedAt : Date) : ThreatAssessment :=
  { tenantId, messageId, authenticationSignal, lookalikeScore, intentClassification,
    quarantineDecision, highestTierReached, createdAt, updatedAt
    assessmentLocked := quarantineDecision.isLocked }

def create (now : ℤ) (tenantId messageId : String) : ThreatAssessment :=
  new tenantId messageId none none none (QuarantineDecision.none now) .AuthCheck (some now) (some now)

/-- The error of an assessment that is already locked. -/
def lockedError : Exception := .error "Assessment is locked and cannot be modified"

def assessAuthentication (now : ℤ) (a : ThreatAssessment) (signal : AuthenticationSignal) :
    Except Exception ThreatAssessment :=
  if a.assessmentLocked then .error lockedError
  else
    let a := { a with
      authenticationSignal := some signal, highestTierReached := .AuthCheck, updatedAt := some now }
    if signal.isHighRisk then
      .ok { a with
        quarantineDecision := QuarantineDecision.quarantine now .policy, assessmentLocked := true }
    else .ok a

def assessLookalike (now : ℤ) (a : ThreatAssessment) (score : LookalikeScore) :
    Except Exception ThreatAssessment :=
  if a.assessmentLocked then .error lockedError
  else
    let a := { a with
      lookalikeScore := some score, highestTierReached := .LookalikeCheck, updatedAt := some now }
    if score.isHighRisk && a.authenticationSignal.any (·.isHighRisk) then
      .ok { a with
        quarantineDecision := QuarantineDecision.quarantine now .policy, assessmentLocked := true }
    else if score.isHighRisk then
      .ok { a with quarantineDecision := QuarantineDecision.flag now }
    else .ok a

def assessIntentClassification (now : ℤ) (a : ThreatAssessment) (intent : IntentClassification) :
    Except Exception ThreatAssessment :=
  if a.assessmentLocked then .error lockedError
  else
    let a := { a with
      intentClassification := some intent, highestTierReached := .IntentLlm, updatedAt := some now }
    if intent.isHighConfidence then
      .ok { a with
        quarantineDecision := QuarantineDecision.quarantine now .policy, assessmentLocked := true }
    else if intent.intent ≠ .None ∧ intent.confidence ≥ 5 / 10 then
      .ok { a with quarantineDecision := QuarantineDecision.flag now }
    else .ok a

def overrideQuarantine (now : ℤ) (a : ThreatAssessment) (newDecision : QuarantineDecision) :
    Except Exception ThreatAssessment :=
  if !a.assessmentLocked then .error (.error "Can only override a locked quarantine")
  else if newDecision.decidedBy ≠ .admin ∧ newDecision.decidedBy ≠ .user then
    .error (.error "Overrides must be from admin or user, not policy")
  else .ok { a with
    quarantineDecision := newDecision, assessmentLocked := false, updatedAt := some now }

/-- `ThreatAssessment.fromJSON`; `none` where a field lies outside its declared type. -/
def fromJSON (json : Value) : Option ThreatAssessment := do
  let tenantId ← ofValue (json.get "tenantId")
  let messageId ← ofValue (json.get "messageId")
  let authenticationSignal ← ofTruthy (json.get "authenticationSignal")
  let lookalikeScore ← ofTruthy (json.get "lookalikeScore")
  let intentClassification ← ofTruthy (json.get "intentClassification")
  let quarantineDecision ← QuarantineDecision.fromJSON (json.get "quarantineDecision")
  let highestTierReached ← ofValue (json.get "highestTierReached")
  return new tenantId messageId authenticationSignal lookalikeScore intentClassification
    quarantineDecision highestTierReached (Date.ofValue (json.get "createdAt"))
    (Date.ofValue (json.get "updatedAt"))

/-! ## The three layers as one operation

What a layer does once the lock is off, and when it quarantines.
-/

/-- The signal one detection layer hands to the aggregate. -/
inductive Layer where
  | authentication (signal : AuthenticationSignal)
  | lookalike (score : LookalikeScore)
  | intent (classification : IntentClassification)

/-- The assessment operation of a layer. -/
def assess (now : ℤ) (a : ThreatAssessment) : Layer → Except Exception ThreatAssessment
  | .authentication signal => a.assessAuthentication now signal
  | .lookalike score => a.assessLookalike now score
  | .intent classification => a.assessIntentClassification now classification

/-- Whether a layer quarantines by itself, beside the authentication signal already recorded. -/
def Layer.quarantines (recorded : Option AuthenticationSignal) : Layer → Bool
  | .authentication signal => signal.isHighRisk
  | .lookalike score => score.isHighRisk && recorded.any (·.isHighRisk)
  | .intent classification => classification.isHighConfidence

/-- A locked assessment rejects every layer. -/
theorem assess_of_locked {now : ℤ} {a : ThreatAssessment} (h : a.assessmentLocked = true)
    (layer : Layer) : a.assess now layer = .error lockedError := by
  cases layer <;> simp [assess, assessAuthentication, assessLookalike, assessIntentClassification, h]

/-- What a layer makes of an unlocked assessment: it stays the assessment of its message; its
decision is a locked quarantine if the layer quarantines, else a flag or the decision it had. -/
theorem assess_spec (now : ℤ) {a : ThreatAssessment} (h : a.assessmentLocked = false)
    (layer : Layer) :
    ∃ a', a.assess now layer = .ok a' ∧ a'.tenantId = a.tenantId ∧ a'.messageId = a.messageId ∧
      (layer.quarantines a.authenticationSignal = true ∧
          a'.quarantineDecision = QuarantineDecision.quarantine now .policy ∧
          a'.assessmentLocked = true ∨
        layer.quarantines a.authenticationSignal = false ∧ a'.assessmentLocked = false ∧
          (a'.quarantineDecision = QuarantineDecision.flag now ∨
            a'.quarantineDecision = a.quarantineDecision)) := by
  cases layer with
  | authentication signal =>
    by_cases hs : signal.isHighRisk <;>
      simp [assess, assessAuthentication, Layer.quarantines, h, hs]
  | lookalike score =>
    by_cases hs : score.isHighRisk
    · by_cases ha : a.authenticationSignal.any (·.isHighRisk) <;>
        simp [assess, assessLookalike, Layer.quarantines, h, hs, ha]
    · simp [assess, assessLookalike, Layer.quarantines, h, hs]
  | intent intent =>
    by_cases hi : intent.isHighConfidence
    · simp [assess, assessIntentClassification, Layer.quarantines, h, hi]
    · by_cases hf : intent.intent ≠ .None ∧ intent.confidence ≥ 5 / 10
      · simp only [assess, assessIntentClassification, Layer.quarantines, h, hi, hf]
        simp [hf]
      · simp only [assess, assessIntentClassification, Layer.quarantines, h, hi, hf]
        simp

/-- Applying a layer does not change whether it quarantines. -/
theorem quarantines_of_assess {now : ℤ} {a a' : ThreatAssessment} {layer : Layer}
    (h : a.assess now layer = .ok a') :
    layer.quarantines a'.authenticationSignal = layer.quarantines a.authenticationSignal := by
  cases layer with
  | authentication signal => rfl
  | lookalike score =>
    have hsame : a'.authenticationSignal = a.authenticationSignal := by
      simp only [assess, assessLookalike] at h
      split_ifs at h <;> rw [← Except.ok.inj h]
    rw [hsame]
  | intent classification => rfl

end ThreatAssessment

end EmailTriage.ThreatDetection
