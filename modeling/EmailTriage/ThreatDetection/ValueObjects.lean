import Mathlib.Algebra.Order.Field.Rat
import EmailTriage.Lib.Codec
import EmailTriage.Lib.JsString

/-!
# Value objects of threat detection

`src/threat-detection/domain/value-objects/`: the signals of the three detection layers, the
quarantine decision, and their JSON.
-/

namespace EmailTriage.ThreatDetection

open Js

/-! ## Authentication signals

The results of the three checks, and whether they fail together.
-/

inductive AuthCheckResult where
  | pass
  | fail
  | none
deriving DecidableEq

/-- How far the authenticated domain agrees with the sender's. -/
inductive AlignmentResult where
  | aligned
  | partially
  | failed
  | none
deriving DecidableEq

instance : Codec AuthCheckResult where
  toValue
    | .pass => .str "pass"
    | .fail => .str "fail"
    | .none => .str "none"
  ofValue
    | .str "pass" => some .pass
    | .str "fail" => some .fail
    | .str "none" => some .none
    | _ => Option.none
  ofValue_toValue a := by cases a <;> rfl
  orElse_toValue a _ := by cases a <;> rfl

instance : Codec AlignmentResult where
  toValue
    | .aligned => .str "aligned"
    | .partially => .str "partial"
    | .failed => .str "failed"
    | .none => .str "none"
  ofValue
    | .str "aligned" => some .aligned
    | .str "partial" => some .partially
    | .str "failed" => some .failed
    | .str "none" => some .none
    | _ => Option.none
  ofValue_toValue a := by cases a <;> rfl
  orElse_toValue a _ := by cases a <;> rfl

structure AuthenticationSignal where
  spf : AuthCheckResult
  dkim : AuthCheckResult
  dmarc : AuthCheckResult
  alignmentResult : AlignmentResult
  displayNameBrandMatch : Bool
deriving DecidableEq

namespace AuthenticationSignal

/-- DMARC failed, or a brand is displayed that DMARC does not vouch for. -/
def isHighRisk (s : AuthenticationSignal) : Bool :=
  s.dmarc = .fail || (s.displayNameBrandMatch && s.dmarc ≠ .pass)

def toJSON (s : AuthenticationSignal) : Value :=
  .obj [("spf", toValue s.spf), ("dkim", toValue s.dkim), ("dmarc", toValue s.dmarc),
    ("alignmentResult", toValue s.alignmentResult),
    ("displayNameBrandMatch", toValue s.displayNameBrandMatch)]

def fromJSON (json : Value) : Option AuthenticationSignal := do
  return {
    spf := ← fieldOr json "spf" AuthCheckResult.none
    dkim := ← fieldOr json "dkim" AuthCheckResult.none
    dmarc := ← fieldOr json "dmarc" AuthCheckResult.none
    alignmentResult := ← fieldOr json "alignmentResult" AlignmentResult.none
    displayNameBrandMatch := ← fieldOr json "displayNameBrandMatch" false }

/-- A value is read as it was written. -/
theorem fromJSON_toJSON (s : AuthenticationSignal) : fromJSON s.toJSON = some s := by
  simp [fromJSON, toJSON, fieldOr]

end AuthenticationSignal

instance : ObjectCodec AuthenticationSignal where
  toValue := AuthenticationSignal.toJSON
  ofValue := AuthenticationSignal.fromJSON
  ofValue_toValue := AuthenticationSignal.fromJSON_toJSON
  orElse_toValue _ _ := rfl
  truthy_toValue _ := rfl

/-! ## Lookalike scores

A brand that was recognised, and how close the domain comes to it.
-/

structure LookalikeScore where
  candidateDomain : String
  matchedBrand : Option String
  editDistance : ℚ
  homoglyphMatch : Bool
  priorCorrespondenceWithDomain : Bool
deriving DecidableEq

namespace LookalikeScore

/-- Whether a watched brand was matched; the empty string counts as none. -/
def brandMatched (s : LookalikeScore) : Bool := s.matchedBrand.getD "" ≠ ""

/-- `computeScore`, in exact rationals. The source keeps the result in the field `score`. -/
def score (s : LookalikeScore) : ℚ :=
  let brand : ℚ := if s.brandMatched then 6 / 10 else 0
  let distance : ℚ :=
    if s.editDistance ≤ 2 ∧ 0 ≤ s.editDistance then max (3 / 10 - s.editDistance * (1 / 10)) 0
    else 0
  let homoglyph : ℚ := if s.homoglyphMatch then 2 / 10 else 0
  let risk := brand + distance + homoglyph
  -- prior correspondence marks a legitimate domain
  min 1 (if s.priorCorrespondenceWithDomain then max 0 (risk - 5 / 10) else risk)

def isHighRisk (s : LookalikeScore) : Bool := s.score > 7 / 10

def toJSON (s : LookalikeScore) : Value :=
  .obj [("candidateDomain", toValue s.candidateDomain), ("matchedBrand", toNullable s.matchedBrand),
    ("editDistance", toValue s.editDistance), ("homoglyphMatch", toValue s.homoglyphMatch),
    ("priorCorrespondenceWithDomain", toValue s.priorCorrespondenceWithDomain),
    ("score", toValue s.score)]

def fromJSON (json : Value) : Option LookalikeScore := do
  return {
    candidateDomain := ← fieldOr json "candidateDomain" ""
    matchedBrand := ← ofNullable (json.get "matchedBrand")
    editDistance := ← fieldOr json "editDistance" (999 : ℚ)
    homoglyphMatch := ← fieldOr json "homoglyphMatch" false
    priorCorrespondenceWithDomain := ← fieldOr json "priorCorrespondenceWithDomain" false }

/-- A value is read as it was written. -/
theorem fromJSON_toJSON (s : LookalikeScore) : fromJSON s.toJSON = some s := by
  simp [fromJSON, toJSON, fieldOr, ofNullable_toNullable]

end LookalikeScore

instance : ObjectCodec LookalikeScore where
  toValue := LookalikeScore.toJSON
  ofValue := LookalikeScore.fromJSON
  ofValue_toValue := LookalikeScore.fromJSON_toJSON
  orElse_toValue _ _ := rfl
  truthy_toValue _ := rfl

/-! ## Intent classifications

An intent with a confidence between zero and one; the structure carries the bounds.
-/

inductive PhishingIntent where
  | CredentialHarvesting
  | BEC
  | MalwareDelivery
  | None
deriving DecidableEq

instance : Codec PhishingIntent where
  toValue
    | .CredentialHarvesting => .str "CredentialHarvesting"
    | .BEC => .str "BEC"
    | .MalwareDelivery => .str "MalwareDelivery"
    | .None => .str "None"
  ofValue
    | .str "CredentialHarvesting" => some .CredentialHarvesting
    | .str "BEC" => some .BEC
    | .str "MalwareDelivery" => some .MalwareDelivery
    | .str "None" => some .None
    | _ => none
  ofValue_toValue a := by cases a <;> rfl
  orElse_toValue a _ := by cases a <;> rfl

/-- An intent with what the constructor enforces: a confidence between 0 and 1, and a justification
of at most 500 code units. -/
structure IntentClassification where
  intent : PhishingIntent
  confidence : ℚ
  justification : String
  confidence_mem : 0 ≤ confidence ∧ confidence ≤ 1
  justification_le : stringLength justification ≤ 500

namespace IntentClassification

/-- `new IntentClassification({...})`. -/
def new (intent : PhishingIntent) (confidence : ℚ) (justification : String) :
    Except Exception IntentClassification :=
  if h : confidence < 0 ∨ confidence > 1 then
    .error (.error "Confidence must be between 0 and 1")
  else
    .ok
      { intent, confidence
        justification := substring justification 500
        confidence_mem := by
          rw [not_or, not_lt, gt_iff_lt, not_lt] at h
          exact h
        justification_le := stringLength_substring_le _ _ }

/-- The constructor changes nothing about a classification it made. -/
theorem new_self (i : IntentClassification) :
    new i.intent i.confidence i.justification = .ok i := by
  have h : ¬(i.confidence < 0 ∨ i.confidence > 1) := by
    rw [not_or, not_lt, gt_iff_lt, not_lt]
    exact i.confidence_mem
  rw [new, dif_neg h]
  cases i
  simp only [Except.ok.injEq, mk.injEq, true_and]
  exact substring_of_le (by assumption)

def isHighConfidence (i : IntentClassification) : Bool :=
  i.confidence ≥ 8 / 10 && i.intent ≠ .None

def toJSON (i : IntentClassification) : Value :=
  .obj [("intent", toValue i.intent), ("confidence", toValue i.confidence),
    ("justification", toValue i.justification)]

def fromJSON (json : Value) : Option IntentClassification := do
  let intent ← fieldOr json "intent" PhishingIntent.None
  let confidence ← fieldOr json "confidence" (0 : ℚ)
  let justification ← fieldOr json "justification" ""
  (new intent confidence justification).toOption

/-- A value is read as it was written. -/
theorem fromJSON_toJSON (i : IntentClassification) : fromJSON i.toJSON = some i := by
  simp [fromJSON, toJSON, fieldOr, new_self, Except.toOption]

end IntentClassification

instance : ObjectCodec IntentClassification where
  toValue := IntentClassification.toJSON
  ofValue := IntentClassification.fromJSON
  ofValue_toValue := IntentClassification.fromJSON_toJSON
  orElse_toValue _ _ := rfl
  truthy_toValue _ := rfl

/-! ## Quarantine decisions

An action, who has decided it and when. A quarantine by the policy is not reversible, and that is what
locks it.
-/

inductive QuarantineAction where
  | Flag
  | Quarantine
  | None
deriving DecidableEq

inductive DecisionMaker where
  | policy
  | admin
  | user
deriving DecidableEq

/-- The text of an action. -/
def QuarantineAction.text : QuarantineAction → String
  | .Flag => "Flag"
  | .Quarantine => "Quarantine"
  | .None => "None"

instance : Codec QuarantineAction where
  toValue a := .str a.text
  ofValue
    | .str "Flag" => some .Flag
    | .str "Quarantine" => some .Quarantine
    | .str "None" => some .None
    | _ => none
  ofValue_toValue a := by cases a <;> rfl
  orElse_toValue _ _ := rfl

instance : Codec DecisionMaker where
  toValue
    | .policy => .str "policy"
    | .admin => .str "admin"
    | .user => .str "user"
  ofValue
    | .str "policy" => some .policy
    | .str "admin" => some .admin
    | .str "user" => some .user
    | _ => none
  ofValue_toValue a := by cases a <;> rfl
  orElse_toValue a _ := by cases a <;> rfl

structure QuarantineDecision where
  action : QuarantineAction
  decidedBy : DecisionMaker
  decidedAt : Date
  reversible : Bool
deriving DecidableEq

namespace QuarantineDecision

def none (now : ℤ) : QuarantineDecision := ⟨.None, .policy, some now, true⟩

def flag (now : ℤ) : QuarantineDecision := ⟨.Flag, .policy, some now, true⟩

/-- A quarantine is reversible unless policy decided it. -/
def quarantine (now : ℤ) (decidedBy : DecisionMaker) : QuarantineDecision :=
  ⟨.Quarantine, decidedBy, some now, decidedBy ≠ .policy⟩

def isLocked (d : QuarantineDecision) : Bool := d.action = .Quarantine && !d.reversible

/-- `toJSON` throws on an invalid date, as `toISOString` does. -/
def toJSON (d : QuarantineDecision) : Except Exception Value :=
  match d.decidedAt with
  | .none => .error .rangeError
  | some t => .ok <| .obj [("action", toValue d.action), ("decidedBy", toValue d.decidedBy),
      ("decidedAt", .str (Date.toISOString t)), ("reversible", toValue d.reversible)]

def fromJSON (json : Value) : Option QuarantineDecision := do
  return {
    action := ← fieldOr json "action" QuarantineAction.None
    decidedBy := ← fieldOr json "decidedBy" DecisionMaker.policy
    decidedAt := Date.ofValue (json.get "decidedAt")
    reversible := ← fieldOr json "reversible" true }

/-- A string has none of the fields `fromJSON` reads: it decodes to the default decision. -/
theorem fromJSON_str (s : String) :
    fromJSON (.str s) = some ⟨.None, .policy, Option.none, true⟩ := rfl

/-- A locked decision is a quarantine. -/
theorem action_of_isLocked {d : QuarantineDecision} (h : d.isLocked = true) :
    d.action = .Quarantine := by
  simp only [isLocked, Bool.and_eq_true, decide_eq_true_eq] at h
  exact h.1

/-- Policy quarantines are locked. -/
@[simp] theorem isLocked_quarantine_policy (now : ℤ) :
    (quarantine now .policy).isLocked = true := rfl

end QuarantineDecision

end EmailTriage.ThreatDetection
