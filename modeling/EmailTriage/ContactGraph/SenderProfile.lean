import EmailTriage.Lib.Binary64
import EmailTriage.Lib.JsValue
import EmailTriage.Lib.RegExp
import Mathlib.Algebra.Order.Field.Basic
import Mathlib.Data.Rat.Cast.Order

/-!
# The profile of a sender

`src/contact-graph/domain/`: the value objects of `contact-classification.ts`, the events, and the
aggregate `sender-profile.aggregate.ts`. Confidences and thresholds are exact rationals, the window and
its cutoff are doubles, times are in milliseconds, and the current time is an argument.

`classify_eq` says what the signals of `updateClassification` come to: a number of fifteenths, and the
label on its side of one half.
-/

namespace EmailTriage.ContactGraph

open Js RegExp

/-! ## Classification

The five signals, each with its weight and the side it speaks for.
-/

inductive ContactClassificationType where
  | personal
  | automated
  | unknown
deriving DecidableEq

inductive SignalType where
  | ListUnsubscribeHeader
  | PrecedenceBulk
  | AutoSubmitted
  | ListId
  | NoReplyLocalPart
  | ContactsApiMatch
  | BidirectionalHistory
  | DisplayNameHeuristic
deriving DecidableEq

structure AutomatedSenderSignal where
  signalType : SignalType
  present : Bool
  weight : ℚ

/-- The alternatives of `/^(noreply|no-reply|notifications?|.*@no-reply)@/`. -/
def noreplyPatterns : List Pattern :=
  [literal "noreply@".toList, literal "no-reply@".toList, literal "notifications@".toList,
    literal "notification@".toList, .star isDot :: literal "@no-reply@".toList]

namespace AutomatedSenderSignal

def fromListUnsubscribeHeader (present : Bool) : AutomatedSenderSignal :=
  ⟨.ListUnsubscribeHeader, present, 0.4⟩

def fromFromAddressPattern (address : String) : AutomatedSenderSignal :=
  let isNoreply := noreplyPatterns.any fun P => (exec P none address.toList).isSome
  ⟨.NoReplyLocalPart, isNoreply, 0.2⟩

def fromContactsApiMatch (present : Bool) : AutomatedSenderSignal := ⟨.ContactsApiMatch, present, 0.4⟩

def fromBidirectionalHistory (present : Bool) : AutomatedSenderSignal :=
  ⟨.BidirectionalHistory, present, 0.4⟩

def fromDisplayNameHeuristic (present : Bool) : AutomatedSenderSignal :=
  ⟨.DisplayNameHeuristic, present, 0.1⟩

end AutomatedSenderSignal

structure ContactClassification where
  classification : ContactClassificationType
  confidence : ℚ
  contributingSignals : List AutomatedSenderSignal
  bounded : 0 ≤ confidence ∧ confidence ≤ 1

/-- The variables of the loop of `fromSignals`. -/
structure Tally where
  personalScore : ℚ
  automatedScore : ℚ
  totalWeight : ℚ

/-- One turn of the loop. -/
def Tally.add (t : Tally) (signal : AutomatedSenderSignal) : Tally :=
  let t := { t with totalWeight := t.totalWeight + signal.weight }
  if signal.signalType = .ContactsApiMatch ∨ signal.signalType = .BidirectionalHistory then
    if signal.present then { t with personalScore := t.personalScore + signal.weight } else t
  else if signal.present then { t with automatedScore := t.automatedScore + signal.weight }
  else { t with personalScore := t.personalScore + signal.weight }

namespace ContactClassification

/-- The constructor. -/
def new (classification : ContactClassificationType) (confidence : ℚ)
    (signals : List AutomatedSenderSignal) : ContactClassification where
  classification := classification
  confidence := min 1 (max 0 confidence)
  contributingSignals := signals
  bounded := ⟨le_min zero_le_one (le_max_left ..), min_le_left ..⟩

def unknown : ContactClassification := new .unknown 0 []

def fromSignals (signals : List AutomatedSenderSignal) : ContactClassification :=
  let t := signals.foldl Tally.add ⟨0, 0, 0⟩
  let confidence := if t.totalWeight > 0 then t.personalScore / t.totalWeight else 0
  let classification := if confidence > 0.5 then .personal else .automated
  new classification confidence signals

end ContactClassification

/-! ## Interactions and events

What is recorded of a sender, and what the profile reports.
-/

inductive Direction where
  | inbound
  | outbound
deriving DecidableEq

structure InteractionEvent where
  direction : Direction
  messageId : String
  occurredAt : Date

structure InteractionFrequency where
  totalInteractions : ℕ
  bidirectionalCount : ℕ
  inboundCount : ℕ
  outboundCount : ℕ
  windowDays : Double

inductive VipSource where
  | manual
  | autoPromoted
deriving DecidableEq

inductive DomainEvent where
  | SenderClassified (tenantId mailboxId senderAddress : String)
      (classification : ContactClassificationType) (confidence : ℚ) (classifiedAt : ℤ)
  | ContactPromotedToVip (tenantId mailboxId senderAddress : String) (source : VipSource) (promotedAt : ℤ)
  | InteractionFrequencyUpdated (tenantId mailboxId senderAddress : String)
      (bidirectionalCount totalInteractions : ℕ) (windowDays : Double) (computedAt : ℤ)

/-! ## The aggregate

The profile of a sender in a mailbox. The VIP flag is set by hand, or by a promotion that looks at the
classification and the count.
-/

structure ContactSignals where
  automationHeaderAbsent : Bool
  fromAddressValid : Bool
  contactsApiMatch : Bool
  bidirectionalThreadHistory : Bool
  displayNamePersonal : Bool

structure SenderProfile where
  tenantId : String
  mailboxId : String
  senderAddress : String
  classification : ContactClassification
  isVip : Bool
  vipAutoPromoted : Bool
  interactionEvents : List InteractionEvent
  domainEvents : List DomainEvent

/-- The signals `updateClassification` classifies by. -/
def signalObjects (signals : ContactSignals) : List AutomatedSenderSignal :=
  [.fromListUnsubscribeHeader !signals.automationHeaderAbsent,
    .fromFromAddressPattern
      (if signals.fromAddressValid then "user@example.com" else "noreply@service.com"),
    .fromContactsApiMatch signals.contactsApiMatch,
    .fromBidirectionalHistory signals.bidirectionalThreadHistory,
    .fromDisplayNameHeuristic signals.displayNamePersonal]

namespace SenderProfile

/-- The constructor. -/
def new (tenantId mailboxId senderAddress : String) : SenderProfile :=
  ⟨tenantId, mailboxId, senderAddress, .unknown, false, false, [], []⟩

/-- `this.domainEvents.push(event)`. -/
def push (p : SenderProfile) (event : DomainEvent) : SenderProfile :=
  { p with domainEvents := p.domainEvents ++ [event] }

def updateClassification (p : SenderProfile) (signals : ContactSignals) (now : ℤ) : SenderProfile :=
  let oldClassification := p.classification
  let classification := ContactClassification.fromSignals (signalObjects signals)
  let updated := { p with classification }
  if oldClassification.classification ≠ classification.classification ∨
      |oldClassification.confidence - classification.confidence| > 0.1 then
    if classification.classification ≠ .unknown then
      updated.push (.SenderClassified p.tenantId p.mailboxId p.senderAddress
        classification.classification classification.confidence now)
    else updated
  else updated

def recordInteraction (p : SenderProfile) (direction : Direction) (messageId : String)
    (occurredAt : Date) : SenderProfile :=
  { p with interactionEvents := p.interactionEvents ++ [⟨direction, messageId, occurredAt⟩] }

/-- The cutoff before which interactions are not counted. -/
def cutoffTime (windowDays : Double) (now : ℤ) : Double :=
  (Double.finite now).sub
    ((((windowDays.mul (.finite 24)).mul (.finite 60)).mul (.finite 60)).mul (.finite 1000))

/-- Whether an interaction is counted: not if its time is invalid. -/
def InteractionEvent.isRecent (windowDays : Double) (now : ℤ) (e : InteractionEvent) : Bool :=
  e.occurredAt.any fun t => (cutoffTime windowDays now).lt (.finite t)

def computeInteractionFrequency (p : SenderProfile) (windowDays : Double) (now : ℤ) : InteractionFrequency :=
  let recentEvents := p.interactionEvents.filter (InteractionEvent.isRecent windowDays now)
  let inboundCount := recentEvents.countP fun e => e.direction = .inbound
  let outboundCount := recentEvents.countP fun e => ¬e.direction = .inbound
  ⟨recentEvents.length, outboundCount, inboundCount, outboundCount, windowDays⟩

/-- `promoteToVipIfQualified`, with what it returns. -/
def promoteToVipIfQualified (p : SenderProfile) (minBidirectionalThreshold : ℚ) (windowDays : Double)
    (now : ℤ) : SenderProfile × Bool :=
  if p.isVip then (p, false)
  else if p.classification.classification ≠ .personal then (p, false)
  else if (p.computeInteractionFrequency windowDays now).bidirectionalCount ≥ minBidirectionalThreshold then
    ({ p with isVip := true, vipAutoPromoted := true }.push
      (.ContactPromotedToVip p.tenantId p.mailboxId p.senderAddress .autoPromoted now), true)
  else (p, false)

def setManualVipDesignation (p : SenderProfile) (isVip : Bool) (now : ℤ) : SenderProfile :=
  let wasVip := p.isVip
  let designated := { p with isVip, vipAutoPromoted := false }
  if isVip && !wasVip then
    designated.push (.ContactPromotedToVip p.tenantId p.mailboxId p.senderAddress .manual now)
  else designated

def updateInteractionFrequency (p : SenderProfile) (windowDays : Double) (now : ℤ) : SenderProfile :=
  let frequency := p.computeInteractionFrequency windowDays now
  p.push (.InteractionFrequencyUpdated p.tenantId p.mailboxId p.senderAddress
    frequency.bidirectionalCount frequency.totalInteractions windowDays now)

/-- Profiles without interactions so far. -/
def Fresh := { p : SenderProfile // p.interactionEvents = [] }

end SenderProfile

/-! ## What the signals come to

Two scores over one total: the personal one decides, from one half on.
-/

/-- What speaks for a personal contact, in fifteenths of all. -/
def personalWeight (signals : ContactSignals) : ℕ :=
  4 * signals.automationHeaderAbsent.toNat + 2 * signals.fromAddressValid.toNat +
    4 * signals.contactsApiMatch.toNat + 4 * signals.bidirectionalThreadHistory.toNat +
    (!signals.displayNamePersonal).toNat

/-- The label of the signals: personal where more than half speaks for it. -/
def labelFor (signals : ContactSignals) : ContactClassificationType :=
  if 8 ≤ personalWeight signals then .personal else .automated

/-- The signals always decide. -/
theorem labelFor_ne_unknown (signals : ContactSignals) : labelFor signals ≠ .unknown := by
  unfold labelFor
  split
  · rintro ⟨⟩
  · rintro ⟨⟩

/-- A sender is personal from eight fifteenths on. -/
theorem labelFor_eq_personal_iff {signals : ContactSignals} :
    labelFor signals = .personal ↔ 8 ≤ personalWeight signals := by
  unfold labelFor
  split
  · next h => exact iff_of_true rfl h
  · next h => exact iff_of_false (by rintro ⟨⟩) h

/-- The signals are classified by their share of all weights. -/
theorem classify_eq (signals : ContactSignals) :
    (ContactClassification.fromSignals (signalObjects signals)).confidence = personalWeight signals / 15 ∧
      (ContactClassification.fromSignals (signalObjects signals)).classification = labelFor signals := by
  obtain ⟨absent, valid, contact, bidirectional, displayName⟩ := signals
  revert absent valid contact bidirectional displayName
  decide +kernel

end EmailTriage.ContactGraph
