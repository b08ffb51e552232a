import Mathlib.Data.List.Basic

/-!
# Event routing

`src/queue/event-routing.ts`: which queues an outbox event goes to. The table is a plain object that is
indexed with whatever the row says, so a lookup may also hit a property every object inherits.
-/

namespace EmailTriage.Queue

inductive QueueName where
  | mailboxIngestion
  | classification
  | contactGraph
  | threatDetection
  | prioritization
  | mailboxWriteback
  | feedbackLearning
  | notificationAlerting
  | identityAccess
  | tenantSubscription
  | opsObservability
deriving DecidableEq

/-- The name of a queue in BullMQ. -/
def QueueName.text : QueueName → String
  | .mailboxIngestion => "mailbox-ingestion"
  | .classification => "classification"
  | .contactGraph => "contact-graph"
  | .threatDetection => "threat-detection"
  | .prioritization => "prioritization"
  | .mailboxWriteback => "mailbox-writeback"
  | .feedbackLearning => "feedback-learning"
  | .notificationAlerting => "notification-alerting"
  | .identityAccess => "identity-access"
  | .tenantSubscription => "tenant-subscription"
  | .opsObservability => "ops-observability"

/-- `EVENT_QUEUE_ROUTING`. -/
def EVENT_QUEUE_ROUTING : List (String × List QueueName) :=
  [ -- mailbox-ingestion
    ("MessageIngestedEvent", [.classification, .threatDetection, .contactGraph]),
    ("MailboxSyncFailedEvent", [.opsObservability]),
    ("WatchSubscriptionExpiringEvent", [.opsObservability]),
    -- contact-graph
    ("SenderClassifiedEvent", [.prioritization, .mailboxWriteback]),
    ("ContactPromotedToVipEvent", [.prioritization]),
    ("InteractionFrequencyUpdatedEvent", []),
    -- identity-access
    ("MailboxAuthorizedEvent", [.mailboxIngestion]),
    ("MailboxCredentialRevokedEvent", [.mailboxIngestion]),
    -- tenant-subscription
    ("PlanEntitlementsChanged", []),
    ("SubscriptionBillingEventRecorded", []),
    ("TenantSuspended", [.identityAccess]),
    ("UsageOverageDetected", []),
    -- threat-detection
    ("MessageThreatAssessed", [.prioritization, .mailboxWriteback, .notificationAlerting]),
    ("MessageQuarantined", [.mailboxWriteback, .notificationAlerting]),
    ("QuarantineOverridden", [.feedbackLearning]),
    -- prioritization
    ("MessagePrioritized", [.mailboxWriteback]),
    ("MessagePriorityEscalated", [.notificationAlerting]),
    -- mailbox-writeback
    ("FacetAppliedToPlatform", []),
    ("WriteBackDivergenceDetected", [.feedbackLearning]),
    ("WriteBackFailed", [.opsObservability]),
    -- feedback-learning
    ("ContactSignalReinforced", [.contactGraph]),
    ("FewShotExampleSetUpdated", [.classification]),
    ("SenderReputationUpdated", [.classification]),
    ("TaxonomyVersionBumpTriggered", [.classification]),
    ("UserCorrectionObserved", []),
    -- notification-alerting
    ("AlertDispatched", []),
    ("DigestGenerated", []),
    ("NotificationDeliveryFailed", [.opsObservability])]

/-- The names every object inherits a property under. -/
def inheritedNames : List String :=
  ["constructor", "__defineGetter__", "__defineSetter__", "hasOwnProperty", "__lookupGetter__",
    "__lookupSetter__", "isPrototypeOf", "propertyIsEnumerable", "toString", "valueOf", "__proto__",
    "toLocaleString"]

/-- What indexing the table gives: nothing, a property that is no array, or the queues. -/
inductive Route where
  | undefined
  | inherited
  | targets (queues : List QueueName)
deriving DecidableEq

/-- `EVENT_QUEUE_ROUTING[eventType]`. -/
def route (eventType : String) : Route :=
  match EVENT_QUEUE_ROUTING.lookup eventType with
  | some queues => .targets queues
  | none => if eventType ∈ inheritedNames then .inherited else .undefined

/-- The id of the job for a row in a queue. -/
def jobId (rowId : String) (queue : QueueName) : String := rowId ++ "-" ++ queue.text

/-- In one queue, the id of a job says which row it is for. -/
theorem jobId_inj {rowId rowId' : String} {queue : QueueName}
    (h : jobId rowId queue = jobId rowId' queue) : rowId = rowId' := by
  have hlist := congrArg String.toList h
  unfold jobId at hlist
  rw [String.toList_append, String.toList_append, String.toList_append, String.toList_append,
    List.append_assoc, List.append_assoc] at hlist
  exact String.toList_inj.mp (List.append_cancel_right hlist)

end EmailTriage.Queue
