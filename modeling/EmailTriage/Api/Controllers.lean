import EmailTriage.Api.Database

/-!
# The controllers of the public API

`src/api/v1`: the two guards, and the handlers of the controllers for messages, mailbox connections,
the configuration of a tenant and billing. A request passes both guards before its handler runs. Calls
that the source awaits together are made one after the other; they only read.
-/

namespace EmailTriage.Api

open Js Db
open Classification (MessageLabelRow Category)
open FeedbackLearning (VerdictColumn submittedVerdict)
open MailboxIngestion (MailboxConnectionRow)
open TenantSubscription (SubscriptionRow PlanRow UsageMeterRow findPlan)
open ThreatDetection (ThreatAssessmentRow)

/-- A parameter in the path of a route, which is never empty. -/
structure PathParam where
  text : String
  nonempty : text ≠ ""

/-- The routes, with what a request supplies to them. The query parameters of the list of messages are the
texts that `parseInt` reads; the filters it takes are not applied. -/
inductive Route where
  | listMessages (limit offset : Option String)
  | getMessageDetails (messageId : PathParam)
  | submitCorrection (messageId : PathParam) (correction : Value)
  | listMailboxConnections
  | getMailboxConnection (mailboxId : PathParam)
  | connectMailbox (request : Value)
  | disconnectMailbox (mailboxId : PathParam)
  | getTenantConfiguration (tenantId : PathParam)
  | updateVipList (tenantId : PathParam) (request : Value)
  | updateCategoryRules (tenantId : PathParam) (request : Value)
  | updateBudgetSettings (tenantId : PathParam) (request : Value)
  | updateDigestFrequency (tenantId : PathParam) (request : Value)
  | getBillingInfo (tenantId : PathParam)
  | getUsageForMeter (tenantId : PathParam) (meterType : PathParam)

/-- `params.tenantId`. -/
def Route.tenantId : Route → Option String
  | .getTenantConfiguration tenantId => some tenantId.text
  | .updateVipList tenantId _ => some tenantId.text
  | .updateCategoryRules tenantId _ => some tenantId.text
  | .updateBudgetSettings tenantId _ => some tenantId.text
  | .updateDigestFrequency tenantId _ => some tenantId.text
  | .getBillingInfo tenantId => some tenantId.text
  | .getUsageForMeter tenantId _ => some tenantId.text
  | _ => none

/-- A request: the headers `x-api-key` and `x-tenant-id`, and the route. -/
structure Request where
  apiKey : Option String
  tenantHeader : Option String
  route : Route

/-! ## Guards

The guards run before a handler: one asks for an API key and takes the tenant of the request from a header,
the other one compares it with the tenant that the path names.
-/

/-- `if (!text)`. -/
def missing (text : Option String) : Bool := text.getD "" = ""

/-- `ApiKeyGuard.canActivate`: the tenant of the request. -/
def ApiKeyGuard.canActivate (request : Request) : Except HttpError String :=
  if missing request.apiKey then .error (.unauthorized "Missing API key")
  else if missing request.tenantHeader then .error (.unauthorized "Missing tenant ID")
  else .ok (request.tenantHeader.getD "")

/-- `ApiTenantScopeGuard.canActivate`. -/
def ApiTenantScopeGuard.canActivate (requestTenantId : String) (tenantId : Option String) :
    Except HttpError Unit :=
  if !missing tenantId && tenantId ≠ some requestTenantId then
    .error (.forbidden "Access denied: tenant ID mismatch")
  else .ok ()

/-! ## Texts and numbers of a response

How a date, a number and a value that nothing has checked get into a response, and what throws there.
-/

/-- `date.toISOString()`. -/
def iso (t : ℤ) : Value := .str (Date.toISOString t)

/-- A number in a JSON text: one that is not finite prints as `null`. -/
def number : Number → Value
  | .finite z => .num z
  | _ => .null

/-- `v?.toISOString()`. -/
def isoOf : Value → Value
  | .date (some t) => iso t
  | _ => .undefined

/-- Reading a property of `undefined` or `null` throws. -/
def present (v : Value) : Except HttpError Value := if v.isNullish then .error .internal else .ok v

section

variable (env : Surroundings)

/-! ## `MessagesController`

The list of messages cuts its page out before it looks for what belongs to the messages; a single message
that cannot be shown makes the whole list fail.
-/

namespace MessagesController

section

variable {Row : Type} [Schema Row String (String × String)]

/-- The rows of the messages of a tenant. -/
def findForMessages (table : Database → Table Row) (tenantId : String) (messageIds : List String) :
    Call (List Row) := do
  let tenant ← uuid env tenantId
  let ids ← messageIds.mapM (uuid env)
  findMany env table fun r => (Schema.key r).1 = tenant && ids.contains (Schema.key r).2

/-- The row of a message of a tenant. -/
def findForMessage (table : Database → Table Row) (tenantId messageId : String) : Call (Option Row) := do
  let tenant ← uuid env tenantId
  let id ← uuid env messageId
  findUnique table (tenant, id)

/-- `map.get`, of a map that was filled with the rows in their order. -/
def get (rows : List Row) (messageId : String) : Option Row :=
  rows.reverse.find? fun r => (Schema.key r).2 = messageId

end

def getMessagePriorities (tenantId : String) (messageIds : List String) :
    Call (List MessagePriorityRow) :=
  findForMessages env (·.messagePriorities) tenantId messageIds

def getMessagePriority (tenantId messageId : String) : Call (Option MessagePriorityRow) :=
  findForMessage env (·.messagePriorities) tenantId messageId

def getMessageThreats (tenantId : String) (messageIds : List String) :
    Call (List ThreatAssessmentRow) :=
  findForMessages env (·.threatAssessments) tenantId messageIds

def getMessageThreat (tenantId messageId : String) : Call (Option ThreatAssessmentRow) :=
  findForMessage env (·.threatAssessments) tenantId messageId

/-- A component of a priority score. -/
def component (c : Value) : Except HttpError Value :=
  if c.isNullish then .error .internal
  else .ok <| .obj
    [("name", c.get "name"), ("value", (c.get "value").or (.num 0)),
      ("weight", (c.get "weight").or (.num 0)), ("contribution", (c.get "contribution").or (.num 0))]

/-- A value as an array; one that is not an array counts as empty. -/
def elements : Value → List Value
  | .arr elems => elems
  | _ => []

def toLabelDto (label : MessageLabelRow) : Value :=
  .obj [("category", .str label.category.text), ("confidence_score", .num label.confidence_score),
    ("source_tier", .str label.source_tier.text)]

def toMessageDto (message : MessageRow) (messageLabels : List MessageLabelRow)
    (priority : Option MessagePriorityRow) (threat : Option ThreatAssessmentRow) :
    Except HttpError Value := do
  let envelope := message.normalizedEnvelope.or (.obj [])
  let priorityComponents ← (elements (Value.ofOption (·.components) priority)).mapM component
  return .obj
    [("id", .str message.id), ("message_id", .str message.messageId),
      ("mailbox_id", .str message.mailboxId), ("platform", .str message.platform),
      ("from", (envelope.get "from").or (.str "")), ("subject", (envelope.get "subject").or (.str "")),
      ("thread_id", envelope.get "threadRef"),
      ("received_at", (envelope.get "received_at").or (iso env.now)),
      ("labels", .arr (messageLabels.map toLabelDto)),
      ("priority_score", (Value.ofOption (fun p => .num p.priority_score) priority).or (.num 0)),
      ("priority_components", .arr priorityComponents),
      ("phishing_status",
        (Value.ofOption (fun t => .str t.quarantine_decision) threat).or (.str "none")),
      ("quarantine_decision",
        (Value.ofOption (fun t => .str t.quarantine_decision) threat).or (.str "none")),
      ("needs_reply", .bool (messageLabels.any fun label => label.category = .NEEDS_REPLY)),
      ("created_at", iso message.createdAt)]

/-- The labels of a message. -/
def findLabels (message : MessageRow) : Call (List MessageLabelRow) :=
  findMany env (·.messageLabels) fun label => label.message_id = message.id

/-- The `take` of a list of messages. -/
def parsedLimit (limit : Option String) : Number :=
  ((parseIntAnyBase (limit.getD "50")).or 50).min (.finite 100)

/-- The `skip` of a list of messages. -/
def parsedOffset (offset : Option String) : Number := (parseIntAnyBase (offset.getD "0")).or 0

def listMessages (tenantId : String) (limit offset : Option String) : Call Value := do
  let tenant ← uuid env tenantId
  let found ← findMany env (·.ingestedMessages) fun message => message.tenantId = tenant
  let messages ← orThrow .internal (page (parsedLimit limit) (parsedOffset offset) found)
  let messageLabels ← messages.mapM (findLabels env)
  let messageIds := messages.map (·.messageId)
  let priorityMap ← getMessagePriorities env tenantId messageIds
  let threatMap ← getMessageThreats env tenantId messageIds
  let dtos ← MonadExcept.ofExcept <| (messages.zip messageLabels).mapM fun (message, labels) =>
    toMessageDto env message labels (get priorityMap message.messageId) (get threatMap message.messageId)
  return .obj [("messages", .arr dtos), ("total", .num found.length), ("limit", number (parsedLimit limit)),
    ("offset", number (parsedOffset offset))]

/-- A message of a tenant, which must be there. -/
def findMessage (tenantId messageId : String) : Call MessageRow := do
  let tenant ← uuid env tenantId
  match ← findUnique (·.ingestedMessages) (tenant, messageId) with
  | some message => return message
  | none => throw (.notFound "Message not found")

def getMessageDetails (tenantId messageId : String) : Call Value := do
  let message ← findMessage env tenantId messageId
  let messageLabels ← findLabels env message
  let priority ← getMessagePriority env tenantId message.messageId
  let threat ← getMessageThreat env tenantId message.messageId
  MonadExcept.ofExcept (toMessageDto env message messageLabels priority threat)

def submitCorrection (tenantId messageId : String) (correction : Value) : Call Value := do
  let _ ← findMessage env tenantId messageId
  let correction ← MonadExcept.ofExcept (present correction)
  let tenant ← uuid env tenantId
  let id ← uuid env messageId
  let verdict : VerdictColumn := ⟨submittedVerdict correction, .inr ⟨correction, rfl⟩⟩
  writes .internal fun d =>
    (d.correctionRecords.create
      ⟨env.newId, tenant, id, verdict, "explicit_user_action", .confirmed, env.now⟩).map
      fun t => (.obj [("correction_id", .str env.newId)], { d with correctionRecords := t })

end MessagesController

/-! ## `MailboxController`

Connections are listed, shown, connected and disconnected. A new one is stored with placeholders.
-/

namespace MailboxController

/-- A row as the object that the client returns. -/
def toConnection (r : MailboxConnectionRow) : Value :=
  .obj [("id", .str r.id), ("tenantId", .str r.tenantId), ("mailboxId", .str r.mailboxId),
    ("platform", .str r.platform), ("status", .str r.status),
    ("watchExpiresAt", Value.ofOption (fun t => .date (some t)) r.watchExpiresAt),
    ("lastWebhookAt", Value.ofOption (fun t => .date (some t)) r.lastWebhookAt),
    ("lastSyncAt", Value.ofOption (fun t => .date (some t)) r.lastSyncAt),
    ("syncFailureCount", .num r.syncFailureCount)]

/-- The properties it reads in snake case are not there. -/
def toMailboxDto (connection : Value) : Value :=
  .obj [("id", connection.get "id"), ("mailbox_id", connection.get "mailbox_id"),
    ("platform", connection.get "platform"), ("status", connection.get "status"),
    ("watch_expires_at", isoOf (connection.get "watch_expires_at")),
    ("last_webhook_at", isoOf (connection.get "last_webhook_at")),
    ("last_sync_at", isoOf (connection.get "last_sync_at")),
    ("sync_failure_count", connection.get "sync_failure_count"),
    ("created_at", isoOf (connection.get "created_at")),
    ("updated_at", isoOf (connection.get "updated_at"))]

def listMailboxConnections (tenantId : String) : Call Value := do
  let tenant ← uuid env tenantId
  let connections ← findMany env (·.mailboxConnections) fun r => r.tenantId = tenant
  return .obj [("connections", .arr (connections.map fun r => toMailboxDto (toConnection r))),
    ("total", .num connections.length)]

def getMailboxConnection (tenantId mailboxId : String) : Call Value := do
  let tenant ← uuid env tenantId
  match ← findUnique (·.mailboxConnections) (tenant, mailboxId, "gmail") with
  | some connection => return toMailboxDto (toConnection connection)
  | none => throw (.notFound "Mailbox connection not found")

/-- The row `connectMailbox` inserts. -/
def placeholder (tenant platform : String) : MailboxConnectionRow where
  id := env.newId
  tenantId := tenant
  mailboxId := platform ++ ":placeholder"
  platform := platform
  status := "active"
  watchSubscriptionId := none
  watchExpiresAt := none
  syncCursorValue := none
  credentialHandleId := "placeholder-handle"
  lastWebhookAt := none
  lastSyncAt := none
  syncFailureCount := 0

/-- The insertion fails where a row collides, and where there is no such tenant. -/
def insertConnection (row : MailboxConnectionRow) : Call Value :=
  writes .internal fun d =>
    (if (d.tenants.find row.tenantId).isSome then d.mailboxConnections.create row else none).map fun t =>
      (.obj [("connection_id", .str row.id), ("status", .str row.status)],
        { d with mailboxConnections := t })

def connectMailbox (tenantId : String) (request : Value) : Call Value := do
  let request ← MonadExcept.ofExcept (present request)
  let tenant ← uuid env tenantId
  match request.get "platform" with
  | .str platform => insertConnection (placeholder env tenant platform)
  | _ => throw .internal

/-- The columns `disconnectMailbox` updates. -/
def revokedData : Patch MailboxConnectionRow where
  apply r := { r with status := "revoked" }
  id_apply _ := rfl
  key_apply _ := rfl

def disconnectMailbox (tenantId mailboxId : String) : Call Value := do
  let tenant ← uuid env tenantId
  let found ← findMany env (·.mailboxConnections) fun r => r.tenantId = tenant && r.mailboxId = mailboxId
  match found.head? with
  | none => throw (.notFound "Mailbox connection not found")
  | some connection =>
    writes .internal fun d =>
      (d.mailboxConnections.update connection.id revokedData).map fun t =>
        (.obj [("success", .bool true)], { d with mailboxConnections := t })

end MailboxController

/-! ## `TenantConfigController`

The VIP list is written profile by profile. The other updates only answer.
-/

/-- The subscription of a tenant with its plan, which a row must have. -/
def findSubscription (tenantId : String) : Call (Option (SubscriptionRow × PlanRow)) := do
  let tenant ← uuid env tenantId
  match ← findUnique (·.subscriptions) tenant with
  | none => return none
  | some subscription =>
    match ← reads fun d => findPlan d.plans subscription.currentPlanId with
    | none => throw .internal
    | some plan => return some (subscription, plan)

namespace TenantConfigController

def success : Value := .obj [("success", .bool true)]

def getTenantConfiguration (tenantId : String) : Call Value := do
  let id ← uuid env tenantId
  let tenant ← findUnique (·.tenants) id
  let subscription ← findSubscription env tenantId
  let senderProfiles ← findMany env (·.senderProfiles) fun sp => sp.tenant_id = id && sp.is_vip
  match tenant with
  | none => throw (.notFound "Tenant not found")
  | some tenant =>
    return .obj
      [("tenant_id", .str tenantId),
        ("plan_tier",
          (Value.ofOption (fun (_, plan) => .str plan.llmTierCeiling) subscription).or
            (.str "tier-1-only")),
        ("vip_list", .arr (senderProfiles.map fun sp =>
          .obj [("sender_address", .str sp.sender_address), ("display_name", .undefined)])),
        ("category_rule_overrides", .arr []), ("llm_budget_soft_limit", .num 1000),
        ("llm_budget_hard_limit", .num 2000), ("digest_frequency", .str "daily"),
        ("created_at", iso tenant.createdAt), ("updated_at", iso tenant.updatedAt)]

/-- What `for (const entry of request.entries)` goes through: an array, or the characters of a text. -/
def entries (request : Value) : Except HttpError (List Value) := do
  let request ← present request
  match request.get "entries" with
  | .arr elems => return elems
  | .str s => return s.toList.map fun c => .str (String.singleton c)
  | _ => .error .internal

/-- The condition on `sender_address`: `undefined` is no condition, an object a filter. -/
def addressFilter : Value → Option (String → Bool)
  | .undefined => some fun _ => true
  | .str s => some fun address => address = s
  | .obj fields => env.textFilter fields
  | _ => none

/-- The columns `updateVipList` updates. -/
def vipData : Patch SenderProfileRow where
  apply r := { r with is_vip := true, vip_auto_promoted := false }
  id_apply _ := rfl
  key_apply _ := rfl

/-- One turn of the loop. -/
def promote (tenantId : String) (entry : Value) : Call Unit := do
  let entry ← MonadExcept.ofExcept (present entry)
  let tenant ← uuid env tenantId
  match addressFilter env (entry.get "sender_address") with
  | none => throw .internal
  | some filter =>
    writes .internal fun d =>
      some ((), { d with
        senderProfiles := d.senderProfiles.updateMany
          (fun sp => sp.tenant_id = tenant && filter sp.sender_address) vipData })

def updateVipList (tenantId : String) (request : Value) : Call Value := do
  let entries ← MonadExcept.ofExcept (entries request)
  entries.forM (promote env tenantId)
  return success

/-- `updateCategoryRules` and `updateBudgetSettings` acknowledge the request and store nothing. -/
def updateCategoryRules (_tenantId : String) (_request : Value) : Call Value := return success

def updateBudgetSettings (_tenantId : String) (_request : Value) : Call Value := return success

def updateDigestFrequency (_tenantId : String) (request : Value) : Call Value := do
  let request ← MonadExcept.ofExcept (present request)
  match request.get "frequency" with
  | .str frequency =>
    if ["daily", "weekly", "off"].contains frequency then return success
    else throw (.badRequest "Invalid digest frequency")
  | _ => throw (.badRequest "Invalid digest frequency")

end TenantConfigController

/-! ## `BillingController`

The subscription of a tenant and its meters.
-/

namespace BillingController

def toMeterDto (meter : UsageMeterRow) : List (String × Value) :=
  [("meter_type", .str meter.meterType), ("usage_count", number (ofBigInt meter.usageCount)),
    ("overage_threshold", number (ofBigInt meter.overageThreshold)),
    ("overage_detected", .bool meter.overageDetected),
    ("billing_period_start", iso meter.billingPeriodStart),
    ("billing_period_end", iso meter.billingPeriodEnd)]

def getBillingInfo (tenantId : String) : Call Value := do
  let subscription ← findSubscription env tenantId
  let tenant ← uuid env tenantId
  let usageMeters ← findMany env (·.usageMeters) fun meter => meter.tenantId = tenant
  match subscription with
  | none => throw (.notFound "Subscription not found")
  | some (subscription, currentPlan) =>
    return .obj
      [("subscription", .obj
        [("id", .str subscription.id), ("tenant_id", .str subscription.tenantId),
          ("status", .str subscription.status.text),
          ("current_plan", .obj
            [("id", .str currentPlan.id), ("name", .str currentPlan.name),
              ("mailbox_limit", .num currentPlan.mailboxLimit),
              ("llm_tier_ceiling", .str currentPlan.llmTierCeiling),
              ("features", currentPlan.features.or (.obj []))]),
          ("plan_version", .num subscription.planVersion),
          ("plan_changed_at", Value.ofOption iso subscription.planChangedAt),
          ("created_at", iso subscription.createdAt), ("updated_at", iso subscription.updatedAt)]),
        ("usage_meters", .arr (usageMeters.map fun meter =>
          .obj (toMeterDto meter ++
            [("last_incremented_at", Value.ofOption iso meter.lastIncrementedAt)]))),
        ("current_period_cost", .num 0), ("estimated_overage_cost", .num 0)]

/-- The meter whose billing period starts last, and among several the one that comes first. -/
def getUsageForMeter (tenantId meterType : String) : Call Value := do
  let tenant ← uuid env tenantId
  let found ← findMany env (·.usageMeters) fun meter =>
    meter.tenantId = tenant && meter.meterType = meterType
  let sorted := found.mergeSort fun a b => b.billingPeriodStart ≤ a.billingPeriodStart
  match sorted.head? with
  | none => return .obj [("error", .str "Usage meter not found")]
  | some meter => return .obj (toMeterDto meter)

end BillingController

/-! ## Requests

One definition for every route, with the guards before it.
-/

/-- The handler of a route, for the tenant of the request. -/
def dispatch (tenantId : String) : Route → Call Value
  | .listMessages limit offset => MessagesController.listMessages env tenantId limit offset
  | .getMessageDetails messageId => MessagesController.getMessageDetails env tenantId messageId.text
  | .submitCorrection messageId correction =>
    MessagesController.submitCorrection env tenantId messageId.text correction
  | .listMailboxConnections => MailboxController.listMailboxConnections env tenantId
  | .getMailboxConnection mailboxId =>
    MailboxController.getMailboxConnection env tenantId mailboxId.text
  | .connectMailbox request => MailboxController.connectMailbox env tenantId request
  | .disconnectMailbox mailboxId => MailboxController.disconnectMailbox env tenantId mailboxId.text
  | .getTenantConfiguration tenantId =>
    TenantConfigController.getTenantConfiguration env tenantId.text
  | .updateVipList tenantId request => TenantConfigController.updateVipList env tenantId.text request
  | .updateCategoryRules tenantId request =>
    TenantConfigController.updateCategoryRules tenantId.text request
  | .updateBudgetSettings tenantId request =>
    TenantConfigController.updateBudgetSettings tenantId.text request
  | .updateDigestFrequency tenantId request =>
    TenantConfigController.updateDigestFrequency tenantId.text request
  | .getBillingInfo tenantId => BillingController.getBillingInfo env tenantId.text
  | .getUsageForMeter tenantId meterType =>
    BillingController.getUsageForMeter env tenantId.text meterType.text

/-- A request, from the guards to its answer. -/
def handle (request : Request) : Call Value := do
  let tenantId ← MonadExcept.ofExcept (ApiKeyGuard.canActivate request)
  MonadExcept.ofExcept (ApiTenantScopeGuard.canActivate tenantId request.route.tenantId)
  dispatch env tenantId request.route

end

/-- The id denotes the tenant, if it denotes any. -/
def Denotes (env : Surroundings) (tenantId tenant : String) : Prop :=
  ∀ id, env.uuid tenantId = some id → id = tenant

/-- A route that names a tenant names that of the request. -/
theorem denotes_param {env : Surroundings} {tenant request : String} {param : PathParam}
    (h : ApiTenantScopeGuard.canActivate request (some param.text) = .ok ())
    (hdenotes : Denotes env request tenant) : Denotes env param.text tenant := by
  unfold ApiTenantScopeGuard.canActivate at h
  split_ifs at h with hforbidden
  have hpresent : missing (some param.text) = false := by
    unfold missing
    rw [Option.getD_some]
    exact decide_eq_false param.nonempty
  rw [hpresent] at hforbidden
  have hsame : param.text = request := by
    simpa using hforbidden
  rw [hsame]
  exact hdenotes

end EmailTriage.Api
