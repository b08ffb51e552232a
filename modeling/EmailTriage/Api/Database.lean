import Mathlib.Data.Multiset.Basic
import EmailTriage.Classification.MessageClassificationRepository
import EmailTriage.FeedbackLearning.CorrectionRecordRepository
import EmailTriage.Lib.JsNumber
import EmailTriage.Lib.OwnedRows
import EmailTriage.Lib.TwoRuns
import EmailTriage.MailboxIngestion.MailboxConnectionRepository
import EmailTriage.TenantSubscription.Subscription
import EmailTriage.TenantSubscription.UsageMeterRepository
import EmailTriage.ThreatDetection.ThreatAssessmentRepository

/-!
# The database behind the public API

The tables that the controllers of `src/api/v1` read and write, and the calls of Prisma they make. Every
row has an owner, the tenant it belongs to; the catalog of plans is shared.

A column of type `Uuid` is compared with what the database reads in the text it is given, and a text
that is no UUID is an error. Rows that are asked for without an order come in one that the database
chooses, for each request anew (`RowOrder`): nothing is known of it but that it loses no row and makes
none up.
-/

namespace EmailTriage.Api

open Js Db
open Classification (MessageLabelRow MessageLabelTable)
open FeedbackLearning (CorrectionRecordRow CorrectionRecordTable)
open MailboxIngestion (MailboxConnectionRow MailboxConnectionTable)
open TenantSubscription (SubscriptionRow SubscriptionTable PlanRow UsageMeterRow UsageMeterTable)
open ThreatDetection (ThreatAssessmentRow ThreatAssessmentTable)

/-! ## Tables

The tables that the controllers read and write, with the columns they use. A label belongs to the
tenant of its message, which no statement of the controllers can change.
-/

/-- A row of `tenants`. -/
structure TenantRow where
  id : String
  createdAt : ℤ
  updatedAt : ℤ

instance : Schema TenantRow String String where
  id := TenantRow.id
  key := TenantRow.id

/-- A row of `sender_profiles`. -/
structure SenderProfileRow where
  id : String
  tenant_id : String
  mailbox_id : String
  sender_address : String
  is_vip : Bool
  vip_auto_promoted : Bool

instance : Schema SenderProfileRow String (String × String × String) where
  id := SenderProfileRow.id
  key r := (r.tenant_id, r.mailbox_id, r.sender_address)

/-- A row of `ingested_messages`. The envelope is whatever JSON the column holds. -/
structure MessageRow where
  id : String
  tenantId : String
  messageId : String
  mailboxId : String
  platform : String
  normalizedEnvelope : Value
  createdAt : ℤ

instance : Schema MessageRow String (String × String) where
  id := MessageRow.id
  key r := (r.tenantId, r.messageId)

/-- A row of `message_priorities`. -/
structure MessagePriorityRow where
  id : String
  tenant_id : String
  message_id : String
  priority_score : ℚ
  components : Value

instance : Schema MessagePriorityRow String (String × String) where
  id := MessagePriorityRow.id
  key r := (r.tenant_id, r.message_id)

instance : HasOwner TenantRow String := ⟨TenantRow.id⟩
instance : HasOwner SubscriptionRow String := ⟨SubscriptionRow.tenantId⟩
instance : HasOwner UsageMeterRow String := ⟨UsageMeterRow.tenantId⟩
instance : HasOwner SenderProfileRow String := ⟨SenderProfileRow.tenant_id⟩
instance : HasOwner MailboxConnectionRow String := ⟨MailboxConnectionRow.tenantId⟩
instance : HasOwner MessageRow String := ⟨MessageRow.tenantId⟩
instance : HasOwner MessageLabelRow String := ⟨MessageLabelRow.tenant_id⟩
instance : HasOwner MessagePriorityRow String := ⟨MessagePriorityRow.tenant_id⟩
instance : HasOwner ThreatAssessmentRow String := ⟨ThreatAssessmentRow.tenant_id⟩
instance : HasOwner CorrectionRecordRow String := ⟨CorrectionRecordRow.tenant_id⟩

/-- The stored rows. A label carries the tenant of its message. -/
structure Database where
  tenants : Table TenantRow
  plans : List PlanRow
  subscriptions : SubscriptionTable
  usageMeters : UsageMeterTable
  senderProfiles : Table SenderProfileRow
  mailboxConnections : MailboxConnectionTable
  ingestedMessages : Table MessageRow
  messageLabels : MessageLabelTable
  messagePriorities : Table MessagePriorityRow
  threatAssessments : ThreatAssessmentTable
  correctionRecords : CorrectionRecordTable
  tenant_label : ∀ label ∈ messageLabels.rows, ∀ message ∈ ingestedMessages.rows,
    label.message_id = message.id → label.tenant_id = message.tenantId

/-! ## Calls

A request runs on the database. What it meets beside the rows is a parameter: the clock, the new id, the
spelling of ids, and the order of the rows.
-/

/-- The exceptions of a request. What is not one of the framework's own is an internal error. -/
inductive HttpError where
  | unauthorized (message : String)
  | forbidden (message : String)
  | notFound (message : String)
  | badRequest (message : String)
  | internal
deriving DecidableEq

/-- A computation on the database. -/
abbrev Call := EStateM HttpError Database

/-- The order that a request gets the rows of its queries in, where it asks for none. -/
structure RowOrder where
  order : {Row : Type} → Multiset Row → List Row
  coe_order : ∀ {Row : Type} (rows : Multiset Row), (order rows : Multiset Row) = rows

/-- The rows in some order. -/
noncomputable def RowOrder.forwards : RowOrder where
  order := Multiset.toList
  coe_order := Multiset.coe_toList

/-- The rows the other way round. -/
noncomputable def RowOrder.backwards : RowOrder where
  order rows := rows.toList.reverse
  coe_order rows := by rw [Multiset.coe_reverse, Multiset.coe_toList]

/-- What a request meets beside the stored rows: the clock, the id generated for the row it creates,
what the database and its client do with a UUID and with a filter on a text column, and the order of
the rows. -/
structure Surroundings extends RowOrder where
  now : ℤ
  newId : String
  uuid : String → Option String
  textFilter : List (String × Value) → Option (String → Bool)

/-- The surroundings of a request that gets its rows in another order. -/
def Surroundings.inOrder (env : Surroundings) (rowOrder : RowOrder) : Surroundings :=
  { env with toRowOrder := rowOrder }

/-- A text that the database gives back for a UUID is that UUID. -/
def ReadsBack (env : Surroundings) : Prop :=
  ∀ text id, env.uuid text = some id → env.uuid id = some id

/-- A database client that takes every text for a UUID and supports no filters. -/
noncomputable def plainSurroundings : Surroundings where
  toRowOrder := .forwards
  now := 0
  newId := "new-1"
  uuid := some
  textFilter _ := none

/-- A text that is taken as it is is read back. -/
theorem readsBack_plainSurroundings : ReadsBack plainSurroundings := fun _ _ _ => rfl

section

variable (env : Surroundings)

/-- The value of a column of type `Uuid`. -/
def uuid (text : String) : Call String := orThrow .internal (env.uuid text)

/-- A text that is a UUID is looked up as the database spells it. -/
theorem uuid_eq_ok {env : Surroundings} {text id : String} {d d' : Database} :
    uuid env text d = .ok id d' ↔ env.uuid text = some id ∧ d = d' := orThrow_eq_ok

variable {Row Id Key : Type} [Schema Row Id Key]

/-- The matching rows of a table, in the order of the database. -/
def matching (t : Table Row) (p : Row → Bool) : List Row := env.order (t.findMany p)

def findMany (table : Database → Table Row) (p : Row → Bool) : Call (List Row) :=
  reads fun d => matching env (table d) p

/-- `findUnique`. -/
def findUnique [DecidableEq Key] (table : Database → Table Row) (k : Key) : Call (Option Row) :=
  reads fun d => (table d).find k

end

/-- The rows that `skip` and `take` leave: a negative `take` counts from the end. A number that is no
integer of 64 bits is refused, and so is a negative `skip`. -/
def page {α : Type} (take skip : Number) (rows : List α) : Option (List α) :=
  match take, skip with
  | .finite take, .finite skip =>
    if take.natAbs < 2 ^ 63 ∧ 0 ≤ skip ∧ skip < 2 ^ 63 then
      some <|
        if 0 ≤ take then (rows.drop skip.toNat).take take.toNat
        else ((rows.reverse.drop skip.toNat).take take.natAbs).reverse
    else none
  | _, _ => none

end EmailTriage.Api
