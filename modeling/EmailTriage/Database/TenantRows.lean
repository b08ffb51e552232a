import EmailTriage.Lib.RowSecurity
import EmailTriage.MailboxIngestion.IngestedMessageRepository

/-!
# The rows of tenants

The tables that transactions of tenants read and write, as the rows of one database:
`mailbox_connections`, `ingested_messages` and `domain_event_outbox` of `prisma/schema.prisma`, with
their constraints, and `message_body_refs`, which messages refer to. The policies of the migrations
read the column `tenant_id` in each of them.

The foreign keys of a message are for its connection and its body, and either may be null. The key that
all the tables have for `tenants` is not here: no policy is on that table and no statement changes it,
and the rows that a tenant may leave behind have one and the same key for it. Ids are UUIDs as the
database writes them, so that comparing them is comparing texts.
-/

namespace EmailTriage.Database

open Db MailboxIngestion
open Queue (OutboxRow)

/-- A row of `message_body_refs`, to which nothing is written. -/
structure MessageBodyRefRow where
  id : String
  tenantId : String

inductive TenantRow where
  | mailboxConnection (r : MailboxConnectionRow)
  | ingestedMessage (r : IngestedMessageRow)
  | domainEventOutbox (r : OutboxRow)
  | messageBodyRef (r : MessageBodyRefRow)

namespace TenantRow

def id : TenantRow → String
  | mailboxConnection r => r.id
  | ingestedMessage r => r.id
  | domainEventOutbox r => r.id
  | messageBodyRef r => r.id

def tenantId : TenantRow → String
  | mailboxConnection r => r.tenantId
  | ingestedMessage r => r.tenantId
  | domainEventOutbox r => r.tenantId
  | messageBodyRef r => r.tenantId

/-- The rows that a constraint keeps apart: those of one table with the same primary key, and those
with the same unique columns. -/
def clash : TenantRow → TenantRow → Bool
  | mailboxConnection r, mailboxConnection r' => r.id = r'.id || Schema.key r = Schema.key r'
  | ingestedMessage r, ingestedMessage r' =>
    r.id = r'.id || Schema.key r = Schema.key r' || r.messageKey = r'.messageKey
  | domainEventOutbox r, domainEventOutbox r' => r.id = r'.id
  | messageBodyRef r, messageBodyRef r' => r.id = r'.id
  | _, _ => false

/-- The connection with a primary key. -/
def isConnectionWith (id : String) : TenantRow → Bool
  | mailboxConnection r => r.id = id
  | _ => false

/-- The body with a primary key. -/
def isBodyWith (id : String) : TenantRow → Bool
  | messageBodyRef r => r.id = id
  | _ => false

/-- `ingested_messages_mailbox_connection_id_fkey` and `ingested_messages_body_ref_id_fkey`. -/
def foreignKeys : TenantRow → List (TenantRow → Bool)
  | ingestedMessage r => r.mailboxConnectionId.toList.map isConnectionWith ++
    r.bodyRefId.toList.map isBodyWith
  | _ => []

instance : Constrained TenantRow String := ⟨id, clash, foreignKeys⟩

instance : HasOwner TenantRow String := ⟨tenantId⟩

/-- All unique columns but the primary keys begin with the tenant. -/
instance : Unshared TenantRow where
  of_clash r r' h := by
    cases r with
    | mailboxConnection r =>
      cases r' with
      | mailboxConnection r' =>
        rcases Bool.or_eq_true_iff.mp h with hid | hkey
        · exact .inr (of_decide_eq_true hid)
        · exact .inl (congrArg Prod.fst (of_decide_eq_true hkey))
      | _ => cases h
    | ingestedMessage r =>
      cases r' with
      | ingestedMessage r' =>
        rcases Bool.or_eq_true_iff.mp h with hkey | hmessage
        · rcases Bool.or_eq_true_iff.mp hkey with hid | hkey
          · exact .inr (of_decide_eq_true hid)
          · exact .inl (congrArg Prod.fst (of_decide_eq_true hkey))
        · exact .inl (congrArg Prod.fst (of_decide_eq_true hmessage))
      | _ => cases h
    | domainEventOutbox r =>
      cases r' with
      | domainEventOutbox r' => exact .inr (of_decide_eq_true h)
      | _ => cases h
    | messageBodyRef r =>
      cases r' with
      | messageBodyRef r' => exact .inr (of_decide_eq_true h)
      | _ => cases h

/-- An update of the connections. -/
def editConnection (f : Patch MailboxConnectionRow) : Edit TenantRow where
  apply
    | mailboxConnection r => mailboxConnection (f.apply r)
    | r => r
  id_apply r := by
    cases r with
    | mailboxConnection r => exact f.id_apply r
    | _ => rfl
  clash_apply r r' := by
    cases r with
    | mailboxConnection r =>
      cases r' with
      | mailboxConnection r' =>
        have hid : (f.apply r).id = r.id := f.id_apply r
        show (decide ((f.apply r).id = r'.id) || decide (Schema.key (f.apply r) = Schema.key r')) = _
        rw [hid, f.key_apply]
        rfl
      | _ => rfl
    | _ => rfl
  foreignKeys_apply r := by
    cases r with
    | _ => rfl

end TenantRow

end EmailTriage.Database
