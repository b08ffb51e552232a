import EmailTriage.Api.MessageReads
import EmailTriage.Api.Noninterference

/-!
# Mailbox connections through the API

The three endpoints of `src/api/v1/controllers/mailbox.controller.ts` that name a mailbox. The list
reads the columns under names that the client does not give them, so no entry tells which mailbox it is
for (`addressable_iff`). Apart from that, a mailbox is found by its id when it is connected to Gmail,
and it is disconnected when no connection is active but the one the database finds first.

`listCarries_iff`, `gets_iff` and `disconnects_iff` treat the three endpoints one by one, for every
state of the table and every order in which the database finds the rows. `addressable_iff` puts them
together; since the list fails wherever it has an entry, it says of the other two what they do for each
listed id.
-/

namespace EmailTriage.Api

open Js Db
open MailboxIngestion (MailboxConnectionRow)

namespace MailboxController

open MessagesController (elements)

/-- The connections of a tenant. -/
def connectionsOf (d : Database) (tenant : String) : List MailboxConnectionRow :=
  d.mailboxConnections.findMany fun r => r.tenantId = tenant

/-- An entry has what is stored of a connection: the mailbox, the status, the times and the count of
failures. The times of creation and of the last update are stored with every connection. -/
structure Carries (r : MailboxConnectionRow) (entry : Value) : Prop where
  id : entry.get "id" = .str r.id
  mailbox_id : entry.get "mailbox_id" = .str r.mailboxId
  status : entry.get "status" = .str r.status
  watch_expires_at : entry.get "watch_expires_at" = Value.ofOption iso r.watchExpiresAt
  last_webhook_at : entry.get "last_webhook_at" = Value.ofOption iso r.lastWebhookAt
  last_sync_at : entry.get "last_sync_at" = Value.ofOption iso r.lastSyncAt
  sync_failure_count : entry.get "sync_failure_count" = .num r.syncFailureCount
  created_at : ∃ t, entry.get "created_at" = iso t
  updated_at : ∃ t, entry.get "updated_at" = iso t

/-- Every entry of the list carries a connection of the tenant. -/
def ListCarries (env : Surroundings) (d : Database) (tenantId tenant : String) : Prop :=
  ∃ response, listMailboxConnections env tenantId d = .ok response d ∧
    ∀ entry ∈ elements (response.get "connections"), ∃ r ∈ connectionsOf d tenant, Carries r entry

/-- The mailbox with an id is found: the entry is that of a connection with the id. -/
def Gets (env : Surroundings) (d : Database) (tenantId tenant mailboxId : String) : Prop :=
  ∃ entry, getMailboxConnection env tenantId mailboxId d = .ok entry d ∧
    ∃ r ∈ connectionsOf d tenant, r.mailboxId = mailboxId ∧ entry.get "id" = .str r.id

/-- Once the mailbox with an id is disconnected, no connection with the id is active. -/
def Disconnects (env : Surroundings) (d : Database) (tenantId tenant mailboxId : String) : Prop :=
  ∀ response d', disconnectMailbox env tenantId mailboxId d = .ok response d' →
    ∀ r ∈ connectionsOf d' tenant, r.mailboxId = mailboxId → r.status ≠ "active"

/-- The listed mailboxes of a tenant can be addressed. -/
def Addressable (env : Surroundings) (d : Database) (tenantId tenant : String) : Prop :=
  ListCarries env d tenantId tenant ∧ ∀ r ∈ connectionsOf d tenant,
    Gets env d tenantId tenant r.mailboxId ∧ Disconnects env d tenantId tenant r.mailboxId

/-- The connection with an id that the database finds first. -/
def foundFirst (env : Surroundings) (d : Database) (tenant mailboxId : String) :
    Option MailboxConnectionRow :=
  (matching env d.mailboxConnections fun r => r.tenantId = tenant && r.mailboxId = mailboxId).head?

section

variable {env : Surroundings} {d : Database} {tenantId tenant : String}

/-- The connections of a tenant. -/
theorem mem_connectionsOf {r : MailboxConnectionRow} :
    r ∈ connectionsOf d tenant ↔ r ∈ d.mailboxConnections.rows ∧ r.tenantId = tenant := by
  unfold connectionsOf
  rw [Table.findMany, List.mem_filter, decide_eq_true_eq]

/-- No entry names its mailbox. -/
theorem get_mailbox_id_toMailboxDto (r : MailboxConnectionRow) :
    (toMailboxDto (toConnection r)).get "mailbox_id" = .undefined := by
  simp [toMailboxDto, toConnection]

/-- A connection is shown with its id. -/
theorem get_id_toMailboxDto (r : MailboxConnectionRow) :
    (toMailboxDto (toConnection r)).get "id" = .str r.id := by
  simp [toMailboxDto, toConnection]

/-- The entries of the list. -/
theorem listMailboxConnections_eq (htenant : env.uuid tenantId = some tenant) :
    ∃ response, listMailboxConnections env tenantId d = .ok response d ∧
      elements (response.get "connections")
        = (matching env d.mailboxConnections fun r => r.tenantId = tenant).map
          fun r => toMailboxDto (toConnection r) := by
  unfold listMailboxConnections
  rw [bind_of_ok (uuid_eq_ok.mpr ⟨htenant, rfl⟩)]
  exact ⟨_, rfl, rfl⟩

/-- The entries carry their connections when there are none. -/
theorem listCarries_iff (htenant : env.uuid tenantId = some tenant) :
    ListCarries env d tenantId tenant ↔ connectionsOf d tenant = [] := by
  obtain ⟨response, hlist, hentries⟩ := listMailboxConnections_eq (d := d) htenant
  have hperm := perm_matching env d.mailboxConnections fun r => decide (r.tenantId = tenant)
  unfold ListCarries
  constructor
  · rintro ⟨response', hlist', hcarries⟩
    obtain ⟨rfl, -⟩ := EStateM.Result.ok.inj (hlist.symm.trans hlist')
    refine List.eq_nil_iff_forall_not_mem.mpr fun r hr => ?_
    have hentry : toMailboxDto (toConnection r) ∈ elements (response.get "connections") := by
      rw [hentries]
      exact List.mem_map_of_mem (hperm.mem_iff.mpr hr)
    obtain ⟨r', -, hcarried⟩ := hcarries _ hentry
    have hid := hcarried.mailbox_id
    rw [get_mailbox_id_toMailboxDto] at hid
    cases hid
  · intro hnone
    refine ⟨response, hlist, fun entry hentry => ?_⟩
    have hempty : (matching env d.mailboxConnections fun r => r.tenantId = tenant) = [] := by
      unfold connectionsOf at hnone
      rw [hnone] at hperm
      exact hperm.eq_nil
    rw [hentries, hempty] at hentry
    cases hentry

/-- A mailbox is found by its id when it is connected to Gmail. -/
theorem gets_iff (htenant : env.uuid tenantId = some tenant) (mailboxId : String) :
    Gets env d tenantId tenant mailboxId ↔
      ∃ r ∈ connectionsOf d tenant, r.mailboxId = mailboxId ∧ r.platform = "gmail" := by
  -- the route looks the mailbox up as one of Gmail, whatever its platform is
  have hget : ∀ entry, getMailboxConnection env tenantId mailboxId d = .ok entry d ↔
      ∃ r, d.mailboxConnections.find (tenant, mailboxId, "gmail") = some r ∧
        entry = toMailboxDto (toConnection r) := by
    intro entry
    have hfound : findUnique (·.mailboxConnections) (tenant, mailboxId, "gmail") d
        = .ok (d.mailboxConnections.find (tenant, mailboxId, "gmail")) d := rfl
    unfold getMailboxConnection
    rw [bind_of_ok (uuid_eq_ok.mpr ⟨htenant, rfl⟩), bind_of_ok hfound]
    rcases d.mailboxConnections.find (tenant, mailboxId, "gmail") with _ | r
    · refine iff_of_false (fun h => by cases h) ?_
      rintro ⟨r, hr, -⟩
      cases hr
    · constructor
      · intro h
        exact ⟨r, rfl, (pure_eq_ok.mp h).1.symm⟩
      · rintro ⟨r', hr', rfl⟩
        rw [Option.some.inj hr']
        rfl
  unfold Gets
  constructor
  · rintro ⟨entry, hentry, -⟩
    obtain ⟨r, hfind, -⟩ := (hget entry).mp hentry
    obtain ⟨hmem, hkey⟩ := Table.find_eq_some_iff.mp hfind
    refine ⟨r, mem_connectionsOf.mpr ⟨hmem, congrArg (·.1) hkey⟩, ?_⟩
    exact ⟨congrArg (·.2.1) hkey, congrArg (·.2.2) hkey⟩
  · rintro ⟨r, hr, hmailbox, hplatform⟩
    obtain ⟨hmem, howner⟩ := mem_connectionsOf.mp hr
    have hkey : Schema.key r = (tenant, mailboxId, "gmail") :=
      Prod.ext howner (Prod.ext hmailbox hplatform)
    refine ⟨_, (hget _).mpr ⟨r, Table.find_eq_some_iff.mpr ⟨hmem, hkey⟩, rfl⟩, r, hr, hmailbox, ?_⟩
    exact get_id_toMailboxDto r

/-- A mailbox is disconnected when no connection with its id is active but the one that is found first. -/
theorem disconnects_iff (htenant : env.uuid tenantId = some tenant) {r₀ : MailboxConnectionRow}
    (hr₀ : r₀ ∈ connectionsOf d tenant) :
    Disconnects env d tenantId tenant r₀.mailboxId ↔
      ∀ r ∈ connectionsOf d tenant, r.mailboxId = r₀.mailboxId → r.status = "active" →
        foundFirst env d tenant r₀.mailboxId = some r := by
  obtain ⟨hmem₀, howner₀⟩ := mem_connectionsOf.mp hr₀
  have hmatch₀ : r₀ ∈ matching env d.mailboxConnections fun r =>
      r.tenantId = tenant && r.mailboxId = r₀.mailboxId :=
    mem_matching_iff.mpr ⟨hmem₀, by simp [howner₀]⟩
  obtain ⟨found, hfound⟩ : ∃ found, foundFirst env d tenant r₀.mailboxId = some found :=
    ⟨_, List.head?_eq_some_head (List.ne_nil_of_mem hmatch₀)⟩
  obtain ⟨hmem, hmatch⟩ := mem_matching_iff.mp (List.mem_of_head? hfound)
  obtain ⟨t, ht⟩ : ∃ t, d.mailboxConnections.update found.id revokedData = some t :=
    ⟨_, Table.update_of_mem hmem revokedData⟩
  -- the call writes the one row that was found
  have hcall : disconnectMailbox env tenantId r₀.mailboxId d
      = .ok (.obj [("success", .bool true)]) { d with mailboxConnections := t } := by
    have hquery : findMany env (·.mailboxConnections)
        (fun r => r.tenantId = tenant && r.mailboxId = r₀.mailboxId) d
          = .ok (matching env d.mailboxConnections fun r =>
              r.tenantId = tenant && r.mailboxId = r₀.mailboxId) d := rfl
    unfold foundFirst at hfound
    unfold disconnectMailbox
    rw [bind_of_ok (uuid_eq_ok.mpr ⟨htenant, rfl⟩), bind_of_ok hquery, hfound]
    exact writes_of_some (congrArg (Option.map _) ht)
  have hrows := Table.mem_update ht
  unfold Disconnects
  rw [hfound, hcall]
  constructor
  · intro h r hr hmailbox hactive
    obtain ⟨hstored, howner⟩ := mem_connectionsOf.mp hr
    by_cases hid : r.id = found.id
    · rw [Table.eq_of_id_eq hstored hmem hid]
    · -- a row that was not found stays active
      have hkept : r ∈ t.rows := (hrows r).mpr ⟨r, hstored, if_neg hid⟩
      exact absurd hactive (h _ _ rfl r (mem_connectionsOf.mpr ⟨hkept, howner⟩) hmailbox)
  · intro h response d' hresult r' hr' hmailbox hactive
    obtain ⟨-, rfl⟩ := EStateM.Result.ok.inj hresult
    obtain ⟨hstored', howner'⟩ := mem_connectionsOf.mp hr'
    obtain ⟨r, hstored, hr⟩ := (hrows r').mp hstored'
    split_ifs at hr with hid
    · have hrevoked : (revokedData.apply r).status = "revoked" := rfl
      rw [← hr, hrevoked] at hactive
      exact absurd hactive (by decide)
    · subst hr
      have hfirst := h r (mem_connectionsOf.mpr ⟨hstored, howner'⟩) hmailbox hactive
      exact hid (congrArg MailboxConnectionRow.id (Option.some.inj hfirst)).symm

end

/-- The listed mailboxes can be addressed when there are none. The connection with a listed id is found
exactly when one of that id is connected to Gmail, and disconnecting the id leaves no active connection
exactly when none was active but the one that the database finds first. -/
theorem addressable_iff {env : Surroundings} {d : Database} {tenantId tenant : String}
    (htenant : env.uuid tenantId = some tenant) :
    (Addressable env d tenantId tenant ↔ connectionsOf d tenant = []) ∧
      ∀ r₀ ∈ connectionsOf d tenant,
        (Gets env d tenantId tenant r₀.mailboxId ↔
          ∃ r ∈ connectionsOf d tenant, r.mailboxId = r₀.mailboxId ∧ r.platform = "gmail") ∧
        (Disconnects env d tenantId tenant r₀.mailboxId ↔
          ∀ r ∈ connectionsOf d tenant, r.mailboxId = r₀.mailboxId → r.status = "active" →
            foundFirst env d tenant r₀.mailboxId = some r) := by
  refine ⟨?_, fun r₀ hr₀ => ⟨gets_iff htenant r₀.mailboxId, disconnects_iff htenant hr₀⟩⟩
  unfold Addressable
  rw [listCarries_iff htenant]
  refine and_iff_left_of_imp fun hnone r hr => ?_
  rw [hnone] at hr
  cases hr

/-- A mailbox of Gmail is found and disconnected, and still its entry does not name it. -/
theorem addressable_secondMailbox :
    (Addressable plainSurroundings (connectionsOnly (some secondMailbox)) "tenant-2" "tenant-2" ↔
        connectionsOf (connectionsOnly (some secondMailbox)) "tenant-2" = []) ∧
      ∀ r₀ ∈ connectionsOf (connectionsOnly (some secondMailbox)) "tenant-2",
        (Gets plainSurroundings (connectionsOnly (some secondMailbox)) "tenant-2" "tenant-2" r₀.mailboxId ↔
          ∃ r ∈ connectionsOf (connectionsOnly (some secondMailbox)) "tenant-2",
            r.mailboxId = r₀.mailboxId ∧ r.platform = "gmail") ∧
        (Disconnects plainSurroundings (connectionsOnly (some secondMailbox)) "tenant-2" "tenant-2"
            r₀.mailboxId ↔
          ∀ r ∈ connectionsOf (connectionsOnly (some secondMailbox)) "tenant-2",
            r.mailboxId = r₀.mailboxId → r.status = "active" →
              foundFirst plainSurroundings (connectionsOnly (some secondMailbox)) "tenant-2" r₀.mailboxId
                = some r) :=
  addressable_iff rfl

/-- The entry of that mailbox does not name it. -/
theorem not_addressable_secondMailbox :
    ¬∀ (env : Surroundings) (d : Database) (tenantId tenant : String),
      env.uuid tenantId = some tenant → Addressable env d tenantId tenant := by
  intro h
  have hlist := (h plainSurroundings (connectionsOnly (some secondMailbox)) "tenant-2" "tenant-2" rfl).1
  rw [listCarries_iff rfl] at hlist
  exact absurd (congrArg List.length hlist) (by decide)

end MailboxController

end EmailTriage.Api
