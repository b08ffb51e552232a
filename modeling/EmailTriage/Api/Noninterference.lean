import EmailTriage.Api.RowOrders

/-!
# Tenants do not see each other

The answer to a request of a tenant depends on the rows of that tenant, on the catalog of plans and on
the orders in which the database returns the rows, and the request changes no row of another tenant.
`noninterference` says so for every route, every request that the guards let through and every two
states of the database that agree on the rows of the tenant.

## The shape of the argument

The handlers are run side by side in the two states, with the rows in the same order
(`sameRun_handle`): a query that names the tenant finds the same rows, and a write changes rows of the
tenant only. That leaves the orders. Two runs with orders of their own are compared in one of the
states (`alikeUpToOrder_dispatch`), where nothing but the orders is different. That answers with
different orders can be told apart is `not_noninterference_reversed`.
-/

namespace EmailTriage.Api

open Js Db
open Classification (MessageLabelRow)

/-- Two states have the same rows of a tenant, and the same plans. -/
structure Agree (tenant : String) (d d' : Database) : Prop where
  tenants : d.tenants.SameOwned tenant d'.tenants
  plans : d.plans = d'.plans
  subscriptions : d.subscriptions.SameOwned tenant d'.subscriptions
  usageMeters : d.usageMeters.SameOwned tenant d'.usageMeters
  senderProfiles : d.senderProfiles.SameOwned tenant d'.senderProfiles
  mailboxConnections : d.mailboxConnections.SameOwned tenant d'.mailboxConnections
  ingestedMessages : d.ingestedMessages.SameOwned tenant d'.ingestedMessages
  messageLabels : d.messageLabels.SameOwned tenant d'.messageLabels
  messagePriorities : d.messagePriorities.SameOwned tenant d'.messagePriorities
  threatAssessments : d.threatAssessments.SameOwned tenant d'.threatAssessments
  correctionRecords : d.correctionRecords.SameOwned tenant d'.correctionRecords

/-- No row of another tenant has changed, and no plan. -/
structure OthersUnchanged (tenant : String) (d d' : Database) : Prop where
  tenants : d.tenants.SameOthers tenant d'.tenants
  plans : d.plans = d'.plans
  subscriptions : d.subscriptions.SameOthers tenant d'.subscriptions
  usageMeters : d.usageMeters.SameOthers tenant d'.usageMeters
  senderProfiles : d.senderProfiles.SameOthers tenant d'.senderProfiles
  mailboxConnections : d.mailboxConnections.SameOthers tenant d'.mailboxConnections
  ingestedMessages : d.ingestedMessages.SameOthers tenant d'.ingestedMessages
  messageLabels : d.messageLabels.SameOthers tenant d'.messageLabels
  messagePriorities : d.messagePriorities.SameOthers tenant d'.messagePriorities
  threatAssessments : d.threatAssessments.SameOthers tenant d'.threatAssessments
  correctionRecords : d.correctionRecords.SameOthers tenant d'.correctionRecords

/-- The generated id is that of no row of the tables it may be for. -/
structure IsFresh (newId : String) (d : Database) : Prop where
  mailboxConnections : ∀ r ∈ d.mailboxConnections.rows, r.id ≠ newId
  correctionRecords : ∀ r ∈ d.correctionRecords.rows, r.id ≠ newId

/-- The guards let the request through as a request of the tenant. -/
def LetThroughAs (env : Surroundings) (request : Request) (tenant : String) : Prop :=
  ∃ tenantId, ApiKeyGuard.canActivate request = .ok tenantId ∧
    ApiTenantScopeGuard.canActivate tenantId request.route.tenantId = .ok () ∧
    Denotes env tenantId tenant

/-- A state has the rows of the other tenants that it has. -/
theorem othersUnchanged_refl (tenant : String) (d : Database) : OthersUnchanged tenant d d where
  tenants := .refl
  plans := rfl
  subscriptions := .refl
  usageMeters := .refl
  senderProfiles := .refl
  mailboxConnections := .refl
  ingestedMessages := .refl
  messageLabels := .refl
  messagePriorities := .refl
  threatAssessments := .refl
  correctionRecords := .refl

/-- What holds of the two states while a request of the tenant runs: they agree, and the first one is what
it was but for rows of the tenant. -/
def Indistinguishable (tenant : String) (start : Database) (d d' : Database) : Prop :=
  Agree tenant d d' ∧ OthersUnchanged tenant start d

section

variable {env : Surroundings} {tenantId tenant : String} {d d' : Database}
variable {R : Database → Database → Prop}

/-! ## Reads

A query that asks for rows of one tenant gives the same rows in two states that agree on them, and changes
neither.
-/

/-- What a text says as a UUID does not depend on the rows. -/
theorem sameRun_uuid (text : String) : SameRun (Still d d') (uuid env text) d d' :=
  .orThrow _ _ ⟨rfl, rfl⟩

/-- The id of the request denotes its tenant. -/
theorem sameRun_withTenant {α : Type} {f : String → Call α} (hdenotes : Denotes env tenantId tenant)
    (hR : R d d') (hf : SameRun R (f tenant) d d') : SameRun R (uuid env tenantId >>= f) d d' := by
  refine (sameRun_uuid tenantId).bindRead hR fun id hid _ => ?_
  rw [hdenotes id (orThrow_eq_ok.mp hid).1]
  exact hf

variable {Row Id Key : Type} [Schema Row Id Key] [HasOwner Row String]

/-- A query that asks for rows of the tenant only finds the same ones in both states. -/
theorem sameRun_findMany {table : Database → Table Row} (h : (table d).SameOwned tenant (table d'))
    {p : Row → Bool} (hp : ∀ r ∈ (table d).rows, p r = true → owner r = tenant)
    (hp' : ∀ r ∈ (table d').rows, p r = true → owner r = tenant) :
    SameRun (Still d d') (findMany env table p) d d' := by
  have hrows := Multiset.coe_eq_coe.mpr (h.perm hp hp')
  exact .reads (congrArg env.order hrows) ⟨rfl, rfl⟩

/-- So does a query by a key that rows of the tenant only can have. -/
theorem sameRun_findUnique [DecidableEq Key] {table : Database → Table Row}
    (h : (table d).SameOwned tenant (table d')) {k : Key}
    (hk : ∀ r : Row, Schema.key r = k → owner r = tenant) :
    SameRun (Still d d') (findUnique table k) d d' :=
  .reads (h.find (fun r _ => hk r) fun r _ => hk r) ⟨rfl, rfl⟩

omit [HasOwner Row String] in
/-- The rows that were found. -/
theorem mem_of_findMany {table : Database → Table Row} {p : Row → Bool} {rows : List Row}
    (h : findMany env table p d = .ok rows d) {r : Row} (hr : r ∈ rows) :
    r ∈ (table d).rows ∧ p r = true := by
  have hrows : matching env (table d) p = rows := (EStateM.Result.ok.inj h).1
  rw [← hrows] at hr
  have hmem : r ∈ (env.order ((table d).findMany p : Multiset Row) : Multiset Row) := hr
  rw [env.coe_order] at hmem
  exact List.mem_filter.mp hmem

/-! ## Messages

The handlers of messages, in the order of their queries. A correction is the only row they write.
-/

namespace MessagesController

variable {Row : Type} [Schema Row String (String × String)] [HasOwner Row String]

/-- The rows that belong to some messages are looked for under the tenant. -/
theorem sameRun_findForMessages {table : Database → Table Row}
    (h : (table d).SameOwned tenant (table d')) (howner : ∀ r : Row, owner r = (Schema.key r).1)
    (hdenotes : Denotes env tenantId tenant) (messageIds : List String) :
    SameRun (Still d d') (findForMessages env table tenantId messageIds) d d' := by
  have hmatch : ∀ (ids : List String) (r : Row),
      ((Schema.key r).1 = tenant && ids.contains (Schema.key r).2) = true → owner r = tenant := by
    intro ids r hr
    rw [howner]
    exact of_decide_eq_true (Bool.and_eq_true_iff.mp hr).1
  refine sameRun_withTenant hdenotes ⟨rfl, rfl⟩ ?_
  refine (SameRun.mapM fun id _ => sameRun_uuid id).bindRead ⟨rfl, rfl⟩ fun ids _ _ => ?_
  exact sameRun_findMany h (fun r _ => hmatch ids r) fun r _ => hmatch ids r

/-- So are those that belong to one message. -/
theorem sameRun_findForMessage {table : Database → Table Row}
    (h : (table d).SameOwned tenant (table d')) (howner : ∀ r : Row, owner r = (Schema.key r).1)
    (hdenotes : Denotes env tenantId tenant) (messageId : String) :
    SameRun (Still d d') (findForMessage env table tenantId messageId) d d' := by
  refine sameRun_withTenant hdenotes ⟨rfl, rfl⟩ ?_
  refine (sameRun_uuid messageId).bindRead ⟨rfl, rfl⟩ fun id _ _ => ?_
  refine sameRun_findUnique h fun r hr => ?_
  rw [howner, hr]

/-- The labels of a message of the tenant are the tenant's. -/
theorem sameRun_findLabels (h : Agree tenant d d') {message : MessageRow}
    (hmessage : message ∈ d.ingestedMessages.rows) (howner : message.tenantId = tenant) :
    SameRun (Still d d') (findLabels env message) d d' := by
  have hmessage' := (h.ingestedMessages message howner).mp hmessage
  refine sameRun_findMany h.messageLabels (fun label hlabel hof => ?_) fun label hlabel hof => ?_
  · exact (d.tenant_label label hlabel message hmessage (of_decide_eq_true hof)).trans howner
  · exact (d'.tenant_label label hlabel message hmessage' (of_decide_eq_true hof)).trans howner

/-- The list of messages shows the tenant's messages with the tenant's rows on them. -/
theorem sameRun_listMessages (h : Agree tenant d d') (hdenotes : Denotes env tenantId tenant)
    (limit offset : Option String) :
    SameRun (Still d d') (listMessages env tenantId limit offset) d d' := by
  refine sameRun_withTenant hdenotes ⟨rfl, rfl⟩ ?_
  refine (sameRun_findMany h.ingestedMessages (fun r _ hr => of_decide_eq_true hr)
    fun r _ hr => of_decide_eq_true hr).bindRead ⟨rfl, rfl⟩ fun found hfound _ => ?_
  refine (SameRun.orThrow _ _ ⟨rfl, rfl⟩).bindRead ⟨rfl, rfl⟩ fun messages hmessages _ => ?_
  have hlabels : SameRun (Still d d') (messages.mapM (findLabels env)) d d' := by
    refine .mapM fun message hmessage => ?_
    have hpage := (orThrow_eq_ok.mp hmessages).1
    obtain ⟨hmem, howner⟩ := mem_of_findMany hfound (mem_of_page hpage hmessage)
    exact sameRun_findLabels h hmem (of_decide_eq_true howner)
  refine hlabels.bindRead ⟨rfl, rfl⟩ fun labels _ _ => ?_
  refine (sameRun_findForMessages h.messagePriorities (fun _ => rfl) hdenotes _).bindRead ⟨rfl, rfl⟩
    fun priorities _ _ => ?_
  refine (sameRun_findForMessages h.threatAssessments (fun _ => rfl) hdenotes _).bindRead ⟨rfl, rfl⟩
    fun threats _ _ => ?_
  exact (SameRun.ofExcept _ ⟨rfl, rfl⟩).bindRead ⟨rfl, rfl⟩ fun dtos _ _ => .pure _ ⟨rfl, rfl⟩

/-- A message that is found is the tenant's. -/
theorem sameRun_findMessage (h : Agree tenant d d') (hdenotes : Denotes env tenantId tenant)
    (messageId : String) : SameRun (Still d d') (findMessage env tenantId messageId) d d' := by
  refine sameRun_withTenant hdenotes ⟨rfl, rfl⟩ ?_
  refine (sameRun_findUnique h.ingestedMessages fun r hr => congrArg Prod.fst hr).bindRead ⟨rfl, rfl⟩
    fun message _ _ => ?_
  rcases message with _ | message
  · exact .throw _ ⟨rfl, rfl⟩
  · exact .pure _ ⟨rfl, rfl⟩

/-- A message that is found is one of the tenant's. -/
theorem mem_of_findMessage (hdenotes : Denotes env tenantId tenant) {messageId : String}
    {message : MessageRow} (h : findMessage env tenantId messageId d = .ok message d) :
    message ∈ d.ingestedMessages.rows ∧ message.tenantId = tenant := by
  unfold findMessage at h
  obtain ⟨id, s₁, hid, h⟩ := bind_eq_ok.mp h
  obtain ⟨huuid, rfl⟩ := orThrow_eq_ok.mp hid
  obtain ⟨found, s₂, hfound, h⟩ := bind_eq_ok.mp h
  obtain ⟨hfind, rfl⟩ := EStateM.Result.ok.inj hfound
  rcases found with _ | message'
  · cases h
  · obtain ⟨rfl, -⟩ := pure_eq_ok.mp h
    obtain ⟨hmem, hkey⟩ := Table.find_eq_some_iff.mp hfind
    exact ⟨hmem, (congrArg Prod.fst hkey).trans (hdenotes id huuid)⟩

/-- The details of a message show rows of the tenant, or say that there is none. -/
theorem sameRun_getMessageDetails (h : Agree tenant d d') (hdenotes : Denotes env tenantId tenant)
    (messageId : String) : SameRun (Still d d') (getMessageDetails env tenantId messageId) d d' := by
  refine (sameRun_findMessage h hdenotes messageId).bindRead ⟨rfl, rfl⟩ fun message hmessage _ => ?_
  obtain ⟨hmem, howner⟩ := mem_of_findMessage hdenotes hmessage
  refine (sameRun_findLabels h hmem howner).bindRead ⟨rfl, rfl⟩ fun labels _ _ => ?_
  refine (sameRun_findForMessage h.messagePriorities (fun _ => rfl) hdenotes _).bindRead ⟨rfl, rfl⟩
    fun priority _ _ => ?_
  refine (sameRun_findForMessage h.threatAssessments (fun _ => rfl) hdenotes _).bindRead ⟨rfl, rfl⟩
    fun threat _ _ => ?_
  exact .ofExcept _ ⟨rfl, rfl⟩

/-- A correction stores a row of the tenant, under an id that is new in both states. -/
theorem sameRun_submitCorrection {start : Database} (h : Indistinguishable tenant start d d')
    (hfresh : IsFresh env.newId d) (hfresh' : IsFresh env.newId d')
    (hdenotes : Denotes env tenantId tenant) (messageId : String) (correction : Value) :
    SameRun (Indistinguishable tenant start) (submitCorrection env tenantId messageId correction)
      d d' := by
  refine (sameRun_findMessage h.1 hdenotes messageId).bindRead h fun _ _ _ => ?_
  refine (SameRun.ofExcept _ ⟨rfl, rfl⟩).bindRead h fun correction _ _ => ?_
  refine sameRun_withTenant hdenotes h ?_
  refine (sameRun_uuid messageId).bindRead h fun id _ _ => ?_
  refine .writesMap h ?_
  rcases h.1.correctionRecords.create (r := ⟨env.newId, tenant, id, _, _, _, _⟩) rfl
      (fun r hr hid => absurd hid (hfresh.correctionRecords r hr))
      (fun r hr hid => absurd hid (hfresh'.correctionRecords r hr)) hfresh.correctionRecords
      hfresh'.correctionRecords with hnone | ⟨t, t', ht, ht', howned, hothers⟩
  · exact .inl hnone
  · refine .inr ⟨t, t', ht, ht', rfl, ?_, ?_⟩
    · exact { h.1 with correctionRecords := howned }
    · exact { h.2 with correctionRecords := h.2.correctionRecords.trans hothers }

end MessagesController

/-! ## Mailbox connections

Connecting writes a row with a new id, disconnecting updates a row that was found under the tenant.
-/

namespace MailboxController

/-- The list of connections shows the tenant's. -/
theorem sameRun_listMailboxConnections (h : Agree tenant d d')
    (hdenotes : Denotes env tenantId tenant) :
    SameRun (Still d d') (listMailboxConnections env tenantId) d d' := by
  refine sameRun_withTenant hdenotes ⟨rfl, rfl⟩ ?_
  refine (sameRun_findMany h.mailboxConnections (fun r _ hr => of_decide_eq_true hr)
    fun r _ hr => of_decide_eq_true hr).bindRead ⟨rfl, rfl⟩ fun connections _ _ => ?_
  exact .pure _ ⟨rfl, rfl⟩

/-- A connection is shown if it is one of the tenant's, whoever else has one of that name. -/
theorem sameRun_getMailboxConnection (h : Agree tenant d d')
    (hdenotes : Denotes env tenantId tenant) (mailboxId : String) :
    SameRun (Still d d') (getMailboxConnection env tenantId mailboxId) d d' := by
  refine sameRun_withTenant hdenotes ⟨rfl, rfl⟩ ?_
  refine (sameRun_findUnique h.mailboxConnections fun r hr => congrArg Prod.fst hr).bindRead ⟨rfl, rfl⟩
    fun connection _ _ => ?_
  rcases connection with _ | connection
  · exact .throw _ ⟨rfl, rfl⟩
  · exact .pure _ ⟨rfl, rfl⟩

/-- A row of the tenant with a new id is stored in both states, or in none. -/
theorem sameRun_insertConnection {start : Database} (h : Indistinguishable tenant start d d')
    (hfresh : IsFresh env.newId d) (hfresh' : IsFresh env.newId d')
    {row : MailboxIngestion.MailboxConnectionRow} (hid : row.id = env.newId)
    (howner : row.tenantId = tenant) :
    SameRun (Indistinguishable tenant start) (insertConnection row) d d' := by
  have htenant : d.tenants.find row.tenantId = d'.tenants.find row.tenantId :=
    h.1.tenants.find (fun _ _ hr => hr.trans howner) fun _ _ hr => hr.trans howner
  refine .writesMap h ?_
  by_cases hexists : (d'.tenants.find row.tenantId).isSome = true
  · rw [if_pos (htenant ▸ hexists), if_pos hexists]
    rcases h.1.mailboxConnections.create (r := row) howner
        (fun r _ hkey => (congrArg Prod.fst hkey).trans howner)
        (fun r _ hkey => (congrArg Prod.fst hkey).trans howner)
        (fun r hr heq => hfresh.mailboxConnections r hr (heq.trans hid))
        (fun r hr heq => hfresh'.mailboxConnections r hr (heq.trans hid))
      with hnone | ⟨t, t', ht, ht', howned, hothers⟩
    · exact .inl hnone
    · refine .inr ⟨t, t', ht, ht', rfl, ?_, ?_⟩
      · exact { h.1 with mailboxConnections := howned }
      · exact { h.2 with mailboxConnections := h.2.mailboxConnections.trans hothers }
  · rw [if_neg (htenant ▸ hexists), if_neg hexists]
    exact .inl ⟨rfl, rfl⟩

/-- Connecting a mailbox stores a row of the tenant. -/
theorem sameRun_connectMailbox {start : Database} (h : Indistinguishable tenant start d d')
    (hfresh : IsFresh env.newId d) (hfresh' : IsFresh env.newId d')
    (hdenotes : Denotes env tenantId tenant) (request : Value) :
    SameRun (Indistinguishable tenant start) (connectMailbox env tenantId request) d d' := by
  refine (SameRun.ofExcept _ ⟨rfl, rfl⟩).bindRead h fun request _ _ => ?_
  refine sameRun_withTenant hdenotes h ?_
  split
  · exact sameRun_insertConnection h hfresh hfresh' rfl rfl
  · exact .throw _ h

/-- Disconnecting a mailbox changes a row of the tenant, or says that there is none. -/
theorem sameRun_disconnectMailbox {start : Database} (h : Indistinguishable tenant start d d')
    (hdenotes : Denotes env tenantId tenant) (mailboxId : String) :
    SameRun (Indistinguishable tenant start) (disconnectMailbox env tenantId mailboxId) d d' := by
  have howns : ∀ r : MailboxIngestion.MailboxConnectionRow,
      (r.tenantId = tenant && r.mailboxId = mailboxId) = true → owner r = tenant :=
    fun r hr => of_decide_eq_true (Bool.and_eq_true_iff.mp hr).1
  refine sameRun_withTenant hdenotes h ?_
  refine (sameRun_findMany h.1.mailboxConnections (fun r _ => howns r)
    fun r _ => howns r).bindRead h fun found hfound _ => ?_
  rcases hhead : found.head? with _ | connection
  · exact .throw _ h
  · obtain ⟨hmem, hmatch⟩ := mem_of_findMany hfound (List.mem_of_head? hhead)
    obtain ⟨t, t', ht, ht', howned, hothers⟩ := h.1.mailboxConnections.update (f := revokedData) hmem
      (howns connection hmatch) fun _ => rfl
    refine .writesMap h (.inr ⟨t, t', ht, ht', rfl, ?_, ?_⟩)
    · exact { h.1 with mailboxConnections := howned }
    · exact { h.2 with mailboxConnections := h.2.mailboxConnections.trans hothers }

end MailboxController

/-! ## Tenant configuration

The loop of `updateVipList` updates profiles of the tenant, address by address.
-/

/-- A tenant has the same subscription in both states. -/
theorem sameRun_findSubscription (h : Agree tenant d d') (hdenotes : Denotes env tenantId tenant) :
    SameRun (Still d d') (findSubscription env tenantId) d d' := by
  refine sameRun_withTenant hdenotes ⟨rfl, rfl⟩ ?_
  refine (sameRun_findUnique h.subscriptions fun r hr => hr).bindRead ⟨rfl, rfl⟩
    fun subscription _ _ => ?_
  rcases subscription with _ | subscription
  · exact .pure _ ⟨rfl, rfl⟩
  · refine (SameRun.reads (by rw [h.plans]) ⟨rfl, rfl⟩).bindRead ⟨rfl, rfl⟩ fun plan _ _ => ?_
    rcases plan with _ | plan
    · exact .throw _ ⟨rfl, rfl⟩
    · exact .pure _ ⟨rfl, rfl⟩

namespace TenantConfigController

/-- The configuration shows the tenant's own row, plan and senders. -/
theorem sameRun_getTenantConfiguration (h : Agree tenant d d')
    (hdenotes : Denotes env tenantId tenant) :
    SameRun (Still d d') (getTenantConfiguration env tenantId) d d' := by
  have howns : ∀ r : SenderProfileRow, (r.tenant_id = tenant && r.is_vip) = true → owner r = tenant :=
    fun r hr => of_decide_eq_true (Bool.and_eq_true_iff.mp hr).1
  refine sameRun_withTenant hdenotes ⟨rfl, rfl⟩ ?_
  refine (sameRun_findUnique h.tenants fun r hr => hr).bindRead ⟨rfl, rfl⟩ fun found _ _ => ?_
  refine (sameRun_findSubscription h hdenotes).bindRead ⟨rfl, rfl⟩ fun subscription _ _ => ?_
  refine (sameRun_findMany h.senderProfiles (fun r _ => howns r) fun r _ => howns r).bindRead ⟨rfl, rfl⟩
    fun senderProfiles _ _ => ?_
  rcases found with _ | found
  · exact .throw _ ⟨rfl, rfl⟩
  · exact .pure _ ⟨rfl, rfl⟩

/-- A turn of the loop changes sender profiles of the tenant. -/
theorem sameRun_promote {start : Database} (h : Indistinguishable tenant start d d')
    (hdenotes : Denotes env tenantId tenant) (entry : Value) :
    SameRun (Indistinguishable tenant start) (promote env tenantId entry) d d' := by
  refine (SameRun.ofExcept _ ⟨rfl, rfl⟩).bindRead h fun entry _ _ => ?_
  refine sameRun_withTenant hdenotes h ?_
  split
  · exact .throw _ h
  · next filter _ =>
    have howns : ∀ r : SenderProfileRow, (r.tenant_id = tenant && filter r.sender_address) = true →
        owner r = tenant := fun r hr => of_decide_eq_true (Bool.and_eq_true_iff.mp hr).1
    have howned := h.1.senderProfiles.updateMany (f := vipData) (fun _ => rfl)
      (p := fun r => r.tenant_id = tenant && filter r.sender_address)
    have hothers := Table.sameOthers_updateMany (t := d.senderProfiles) (f := vipData)
      (fun r _ => howns r) fun _ => rfl
    refine .writes h (.inr ⟨_, _, _, rfl, rfl, ?_, ?_⟩)
    · exact { h.1 with senderProfiles := howned }
    · exact { h.2 with senderProfiles := h.2.senderProfiles.trans hothers }

/-- Writing the list marks profiles of the tenant. -/
theorem sameRun_updateVipList {start : Database} (h : Indistinguishable tenant start d d')
    (hdenotes : Denotes env tenantId tenant) (request : Value) :
    SameRun (Indistinguishable tenant start) (updateVipList env tenantId request) d d' := by
  refine (SameRun.ofExcept _ ⟨rfl, rfl⟩).bindRead h fun entries _ _ => ?_
  have hloop : SameRun (Indistinguishable tenant start) (entries.forM (promote env tenantId)) d d' :=
    .forM (fun entry _ _ hst => sameRun_promote hst hdenotes entry) h
  exact hloop.bind (fun _ _ hst => hst) fun _ _ _ _ _ hst => .pure _ hst

/-- The frequency of digests is stored nowhere. -/
theorem sameRun_updateDigestFrequency (tenantId : String) (request : Value) :
    SameRun (Still d d') (updateDigestFrequency tenantId request) d d' := by
  refine (SameRun.ofExcept _ ⟨rfl, rfl⟩).bindRead ⟨rfl, rfl⟩ fun request _ _ => ?_
  split
  · split
    · exact .pure _ ⟨rfl, rfl⟩
    · exact .throw _ ⟨rfl, rfl⟩
  · exact .throw _ ⟨rfl, rfl⟩

end TenantConfigController

/-! ## Billing

Reads only.
-/

namespace BillingController

/-- Billing shows the subscription and the meters of the tenant. -/
theorem sameRun_getBillingInfo (h : Agree tenant d d') (hdenotes : Denotes env tenantId tenant) :
    SameRun (Still d d') (getBillingInfo env tenantId) d d' := by
  refine (sameRun_findSubscription h hdenotes).bindRead ⟨rfl, rfl⟩ fun subscription _ _ => ?_
  refine sameRun_withTenant hdenotes ⟨rfl, rfl⟩ ?_
  refine (sameRun_findMany h.usageMeters (fun r _ hr => of_decide_eq_true hr)
    fun r _ hr => of_decide_eq_true hr).bindRead ⟨rfl, rfl⟩ fun usageMeters _ _ => ?_
  rcases subscription with _ | ⟨subscription, plan⟩
  · exact .throw _ ⟨rfl, rfl⟩
  · exact .pure _ ⟨rfl, rfl⟩

/-- So does the usage of one meter. -/
theorem sameRun_getUsageForMeter (h : Agree tenant d d') (hdenotes : Denotes env tenantId tenant)
    (meterType : String) : SameRun (Still d d') (getUsageForMeter env tenantId meterType) d d' := by
  have howns : ∀ r : TenantSubscription.UsageMeterRow,
      (r.tenantId = tenant && r.meterType = meterType) = true → owner r = tenant :=
    fun r hr => of_decide_eq_true (Bool.and_eq_true_iff.mp hr).1
  refine sameRun_withTenant hdenotes ⟨rfl, rfl⟩ ?_
  refine (sameRun_findMany h.usageMeters (fun r _ => howns r) fun r _ => howns r).bindRead ⟨rfl, rfl⟩
    fun found _ _ => ?_
  dsimp only
  split
  · exact .pure _ ⟨rfl, rfl⟩
  · exact .pure _ ⟨rfl, rfl⟩

end BillingController

/-! ## Requests

A route is run by its handler, after the guards have let the request through as one of the tenant.
-/

/-- Every handler, for a request that the guards have let through. -/
theorem sameRun_dispatch (h : Agree tenant d d') (hfresh : IsFresh env.newId d)
    (hfresh' : IsFresh env.newId d') (hdenotes : Denotes env tenantId tenant) (route : Route)
    (hscope : ApiTenantScopeGuard.canActivate tenantId route.tenantId = .ok ()) :
    SameRun (Indistinguishable tenant d) (dispatch env tenantId route) d d' := by
  have hstart : Indistinguishable tenant d d d' := ⟨h, othersUnchanged_refl tenant d⟩
  -- a route that only reads leaves the two states as they are
  have hstill : ∀ s t, Still d d' s t → Indistinguishable tenant d s t := by
    rintro _ _ ⟨rfl, rfl⟩
    exact hstart
  cases route with
  | listMessages limit offset =>
    exact (MessagesController.sameRun_listMessages h hdenotes limit offset).mono hstill
  | getMessageDetails messageId =>
    exact (MessagesController.sameRun_getMessageDetails h hdenotes messageId.text).mono hstill
  | submitCorrection messageId correction =>
    exact MessagesController.sameRun_submitCorrection hstart hfresh hfresh' hdenotes messageId.text
      correction
  | listMailboxConnections =>
    exact (MailboxController.sameRun_listMailboxConnections h hdenotes).mono hstill
  | getMailboxConnection mailboxId =>
    exact (MailboxController.sameRun_getMailboxConnection h hdenotes mailboxId.text).mono hstill
  | connectMailbox request =>
    exact MailboxController.sameRun_connectMailbox hstart hfresh hfresh' hdenotes request
  | disconnectMailbox mailboxId =>
    exact MailboxController.sameRun_disconnectMailbox hstart hdenotes mailboxId.text
  | getTenantConfiguration param =>
    exact (TenantConfigController.sameRun_getTenantConfiguration h
      (denotes_param hscope hdenotes)).mono hstill
  | updateVipList param request =>
    exact TenantConfigController.sameRun_updateVipList hstart (denotes_param hscope hdenotes) request
  | updateCategoryRules param request => exact .pure _ hstart
  | updateBudgetSettings param request => exact .pure _ hstart
  | updateDigestFrequency param request =>
    exact (TenantConfigController.sameRun_updateDigestFrequency param.text request).mono hstill
  | getBillingInfo param =>
    exact (BillingController.sameRun_getBillingInfo h (denotes_param hscope hdenotes)).mono hstill
  | getUsageForMeter param meterType =>
    exact (BillingController.sameRun_getUsageForMeter h (denotes_param hscope hdenotes)
      meterType.text).mono hstill

/-- A request that the guards let through runs in the same way in two states that agree on the rows of its
tenant, and changes rows of its tenant only. -/
theorem sameRun_handle (env : Surroundings) (h : Agree tenant d d') (hfresh : IsFresh env.newId d)
    (hfresh' : IsFresh env.newId d') {request : Request} (hthrough : LetThroughAs env request tenant) :
    SameRun (Indistinguishable tenant d) (handle env request) d d' := by
  obtain ⟨tenantId, hkey, hscope, hdenotes⟩ := hthrough
  have hstart : Indistinguishable tenant d d d' := ⟨h, othersUnchanged_refl tenant d⟩
  unfold handle
  rw [hkey]
  refine (SameRun.ofExcept _ ⟨rfl, rfl⟩).bindRead hstart fun id hid _ => ?_
  obtain rfl := Except.ok.inj (ofExcept_eq_ok.mp hid).1
  refine (SameRun.ofExcept _ ⟨rfl, rfl⟩).bindRead hstart fun _ _ _ => ?_
  exact sameRun_dispatch h hfresh hfresh' hdenotes request.route hscope

end

/-- The answers of two runs on one state, each with an order of its own. -/
theorem alikeUpToOrder_handle {env : Surroundings} (hback : ReadsBack env) {tenant : String} (d : Database)
    {request : Request} (hthrough : LetThroughAs env request tenant) (rowOrder rowOrder' : RowOrder) :
    AlikeUpToOrder env d tenant request.route (answer (handle (env.inOrder rowOrder) request) d)
      (answer (handle (env.inOrder rowOrder') request) d) := by
  obtain ⟨tenantId, hkey, hscope, hdenotes⟩ := hthrough
  have hhandle : ∀ rowOrder : RowOrder, answer (handle (env.inOrder rowOrder) request) d
      = answer (dispatch (env.inOrder rowOrder) tenantId request.route) d := by
    intro rowOrder
    unfold handle
    rw [hkey, answer_bind_of_ok (ofExcept_ok tenantId d), hscope, answer_bind_of_ok (ofExcept_ok () d)]
  rw [hhandle, hhandle]
  exact alikeUpToOrder_dispatch hback hdenotes request.route hscope

/-- Tenants do not see each other: a request that is let through as one of a tenant is answered alike
in any two states that agree on the rows of the tenant, if the rows come in the same order; in whatever
orders the rows come, it is answered alike up to these; and it changes no row of another tenant. -/
theorem noninterference {env : Surroundings} (hback : ReadsBack env) {tenant : String} {d d' : Database}
    (hagree : Agree tenant d d') (hfresh : IsFresh env.newId d) (hfresh' : IsFresh env.newId d')
    {request : Request} (hthrough : LetThroughAs env request tenant) (rowOrder rowOrder' : RowOrder) :
    answer (handle (env.inOrder rowOrder) request) d = answer (handle (env.inOrder rowOrder) request) d' ∧
      AlikeUpToOrder env d tenant request.route (answer (handle (env.inOrder rowOrder) request) d)
        (answer (handle (env.inOrder rowOrder') request) d') ∧
      OthersUnchanged tenant d (after (handle (env.inOrder rowOrder) request) d) := by
  have hrun := sameRun_handle (env.inOrder rowOrder) hagree hfresh hfresh' hthrough
  have hrun' := sameRun_handle (env.inOrder rowOrder') hagree hfresh hfresh' hthrough
  refine ⟨hrun.answer_eq, ?_, hrun.after.2⟩
  rw [← hrun'.answer_eq]
  exact alikeUpToOrder_handle hback d hthrough rowOrder rowOrder'

/-! ## A guessed id

A tenant names a mailbox of another one. Its answer is the one it would get if there were no such mailbox.
-/

/-- Nothing is stored but one mailbox connection, or none. -/
def connectionsOnly (connection : Option MailboxIngestion.MailboxConnectionRow) : Database where
  tenants := .empty
  plans := []
  subscriptions := .empty
  usageMeters := .empty
  senderProfiles := .empty
  mailboxConnections := ⟨connection.toList, by cases connection <;> simp, by cases connection <;> simp⟩
  ingestedMessages := .empty
  messageLabels := .empty
  messagePriorities := .empty
  threatAssessments := .empty
  correctionRecords := .empty
  tenant_label _ h := absurd h List.not_mem_nil

/-- A mailbox of the second tenant. -/
def secondMailbox : MailboxIngestion.MailboxConnectionRow :=
  ⟨"connection-2", "tenant-2", "second@example.com", "gmail", "active", none, none, none, "handle-2", none,
    none, 0⟩

/-- The first tenant disconnects the mailbox of the second one. -/
def disconnectSecond : Request :=
  ⟨some "key", some "tenant-1", .disconnectMailbox ⟨"second@example.com", by decide⟩⟩

/-- The answer does not tell whether the mailbox is there, and the mailbox stays connected. -/
theorem noninterference_disconnectSecond :
    answer (handle (plainSurroundings.inOrder .forwards) disconnectSecond)
      (connectionsOnly (some secondMailbox)) =
        answer (handle (plainSurroundings.inOrder .forwards) disconnectSecond) (connectionsOnly none) ∧
      AlikeUpToOrder plainSurroundings
        (connectionsOnly (some secondMailbox)) "tenant-1" disconnectSecond.route
        (answer (handle (plainSurroundings.inOrder .forwards) disconnectSecond)
          (connectionsOnly (some secondMailbox)))
        (answer (handle (plainSurroundings.inOrder .backwards) disconnectSecond) (connectionsOnly none)) ∧
      OthersUnchanged "tenant-1" (connectionsOnly (some secondMailbox))
        (after (handle (plainSurroundings.inOrder .forwards) disconnectSecond)
          (connectionsOnly (some secondMailbox))) := by
  have hmailboxes : (connectionsOnly (some secondMailbox)).mailboxConnections.SameOwned "tenant-1"
      (connectionsOnly none).mailboxConnections := by
    -- the only connection is one of another tenant
    intro r howner
    refine iff_of_false (fun hr => ?_) List.not_mem_nil
    obtain rfl := List.mem_singleton.mp hr
    exact absurd howner (by decide)
  refine noninterference readsBack_plainSurroundings ?_ ?_ ?_ ?_ .forwards .backwards
  · exact
      { tenants := fun _ _ => Iff.rfl, plans := rfl, subscriptions := fun _ _ => Iff.rfl
        usageMeters := fun _ _ => Iff.rfl, senderProfiles := fun _ _ => Iff.rfl
        mailboxConnections := hmailboxes, ingestedMessages := fun _ _ => Iff.rfl
        messageLabels := fun _ _ => Iff.rfl, messagePriorities := fun _ _ => Iff.rfl
        threatAssessments := fun _ _ => Iff.rfl, correctionRecords := fun _ _ => Iff.rfl }
  · refine ⟨fun r hr => ?_, fun r hr => absurd hr List.not_mem_nil⟩
    rw [List.mem_singleton.mp hr]
    decide
  · exact ⟨fun r hr => absurd hr List.not_mem_nil, fun r hr => absurd hr List.not_mem_nil⟩
  · exact ⟨"tenant-1", rfl, rfl, fun id hid => (Option.some.inj hid).symm⟩

/-! ## The order of two connections

Two runs on the same rows answer differently if the database gives them in different orders.
-/

/-- Nothing is stored but two mailbox connections of the first tenant. -/
def twoConnections : Database :=
  { connectionsOnly none with
    mailboxConnections :=
      ⟨[⟨"connection-1", "tenant-1", "first@example.com", "gmail", "active", none, none,
        none, "handle-1", none,
          none, 0⟩,
        ⟨"connection-2", "tenant-1", "second@example.com", "gmail", "active", none, none,
          none, "handle-2", none,
          none, 0⟩], by decide, by decide⟩ }

/-- The tenant lists its connections. -/
def listConnections : Request := ⟨some "key", some "tenant-1", .listMailboxConnections⟩

/-- One state answers in two ways when the rows come the other way round. -/
theorem not_noninterference_reversed :
    ¬∀ (env : Surroundings) (tenant : String) (d d' : Database) (request : Request)
      (rowOrder rowOrder' : RowOrder), ReadsBack env → Agree tenant d d' → IsFresh env.newId d →
        IsFresh env.newId d' → LetThroughAs env request tenant →
          answer (handle (env.inOrder rowOrder) request) d =
            answer (handle (env.inOrder rowOrder') request) d' := by
  intro h
  have hsame := h plainSurroundings "tenant-1" twoConnections twoConnections listConnections .forwards .backwards
    readsBack_plainSurroundings
    { tenants := fun _ _ => Iff.rfl, plans := rfl, subscriptions := fun _ _ => Iff.rfl
      usageMeters := fun _ _ => Iff.rfl, senderProfiles := fun _ _ => Iff.rfl
      mailboxConnections := fun _ _ => Iff.rfl, ingestedMessages := fun _ _ => Iff.rfl
      messageLabels := fun _ _ => Iff.rfl, messagePriorities := fun _ _ => Iff.rfl
      threatAssessments := fun _ _ => Iff.rfl, correctionRecords := fun _ _ => Iff.rfl }
    ⟨by decide, fun r hr => absurd hr List.not_mem_nil⟩ ⟨by decide, fun r hr => absurd hr List.not_mem_nil⟩
    ⟨"tenant-1", rfl, rfl, fun id hid => (Option.some.inj hid).symm⟩
  let dto := fun r => MailboxController.toMailboxDto (MailboxController.toConnection r)
  -- the surroundings return the two connections in some order, and the other run returns them in
  -- reverse
  have hperm := perm_matching plainSurroundings twoConnections.mailboxConnections fun r =>
      r.tenantId = "tenant-1"
  obtain ⟨first, second, horder⟩ := List.length_eq_two.mp hperm.length_eq
  have hids : ([first, second].map (·.id)).Nodup := by
    rw [← horder]
    exact (hperm.map _).nodup_iff.mpr (by decide)
  have hlists :
      (matching plainSurroundings twoConnections.mailboxConnections fun r =>
          r.tenantId = "tenant-1").map dto =
        ((matching plainSurroundings twoConnections.mailboxConnections fun r =>
          r.tenantId = "tenant-1").reverse).map dto :=
    Value.arr.inj (congrArg (fun response : Value => response.get "connections") (Except.ok.inj hsame))
  rw [horder] at hlists
  -- equal answers would make the two connections one
  have hfirst : dto first = dto second := (List.cons.inj hlists).1
  have hid : first.id = second.id :=
    Value.str.inj (congrArg (fun connection : Value => connection.get "id") hfirst)
  rw [List.map_cons, hid] at hids
  exact (List.nodup_cons.mp hids).1 List.mem_cons_self

end EmailTriage.Api
