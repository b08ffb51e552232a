import EmailTriage.Api.MessageReads
import EmailTriage.Lib.UpToOrder

/-!
# Answers in two orders

The queries of the controllers ask for their rows in no order, but for one of the usage meters. What a
request is answered with therefore depends on the orders of its own run. Here it is said in what way,
for two runs on one state of the database.

## The shape of the argument

Most answers list the rows that were found, and another order of the rows is another order of that
list. Two routes do more with the order. A list of messages is a page: `answer_listMessages_eq_page`
says that it is cut out of the entries of all messages of the tenant, so that two runs cut from two
orders of the same entries. And of several usage meters whose billing periods start last and together
the first one is shown. All other routes do not look at the order of the rows, and their answers are
equal.
-/

namespace EmailTriage.Api

open Js Db

/-- Two answers are the same exception, or values that are equal up to the order of arrays. -/
inductive SameUpToOrder : Except HttpError Value → Except HttpError Value → Prop
  | error (e : HttpError) : SameUpToOrder (.error e) (.error e)
  | ok {v v' : Value} (h : v.UpToOrder v') : SameUpToOrder (.ok v) (.ok v')

/-- An answer is the same as itself. -/
theorem SameUpToOrder.refl : ∀ a, SameUpToOrder a a
  | .error e => .error e
  | .ok v => .ok (.refl v)

section

variable {env : Surroundings} {d : Database} {tenantId tenant : String}

/-- Two computations that begin alike. -/
theorem SameUpToOrder.bind {α : Type} (x : Call α) {f f' : α → Call Value}
    (hf : ∀ a s, x d = .ok a s → SameUpToOrder (answer (f a) s) (answer (f' a) s)) :
    SameUpToOrder (answer (x >>= f) d) (answer (x >>= f') d) := by
  unfold answer at hf ⊢
  rcases hx : x d with ⟨a, s⟩ | ⟨e, s⟩
  · rw [bind_of_ok hx, bind_of_ok hx]
    exact hf a s hx
  · rw [bind_of_error hx, bind_of_error hx]
    exact .error e

/-- A text that is no UUID is refused in every order. -/
theorem answer_of_uuid_eq_none {α : Type} (h : env.uuid tenantId = none) (f : String → Call α) :
    answer (uuid env tenantId >>= f) d = .error .internal := by
  have hrefused : uuid env tenantId d = .error .internal d := by
    unfold uuid
    rw [h]
    rfl
  exact answer_bind_of_error hrefused f

/-- So a request for such a text is answered alike in all orders. -/
theorem sameUpToOrder_of_uuid_eq_none (h : env.uuid tenantId = none)
    (f f' : String → Call Value) :
    SameUpToOrder (answer (uuid env tenantId >>= f) d) (answer (uuid env tenantId >>= f') d) := by
  rw [answer_of_uuid_eq_none h, answer_of_uuid_eq_none h]
  exact .error .internal

/-! ## A page of messages

The answer of the list is a page of the entries of all messages: cutting the page out first and making its
entries afterwards comes to the same, errors included.
-/

namespace MessagesController

/-- What a list shows of a message of a tenant. -/
def entryInList (env : Surroundings) (d : Database) (tenant : String) (message : MessageRow) :
    Except HttpError Value :=
  match env.uuid message.messageId with
  | none => .error .internal
  | some id =>
    toMessageDto env message (labelsOf env d message)
      (if id = message.messageId then d.messagePriorities.find (tenant, message.messageId) else none)
      (if id = message.messageId then d.threatAssessments.find (tenant, message.messageId) else none)

/-- The page that a list is, of the entries of all messages. -/
def pageOfEntries (limit offset : Option String) (entries : List (Except HttpError Value)) :
    Except HttpError Value :=
  match page (parsedLimit limit) (parsedOffset offset) entries with
  | none => .error .internal
  | some shown => do
    let messages ← shown.mapM id
    return .obj [("messages", .arr messages), ("total", .num entries.length),
      ("limit", number (parsedLimit limit)), ("offset", number (parsedOffset offset))]

/-- A page of images is the image of a page. -/
theorem page_map {α β : Type} (f : α → β) (take skip : Number) (rows : List α) :
    page take skip (rows.map f) = (page take skip rows).map (List.map f) := by
  unfold page
  split
  · split_ifs
    · rw [Option.map_some, List.map_take, List.map_drop]
    · rw [Option.map_some, List.map_reverse, List.map_take, List.map_drop, List.map_reverse]
    · rfl
  · rfl

/-- Making a DTO can fail in one way only. -/
theorem toMessageDto_eq_error {message : MessageRow} {labels : List Classification.MessageLabelRow}
    {priority : Option MessagePriorityRow} {threat : Option ThreatDetection.ThreatAssessmentRow}
    {e : HttpError} (h : toMessageDto env message labels priority threat = .error e) : e = .internal := by
  unfold toMessageDto at h
  rcases hcomponents : (elements (Value.ofOption (·.components) priority)).mapM component
    with e' | components
  · rw [hcomponents] at h
    obtain rfl : e' = e := Except.error.inj h
    obtain ⟨c, -, hc⟩ := exists_of_mapM_eq_error hcomponents
    unfold component at hc
    split_ifs at hc
    exact (Except.error.inj hc).symm
  · rw [hcomponents] at h
    cases h

/-- An entry of the list fails with an internal error only. -/
theorem entryInList_eq_error {message : MessageRow} {e : HttpError}
    (h : entryInList env d tenant message = .error e) : e = .internal := by
  unfold entryInList at h
  split at h
  · exact (Except.error.inj h).symm
  · exact toMessageDto_eq_error h

/-- So can the list. -/
theorem failsAs_listMessages (limit offset : Option String) :
    FailsAs .internal (listMessages env tenantId limit offset) := by
  have huuid : ∀ text, FailsAs .internal (uuid env text) := fun text => .orThrow (env.uuid text)
  have hreads : ∀ {α : Type} (f : Database → α), FailsAs .internal (reads f : Call α) :=
    fun f _ _ _ h => by cases h
  have hfind : ∀ {Row : Type} [Schema Row String (String × String)] (table : Database → Table Row)
      (ids : List String), FailsAs .internal (findForMessages env table tenantId ids) :=
    fun table ids => (huuid tenantId).bind fun _ => (FailsAs.mapM huuid).bind fun _ => hreads _
  refine (huuid tenantId).bind fun tenant => (hreads _).bind fun found => ?_
  refine (FailsAs.orThrow _).bind fun messages =>
    (FailsAs.mapM fun message => hreads _).bind fun labels => ?_
  refine (hfind _ _).bind fun priorities => (hfind _ _).bind fun threats => ?_
  refine (FailsAs.ofExcept fun e he => ?_).bind fun dtos => .pure _
  obtain ⟨⟨message, labels⟩, -, hdto⟩ := exists_of_mapM_eq_error he
  exact toMessageDto_eq_error hdto

/-- A page of entries that fail in one way only fails in that way. -/
theorem pageOfEntries_eq_error {limit offset : Option String} {entries : List (Except HttpError Value)}
    (hentries : ∀ entry ∈ entries, ∀ e, entry = .error e → e = .internal) {e : HttpError}
    (h : pageOfEntries limit offset entries = .error e) : e = .internal := by
  unfold pageOfEntries at h
  split at h
  · exact (Except.error.inj h).symm
  · next shown hshown =>
    rcases hmessages : shown.mapM id with e' | messages
    · rw [hmessages] at h
      obtain rfl : e' = e := Except.error.inj h
      obtain ⟨entry, hmem, hentry⟩ := exists_of_mapM_eq_error hmessages
      exact hentries entry (mem_of_page hshown hmem) e' hentry
    · rw [hmessages] at h
      cases h

/-- The entries of the messages of a page are those among all entries. -/
theorem mapM_entryOf_eq_ok_iff (hback : ReadsBack env) {messages : List MessageRow} {dtos : List Value} :
    ((∀ message ∈ messages, (env.uuid message.messageId).isSome = true) ∧
      messages.mapM (entryOf env d tenant (messages.filterMap fun m => env.uuid m.messageId)) = .ok dtos) ↔
      messages.mapM (entryInList env d tenant) = .ok dtos := by
  have hentry : ∀ message ∈ messages, (env.uuid message.messageId).isSome = true →
      entryOf env d tenant (messages.filterMap fun m => env.uuid m.messageId) message
        = entryInList env d tenant message := by
    intro message hmem hsome
    obtain ⟨id, hid⟩ := Option.isSome_iff_exists.mp hsome
    have hcontains := contains_filterMap_uuid hback hmem
    rw [hid, Option.some.injEq] at hcontains
    unfold entryOf entryInList
    simp only [hid, hcontains]
  constructor
  · rintro ⟨hall, hdtos⟩
    rw [← mapM_congr_of_mem fun message hmem => hentry message hmem (hall message hmem)]
    exact hdtos
  · intro h
    have hall : ∀ message ∈ messages, (env.uuid message.messageId).isSome = true := by
      intro message hmem
      obtain ⟨dto, hdto⟩ := exists_mapM_eq_ok.mp ⟨dtos, h⟩ message hmem
      unfold entryInList at hdto
      split at hdto
      · cases hdto
      · next id hid => rw [hid, Option.isSome_some]
    refine ⟨hall, ?_⟩
    rw [mapM_congr_of_mem fun message hmem => hentry message hmem (hall message hmem)]
    exact h

/-- A list of messages is a page of the entries of all messages of the tenant, in the order of its run. -/
theorem answer_listMessages_eq_page (hback : ReadsBack env) (htenant : env.uuid tenantId = some tenant)
    (limit offset : Option String) :
    answer (listMessages env tenantId limit offset) d
      = pageOfEntries limit offset ((messagesOf env d tenant).map (entryInList env d tenant)) := by
  have hok : ∀ response, answer (listMessages env tenantId limit offset) d = .ok response ↔
      pageOfEntries limit offset ((messagesOf env d tenant).map (entryInList env d tenant))
        = .ok response := by
    intro response
    unfold pageOfEntries
    rw [answer_eq_ok_iff, page_map, List.length_map]
    simp only [listMessages_eq_ok_iff, htenant, Option.some.injEq]
    rcases hpage : page (parsedLimit limit) (parsedOffset offset) (messagesOf env d tenant) with _ | messages
    · refine iff_of_false ?_ (fun h => by cases h)
      rintro ⟨d', -, tenant', messages, dtos, rfl, hpage', -⟩
      rw [hpage] at hpage'
      cases hpage'
    · simp only [Option.map_some, except_bind_eq_ok, List.mapM_map, Function.comp_def, id]
      constructor
      · rintro ⟨d', -, tenant', messages', dtos, rfl, hpage', hall, hdtos, rfl⟩
        obtain rfl := Option.some.inj (hpage.symm.trans hpage')
        exact ⟨dtos, (mapM_entryOf_eq_ok_iff hback).mp ⟨hall, hdtos⟩, rfl⟩
      · rintro ⟨dtos, hdtos, hresponse⟩
        obtain ⟨hall, hdtos⟩ := (mapM_entryOf_eq_ok_iff hback).mpr hdtos
        exact ⟨d, rfl, tenant, messages, dtos, rfl, hpage, hall, hdtos, (Except.ok.inj hresponse).symm⟩
  -- the two fail with the same error, so that it is enough that they agree on what is ok
  refine except_eq_of_ok_iff (e := .internal) (fun e he => ?_) (fun e he => ?_) hok
  · unfold answer at he
    rcases hlist : listMessages env tenantId limit offset d with ⟨response, d'⟩ | ⟨e', d'⟩
    · rw [hlist] at he
      cases he
    · rw [hlist] at he
      obtain rfl := Except.error.inj he
      exact failsAs_listMessages limit offset d e' d' hlist
  · refine pageOfEntries_eq_error (fun entry hentry e' he' => ?_) he
    obtain ⟨message, -, rfl⟩ := List.mem_map.mp hentry
    exact entryInList_eq_error he'

end MessagesController

/-! ## Two orders

Two orders of the same rows are permutations of each other, and what is read by a key is the same.
-/

variable {rowOrder rowOrder' : RowOrder}

/-- The rows that are found are the same, up to the order. -/
theorem perm_matching_inOrder {Row Id Key : Type} [Schema Row Id Key] (env : Surroundings)
    (rowOrder rowOrder' : RowOrder) (t : Table Row) (p : Row → Bool) :
    (matching (env.inOrder rowOrder) t p).Perm (matching (env.inOrder rowOrder') t p) :=
  (perm_matching _ t p).trans (perm_matching _ t p).symm

namespace MessagesController

/-- The labels are in another order, and nothing else is. -/
theorem sameUpToOrder_toMessageDto (message : MessageRow) (priority : Option MessagePriorityRow)
    (threat : Option ThreatDetection.ThreatAssessmentRow)
    {labels labels' : List Classification.MessageLabelRow} (h : labels.Perm labels') :
    SameUpToOrder (toMessageDto (env.inOrder rowOrder) message labels priority threat)
      (toMessageDto (env.inOrder rowOrder') message labels' priority threat) := by
  have hany : (labels.any fun label => label.category = .NEEDS_REPLY)
      = labels'.any fun label => label.category = .NEEDS_REPLY := h.any_eq
  unfold toMessageDto
  rw [hany]
  rcases hcomponents : (elements (Value.ofOption (·.components) priority)).mapM component with e | components
  · simp only [hcomponents]
    exact .error e
  · simp only [hcomponents]
    exact .ok (Value.UpToOrder.field (.arr (h.map toLabelDto)) [_, _, _, _, _, _, _, _] _)

/-- An entry shows the labels of its message in another order. -/
theorem sameUpToOrder_entryInList (rowOrder rowOrder' : RowOrder) (message : MessageRow) :
    SameUpToOrder (entryInList (env.inOrder rowOrder) d tenant message)
      (entryInList (env.inOrder rowOrder') d tenant message) := by
  have huuid : (env.inOrder rowOrder').uuid message.messageId
      = (env.inOrder rowOrder).uuid message.messageId := rfl
  unfold entryInList
  rw [huuid]
  split
  · exact .error _
  · exact sameUpToOrder_toMessageDto message _ _ (perm_matching_inOrder env rowOrder rowOrder' _ _)

/-- So do the details of a message. -/
theorem sameUpToOrder_getMessageDetails (messageId : String) :
    SameUpToOrder (answer (getMessageDetails (env.inOrder rowOrder) tenantId messageId) d)
      (answer (getMessageDetails (env.inOrder rowOrder') tenantId messageId) d) := by
  refine .bind (findMessage env tenantId messageId) fun message s _ => ?_
  unfold findLabels findMany
  rw [answer_reads_bind, answer_reads_bind]
  have hlabels := perm_matching_inOrder env rowOrder rowOrder'
    s.messageLabels fun label => label.message_id = message.id
  refine .bind (getMessagePriority env tenantId message.messageId) fun priority s _ => ?_
  refine .bind (getMessageThreat env tenantId message.messageId) fun threat s _ => ?_
  rw [answer_ofExcept, answer_ofExcept]
  exact sameUpToOrder_toMessageDto message priority threat hlabels

end MessagesController

/-! ## Lists of rows

Handlers that answer with a list of rows answer up to the order of the list. Where only the first row is
taken, it is the only one, or what is answered does not show which it is.
-/

/-- The list of connections is in another order. -/
theorem sameUpToOrder_listMailboxConnections :
    SameUpToOrder (answer (MailboxController.listMailboxConnections (env.inOrder rowOrder) tenantId) d)
      (answer (MailboxController.listMailboxConnections (env.inOrder rowOrder') tenantId) d) := by
  refine .bind (uuid env tenantId) fun tenant s _ => ?_
  have hperm := perm_matching_inOrder env rowOrder rowOrder'
    s.mailboxConnections fun r => r.tenantId = tenant
  unfold findMany
  rw [answer_reads_bind, answer_reads_bind, hperm.length_eq]
  exact .ok (Value.UpToOrder.field (.arr (hperm.map _)) [] _)

/-- Whether a connection is disconnected depends on whether there is one. -/
theorem answer_disconnectMailbox (mailboxId : String) :
    answer (MailboxController.disconnectMailbox env tenantId mailboxId) d =
      match env.uuid tenantId with
      | none => .error .internal
      | some tenant =>
        if (d.mailboxConnections.findMany fun r => r.tenantId = tenant && r.mailboxId = mailboxId) = [] then
          .error (.notFound "Mailbox connection not found")
        else .ok (.obj [("success", .bool true)]) := by
  rcases htenant : env.uuid tenantId with _ | tenant
  · exact answer_of_uuid_eq_none htenant _
  · have hperm := perm_matching env d.mailboxConnections fun r =>
        r.tenantId = tenant && r.mailboxId = mailboxId
    have hmem : ∀ r ∈ matching env d.mailboxConnections fun r =>
        r.tenantId = tenant && r.mailboxId = mailboxId,
        r ∈ d.mailboxConnections.rows := fun r hr => (mem_matching_iff.mp hr).1
    unfold MailboxController.disconnectMailbox findMany
    rw [answer_bind_of_ok (uuid_eq_ok.mpr ⟨htenant, rfl⟩), answer_reads_bind]
    dsimp only
    rcases hfound : matching env d.mailboxConnections fun r => r.tenantId = tenant && r.mailboxId = mailboxId
      with _ | ⟨connection, rest⟩
    · -- whether a connection was found does not depend on the order
      rw [hfound] at hperm
      rw [if_pos hperm.nil_eq.symm]
      rfl
    · have hsome : ¬(d.mailboxConnections.findMany fun r =>
          r.tenantId = tenant && r.mailboxId = mailboxId) = [] := by
        intro hnil
        rw [hnil, hfound] at hperm
        exact List.cons_ne_nil connection rest hperm.eq_nil
      -- any row that was found can be updated, and the answer does not say which
      have hupdate := Table.update_of_mem (hmem connection (by rw [hfound]; exact List.mem_cons_self))
        MailboxController.revokedData
      have hid : Schema.id connection = connection.id := rfl
      rw [hid] at hupdate
      rw [if_neg hsome]
      unfold answer
      rw [List.head?_cons]
      dsimp only
      rw [writes_of_some (by rw [hupdate, Option.map_some])]

/-- The senders are in another order. -/
theorem sameUpToOrder_getTenantConfiguration :
    SameUpToOrder
      (answer (TenantConfigController.getTenantConfiguration (env.inOrder rowOrder) tenantId) d)
      (answer (TenantConfigController.getTenantConfiguration (env.inOrder rowOrder') tenantId) d) := by
  refine .bind (uuid env tenantId) fun id s _ => .bind (findUnique (·.tenants) id) fun found s _ => ?_
  refine .bind (findSubscription env tenantId) fun subscription s _ => ?_
  have hperm := perm_matching_inOrder env rowOrder rowOrder'
    s.senderProfiles fun sp => sp.tenant_id = id && sp.is_vip
  unfold findMany
  rw [answer_reads_bind, answer_reads_bind]
  rcases found with _ | found
  · exact .error _
  · exact .ok (Value.UpToOrder.field (.arr (hperm.map _)) [_, _] _)

/-- The meters are in another order. -/
theorem sameUpToOrder_getBillingInfo :
    SameUpToOrder (answer (BillingController.getBillingInfo (env.inOrder rowOrder) tenantId) d)
      (answer (BillingController.getBillingInfo (env.inOrder rowOrder') tenantId) d) := by
  refine .bind (findSubscription env tenantId) fun subscription s _ =>
    .bind (uuid env tenantId) fun tenant s _ => ?_
  have hperm := perm_matching_inOrder env rowOrder rowOrder'
    s.usageMeters fun meter => meter.tenantId = tenant
  unfold findMany
  rw [answer_reads_bind, answer_reads_bind]
  rcases subscription with _ | ⟨subscription, plan⟩
  · exact .error _
  · exact .ok (Value.UpToOrder.field (.arr (hperm.map _)) [_] _)

/-! ## The first of several rows

The usage of a meter is that of the row whose period has begun last; with two such rows, either may be
shown.
-/

/-- A meter of a tenant that no other one of its type starts after. -/
structure IsLatest (d : Database) (tenant meterType : String) (meter : TenantSubscription.UsageMeterRow) :
    Prop where
  mem : meter ∈ d.usageMeters.rows
  ofTenant : meter.tenantId = tenant
  ofType : meter.meterType = meterType
  latest : ∀ other ∈ d.usageMeters.rows, other.tenantId = tenant → other.meterType = meterType →
    other.billingPeriodStart ≤ meter.billingPeriodStart

/-- A meter that is latest is one of those asked for. -/
theorem IsLatest.mem_findMany {meterType : String} {meter : TenantSubscription.UsageMeterRow}
    (h : IsLatest d tenant meterType meter) :
    meter ∈ d.usageMeters.findMany fun meter => meter.tenantId = tenant && meter.meterType = meterType :=
  List.mem_filter.mpr ⟨h.mem, Bool.and_eq_true_iff.mpr ⟨decide_eq_true h.ofTenant, decide_eq_true h.ofType⟩⟩

/-- The first row of a sorted list is one of the largest. -/
theorem head?_mergeSort {α : Type} (key : α → ℤ) {rows : List α} {a : α}
    (h : (rows.mergeSort fun a b => key b ≤ key a).head? = some a) : a ∈ rows ∧
        ∀ b ∈ rows, key b ≤ key a := by
  have hmem := List.mem_mergeSort.mp (List.mem_of_head? h)
  refine ⟨hmem, fun b hb => ?_⟩
  have hsorted : (rows.mergeSort fun a b => key b ≤ key a).Pairwise fun a b => decide (key b ≤ key a) :=
    List.pairwise_mergeSort
      (fun a b c hab hbc => decide_eq_true ((of_decide_eq_true hbc).trans (of_decide_eq_true hab)))
    (fun a b => by
      rw [Bool.or_eq_true, decide_eq_true_eq, decide_eq_true_eq]
      exact Int.le_total (key b) (key a)) rows
  have hb' : b ∈ rows.mergeSort fun a b => key b ≤ key a := List.mem_mergeSort.mpr hb
  rcases hrows : rows.mergeSort (fun a b => decide (key b ≤ key a)) with _ | ⟨c, rest⟩
  · rw [hrows] at hb'
    exact absurd hb' List.not_mem_nil
  · rw [hrows] at h hsorted hb'
    obtain rfl := Option.some.inj h
    rcases List.mem_cons.mp hb' with rfl | hrest
    · exact le_rfl
    · exact of_decide_eq_true (List.rel_of_pairwise_cons hsorted hrest)

/-- The meter that is shown is one of the latest. -/
theorem answer_getUsageForMeter (env : Surroundings) (htenant : env.uuid tenantId = some tenant)
    (meterType : String) :
    (∃ meter, IsLatest d tenant meterType meter ∧
      answer (BillingController.getUsageForMeter env tenantId meterType) d
        = .ok (.obj (BillingController.toMeterDto meter))) ∨
    (d.usageMeters.findMany fun meter => meter.tenantId = tenant && meter.meterType = meterType) = [] ∧
      answer (BillingController.getUsageForMeter env tenantId meterType) d
        = .ok (.obj [("error", .str "Usage meter not found")]) := by
  have hperm := perm_matching env d.usageMeters fun meter =>
    meter.tenantId = tenant && meter.meterType = meterType
  unfold BillingController.getUsageForMeter findMany
  rw [answer_bind_of_ok (uuid_eq_ok.mpr ⟨htenant, rfl⟩), answer_reads_bind]
  dsimp only
  rcases hfirst : ((matching env d.usageMeters fun meter =>
      meter.tenantId = tenant && meter.meterType = meterType).mergeSort fun a b =>
        b.billingPeriodStart ≤ a.billingPeriodStart).head? with _ | meter
  · right
    rw [List.head?_eq_none_iff] at hfirst
    have hnil := hfirst ▸ (List.mergeSort_perm _ _).symm
    exact ⟨(hperm.symm.trans hnil).eq_nil, rfl⟩
  · left
    obtain ⟨hmem, hlatest⟩ := head?_mergeSort TenantSubscription.UsageMeterRow.billingPeriodStart hfirst
    obtain ⟨hrow, hmatch⟩ := mem_matching_iff.mp hmem
    rw [Bool.and_eq_true, decide_eq_true_eq, decide_eq_true_eq] at hmatch
    refine ⟨meter, ⟨hrow, hmatch.1, hmatch.2, fun other hother hown htype => hlatest other ?_⟩, rfl⟩
    rw [mem_matching_iff, Bool.and_eq_true, decide_eq_true_eq, decide_eq_true_eq]
    exact ⟨hother, hown, htype⟩

/-! ## All routes

What the answers to a route have in common, for any two orders.
-/

/-- The entries of the messages of a tenant, in some order, and with their labels in some order. -/
def IsListing (env : Surroundings) (d : Database) (tenant : String)
    (entries : List (Except HttpError Value)) :
    Prop :=
  ∃ rows : List MessageRow,
    rows.Perm (d.ingestedMessages.findMany fun message => message.tenantId = tenant) ∧
    List.Forall₂ SameUpToOrder (rows.map (MessagesController.entryInList env d tenant)) entries

/-- What two answers to a route have in common when their runs have the rows in orders of their own:
they are equal up to the order of arrays, or pages out of two orders of the entries of the tenant's
messages, or show two meters that no other one starts after. -/
inductive AlikeUpToOrder (env : Surroundings) (d : Database) (tenant : String) :
    Route → Except HttpError Value → Except HttpError Value → Prop
  | same {route : Route} {a a' : Except HttpError Value} (h : SameUpToOrder a a') :
      AlikeUpToOrder env d tenant route a a'
  | page {limit offset : Option String} {entries entries' : List (Except HttpError Value)}
      (h : IsListing env d tenant entries) (h' : IsListing env d tenant entries') :
      AlikeUpToOrder env d tenant (.listMessages limit offset)
        (MessagesController.pageOfEntries limit offset entries)
        (MessagesController.pageOfEntries limit offset entries')
  | meter {tenantId meterType : PathParam} {meter meter' : TenantSubscription.UsageMeterRow}
      (h : IsLatest d tenant meterType.text meter) (h' : IsLatest d tenant meterType.text meter') :
      AlikeUpToOrder env d tenant (.getUsageForMeter tenantId meterType)
        (.ok (.obj (BillingController.toMeterDto meter))) (.ok (.obj (BillingController.toMeterDto meter')))

/-- The entries that a run cuts its page out of. -/
theorem isListing_inOrder (rowOrder : RowOrder) :
    IsListing env d tenant ((MessagesController.messagesOf (env.inOrder rowOrder) d tenant).map
      (MessagesController.entryInList (env.inOrder rowOrder) d tenant)) := by
  refine ⟨MessagesController.messagesOf (env.inOrder rowOrder) d tenant, perm_matching _ _ _, ?_⟩
  rw [List.forall₂_map_left_iff, List.forall₂_map_right_iff, List.forall₂_same]
  exact fun message _ => MessagesController.sameUpToOrder_entryInList env.toRowOrder rowOrder message

/-- The two lists of messages of two runs. -/
theorem alikeUpToOrder_listMessages (hback : ReadsBack env) (htenant : env.uuid tenantId = some tenant)
    (limit offset : Option String) :
    AlikeUpToOrder env d tenant (.listMessages limit offset)
      (answer (MessagesController.listMessages (env.inOrder rowOrder) tenantId limit offset) d)
      (answer (MessagesController.listMessages (env.inOrder rowOrder') tenantId limit offset) d) := by
  have hback₁ : ReadsBack (env.inOrder rowOrder) := hback
  have hback₂ : ReadsBack (env.inOrder rowOrder') := hback
  rw [MessagesController.answer_listMessages_eq_page hback₁ htenant,
    MessagesController.answer_listMessages_eq_page hback₂ htenant]
  exact .page (isListing_inOrder rowOrder) (isListing_inOrder rowOrder')

/-- The two meters of two runs. -/
theorem alikeUpToOrder_getUsageForMeter (param meterType : PathParam)
    (hdenotes : Denotes env param.text tenant) :
    AlikeUpToOrder env d tenant (.getUsageForMeter param meterType)
      (answer (BillingController.getUsageForMeter (env.inOrder rowOrder) param.text meterType.text) d)
      (answer (BillingController.getUsageForMeter (env.inOrder rowOrder') param.text meterType.text) d) := by
  rcases htenant : env.uuid param.text with _ | id
  · exact .same (sameUpToOrder_of_uuid_eq_none htenant _ _)
  obtain rfl := hdenotes id htenant
  have hanswer := answer_getUsageForMeter (d := d) (env.inOrder rowOrder) htenant meterType.text
  have hanswer' := answer_getUsageForMeter (d := d) (env.inOrder rowOrder') htenant meterType.text
  rcases hanswer with ⟨meter, hlatest, hshown⟩ | ⟨hnone, hshown⟩
  · rcases hanswer' with ⟨meter', hlatest', hshown'⟩ | ⟨hnone', -⟩
    · rw [hshown, hshown']
      exact .meter hlatest hlatest'
    · exact absurd hlatest.mem_findMany (by rw [hnone']; exact List.not_mem_nil)
  · rcases hanswer' with ⟨meter', hlatest', -⟩ | ⟨-, hshown'⟩
    · exact absurd hlatest'.mem_findMany (by rw [hnone]; exact List.not_mem_nil)
    · rw [hshown, hshown']
      exact .same (.refl _)

/-- The answers of a handler in two runs on one state. -/
theorem alikeUpToOrder_dispatch (hback : ReadsBack env) (hdenotes : Denotes env tenantId tenant)
    (route : Route) (hscope : ApiTenantScopeGuard.canActivate tenantId route.tenantId = .ok ()) :
    AlikeUpToOrder env d tenant route (answer (dispatch (env.inOrder rowOrder) tenantId route) d)
      (answer (dispatch (env.inOrder rowOrder') tenantId route) d) := by
  cases route with
  | listMessages limit offset =>
    rcases htenant : env.uuid tenantId with _ | id
    · exact .same (sameUpToOrder_of_uuid_eq_none htenant _ _)
    · obtain rfl := hdenotes id htenant
      exact alikeUpToOrder_listMessages hback htenant limit offset
  | getMessageDetails messageId => exact .same (MessagesController.sameUpToOrder_getMessageDetails _)
  | submitCorrection messageId correction => exact .same (.refl _)
  | listMailboxConnections => exact .same sameUpToOrder_listMailboxConnections
  | getMailboxConnection mailboxId => exact .same (.refl _)
  | connectMailbox request => exact .same (.refl _)
  | disconnectMailbox mailboxId =>
    refine .same ?_
    unfold dispatch
    rw [answer_disconnectMailbox, answer_disconnectMailbox]
    exact .refl _
  | getTenantConfiguration param => exact .same sameUpToOrder_getTenantConfiguration
  | updateVipList param request => exact .same (.refl _)
  | updateCategoryRules param request => exact .same (.refl _)
  | updateBudgetSettings param request => exact .same (.refl _)
  | updateDigestFrequency param request => exact .same (.refl _)
  | getBillingInfo param => exact .same sameUpToOrder_getBillingInfo
  | getUsageForMeter param meterType =>
    exact alikeUpToOrder_getUsageForMeter param meterType (denotes_param hscope hdenotes)

end

end EmailTriage.Api
