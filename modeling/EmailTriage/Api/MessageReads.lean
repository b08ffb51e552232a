import EmailTriage.Api.Controllers

/-!
# Reading messages through the API

What the two endpoints of `src/api/v1/controllers/messages.controller.ts` that read messages answer
with: a list is a page of the messages of the tenant (`listMessages_eq_ok_iff`), and the details are
those of one message (`getMessageDetails_eq_ok_iff`). A list looks the priority and the threat of a
message up by its id as it is written in the message, the details by the id that the database has read
in it.

These are the specifications that the modules about pages, repeated reads and triage start from: they
say when an endpoint answers, and with what, in terms of the rows of the tables and the order in which
the database returns them.
-/

namespace EmailTriage.Api

open Js Db

section

variable {env : Surroundings} {d d' : Database}

/-! ## Rows that are found

A query gives its rows in some order. What is looked up by a key does not depend on the order.
-/

section

variable {Row Id Key : Type} [Schema Row Id Key] {t : Table Row} {p : Row → Bool}

/-- A query gives the rows that match, in some order. -/
theorem perm_matching (env : Surroundings) (t : Table Row) (p : Row → Bool) :
    (matching env t p).Perm (t.findMany p) :=
  Multiset.coe_eq_coe.mp (env.coe_order _)

/-- A row is in the answer if it is stored and matches. -/
theorem mem_matching_iff {r : Row} : r ∈ matching env t p ↔ r ∈ t.rows ∧ p r = true :=
  (perm_matching env t p).mem_iff.trans List.mem_filter

end

namespace MessagesController

section

variable {Row : Type} [Schema Row String (String × String)] {table : Database → Table Row}

/-- The rows of some messages, once their ids are read. -/
theorem findForMessages_eq_ok_iff {tenantId : String} {messageIds : List String} {rows : List Row} :
    findForMessages env table tenantId messageIds d = .ok rows d' ↔ d = d' ∧ ∃ tenant,
      env.uuid tenantId = some tenant ∧ (∀ id ∈ messageIds, (env.uuid id).isSome = true) ∧
      rows = matching env (table d) fun r =>
        (Schema.key r).1 = tenant && (messageIds.filterMap env.uuid).contains (Schema.key r).2 := by
  unfold findForMessages
  constructor
  · intro h
    obtain ⟨tenant, s₁, hread, h⟩ := bind_eq_ok.mp h
    obtain ⟨htenant, rfl⟩ := uuid_eq_ok.mp hread
    obtain ⟨ids, s₂, hids, h⟩ := bind_eq_ok.mp h
    obtain ⟨hall, rfl, rfl⟩ := mapM_orThrow_eq_ok.mp hids
    obtain ⟨rfl, rfl⟩ := EStateM.Result.ok.inj h
    exact ⟨rfl, tenant, htenant, hall, rfl⟩
  · rintro ⟨rfl, tenant, htenant, hall, rfl⟩
    refine bind_eq_ok.mpr ⟨tenant, d, uuid_eq_ok.mpr ⟨htenant, rfl⟩, ?_⟩
    exact bind_eq_ok.mpr ⟨_, d, mapM_orThrow_eq_ok.mpr ⟨hall, rfl, rfl⟩, rfl⟩

/-- The map of rows has the row at the key of a message, if the rows are those of that message, too. -/
theorem get_matching (t : Table Row) (tenant : String) (ids : List String) (messageId : String) :
    get (matching env t fun r => (Schema.key r).1 = tenant && ids.contains (Schema.key r).2) messageId
      = if ids.contains messageId = true then t.find (tenant, messageId) else none := by
  refine Option.ext fun r => ?_
  -- the last row that was found with the id, and no other row has its tenant and id
  have hfound : get (matching env t fun r =>
      (Schema.key r).1 = tenant && ids.contains (Schema.key r).2) messageId = some r ↔
        r ∈ t.rows ∧ Schema.key r = (tenant, messageId) ∧ ids.contains messageId = true := by
    unfold get
    constructor
    · intro h
      have hmem := List.mem_reverse.mp (List.mem_of_find?_eq_some h)
      obtain ⟨hrow, hmatch⟩ := mem_matching_iff.mp hmem
      rw [Bool.and_eq_true, decide_eq_true_eq] at hmatch
      have hid : (Schema.key r).2 = messageId := by simpa using List.find?_some h
      rw [hid] at hmatch
      exact ⟨hrow, Prod.ext hmatch.1 hid, hmatch.2⟩
    · rintro ⟨hrow, hkey, hcontains⟩
      have hmem : r ∈ (matching env t fun r =>
          (Schema.key r).1 = tenant && ids.contains (Schema.key r).2).reverse := by
        rw [List.mem_reverse, mem_matching_iff, hkey]
        exact ⟨hrow, Bool.and_eq_true_iff.mpr ⟨decide_eq_true rfl, hcontains⟩⟩
      rcases hfind : ((matching env t fun r =>
          (Schema.key r).1 = tenant && ids.contains (Schema.key r).2).reverse.find?
            fun r => (Schema.key r).2 = messageId) with _ | r'
      · have hnone := List.find?_eq_none.mp hfind r hmem
        rw [hkey] at hnone
        exact absurd (decide_eq_true rfl) hnone
      · -- the row is the only one at its key
        rw [hfind]
        have hmem' := List.mem_reverse.mp (List.mem_of_find?_eq_some hfind)
        obtain ⟨hrow', hmatch'⟩ := mem_matching_iff.mp hmem'
        rw [Bool.and_eq_true, decide_eq_true_eq] at hmatch'
        have hid' : (Schema.key r').2 = messageId := by simpa using List.find?_some hfind
        have hkey' : Schema.key r' = (tenant, messageId) := Prod.ext hmatch'.1 hid'
        rw [Table.eq_of_key_eq hrow' hrow (hkey'.trans hkey.symm)]
  rw [hfound]
  split_ifs with hcontains
  · rw [Table.find_eq_some_iff]
    exact and_congr_right fun _ => and_iff_left hcontains
  · exact iff_of_false (fun h => hcontains h.2.2) fun h => by cases h

end

/-! ## The answers

Either endpoint answers exactly if the message is found under its tenant and every row on it can be shown.
-/

/-- The labels of a message, in the order of the database. -/
def labelsOf (env : Surroundings) (d : Database) (message : MessageRow) :
    List Classification.MessageLabelRow :=
  matching env d.messageLabels fun label => label.message_id = message.id

/-- What a list shows of a message among others: a row is found when the ids that were read have it. -/
def entryOf (env : Surroundings) (d : Database) (tenant : String) (ids : List String)
    (message : MessageRow) : Except HttpError Value :=
  toMessageDto env message (labelsOf env d message)
    (if ids.contains message.messageId = true then d.messagePriorities.find (tenant, message.messageId)
      else none)
    (if ids.contains message.messageId = true then d.threatAssessments.find (tenant, message.messageId)
      else none)

/-- The messages that a list is a page of. -/
def messagesOf (env : Surroundings) (d : Database) (tenant : String) : List MessageRow :=
  matching env d.ingestedMessages fun message => message.tenantId = tenant

/-- The ids that a list reads have the id of a message of the list as it is written, if that is how the
database writes it. -/
theorem contains_filterMap_uuid (hback : ReadsBack env) {messages : List MessageRow} {message : MessageRow}
    (hmem : message ∈ messages) :
    (messages.filterMap fun m => env.uuid m.messageId).contains message.messageId = true ↔
      env.uuid message.messageId = some message.messageId := by
  rw [List.contains_iff_mem, List.mem_filterMap]
  constructor
  · rintro ⟨other, -, hother⟩
    exact hback _ _ hother
  · intro h
    exact ⟨message, hmem, h⟩

/-- A list looks up what it shows of each message in the maps of the rows of all of them. -/
theorem mapM_entryOf {f : MessageRow × List Classification.MessageLabelRow → Except HttpError Value}
    {tenant : String} {ids : List String}
    (hf : ∀ message labels, f (message, labels) = toMessageDto env message labels
      (get (matching env d.messagePriorities fun r => (Schema.key r).1 = tenant &&
        ids.contains (Schema.key r).2) message.messageId)
      (get (matching env d.threatAssessments fun r => (Schema.key r).1 = tenant &&
        ids.contains (Schema.key r).2) message.messageId)) (messages : List MessageRow) :
    (messages.zip (messages.map (labelsOf env d))).mapM f = messages.mapM (entryOf env d tenant ids) := by
  rw [← List.map_prod_left_eq_zip, List.mapM_map]
  simp only [get_matching] at hf
  refine congrArg (messages.mapM ·) (funext fun message => ?_)
  exact hf message _

/-- What is on a page is in the list it is cut out of. -/
theorem mem_of_page {α : Type} {take skip : Number} {rows rows' : List α}
    (h : page take skip rows = some rows') {a : α} (ha : a ∈ rows') : a ∈ rows := by
  unfold page at h
  split at h
  · split_ifs at h with _ hforwards
    · rw [← Option.some.inj h] at ha
      exact List.mem_of_mem_drop (List.mem_of_mem_take ha)
    · rw [← Option.some.inj h, List.mem_reverse] at ha
      exact List.mem_reverse.mp (List.mem_of_mem_drop (List.mem_of_mem_take ha))
  · cases h

/-- A list is the page of the messages of the tenant, each with what was found for it. -/
theorem listMessages_eq_ok_iff {tenantId : String} {limit offset : Option String} {response : Value} :
    listMessages env tenantId limit offset d = .ok response d' ↔ d = d' ∧ ∃ tenant messages dtos,
      env.uuid tenantId = some tenant ∧
      page (parsedLimit limit) (parsedOffset offset) (messagesOf env d tenant) = some messages ∧
      (∀ message ∈ messages, (env.uuid message.messageId).isSome = true) ∧
      messages.mapM (entryOf env d tenant (messages.filterMap fun m => env.uuid m.messageId)) = .ok dtos ∧
      response = .obj [("messages", .arr dtos), ("total", .num (messagesOf env d tenant).length),
        ("limit", number (parsedLimit limit)), ("offset", number (parsedOffset offset))] := by
  have hids : ∀ messages : List MessageRow, (messages.map (·.messageId)).filterMap env.uuid
      = messages.filterMap fun m => env.uuid m.messageId := fun _ => List.filterMap_map
  unfold listMessages
  constructor
  · intro h
    obtain ⟨tenant, s₁, hread, h⟩ := bind_eq_ok.mp h
    obtain ⟨htenant, rfl⟩ := uuid_eq_ok.mp hread
    obtain ⟨found, s₂, hfound, h⟩ := bind_eq_ok.mp h
    obtain ⟨rfl, rfl⟩ := EStateM.Result.ok.inj hfound
    obtain ⟨messages, s₃, hmessages, h⟩ := bind_eq_ok.mp h
    obtain ⟨hpage, rfl⟩ := orThrow_eq_ok.mp hmessages
    -- the lookup of the labels cannot fail, whatever the message ids are
    have hlabels : messages.mapM (findLabels env) d = .ok (messages.map (labelsOf env d)) d :=
      mapM_reads _ messages d
    rw [bind_of_ok hlabels] at h
    obtain ⟨priorities, s₄, hpriorities, h⟩ := bind_eq_ok.mp h
    obtain ⟨rfl, tenant', htenant', hall, rfl⟩ := findForMessages_eq_ok_iff.mp hpriorities
    obtain rfl := Option.some.inj (htenant.symm.trans htenant')
    obtain ⟨threats, s₅, hthreats, h⟩ := bind_eq_ok.mp h
    -- both lookups parse the tenant that the route has parsed before
    obtain ⟨rfl, tenant', htenant', -, rfl⟩ := findForMessages_eq_ok_iff.mp hthreats
    obtain rfl := Option.some.inj (htenant.symm.trans htenant')
    obtain ⟨dtos, s₆, hmapped, h⟩ := bind_eq_ok.mp h
    obtain ⟨hresult, rfl⟩ := ofExcept_eq_ok.mp hmapped
    obtain ⟨rfl, rfl⟩ := EStateM.Result.ok.inj h
    rw [mapM_entryOf fun _ _ => rfl, hids] at hresult
    exact ⟨rfl, tenant, messages, dtos, htenant, hpage, by simpa using hall, hresult, rfl⟩
  · rintro ⟨rfl, tenant, messages, dtos, htenant, hpage, hall, hresult, rfl⟩
    have hlabels : messages.mapM (findLabels env) d = .ok (messages.map (labelsOf env d)) d :=
      mapM_reads _ messages d
    have hread : ∀ id ∈ messages.map (·.messageId), (env.uuid id).isSome = true := by simpa using hall
    refine bind_eq_ok.mpr ⟨tenant, d, uuid_eq_ok.mpr ⟨htenant, rfl⟩, ?_⟩
    refine bind_eq_ok.mpr ⟨_, d, rfl, ?_⟩
    refine bind_eq_ok.mpr ⟨messages, d, orThrow_eq_ok.mpr ⟨hpage, rfl⟩, ?_⟩
    rw [bind_of_ok hlabels]
    refine bind_eq_ok.mpr ⟨_, d, findForMessages_eq_ok_iff.mpr ⟨rfl, tenant, htenant, hread, rfl⟩, ?_⟩
    refine bind_eq_ok.mpr ⟨_, d, findForMessages_eq_ok_iff.mpr ⟨rfl, tenant, htenant, hread, rfl⟩, ?_⟩
    refine bind_eq_ok.mpr ⟨dtos, d, ofExcept_eq_ok.mpr ⟨?_, rfl⟩, rfl⟩
    rw [mapM_entryOf fun _ _ => rfl, hids]
    exact hresult

/-- The row of a message, once its id is read. -/
theorem findForMessage_eq_ok_iff {Row : Type} [Schema Row String (String × String)]
    {table : Database → Table Row} {tenantId messageId : String} {row : Option Row} :
    findForMessage env table tenantId messageId d = .ok row d' ↔ d = d' ∧ ∃ tenant id,
      env.uuid tenantId = some tenant ∧ env.uuid messageId = some id ∧
      row = (table d).find (tenant, id) := by
  unfold findForMessage
  constructor
  · intro h
    obtain ⟨tenant, s₁, hread, h⟩ := bind_eq_ok.mp h
    obtain ⟨htenant, rfl⟩ := uuid_eq_ok.mp hread
    obtain ⟨id, s₂, hread', h⟩ := bind_eq_ok.mp h
    obtain ⟨hid, rfl⟩ := uuid_eq_ok.mp hread'
    obtain ⟨rfl, rfl⟩ := EStateM.Result.ok.inj h
    exact ⟨rfl, tenant, id, htenant, hid, rfl⟩
  · rintro ⟨rfl, tenant, id, htenant, hid, rfl⟩
    refine bind_eq_ok.mpr ⟨tenant, d, uuid_eq_ok.mpr ⟨htenant, rfl⟩, ?_⟩
    exact bind_eq_ok.mpr ⟨id, d, uuid_eq_ok.mpr ⟨hid, rfl⟩, rfl⟩

/-- The message of a tenant with an id, if there is one. -/
theorem findMessage_eq_ok_iff {tenantId messageId : String} {message : MessageRow} :
    findMessage env tenantId messageId d = .ok message d' ↔ d = d' ∧ ∃ tenant,
      env.uuid tenantId = some tenant ∧ d.ingestedMessages.find (tenant, messageId) = some message := by
  unfold findMessage
  constructor
  · intro h
    obtain ⟨tenant, s₁, hread, h⟩ := bind_eq_ok.mp h
    obtain ⟨htenant, rfl⟩ := uuid_eq_ok.mp hread
    obtain ⟨found, s₂, hfound, h⟩ := bind_eq_ok.mp h
    obtain ⟨hfind, rfl⟩ := EStateM.Result.ok.inj hfound
    rcases found with _ | message'
    · cases h
    · obtain ⟨rfl, rfl⟩ := pure_eq_ok.mp h
      exact ⟨rfl, tenant, htenant, hfind⟩
  · rintro ⟨rfl, tenant, htenant, hfind⟩
    refine bind_eq_ok.mpr ⟨tenant, d, uuid_eq_ok.mpr ⟨htenant, rfl⟩, ?_⟩
    refine bind_eq_ok.mpr ⟨some message, d, ?_, rfl⟩
    exact congrArg (EStateM.Result.ok · d) hfind

/-- The details are those of the message with the rows that belong to it. -/
theorem getMessageDetails_eq_ok_iff {tenantId messageId : String} {dto : Value} :
    getMessageDetails env tenantId messageId d = .ok dto d' ↔ d = d' ∧ ∃ tenant message id,
      env.uuid tenantId = some tenant ∧ d.ingestedMessages.find (tenant, messageId) = some message ∧
      env.uuid message.messageId = some id ∧
      toMessageDto env message (labelsOf env d message) (d.messagePriorities.find (tenant, id))
        (d.threatAssessments.find (tenant, id)) = .ok dto := by
  unfold getMessageDetails
  constructor
  · intro h
    obtain ⟨message, s₁, hmessage, h⟩ := bind_eq_ok.mp h
    obtain ⟨rfl, tenant, htenant, hfind⟩ := findMessage_eq_ok_iff.mp hmessage
    obtain ⟨labels, s₂, hlabels, h⟩ := bind_eq_ok.mp h
    obtain ⟨rfl, rfl⟩ := EStateM.Result.ok.inj hlabels
    obtain ⟨priority, s₃, hpriority, h⟩ := bind_eq_ok.mp h
    obtain ⟨rfl, tenant₁, id, htenant₁, hid, rfl⟩ := findForMessage_eq_ok_iff.mp hpriority
    -- all the lookups parse the same tenant, and the same id of the message
    obtain rfl := Option.some.inj (htenant.symm.trans htenant₁)
    obtain ⟨threat, s₄, hthreat, h⟩ := bind_eq_ok.mp h
    obtain ⟨rfl, tenant₂, id₂, htenant₂, hid₂, rfl⟩ := findForMessage_eq_ok_iff.mp hthreat
    obtain rfl := Option.some.inj (htenant.symm.trans htenant₂)
    obtain rfl := Option.some.inj (hid.symm.trans hid₂)
    obtain ⟨hdto, rfl⟩ := ofExcept_eq_ok.mp h
    exact ⟨rfl, tenant, message, id, htenant, hfind, hid, hdto⟩
  · rintro ⟨rfl, tenant, message, id, htenant, hfind, hid, hdto⟩
    refine bind_eq_ok.mpr ⟨message, d, findMessage_eq_ok_iff.mpr ⟨rfl, tenant, htenant, hfind⟩, ?_⟩
    refine bind_eq_ok.mpr ⟨_, d, rfl, ?_⟩
    have hrow : ∀ {Row : Type} [Schema Row String (String × String)] (table : Database → Table Row),
        findForMessage env table tenantId message.messageId d = .ok ((table d).find (tenant, id)) d :=
      fun table => findForMessage_eq_ok_iff.mpr ⟨rfl, tenant, id, htenant, hid, rfl⟩
    refine bind_eq_ok.mpr ⟨_, d, hrow (·.messagePriorities), ?_⟩
    refine bind_eq_ok.mpr ⟨_, d, hrow (·.threatAssessments), ?_⟩
    exact ofExcept_eq_ok.mpr ⟨hdto, rfl⟩

end MessagesController

end

end EmailTriage.Api
