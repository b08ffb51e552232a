import EmailTriage.Api.MessageReads
import EmailTriage.Api.Noninterference
import EmailTriage.MailboxIngestion.MessageEnvelope

/-!
# Reading a message twice

Two answers about one message of an unchanged database, from either endpoint. The factory builds
envelopes without a time of receipt, so `toMessageDto` takes the time of the request for it, and a
message that is read again is another one (`sameDto_iff`). A list also misses the priority and the
threat of a message whose id is a UUID that is written in another way than the database writes it.

## The shape of the argument

`toMessageDto_eq_ok_iff` says field by field what is shown of a message. Of two reads of one message in
an unchanged database all fields agree but two kinds: the time of receipt, which the envelopes of the
factory do not have, and what is looked up in the tables of priorities and threats, where one read is a
list and the other one the details. `sameRows_iff` settles the second kind, and the first one is a
comparison of the two clocks.
-/

namespace EmailTriage.Api

open Js Db
open MailboxIngestion (MessageEnvelope)

/-- How a request meets an unchanged database: the clock, and the orders of the rows. -/
structure Circumstances extends RowOrder where
  now : Date.Instant

/-- The surroundings of a request. -/
def Surroundings.at (env : Surroundings) (c : Circumstances) : Surroundings :=
  { env with now := c.now.1, order := c.order, coe_order := c.coe_order }

/-- A message of a tenant, with an envelope of the factory. Its column has no property that the envelope
does not have. -/
structure StoredMessage (env : Surroundings) (d : Database) (tenantId : String) where
  row : MessageRow
  stored : row ∈ d.ingestedMessages.rows
  owned : env.uuid tenantId = some row.tenantId
  envelope : MessageEnvelope
  created : ∃ data, MailboxIngestion.MessageEnvelopeFactory.create data = .ok envelope
  column : ∀ key, envelope.toValue.get key = .undefined → row.normalizedEnvelope.get key = .undefined

/-- The endpoints that answer with a message. -/
inductive Endpoint where
  | list (limit offset : Option String)
  | details

def Endpoint.isList : Endpoint → Bool
  | .list _ _ => true
  | .details => false

namespace MessagesController

/-- An endpoint answers with a DTO for a message. -/
def Answers (env : Surroundings) (d : Database) (tenantId : String) (message : MessageRow)
    (dto : Value) : Endpoint → Prop
  | .list limit offset => ∃ response, listMessages env tenantId limit offset d = .ok response d ∧
    dto ∈ elements (response.get "messages") ∧ dto.get "id" = .str message.id
  | .details => getMessageDetails env tenantId message.messageId d = .ok dto d

/-- A request that answers with a message. -/
structure Read (env : Surroundings) (d : Database) (tenantId : String) (message : MessageRow) where
  circumstances : Circumstances
  endpoint : Endpoint
  dto : Value
  answers : Answers (env.at circumstances) d tenantId message dto endpoint

/-- Equal DTOs, with the labels compared as sets. -/
def SameDto (dto dto' : Value) : Prop :=
  (∀ key, key ≠ "labels" → dto.get key = dto'.get key) ∧
    ∀ label, label ∈ elements (dto.get "labels") ↔ label ∈ elements (dto'.get "labels")

/-! ## What a DTO shows

The fields that are computed from the rows beside the message, with the defaults of rows that are missing.
-/

/-- The score that is shown of a priority. -/
def scoreOf (priority : Option MessagePriorityRow) : Value :=
  (Value.ofOption (fun p => .num p.priority_score) priority).or (.num 0)

/-- The components that are shown of a priority. -/
def componentsOf (priority : Option MessagePriorityRow) : Except HttpError (List Value) :=
  (elements (Value.ofOption (·.components) priority)).mapM component

/-- The decision that is shown of a threat. -/
def decisionOf (threat : Option ThreatDetection.ThreatAssessmentRow) : Value :=
  (Value.ofOption (fun t => .str t.quarantine_decision) threat).or (.str "none")

section

variable {env : Surroundings} {message : MessageRow} {labels : List Classification.MessageLabelRow}
  {priority : Option MessagePriorityRow} {threat : Option ThreatDetection.ThreatAssessmentRow} {dto : Value}

/-- The fields of a DTO. -/
theorem toMessageDto_eq_ok_iff : toMessageDto env message labels priority threat = .ok dto ↔
    ∃ components, componentsOf priority = .ok components ∧ dto = .obj
      [("id", .str message.id), ("message_id", .str message.messageId),
        ("mailbox_id", .str message.mailboxId), ("platform", .str message.platform),
        ("from", ((message.normalizedEnvelope.or (.obj [])).get "from").or (.str "")),
        ("subject", ((message.normalizedEnvelope.or (.obj [])).get "subject").or (.str "")),
        ("thread_id", (message.normalizedEnvelope.or (.obj [])).get "threadRef"),
        ("received_at", ((message.normalizedEnvelope.or (.obj [])).get "received_at").or (iso env.now)),
        ("labels", .arr (labels.map toLabelDto)), ("priority_score", scoreOf priority),
        ("priority_components", .arr components), ("phishing_status", decisionOf threat),
        ("quarantine_decision", decisionOf threat),
        ("needs_reply", .bool (labels.any fun label => label.category = .NEEDS_REPLY)),
        ("created_at", iso message.createdAt)] := by
  unfold toMessageDto
  rw [except_bind_eq_ok]
  constructor
  · rintro ⟨components, hcomponents, h⟩
    exact ⟨components, hcomponents, (Except.ok.inj h).symm⟩
  · rintro ⟨components, hcomponents, rfl⟩
    exact ⟨components, hcomponents, rfl⟩

/-- The id in a DTO is that of its message. -/
theorem get_id_of_toMessageDto (h : toMessageDto env message labels priority threat = .ok dto) :
    dto.get "id" = .str message.id := by
  obtain ⟨components, -, rfl⟩ := toMessageDto_eq_ok_iff.mp h
  rw [Value.get_obj_cons, if_pos rfl]

/-- Two instants print the same text only if they are the same. -/
theorem iso_inj {t t' : Date.Instant} : iso t.1 = iso t'.1 ↔ t = t' := by
  constructor
  · intro h
    have htext := congrArg Date.parse (Value.str.inj h)
    rw [Date.parse_toISOString, Date.parse_toISOString] at htext
    exact Subtype.ext (Option.some.inj htext)
  · rintro rfl
    rfl

/-- A column without a time of receipt. -/
theorem get_receivedAt {d : Database} {tenantId : String} (message : StoredMessage env d tenantId) :
    (message.row.normalizedEnvelope.or (.obj [])).get "received_at" = .undefined := by
  unfold Value.or
  split_ifs
  · refine message.column "received_at" ?_
    simp [MessageEnvelope.toValue]
  · rfl

end

/-- Two DTOs of a message are the same when they were made at the same time from rows that show the
same. -/
theorem sameDto_of_toMessageDto_iff {env : Surroundings} {d : Database} {tenantId : String}
    (message : StoredMessage env d tenantId) {c c' : Circumstances}
    {ls ls' : List Classification.MessageLabelRow} (hlabels : ls.Perm ls') {p p' : Option MessagePriorityRow}
    {t t' : Option ThreatDetection.ThreatAssessmentRow} {dto dto' : Value}
    (h : toMessageDto (env.at c) message.row ls p t = .ok dto)
    (h' : toMessageDto (env.at c') message.row ls' p' t' = .ok dto') :
    SameDto dto dto' ↔ c.now = c'.now ∧ scoreOf p = scoreOf p' ∧ componentsOf p = componentsOf p' ∧
      decisionOf t = decisionOf t' := by
  obtain ⟨components, hcomponents, rfl⟩ := toMessageDto_eq_ok_iff.mp h
  obtain ⟨components', hcomponents', rfl⟩ := toMessageDto_eq_ok_iff.mp h'
  have hany : (ls.any fun label => label.category = .NEEDS_REPLY)
      = ls'.any fun label => label.category = .NEEDS_REPLY := hlabels.any_eq
  rw [get_receivedAt message, hcomponents, hcomponents', hany]
  -- the time received is the clock of the read, since rows have no column for it
  have hreceived : (Value.undefined.or (iso (env.at c).now) = Value.undefined.or (iso (env.at c').now)) ↔
      c.now = c'.now := iso_inj
  unfold SameDto
  constructor
  · rintro ⟨hfields, -⟩
    have hat := hfields "received_at" (by decide)
    have hscore := hfields "priority_score" (by decide)
    have hcomps := hfields "priority_components" (by decide)
    have hdecision := hfields "quarantine_decision" (by decide)
    simp only [Value.get_obj_cons, String.reduceEq, if_false, if_true] at hat hscore hcomps hdecision
    exact ⟨hreceived.mp hat, hscore, by rw [Value.arr.inj hcomps], hdecision⟩
  · rintro ⟨hnow, hscore, hcomps, hdecision⟩
    rw [hreceived.mpr hnow, hscore, Except.ok.inj hcomps, hdecision]
    constructor
    · intro key hkey
      simp only [Value.get_obj_cons, if_neg hkey]
    · intro label
      simp only [Value.get_obj_cons, String.reduceEq, if_false, if_true]
      exact (hlabels.map toLabelDto).mem_iff

/-! ## What a read shows

Either endpoint finds the rows of a message by its own spelling of the id.
-/

/-- The row that an endpoint shows of a message: the details ask for the id that the database has read, a
list looks for the id as it is written. -/
def shownRow {Row : Type} [Schema Row String (String × String)] (env : Surroundings) (t : Table Row)
    (message : MessageRow) : Endpoint → Option Row
  | .list _ _ =>
    if env.uuid message.messageId = some message.messageId then
      t.find (message.tenantId, message.messageId)
    else none
  | .details => (env.uuid message.messageId).bind fun id => t.find (message.tenantId, id)

section

variable {env : Surroundings} {d : Database} {tenantId : String}

/-- Whatever endpoint answers, the DTO is made from the message and the rows that are shown. -/
theorem toMessageDto_of_answers (hback : ReadsBack env) (message : StoredMessage env d tenantId)
    (read : Read env d tenantId message.row) :
    ∃ labels : List Classification.MessageLabelRow,
      labels.Perm (d.messageLabels.findMany fun label => label.message_id = message.row.id) ∧
      toMessageDto (env.at read.circumstances) message.row labels
        (shownRow env d.messagePriorities message.row read.endpoint)
        (shownRow env d.threatAssessments message.row read.endpoint) = .ok read.dto := by
  obtain ⟨c, endpoint, dto, hanswers⟩ := read
  refine ⟨labelsOf (env.at c) d message.row, perm_matching _ _ _, ?_⟩
  rcases endpoint with ⟨limit, offset⟩ | _
  · obtain ⟨response, hlist, hdto, hid⟩ := hanswers
    obtain ⟨-, tenant, messages, dtos, htenant, hpage, -, hdtos, rfl⟩ := listMessages_eq_ok_iff.mp hlist
    have howner : tenant = message.row.tenantId := Option.some.inj (htenant.symm.trans message.owned)
    have hmem : dto ∈ dtos := hdto
    obtain ⟨row, hrow, hentry⟩ := exists_of_mem_mapM hdtos hmem
    -- the id of the entry tells which message it is for
    have hsame : row = message.row := by
      have hrowid := get_id_of_toMessageDto hentry
      rw [hid] at hrowid
      obtain ⟨hstored, -⟩ := mem_matching_iff.mp (mem_of_page hpage hrow)
      exact Table.eq_of_id_eq hstored message.stored (Value.str.inj hrowid).symm
    rw [hsame] at hentry hrow
    unfold entryOf at hentry
    unfold shownRow
    have hcontains := contains_filterMap_uuid hback hrow
    rw [howner] at hentry
    simp only [← hcontains]
    exact hentry
  · obtain ⟨-, tenant, row, id, htenant, hfind, hid, hdetails⟩ := getMessageDetails_eq_ok_iff.mp hanswers
    have howner : tenant = message.row.tenantId := Option.some.inj (htenant.symm.trans message.owned)
    have hsame : row = message.row := by
      obtain ⟨hstored, hkey⟩ := Table.find_eq_some_iff.mp hfind
      exact Table.eq_of_key_eq hstored message.stored (hkey.trans (Prod.ext howner rfl))
    rw [hsame, howner] at hdetails
    rw [hsame] at hid
    have huuid : env.uuid message.row.messageId = some id := hid
    unfold shownRow
    simp only [huuid, Option.bind_some]
    exact hdetails

/-! ## Equal answers

Two reads are equal exactly if they were made at the same time and show the same rows, or such as look
like missing ones.
-/

/-- Mapping gives nothing when there is nothing to map. -/
theorem mapM_component_eq_nil_iff {cs : List Value} : cs.mapM component = .ok [] ↔ cs = [] := by
  rcases cs with _ | ⟨c, cs⟩
  · exact iff_of_true rfl rfl
  · refine iff_of_false (fun h => ?_) (List.cons_ne_nil c cs)
    rw [List.mapM_cons] at h
    obtain ⟨c', -, h⟩ := except_bind_eq_ok.mp h
    obtain ⟨cs', -, h⟩ := except_bind_eq_ok.mp h
    exact List.cons_ne_nil c' cs' (Except.ok.inj h)

/-- A missing priority is shown as the score zero. -/
theorem scoreOf_none_eq_iff {priority : MessagePriorityRow} :
    scoreOf none = scoreOf (some priority) ↔ priority.priority_score = 0 := by
  have hnone : scoreOf none = .num 0 := rfl
  have hsome : scoreOf (some priority) = (Value.num priority.priority_score).or (.num 0) := rfl
  rw [hnone, hsome]
  unfold Value.or Value.truthy
  by_cases hzero : priority.priority_score = 0
  · simp [hzero]
  · simp [hzero, Ne.symm hzero]

/-- A missing assessment is shown as a decision that is empty or none. -/
theorem decisionOf_none_eq_iff {threat : ThreatDetection.ThreatAssessmentRow} :
    decisionOf none = decisionOf (some threat) ↔
      threat.quarantine_decision = "" ∨ threat.quarantine_decision = "none" := by
  have hnone : decisionOf none = .str "none" := rfl
  have hsome : decisionOf (some threat) = (Value.str threat.quarantine_decision).or (.str "none") := rfl
  rw [hnone, hsome]
  unfold Value.or Value.truthy
  by_cases hempty : threat.quarantine_decision = ""
  · simp [hempty]
  · simp [hempty, eq_comm]

/-- The rows of a message show what a message without rows shows. -/
def ShowsDefaults (env : Surroundings) (d : Database) (message : MessageRow) : Prop :=
  ∀ id, env.uuid message.messageId = some id →
    (∀ priority, d.messagePriorities.find (message.tenantId, id) = some priority →
      priority.priority_score = 0 ∧ elements priority.components = []) ∧
    ∀ threat, d.threatAssessments.find (message.tenantId, id) = some threat →
      threat.quarantine_decision = "" ∨ threat.quarantine_decision = "none"

/-- What two endpoints show of the rows of a message. -/
def SameRows (env : Surroundings) (d : Database) (message : MessageRow) (e e' : Endpoint) : Prop :=
  scoreOf (shownRow env d.messagePriorities message e)
      = scoreOf (shownRow env d.messagePriorities message e') ∧
    componentsOf (shownRow env d.messagePriorities message e)
      = componentsOf (shownRow env d.messagePriorities message e') ∧
    decisionOf (shownRow env d.threatAssessments message e)
      = decisionOf (shownRow env d.threatAssessments message e')

/-- A list shows the rows of a message when its id is written as the database writes it, or when there is
nothing to be seen. -/
theorem sameRows_list_details_iff {message : MessageRow} {limit offset : Option String} {id : String}
    (hid : env.uuid message.messageId = some id) :
    SameRows env d message (.list limit offset) .details ↔
      env.uuid message.messageId = some message.messageId ∨ ShowsDefaults env d message := by
  unfold SameRows shownRow
  simp only [hid, Option.some.injEq, Option.bind_some]
  by_cases hwritten : id = message.messageId
  · rw [if_pos hwritten, if_pos hwritten, hwritten]
    exact iff_of_true ⟨rfl, rfl, rfl⟩ (.inl rfl)
  · -- the list finds no row for an id that is not spelled as stored, and shows the defaults
    rw [if_neg hwritten, if_neg hwritten, or_iff_right hwritten]
    have hcomponents : componentsOf none = .ok [] := rfl
    unfold ShowsDefaults
    constructor
    · rintro ⟨hscore, hcomps, hdecision⟩ id' hid'
      obtain rfl := Option.some.inj (hid.symm.trans hid')
      refine ⟨fun priority hpriority => ?_, fun threat hthreat => ?_⟩
      · rw [hpriority] at hscore hcomps
        rw [hcomponents] at hcomps
        exact ⟨scoreOf_none_eq_iff.mp hscore, mapM_component_eq_nil_iff.mp hcomps.symm⟩
      · rw [hthreat] at hdecision
        exact decisionOf_none_eq_iff.mp hdecision
    · intro h
      obtain ⟨hpriority, hthreat⟩ := h id hid
      refine ⟨?_, ?_, ?_⟩
      · rcases hp : d.messagePriorities.find (message.tenantId, id) with _ | priority
        · rfl
        · exact scoreOf_none_eq_iff.mpr (hpriority priority hp).1
      · rcases hp : d.messagePriorities.find (message.tenantId, id) with _ | priority
        · rfl
        · rw [hcomponents]
          exact (mapM_component_eq_nil_iff.mpr (hpriority priority hp).2).symm
      · rcases ht : d.threatAssessments.find (message.tenantId, id) with _ | threat
        · rfl
        · exact decisionOf_none_eq_iff.mpr (hthreat threat ht)

/-- Whoever reads a message had its id read. -/
theorem exists_uuid_of_answers (message : StoredMessage env d tenantId)
    (read : Read env d tenantId message.row) : ∃ id, env.uuid message.row.messageId = some id := by
  obtain ⟨c, endpoint, dto, hanswers⟩ := read
  rcases endpoint with ⟨limit, offset⟩ | _
  · obtain ⟨response, hlist, hdto, hid⟩ := hanswers
    obtain ⟨-, tenant, messages, dtos, htenant, hpage, hread, hdtos, rfl⟩ := listMessages_eq_ok_iff.mp hlist
    have hmem : dto ∈ dtos := hdto
    obtain ⟨row, hrow, hentry⟩ := exists_of_mem_mapM hdtos hmem
    have hrowid := get_id_of_toMessageDto hentry
    rw [hid] at hrowid
    obtain ⟨hstored, -⟩ := mem_matching_iff.mp (mem_of_page hpage hrow)
    have hsame := Table.eq_of_id_eq hstored message.stored (Value.str.inj hrowid).symm
    exact Option.isSome_iff_exists.mp (hsame ▸ hread row hrow)
  · obtain ⟨-, tenant, row, id, htenant, hfind, hid, -⟩ := getMessageDetails_eq_ok_iff.mp hanswers
    have howner : tenant = message.row.tenantId := Option.some.inj (htenant.symm.trans message.owned)
    obtain ⟨hstored, hkey⟩ := Table.find_eq_some_iff.mp hfind
    have hsame := Table.eq_of_key_eq hstored message.stored (hkey.trans (Prod.ext howner rfl))
    exact ⟨id, hsame ▸ hid⟩

/-- Which endpoint is called first does not matter. -/
theorem SameRows.symm {message : MessageRow} {e e' : Endpoint} (h : SameRows env d message e e') :
    SameRows env d message e' e := ⟨h.1.symm, h.2.1.symm, h.2.2.symm⟩

/-- Two endpoints show the same rows when they are the same endpoint, or else under the conditions of a
list and the details. -/
theorem sameRows_iff (message : StoredMessage env d tenantId) (read : Read env d tenantId message.row)
    (e e' : Endpoint) : SameRows env d message.row e e' ↔
      e.isList = e'.isList ∨ env.uuid message.row.messageId = some message.row.messageId ∨
        ShowsDefaults env d message.row := by
  obtain ⟨id, hid⟩ := exists_uuid_of_answers message read
  rcases e with ⟨limit, offset⟩ | _ <;> rcases e' with ⟨limit', offset'⟩ | _
  · exact iff_of_true ⟨rfl, rfl, rfl⟩ (.inl rfl)
  · rw [sameRows_list_details_iff hid, or_iff_right (fun h => Bool.noConfusion h)]
  · rw [← sameRows_list_details_iff hid, or_iff_right (fun h => Bool.noConfusion h)]
    exact ⟨SameRows.symm, SameRows.symm⟩
  · exact iff_of_true ⟨rfl, rfl, rfl⟩ (.inl rfl)

end

/-- Two answers about a message of an unchanged database are equal, with the labels compared as sets,
exactly when they were made at the same time, and if one of them is of a list and the other one of the
details, the id of the message is written as the database writes it, or its rows show nothing but
defaults. -/
theorem sameDto_iff {env : Surroundings} (hback : ReadsBack env) {d : Database} {tenantId : String}
    (message : StoredMessage env d tenantId) (read read' : Read env d tenantId message.row) :
    SameDto read.dto read'.dto ↔ read.circumstances.now = read'.circumstances.now ∧
      (read.endpoint.isList = read'.endpoint.isList ∨
        env.uuid message.row.messageId = some message.row.messageId ∨
        ShowsDefaults env d message.row) := by
  obtain ⟨labels, hlabels, hdto⟩ := toMessageDto_of_answers hback message read
  obtain ⟨labels', hlabels', hdto'⟩ := toMessageDto_of_answers hback message read'
  rw [sameDto_of_toMessageDto_iff message (hlabels.trans hlabels'.symm) hdto hdto']
  exact and_congr_right fun _ => sameRows_iff message read read.endpoint read'.endpoint

/-! ## A message that is read again

A message without any rows, read at two times.
-/

/-- An envelope of the factory. -/
def greeting : MessageEnvelope where
  messageId := "message"
  threadRef := none
  platform := .gmail
  sender := "friend@example.com"
  recipients := ["me@example.com"]
  cc := some []
  bcc := some []
  subject := some "Hello"
  sentAt := "2026-08-21T16:00:00.000Z"
  hasCalendarPart := some false
  calendarMethodType := none
  listUnsubscribe := none
  listId := none
  precedence := none
  autoSubmitted := none
  spfPass := none
  dkimPass := none
  dmarcPass := none
  attachmentSummaries := some []

/-- A message with that envelope. -/
def greetingRow : MessageRow :=
  ⟨"row", "tenant", "message", "mailbox", "gmail", greeting.toValue, 0⟩

/-- Nothing is stored but that message. -/
def greetingDatabase : Database :=
  { connectionsOnly none with
    ingestedMessages := ⟨[greetingRow], by simp, by simp⟩
    tenant_label := fun _ h => absurd h List.not_mem_nil }

/-- The stored message. -/
noncomputable def greetingMessage : StoredMessage plainSurroundings greetingDatabase "tenant" where
  row := greetingRow
  stored := List.mem_singleton_self _
  owned := rfl
  envelope := greeting
  created := ⟨
    { messageId := some "message", platform := some .gmail, sender := some "friend@example.com"
      recipients := some ["me@example.com"], subject := some "Hello"
      sentAt := some "2026-08-21T16:00:00.000Z" }, rfl⟩
  column _ h := h

/-- A request at a time, with rows in any order. -/
noncomputable def requestAt (now : Date.Instant) : Circumstances where
  now := now
  toRowOrder := .forwards

/-- The details are answered at any time. -/
theorem exists_details (now : Date.Instant) : ∃ dto,
    Answers (plainSurroundings.at (requestAt now)) greetingDatabase "tenant" greetingRow dto .details := by
  obtain ⟨dto, hdto⟩ : ∃ dto, toMessageDto (plainSurroundings.at (requestAt now)) greetingRow
      (labelsOf (plainSurroundings.at (requestAt now)) greetingDatabase greetingRow) none none = .ok dto :=
    ⟨_, toMessageDto_eq_ok_iff.mpr ⟨[], rfl, rfl⟩⟩
  exact ⟨dto, getMessageDetails_eq_ok_iff.mpr
    ⟨rfl, "tenant", greetingRow, "message", rfl, by rfl, rfl, hdto⟩⟩

/-- The details of the message at a time. -/
noncomputable def detailsAt (now : Date.Instant) :
    Read plainSurroundings greetingDatabase "tenant" greetingRow :=
  ⟨requestAt now, .details, (exists_details now).choose, (exists_details now).choose_spec⟩

/-- The message is read. -/
noncomputable def firstRead : Read plainSurroundings greetingDatabase "tenant" greetingRow :=
  detailsAt ⟨0, Date.isInstant_zero⟩

/-- It is read again a millisecond later. -/
noncomputable def secondRead : Read plainSurroundings greetingDatabase "tenant" greetingRow :=
  detailsAt ⟨1, by decide⟩

/-- When the two reads are the same. -/
theorem sameDto_secondRead :
    SameDto firstRead.dto secondRead.dto ↔ firstRead.circumstances.now = secondRead.circumstances.now ∧
      (firstRead.endpoint.isList = secondRead.endpoint.isList ∨
        plainSurroundings.uuid greetingMessage.row.messageId = some greetingMessage.row.messageId ∨
        ShowsDefaults plainSurroundings greetingDatabase greetingMessage.row) :=
  sameDto_iff readsBack_plainSurroundings greetingMessage firstRead secondRead

/-- The second answer is not the first one. -/
theorem not_sameDto_secondRead :
    ¬∀ (env : Surroundings) (d : Database) (tenantId : String) (message : StoredMessage env d tenantId)
      (read read' : Read env d tenantId message.row), SameDto read.dto read'.dto := by
  intro h
  obtain ⟨labels, hlabels, hdto⟩ :=
    toMessageDto_of_answers readsBack_plainSurroundings greetingMessage firstRead
  obtain ⟨labels', hlabels', hdto'⟩ :=
    toMessageDto_of_answers readsBack_plainSurroundings greetingMessage secondRead
  have hsame := (sameDto_of_toMessageDto_iff greetingMessage (hlabels.trans hlabels'.symm) hdto
    hdto').mp (h _ _ _ greetingMessage firstRead secondRead)
  have hnow : (0 : ℤ) = 1 := congrArg Subtype.val hsame.1
  exact absurd hnow (by decide)

end MessagesController

end EmailTriage.Api
