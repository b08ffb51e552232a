import EmailTriage.Api.StableReads
import EmailTriage.Lib.Doubles
import EmailTriage.Lib.Paging

/-!
# Pages of messages

The `limit` and the `offset` of `listMessages`. The limit is capped from above only: a text that spells
a negative number goes through as it is, and the client of the database takes that many rows from the
end (`pageCapped_iff`). The query has no order, so a walk over the pages sees every message once
exactly when no message has its place on two pages, each in the order of its own query
(`visitsOnce_iff`).

`page_eq_pageOf` takes the parsed texts away: a page is a segment of the messages of the tenant in the
order of its query. A walk sees every message once exactly if its pages together are a permutation of
them, and these are a permutation exactly if no message is on two of them (`pagesPerm_iff`). A message
that cannot be shown fails the page that it is on, and with it the walk.
-/

namespace EmailTriage.Api

open Js Db Paging

namespace MessagesController

/-! ## The size of a page

The limit and the offset are texts. A page has a hundred messages at most where neither is read as a
negative number; a negative one makes the database count from the end.
-/

/-- Neither `take` nor `skip` is negative, and the database returns at most a hundred messages,
whatever is stored. -/
def PageCapped (limit offset : Option String) : Prop :=
  (parsedLimit limit).isNegative = false ∧ (parsedOffset offset).isNegative = false ∧
    ∀ (env : Surroundings) (d : Database) (tenant : String) (messages : List MessageRow),
      page (parsedLimit limit) (parsedOffset offset) (messagesOf env d tenant) = some messages →
        messages.length ≤ 100

/-- The fallback and the cap leave a negative limit as it is. -/
theorem isNegative_parsedLimit (limit : Option String) :
    (parsedLimit limit).isNegative = (parseIntAnyBase (limit.getD "50")).isNegative := by
  unfold parsedLimit
  rcases parseIntAnyBase (limit.getD "50") with _ | z | _ | _
  · rfl
  · unfold Number.or Number.min Number.le Number.isNaN
    simp only [reduceCtorEq, decide_false, Bool.or_self, Bool.false_eq_true, if_false]
    by_cases hzero : z = 0
    · simp [hzero, Number.isNegative]
    · rw [if_neg hzero]
      split_ifs with hle
      · rfl
      · unfold Number.isNegative
        rw [decide_eq_true_eq] at hle
        exact decide_eq_decide.mpr (by omega)
  · rfl
  · rfl

/-- That what is no number becomes zero makes no offset negative. -/
theorem isNegative_parsedOffset (offset : Option String) :
    (parsedOffset offset).isNegative = (parseIntAnyBase (offset.getD "0")).isNegative := by
  unfold parsedOffset
  rcases parseIntAnyBase (offset.getD "0") with _ | z | _ | _
  · rfl
  · unfold Number.or
    dsimp only
    split_ifs with hzero
    · rw [hzero]
    · rfl
  · rfl
  · rfl

/-- The limit is at most a hundred. -/
theorem parsedLimit_le {limit : Option String} {take : ℤ} (h : parsedLimit limit = .finite take) :
    take ≤ 100 := by
  unfold parsedLimit Number.min at h
  split_ifs at h with hnan hle
  · rw [h] at hle
    exact of_decide_eq_true hle
  · obtain rfl := Number.finite.inj h
    exact le_refl _

/-- A page has at most as many rows as it takes. -/
theorem length_page_le {α : Type} {take : ℤ} {skip : Number} {rows rows' : List α} (hpos : 0 ≤ take)
    (h : page (.finite take) skip rows = some rows') : rows'.length ≤ take.toNat := by
  unfold page at h
  split at h
  · next take' skip' htake =>
    obtain rfl := Number.finite.inj htake
    split_ifs at h
    rw [← Option.some.inj h]
    exact List.length_take_le _ _
  · cases h

/-- A page is capped exactly when neither the limit nor the offset begins, after white space, with a minus
and digits that are not all zero. -/
theorem pageCapped_iff (limit offset : Option String) :
    PageCapped limit offset ↔
      ¬SpellsNegative (limit.getD "50") ∧ ¬SpellsNegative (offset.getD "0") := by
  have hlimit : (parsedLimit limit).isNegative = false ↔ ¬SpellsNegative (limit.getD "50") := by
    rw [isNegative_parsedLimit, ← Bool.not_eq_true, isNegative_parseIntAnyBase]
  have hoffset : (parsedOffset offset).isNegative = false ↔ ¬SpellsNegative (offset.getD "0") := by
    rw [isNegative_parsedOffset, ← Bool.not_eq_true, isNegative_parseIntAnyBase]
  unfold PageCapped
  rw [hlimit, hoffset]
  refine and_congr_right fun hpositive => and_iff_left ?_
  intro env d tenant messages hpage
  rcases htake : parsedLimit limit with _ | take | negative
  · rw [htake] at hpage
    cases hpage
  · have hle := parsedLimit_le htake
    have hpos : 0 ≤ take := by
      have hnegative := hlimit.mpr hpositive
      rw [htake] at hnegative
      have hnot : ¬take < 0 := of_decide_eq_false hnegative
      omega
    rw [htake] at hpage
    have hlength := length_page_le hpos hpage
    omega
  · rw [htake] at hpage
    cases hpage

/-- A limit of minus five hundred is handed to the database as it is. -/
theorem not_pageCapped : ¬∀ limit offset, PageCapped limit offset := by
  intro h
  have hlimit : (parsedLimit (some "-500")).isNegative = false := (h (some "-500") none).1
  revert hlimit
  decide +kernel

/-! ## A walk over the pages

A client asks for one page after the other. Whether it sees every message once is decided by the orders
that the pages are cut out of.
-/

/-- The sizes of pages that are not changed by the cap. -/
abbrev PageSize := {n : ℕ // 1 ≤ n ∧ n ≤ 100}

/-- The stored messages of a tenant. -/
def tenantMessages (d : Database) (tenant : String) : List MessageRow :=
  d.ingestedMessages.findMany fun message => message.tenantId = tenant

/-- The answers to the requests of a walk, one for each page. -/
def walk (env : Surroundings) (d : Database) (tenantId : String) (requests : ℕ → Circumstances)
    (size : PageSize) (pages : ℕ) : Except HttpError (List Value) :=
  (List.range pages).mapM fun k =>
    answer (listMessages (env.at (requests k)) tenantId (some size.1.repr) (some (k * size.1).repr)) d

/-- The ids of the messages in an answer. -/
def idsOf (response : Value) : List Value := (elements (response.get "messages")).map (·.get "id")

/-- A walk goes through, and sees every message of the tenant once. -/
def VisitsOnce (env : Surroundings) (d : Database) (tenantId tenant : String)
    (requests : ℕ → Circumstances) (size : PageSize) : Prop :=
  ∃ responses, walk env d tenantId requests size (pageCount size.1 (tenantMessages d tenant).length)
      = .ok responses ∧
    (responses.flatMap idsOf).Perm ((tenantMessages d tenant).map fun message => .str message.id)

/-- The page that a message has its place on, in the order of a request. -/
def pageOn (env : Surroundings) (d : Database) (tenant : String) (size : PageSize) (c : Circumstances)
    (message : MessageRow) : ℕ :=
  ((messagesOf (env.at c) d tenant).map (·.id)).idxOf message.id / size.1

/-- A list can show a message: its id is a UUID, and the components of the priority that is found for
it are objects. -/
def Showable (env : Surroundings) (d : Database) (message : MessageRow) : Prop :=
  (env.uuid message.messageId).isSome = true ∧
    (env.uuid message.messageId = some message.messageId →
      ∀ priority, d.messagePriorities.find (message.tenantId, message.messageId) = some priority →
        ∀ c ∈ elements priority.components, c.isNullish = false)

section

variable {env : Surroundings} {d : Database} {tenantId tenant : String}

/-- The numbers of a request, as they are read. -/
theorem parsedLimit_repr (size : PageSize) : parsedLimit (some size.1.repr) = .finite size.1 := by
  obtain ⟨n, hpos, hle⟩ := size
  have hread : parseIntAnyBase n.repr = .finite n := by
    rw [parseIntAnyBase_of_decimal (decimal_repr n), toNumber_of_le (k := 53) (by omega) (by decide),
      roundToDouble_of_lt (by omega)]
    rfl
  have hne : n ≠ 0 := by omega
  have hmin : (n : ℤ) ≤ 100 := by omega
  unfold parsedLimit
  rw [Option.getD_some, hread]
  simp [Number.or, Number.min, Number.isNaN, Number.le, hne, hmin]

/-- A decimal number is read as that number, if it has 53 bits at most. -/
theorem parsedOffset_repr {n : ℕ} (h : n < 2 ^ 53) : parsedOffset (some n.repr) = .finite n := by
  have hread : parseIntAnyBase n.repr = .finite n := by
    rw [parseIntAnyBase_of_decimal (decimal_repr n), toNumber_of_le h.le (by decide),
      roundToDouble_of_lt h]
    rfl
  unfold parsedOffset
  rw [Option.getD_some, hread]
  by_cases hzero : n = 0
  · simp [Number.or, hzero]
  · simp [Number.or, hzero]

/-- The page number `k` is the page of the rows in their order. -/
theorem page_eq_pageOf {size k : ℕ} (hsize : size ≤ 100) (h : k * size < 2 ^ 53) {α : Type}
    (rows : List α) : page (.finite size) (.finite ↑(k * size)) rows = some (pageOf size k rows) := by
  unfold page pageOf
  dsimp only
  rw [if_pos (by omega), if_pos (by omega)]
  rfl

/-- A component is shown when it is an object. -/
theorem exists_componentsOf_iff {priority : Option MessagePriorityRow} :
    (∃ components, componentsOf priority = .ok components) ↔
      ∀ p, priority = some p → ∀ c ∈ elements p.components, c.isNullish = false := by
  have hcomponent : ∀ c, (∃ c', component c = .ok c') ↔ c.isNullish = false := by
    intro c
    unfold component
    rcases c.isNullish with _ | _
    · exact iff_of_true ⟨_, rfl⟩ rfl
    · refine iff_of_false (fun h => ?_) Bool.noConfusion
      obtain ⟨c', hc'⟩ := h
      cases hc'
  unfold componentsOf
  rw [exists_mapM_eq_ok]
  simp only [hcomponent]
  rcases priority with _ | p
  · exact iff_of_true (fun c hc => absurd hc List.not_mem_nil) fun p hp => by cases hp
  · exact ⟨fun h p' hp' => Option.some.inj hp' ▸ h, fun h => h p rfl⟩

/-- The messages of a page, in the order of its request. -/
def pageMessages (env : Surroundings) (d : Database) (tenant : String) (requests : ℕ → Circumstances)
    (size : PageSize) (k : ℕ) : List MessageRow :=
  pageOf size.1 k (messagesOf (env.at (requests k)) d tenant)

/-- A page is cut out of the messages of the tenant in some order. -/
theorem perm_messagesOf (c : Circumstances) :
    (messagesOf (env.at c) d tenant).Perm (tenantMessages d tenant) := perm_matching _ _ _

/-- What is on a page is a message of the tenant. -/
theorem mem_of_mem_pageMessages {requests : ℕ → Circumstances} {size : PageSize} {k : ℕ}
    {message : MessageRow} (h : message ∈ pageMessages env d tenant requests size k) :
    message ∈ tenantMessages d tenant :=
  (perm_messagesOf (requests k)).mem_iff.mp (List.mem_of_mem_drop (List.mem_of_mem_take h))

/-- The entry of a message of a page is there when the message can be shown. -/
theorem exists_entryOf_iff (hback : ReadsBack env) (c : Circumstances) {messages : List MessageRow}
    {message : MessageRow} (hmem : message ∈ messages) (howner : message.tenantId = tenant)
    (hread : (env.uuid message.messageId).isSome = true) :
    (∃ dto, entryOf (env.at c) d tenant (messages.filterMap fun m => env.uuid m.messageId) message
      = .ok dto) ↔ Showable env d message := by
  have hcontains := contains_filterMap_uuid hback hmem
  unfold entryOf Showable
  simp only [toMessageDto_eq_ok_iff, hcontains]
  rw [and_iff_right hread]
  constructor
  · rintro ⟨dto, components, hcomponents, -⟩ hwritten
    rw [if_pos hwritten, ← howner] at hcomponents
    exact exists_componentsOf_iff.mp ⟨components, hcomponents⟩
  · intro h
    split_ifs with hwritten
    · obtain ⟨components, hcomponents⟩ := exists_componentsOf_iff.mpr (h hwritten)
      rw [howner] at hcomponents
      exact ⟨_, components, hcomponents, rfl⟩
    · exact ⟨_, [], rfl, rfl⟩

/-- The request for a page is answered when its messages can be shown, and then with their ids. -/
theorem answer_listMessages (hback : ReadsBack env) (htenant : env.uuid tenantId = some tenant)
    (requests : ℕ → Circumstances) (size : PageSize) {k : ℕ} (hk : k * size.1 < 2 ^ 53) :
    ((∃ response, answer (listMessages (env.at (requests k)) tenantId (some size.1.repr)
        (some (k * size.1).repr)) d = .ok response) ↔
      ∀ message ∈ pageMessages env d tenant requests size k, Showable env d message) ∧
    ∀ response, answer (listMessages (env.at (requests k)) tenantId (some size.1.repr)
        (some (k * size.1).repr)) d = .ok response →
      idsOf response = (pageMessages env d tenant requests size k).map fun m => .str m.id := by
  have hpage : page (parsedLimit (some size.1.repr)) (parsedOffset (some (k * size.1).repr))
      (messagesOf (env.at (requests k)) d tenant) = some (pageMessages env d tenant requests size k) := by
    rw [parsedLimit_repr, parsedOffset_repr hk]
    exact page_eq_pageOf size.2.2 hk _
  have howner : ∀ message ∈ pageMessages env d tenant requests size k, message.tenantId = tenant :=
    fun message hmem => of_decide_eq_true (List.mem_filter.mp (mem_of_mem_pageMessages hmem)).2
  constructor
  · constructor
    · rintro ⟨response, hresponse⟩ message hmem
      obtain ⟨d', hlist⟩ := answer_eq_ok_iff.mp hresponse
      obtain ⟨-, tenant', messages, dtos, htenant', hpage', hread, hdtos, -⟩ :=
        listMessages_eq_ok_iff.mp hlist
      obtain rfl := Option.some.inj (htenant.symm.trans htenant')
      obtain rfl := Option.some.inj (hpage.symm.trans hpage')
      exact (exists_entryOf_iff hback (requests k) hmem (howner message hmem) (hread message hmem)).mp
        (exists_mapM_eq_ok.mp ⟨dtos, hdtos⟩ message hmem)
    · intro h
      obtain ⟨dtos, hdtos⟩ := exists_mapM_eq_ok.mpr fun message hmem =>
        (exists_entryOf_iff hback (requests k) hmem (howner message hmem) (h message hmem).1).mpr
          (h message hmem)
      exact ⟨_, answer_eq_ok_iff.mpr ⟨d, listMessages_eq_ok_iff.mpr
        ⟨rfl, tenant, _, dtos, htenant, hpage, fun message hmem => (h message hmem).1, hdtos, rfl⟩⟩⟩
  · intro response hresponse
    obtain ⟨d', hlist⟩ := answer_eq_ok_iff.mp hresponse
    obtain ⟨-, tenant', messages, dtos, htenant', hpage', -, hdtos, rfl⟩ := listMessages_eq_ok_iff.mp hlist
    obtain rfl := Option.some.inj (htenant.symm.trans htenant')
    obtain rfl := Option.some.inj (hpage.symm.trans hpage')
    exact map_eq_of_mapM_eq_ok (fun _ _ => get_id_of_toMessageDto) hdtos

/-- The ids of the pages, put together, are the ids of the messages. -/
def PagesPerm (env : Surroundings) (d : Database) (tenant : String) (requests : ℕ → Circumstances)
    (size : PageSize) : Prop :=
  ((List.range (pageCount size.1 (tenantMessages d tenant).length)).flatMap fun k =>
    pageOf size.1 k ((messagesOf (env.at (requests k)) d tenant).map (·.id))).Perm
    ((tenantMessages d tenant).map (·.id))

/-- A walk goes through when the messages of its pages can be shown. -/
theorem visitsOnce_iff_pagesPerm (hback : ReadsBack env) (htenant : env.uuid tenantId = some tenant)
    (hsize : (tenantMessages d tenant).length ≤ 2 ^ 53) (requests : ℕ → Circumstances) (size : PageSize) :
    VisitsOnce env d tenantId tenant requests size ↔
      (∀ k < pageCount size.1 (tenantMessages d tenant).length,
        ∀ message ∈ pageMessages env d tenant requests size k, Showable env d message) ∧
      PagesPerm env d tenant requests size := by
  have hanswer : ∀ k ∈ List.range (pageCount size.1 (tenantMessages d tenant).length), _ :=
    fun k hk => answer_listMessages (d := d) hback htenant requests size (k := k) (by
      have hlt := (lt_pageCount_iff size.2.1).mp (List.mem_range.mp hk)
      omega)
  have hids : ∀ responses, walk env d tenantId requests size
      (pageCount size.1 (tenantMessages d tenant).length) = .ok responses →
      ((responses.flatMap idsOf).Perm ((tenantMessages d tenant).map fun message => .str message.id) ↔
        PagesPerm env d tenant requests size) := by
    -- the pages that are answered show the ids of the messages that were cut out, in their order
    intro responses hwalk
    have hmap : responses.map idsOf = (List.range (pageCount size.1 (tenantMessages d tenant).length)).map
        fun k => (pageMessages env d tenant requests size k).map fun m => .str m.id :=
      map_eq_of_mapM_of_mem (fun k hk response hresponse => (hanswer k hk).2 response hresponse) hwalk
    have hpages : ∀ k, (pageMessages env d tenant requests size k).map (fun m => Value.str m.id) =
        (pageOf size.1 k ((messagesOf (env.at (requests k)) d tenant).map (·.id))).map Value.str := by
      intro k
      unfold pageMessages pageOf
      rw [← List.map_drop, ← List.map_take, List.map_map]
      rfl
    have hrows : (tenantMessages d tenant).map (fun message => Value.str message.id)
        = ((tenantMessages d tenant).map (·.id)).map Value.str := by
      rw [List.map_map]
      rfl
    unfold PagesPerm
    rw [← List.map_perm_map_iff (f := Value.str) fun _ _ => Value.str.inj, ← hrows, List.map_flatMap,
      List.flatMap_def, hmap]
    simp only [hpages]
    rw [← List.flatMap_def]
  unfold VisitsOnce
  constructor
  · rintro ⟨responses, hwalk, hperm⟩
    refine ⟨fun k hk => ?_, (hids responses hwalk).mp hperm⟩
    exact (hanswer k (List.mem_range.mpr hk)).1.mp
      (exists_mapM_eq_ok.mp ⟨responses, hwalk⟩ k (List.mem_range.mpr hk))
  · rintro ⟨hshow, hperm⟩
    obtain ⟨responses, hwalk⟩ := exists_mapM_eq_ok.mpr fun k hk =>
      (hanswer k hk).1.mpr (hshow k (List.mem_range.mp hk))
    exact ⟨responses, hwalk, (hids responses hwalk).mpr hperm⟩

/-- The pages have every message once when no message has its place on two of them. -/
theorem pagesPerm_iff (requests : ℕ → Circumstances) (size : PageSize) :
    PagesPerm env d tenant requests size ↔
      ∀ j k, j < pageCount size.1 (tenantMessages d tenant).length →
        k < pageCount size.1 (tenantMessages d tenant).length → j ≠ k →
        ∀ message ∈ tenantMessages d tenant, ¬(pageOn env d tenant size (requests j) message = j ∧
          pageOn env d tenant size (requests k) message = k) := by
  have hnodup : ((tenantMessages d tenant).map (·.id)).Nodup :=
    d.ingestedMessages.id_nodup.sublist (List.filter_sublist.map _)
  have horders : ∀ k, ((messagesOf (env.at (requests k)) d tenant).map (·.id)).Perm
      ((tenantMessages d tenant).map (·.id)) := fun k => (perm_messagesOf (requests k)).map _
  have hiff := perm_flatMap_pageOf_iff size.2.1 hnodup horders
  rw [List.length_map] at hiff
  unfold PagesPerm
  rw [hiff]
  simp only [List.forall_mem_map]
  rfl

/-- When the pages have every message, so has some page. -/
theorem exists_mem_pageMessages {requests : ℕ → Circumstances} {size : PageSize}
    (h : PagesPerm env d tenant requests size) {message : MessageRow}
    (hmem : message ∈ tenantMessages d tenant) :
    ∃ k < pageCount size.1 (tenantMessages d tenant).length,
      message ∈ pageMessages env d tenant requests size k := by
  obtain ⟨k, hk, hid⟩ := List.mem_flatMap.mp (h.mem_iff.mpr (List.mem_map_of_mem hmem))
  have hpage : message.id ∈ (pageMessages env d tenant requests size k).map (·.id) := by
    unfold pageMessages pageOf
    rw [List.map_take, List.map_drop]
    exact hid
  obtain ⟨other, hother, hsame⟩ := List.mem_map.mp hpage
  have hstored := (List.mem_filter.mp (mem_of_mem_pageMessages hother)).1
  have heq := Table.eq_of_id_eq hstored (List.mem_filter.mp hmem).1 hsame
  exact ⟨k, List.mem_range.mp hk, heq ▸ hother⟩

end

/-- A walk over the pages, with an order of its own for each of them, sees every message of the tenant
once exactly when every message can be shown and none has its place on two pages. A table does not have
2 ^ 53 rows. -/
theorem visitsOnce_iff {env : Surroundings} (hback : ReadsBack env) {d : Database} {tenantId tenant : String}
    (htenant : env.uuid tenantId = some tenant) (hsize : (tenantMessages d tenant).length ≤ 2 ^ 53)
    (requests : ℕ → Circumstances) (size : PageSize) :
    VisitsOnce env d tenantId tenant requests size ↔
      (∀ message ∈ tenantMessages d tenant, Showable env d message) ∧
      ∀ j k, j < pageCount size.1 (tenantMessages d tenant).length →
        k < pageCount size.1 (tenantMessages d tenant).length → j ≠ k →
        ∀ message ∈ tenantMessages d tenant, ¬(pageOn env d tenant size (requests j) message = j ∧
          pageOn env d tenant size (requests k) message = k) := by
  rw [visitsOnce_iff_pagesPerm hback htenant hsize requests size, ← pagesPerm_iff]
  refine and_congr_left fun hperm => ⟨fun h message hmem => ?_, fun h k _ message hmem => ?_⟩
  · obtain ⟨k, hk, hpage⟩ := exists_mem_pageMessages hperm hmem
    exact h k hk message hpage
  · exact h message (mem_of_mem_pageMessages hmem)

/-! ## Two messages on two pages

The second page may be cut out of another order than the first one, and show the same message.
-/

/-- Nothing is stored but two messages of a tenant. -/
def twoMessages : Database :=
  { connectionsOnly none with
    ingestedMessages :=
      ⟨[⟨"row-1", "tenant", "message-1", "mailbox", "gmail", .obj [], 0⟩,
        ⟨"row-2", "tenant", "message-2", "mailbox", "gmail", .obj [], 0⟩], by decide, by decide⟩
    tenant_label := fun _ h => absurd h List.not_mem_nil }

/-- A page with the rows in some order. -/
noncomputable def forwards : Circumstances where
  toRowOrder := .forwards
  now := ⟨0, Date.isInstant_zero⟩

/-- A page with the rows the other way round. -/
noncomputable def backwards : Circumstances where
  toRowOrder := .backwards
  now := ⟨0, Date.isInstant_zero⟩

/-- One message on a page. -/
def onePerPage : PageSize := ⟨1, by decide⟩

/-- Rows that stay in order are all seen. -/
theorem visitsOnce_sameOrder :
    VisitsOnce plainSurroundings twoMessages "tenant" "tenant" (fun _ => backwards) onePerPage := by
  refine (visitsOnce_iff readsBack_plainSurroundings rfl (by decide) _ _).mpr ⟨fun message _ => ?_, ?_⟩
  · exact ⟨rfl, fun _ _ h => by cases h⟩
  · rintro j k - - hne message - ⟨hj, hk⟩
    exact hne (hj.symm.trans hk)

/-- The rows come the other way round for the second page, and the first one comes again. -/
theorem not_visitsOnce_backwards :
    ¬∀ requests : ℕ → Circumstances,
      VisitsOnce plainSurroundings twoMessages "tenant" "tenant" requests onePerPage := by
  intro h
  have hvisits := h fun k => if k = 0 then forwards else backwards
  rw [visitsOnce_iff_pagesPerm readsBack_plainSurroundings rfl (by decide), pagesPerm_iff] at hvisits
  have hperm : (messagesOf plainSurroundings twoMessages "tenant").Perm
      (tenantMessages twoMessages "tenant") := perm_matching _ _ _
  have hlength : (messagesOf plainSurroundings twoMessages "tenant").length = 2 := hperm.length_eq
  have hnodup : ((messagesOf plainSurroundings twoMessages "tenant").map (·.id)).Nodup :=
    (hperm.map _).nodup_iff.mpr (by decide)
  obtain ⟨first, second, horder⟩ := List.length_eq_two.mp hlength
  rw [horder] at hperm hnodup
  have hne : second.id ≠ first.id := by
    simpa [eq_comm] using hnodup
  refine hvisits.2 0 1 (by decide) (by decide) (by decide) first (hperm.mem_iff.mp (by simp)) ⟨?_, ?_⟩
  · have hfirst : pageOn plainSurroundings twoMessages "tenant" onePerPage
        forwards first
        = ((messagesOf plainSurroundings twoMessages "tenant").map (·.id)).idxOf first.id / 1 := rfl
    rw [if_pos rfl, hfirst, horder]
    simp
  · have hsecond : pageOn plainSurroundings twoMessages "tenant" onePerPage backwards first
        = (((messagesOf plainSurroundings twoMessages "tenant").reverse).map (·.id)).idxOf first.id / 1 :=
      rfl
    rw [if_neg (by decide), hsecond, horder]
    simp [hne]

end MessagesController

end EmailTriage.Api
