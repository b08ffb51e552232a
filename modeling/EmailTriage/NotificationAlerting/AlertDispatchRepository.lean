import EmailTriage.Lib.Runs
import EmailTriage.Lib.Table
import EmailTriage.NotificationAlerting.AlertDispatch

/-!
# Storing alerts

`src/notification-alerting/infrastructure/repositories/alert-dispatch.repository.ts` over the table
`alert_dispatches` of `prisma/schema.prisma`, whose rows have a generated `id` and a unique
`alert_id`.

`save` and `findById` look the alert's id up in the column `id`, and `save` writes it to `alert_id`.
No column holds a payload, so a row cannot be loaded. `findById_ne_ok_some` and
`findRecentAlertsInCoolDown_eq` say what the two reads can answer.

## Histories

The store gives the alerts back as long as it has none, and `persists_alertStore_iff` says when that
is. A call of `save` throws if the cool-down of its alert ends at no valid date, so the calls of a
history may all have thrown (`alertStore_eq_empty`). Otherwise the first one that did not throw has
left its row behind (`exists_mem_alertStore`), which stays by `save_mono`: the query throws when it is
asked at the end of the window of that row, and `findById` does not find the alert.
-/

namespace EmailTriage.NotificationAlerting

open Js Db Runs

/-- A row of `alert_dispatches`. -/
structure AlertDispatchRow where
  id : String
  tenant_id : String
  user_id : String
  alert_id : String
  category : String
  dispatched_at : ℤ
  cool_down_until : ℤ
  created_at : ℤ
deriving DecidableEq

instance : Schema AlertDispatchRow String String where
  id := AlertDispatchRow.id
  key := AlertDispatchRow.alert_id

/-- The table `alert_dispatches`. -/
abbrev AlertDispatchTable := Table AlertDispatchRow

/-- The record a query returns for a row. -/
def AlertDispatchRow.toRecord (r : AlertDispatchRow) : Value :=
  .obj [("id", .str r.id), ("tenant_id", .str r.tenant_id), ("user_id", .str r.user_id),
    ("alert_id", .str r.alert_id), ("category", .str r.category),
    ("dispatched_at", .date (some r.dispatched_at)),
    ("cool_down_until", .date (some r.cool_down_until)), ("created_at", .date (some r.created_at))]

namespace AlertDispatchRepository

/-- `findFirst({ where: { id } })`. -/
def findFirstById (t : AlertDispatchTable) (id : String) : Option AlertDispatchRow :=
  t.rows.find? fun r => r.id = id

/-- `save`; `none` is an error of the database. A column takes texts and valid dates only. -/
def save (t : AlertDispatchTable) (now : ℤ) (newId : String) (aggregate : AlertDispatch)
    (tenantId : String) : Option AlertDispatchTable := do
  let id ← ofValue aggregate.id.value
  match findFirstById t id with
  | some _ => return t
  | none =>
    let userId ← ofValue aggregate.userId.value
    let category ← ofValue aggregate.eventType.value
    let dispatchedAt ← aggregate.dispatchedAt
    let coolDownUntil ← aggregate.coolDownUntil
    t.create
      { id := newId
        tenant_id := tenantId
        user_id := userId
        alert_id := id
        category := category
        dispatched_at := dispatchedAt
        cool_down_until := coolDownUntil
        created_at := now }

/-- `findById`. -/
def findById (offset : Date.Offset) (t : AlertDispatchTable) (randomUUID : String) (now : ℤ)
    (alertId : String) : Except Exception (Option AlertDispatch) :=
  match findFirstById t alertId with
  | some record => some <$> AlertDispatch.fromDb offset randomUUID now record.toRecord
  | none => .ok none

/-- The rows `findRecentAlertsInCoolDown` asks for. It does not read its last parameter. -/
def inCoolDown (tenantId userId eventType : String) (now : ℤ) (r : AlertDispatchRow) : Bool :=
  r.tenant_id = tenantId ∧ r.user_id = userId ∧ r.category = eventType ∧ now ≤ r.cool_down_until

/-- `findRecentAlertsInCoolDown`. -/
def findRecentAlertsInCoolDown (offset : Date.Offset) (t : AlertDispatchTable) (randomUUID : String)
    (tenantId userId eventType : String) (_coolDownUntil : Date) (now : ℤ) :
    Except Exception (List AlertDispatch) :=
  (t.findMany (inCoolDown tenantId userId eventType now)).mapM fun r =>
    AlertDispatch.fromDb offset randomUUID now r.toRecord

/-! ## What the reads answer

`fromDb` reads the payload of a record, and no column of the table holds one. So no row can be loaded, and
both reads throw as soon as they find a row.
-/

variable {offset : Date.Offset} {t : AlertDispatchTable} {randomUUID : String} {now : ℤ}

/-- No row loads: there is no payload to read. -/
theorem fromDb_toRecord (r : AlertDispatchRow) :
    AlertDispatch.fromDb offset randomUUID now r.toRecord = .error .typeError := by
  refine AlertDispatch.fromDb_of_payload ?_
  simp [AlertDispatchRow.toRecord, Value.isNullish]

/-- `findById` finds no alert, or throws. -/
theorem findById_ne_ok_some (alertId : String) (a : AlertDispatch) :
    findById offset t randomUUID now alertId ≠ .ok (some a) := by
  intro h
  unfold findById at h
  split at h
  · rw [fromDb_toRecord] at h
    cases h
  · cases h

/-- `findRecentAlertsInCoolDown` returns no alert, and throws as soon as there is one to return. -/
theorem findRecentAlertsInCoolDown_eq (tenantId userId eventType : String) (coolDownUntil : Date) :
    findRecentAlertsInCoolDown offset t randomUUID tenantId userId eventType coolDownUntil now =
      if t.rows.any (inCoolDown tenantId userId eventType now) then .error .typeError
      else .ok [] := by
  unfold findRecentAlertsInCoolDown Table.findMany
  rcases hrows : t.rows.filter (inCoolDown tenantId userId eventType now) with _ | ⟨r, rs⟩
  · rw [if_neg]
    · rfl
    · simpa [List.filter_eq_nil_iff] using hrows
  · have hr : r ∈ t.rows.filter (inCoolDown tenantId userId eventType now) := by simp [hrows]
    rw [if_pos (List.any_eq_true.mpr ⟨r, List.mem_filter.mp hr⟩), List.mapM_cons, fromDb_toRecord]
    rfl

/-! ## Histories

Any saves, of which some may fail. The reads answer as they should exactly where they have no row to read.
-/

/-- A call of `save` for a new alert: what the alert is made of, and the tenant, id and clock of the
call. -/
structure AlertSave where
  id : String
  userId : String
  eventType : String
  payload : AlertPayload
  channel : Dyn Channel
  status : Dyn AlertStatus
  coolDownMinutes : Double
  dispatchedAt : Date.Instant
  tenantId : String
  newId : String
  now : ℤ

/-- The alert a call saves. -/
def AlertSave.alert (offset : Date.Offset) (s : AlertSave) : AlertDispatch :=
  .new offset (.of s.tenantId) (.of s.userId) (.of s.eventType) s.payload s.channel s.coolDownMinutes
    .undefined s.status.value (.date (some s.dispatchedAt.1)) s.id s.now

/-- The table after some calls, with those that returned. -/
structure AlertStore where
  table : AlertDispatchTable
  saved : List AlertSave

/-- One call; one that throws changes nothing. -/
def AlertStore.save (offset : Date.Offset) (h : AlertStore) (s : AlertSave) : AlertStore :=
  match AlertDispatchRepository.save h.table s.now s.newId (s.alert offset) s.tenantId with
  | some t => ⟨t, h.saved ++ [s]⟩
  | none => h

/-- The store after a sequence of calls. -/
def alertStore (offset : Date.Offset) (saves : List AlertSave) : AlertStore :=
  saves.foldl (AlertStore.save offset) ⟨.empty, []⟩

/-- `findRecentAlertsInCoolDown` returns, without throwing, the saved alerts of the tenant, user and
type whose window has not ended. -/
def AnswersRecent (offset : Date.Offset) (h : AlertStore) : Prop :=
  ∀ randomUUID tenantId userId eventType coolDownUntil now, ∃ found,
    findRecentAlertsInCoolDown offset h.table randomUUID tenantId userId eventType coolDownUntil now =
        .ok found ∧
      ∀ a, a ∈ found ↔ ∃ s ∈ h.saved, a = s.alert offset ∧ s.tenantId = tenantId ∧ s.userId = userId ∧
        s.eventType = eventType ∧ (s.alert offset).isInCoolDown now = true

/-- `findById` returns every saved alert. -/
def AnswersById (offset : Date.Offset) (h : AlertStore) : Prop :=
  ∀ randomUUID now, ∀ s ∈ h.saved,
    findById offset h.table randomUUID now s.id = .ok (some (s.alert offset))

/-- The store gives back the alerts that were saved, and has one row for each. -/
structure Persists (offset : Date.Offset) (h : AlertStore) : Prop where
  recent : AnswersRecent offset h
  byId : AnswersById offset h
  once : ∀ s ∈ h.saved, (h.table.findMany fun r => r.alert_id = s.id).length = 1

/-- A call inserts the row of its alert, unless some row has the alert's id as its own. It throws if the
cool-down ends at no date. -/
theorem save_alert (t : AlertDispatchTable) (s : AlertSave) :
    save t s.now s.newId (s.alert offset) s.tenantId =
      match findFirstById t s.id with
      | some _ => some t
      | none => (s.alert offset).coolDownUntil.bind fun coolDownUntil =>
          t.create ⟨s.newId, s.tenantId, s.userId, s.id, s.eventType, s.dispatchedAt.1, coolDownUntil,
            s.now⟩ := rfl

/-- A stored alert is not saved again: its row has another id, and `alert_id` is taken. -/
theorem save_again {s : AlertSave} {r : AlertDispatchRow} (hr : t.find s.id = some r)
    (hid : ∀ r ∈ t.rows, r.id ≠ s.id) : save t s.now s.newId (s.alert offset) s.tenantId = none := by
  have hnone : findFirstById t s.id = none := List.find?_eq_none.mpr (by simpa using hid)
  rw [save_alert, hnone]
  obtain ⟨hmem, hkey⟩ := Table.find_eq_some_iff.mp hr
  rcases (s.alert offset).coolDownUntil with _ | coolDownUntil
  · rfl
  · exact dif_neg fun hnew => hnew.2 r hmem hkey

/-- What is stored stays, and so does the list of the calls that returned. -/
theorem save_mono (h : AlertStore) (s : AlertSave) :
    h.table.rows <+: (h.save offset s).table.rows ∧ h.saved <+: (h.save offset s).saved := by
  unfold AlertStore.save
  rw [save_alert]
  rcases findFirstById h.table s.id with _ | r
  · dsimp only
    split
    · next t' ht' =>
      obtain ⟨coolDownUntil, -, hcreate⟩ := Option.bind_eq_some_iff.mp ht'
      rw [Table.rows_create hcreate]
      exact ⟨List.prefix_append _ _, List.prefix_append _ _⟩
    · exact ⟨List.prefix_rfl, List.prefix_rfl⟩
  · exact ⟨List.prefix_rfl, List.prefix_append _ _⟩

/-- At an empty table a call throws if the cool-down of its alert ends at no date. -/
theorem save_empty_of_none {s : AlertSave} (h : (s.alert offset).coolDownUntil = none) :
    AlertStore.save offset ⟨.empty, []⟩ s = ⟨.empty, []⟩ := by
  unfold AlertStore.save
  rw [save_alert, h]
  rfl

/-- Otherwise it returns, and leaves a row. -/
theorem save_empty_of_some {s : AlertSave} {coolDownUntil : ℤ}
    (h : (s.alert offset).coolDownUntil = some coolDownUntil) :
    ∃ r, r ∈ (AlertStore.save offset ⟨.empty, []⟩ s).table.rows ∧
      s ∈ (AlertStore.save offset ⟨.empty, []⟩ s).saved := by
  unfold AlertStore.save
  rw [save_alert, h]
  exact ⟨_, List.mem_cons_self, List.mem_cons_self⟩

/-- Calls that all throw leave the empty table. -/
theorem alertStore_eq_empty {saves : List AlertSave}
    (h : ∀ s ∈ saves, (s.alert offset).coolDownUntil = none) :
    alertStore offset saves = ⟨.empty, []⟩ := by
  unfold alertStore
  induction saves with
  | nil => rfl
  | cons s saves ih =>
    rw [List.foldl_cons, save_empty_of_none (h s List.mem_cons_self)]
    exact ih fun s' hs' => h s' (List.mem_cons_of_mem s hs')

/-- If the cool-down of some alert ends at a date, then there is a row, and a call that returned: the
first one of such an alert, at an empty table. -/
theorem exists_mem_alertStore {saves : List AlertSave} {s : AlertSave} (hs : s ∈ saves)
    (hend : (s.alert offset).coolDownUntil ≠ none) :
    (∃ r, r ∈ (alertStore offset saves).table.rows) ∧ ∃ s, s ∈ (alertStore offset saves).saved := by
  unfold alertStore
  induction saves with
  | nil => cases hs
  | cons s' saves ih =>
    rw [List.foldl_cons]
    rcases hend' : (s'.alert offset).coolDownUntil with _ | coolDownUntil
    · rw [save_empty_of_none hend']
      rcases List.mem_cons.mp hs with rfl | hs
      · exact absurd hend' hend
      · exact ih hs
    · have hmono : ∀ h₀ : AlertStore,
          h₀.table.rows <+: (saves.foldl (AlertStore.save offset) h₀).table.rows ∧
            h₀.saved <+: (saves.foldl (AlertStore.save offset) h₀).saved := by
        intro h₀
        refine foldl_invariant (I := fun h : AlertStore =>
            h₀.table.rows <+: h.table.rows ∧ h₀.saved <+: h.saved)
          (fun h s hh => ?_) ⟨List.prefix_rfl, List.prefix_rfl⟩ saves
        obtain ⟨hrows, hsaved⟩ := save_mono h s
        exact ⟨hh.1.trans hrows, hh.2.trans hsaved⟩
      obtain ⟨hrows, hsaved⟩ := hmono (AlertStore.save offset ⟨.empty, []⟩ s')
      obtain ⟨r, hr, hs'⟩ := save_empty_of_some hend'
      exact ⟨⟨r, hrows.subset hr⟩, ⟨s', hsaved.subset hs'⟩⟩

/-- The store gives the alerts back exactly as long as every call has thrown, because the cool-down of
its alert ends at no date; in particular as long as there was no call. -/
theorem persists_alertStore_iff (offset : Date.Offset) (saves : List AlertSave) :
    Persists offset (alertStore offset saves) ↔ ∀ s ∈ saves, (s.alert offset).coolDownUntil = none := by
  constructor
  · intro h s hs
    by_contra hend
    obtain ⟨-, s', hs'⟩ := exists_mem_alertStore hs hend
    exact findById_ne_ok_some s'.id (s'.alert offset) (h.byId "" 0 s' hs')
  · intro h
    rw [alertStore_eq_empty h]
    refine ⟨?_, ?_, ?_⟩
    · intro randomUUID tenantId userId eventType coolDownUntil now
      refine ⟨[], rfl, fun a => ?_⟩
      simp
    · intro randomUUID now s hs
      simp at hs
    · intro s hs
      simp at hs

/-- Not only `findById` fails then: the query throws in the window of a row. -/
theorem not_answersRecent {saves : List AlertSave} {s : AlertSave} (hs : s ∈ saves)
    (hend : (s.alert offset).coolDownUntil ≠ none) : ¬AnswersRecent offset (alertStore offset saves) := by
  intro h
  obtain ⟨⟨r, hr⟩, -⟩ := exists_mem_alertStore hs hend
  -- asked for at the end of its own window, the row is in the answer
  obtain ⟨found, hfound, -⟩ := h "" r.tenant_id r.user_id r.category none r.cool_down_until
  rw [findRecentAlertsInCoolDown_eq, if_pos] at hfound
  · cases hfound
  · exact List.any_eq_true.mpr ⟨r, hr, by simp [inCoolDown]⟩

/-- An alert with the default cool-down, and the call that saves it. -/
def firstSave : AlertSave :=
  ⟨"alert-1", "user-1", "message_quarantined", ⟨.of "message_quarantined", .of "summary", ⟨.str "critical"⟩⟩,
    ⟨.str "push"⟩, ⟨.str "pending"⟩, .finite 15, ⟨0, by decide⟩, "tenant-1", "row-1", 0⟩

/-- One alert, saved once. -/
theorem not_persists_alertStore : ¬ Persists ⟨0, by decide⟩ (alertStore ⟨0, by decide⟩ [firstSave]) := by
  intro h
  have hend : (firstSave.alert ⟨0, by decide⟩).coolDownUntil ≠ none := by decide +kernel
  obtain ⟨-, s, hs⟩ := exists_mem_alertStore List.mem_cons_self hend
  exact findById_ne_ok_some _ _ (h.byId "" 0 s hs)

end AlertDispatchRepository

end EmailTriage.NotificationAlerting
