import EmailTriage.MailboxIngestion.MailboxConnectionRepository

/-!
# Histories of a mailbox connection

The update branch of `save` writes a default for every optional field that its data leaves out: an
absent cursor becomes null, an absent status active. And `updateSyncCursor` writes whatever value it is
given. `keepsCursors_iff` says which histories move cursors forward only, `keepsFields_iff` which ones
keep the fields that a save does not supply, and a revocation with them.

Both conditions are on what the saves of a history supply. `keepsCursors_step` and `keepsFields_step`
say it of one call, for a row that is stored already, and a history keeps what each of its calls keeps.
That a revoked connection stays revoked is the case of one field, the status.
-/

namespace EmailTriage.MailboxIngestion

open Js Db Runs MailboxConnectionRepository

/-! ## Cursors

What is written to a cursor is not compared with what is stored. So the cursors move forward along a run
exactly if each call supplies one that may follow the stored one.
-/

/-- The value of a cursor column that may follow the one of a row: a cursor stays or moves forward, and
it does not become null. -/
def MayFollow (r : MailboxConnectionRow) (value : Option String) : Prop :=
  ∀ cursor, r.syncCursorValue = some cursor → ∃ cursor', value = some cursor' ∧
    (cursor' = cursor ∨ (SyncCursor.mk r.platform cursor).Forward cursor')

/-- A call keeps the cursors of all stored connections. -/
def KeepsCursors (w : ConnectionStore) (_ : ConnectionCall) (w' : ConnectionStore) : Prop :=
  ∀ r ∈ w.connections.rows, ∃ r', w'.connections.find (Schema.key r) = some r' ∧
    MayFollow r r'.syncCursorValue

/-- Unless its transaction fails, a save of a stored connection and an update of its cursor supply a
value that may follow the one stored. -/
def SuppliesForward (w : ConnectionStore) (c : ConnectionCall) : Prop :=
  c.env.fails = false → match c.op with
    | .save data _ => ∀ r, w.connections.find (keyOf data) = some r →
      MayFollow r (data.syncCursorValue.getD none)
    | .updateSyncCursor id cursorValue => ∀ r ∈ w.connections.rows, r.id = id →
      MayFollow r (some cursorValue)
    | .incrementFailureCount _ => True

/-- A cursor may stay where it is. -/
theorem MayFollow.refl (r : MailboxConnectionRow) : MayFollow r r.syncCursorValue :=
  fun cursor h => ⟨cursor, h, .inl rfl⟩

/-- A call moves cursors forward only, exactly when it supplies such a value. -/
theorem keepsCursors_step (w : ConnectionStore) (c : ConnectionCall) :
    KeepsCursors w c (w.step c) ↔ SuppliesForward w c := by
  -- a call changes each row on its own, so it is a question about one row
  have happly : KeepsCursors w c (w.step c) ↔
      ∀ r ∈ w.connections.rows, MayFollow r (c.applyTo r).syncCursorValue := by
    refine forall₂_congr fun r hr => ?_
    rw [find_step hr]
    simp
  rw [happly]
  unfold SuppliesForward ConnectionCall.applyTo
  rcases c.env.fails with _ | _
  · rcases c.op with ⟨data, events⟩ | ⟨id, cursorValue⟩ | ⟨id⟩ <;> dsimp only
    · constructor
      · intro h _ r hfind
        obtain ⟨hr, hkey⟩ := Table.find_eq_some_iff.mp hfind
        have hr' := h r hr
        rw [if_neg Bool.false_ne_true, if_pos hkey] at hr'
        exact hr'
      · intro h r hr
        rw [if_neg Bool.false_ne_true]
        by_cases hkey : Schema.key r = keyOf data
        · rw [if_pos hkey]
          exact h rfl r (Table.find_eq_some_iff.mpr ⟨hr, hkey⟩)
        · rw [if_neg hkey]
          exact .refl r
    · constructor
      · intro h _ r hr hid
        have hr' := h r hr
        rw [if_neg Bool.false_ne_true, if_pos hid] at hr'
        exact hr'
      · intro h r hr
        rw [if_neg Bool.false_ne_true]
        by_cases hid : r.id = id
        · rw [if_pos hid]
          exact h rfl r hr hid
        · rw [if_neg hid]
          exact .refl r
    · -- a disconnection leaves the cursors alone
      refine iff_of_true (fun r hr => ?_) fun _ => trivial
      rw [if_neg Bool.false_ne_true]
      split
      · exact .refl r
      · exact .refl r
  · refine iff_of_true (fun r hr => ?_) fun h => Bool.noConfusion h
    rw [if_pos rfl]
    exact .refl r

/-- In any history, from any store, cursors move forward only and never become null again, exactly when
every call that takes effect on a connection with a cursor supplies that cursor, or one it may advance
to. -/
theorem keepsCursors_iff (start : ConnectionStore) (calls : List ConnectionCall) :
    let run := exec ConnectionStore.step start calls
    Along KeepsCursors start run ↔ Along (fun w c _ => SuppliesForward w c) start run := by
  intro run
  refine along_iff (I := fun _ => True) ?_ (fun _ _ _ _ _ _ => trivial)
    (along_exec ConnectionStore.step start calls) trivial
  rintro w c w' - rfl
  exact keepsCursors_step w c

/-- A connection that has synchronized up to a history id. -/
def syncedConnection : MailboxConnectionRow where
  id := "connection"
  tenantId := "tenant"
  mailboxId := "mailbox"
  platform := "gmail"
  status := "active"
  watchSubscriptionId := none
  watchExpiresAt := some 100
  syncCursorValue := some "20"
  credentialHandleId := "handle"
  lastWebhookAt := none
  lastSyncAt := none
  syncFailureCount := 0

/-- A stale cursor that arrives late is stored. -/
theorem not_keepsCursors_stale :
    ¬Along KeepsCursors ⟨⟨[syncedConnection], by simp, by simp⟩, []⟩
      (exec ConnectionStore.step ⟨⟨[syncedConnection], by simp, by simp⟩, []⟩
        [⟨.updateSyncCursor "connection" "10", ⟨false, 0, "", fun _ => ""⟩⟩]) := by
  rintro ⟨h, -⟩
  obtain ⟨cursor', hcursor', hforward⟩ :=
    (keepsCursors_step _ _).mp h rfl syncedConnection List.mem_cons_self rfl "20" rfl
  obtain rfl := Option.some.inj hcursor'
  rcases hforward with heq | ⟨hadvance, -⟩
  · revert heq
    decide
  · revert hadvance
    decide

/-! ## Fields a save does not supply

The update branch of `save` writes the default of a field that its data leaves out, so such a field is
kept exactly where it has that default. The count of failures is left alone.
-/

/-- A save keeps the fields of a stored connection that its data does not supply. -/
def KeepsFields (w : ConnectionStore) (c : ConnectionCall) (w' : ConnectionStore) : Prop :=
  match c.op with
  | .save data _ => ∀ r, w.connections.find (keyOf data) = some r →
    ∃ r', w'.connections.find (keyOf data) = some r' ∧
      (data.status = none → r'.status = r.status) ∧
      (data.syncFailureCount = none → r'.syncFailureCount = r.syncFailureCount) ∧
      (data.syncCursorValue = none → r'.syncCursorValue = r.syncCursorValue) ∧
      (data.watchExpiresAt = none → r'.watchExpiresAt = r.watchExpiresAt)
  | _ => True

/-- Unless its transaction fails, a save of a stored connection supplies its status, cursor and watch
expiry, or the one it leaves out is stored with its default. -/
def SuppliesFields (w : ConnectionStore) (c : ConnectionCall) : Prop :=
  c.env.fails = false → match c.op with
    | .save data _ => ∀ r, w.connections.find (keyOf data) = some r →
      (data.status = none → r.status = "active") ∧
      (data.syncCursorValue = none → r.syncCursorValue = none) ∧
      (data.watchExpiresAt = none → r.watchExpiresAt = none)
    | _ => True

/-- A save keeps what it does not supply exactly when that is stored with its default. -/
theorem keepsFields_step (w : ConnectionStore) (c : ConnectionCall) :
    KeepsFields w c (w.step c) ↔ SuppliesFields w c := by
  unfold KeepsFields SuppliesFields
  rcases hop : c.op with ⟨data, events⟩ | ⟨id, cursorValue⟩ | ⟨id⟩ <;> dsimp only
  · have happly : ∀ r, w.connections.find (keyOf data) = some r →
        (w.step c).connections.find (keyOf data)
          = some (if c.env.fails then r else (updateData data).apply r) := by
      intro r hfind
      obtain ⟨hr, hkey⟩ := Table.find_eq_some_iff.mp hfind
      have hstep := find_step hr c
      unfold ConnectionCall.applyTo at hstep
      rw [hop] at hstep
      dsimp only at hstep
      rw [hkey, if_pos rfl] at hstep
      exact hstep
    rcases hfails : c.env.fails with _ | _
    · rw [hfails] at happly
      constructor
      · intro h _ r hfind
        -- an option that the call leaves out writes the default, which has to be what was stored
        obtain ⟨r', hr', hstatus, -, hcursor, hwatch⟩ := h r hfind
        obtain rfl := Option.some.inj ((happly r hfind).symm.trans hr')
        refine ⟨fun hnone => ?_, fun hnone => ?_, fun hnone => ?_⟩
        · rw [← hstatus hnone]
          exact congrArg (Option.getD · "active") hnone
        · rw [← hcursor hnone]
          exact congrArg (Option.getD · none) hnone
        · rw [← hwatch hnone]
          exact congrArg (Option.getD · none) hnone
      · intro h r hfind
        obtain ⟨hstatus, hcursor, hwatch⟩ := h rfl r hfind
        refine ⟨_, happly r hfind, fun hnone => ?_, fun _ => rfl, fun hnone => ?_, fun hnone => ?_⟩
        · rw [hstatus hnone]
          exact congrArg (Option.getD · "active") hnone
        · rw [hcursor hnone]
          exact congrArg (Option.getD · none) hnone
        · rw [hwatch hnone]
          exact congrArg (Option.getD · none) hnone
    · rw [hfails] at happly
      refine iff_of_true (fun r hfind => ?_) fun h => Bool.noConfusion h
      exact ⟨r, happly r hfind, fun _ => rfl, fun _ => rfl, fun _ => rfl, fun _ => rfl⟩
  · -- the other calls supply no fields
    exact iff_of_true trivial fun _ => trivial
  · exact iff_of_true trivial fun _ => trivial

/-- A save that supplies a status. -/
def ConnectionCall.suppliesStatus (c : ConnectionCall) : Bool :=
  match c.op with
  | .save data _ => data.status.isSome
  | _ => false

/-- A call that supplies no status and keeps what it does not supply leaves the status of every stored
connection. -/
theorem status_applyTo {w : ConnectionStore} {c : ConnectionCall}
    (hkeeps : KeepsFields w c (w.step c)) (hstatus : c.suppliesStatus = false)
    {r : MailboxConnectionRow} (hr : r ∈ w.connections.rows) : (c.applyTo r).status = r.status := by
  have hstep := find_step hr c
  unfold KeepsFields at hkeeps
  unfold ConnectionCall.suppliesStatus at hstatus
  unfold ConnectionCall.applyTo at hstep ⊢
  rcases hop : c.op with ⟨data, events⟩ | ⟨id, cursorValue⟩ | ⟨id⟩
  · rw [hop] at hkeeps hstatus hstep
    dsimp only at hkeeps hstatus hstep ⊢
    by_cases hkey : Schema.key r = keyOf data
    · obtain ⟨r', hr', hkept, -⟩ := hkeeps r (Table.find_eq_some_iff.mpr ⟨hr, hkey⟩)
      rw [← hkey, hstep] at hr'
      rw [Option.some.inj hr']
      exact hkept (Option.isSome_eq_false_iff.mp hstatus |> Option.isNone_iff_eq_none.mp)
    · rw [if_neg hkey]
      split
      · rfl
      · rfl
  · dsimp only
    split_ifs <;> rfl
  · dsimp only
    split_ifs <;> rfl

/-- A connection stays revoked in a run that supplies no status and keeps what it does not supply. -/
theorem revoked_final {start : ConnectionStore} {calls : List ConnectionCall}
    (hkeeps : Along KeepsFields start (exec ConnectionStore.step start calls))
    (hstatus : ∀ c ∈ calls, c.suppliesStatus = false) {r : MailboxConnectionRow}
    (hr : r ∈ start.connections.rows) (hrevoked : r.status = "revoked") :
    ∃ r', (calls.foldl ConnectionStore.step start).connections.find (Schema.key r) = some r' ∧
      r'.status = "revoked" := by
  induction calls generalizing start r with
  | nil => exact ⟨r, Table.find_key hr, hrevoked⟩
  | cons c calls ih =>
    obtain ⟨hr', hkey⟩ := Table.find_eq_some_iff.mp (find_step hr c)
    have hkept := status_applyTo hkeeps.1 (hstatus c List.mem_cons_self) hr
    rw [← hkey]
    exact ih hkeeps.2 (fun c' hc' => hstatus c' (List.mem_cons_of_mem c hc')) hr'
      (hkept.trans hrevoked)

/-- In any history, from any store, every save keeps the fields it does not supply exactly when each of
those it leaves out is stored with its default. And then a connection stays revoked as long as no save
supplies a status. -/
theorem keepsFields_iff (start : ConnectionStore) (calls : List ConnectionCall) :
    let run := exec ConnectionStore.step start calls
    (Along KeepsFields start run ↔ Along (fun w c _ => SuppliesFields w c) start run) ∧
      (Along KeepsFields start run → (∀ c ∈ calls, c.suppliesStatus = false) →
        ∀ r ∈ start.connections.rows, r.status = "revoked" →
          ∃ r', (calls.foldl ConnectionStore.step start).connections.find (Schema.key r) = some r' ∧
            r'.status = "revoked") := by
  intro run
  refine ⟨?_, fun hkeeps hstatus r hr hrevoked => revoked_final hkeeps hstatus hr hrevoked⟩
  refine along_iff (I := fun _ => True) ?_ (fun _ _ _ _ _ _ => trivial)
    (along_exec ConnectionStore.step start calls) trivial
  rintro w c w' - rfl
  exact keepsFields_step w c

/-- The renewal of the watch of a revoked connection makes it active. -/
theorem not_keepsFields_renewal :
    let start : ConnectionStore :=
      ⟨⟨[{ syncedConnection with status := "revoked" }], by simp, by simp⟩, []⟩
    let renewal : ConnectionCall :=
      ⟨.save
        { tenantId := "tenant", mailboxId := "mailbox", platform := "gmail"
          credentialHandleId := "handle", watchSubscriptionId := some (some "watch")
          watchExpiresAt := some (some 200) } [], ⟨false, 0, "", fun _ => ""⟩⟩
    ¬Along KeepsFields start (exec ConnectionStore.step start [renewal]) ∧
      (start.step renewal).connections.rows.map MailboxConnectionRow.status = ["active"] := by
  intro start renewal
  refine ⟨?_, by decide⟩
  rintro ⟨h, -⟩
  have hstored := ((keepsFields_step _ _).mp h rfl _ rfl).1 rfl
  revert hstored
  decide

end EmailTriage.MailboxIngestion
