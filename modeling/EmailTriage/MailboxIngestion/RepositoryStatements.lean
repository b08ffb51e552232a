import EmailTriage.Database.TenantRows

/-!
# The statements of the repositories

What the methods of the two repositories of `src/mailbox-ingestion/infrastructure/repositories` execute
in their transactions. For the owner of the tables, to which no policy applies, the statements on
`mailbox_connections` do what the table does (`exec_update_owner`, `exec_upsert_owner`).

A method here is a program of statements, each of which answers with rows. The pool of connections runs
such programs with the policy of its role, and what tenants see of each other is proved there for any
program of this kind; these are the programs that the application runs.
-/

namespace EmailTriage.MailboxIngestion.Statements

open Db Database MailboxConnectionRepository
open Queue (OutboxRow)

/-- The transactions of the repositories, which return a row or null. -/
abbrev RowProgram := Program TenantRow (Option TenantRow)

def isConnection (p : MailboxConnectionRow → Bool) : TenantRow → Bool
  | .mailboxConnection r => p r
  | _ => false

def isMessage (p : IngestedMessageRow → Bool) : TenantRow → Bool
  | .ingestedMessage r => p r
  | _ => false

/-- A transaction of one statement. -/
def single (s : Statement TenantRow) : RowProgram := .exec s .ret

/-- `domainEventOutbox.create` for each event. -/
def createOutbox (now : ℤ) (tenantId : String) (events : List OutboxEventInput) (rest : RowProgram) :
    RowProgram :=
  match events with
  | [] => rest
  | event :: events =>
    .exec (.create ⟨fun id => .domainEventOutbox (outboxRow id now tenantId event), fun _ => rfl⟩) fun _ =>
      createOutbox now tenantId events rest

/-! ## `MailboxConnectionRepository`

The statements of each method. The filters name the tenant only where the source does.
-/

def findByTenantIdAndMailboxId (tenantId mailboxId platform : String) : RowProgram :=
  single (.findUnique (isConnection fun r => Schema.key r = (tenantId, mailboxId, platform)))

def updateSyncCursor (id cursorValue : String) (now : ℤ) : RowProgram :=
  single (.update (isConnection fun r => r.id = id) (TenantRow.editConnection (cursorData cursorValue now)))

def incrementFailureCount (id : String) : RowProgram :=
  single (.update (isConnection fun r => r.id = id) (TenantRow.editConnection failureData))

/-- `mailboxConnection.upsert`. -/
def upsertConnection (data : MailboxConnectionData) : Statement TenantRow :=
  .upsert (isConnection fun r => Schema.key r = keyOf data) (TenantRow.editConnection (updateData data))
    ⟨fun id => .mailboxConnection (createData id data), fun _ => rfl⟩

def saveConnection (now : ℤ) (data : MailboxConnectionData) (events : List OutboxEventInput) : RowProgram :=
  .exec (upsertConnection data) fun saved => createOutbox now data.tenantId events (.ret saved)

/-! ## `IngestedMessageRepository`

The same for messages: a save looks for the message before it inserts it.
-/

def findByPlatformMessageId (tenantId platformMessageId platform mailboxId : String) : RowProgram :=
  single (.findUnique (isMessage fun r => Schema.key r = (tenantId, platformMessageId, platform, mailboxId)))

def findById (id : String) : RowProgram := single (.findUnique (isMessage fun r => r.id = id))

/-- A message that is there already is returned as it is. -/
def saveMessage (now : ℤ) (data : IngestedMessageData) (events : List OutboxEventInput) : RowProgram :=
  .exec (.findUnique (isMessage fun r => Schema.key r = IngestedMessageRepository.keyOf data))
    fun existing =>
    match existing with
    | some row => .ret (some row)
    | none =>
      .exec (.create ⟨fun id => .ingestedMessage (IngestedMessageRepository.createData id now data),
        fun _ => rfl⟩) fun saved =>
          createOutbox now data.tenantId events (.ret saved)

/-! ## The statements of the owner

Without a policy, an update and an upsert of connections do what the operations on the table do.
-/

/-- The rows of `mailbox_connections`. -/
def connections (rows : List TenantRow) : List MailboxConnectionRow :=
  rows.filterMap fun
    | .mailboxConnection r => some r
    | _ => none

/-- The connections are the rows of their table. -/
theorem mem_connections {rows : List TenantRow} {r : MailboxConnectionRow} :
    r ∈ connections rows ↔ .mailboxConnection r ∈ rows := by
  unfold connections
  rw [List.mem_filterMap]
  constructor
  · rintro ⟨row, hrow, heq⟩
    cases row with
    | mailboxConnection r' => exact Option.some.inj heq ▸ hrow
    | _ => cases heq
  · exact fun h => ⟨_, h, rfl⟩

/-- The first connection that fits is the first row that is one and fits. -/
theorem find_isConnection (p : MailboxConnectionRow → Bool) (rows : List TenantRow) :
    rows.find? (isConnection p) = ((connections rows).find? p).map .mailboxConnection := by
  induction rows with
  | nil => rfl
  | cons row rows ih =>
    cases row with
    | mailboxConnection r =>
      have hcons : connections (.mailboxConnection r :: rows) = r :: connections rows := rfl
      rw [hcons, List.find?_cons, List.find?_cons]
      have hp : isConnection p (.mailboxConnection r) = p r := rfl
      rw [hp, ih]
      cases p r with
      | true => rfl
      | false => rfl
    | _ => exact ih

/-- An edit of the connections leaves the rows of the other tables. -/
theorem connections_edit (p : MailboxConnectionRow → Bool) (f : Patch MailboxConnectionRow)
    (rows : List TenantRow) :
    connections (rows.map fun r =>
      if true && isConnection p r then (TenantRow.editConnection f).apply r else r) =
    (connections rows).map fun r => if p r then f.apply r else r := by
  induction rows with
  | nil => rfl
  | cons row rows ih =>
    cases row with
    | mailboxConnection r =>
      rw [List.map_cons]
      have hp : isConnection p (.mailboxConnection r) = p r := rfl
      have hcons : connections (.mailboxConnection r :: rows) = r :: connections rows := rfl
      rw [hp, hcons, List.map_cons, ← ih]
      cases p r with
      | true => rfl
      | false => rfl
    | _ => exact ih

/-- An edit of connections by the owner of the tables. -/
theorem edit_owner (p : MailboxConnectionRow → Bool) (f : Patch MailboxConnectionRow)
    (rows : List TenantRow) :
    (Statement.edit (fun _ => true) (isConnection p) (TenantRow.editConnection f) rows).map
        (fun x => connections x.2) =
      if (connections rows).any p then some ((connections rows).map fun r => if p r then f.apply r else r)
      else none := by
  unfold Statement.edit
  rw [List.filter_true, find_isConnection]
  rcases hfind : (connections rows).find? p with _ | r
  · have hany : ¬(connections rows).any p = true := by
      rw [List.any_eq_true]
      rintro ⟨r, hr, hp⟩
      exact List.find?_eq_none.mp hfind r hr hp
    rw [if_neg hany]
    rfl
  · have hany : (connections rows).any p = true :=
      List.any_eq_true.mpr ⟨r, List.mem_of_find?_eq_some hfind, List.find?_some hfind⟩
    have hall : rows.all (fun r => !isConnection p r || true) = true :=
      List.all_eq_true.mpr fun _ _ => Bool.or_true _
    rw [if_pos hany, Option.map_some]
    dsimp only
    rw [if_pos hall, Option.map_some]
    exact congrArg some (connections_edit p f rows)

/-- An insertion of a connection by the owner of the tables. -/
theorem insert_owner (t : MailboxConnectionTable) (rows : List TenantRow) (hrows : connections rows = t.rows)
    (r : MailboxConnectionRow) :
    (Statement.insert (fun _ => true) (.mailboxConnection r) rows).map (fun x => connections x.2) =
      (t.create r).map Table.rows := by
  have hclash : rows.all (fun r' => !TenantRow.clash (.mailboxConnection r) r') = true ↔
      (∀ r' ∈ t.rows, Schema.id r' ≠ Schema.id r) ∧ ∀ r' ∈ t.rows, Schema.key r' ≠ Schema.key r := by
    rw [List.all_eq_true, ← hrows]
    constructor
    · intro h
      refine ⟨fun r' hr' hid => ?_, fun r' hr' hkey => ?_⟩
      · have hno := h _ (mem_connections.mp hr')
        unfold TenantRow.clash at hno
        dsimp only at hno
        rw [decide_eq_true (Eq.symm hid : r.id = r'.id)] at hno
        cases hno
      · have hno := h _ (mem_connections.mp hr')
        unfold TenantRow.clash at hno
        dsimp only at hno
        rw [decide_eq_true (Eq.symm hkey : Schema.key r = Schema.key r'), Bool.or_true] at hno
        cases hno
    · rintro ⟨hid, hkey⟩ row hrow
      cases row with
      | mailboxConnection r' =>
        -- a connection clashes with connections only, by its primary key or by its unique columns
        have hr' := mem_connections.mpr hrow
        show (!(decide (r.id = r'.id) || decide (Schema.key r = Schema.key r'))) = true
        have hid' : ¬r.id = r'.id := fun h => hid r' hr' (Eq.symm h)
        have hkey' : ¬Schema.key r = Schema.key r' := fun h => hkey r' hr' (Eq.symm h)
        rw [decide_eq_false hid', decide_eq_false hkey']
        rfl
      | _ => rfl
  have hinsert : Statement.insert (fun _ => true) (.mailboxConnection r) rows =
      if rows.all fun r' => !TenantRow.clash (.mailboxConnection r) r' then
        some (some (.mailboxConnection r), rows ++ [.mailboxConnection r])
      else none := by
    -- the owner of the tables is not checked by a policy, and a connection has no foreign key here
    unfold Statement.insert
    rw [Bool.true_and, Statement.referenced_of_foreignKeys_eq_nil rfl, Bool.and_true]
    rfl
  rw [hinsert]
  unfold Table.create
  split
  · next hall =>
    rw [dif_pos (hclash.mp hall), Option.map_some, Option.map_some]
    unfold connections at hrows ⊢
    rw [List.filterMap_append, hrows]
    rfl
  · next hall =>
    rw [dif_neg fun h => hall (hclash.mpr h)]
    rfl

/-- For the owner of the tables an update of a connection is one of the table. -/
theorem exec_update_owner (t : MailboxConnectionTable) (rows : List TenantRow)
    (hrows : connections rows = t.rows) (id drawn : String) (f : Patch MailboxConnectionRow) :
    ((Statement.update (isConnection fun r => r.id = id) (TenantRow.editConnection f)).exec
      (fun _ => true) drawn rows).map (fun x => connections x.2) = (t.update id f).map Table.rows := by
  simp only [Statement.exec]
  rw [edit_owner, hrows]
  unfold Table.update
  rw [apply_ite (Option.map _)]
  rfl

/-- For the owner of the tables the upsert of `save` is one of the table. -/
theorem exec_upsert_owner (t : MailboxConnectionTable) (rows : List TenantRow)
    (hrows : connections rows = t.rows) (id : String) (data : MailboxConnectionData) :
    ((upsertConnection data).exec (fun _ => true) id rows).map (fun x => connections x.2) =
      (t.upsert (keyOf data) (updateData data) (createData id data)).map Table.rows := by
  have hfound : (rows.filter fun _ => true).any (isConnection fun r => Schema.key r = keyOf data) =
      (t.find (keyOf data)).isSome := by
    rw [List.filter_true, ← List.isSome_find?, find_isConnection, hrows, Option.isSome_map]
    rfl
  unfold upsertConnection Table.upsert
  simp only [Statement.exec]
  rw [hfound]
  by_cases hsome : (t.find (keyOf data)).isSome = true
  · have hany : (t.rows.any fun r => Schema.key r = keyOf data) = true := by
      rw [← List.isSome_find?]
      exact hsome
    rw [if_pos hsome, if_pos hsome, edit_owner, hrows, if_pos hany]
    rfl
  · rw [if_neg hsome, if_neg hsome]
    exact insert_owner t rows hrows _

end EmailTriage.MailboxIngestion.Statements
