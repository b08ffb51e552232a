import EmailTriage.Lib.Codec
import EmailTriage.Lib.Table
import EmailTriage.MailboxWriteback.MessageWriteBackState

/-!
# Storing write-back states

`src/mailbox-writeback/infrastructure/repositories/message-writeback-state.repository.ts` over the table
`message_write_back_states`, whose rows are unique on tenant, mailbox and message. The facets of a
message are one JSON column, read and written as a whole.

`facetAt` reads the stored record of a facet. `save_spec` and `findOrCreate_spec` say what the
repository does to it.

A save writes all facets of the state it is given, whoever recorded them. Where no state of the message
is stored, `findOrCreateByMessageId` saves an empty one first, so a call for a new message saves twice.
-/

namespace EmailTriage.MailboxWriteback

open Js Db

/-- A row of `message_write_back_states`. -/
structure MessageWriteBackStateRow where
  id : ℕ
  tenant_id : String
  mailbox_id : String
  message_id : String
  facets : Facets

instance : Schema MessageWriteBackStateRow ℕ (String × String × String) where
  id := MessageWriteBackStateRow.id
  key r := (r.tenant_id, r.mailbox_id, r.message_id)

/-- The table `message_write_back_states`. -/
abbrev MessageWriteBackStateTable := Table MessageWriteBackStateRow

/-- What `fromDb` makes of the record that `toDb` wrote to the column. -/
def FacetApplication.stored (column : Jsonb) (f : FacetApplication) : FacetApplication :=
  { f with
    desiredValue := column.stored f.desiredValue
    lastKnownPlatformState := column.stored f.lastKnownPlatformState }

/-- The facets as they come back from the column. -/
def Facets.stored (column : Jsonb) (facets : Facets) : Facets := fun facetType =>
  (facets facetType).map (·.stored column)

/-- What is read back from the column is stored as it is. -/
theorem FacetApplication.stored_stored (column : Jsonb) (f : FacetApplication) :
    (f.stored column).stored column = f.stored column := by
  simp only [stored, column.stored_stored]

namespace MessageWriteBackStateRepository

variable (column : Jsonb)

/-- The first call of `save`: the id of the row that is there. -/
def findExisting (t : MessageWriteBackStateTable) (tenantId : String) (a : MessageWriteBackState) :
    Option ℕ :=
  (t.find (tenantId, a.mailboxId, a.messageId)).map (·.id)

/-- The columns `save` updates. -/
def updateData (a : MessageWriteBackState) : Patch MessageWriteBackStateRow where
  apply r := { r with facets := a.facets.stored column }
  id_apply _ := rfl
  key_apply _ := rfl

/-- The row `save` creates. -/
def createData (t : MessageWriteBackStateTable) (tenantId : String) (a : MessageWriteBackState) :
    MessageWriteBackStateRow :=
  ⟨t.freshId, tenantId, a.mailboxId, a.messageId, a.facets.stored column⟩

/-- The second call of `save`; `none` is a database error. -/
def write (t : MessageWriteBackStateTable) (tenantId : String) (a : MessageWriteBackState) :
    (existing : Option ℕ) → Option MessageWriteBackStateTable
  | some id => t.update id (updateData column a)
  | none => t.create (createData column t tenantId a)

/-- `save`. -/
def save (t : MessageWriteBackStateTable) (a : MessageWriteBackState) (tenantId : String) :
    Option MessageWriteBackStateTable :=
  write column t tenantId a (findExisting t tenantId a)

def findByMessageId (t : MessageWriteBackStateTable) (tenantId mailboxId messageId : String) :
    Option MessageWriteBackState :=
  (t.find (tenantId, mailboxId, messageId)).map fun record =>
    .new record.tenant_id record.mailbox_id record.message_id record.facets

def findOrCreateByMessageId (t : MessageWriteBackStateTable)
    (tenantId mailboxId messageId : String) :
    Option (MessageWriteBackStateTable × MessageWriteBackState) :=
  match findByMessageId t tenantId mailboxId messageId with
  | some existing => some (t, existing)
  | none =>
    let agg := MessageWriteBackState.create tenantId mailboxId messageId
    (save column t agg tenantId).map fun t' => (t', agg)

/-! ## What the calls do to the stored records

A save changes the facets at one key, and `findOrCreate` creates a record without facets.
-/

/-- The stored record of a facet of a message. -/
def facetAt (t : MessageWriteBackStateTable) (key : String × String × String)
    (facetType : FacetType) : Option FacetApplication :=
  (t.find key).bind fun r => r.facets facetType

variable {column}

/-- The write of the repository is the one of a table. -/
theorem write_eq (t : MessageWriteBackStateTable) (tenantId : String) (a : MessageWriteBackState)
    (existing : Option ℕ) : write column t tenantId a existing
      = t.write existing (updateData column a) (createData column t tenantId a) := by
  cases existing with
  | none => rfl
  | some id => rfl

/-- A write that succeeds stores the facets of the aggregate under its key. -/
theorem find_write {t t' : MessageWriteBackStateTable} {tenantId : String}
    {a : MessageWriteBackState} {existing : Option ℕ}
    (hfound : t.Found (tenantId, a.mailboxId, a.messageId) existing)
    (h : write column t tenantId a existing = some t') :
    ∃ r, t'.find (tenantId, a.mailboxId, a.messageId) = some r ∧
      r.facets = a.facets.stored column := by
  rw [write_eq] at h
  obtain ⟨⟨r, hr, hrow⟩, -⟩ := Table.find_write rfl hfound h
  refine ⟨r, hr, ?_⟩
  rcases hrow with rfl | ⟨r₀, rfl⟩
  · rfl
  · rfl

/-- `save` writes to the row it looks up. -/
theorem found_findExisting (t : MessageWriteBackStateTable) (tenantId : String)
    (a : MessageWriteBackState) :
    t.Found (tenantId, a.mailboxId, a.messageId) (findExisting t tenantId a) :=
  Table.found_find t (tenantId, a.mailboxId, a.messageId)

/-- `save` never fails, and stores the facets of the aggregate. -/
theorem save_spec (t : MessageWriteBackStateTable) (a : MessageWriteBackState)
    (tenantId : String) :
    ∃ t', save column t a tenantId = some t' ∧ ∀ facetType,
      facetAt t' (tenantId, a.mailboxId, a.messageId) facetType =
        (a.facets facetType).map (·.stored column) := by
  have hfound := found_findExisting t tenantId a
  obtain ⟨t', ht'⟩ : ∃ t', save column t a tenantId = some t' := by
    unfold save
    rw [write_eq]
    rcases hexisting : findExisting t tenantId a with _ | id
    · have hfresh : ∀ r' ∈ t.rows, Schema.id r' ≠ Schema.id (createData column t tenantId a) :=
        fun r' hr' => Table.ne_freshId hr'
      exact Table.exists_create hfresh (Option.map_eq_none_iff.mp hexisting)
    · rw [hexisting] at hfound
      exact Table.exists_write_of_found hfound _ _
  obtain ⟨r, hr, hfacets⟩ := find_write hfound ht'
  refine ⟨t', ht', fun facetType => ?_⟩
  unfold facetAt
  rw [hr, Option.bind_some, hfacets]
  rfl

/-- `findOrCreateByMessageId` never fails; it changes no stored record and returns the aggregate of
the stored records, without events. -/
theorem findOrCreate_spec (t : MessageWriteBackStateTable)
    (tenantId mailboxId messageId : String) :
    ∃ t' a, findOrCreateByMessageId column t tenantId mailboxId messageId = some (t', a) ∧
      a.tenantId = tenantId ∧ a.mailboxId = mailboxId ∧ a.messageId = messageId ∧
      a.domainEvents = [] ∧
      a.facets = facetAt t (tenantId, mailboxId, messageId) ∧
      facetAt t' (tenantId, mailboxId, messageId) = facetAt t (tenantId, mailboxId, messageId) := by
  unfold findOrCreateByMessageId findByMessageId
  rcases hfind : t.find (tenantId, mailboxId, messageId) with _ | r
  · obtain ⟨t', ht', hfacets⟩ :=
      @save_spec column t (.create tenantId mailboxId messageId) tenantId
    have hnone : facetAt t (tenantId, mailboxId, messageId) = fun _ => none := by
      unfold facetAt
      rw [hfind]
      rfl
    rw [hnone]
    refine ⟨t', .create tenantId mailboxId messageId, ?_, rfl, rfl, rfl, rfl, rfl, ?_⟩
    · simp only [Option.map_none, ht', Option.map_some]
    · funext facetType
      exact hfacets facetType
  · have hkey := (Table.find_eq_some_iff.mp hfind).2
    simp only [Schema.key, Prod.mk.injEq] at hkey
    refine ⟨t, _, rfl, hkey.1, hkey.2.1, hkey.2.2, rfl, ?_, rfl⟩
    unfold facetAt
    rw [hfind]
    rfl

end MessageWriteBackStateRepository

end EmailTriage.MailboxWriteback
