import EmailTriage.Lib.Effect
import EmailTriage.Lib.Table
import EmailTriage.IdentityAccess.MailboxAuthorization

/-!
# Storing mailbox authorizations

`src/identity-access/infrastructure/repositories/mailbox-authorization.repository.ts` over the tables
`mailbox_authorizations`, unique on tenant, user, mailbox and platform, and `consent_grants`. Each
database call may fail; a failed call changes nothing and throws.

`save` clears the events of the aggregate it was given: what it returns is that aggregate as the
caller sees it afterwards.

The rows that a mailbox has may be several, one for each user and platform, and `findFirst` returns one
of them that the database picks. The lemmas here say of each method what it returns for any pick, and
which call of the database it fails at.
-/

namespace EmailTriage.IdentityAccess

open Js Db
open MailboxIngestion (Platform)

/-- A row of `mailbox_authorizations`. -/
structure MailboxAuthorizationRow where
  id : ℕ
  tenantId : String
  userId : String
  mailboxId : String
  platform : Platform
  scopeSet : List String
  consentGrantedAt : ℤ
  lastTokenRefreshedAt : Option ℤ
  credentialHandle : String
  status : AuthorizationStatus

instance : Schema MailboxAuthorizationRow ℕ (String × String × String × Platform) where
  id := MailboxAuthorizationRow.id
  key r := (r.tenantId, r.userId, r.mailboxId, r.platform)

/-- The table `mailbox_authorizations`. -/
abbrev MailboxAuthorizationTable := Table MailboxAuthorizationRow

/-- A row of `consent_grants`. -/
structure ConsentGrantRow where
  mailboxAuthorizationId : ℕ
  scopeSet : List String
  grantedAt : ℤ

/-- The database, the events handed to the emitter with the names they were emitted under, and the
world of the OAuth providers. -/
structure World (σ : Type) where
  authorizations : MailboxAuthorizationTable
  consentGrants : List ConsentGrantRow
  emitted : List (String × DomainEvent)
  providers : σ

variable {σ : Type}

/-- The exception of a database call that fails. -/
def dbError : Exception := .error "database call failed"

/-- A database call. -/
def db {α : Type} (fails : Bool) (call : Effect (World σ) α) : Effect (World σ) α :=
  if fails then throw dbError else call

/-- A call that does not fail is itself. -/
theorem db_false {α : Type} (call : Effect (World σ) α) : db false call = call :=
  if_neg Bool.false_ne_true

/-- A call that fails changes nothing. -/
theorem db_true {α : Type} (call : Effect (World σ) α) (w : World σ) :
    db true call w = .error dbError w := rfl

namespace MailboxAuthorizationRepository

/-- The unique key of an authorization. -/
def keyOf (tenantId : String) (auth : MailboxAuthorization) :
    String × String × String × Platform :=
  (tenantId, auth.userId, auth.mailboxId, auth.platform)

/-- The aggregate of a row; its scopes are validated again. -/
def load (record : MailboxAuthorizationRow) : Except Exception MailboxAuthorization := do
  let scopeSet ← ScopeSet.new record.scopeSet record.platform
  return {
    id := toString record.id
    tenantId := record.tenantId
    userId := record.userId
    mailboxId := record.mailboxId
    platform := record.platform
    scopeSet
    credentialHandle := record.credentialHandle
    consentGrantedAt := record.consentGrantedAt
    status := record.status
    domainEvents := [] }

/-- A row with valid scopes is loaded with its own fields. -/
theorem load_of_validate {record : MailboxAuthorizationRow}
    (h : ScopeSet.validate record.scopeSet record.platform = .ok ()) :
    ∃ auth, load record = .ok auth ∧ keyOf record.tenantId auth = Schema.key record ∧
      auth.platform = record.platform ∧ auth.credentialHandle = record.credentialHandle ∧
      auth.getScopes = record.scopeSet ∧ auth.consentGrantedAt = record.consentGrantedAt ∧
      auth.status = record.status ∧ auth.domainEvents = [] := by
  unfold load
  rw [ScopeSet.new_of_validate h]
  exact ⟨_, rfl, rfl, rfl, rfl, rfl, rfl, rfl, rfl⟩

/-- A row with scopes that are not valid does not load. -/
theorem load_of_validate_error {record : MailboxAuthorizationRow} {e : Exception}
    (h : ScopeSet.validate record.scopeSet record.platform = .error e) : load record = .error e := by
  unfold load
  rw [ScopeSet.new_of_validate_error h]
  rfl

/-- A row loads exactly if its scopes are valid. -/
theorem exists_load_iff {record : MailboxAuthorizationRow} :
    (∃ auth, load record = .ok auth) ↔ ScopeSet.validate record.scopeSet record.platform = .ok () := by
  rcases hvalid : ScopeSet.validate record.scopeSet record.platform with e | ⟨⟩
  · rw [load_of_validate_error hvalid]
    simp
  · obtain ⟨auth, hload, -⟩ := load_of_validate hvalid
    exact iff_of_true ⟨auth, hload⟩ rfl

/-- The columns `save` updates. -/
def updateData (now : ℤ) (auth : MailboxAuthorization) : Patch MailboxAuthorizationRow where
  apply r := { r with status := auth.status, lastTokenRefreshedAt := some now }
  id_apply _ := rfl
  key_apply _ := rfl

/-- The row `save` creates. -/
def createData (id : ℕ) (tenantId : String) (auth : MailboxAuthorization) :
    MailboxAuthorizationRow where
  id := id
  tenantId := tenantId
  userId := auth.userId
  mailboxId := auth.mailboxId
  platform := auth.platform
  scopeSet := auth.getScopes
  consentGrantedAt := auth.consentGrantedAt
  lastTokenRefreshedAt := none
  credentialHandle := auth.credentialHandle
  status := .active

/-- The upsert of `save`. -/
def upsert (now : ℤ) (tenantId : String) (auth : MailboxAuthorization) : Effect (World σ) Unit :=
  fun w =>
    match w.authorizations.upsert (keyOf tenantId auth) (updateData now auth)
      (createData w.authorizations.freshId tenantId auth) with
    | some authorizations => .ok () { w with authorizations }
    | none => .error dbError w

/-- The upsert of `save` succeeds, and sets the row at the key of the authorization. -/
theorem upsert_spec (now : ℤ) (tenantId : String) (auth : MailboxAuthorization) (w : World σ) :
    ∃ t', upsert now tenantId auth w = .ok () { w with authorizations := t' } ∧
      ∀ key, t'.find key = if key = keyOf tenantId auth then
        some (((w.authorizations.find (keyOf tenantId auth)).map (updateData now auth).apply).getD
          (createData w.authorizations.freshId tenantId auth))
        else w.authorizations.find key := by
  have hkey : Schema.key (createData w.authorizations.freshId tenantId auth)
      = keyOf tenantId auth := rfl
  obtain ⟨t', ht', hfind⟩ := Table.find_upsert (updateData now auth) hkey
    fun r hr => Table.ne_freshId hr
  have ht : w.authorizations.upsert (keyOf tenantId auth) (updateData now auth)
      (createData w.authorizations.freshId tenantId auth) = some t' := ht'
  refine ⟨t', ?_, hfind⟩
  unfold upsert
  rw [ht]

/-- `mailboxAuthorization.findUnique` at the key of an authorization. -/
def findUnique (tenantId : String) (auth : MailboxAuthorization) :
    Effect (World σ) (Option MailboxAuthorizationRow) :=
  fun w => .ok (w.authorizations.find (keyOf tenantId auth)) w

/-- `consentGrant.create`. -/
def createConsentGrant (data : ConsentGrantRow) : Effect (World σ) Unit :=
  fun w => .ok () { w with consentGrants := w.consentGrants ++ [data] }

/-- The consent grant of `save`, in two calls, when the aggregate has an event for it. -/
def saveConsentGrant (fails : ℕ → Bool) (now : ℤ) (tenantId : String)
    (auth : MailboxAuthorization) : Effect (World σ) Unit :=
  match auth.domainEvents.find? DomainEvent.isAuthorized with
  | some (.MailboxAuthorizedEvent _ _ _ _ scopes _) => do
    let dbAuth ← db (fails 0) (findUnique tenantId auth)
    match dbAuth with
    | some dbAuth => db (fails 1) (createConsentGrant ⟨dbAuth.id, scopes, now⟩)
    | none => pure ()
  | _ => pure ()

/-- `save`; `fails k` says whether its `k`-th database call fails. -/
def save (fails : ℕ → Bool) (now : ℤ) (tenantId : String) (auth : MailboxAuthorization) :
    Effect (World σ) MailboxAuthorization := do
  db (fails 0) (upsert now tenantId auth)
  saveConsentGrant (fun k => fails (k + 1)) now tenantId auth
  return auth.clearDomainEvents

/-- `findByTenantIdAndMailboxId`; `pick` says which of the matching rows the database answers with. -/
def findByTenantIdAndMailboxId (pick : ℕ) (tenantId mailboxId : String) :
    Effect (World σ) (Option MailboxAuthorization) := do
  let w ← get
  match w.authorizations.findFirst pick fun r => r.tenantId = tenantId && r.mailboxId = mailboxId with
  | none => return none
  | some record =>
    let auth ← MonadExcept.ofExcept (load record)
    return some auth

/-- The result of `findByTenantIdAndMailboxId` once the database has answered. -/
theorem findByTenantIdAndMailboxId_apply (pick : ℕ) (tenantId mailboxId : String) (w : World σ) :
    findByTenantIdAndMailboxId pick tenantId mailboxId w =
      match w.authorizations.findFirst pick
        (fun r => r.tenantId = tenantId && r.mailboxId = mailboxId) with
      | none => .ok none w
      | some record =>
        match load record with
        | .ok auth => .ok (some auth) w
        | .error e => .error e w := by
  unfold findByTenantIdAndMailboxId
  rw [bind_of_ok (x := get) rfl]
  rcases w.authorizations.findFirst pick fun r => r.tenantId = tenantId && r.mailboxId = mailboxId with
    _ | record
  · rfl
  · dsimp only
    rcases load record with e | auth
    · exact bind_of_error (ofExcept_error e w) _
    · exact bind_of_ok (ofExcept_ok auth w) _

/-- The rows of `findByTenantId` and of the update of `revokeAllForTenant`. -/
def isActiveOf (tenantId : String) (r : MailboxAuthorizationRow) : Bool :=
  r.tenantId = tenantId && r.status = .active

def findByTenantId (tenantId : String) : Effect (World σ) (List MailboxAuthorization) := do
  let w ← get
  MonadExcept.ofExcept ((w.authorizations.findMany (isActiveOf tenantId)).mapM load)

/-- The authorizations of a tenant load, or the first one that does not is thrown about. -/
theorem findByTenantId_apply (tenantId : String) (w : World σ) :
    findByTenantId tenantId w = (MonadExcept.ofExcept
      ((w.authorizations.findMany (isActiveOf tenantId)).mapM load) : Effect (World σ) _) w := by
  unfold findByTenantId
  exact bind_of_ok (x := get) rfl _

/-- The update of `revokeAllForTenant`. -/
def revokeData : Patch MailboxAuthorizationRow where
  apply r := { r with status := .revoked }
  id_apply _ := rfl
  key_apply _ := rfl

def revokeAllForTenant (tenantId : String) : Effect (World σ) Unit :=
  modify fun w =>
    { w with authorizations := w.authorizations.updateMany (isActiveOf tenantId) revokeData }

end MailboxAuthorizationRepository

end EmailTriage.IdentityAccess
