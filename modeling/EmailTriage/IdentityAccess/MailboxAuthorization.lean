import EmailTriage.Lib.JsValue
import EmailTriage.MailboxIngestion.MessageEnvelope

/-!
# Mailbox authorizations

`src/identity-access/domain/`: the value object `scope-set.ts`, the two events, and the aggregate
`mailbox-authorization.ts`. A `ScopeSet` is only ever built by its constructor, so it carries the proof
that it passed validation. The aggregate collects the events of its operations.
-/

namespace EmailTriage.IdentityAccess

open Js
open MailboxIngestion (Platform)

/-! ## Scope sets

A scope set lists every scope that its platform needs, and no others. The structure carries the proof, so
that a set that is not valid cannot be built.
-/

namespace ScopeSet

/-- `GMAIL_MIN_SCOPES` and `OUTLOOK_MIN_SCOPES`. -/
def minRequired : Platform → List String
  | .gmail => ["gmail.modify", "gmail.labels"]
  | .outlook => ["Mail.ReadWrite", "MailboxSettings.ReadWrite"]

/-- `validate`: every required scope is there, and no other. -/
def validate (scopes : List String) (platform : Platform) : Except Exception Unit :=
  match (minRequired platform).find? fun required => required ∉ scopes with
  | some required =>
    .error (.error ("Missing required scope for " ++ platform.text ++ ": " ++ required))
  | none =>
    match scopes.find? fun scope => scope ∉ minRequired platform with
    | some scope => .error (.error ("Scope " ++ scope ++ " exceeds minimal required set"))
    | none => .ok ()

/-- Validation passes for the required scopes in any order, and for nothing else. -/
theorem validate_eq_ok_iff {scopes : List String} {platform : Platform} :
    validate scopes platform = .ok () ↔
      ∀ scope, scope ∈ scopes ↔ scope ∈ minRequired platform := by
  unfold validate
  rcases hmissing : (minRequired platform).find? fun required => required ∉ scopes with _ | required
  · have hrequired : ∀ scope ∈ minRequired platform, scope ∈ scopes := by
      simpa using hmissing
    rcases hexceeds : scopes.find? fun scope => scope ∉ minRequired platform with _ | scope
    · have hallowed : ∀ scope ∈ scopes, scope ∈ minRequired platform := by
        simpa using hexceeds
      exact iff_of_true rfl fun scope => ⟨hallowed scope, hrequired scope⟩
    · have hscope : scope ∉ minRequired platform := by simpa using List.find?_some hexceeds
      refine iff_of_false (fun h => by cases h) fun h => ?_
      exact hscope ((h scope).mp (List.mem_of_find?_eq_some hexceeds))
  · have hscope : required ∉ scopes := by simpa using List.find?_some hmissing
    refine iff_of_false (fun h => by cases h) fun h => ?_
    exact hscope ((h required).mpr (List.mem_of_find?_eq_some hmissing))

/-- Valid scopes of one platform are the same scopes. -/
theorem mem_iff_of_validate {scopes scopes' : List String} {platform : Platform}
    (h : validate scopes platform = .ok ())
    (h' : validate scopes' platform = .ok ()) (scope : String) :
    scope ∈ scopes ↔ scope ∈ scopes' := by
  rw [validate_eq_ok_iff.mp h, validate_eq_ok_iff.mp h']

end ScopeSet

/-- The scopes of a platform, validated. -/
structure ScopeSet where
  scopes : List String
  platform : Platform
  valid : ScopeSet.validate scopes platform = .ok ()

namespace ScopeSet

/-- The constructor, as `forGmail` and `forOutlook` call it. -/
def new (scopes : List String) (platform : Platform) : Except Exception ScopeSet :=
  match h : validate scopes platform with
  | .ok () => .ok ⟨scopes, platform, h⟩
  | .error e => .error e

/-- Valid scopes make a scope set. -/
theorem new_of_validate {scopes : List String} {platform : Platform}
    (h : validate scopes platform = .ok ()) : new scopes platform = .ok ⟨scopes, platform, h⟩ := by
  unfold new
  split
  · rfl
  · next e he =>
    rw [h] at he
    cases he

/-- The constructor throws what `validate` throws. -/
theorem new_of_validate_error {scopes : List String} {platform : Platform} {e : Exception}
    (h : validate scopes platform = .error e) : new scopes platform = .error e := by
  unfold new
  split
  · next hok =>
    rw [h] at hok
    cases hok
  · next e' he' =>
    rw [h] at he'
    rw [Except.error.inj he']

def toArray (s : ScopeSet) : List String := s.scopes

end ScopeSet

/-! ## Events

What the aggregate reports.
-/

inductive RevocationReason where
  | user_initiated
  | admin_revoked
  | platform_invalidated
  | tenant_suspended
  | expired
deriving DecidableEq

inductive DomainEvent where
  | MailboxAuthorizedEvent (tenantId userId mailboxId : String) (platform : Platform)
      (scopes : List String) (timestamp : ℤ)
  | MailboxCredentialRevokedEvent (tenantId mailboxId : String) (platform : Platform)
      (reason : RevocationReason) (timestamp : ℤ)
deriving DecidableEq

/-- `event.constructor.name === 'MailboxAuthorizedEvent'`. -/
def DomainEvent.isAuthorized : DomainEvent → Bool
  | .MailboxAuthorizedEvent .. => true
  | .MailboxCredentialRevokedEvent .. => false

/-! ## The aggregate

An authorization is created active. It is revoked once; what is not active cannot be revoked again.
-/

inductive AuthorizationStatus where
  | active
  | revoked
  | expired
deriving DecidableEq

structure MailboxAuthorization where
  id : String
  tenantId : String
  userId : String
  mailboxId : String
  platform : Platform
  scopeSet : ScopeSet
  credentialHandle : String
  consentGrantedAt : ℤ
  status : AuthorizationStatus
  domainEvents : List DomainEvent

namespace MailboxAuthorization

def create (now : ℤ) (tenantId userId mailboxId : String) (platform : Platform)
    (scopes : List String) (credentialHandle : String) :
    Except Exception MailboxAuthorization := do
  let scopeSet ← ScopeSet.new scopes platform
  return {
    id := "auth_" ++ toString now
    tenantId, userId, mailboxId, platform, scopeSet, credentialHandle
    consentGrantedAt := now
    status := .active
    domainEvents := [.MailboxAuthorizedEvent tenantId userId mailboxId platform scopes now] }

/-- A new authorization has what it was created with, and one event. -/
theorem create_of_validate {scopes : List String} {platform : Platform}
    (h : ScopeSet.validate scopes platform = .ok ()) (now : ℤ)
    (tenantId userId mailboxId credentialHandle : String) :
    create now tenantId userId mailboxId platform scopes credentialHandle = .ok {
      id := "auth_" ++ toString now
      tenantId, userId, mailboxId, platform, credentialHandle
      scopeSet := ⟨scopes, platform, h⟩
      consentGrantedAt := now
      status := .active
      domainEvents := [.MailboxAuthorizedEvent tenantId userId mailboxId platform scopes now] } := by
  unfold create
  rw [ScopeSet.new_of_validate h]
  rfl

/-- Scopes that are not valid make no authorization. -/
theorem create_of_validate_error {scopes : List String} {platform : Platform} {e : Exception}
    (h : ScopeSet.validate scopes platform = .error e) (now : ℤ)
    (tenantId userId mailboxId credentialHandle : String) :
    create now tenantId userId mailboxId platform scopes credentialHandle
      = .error e := by
  unfold create
  rw [ScopeSet.new_of_validate_error h]
  rfl

def getScopes (a : MailboxAuthorization) : List String := a.scopeSet.toArray

def revoke (now : ℤ) (a : MailboxAuthorization) (reason : RevocationReason) :
    Except Exception MailboxAuthorization :=
  if a.status ≠ .active then .error (.error "Cannot revoke non-active authorization")
  else .ok { a with
    status := .revoked
    domainEvents := a.domainEvents ++
      [.MailboxCredentialRevokedEvent a.tenantId a.mailboxId a.platform reason now] }

/-- What is not active cannot be revoked. -/
theorem revoke_of_not_active {a : MailboxAuthorization} (h : a.status ≠ .active) (now : ℤ)
    (reason : RevocationReason) :
    a.revoke now reason = .error (.error "Cannot revoke non-active authorization") :=
  if_pos h

def clearDomainEvents (a : MailboxAuthorization) : MailboxAuthorization :=
  { a with domainEvents := [] }

end MailboxAuthorization

end EmailTriage.IdentityAccess
