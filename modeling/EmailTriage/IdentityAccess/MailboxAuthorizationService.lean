import EmailTriage.IdentityAccess.MailboxAuthorizationRepository

/-!
# The authorization service

`src/identity-access/application/mailbox-authorization.service.ts`. The OAuth providers are any two
ports: a revocation there is an effect on their own world, and it may throw.

The operations read the clock and let the database pick rows, so both come in with the `Env` of a call.
`revokeAllForTenant` goes on after a provider has failed, and that exception never reaches its caller.
-/

namespace EmailTriage.IdentityAccess

open Js Db MailboxAuthorizationRepository
open MailboxIngestion (Platform)

/-- `OAuthProviderPort`, with the one method the service needs here. -/
structure OAuthProviderPort (σ : Type) where
  revoke : String → Effect σ Unit

/-- What a call of the service meets: which of its database calls fail, the clock, and the row
`findFirst` answers with. -/
structure Env where
  fails : ℕ → Bool
  now : ℤ
  pick : ℕ

namespace MailboxAuthorizationService

variable {σ : Type} (googleOAuth microsoftOAuth : OAuthProviderPort σ)

/-- The adapter of a platform. -/
def adapterOf : Platform → OAuthProviderPort σ
  | .gmail => googleOAuth
  | .outlook => microsoftOAuth

/-- A call of an adapter. -/
def callAdapter (platform : Platform) (credentialHandle : String) : Effect (World σ) Unit :=
  fun w =>
    match (adapterOf googleOAuth microsoftOAuth platform).revoke credentialHandle w.providers with
    | .ok () providers => .ok () { w with providers }
    | .error e providers => .error e { w with providers }

/-- Hand events to the emitter. -/
def emitAll (name : String) (events : List DomainEvent) : Effect (World σ) Unit :=
  events.forM fun event => modify fun w => { w with emitted := w.emitted ++ [(name, event)] }

def grantConsent (env : Env) (tenantId userId mailboxId : String) (platform : Platform)
    (scopes : List String) (credentialHandle : String) :
    Effect (World σ) MailboxAuthorization := do
  let auth ← MonadExcept.ofExcept
    (MailboxAuthorization.create env.now tenantId userId mailboxId platform scopes credentialHandle)
  let auth ← save env.fails env.now tenantId auth
  emitAll "mailbox.authorized" auth.domainEvents
  return auth

/-- `revoke`, once the authorization is loaded. -/
def revokeLoaded (env : Env) (tenantId : String) (auth : MailboxAuthorization)
    (reason : RevocationReason) : Effect (World σ) Unit := do
  let auth ← MonadExcept.ofExcept (auth.revoke env.now reason)
  callAdapter googleOAuth microsoftOAuth auth.platform auth.credentialHandle
  let auth ← save (fun k => env.fails (k + 1)) env.now tenantId auth
  emitAll "mailbox.credential.revoked" auth.domainEvents

def revoke (env : Env) (tenantId mailboxId : String) (reason : RevocationReason) :
    Effect (World σ) Unit := do
  let auth ← db (env.fails 0) (findByTenantIdAndMailboxId env.pick tenantId mailboxId)
  match auth with
  | none => throw (.error "Authorization not found")
  | some auth => revokeLoaded googleOAuth microsoftOAuth env tenantId auth reason

def revokeAllForTenant (env : Env) (tenantId : String) : Effect (World σ) Unit := do
  let authorizations ← db (env.fails 0) (findByTenantId tenantId)
  authorizations.forM fun auth =>
    -- a failed revocation is logged, and the others go on
    MonadExcept.tryCatch (callAdapter googleOAuth microsoftOAuth auth.platform auth.credentialHandle)
      fun _ => pure ()
  db (env.fails 1) (MailboxAuthorizationRepository.revokeAllForTenant tenantId)

end MailboxAuthorizationService

end EmailTriage.IdentityAccess
