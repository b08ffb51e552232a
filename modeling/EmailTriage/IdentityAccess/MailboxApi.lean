import EmailTriage.Lib.Doubles
import EmailTriage.IdentityAccess.OAuthState
import EmailTriage.IdentityAccess.AuthorizationHistories

/-!
# Mailboxes over the API

The requests of `src/identity-access/presentation/`, with `exchangeCode` and `refreshToken` of the
adapters and the suspension of a tenant beside them; each is one step of a run. The ids of tenants and
users are UUIDs as the database writes them, so that comparing them is comparing texts, and a callback
is for Gmail or for Outlook.

The callback stores a credential handle of its own making, `vault_ref_` and the time, and the vault
never draws such a handle: it draws `vault_`, the time and a random number. So no mailbox that came in
over the API has a secret, and its revocation is refused every time (`revocation_refused`).

## The shape of the argument

`OfCallbacks` is kept by every request: each stored row has a handle of a callback, and the vault has
none of these. Revoking such a row and refreshing its token are refused, so that four things are left
that a request can do to the service (`apiStep_cases`). Which consent a row is listed with is an
invariant of its own: a callback reads the clock three times, the row keeps the time of the first
callback that stored it, and a later one in the same millisecond finds it there
(`consentOf_afterRequests`).
-/

namespace EmailTriage.IdentityAccess

open Js Db Runs MailboxAuthorizationRepository MailboxAuthorizationService MockSecretsVaultAdapter
open MailboxIngestion (Platform)

/-! ## The adapters

The exchange of a code draws a handle for the secret that it stores, and a refresh only looks the
secret up. Both go through the vault, which may fail.
-/

/-- The variables of an OAuth client; one that is not set is empty. -/
structure OAuthConfig where
  clientId : String
  clientSecret : String
  redirectUri : String

/-- What an exchange meets: whether the vault fails, the three readings of the clock, and the number the
vault draws. -/
structure ExchangeEnv where
  config : OAuthConfig
  vaultFails : Bool
  tokenTime : ℤ
  storeTime : ℤ
  mailboxTime : ℤ
  random : String

/-- The handle that `store` of the vault draws. -/
def MockSecretsVaultAdapter.drawHandle (now : ℤ) (random : String) : String :=
  "vault_" ++ toString now ++ "_" ++ random

/-- `exchangeCode` of both adapters: the handle of the credential, and the mailbox. -/
def exchangeCredential (missing mailboxPrefix : String) (env : ExchangeEnv) :
    Effect Vault (String × String) := do
  if env.config.clientId = "" || env.config.clientSecret = "" || env.config.redirectUri = "" then
    throw (.error missing)
  else
    let credentialHandle := drawHandle env.storeTime env.random
    vaultCall env.vaultFails
      (modify (store credentialHandle ("refresh_token_" ++ toString env.tokenTime)))
    return (credentialHandle, mailboxPrefix ++ toString env.mailboxTime)

def GoogleOAuthAdapter.exchangeCode : ExchangeEnv → Effect Vault (String × String) :=
  exchangeCredential "Google OAuth configuration missing" "google_"

def MicrosoftOAuthAdapter.exchangeCode : ExchangeEnv → Effect Vault (String × String) :=
  exchangeCredential "Microsoft OAuth configuration missing" "outlook_"

/-- `refreshToken` of both adapters. -/
def refreshCredential (fails : ℕ → Bool) (credentialHandle : String) : Effect Vault Unit := do
  let refreshToken ← vaultCall (fails 0) (retrieve credentialHandle)
  if refreshToken = "" then throw (.error "Invalid credential handle") else pure ()

/-- A call of an adapter, on its part of the world. -/
def onProviders {σ α : Type} (call : Effect σ α) : Effect (World σ) α := fun w =>
  match call w.providers with
  | .ok a providers => .ok a { w with providers }
  | .error e providers => .error e { w with providers }

/-- `refreshToken` of the service. -/
def MailboxAuthorizationService.refreshToken (vaultFails : String → ℕ → Bool) (env : Env)
    (tenantId mailboxId : String) : Effect (World Vault) Unit := do
  let auth ← db (env.fails 0) (findByTenantIdAndMailboxId env.pick tenantId mailboxId)
  match auth with
  | none => throw (.error "Authorization not found")
  | some auth => onProviders (refreshCredential (vaultFails auth.credentialHandle) auth.credentialHandle)

/-! ## The controllers

The routes that list, connect, refresh and revoke the mailboxes of a tenant. A request is one step here,
with the times that its clock is read at.
-/

/-- An entry of the list of mailboxes. -/
structure MailboxEntry where
  mailboxId : String
  platform : Platform
  status : AuthorizationStatus
  scopes : List String
  consentGrantedAt : ℤ

namespace MailboxController

def listMailboxes {σ : Type} (env : Env) (tenantId : RequestTenant) :
    Effect (World σ) (List MailboxEntry) := do
  let authorizations ← db (env.fails 0) (findByTenantId tenantId.text)
  return authorizations.map fun auth =>
    { mailboxId := auth.mailboxId
      platform := auth.platform
      status := auth.status
      scopes := auth.getScopes
      consentGrantedAt := auth.consentGrantedAt }

/-- `revokeMailbox`: the status it answers with. -/
def revokeMailbox (vaultFails : String → ℕ → Bool) (env : Env) (tenantId : RequestTenant)
    (mailboxId : String) : Effect (World Vault) String := do
  revoke (GoogleOAuthAdapter vaultFails) (MicrosoftOAuthAdapter vaultFails) env tenantId.text mailboxId
    .user_initiated
  return "revoked"

end MailboxController

open MailboxController OAuthController

/-- A request, an exchange of a code, a refresh or a suspension. -/
inductive ApiRequest where
  | handleCallback (tenantId : RequestTenant) (userId : String) (body : CallbackBody)
    (mailboxTime handleTime : ℤ)
  | revokeMailbox (tenantId : RequestTenant) (mailboxId : String)
  | refreshToken (tenantId mailboxId : String)
  | revokeAllForTenant (tenantId : String)
  | exchangeCode (platform : Platform) (exchange : ExchangeEnv)

/-- A request, with what it meets. -/
structure ApiCall where
  request : ApiRequest
  env : Env
  vaultFails : String → ℕ → Bool

/-- The world a request leaves. -/
def apiStep (w : World Vault) (c : ApiCall) : World Vault :=
  match c.request with
  | .handleCallback tenantId userId body mailboxTime handleTime =>
    after (handleCallback ⟨c.env, mailboxTime, handleTime⟩ tenantId userId body) w
  | .revokeMailbox tenantId mailboxId => after (revokeMailbox c.vaultFails c.env tenantId mailboxId) w
  | .refreshToken tenantId mailboxId => after (refreshToken c.vaultFails c.env tenantId mailboxId) w
  | .revokeAllForTenant tenantId =>
    after (MailboxAuthorizationService.revokeAllForTenant (GoogleOAuthAdapter c.vaultFails)
      (MicrosoftOAuthAdapter c.vaultFails) c.env tenantId) w
  | .exchangeCode .gmail exchange => after (onProviders (GoogleOAuthAdapter.exchangeCode exchange)) w
  | .exchangeCode .outlook exchange => after (onProviders (MicrosoftOAuthAdapter.exchangeCode exchange)) w

/-- The service before its first request. -/
def noMailboxes : World Vault := ⟨Table.empty, [], [], fun _ => none⟩

/-- The service after some requests. -/
def afterRequests (calls : List ApiCall) : World Vault := calls.foldl apiStep noMailboxes

/-! ## Handles

The callback makes up a handle from its clock. It never looks like one that the vault has drawn.
-/

/-- The handle a callback makes up. -/
def callbackHandle (now : ℤ) : String := "vault_ref_" ++ toString now

/-- The id that a callback gives a mailbox. -/
def callbackMailbox (now : ℤ) : String := "mailbox_" ++ toString now

/-- The vault draws no handle that a callback makes up. -/
theorem drawHandle_ne_callbackHandle (now now' : ℤ) (random : String) :
    drawHandle now random ≠ callbackHandle now' := by
  intro h
  obtain ⟨c, cs, hcs, hfirst⟩ := exists_toList_toString now
  have htext := congrArg String.toList h
  unfold drawHandle callbackHandle at htext
  simp only [String.toList_append, hcs, List.append_assoc, List.cons_append] at htext
  -- after `vault_` comes a digit or a minus sign on one side and `ref_` on the other
  have hc : c = 'r' := by
    have hsplit : "vault_ref_".toList = "vault_".toList ++ "ref_".toList := by decide
    rw [hsplit, List.append_assoc] at htext
    exact (List.cons.inj (List.append_cancel_left htext)).1
  rw [hc] at hfirst
  revert hfirst
  decide

/-! ## Calls that are refused

A revocation whose adapter refuses throws before anything is written, and a suspension goes on to the next
row.
-/

section

variable {σ : Type} {googleOAuth microsoftOAuth : OAuthProviderPort σ}

/-- What the lookup of a mailbox answers with comes from a stored row. -/
theorem findByTenantIdAndMailboxId_cases (fails : Bool) (pick : ℕ) (tenantId mailboxId : String)
    (w : World σ) :
    (∃ e, db fails (findByTenantIdAndMailboxId pick tenantId mailboxId) w = .error e w) ∨
      db fails (findByTenantIdAndMailboxId pick tenantId mailboxId) w = .ok none w ∨
      ∃ auth, db fails (findByTenantIdAndMailboxId pick tenantId mailboxId) w = .ok (some auth) w ∧
        ∃ r ∈ w.authorizations.rows,
          auth.platform = r.platform ∧ auth.credentialHandle = r.credentialHandle := by
  have hfind := findByTenantIdAndMailboxId_apply pick tenantId mailboxId w
  rcases fails with _ | _
  · rw [db_false, hfind]
    rcases hrow : w.authorizations.findFirst pick fun r =>
      r.tenantId = tenantId && r.mailboxId = mailboxId with
      _ | r
    · exact .inr (.inl rfl)
    · dsimp only
      rcases hvalid : ScopeSet.validate r.scopeSet r.platform with e | ⟨⟩
      · rw [load_of_validate_error hvalid]
        exact .inl ⟨e, rfl⟩
      · obtain ⟨auth, hload, -, hplatform, hhandle, -⟩ := load_of_validate hvalid
        rw [hload]
        exact .inr (.inr ⟨auth, rfl, r, (Table.of_findFirst_eq_some hrow).1, hplatform, hhandle⟩)
  · exact .inl ⟨dbError, db_true _ w⟩

/-- The provider refuses to revoke the credential of a row. -/
def RefusedBy (googleOAuth microsoftOAuth : OAuthProviderPort σ) (providers : σ)
    (r : MailboxAuthorizationRow) : Prop :=
  ∃ e, (adapterOf googleOAuth microsoftOAuth r.platform).revoke r.credentialHandle providers
    = .error e providers

/-- Where the providers refuse, a revocation throws and changes nothing. -/
theorem revoke_of_refusedBy {w : World σ}
    (h : ∀ r ∈ w.authorizations.rows, RefusedBy googleOAuth microsoftOAuth w.providers r) (env : Env)
    (tenantId mailboxId : String) (reason : RevocationReason) :
    ∃ e, revoke googleOAuth microsoftOAuth env tenantId mailboxId reason w = .error e w := by
  unfold revoke
  rcases findByTenantIdAndMailboxId_cases (env.fails 0) env.pick tenantId mailboxId w with
    ⟨e, hfind⟩ | hfind | ⟨auth, hfind, r, hr, hplatform, hhandle⟩
  · exact ⟨e, bind_of_error hfind _⟩
  · rw [bind_of_ok hfind]
    exact ⟨_, rfl⟩
  · rw [bind_of_ok hfind]
    show ∃ e, revokeLoaded googleOAuth microsoftOAuth env tenantId auth reason w = .error e w
    unfold revokeLoaded
    by_cases hactive : auth.status = .active
    · obtain ⟨e, hrefused⟩ := h r hr
      rw [← hplatform, ← hhandle] at hrefused
      have hrevoke : ∃ auth', auth.revoke env.now reason = .ok auth' ∧
          auth'.platform = auth.platform ∧ auth'.credentialHandle = auth.credentialHandle :=
        ⟨_, if_neg (not_not.mpr hactive), rfl, rfl⟩
      obtain ⟨auth', hrevoke, hplatform', hhandle'⟩ := hrevoke
      rw [hrevoke, bind_of_ok (ofExcept_ok auth' w), hplatform', hhandle']
      exact ⟨e, bind_of_error (callAdapter_of_error googleOAuth microsoftOAuth hrefused) _⟩
    · rw [MailboxAuthorization.revoke_of_not_active hactive]
      exact ⟨_, bind_of_error (ofExcept_error _ w) _⟩

/-- Where the providers refuse, a suspension leaves them as they are. -/
theorem afterCalls_of_refusedBy {providers : σ} {rows : List MailboxAuthorizationRow}
    (h : ∀ r ∈ rows, RefusedBy googleOAuth microsoftOAuth providers r) :
    afterCalls googleOAuth microsoftOAuth providers (rows.map fun r => (r.platform, r.credentialHandle))
      = providers := by
  unfold afterCalls
  induction rows with
  | nil => rfl
  | cons r rows ih =>
    obtain ⟨e, hrefused⟩ := h r List.mem_cons_self
    rw [List.map_cons, List.foldl_cons, after_of_error hrefused]
    exact ih fun r' hr' => h r' (List.mem_cons_of_mem r hr')

end

/-! ## Rows of callbacks

Every authorization that the API stores was made by a callback, with a handle under which the vault holds
nothing.
-/

/-- A row as a callback stores it. -/
structure CallbackRow (r : MailboxAuthorizationRow) : Prop where
  handle : ∃ now, r.credentialHandle = callbackHandle now
  scopeSet : r.scopeSet = scopes r.platform

/-- What later requests change of a row of the callback is not what makes it one. -/
theorem CallbackRow.of_sameGrant {r r' : MailboxAuthorizationRow} (h : CallbackRow r)
    (hsame : SameGrant r r') : CallbackRow r' := by
  obtain ⟨status, refreshed, rfl⟩ := hsame
  exact ⟨h.handle, h.scopeSet⟩

/-- The rows were stored by callbacks, and the vault has no handle of theirs. -/
structure OfCallbacks (w : World Vault) : Prop where
  row : ∀ r ∈ w.authorizations.rows, CallbackRow r
  vault : ∀ now, w.providers (callbackHandle now) = none

/-- The vault has none of the handles that the callback makes up. -/
theorem OfCallbacks.not_holds {w : World Vault} (h : OfCallbacks w) {r : MailboxAuthorizationRow}
    (hr : r ∈ w.authorizations.rows) : ¬w.providers.Holds r.credentialHandle := by
  rintro ⟨secret, hsecret, -⟩
  obtain ⟨now, hhandle⟩ := (h.row r hr).handle
  rw [hhandle, h.vault] at hsecret
  cases hsecret

/-- So the adapters refuse every stored authorization. -/
theorem OfCallbacks.refusedBy {w : World Vault} (h : OfCallbacks w) (vaultFails : String → ℕ → Bool)
    {r : MailboxAuthorizationRow} (hr : r ∈ w.authorizations.rows) :
    RefusedBy (GoogleOAuthAdapter vaultFails) (MicrosoftOAuthAdapter vaultFails) w.providers r := by
  unfold RefusedBy
  rw [revoke_adapterOf]
  rcases revokeCredential_cases (vaultFails r.credentialHandle) r.credentialHandle w.providers with
    ⟨-, -, hholds, -⟩ | ⟨-, hrefused⟩
  · exact absurd hholds (h.not_holds hr)
  · exact hrefused

/-- A revocation throws and changes nothing. -/
theorem revokeMailbox_of_ofCallbacks {w : World Vault} (h : OfCallbacks w)
    (vaultFails : String → ℕ → Bool) (env : Env) (tenantId : RequestTenant) (mailboxId : String) :
    ∃ e, revokeMailbox vaultFails env tenantId mailboxId w = .error e w := by
  obtain ⟨e, hrevoke⟩ := revoke_of_refusedBy (fun r hr => h.refusedBy vaultFails hr) env tenantId.text
    mailboxId .user_initiated
  exact ⟨e, bind_of_error hrevoke _⟩

/-- A refresh throws and changes nothing. -/
theorem refreshToken_of_ofCallbacks {w : World Vault} (h : OfCallbacks w)
    (vaultFails : String → ℕ → Bool) (env : Env) (tenantId mailboxId : String) :
    ∃ e, refreshToken vaultFails env tenantId mailboxId w = .error e w := by
  unfold refreshToken
  rcases findByTenantIdAndMailboxId_cases (env.fails 0) env.pick tenantId mailboxId w with
    ⟨e, hfind⟩ | hfind | ⟨auth, hfind, r, hr, -, hhandle⟩
  · exact ⟨e, bind_of_error hfind _⟩
  · rw [bind_of_ok hfind]
    exact ⟨_, rfl⟩
  · have hrefused : ∃ e, refreshCredential (vaultFails auth.credentialHandle) auth.credentialHandle
        w.providers = .error e w.providers := by
      unfold refreshCredential
      rcases vaultFails auth.credentialHandle 0 with _ | _
      · rw [vaultCall_false]
        have hnot := h.not_holds hr
        rw [← hhandle] at hnot
        exact ⟨_, bind_of_error (retrieve_of_not_holds hnot) _⟩
      · exact ⟨_, bind_of_error (vaultCall_true _ _) _⟩
    obtain ⟨e, hrefused⟩ := hrefused
    refine ⟨e, ?_⟩
    rw [bind_of_ok hfind]
    show onProviders _ w = _
    unfold onProviders
    rw [hrefused]

/-! ## Steps

What each request does to the rows, the consents and the vault.
-/

/-- The consent that a callback grants. -/
def callbackGrant (env : CallbackEnv) (tenantId : RequestTenant) (userId : String) (body : CallbackBody) :
    Effect (World Vault) MailboxAuthorization :=
  grantConsent env.toEnv tenantId.text userId (callbackMailbox env.mailboxTime) body.platform
    (scopes body.platform) (callbackHandle env.handleTime)

/-- A callback that is let in grants its consent. -/
theorem handleCallback_of_accepts {tenantId : RequestTenant} {body : CallbackBody}
    (h : Accepts tenantId body.state) (env : CallbackEnv) (userId : String) (w : World Vault) :
    handleCallback env tenantId userId body w
      = (callbackGrant env tenantId userId body >>= fun auth => pure auth.mailboxId) w := by
  unfold Accepts at h
  unfold handleCallback
  rw [h]
  rfl

/-- A callback that is not let in leaves the world alone, and one that is does to it what its grant
does. -/
theorem after_handleCallback (env : CallbackEnv) (tenantId : RequestTenant) (userId : String)
    (body : CallbackBody) (w : World Vault) :
    (¬Accepts tenantId body.state ∧ after (handleCallback env tenantId userId body) w = w) ∨
      Accepts tenantId body.state ∧ after (handleCallback env tenantId userId body) w
        = after (callbackGrant env tenantId userId body) w := by
  by_cases haccepts : Accepts tenantId body.state
  · have hrun := handleCallback_of_accepts haccepts env userId w
    refine .inr ⟨haccepts, ?_⟩
    rcases hgrant : callbackGrant env tenantId userId body w with ⟨auth, w₁⟩ | ⟨e, w₁⟩
    · rw [after_of_ok hgrant]
      exact after_of_ok (hrun.trans (bind_of_ok hgrant _))
    · rw [after_of_error hgrant]
      exact after_of_error (hrun.trans (bind_of_error hgrant _))
  · exact .inl ⟨haccepts, after_of_error (handleCallback_of_not_accepts haccepts env userId w)⟩

/-- A grant does not touch the vault. -/
theorem providers_grantConsent {σ : Type} (w : World σ) (env : Env)
    (tenantId userId mailboxId : String) (platform : Platform) (scopes : List String)
    (credentialHandle : String) :
    (after (grantConsent env tenantId userId mailboxId platform scopes credentialHandle) w).providers
      = w.providers := by
  rcases grantConsent_cases env tenantId userId mailboxId platform scopes credentialHandle w with
    ⟨-, e, hrun⟩ | ⟨-, t', -, ⟨-, hrun⟩ | ⟨-, auth, hrun⟩⟩
  · rw [after_of_error hrun]
  · rw [after_of_error hrun]
  · rw [after_of_ok hrun]

/-- An exchange changes nothing, or stores a token under the handle it draws. -/
theorem after_exchangeCredential (missing mailboxPrefix : String) (env : ExchangeEnv)
    (w : World Vault) :
    after (onProviders (exchangeCredential missing mailboxPrefix env)) w = w ∨
      after (onProviders (exchangeCredential missing mailboxPrefix env)) w = { w with
        providers := store (drawHandle env.storeTime env.random)
          ("refresh_token_" ++ toString env.tokenTime) w.providers } := by
  unfold onProviders exchangeCredential
  split_ifs
  · exact .inl rfl
  · rcases env.vaultFails with _ | _
    · exact .inr rfl
    · exact .inl rfl

/-- The time of the consent that a request stores at a key, unless there is one. -/
def consentAt (key : String × String × String × Platform) (c : ApiCall) : Option ℤ :=
  match c.request with
  | .handleCallback tenantId userId body mailboxTime _ =>
    if stateTenantId body.state = tenantId.text ∧ c.env.fails 0 = false ∧
        key = (tenantId.text, userId, callbackMailbox mailboxTime, body.platform) then
      some c.env.now
    else none
  | _ => none

/-- What a request can do: nothing, revoke the rows of a tenant, grant a consent, or store a secret. -/
theorem apiStep_cases {w : World Vault} (h : OfCallbacks w) (c : ApiCall) :
    (apiStep w c = w ∧ ∀ key, consentAt key c = none) ∨
    (∃ tenantId, c.request = .revokeAllForTenant tenantId ∧ apiStep w c = { w with
      authorizations := w.authorizations.updateMany (isActiveOf tenantId) revokeData }) ∨
    (∃ tenantId userId body mailboxTime handleTime,
      c.request = .handleCallback tenantId userId body mailboxTime handleTime ∧
      Accepts tenantId body.state ∧
      apiStep w c = after (callbackGrant ⟨c.env, mailboxTime, handleTime⟩ tenantId userId body) w) ∨
    ∃ (now : ℤ) (random : String) (tokenTime : ℤ), (∀ key, consentAt key c = none) ∧ apiStep w c = { w with
      providers := store (drawHandle now random) ("refresh_token_" ++ toString tokenTime)
        w.providers } := by
  rcases c with ⟨request, env, vaultFails⟩
  unfold apiStep
  rcases request with ⟨tenantId, userId, body, mailboxTime, handleTime⟩ | ⟨tenantId, mailboxId⟩ |
    ⟨tenantId, mailboxId⟩ | ⟨tenantId⟩ | ⟨platform, exchange⟩ <;> dsimp only
  · rcases after_handleCallback ⟨env, mailboxTime, handleTime⟩ tenantId userId body w with
      ⟨hnot, hsame⟩ | ⟨haccepts, hgrant⟩
    · refine .inl ⟨hsame, fun key => if_neg fun hstores => hnot ?_⟩
      unfold Accepts checkState
      exact if_neg (not_not.mpr hstores.1)
    · exact .inr (.inr (.inl ⟨tenantId, userId, body, mailboxTime, handleTime, rfl, haccepts, hgrant⟩))
  · obtain ⟨e, hrefused⟩ := revokeMailbox_of_ofCallbacks h vaultFails env tenantId mailboxId
    exact .inl ⟨after_of_error hrefused, fun _ => rfl⟩
  · obtain ⟨e, hrefused⟩ := refreshToken_of_ofCallbacks h vaultFails env tenantId mailboxId
    exact .inl ⟨after_of_error hrefused, fun _ => rfl⟩
  · -- no secret is there to be deleted, so that the providers are left as they are
    have hproviders : afterCalls (GoogleOAuthAdapter vaultFails) (MicrosoftOAuthAdapter vaultFails)
        w.providers ((activeOf w tenantId).map fun r => (r.platform, r.credentialHandle))
          = w.providers :=
      afterCalls_of_refusedBy fun r hr => h.refusedBy vaultFails (List.mem_filter.mp hr).1
    rcases revokeAllForTenant_cases (GoogleOAuthAdapter vaultFails) (MicrosoftOAuthAdapter vaultFails)
      env tenantId w with ⟨-, e, hrun⟩ | ⟨-, providers, rfl, ⟨-, hrun⟩ | ⟨-, hrun⟩⟩
    · exact .inl ⟨after_of_error hrun, fun _ => rfl⟩
    · rw [hproviders] at hrun
      exact .inl ⟨after_of_error hrun, fun _ => rfl⟩
    · rw [hproviders] at hrun
      exact .inr (.inl ⟨tenantId, rfl, after_of_ok hrun⟩)
  · rcases platform with _ | _ <;> dsimp only
    · exact (after_exchangeCredential _ _ exchange w).imp (⟨·, fun _ => rfl⟩)
        fun hstore => .inr (.inr ⟨_, _, _, fun _ => rfl, hstore⟩)
    · exact (after_exchangeCredential _ _ exchange w).imp (⟨·, fun _ => rfl⟩)
        fun hstore => .inr (.inr ⟨_, _, _, fun _ => rfl, hstore⟩)

/-- The row that a callback grants is one of a callback, whatever was there. -/
theorem callbackRow_grantedRow {t : MailboxAuthorizationTable} (h : ∀ r ∈ t.rows, CallbackRow r)
    (now handleTime : ℤ) (tenantId userId mailboxId : String) (platform : Platform) :
    CallbackRow (grantedRow t now tenantId userId mailboxId platform (scopes platform)
      (callbackHandle handleTime)) := by
  rcases hold : t.find (tenantId, userId, mailboxId, platform) with _ | r
  · unfold grantedRow
    rw [hold]
    exact ⟨⟨handleTime, rfl⟩, rfl⟩
  · rw [grantedRow_of_find_eq_some hold]
    exact (h r (Table.find_eq_some_iff.mp hold).1).of_sameGrant (sameGrant_setStatus _ _ _)

/-- A request keeps that all rows are of the callback. -/
theorem OfCallbacks.apiStep {w : World Vault} (h : OfCallbacks w) (c : ApiCall) :
    OfCallbacks (apiStep w c) := by
  rcases apiStep_cases h c with ⟨hsame, -⟩ | ⟨tenantId, -, hsuspended⟩ |
    ⟨tenantId, userId, body, mailboxTime, handleTime, -, -, hgrant⟩ | ⟨now, random, tokenTime, -, hstore⟩
  · rw [hsame]
    exact h
  · rw [hsuspended]
    refine ⟨?_, h.vault⟩
    -- a suspension sets a status and leaves the grants
    intro r' hr'
    obtain ⟨r, hr, rfl⟩ := List.mem_map.mp hr'
    by_cases hactive : isActiveOf tenantId r = true
    · rw [if_pos hactive]
      exact (h.row r hr).of_sameGrant ⟨_, _, rfl⟩
    · rw [if_neg hactive]
      exact h.row r hr
  · rw [hgrant]
    unfold callbackGrant
    refine ⟨?_, ?_⟩
    · intro r' hr'
      -- the row at the key is the one that was there or the one that the callback grants
      have hrow := Table.find_key hr'
      rcases find_grantConsent w c.env tenantId.text userId (callbackMailbox mailboxTime)
        body.platform (scopes body.platform) (callbackHandle handleTime) (Schema.key r') with
        hkeep | ⟨-, -, hgranted⟩
      · rw [hrow] at hkeep
        exact h.row r' (Table.find_eq_some_iff.mp hkeep.symm).1
      · rw [hrow] at hgranted
        rw [Option.some.inj hgranted]
        exact callbackRow_grantedRow h.row _ _ _ _ _ _
    · rw [providers_grantConsent]
      exact h.vault
  · rw [hstore]
    refine ⟨h.row, fun now' => ?_⟩
    exact (Function.update_of_ne (drawHandle_ne_callbackHandle now now' random).symm _ _).trans
      (h.vault now')

/-- After any requests all rows are of the callback. -/
theorem ofCallbacks_afterRequests (calls : List ApiCall) : OfCallbacks (afterRequests calls) := by
  refine foldl_invariant (f := apiStep) (fun w c h => h.apiStep c) ⟨?_, fun now => rfl⟩ calls
  intro r hr
  cases hr

/-! ## The list

A mailbox is listed as it was granted, until its tenant is revoked; the requests of others do not
change the entry.
-/

/-- The entry of a row. -/
def MailboxEntry.ofRow (r : MailboxAuthorizationRow) : MailboxEntry where
  mailboxId := r.mailboxId
  platform := r.platform
  status := r.status
  scopes := r.scopeSet
  consentGrantedAt := r.consentGrantedAt

/-- The scopes of a callback are valid. -/
theorem validate_scopes (platform : Platform) : ScopeSet.validate (scopes platform) platform = .ok () := by
  rcases platform with _ | _
  · rfl
  · rfl

/-- The list has an entry for each active authorization of the tenant. -/
theorem listMailboxes_of_ofCallbacks {w : World Vault} (h : OfCallbacks w) {env : Env}
    (hfails : env.fails 0 = false) (tenantId : RequestTenant) :
    listMailboxes env tenantId w = .ok ((activeOf w tenantId.text).map .ofRow) w := by
  -- rows of callbacks have the scopes of their platform, so that all of them can be loaded
  have hvalid : ∀ r ∈ activeOf w tenantId.text, ScopeSet.validate r.scopeSet r.platform = .ok () := by
    intro r hr
    rw [(h.row r (List.mem_filter.mp hr).1).scopeSet]
    exact validate_scopes r.platform
  obtain ⟨auths, hauths⟩ := exists_mapM_eq_ok.mpr fun r hr => exists_load_iff.mpr (hvalid r hr)
  have hentries : (auths.map fun auth : MailboxAuthorization =>
      ({ mailboxId := auth.mailboxId
         platform := auth.platform
         status := auth.status
         scopes := auth.getScopes
         consentGrantedAt := auth.consentGrantedAt } : MailboxEntry))
      = (activeOf w tenantId.text).map .ofRow := by
    refine map_eq_of_mapM_eq_ok ?_ hauths
    intro r auth hload
    obtain ⟨auth', hload', hkey, hplatform, -, hscopes, htime, hstatus, -⟩ :=
      load_of_validate (exists_load_iff.mp ⟨auth, hload⟩)
    obtain rfl := Except.ok.inj (hload'.symm.trans hload)
    have hmailbox : auth'.mailboxId = r.mailboxId := congrArg (fun k => k.2.2.1) hkey
    unfold MailboxEntry.ofRow
    rw [hmailbox, hplatform, hstatus, hscopes, htime]
  have hfind : findByTenantId tenantId.text w = .ok auths w := by
    rw [findByTenantId_apply, show (w.authorizations.findMany (isActiveOf tenantId.text)).mapM load
      = .ok auths from hauths]
    rfl
  unfold listMailboxes
  rw [hfails, db_false, bind_of_ok hfind, ← hentries]
  rfl

/-- There is an active authorization at a key. -/
def IsListed (w : World Vault) (key : String × String × String × Platform) : Prop :=
  ∃ r, w.authorizations.find key = some r ∧ r.status = .active

/-- A grant answers with the mailbox it was asked for. -/
theorem mailboxId_of_grantConsent {σ : Type} {env : Env} {tenantId userId mailboxId : String}
    {platform : Platform} {scopes : List String} {credentialHandle : String} {w w₁ : World σ}
    {auth : MailboxAuthorization}
    (h : grantConsent env tenantId userId mailboxId platform scopes credentialHandle w = .ok auth w₁) :
    auth.mailboxId = mailboxId := by
  unfold grantConsent at h
  obtain ⟨created, w₂, hcreate, h⟩ := bind_eq_ok.mp h
  obtain ⟨saved, w₃, hsave, h⟩ := bind_eq_ok.mp h
  obtain ⟨⟨⟩, w₄, -, h⟩ := bind_eq_ok.mp h
  obtain ⟨rfl, -⟩ := pure_eq_ok.mp h
  unfold save at hsave
  obtain ⟨⟨⟩, w₅, -, hsave⟩ := bind_eq_ok.mp hsave
  obtain ⟨⟨⟩, w₆, -, hsave⟩ := bind_eq_ok.mp hsave
  obtain ⟨rfl, -⟩ := pure_eq_ok.mp hsave
  obtain ⟨hcreate, -⟩ := ofExcept_eq_ok.mp hcreate
  rcases hvalid : ScopeSet.validate scopes platform with e | ⟨⟩
  · rw [MailboxAuthorization.create_of_validate_error hvalid] at hcreate
    cases hcreate
  · rw [MailboxAuthorization.create_of_validate hvalid] at hcreate
    rw [← Except.ok.inj hcreate]
    rfl

/-- A callback that returns has left its mailbox. -/
theorem isListed_of_handleCallback {env : CallbackEnv} {tenantId : RequestTenant} {userId mailboxId : String}
    {body : CallbackBody} {w w₁ : World Vault}
    (h : handleCallback env tenantId userId body w = .ok mailboxId w₁) :
    IsListed w₁ (tenantId.text, userId, mailboxId, body.platform) := by
  have haccepts : Accepts tenantId body.state := by
    by_contra hnot
    rw [handleCallback_of_not_accepts hnot] at h
    cases h
  rw [handleCallback_of_accepts haccepts] at h
  obtain ⟨auth, w₂, hgrant, h⟩ := bind_eq_ok.mp h
  obtain ⟨rfl, rfl⟩ := pure_eq_ok.mp h
  rw [mailboxId_of_grantConsent hgrant]
  unfold callbackGrant at hgrant
  rcases grantConsent_cases env.toEnv tenantId.text userId (callbackMailbox env.mailboxTime) body.platform
    (scopes body.platform) (callbackHandle env.handleTime) w with
    ⟨-, e, hrun⟩ | ⟨-, t', hfind, ⟨-, hrun⟩ | ⟨-, auth', hrun⟩⟩
  · rw [hrun] at hgrant
    cases hgrant
  · rw [hrun] at hgrant
    cases hgrant
  · rw [hrun] at hgrant
    obtain ⟨-, rfl⟩ := EStateM.Result.ok.inj hgrant
    refine ⟨_, (hfind _).trans (if_pos rfl), ?_⟩
    unfold grantedRow
    rcases w.authorizations.find (tenantId.text, userId, callbackMailbox env.mailboxTime, body.platform)
      with _ | r
    · rfl
    · rfl

/-- Only a suspension of the tenant takes a mailbox off the list. -/
theorem isListed_apiStep {w : World Vault} (hw : OfCallbacks w) {key : String × String × String × Platform}
    (h : IsListed w key) {c : ApiCall} (hc : c.request ≠ .revokeAllForTenant key.1) :
    IsListed (apiStep w c) key := by
  obtain ⟨r, hr, hactive⟩ := h
  rcases apiStep_cases hw c with ⟨hsame, -⟩ | ⟨tenantId', hsuspend, hsuspended⟩ |
    ⟨tenantId', userId', body, mailboxTime, handleTime, -, -, hgrant⟩ | ⟨now', random, tokenTime, -, hstore⟩
  · rw [hsame]
    exact ⟨r, hr, hactive⟩
  · -- the tenant that is suspended is another one
    have htenant : r.tenantId = key.1 := congrArg Prod.fst (Table.find_eq_some_iff.mp hr).2
    have hother : ¬isActiveOf tenantId' r = true := by
      intro hmatch
      unfold isActiveOf at hmatch
      simp only [Bool.and_eq_true, decide_eq_true_eq] at hmatch
      exact hc (hsuspend.trans (congrArg _ (hmatch.1.symm.trans htenant)))
    rw [hsuspended]
    refine ⟨r, ?_, hactive⟩
    show (w.authorizations.updateMany _ _).find _ = _
    rw [Table.find_updateMany, hr]
    exact congrArg some (if_neg hother)
  · rw [hgrant]
    -- another callback may store the mailbox once more, and it is active again
    unfold callbackGrant
    rcases find_grantConsent w c.env tenantId'.text userId' (callbackMailbox mailboxTime)
      body.platform (scopes body.platform) (callbackHandle handleTime) key with hkeep | ⟨hkey, -, hgranted⟩
    · exact ⟨r, hkeep.trans hr, hactive⟩
    · rw [hkey] at hr
      rw [grantedRow_of_find_eq_some hr] at hgranted
      exact ⟨_, hgranted, rfl⟩
  · rw [hstore]
    exact ⟨r, hr, hactive⟩

/-! ## The time of a consent

A repeated grant keeps the row, and with it the time of the first consent.
-/

/-- The time of the consent of the row at a key. -/
def consentOf (w : World Vault) (key : String × String × String × Platform) : Option ℤ :=
  (w.authorizations.find key).map (·.consentGrantedAt)

/-- The time of the first consent that requests store at a key. -/
def firstConsent (key : String × String × String × Platform) (calls : List ApiCall) : Option ℤ :=
  calls.findSome? (consentAt key)

/-- A request stores a consent where there is none, and keeps the one that there is. -/
theorem consentOf_apiStep {w : World Vault} (hw : OfCallbacks w) (c : ApiCall)
    (key : String × String × String × Platform) :
    consentOf (apiStep w c) key = (consentOf w key).or (consentAt key c) := by
  unfold consentOf
  rcases apiStep_cases hw c with ⟨hsame, hnone⟩ | ⟨tenantId, hsuspend, hsuspended⟩ |
    ⟨tenantId, userId, body, mailboxTime, handleTime, hcallback, haccepts, hgrant⟩ |
    ⟨now, random, tokenTime, hnone, hstore⟩
  · rw [hsame, hnone, Option.or_none]
  · have hnone : consentAt key c = none := by
      unfold consentAt
      rw [hsuspend]
    -- a suspension sets the status and leaves the time of the consent
    rw [hsuspended, hnone, Option.or_none, Table.find_updateMany, Option.map_map]
    refine congrArg (Option.map · _) (funext fun r => ?_)
    exact (apply_ite _ _ _ _).trans (ite_self _)
  · have hstate : stateTenantId body.state = tenantId.text := by
      unfold Accepts checkState at haccepts
      split_ifs at haccepts with hne
      exact not_not.mp hne
    rw [hgrant]
    unfold callbackGrant consentAt
    rw [hcallback]
    dsimp only
    rcases grantConsent_cases c.env tenantId.text userId (callbackMailbox mailboxTime) body.platform
      (scopes body.platform) (callbackHandle handleTime) w
        with ⟨hnot, e, hrun⟩ | ⟨⟨-, hfails⟩, t', hfind, hrun⟩
    · rw [after_of_error hrun, if_neg, Option.or_none]
      exact fun hstores => hnot ⟨validate_scopes body.platform, hstores.2.1⟩
    · -- the row is stored even if a later database call of the callback fails
      have hafter : (after (grantConsent c.env tenantId.text userId (callbackMailbox mailboxTime)
          body.platform (scopes body.platform) (callbackHandle handleTime)) w).authorizations = t' := by
        rcases hrun with ⟨-, hrun⟩ | ⟨-, auth, hrun⟩
        · rw [after_of_error hrun]
        · rw [after_of_ok hrun]
      rw [hafter, hfind]
      by_cases hkey : key = (tenantId.text, userId, callbackMailbox mailboxTime, body.platform)
      · rw [if_pos hkey, if_pos ⟨hstate, hfails, hkey⟩, hkey]
        -- a row that was there keeps its own time, and a new one takes that of this callback
        rcases hold : w.authorizations.find
          (tenantId.text, userId, callbackMailbox mailboxTime, body.platform)
          with _ | r
        · unfold grantedRow
          rw [hold]
          rfl
        · rw [grantedRow_of_find_eq_some hold]
          rfl
      · rw [if_neg hkey, if_neg fun hstores => hkey hstores.2.2, Option.or_none]
  · rw [hstore, hnone, Option.or_none]

/-- No request deletes a secret. -/
theorem holds_apiStep {w : World Vault} (hw : OfCallbacks w) {handle : String}
    (h : w.providers.Holds handle) (c : ApiCall) : (apiStep w c).providers.Holds handle := by
  rcases apiStep_cases hw c with ⟨hsame, -⟩ | ⟨tenantId, -, hsuspended⟩ |
    ⟨tenantId, userId, body, mailboxTime, handleTime, -, -, hgrant⟩ | ⟨now, random, tokenTime, -, hstore⟩
  · rw [hsame]
    exact h
  · rw [hsuspended]
    exact h
  · rw [hgrant]
    unfold callbackGrant
    rw [providers_grantConsent]
    exact h
  · rw [hstore]
    by_cases hhandle : handle = drawHandle now random
    · refine ⟨_, (congrArg _ hhandle).trans (Function.update_self _ _ _), ?_⟩
      intro hempty
      have htext := congrArg String.toList hempty
      rw [String.toList_append] at htext
      exact absurd (List.append_eq_nil_iff.mp htext).1 (by decide)
    · obtain ⟨secret, hsecret, hne⟩ := h
      exact ⟨secret, (Function.update_of_ne hhandle _ _).trans hsecret, hne⟩

/-! ## Runs

From single requests to any requests after a callback.
-/

/-- Requests after requests. -/
theorem afterRequests_append (calls behind : List ApiCall) :
    afterRequests (calls ++ behind) = behind.foldl apiStep (afterRequests calls) :=
  List.foldl_append

/-- A mailbox stays on the list through requests that do not suspend its tenant. -/
theorem isListed_foldl {w : World Vault} (hw : OfCallbacks w) {key : String × String × String × Platform}
    (h : IsListed w key) {calls : List ApiCall}
      (hcalls : ∀ c ∈ calls, c.request ≠ .revokeAllForTenant key.1) :
    IsListed (calls.foldl apiStep w) key := by
  induction calls generalizing w with
  | nil => exact h
  | cons c calls ih =>
    obtain ⟨hc, hcalls⟩ := List.forall_mem_cons.mp hcalls
    exact ih (hw.apiStep c) (isListed_apiStep hw h hc) hcalls

/-- The first consent at a key is the one of the first request, if it gives one. -/
theorem firstConsent_cons (key : String × String × String × Platform) (c : ApiCall) (calls : List ApiCall) :
    firstConsent key (c :: calls) = (consentAt key c).or (firstConsent key calls) := by
  unfold firstConsent
  rw [List.findSome?_cons]
  rcases consentAt key c with _ | t
  · rfl
  · rfl

/-- A row keeps the time of its consent, and one that is stored on the way has the time of the first. -/
theorem consentOf_foldl {w : World Vault} (hw : OfCallbacks w) (calls : List ApiCall)
    (key : String × String × String × Platform) :
    consentOf (calls.foldl apiStep w) key = (consentOf w key).or (firstConsent key calls) := by
  induction calls generalizing w with
  | nil => exact Option.or_none.symm
  | cons c calls ih =>
    rw [List.foldl_cons, ih (hw.apiStep c), consentOf_apiStep hw, Option.or_assoc, firstConsent_cons]

/-- A row has the time of the first consent that was stored at its key. -/
theorem consentOf_afterRequests (calls : List ApiCall) (key : String × String × String × Platform) :
    consentOf (afterRequests calls) key = firstConsent key calls :=
  consentOf_foldl (ofCallbacks_afterRequests []) calls key

/-- A secret that the vault holds stays there, whatever is requested. -/
theorem holds_foldl {w : World Vault} (hw : OfCallbacks w) {handle : String}
    (h : w.providers.Holds handle) (calls : List ApiCall) :
    (calls.foldl apiStep w).providers.Holds handle := by
  have hrun := foldl_invariant (f := apiStep)
    (I := fun w => OfCallbacks w ∧ w.providers.Holds handle)
    (fun w c hI => ⟨hI.1.apiStep c, holds_apiStep hI.1 hI.2 c⟩) ⟨hw, h⟩ calls
  exact hrun.2

/-- After any requests, with any failures: a revocation and a refresh throw and change nothing; a
mailbox that a callback has answered with is listed as active until its tenant is suspended, with the
time of the first consent that was stored for it; and no secret that the vault held has been deleted.
-/
theorem revocation_refused (calls : List ApiCall) :
    let w := afterRequests calls
    (∀ vaultFails env tenantId mailboxId,
      ∃ e, revokeMailbox vaultFails env tenantId mailboxId w = .error e w) ∧
    (∀ vaultFails env tenantId mailboxId,
      ∃ e, refreshToken vaultFails env tenantId mailboxId w = .error e w) ∧
    (∀ before c behind tenantId userId body mailboxTime handleTime mailboxId w₁,
      calls = before ++ c :: behind →
      c.request = .handleCallback tenantId userId body mailboxTime handleTime →
      handleCallback ⟨c.env, mailboxTime, handleTime⟩ tenantId userId body (afterRequests before)
        = .ok mailboxId w₁ →
      (∀ c' ∈ behind, c'.request ≠ .revokeAllForTenant tenantId.text) →
      ∃ consentTime, firstConsent
        (tenantId.text, userId, mailboxId, body.platform) calls = some consentTime ∧
        ∀ env : Env, env.fails 0 = false → ∃ entries, listMailboxes env tenantId w = .ok entries w ∧
          ⟨mailboxId, body.platform, .active, scopes body.platform, consentTime⟩ ∈ entries) ∧
    ∀ before behind handle, calls = before ++ behind →
      (afterRequests before).providers.Holds handle → w.providers.Holds handle := by
  intro w
  have hw : OfCallbacks w := ofCallbacks_afterRequests calls
  refine ⟨fun vaultFails env => revokeMailbox_of_ofCallbacks hw vaultFails env,
    fun vaultFails env => refreshToken_of_ofCallbacks hw vaultFails env, ?_, ?_⟩
  · intro before c behind tenantId userId body mailboxTime handleTime mailboxId w₁ hsplit hc hcallback hbehind
    -- the run is cut at the callback: the world it left, and what the later requests made of it
    have hafter : afterRequests (before ++ [c]) = w₁ := by
      rw [afterRequests_append]
      show apiStep (afterRequests before) c = w₁
      unfold apiStep
      rw [hc]
      exact after_of_ok hcallback
    have hend : w = behind.foldl apiStep w₁ := by
      show afterRequests calls = _
      rw [hsplit, ← hafter, ← afterRequests_append, List.append_assoc]
      rfl
    have hw₁ : OfCallbacks w₁ := hafter ▸ ofCallbacks_afterRequests (before ++ [c])
    -- the row of the callback stays listed, since its tenant is not suspended afterwards
    have hlisted := isListed_of_handleCallback hcallback
    obtain ⟨r, hr, hactive⟩ := hend ▸ isListed_foldl hw₁ hlisted hbehind
    obtain ⟨hmem, hkey⟩ := Table.find_eq_some_iff.mp hr
    have htenant : r.tenantId = tenantId.text := congrArg Prod.fst hkey
    have hmailbox : r.mailboxId = mailboxId := congrArg (fun k => k.2.2.1) hkey
    have hplatform : r.platform = body.platform := congrArg (fun k => k.2.2.2) hkey
    refine ⟨r.consentGrantedAt, ?_, fun env hfails =>
      ⟨_, listMailboxes_of_ofCallbacks hw hfails tenantId, ?_⟩⟩
    · -- the time the row keeps is that of the first consent with its key, over the whole run
      rw [← consentOf_afterRequests]
      unfold consentOf
      rw [hr, Option.map_some]
    · have hentry : MailboxEntry.ofRow r = ⟨mailboxId, body.platform, .active, scopes body.platform,
          r.consentGrantedAt⟩ := by
        unfold MailboxEntry.ofRow
        rw [hmailbox, hplatform, hactive, (hw.row r hmem).scopeSet, hplatform]
      rw [← hentry]
      refine List.mem_map_of_mem (List.mem_filter.mpr ⟨hmem, ?_⟩)
      unfold isActiveOf
      simp [htenant, hactive]
  · intro before behind handle hsplit hholds
    have hend : w = behind.foldl apiStep (afterRequests before) := by
      show afterRequests calls = _
      rw [hsplit, afterRequests_append]
    rw [hend]
    exact holds_foldl (ofCallbacks_afterRequests before) hholds behind

/-- Two callbacks read the clock in one millisecond for the id of the mailbox, and the second one finds
the consent of the first. -/
example : firstConsent ("acme", "user", "mailbox_1000", .gmail)
    [⟨.handleCallback ⟨"acme", by decide⟩ "user" ⟨"code", "acme_0", .gmail⟩ 1000 1000,
      ⟨fun _ => false, 1000, 0⟩,
        fun _ _ => false⟩,
      ⟨.handleCallback ⟨"acme", by decide⟩ "user" ⟨"code", "acme_0", .gmail⟩ 1000 1001,
        ⟨fun _ => false, 1001, 0⟩,
        fun _ _ => false⟩] = some 1000 := by decide

end EmailTriage.IdentityAccess
