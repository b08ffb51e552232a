import EmailTriage.IdentityAccess.MailboxAuthorizationService

/-!
# What a call of the authorization service does

One lemma for each operation of `MailboxAuthorizationService`: the result it has and the world it
leaves, case by case. A grant writes the row at its key and appends its consent grant; a revocation
goes through exactly when it `Revokes` a row; the suspension of a tenant asks the providers one after
the other and then revokes every active row of the tenant. Whatever happens, a stored row keeps what it
was granted with (`SameGrant`).
-/

namespace EmailTriage.IdentityAccess

open Js Db MailboxAuthorizationRepository MailboxAuthorizationService
open MailboxAuthorization (create_of_validate create_of_validate_error)
open MailboxIngestion (Platform)

variable {σ : Type}

/-! ## Rows

What a grant fixes of a row, and what later calls may change of it.
-/

/-- The second row is the first one up to its status and the time of its last refresh. -/
def SameGrant (r r' : MailboxAuthorizationRow) : Prop :=
  ∃ status lastTokenRefreshedAt, r' = { r with status, lastTokenRefreshedAt }

/-- A row is of the grant it is of. -/
theorem SameGrant.refl (r : MailboxAuthorizationRow) : SameGrant r r := ⟨_, _, rfl⟩

/-- What is changed twice is of the grant still. -/
theorem SameGrant.trans {r₁ r₂ r₃ : MailboxAuthorizationRow} (h : SameGrant r₁ r₂)
    (h' : SameGrant r₂ r₃) : SameGrant r₁ r₃ := by
  obtain ⟨status, refreshed, rfl⟩ := h
  obtain ⟨status', refreshed', rfl⟩ := h'
  exact ⟨status', refreshed', rfl⟩

/-- A row that is set to a status at a time. -/
def MailboxAuthorizationRow.setStatus (r : MailboxAuthorizationRow) (status : AuthorizationStatus)
    (now : ℤ) : MailboxAuthorizationRow :=
  { r with status, lastTokenRefreshedAt := some now }

/-- A change of the status leaves the grant. -/
theorem sameGrant_setStatus (r : MailboxAuthorizationRow) (status : AuthorizationStatus) (now : ℤ) :
    SameGrant r (r.setStatus status now) := ⟨_, _, rfl⟩

/-- The row at the key of a grant after the upsert: an earlier row keeps what it was granted with. -/
def grantedRow (t : MailboxAuthorizationTable) (now : ℤ) (tenantId userId mailboxId : String)
    (platform : Platform) (scopes : List String) (credentialHandle : String) :
    MailboxAuthorizationRow :=
  match t.find (tenantId, userId, mailboxId, platform) with
  | some r => r.setStatus .active now
  | none => {
      id := t.freshId
      tenantId, userId, mailboxId, platform, credentialHandle
      scopeSet := scopes
      consentGrantedAt := now
      lastTokenRefreshedAt := none
      status := .active }

/-! ## Saving

What the two statements of `save` do, depending on whether the aggregate has reported its authorization.
-/

/-- Saving an aggregate without an authorization event is its upsert. -/
theorem save_of_not_authorized {auth : MailboxAuthorization}
    (hevents : auth.domainEvents.find? DomainEvent.isAuthorized = none) (fails : ℕ → Bool) (now : ℤ)
    (tenantId : String) {w : World σ} {t' : MailboxAuthorizationTable}
    (ht' : upsert now tenantId auth w = .ok () { w with authorizations := t' }) :
    save fails now tenantId auth w =
      if fails 0 then .error dbError w
      else .ok auth.clearDomainEvents { w with authorizations := t' } := by
  unfold save saveConsentGrant
  rw [hevents]
  rcases fails 0 with _ | _
  · rw [db_false, bind_of_ok ht']
    rfl
  · exact bind_of_error (db_true _ w) _

/-- The consent grant of an aggregate that was just created is appended by the second of two calls. -/
theorem saveConsentGrant_of_authorized {auth : MailboxAuthorization}
    {tenantId userId mailboxId : String} {platform : Platform} {scopes : List String} {timestamp : ℤ}
    (hevents : auth.domainEvents
      = [.MailboxAuthorizedEvent tenantId userId mailboxId platform scopes timestamp])
    (fails : ℕ → Bool) (now : ℤ) (tenantId' : String) {w : World σ} {row : MailboxAuthorizationRow}
    (hrow : w.authorizations.find (keyOf tenantId' auth) = some row) :
    saveConsentGrant fails now tenantId' auth w =
      if fails 0 || fails 1 then .error dbError w
      else .ok () { w with consentGrants := w.consentGrants ++ [⟨row.id, scopes, now⟩] } := by
  have hfindUnique : findUnique tenantId' auth w = .ok (some row) w := by
    unfold findUnique
    rw [hrow]
  unfold saveConsentGrant
  rw [hevents]
  dsimp only [List.find?, DomainEvent.isAuthorized]
  rcases fails 0 with _ | _
  · rw [db_false, bind_of_ok hfindUnique]
    rcases fails 1 with _ | _
    · rfl
    · rfl
  · exact bind_of_error (db_true _ w) _

/-- Saving an aggregate that was just created is three calls: the upsert, and the two of its consent
grant. -/
theorem save_of_authorized {auth : MailboxAuthorization} {tenantId userId mailboxId : String}
    {platform : Platform} {scopes : List String} {timestamp : ℤ}
    (hevents : auth.domainEvents
      = [.MailboxAuthorizedEvent tenantId userId mailboxId platform scopes timestamp])
    (fails : ℕ → Bool) (now : ℤ) (tenantId' : String) {w : World σ} {t' : MailboxAuthorizationTable}
    (ht' : upsert now tenantId' auth w = .ok () { w with authorizations := t' })
    {row : MailboxAuthorizationRow} (hrow : t'.find (keyOf tenantId' auth) = some row) :
    save fails now tenantId' auth w =
      if fails 0 then .error dbError w
      else if fails 1 || fails 2 then .error dbError { w with authorizations := t' }
      else .ok auth.clearDomainEvents { w with
        authorizations := t'
        consentGrants := w.consentGrants ++ [⟨row.id, scopes, now⟩] } := by
  have hgrant := saveConsentGrant_of_authorized hevents (fun k => fails (k + 1)) now tenantId'
    (w := { w with authorizations := t' }) hrow
  unfold save
  rcases fails 0 with _ | _
  · rw [db_false, bind_of_ok ht']
    rcases h : fails 1 || fails 2 with _ | _
    · rw [Nat.zero_add, h] at hgrant
      rw [bind_of_ok hgrant]
      rfl
    · rw [Nat.zero_add, h] at hgrant
      rw [bind_of_error hgrant]
      rfl
  · exact bind_of_error (db_true _ w) _

/-! ## Grants

The ways a grant can end, with the world that each of them leaves.
-/

section

variable (env : Env) (tenantId userId mailboxId : String) (platform : Platform)
  (scopes : List String) (credentialHandle : String)

/-- A grant with valid scopes writes the row at its key, and then appends its consent grant. The row
stays when the consent grant fails. -/
theorem grantConsent_cases (w : World σ) :
    (¬(ScopeSet.validate scopes platform = .ok () ∧ env.fails 0 = false) ∧
      ∃ e, grantConsent env tenantId userId mailboxId platform scopes credentialHandle w
        = .error e w) ∨
    (ScopeSet.validate scopes platform = .ok () ∧ env.fails 0 = false) ∧
      ∃ t', (∀ key, t'.find key =
          if key = (tenantId, userId, mailboxId, platform) then
            some (grantedRow w.authorizations env.now tenantId userId mailboxId platform scopes
              credentialHandle)
          else w.authorizations.find key) ∧
        (((env.fails 1 || env.fails 2) = true ∧
            grantConsent env tenantId userId mailboxId platform scopes credentialHandle w
              = .error dbError { w with authorizations := t' }) ∨
          (env.fails 1 || env.fails 2) = false ∧ ∃ auth,
            grantConsent env tenantId userId mailboxId platform scopes credentialHandle w
              = .ok auth { w with
                authorizations := t'
                consentGrants := w.consentGrants ++ [{
                  mailboxAuthorizationId := (grantedRow w.authorizations env.now tenantId userId
                    mailboxId platform scopes credentialHandle).id
                  scopeSet := scopes
                  grantedAt := env.now }] }) := by
  unfold grantConsent
  rcases hvalid : ScopeSet.validate scopes platform with e | ⟨⟩
  · rw [create_of_validate_error hvalid]
    refine .inl ⟨fun h => ?_, e, bind_of_error (ofExcept_error e w) _⟩
    cases h.1
  · -- what `create` builds is stored as `grantedRow`: over an old row only its status and refresh
    -- time change
    obtain ⟨auth, hcreate, hkey, hrow, hevents⟩ : ∃ auth,
        MailboxAuthorization.create env.now tenantId userId mailboxId platform scopes credentialHandle
          = .ok auth ∧
        keyOf tenantId auth = (tenantId, userId, mailboxId, platform) ∧
        ((w.authorizations.find (tenantId, userId, mailboxId, platform)).map
            (updateData env.now auth).apply).getD (createData w.authorizations.freshId tenantId auth)
          = grantedRow w.authorizations env.now tenantId userId mailboxId platform scopes
              credentialHandle ∧
        auth.domainEvents =
          [.MailboxAuthorizedEvent tenantId userId mailboxId platform scopes env.now] := by
      refine ⟨_, create_of_validate hvalid env.now tenantId userId mailboxId credentialHandle, rfl, ?_,
        rfl⟩
      unfold grantedRow
      rcases w.authorizations.find (tenantId, userId, mailboxId, platform) with _ | r
      · rfl
      · rfl
    obtain ⟨t', ht', hfind⟩ := upsert_spec env.now tenantId auth w
    rw [hkey, hrow] at hfind
    have hsave := save_of_authorized hevents env.fails env.now tenantId ht'
      ((congrArg t'.find hkey).trans ((hfind _).trans (if_pos rfl)))
    rw [hcreate, bind_of_ok (ofExcept_ok auth w)]
    rcases h0 : env.fails 0 with _ | _
    · rw [h0, if_neg Bool.false_ne_true] at hsave
      refine .inr ⟨⟨rfl, rfl⟩, t', hfind, ?_⟩
      -- the row is stored by now; the two calls after that are for the consent
      rcases h12 : env.fails 1 || env.fails 2 with _ | _
      · rw [h12, if_neg Bool.false_ne_true] at hsave
        exact .inr ⟨rfl, auth.clearDomainEvents, bind_of_ok hsave _⟩
      · rw [h12, if_pos rfl] at hsave
        exact .inl ⟨rfl, bind_of_error hsave _⟩
    · rw [h0, if_pos rfl] at hsave
      exact .inl ⟨fun h => Bool.noConfusion h.2, dbError, bind_of_error hsave _⟩

end

/-! ## Revocations

The ways a revocation can end. The adapter is called before the row is saved, so one of them leaves the
vault changed and the row as it was.
-/

section

variable (googleOAuth microsoftOAuth : OAuthProviderPort σ)

/-- A call of `revoke` goes through: the database works and answers with an active authorization that
can be loaded, and the provider agrees. -/
def Revokes (w : World σ) (env : Env) (tenantId mailboxId : String)
    (record : MailboxAuthorizationRow) (providers : σ) : Prop :=
  env.fails 0 = false ∧ env.fails 1 = false ∧
    w.authorizations.findFirst env.pick (fun r => r.tenantId = tenantId && r.mailboxId = mailboxId)
      = some record ∧
    ScopeSet.validate record.scopeSet record.platform = .ok () ∧ record.status = .active ∧
    (adapterOf googleOAuth microsoftOAuth record.platform).revoke record.credentialHandle w.providers
      = .ok () providers

/-- An adapter that does not throw changes the provider only. -/
theorem callAdapter_of_ok {w : World σ} {platform : Platform} {credentialHandle : String} {providers : σ}
    (h : (adapterOf googleOAuth microsoftOAuth platform).revoke credentialHandle w.providers
      = .ok () providers) :
    callAdapter googleOAuth microsoftOAuth platform credentialHandle w = .ok () { w with providers } := by
  unfold callAdapter
  rw [h]

/-- What a provider does before it throws stays. -/
theorem callAdapter_of_error {w : World σ} {platform : Platform} {credentialHandle : String}
    {e : Exception} {providers : σ}
    (h : (adapterOf googleOAuth microsoftOAuth platform).revoke credentialHandle w.providers
      = .error e providers) :
    callAdapter googleOAuth microsoftOAuth platform credentialHandle w = .error e { w with providers } := by
  unfold callAdapter
  rw [h]

/-- What `revoke` does with the authorization it has loaded. -/
theorem revokeLoaded_cases {w : World σ} {record : MailboxAuthorizationRow}
    (hrecord : record ∈ w.authorizations.rows) {auth : MailboxAuthorization}
    (hkey : keyOf record.tenantId auth = Schema.key record) (hevents : auth.domainEvents = [])
    (env : Env) (reason : RevocationReason) :
    (∃ providers t', (env.fails 1 = false ∧ auth.status = .active ∧
        (adapterOf googleOAuth microsoftOAuth auth.platform).revoke auth.credentialHandle w.providers
          = .ok () providers) ∧
      revokeLoaded googleOAuth microsoftOAuth env record.tenantId auth reason w
        = .ok () { w with authorizations := t', providers } ∧
      ∀ key, t'.find key = if key = Schema.key record then some (record.setStatus .revoked env.now)
        else w.authorizations.find key) ∨
    (¬∃ providers, env.fails 1 = false ∧ auth.status = .active ∧
        (adapterOf googleOAuth microsoftOAuth auth.platform).revoke auth.credentialHandle w.providers
          = .ok () providers) ∧
      ∃ e providers, revokeLoaded googleOAuth microsoftOAuth env record.tenantId auth reason w
        = .error e { w with providers } := by
  unfold revokeLoaded
  by_cases hactive : auth.status = .active
  · -- an active authorization can be revoked in memory; the provider and the save come after that
    obtain ⟨auth', hrevoke, hstatus', hkey', hplatform, hhandle, hevents'⟩ : ∃ auth',
        auth.revoke env.now reason = .ok auth' ∧ auth'.status = .revoked ∧
        keyOf record.tenantId auth' = keyOf record.tenantId auth ∧
        auth'.platform = auth.platform ∧ auth'.credentialHandle = auth.credentialHandle ∧
        auth'.domainEvents.find? DomainEvent.isAuthorized = none := by
      unfold MailboxAuthorization.revoke
      rw [if_neg (not_not.mpr hactive), hevents]
      exact ⟨_, rfl, rfl, rfl, rfl, rfl, rfl⟩
    rw [hrevoke, bind_of_ok (ofExcept_ok auth' w), hplatform, hhandle]
    rcases hadapter : (adapterOf googleOAuth microsoftOAuth auth.platform).revoke
      auth.credentialHandle w.providers with ⟨⟨⟩, providers⟩ | ⟨e, providers⟩
    · obtain ⟨t', ht', hfind⟩ := upsert_spec env.now record.tenantId auth' { w with providers }
      have hsave := save_of_not_authorized hevents' (fun k => env.fails (k + 1)) env.now
        record.tenantId ht'
      rw [bind_of_ok (callAdapter_of_ok googleOAuth microsoftOAuth hadapter)]
      rcases h1 : env.fails 1 with _ | _
      · rw [Nat.zero_add, h1, if_neg Bool.false_ne_true] at hsave
        rw [bind_of_ok hsave]
        refine .inl ⟨providers, t', ⟨rfl, hactive, rfl⟩, rfl, fun key => ?_⟩
        -- the update writes the new status and the time, and nothing else of the row
        have hset : (updateData env.now auth').apply record = record.setStatus .revoked env.now := by
          rw [← hstatus']
          rfl
        have hold : ({ w with providers } : World σ).authorizations.find (Schema.key record)
            = some record := Table.find_key hrecord
        rw [hfind, hkey', hkey, hold, Option.map_some, hset, Option.getD_some]
      · -- the save has failed after the provider was asked
        rw [Nat.zero_add, h1, if_pos rfl] at hsave
        rw [bind_of_error hsave]
        refine .inr ⟨?_, dbError, providers, rfl⟩
        rintro ⟨providers', h, -⟩
        cases h
    · -- the provider has thrown: nothing is saved
      have hcall := callAdapter_of_error googleOAuth microsoftOAuth hadapter
      refine .inr ⟨?_, e, providers, bind_of_error hcall _⟩
      rintro ⟨providers', -, -, h⟩
      cases h
  · rw [MailboxAuthorization.revoke_of_not_active hactive]
    refine .inr ⟨?_, _, w.providers, bind_of_error (ofExcept_error _ w) _⟩
    -- an authorization that is not active throws before the provider is asked
    rintro ⟨providers', -, h, -⟩
    exact hactive h

/-- A revocation that goes through sets the status of the row the database answered with; any other
throws, and may have called the provider. -/
theorem revoke_cases (w : World σ) (env : Env) (tenantId mailboxId : String)
    (reason : RevocationReason) :
    (∃ record providers t',
      Revokes googleOAuth microsoftOAuth w env tenantId mailboxId record providers ∧
      revoke googleOAuth microsoftOAuth env tenantId mailboxId reason w
        = .ok () { w with authorizations := t', providers } ∧
      ∀ key, t'.find key = if key = Schema.key record then some (record.setStatus .revoked env.now)
        else w.authorizations.find key) ∨
    (¬∃ record providers,
        Revokes googleOAuth microsoftOAuth w env tenantId mailboxId record providers) ∧
      ∃ e providers, revoke googleOAuth microsoftOAuth env tenantId mailboxId reason w
        = .error e { w with providers } := by
  have hfind := findByTenantIdAndMailboxId_apply env.pick tenantId mailboxId w
  unfold revoke Revokes
  rcases h0 : env.fails 0 with _ | _
  · rw [db_false]
    rcases hrow : w.authorizations.findFirst env.pick
      (fun r => r.tenantId = tenantId && r.mailboxId = mailboxId) with _ | record
    · rw [hrow] at hfind
      rw [bind_of_ok hfind]
      refine .inr ⟨?_, _, w.providers, rfl⟩
      rintro ⟨record, providers, -, -, h, -⟩
      cases h
    · rw [hrow] at hfind
      dsimp only at hfind
      obtain ⟨hrecord, hmatch⟩ := Table.of_findFirst_eq_some hrow
      obtain rfl : record.tenantId = tenantId := by simp_all
      rcases hvalid : ScopeSet.validate record.scopeSet record.platform with e | ⟨⟩
      · rw [load_of_validate_error hvalid] at hfind
        rw [bind_of_error hfind]
        refine .inr ⟨?_, _, w.providers, rfl⟩
        rintro ⟨record', providers, -, -, h, h', -⟩
        -- a row that cannot be loaded throws, whatever its status is
        rw [← Option.some.inj h, hvalid] at h'
        cases h'
      · obtain ⟨auth, hload, hkey, hplatform, hhandle, -, -, hstatus, hevents⟩ :=
          load_of_validate hvalid
        rw [hload] at hfind
        rw [bind_of_ok hfind]
        -- what is left is the revocation of a loaded authorization, whose fields are those of the
        -- row
        rcases revokeLoaded_cases googleOAuth microsoftOAuth hrecord hkey hevents env reason with
          ⟨providers, t', hcond, hrun, ht'⟩ | ⟨hcond, hrun⟩
        · rw [hplatform, hhandle, hstatus] at hcond
          obtain ⟨h1, hactive, hadapter⟩ := hcond
          exact .inl ⟨record, providers, t', ⟨rfl, h1, rfl, hvalid, hactive, hadapter⟩, hrun, ht'⟩
        · rw [hplatform, hhandle, hstatus] at hcond
          refine .inr ⟨?_, hrun⟩
          rintro ⟨record', providers, -, h1, h, -, hactive, hadapter⟩
          rw [← Option.some.inj h] at hactive hadapter
          exact hcond ⟨providers, h1, hactive, hadapter⟩
  · refine .inr ⟨?_, dbError, w.providers, bind_of_error (db_true _ w) _⟩
    rintro ⟨record, providers, h, -⟩
    cases h

/-! ## Suspensions

The adapters of all active rows are called, whatever they answer, and then the rows are updated at once.
-/

/-- The world of the providers after they were asked to revoke some credentials, one after the other,
whatever they answered. -/
def afterCalls (providers : σ) (credentials : List (Platform × String)) : σ :=
  credentials.foldl (fun providers c =>
    after ((adapterOf googleOAuth microsoftOAuth c.1).revoke c.2) providers) providers

/-- The loop over the adapters goes on after every error. -/
theorem callAdapters_apply (authorizations : List MailboxAuthorization) (w : World σ) :
    (authorizations.forM fun auth =>
        MonadExcept.tryCatch
          (callAdapter googleOAuth microsoftOAuth auth.platform auth.credentialHandle)
          fun _ => pure ()) w =
      .ok () { w with
        providers := afterCalls googleOAuth microsoftOAuth w.providers
          (authorizations.map fun auth => (auth.platform, auth.credentialHandle)) } := by
  induction authorizations generalizing w with
  | nil => rfl
  | cons auth authorizations ih =>
    have hcall : (MonadExcept.tryCatch
        (callAdapter googleOAuth microsoftOAuth auth.platform auth.credentialHandle)
        fun _ => pure () : Effect (World σ) Unit) w = .ok () { w with
          providers := after ((adapterOf googleOAuth microsoftOAuth auth.platform).revoke
            auth.credentialHandle) w.providers } := by
      rcases h : (adapterOf googleOAuth microsoftOAuth auth.platform).revoke auth.credentialHandle
        w.providers with ⟨⟨⟩, providers⟩ | ⟨e, providers⟩
      · rw [after_of_ok h]
        exact tryCatch_of_ok (callAdapter_of_ok googleOAuth microsoftOAuth h) _
      · rw [after_of_error h]
        exact tryCatch_of_error (callAdapter_of_error googleOAuth microsoftOAuth h) _
    exact (bind_of_ok hcall _).trans (ih _)

/-- The rows `revokeAllForTenant` works on. -/
def activeOf (w : World σ) (tenantId : String) : List MailboxAuthorizationRow :=
  w.authorizations.findMany (isActiveOf tenantId)

/-- The suspension of a tenant whose active authorizations can all be loaded asks the providers for
each of them, and then revokes them in one update. Any other throws and changes nothing. -/
theorem revokeAllForTenant_cases (env : Env) (tenantId : String) (w : World σ) :
    (¬(env.fails 0 = false ∧
        ∀ r ∈ activeOf w tenantId, ScopeSet.validate r.scopeSet r.platform = .ok ()) ∧
      ∃ e, MailboxAuthorizationService.revokeAllForTenant googleOAuth microsoftOAuth env tenantId w
        = .error e w) ∨
    (env.fails 0 = false ∧
        ∀ r ∈ activeOf w tenantId, ScopeSet.validate r.scopeSet r.platform = .ok ()) ∧
      ∃ providers, providers = afterCalls googleOAuth microsoftOAuth w.providers
          ((activeOf w tenantId).map fun r => (r.platform, r.credentialHandle)) ∧
        ((env.fails 1 = true ∧
            MailboxAuthorizationService.revokeAllForTenant googleOAuth microsoftOAuth env tenantId w
              = .error dbError { w with providers }) ∨
          env.fails 1 = false ∧
            MailboxAuthorizationService.revokeAllForTenant googleOAuth microsoftOAuth env tenantId w
              = .ok () { w with
                providers
                authorizations := w.authorizations.updateMany (isActiveOf tenantId) revokeData }) := by
  have hfind := findByTenantId_apply tenantId w
  unfold MailboxAuthorizationService.revokeAllForTenant
  rcases h0 : env.fails 0 with _ | _
  · rw [db_false]
    rcases hauths : (activeOf w tenantId).mapM load with e | auths
    · rw [show (w.authorizations.findMany (isActiveOf tenantId)).mapM load = .error e from hauths]
        at hfind
      refine .inl ⟨fun h => ?_, e, bind_of_error (hfind.trans (ofExcept_error e w)) _⟩
      -- one row that cannot be loaded makes the whole suspension throw before a provider is asked
      obtain ⟨auths, hauths'⟩ :=
        exists_mapM_eq_ok.mpr fun r hr => exists_load_iff.mpr (h.2 r hr)
      rw [hauths] at hauths'
      cases hauths'
    · rw [show (w.authorizations.findMany (isActiveOf tenantId)).mapM load = .ok auths from hauths]
        at hfind
      have hcredentials : (auths.map fun auth => (auth.platform, auth.credentialHandle))
          = (activeOf w tenantId).map fun r => (r.platform, r.credentialHandle) := by
        refine map_eq_of_mapM_eq_ok ?_ hauths
        intro r auth hload
        obtain ⟨auth', hload', -, hplatform, hhandle, -⟩ :=
          load_of_validate (exists_load_iff.mp ⟨auth, hload⟩)
        rw [← Except.ok.inj (hload'.symm.trans hload), hplatform, hhandle]
      -- every credential is tried, whatever the provider does with the ones before it
      have hcalls := callAdapters_apply googleOAuth microsoftOAuth auths w
      rw [hcredentials] at hcalls
      have hvalid : ∀ r ∈ activeOf w tenantId, ScopeSet.validate r.scopeSet r.platform = .ok () :=
        fun r hr => exists_load_iff.mp (exists_mapM_eq_ok.mp ⟨auths, hauths⟩ r hr)
      rw [bind_of_ok (hfind.trans (ofExcept_ok auths w)), bind_of_ok hcalls]
      refine .inr ⟨⟨rfl, hvalid⟩, _, rfl, ?_⟩
      rcases env.fails 1 with _ | _
      · exact .inr ⟨rfl, rfl⟩
      · exact .inl ⟨rfl, rfl⟩
  · exact .inl ⟨fun h => Bool.noConfusion h.1, dbError, bind_of_error (db_true _ w) _⟩

/-! ## The rows afterwards

What each call makes of the row at a key.
-/

/-- Over a row that is there, a grant sets the status only. -/
theorem grantedRow_of_find_eq_some {t : MailboxAuthorizationTable} {now : ℤ}
    {tenantId userId mailboxId : String} {platform : Platform} {r : MailboxAuthorizationRow}
    (h : t.find (tenantId, userId, mailboxId, platform) = some r) (scopes : List String)
    (credentialHandle : String) :
    grantedRow t now tenantId userId mailboxId platform scopes credentialHandle
      = r.setStatus .active now := by
  unfold grantedRow
  rw [h]

/-- A grant leaves a row alone, or writes the row at its key. -/
theorem find_grantConsent (w : World σ) (env : Env) (tenantId userId mailboxId : String)
    (platform : Platform) (scopes : List String) (credentialHandle : String)
    (key : String × String × String × Platform) :
    (after (grantConsent env tenantId userId mailboxId platform scopes credentialHandle)
        w).authorizations.find key = w.authorizations.find key ∨
      key = (tenantId, userId, mailboxId, platform) ∧
        ScopeSet.validate scopes platform = .ok () ∧
        (after (grantConsent env tenantId userId mailboxId platform scopes credentialHandle)
            w).authorizations.find key
          = some (grantedRow w.authorizations env.now tenantId userId mailboxId platform scopes
              credentialHandle) := by
  rcases grantConsent_cases env tenantId userId mailboxId platform scopes credentialHandle w with
    ⟨-, e, hrun⟩ | ⟨⟨hvalid, -⟩, t', hfind, hrun⟩
  · rw [after_of_error hrun]
    exact .inl rfl
  · -- the upsert stays, whatever becomes of the consent grant
    have hafter : (after (grantConsent env tenantId userId mailboxId platform scopes
        credentialHandle) w).authorizations = t' := by
      rcases hrun with ⟨-, hrun⟩ | ⟨-, auth, hrun⟩
      · rw [after_of_error hrun]
      · rw [after_of_ok hrun]
    rw [hafter, hfind]
    by_cases hkey : key = (tenantId, userId, mailboxId, platform)
    · rw [if_pos hkey]
      exact .inr ⟨hkey, hvalid, rfl⟩
    · rw [if_neg hkey]
      exact .inl rfl

/-- A revocation leaves a row alone, or sets its status. -/
theorem find_revoke (w : World σ) (env : Env) (tenantId mailboxId : String)
    (reason : RevocationReason) (key : String × String × String × Platform) :
    (after (revoke googleOAuth microsoftOAuth env tenantId mailboxId reason) w).authorizations.find key
        = w.authorizations.find key ∨
      ∃ record, w.authorizations.find key = some record ∧
        (after (revoke googleOAuth microsoftOAuth env tenantId mailboxId reason)
          w).authorizations.find key = some (record.setStatus .revoked env.now) := by
  rcases revoke_cases googleOAuth microsoftOAuth w env tenantId mailboxId reason with
    ⟨record, providers, t', ⟨-, -, hrow, -⟩, hrun, hfind⟩ | ⟨-, e, providers, hrun⟩
  · rw [after_of_ok hrun]
    dsimp only
    rw [hfind]
    by_cases hkey : key = Schema.key record
    · rw [if_pos hkey, hkey]
      exact .inr ⟨record, Table.find_key (Table.of_findFirst_eq_some hrow).1, rfl⟩
    · rw [if_neg hkey]
      exact .inl rfl
  · rw [after_of_error hrun]
    exact .inl rfl

/-- The suspension of a tenant leaves a row alone, or revokes it. -/
theorem find_revokeAllForTenant (w : World σ) (env : Env) (tenantId : String)
    (key : String × String × String × Platform) :
    (after (MailboxAuthorizationService.revokeAllForTenant googleOAuth microsoftOAuth env tenantId)
        w).authorizations.find key = w.authorizations.find key ∨
      ∃ record, w.authorizations.find key = some record ∧
        (after (MailboxAuthorizationService.revokeAllForTenant googleOAuth microsoftOAuth env tenantId)
          w).authorizations.find key = some (revokeData.apply record) := by
  rcases revokeAllForTenant_cases googleOAuth microsoftOAuth env tenantId w with
    ⟨-, e, hrun⟩ | ⟨-, providers, -, ⟨-, hrun⟩ | ⟨-, hrun⟩⟩
  · rw [after_of_error hrun]
    exact .inl rfl
  · rw [after_of_error hrun]
    exact .inl rfl
  · rw [after_of_ok hrun]
    dsimp only
    rw [Table.find_updateMany]
    rcases w.authorizations.find key with _ | record
    · exact .inl rfl
    · by_cases hactive : isActiveOf tenantId record = true
      · exact .inr ⟨record, rfl, congrArg some (if_pos hactive)⟩
      · exact .inl (congrArg some (if_neg hactive))

end

end EmailTriage.IdentityAccess
