import EmailTriage.IdentityAccess.IdentityEvents
import EmailTriage.IdentityAccess.OAuthAdapters
import EmailTriage.IdentityAccess.ServiceOutcomes

/-!
# Histories of the authorization store

What a call of the service can do to the row at a key (`find_step`), and what follows for any history of
calls, with any failures: a stored row stays at its key with what it was granted with, and the scopes of
every stored row are valid.

These are the invariants that the other modules of the context start from. Between the calls of a
history anything may be stored in the vault, since that is another system; nothing that is proved about
the rows depends on it.
-/

namespace EmailTriage.IdentityAccess

open Js Db Runs MailboxAuthorizationRepository MailboxAuthorizationService
open MailboxIngestion (Platform)

/-! ## One call

What a call of the service does to a stored row: at most its status and the time of its last refresh
change.
-/

section

variable {σ : Type} (googleOAuth microsoftOAuth : OAuthProviderPort σ)

/-- What a call can do to the row at a key: nothing, revoke it, or grant it. -/
theorem find_step (w : World σ) (c : Call) (key : String × String × String × Platform) :
    (step googleOAuth microsoftOAuth w c).authorizations.find key = w.authorizations.find key ∨
      (∃ record record', w.authorizations.find key = some record ∧
        (step googleOAuth microsoftOAuth w c).authorizations.find key = some record' ∧
        SameGrant record record' ∧ record'.status = .revoked) ∨
      ∃ tenantId userId mailboxId platform scopes credentialHandle,
        c.op = .grantConsent tenantId userId mailboxId platform scopes credentialHandle ∧
        key = (tenantId, userId, mailboxId, platform) ∧
        ScopeSet.validate scopes platform = .ok () ∧
        (step googleOAuth microsoftOAuth w c).authorizations.find key
          = some (grantedRow w.authorizations c.env.now tenantId userId mailboxId platform scopes
              credentialHandle) := by
  unfold step
  rcases c with ⟨op, env⟩
  rcases op with ⟨tenantId, userId, mailboxId, platform, scopes, handle⟩ |
    ⟨tenantId, mailboxId, reason⟩ | ⟨tenantId⟩ <;> dsimp only
  · rcases find_grantConsent w env tenantId userId mailboxId platform scopes handle key with
      h | ⟨hkey, hvalid, h⟩
    · exact .inl h
    · exact .inr (.inr ⟨tenantId, userId, mailboxId, platform, scopes, handle, rfl, hkey, hvalid, h⟩)
  · rcases find_revoke googleOAuth microsoftOAuth w env tenantId mailboxId reason key with
      h | ⟨record, hrecord, h⟩
    · exact .inl h
    · exact .inr (.inl ⟨record, _, hrecord, h, sameGrant_setStatus _ _ _, rfl⟩)
  · rcases find_revokeAllForTenant googleOAuth microsoftOAuth w env tenantId key with
      h | ⟨record, hrecord, h⟩
    · exact .inl h
    · exact .inr (.inl ⟨record, _, hrecord, h, ⟨_, _, rfl⟩, rfl⟩)

/-- A stored row stays at its key with what it was granted with. -/
theorem exists_find_step {w : World σ} {key : String × String × String × Platform}
    {record : MailboxAuthorizationRow} (h : w.authorizations.find key = some record) (c : Call) :
    ∃ record', (step googleOAuth microsoftOAuth w c).authorizations.find key = some record' ∧
      SameGrant record record' := by
  rcases find_step googleOAuth microsoftOAuth w c key with hkeep |
    ⟨r, record', hr, hrevoked, hsame, -⟩ |
    ⟨tenantId, userId, mailboxId, platform, scopes, handle, -, hkey, -, hgranted⟩
  · exact ⟨record, hkeep.trans h, .refl record⟩
  · rw [h] at hr
    obtain rfl := Option.some.inj hr
    exact ⟨record', hrevoked, hsame⟩
  · rw [hkey] at h
    rw [grantedRow_of_find_eq_some h] at hgranted
    exact ⟨_, hgranted, sameGrant_setStatus _ _ _⟩

/-- Every stored row can be loaded. -/
def ScopesValid (t : MailboxAuthorizationTable) : Prop :=
  ∀ r ∈ t.rows, ScopeSet.validate r.scopeSet r.platform = .ok ()

/-- A call of the service stores valid scopes only. -/
theorem scopesValid_step {w : World σ} (h : ScopesValid w.authorizations) (c : Call) :
    ScopesValid (step googleOAuth microsoftOAuth w c).authorizations := by
  intro r' hr'
  have hfind' := Table.find_key hr'
  rcases hfind : w.authorizations.find (Schema.key r') with _ | r
  · rcases find_step googleOAuth microsoftOAuth w c (Schema.key r') with hkeep |
      ⟨r, -, hr, -⟩ | ⟨tenantId, userId, mailboxId, platform, scopes, handle, -, hkey, hvalid, hgranted⟩
    · rw [hfind', hfind] at hkeep
      cases hkeep
    · rw [hfind] at hr
      cases hr
    · -- a new row has the scopes it was granted with
      rw [hkey] at hfind
      rw [hfind'] at hgranted
      rw [Option.some.inj hgranted]
      unfold grantedRow
      rw [hfind]
      exact hvalid
  · obtain ⟨r'', hr'', hsame⟩ := exists_find_step googleOAuth microsoftOAuth hfind c
    rw [hfind'] at hr''
    obtain rfl := Option.some.inj hr''
    obtain ⟨status, refreshed, rfl⟩ := hsame
    exact h r (Table.find_eq_some_iff.mp hfind).1

end

/-! ## Histories with a vault

The same along any history, in which secrets are stored and calls fail in between.
-/

/-- What happens to the store and the vault: a call of the service, with the failures its adapters meet
for each handle, or a secret that is stored under the handle the vault draws. -/
inductive VaultEvent where
  | call (c : Call) (vaultFails : String → ℕ → Bool)
  | store (handle secret : String)

/-- The store and the vault after an event. -/
def vaultStep (w : World Vault) : VaultEvent → World Vault
  | .call c vaultFails => step (GoogleOAuthAdapter vaultFails) (MicrosoftOAuthAdapter vaultFails) w c
  | .store handle secret =>
    { w with providers := MockSecretsVaultAdapter.store handle secret w.providers }

/-- Whatever happens, a stored row stays at its key with what it was granted with. -/
theorem exists_find_foldl_vaultStep {w : World Vault} {record : MailboxAuthorizationRow}
    (h : record ∈ w.authorizations.rows) (events : List VaultEvent) :
    ∃ record', (events.foldl vaultStep w).authorizations.find (Schema.key record) = some record' ∧
      SameGrant record record' := by
  refine foldl_invariant (f := vaultStep)
    (I := fun w => ∃ record', w.authorizations.find (Schema.key record) = some record' ∧
      SameGrant record record') ?_ ⟨record, Table.find_key h, .refl record⟩ events
  rintro w event ⟨record', hfind, hsame⟩
  rcases event with ⟨c, vaultFails⟩ | ⟨handle, secret⟩
  · obtain ⟨record'', hfind', hsame'⟩ :=
      exists_find_step (GoogleOAuthAdapter vaultFails) (MicrosoftOAuthAdapter vaultFails) hfind c
    exact ⟨record'', hfind', hsame.trans hsame'⟩
  · exact ⟨record', hfind, hsame⟩

/-- After any events all stored scopes are valid. -/
theorem scopesValid_foldl_vaultStep {w : World Vault} (h : ScopesValid w.authorizations)
    (events : List VaultEvent) : ScopesValid (events.foldl vaultStep w).authorizations := by
  refine foldl_invariant (f := vaultStep) (I := fun w => ScopesValid w.authorizations) ?_ h events
  rintro w (⟨c, vaultFails⟩ | ⟨handle, secret⟩) h
  · exact scopesValid_step _ _ h c
  · exact h

end EmailTriage.IdentityAccess
