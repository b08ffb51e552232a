import EmailTriage.IdentityAccess.AuthorizationHistories

/-!
# The suspension of a tenant

`revokeAllForTenant` asks the adapter of each active authorization of the tenant to revoke its
credential, goes on when one of them fails, and then revokes the rows in one update. When credential
handles are pairwise distinct, a call touches no secret but that of its own authorization, so a secret
that a call has deleted stays deleted (`vaultAfter_of_callSucceeds`).

The calls to the providers come first and may fail one by one; the update of the rows does not depend
on them. So the proof is in two parts, the vault after the loop over the authorizations, and the rows
after the update, and `revokeAllForTenant_complete` puts them together: the credentials of the calls
that succeeded are gone, all rows of the tenant are revoked, and other tenants keep theirs.
-/

namespace EmailTriage.IdentityAccess

open Js Db Runs MailboxAuthorizationRepository MailboxAuthorizationService
open MailboxIngestion (Platform)

/-! ## The vault

What is left in the vault after the adapters were called for a list of rows, of which some calls may fail.
-/

section

variable (vaultFails : String → ℕ → Bool)

/-- The vault after the adapters were asked to revoke the credentials of some rows. -/
def vaultAfter (vault : Vault) (rows : List MailboxAuthorizationRow) : Vault :=
  afterCalls (GoogleOAuthAdapter vaultFails) (MicrosoftOAuthAdapter vaultFails) vault
    (rows.map fun r => (r.platform, r.credentialHandle))

/-- Whether the adapter call for a row succeeds. -/
def callSucceeds (vault : Vault) (r : MailboxAuthorizationRow) : Bool :=
  returns ((adapterOf (GoogleOAuthAdapter vaultFails) (MicrosoftOAuthAdapter vaultFails)
    r.platform).revoke r.credentialHandle) vault

variable {vaultFails}

/-- Revoking one credential leaves the other secrets. -/
theorem after_revoke_of_ne {platform : Platform} {credentialHandle handle : String}
    (h : handle ≠ credentialHandle) (vault : Vault) :
    after ((adapterOf (GoogleOAuthAdapter vaultFails) (MicrosoftOAuthAdapter vaultFails)
      platform).revoke credentialHandle) vault handle = vault handle := by
  rw [revoke_adapterOf]
  rcases revokeCredential_cases (vaultFails credentialHandle) credentialHandle vault with
    ⟨-, -, -, hrun⟩ | ⟨-, e, hrun⟩
  · rw [after_of_ok hrun, Function.update_of_ne h]
  · rw [after_of_error hrun]

/-- A call that succeeds has deleted the secret. -/
theorem after_revoke_of_callSucceeds {vault : Vault} {r : MailboxAuthorizationRow}
    (h : callSucceeds vaultFails vault r = true) :
    after ((adapterOf (GoogleOAuthAdapter vaultFails) (MicrosoftOAuthAdapter vaultFails)
      r.platform).revoke r.credentialHandle) vault r.credentialHandle = none := by
  unfold callSucceeds at h
  rw [revoke_adapterOf] at h ⊢
  rcases revokeCredential_cases (vaultFails r.credentialHandle) r.credentialHandle vault with
    ⟨-, -, -, hrun⟩ | ⟨-, e, hrun⟩
  · rw [after_of_ok hrun, Function.update_self]
  · rw [returns_of_error hrun] at h
    cases h

/-- The calls for some rows touch only the secrets of these rows. -/
theorem vaultAfter_of_forall_ne {handle : String} {rows : List MailboxAuthorizationRow}
    (h : ∀ r ∈ rows, handle ≠ r.credentialHandle) (vault : Vault) :
    vaultAfter vaultFails vault rows handle = vault handle := by
  induction rows generalizing vault with
  | nil => rfl
  | cons r rows ih =>
    have hcall := @after_revoke_of_ne vaultFails r.platform _ _ (h r List.mem_cons_self) vault
    exact (ih (fun r' hr' => h r' (List.mem_cons_of_mem r hr')) _).trans hcall

/-- The calls for pairwise distinct handles: one that succeeds leaves no secret, whatever comes before
and after it. -/
theorem vaultAfter_of_callSucceeds {vault : Vault} {before behind : List MailboxAuthorizationRow}
    {r : MailboxAuthorizationRow}
    (hdistinct : ((before ++ r :: behind).map MailboxAuthorizationRow.credentialHandle).Nodup)
    (h : callSucceeds vaultFails (vaultAfter vaultFails vault before) r = true) :
    vaultAfter vaultFails vault (before ++ r :: behind) r.credentialHandle = none := by
  rw [List.map_append, List.map_cons] at hdistinct
  -- no later call is for the same handle
  have hbehind : ∀ r' ∈ behind, r.credentialHandle ≠ r'.credentialHandle := by
    intro r' hr' heq
    have hnotin := (List.nodup_cons.mp (List.nodup_append.mp hdistinct).2.1).1
    rw [heq] at hnotin
    exact hnotin (List.mem_map_of_mem hr')
  have hsplit : vaultAfter vaultFails vault (before ++ r :: behind) = vaultAfter vaultFails
      (after ((adapterOf (GoogleOAuthAdapter vaultFails) (MicrosoftOAuthAdapter vaultFails)
        r.platform).revoke r.credentialHandle) (vaultAfter vaultFails vault before)) behind := by
    unfold vaultAfter afterCalls
    rw [List.map_append, List.foldl_append]
    rfl
  rw [hsplit, vaultAfter_of_forall_ne hbehind, after_revoke_of_callSucceeds h]

end

/-! ## The rows

No row of the tenant is active after the update, and the rows of the others are as they were.
-/

/-- No authorization of the tenant is active after the update. -/
theorem status_ne_active_of_mem_updateMany {t : MailboxAuthorizationTable} {tenantId : String}
    {r : MailboxAuthorizationRow} (hr : r ∈ (t.updateMany (isActiveOf tenantId) revokeData).rows)
    (htenant : r.tenantId = tenantId) : r.status ≠ .active := by
  obtain ⟨r₀, -, rfl⟩ := List.mem_map.mp hr
  by_cases hactive : isActiveOf tenantId r₀ = true
  · rw [if_pos hactive]
    exact AuthorizationStatus.noConfusion
  · rw [if_neg hactive] at htenant ⊢
    intro hstatus
    unfold isActiveOf at hactive
    simp [htenant, hstatus] at hactive

/-- The rows of other tenants are as they were. -/
theorem mem_updateMany_iff {t : MailboxAuthorizationTable} {tenantId : String}
    {r : MailboxAuthorizationRow} (htenant : r.tenantId ≠ tenantId) :
    r ∈ (t.updateMany (isActiveOf tenantId) revokeData).rows ↔ r ∈ t.rows := by
  have hother : ∀ r₀ : MailboxAuthorizationRow, r₀.tenantId ≠ tenantId →
      ¬isActiveOf tenantId r₀ = true := by
    intro r₀ h hactive
    unfold isActiveOf at hactive
    simp [h] at hactive
  constructor
  · intro hr
    obtain ⟨r₀, hr₀, hpatched⟩ := List.mem_map.mp hr
    have htenant₀ : r₀.tenantId ≠ tenantId := by
      intro h
      apply htenant
      rw [← hpatched, ← h]
      split
      · rfl
      · rfl
    rw [if_neg (hother r₀ htenant₀)] at hpatched
    rw [← hpatched]
    exact hr₀
  · intro hr
    exact List.mem_map.mpr ⟨r, hr, if_neg (hother r htenant)⟩

/-- The suspension of a tenant, whatever the adapters do. It returns; no authorization of the tenant is
active; the secret of each row whose adapter call succeeded, when its turn came, is deleted; and the
rows, the secrets and the consent grants of everyone else are as before. -/
theorem revokeAllForTenant_complete (vaultFails : String → ℕ → Bool) (w : World Vault) (env : Env)
    (tenantId : String) (hvalid : ScopesValid w.authorizations)
    (hdistinct : (w.authorizations.rows.map MailboxAuthorizationRow.credentialHandle).Nodup)
    (h0 : env.fails 0 = false) (h1 : env.fails 1 = false) :
    let call := MailboxAuthorizationService.revokeAllForTenant (GoogleOAuthAdapter vaultFails)
      (MicrosoftOAuthAdapter vaultFails) env tenantId
    let w' := after call w
    returns call w = true ∧
      (∀ r ∈ w'.authorizations.rows, r.tenantId = tenantId → r.status ≠ .active) ∧
      (∀ before r behind, activeOf w tenantId = before ++ r :: behind →
        callSucceeds vaultFails (vaultAfter vaultFails w.providers before) r = true →
        w'.providers r.credentialHandle = none) ∧
      (∀ r, r.tenantId ≠ tenantId → (r ∈ w'.authorizations.rows ↔ r ∈ w.authorizations.rows)) ∧
      (∀ r ∈ w.authorizations.rows, r.tenantId ≠ tenantId →
        w'.providers r.credentialHandle = w.providers r.credentialHandle) ∧
      w'.consentGrants = w.consentGrants := by
  intro call w'
  have hactive : ∀ r ∈ activeOf w tenantId, r ∈ w.authorizations.rows ∧ r.tenantId = tenantId := by
    intro r hr
    obtain ⟨hmem, hmatch⟩ := List.mem_filter.mp hr
    unfold isActiveOf at hmatch
    simp only [Bool.and_eq_true, decide_eq_true_eq] at hmatch
    exact ⟨hmem, hmatch.1⟩
  rcases revokeAllForTenant_cases (GoogleOAuthAdapter vaultFails) (MicrosoftOAuthAdapter vaultFails)
    env tenantId w with ⟨hcond, -⟩ | ⟨-, providers, hproviders, ⟨hfails, -⟩ | ⟨-, hrun⟩⟩
  · exact absurd ⟨h0, fun r hr => hvalid r (hactive r hr).1⟩ hcond
  · rw [h1] at hfails
    cases hfails
  · have hw' : w' = { w with
        providers
        authorizations := w.authorizations.updateMany (isActiveOf tenantId) revokeData } :=
      after_of_ok hrun
    have hvault : providers = vaultAfter vaultFails w.providers (activeOf w tenantId) := hproviders
    refine ⟨returns_of_ok hrun, ?_, ?_, ?_, ?_, ?_⟩
    · rw [hw']
      exact fun r hr htenant => status_ne_active_of_mem_updateMany hr htenant
    · intro before r behind hsplit hsucceeds
      have hsub : ((before ++ r :: behind).map MailboxAuthorizationRow.credentialHandle).Nodup := by
        rw [← hsplit]
        exact hdistinct.sublist (List.filter_sublist.map _)
      rw [hw', hvault, hsplit]
      exact vaultAfter_of_callSucceeds hsub hsucceeds
    · intro r htenant
      rw [hw']
      exact mem_updateMany_iff htenant
    · intro r hr htenant
      rw [hw', hvault]
      refine vaultAfter_of_forall_ne (fun r' hr' heq => htenant ?_) _
      -- handles are distinct, so the row that shares the handle is the same one
      have hsame := List.inj_on_of_nodup_map hdistinct hr (hactive r' hr').1 heq
      rw [hsame]
      exact (hactive r' hr').2
    · rw [hw']

/-- An active authorization of a tenant. -/
def authorizationOf (id : ℕ) (tenantId credentialHandle : String) : MailboxAuthorizationRow where
  id := id
  tenantId := tenantId
  userId := "user"
  mailboxId := credentialHandle
  platform := .gmail
  scopeSet := ["gmail.modify", "gmail.labels"]
  consentGrantedAt := 0
  lastTokenRefreshedAt := none
  credentialHandle := credentialHandle
  status := .active

/-- Two tenants, the first one with two mailboxes. -/
def twoTenants : World Vault where
  authorizations :=
    { rows := [authorizationOf 1 "tenant" "first", authorizationOf 2 "tenant" "second",
        authorizationOf 3 "other" "third"]
      id_nodup := by decide
      key_nodup := by decide }
  consentGrants := []
  emitted := []
  providers _ := some "token"

/-- The adapter fails for the first mailbox; the secret of the second is deleted all the same, and that
of the other tenant is kept. -/
theorem revokeAllForTenant_twoTenants :
    let vaultFails := fun handle _ => decide (handle = "first")
    let call := MailboxAuthorizationService.revokeAllForTenant (GoogleOAuthAdapter vaultFails)
      (MicrosoftOAuthAdapter vaultFails) ⟨fun _ => false, 1, 0⟩ "tenant"
    returns call twoTenants = true ∧ (after call twoTenants).providers "second" = none ∧
      (after call twoTenants).providers "third" = some "token" := by
  intro vaultFails call
  have hvalid : ScopesValid twoTenants.authorizations :=
    List.forall_mem_cons.mpr ⟨rfl, List.forall_mem_cons.mpr ⟨rfl, List.forall_mem_singleton.mpr rfl⟩⟩
  obtain ⟨hreturns, -, hdeleted, -, hkept, -⟩ := revokeAllForTenant_complete vaultFails twoTenants
    ⟨fun _ => false, 1, 0⟩ "tenant" hvalid (by decide) rfl rfl
  refine ⟨hreturns, ?_, ?_⟩
  · exact hdeleted [authorizationOf 1 "tenant" "first"] (authorizationOf 2 "tenant" "second") [] rfl
      (by decide)
  · exact hkept (authorizationOf 3 "other" "third") (.tail _ (.tail _ (.head _))) (by decide)

end EmailTriage.IdentityAccess
