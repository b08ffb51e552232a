import EmailTriage.IdentityAccess.AuthorizationHistories

/-!
# Revoking a mailbox

`revoke` looks its authorization up by tenant and mailbox, takes whichever row the database answers
with, and asks the vault to delete its secret before it saves the row.

* After the secret is deleted and the save has failed, a retry finds no secret and throws.
  `converges_iff` says from which states a retry without failures converges.
* Other rows of the mailbox stay as they are, and a row that is not active makes the call throw.
  `revokesMailbox_iff` says for which stores one call is enough.
-/

namespace EmailTriage.IdentityAccess

open Js Db Runs MailboxAuthorizationRepository MailboxAuthorizationService
open MailboxIngestion (Platform)

/-! ## Retries

A revocation deletes the secret before it saves the row. Whether a retry converges is decided by the row
that it finds and by whether the vault still holds that row's secret.
-/

/-- The stored authorization of `record` is revoked, and its secret is absent from the vault. -/
def IsRevoked (w : World Vault) (record : MailboxAuthorizationRow) : Prop :=
  (∃ r, w.authorizations.find (Schema.key record) = some r ∧ r.status = .revoked) ∧
    w.providers record.credentialHandle = none

/-- A revocation of the mailbox of `record` in which nothing fails returns and revokes it. -/
def Converges (w : World Vault) (record : MailboxAuthorizationRow) (now : ℤ) (pick : ℕ)
    (reason : RevocationReason) : Prop :=
  let retry := revoke (GoogleOAuthAdapter fun _ _ => false) (MicrosoftOAuthAdapter fun _ _ => false)
    ⟨fun _ => false, now, pick⟩ record.tenantId record.mailboxId reason
  returns retry w = true ∧ IsRevoked (after retry w) record

/-- The row the database answers with is active, it can be loaded, and the vault holds its secret. It is
the row of `record`, unless that one is revoked already and left no secret of its own. -/
def CanRevoke (w : World Vault) (record : MailboxAuthorizationRow) (pick : ℕ) : Prop :=
  ∃ row, w.authorizations.findFirst pick
      (fun r => r.tenantId = record.tenantId && r.mailboxId = record.mailboxId) = some row ∧
    row.status = .active ∧ ScopeSet.validate row.scopeSet row.platform = .ok () ∧
    w.providers.Holds row.credentialHandle ∧
    (Schema.key row = Schema.key record ∨
      (∃ r, w.authorizations.find (Schema.key record) = some r ∧ r.status = .revoked) ∧
        (w.providers record.credentialHandle = none ∨
          row.credentialHandle = record.credentialHandle))

/-- What a revocation that sets `row` does to the authorization of `record`. -/
theorem isRevoked_iff {w : World Vault} {record row : MailboxAuthorizationRow}
    {t' : MailboxAuthorizationTable} {now : ℤ}
    (hfind : ∀ key, t'.find key = if key = Schema.key row then some (row.setStatus .revoked now)
      else w.authorizations.find key)
    (hhandle : Schema.key row = Schema.key record →
      row.credentialHandle = record.credentialHandle) :
    IsRevoked { w with
        authorizations := t'
        providers := Function.update w.providers row.credentialHandle none } record ↔
      Schema.key row = Schema.key record ∨
        (∃ r, w.authorizations.find (Schema.key record) = some r ∧ r.status = .revoked) ∧
          (w.providers record.credentialHandle = none ∨
            row.credentialHandle = record.credentialHandle) := by
  unfold IsRevoked
  dsimp only
  rw [hfind, Function.update_apply]
  by_cases hkey : Schema.key row = Schema.key record
  · rw [if_pos hkey.symm, if_pos (hhandle hkey).symm]
    exact iff_of_true ⟨⟨_, rfl, rfl⟩, rfl⟩ (.inl hkey)
  · rw [if_neg fun h => hkey h.symm, or_iff_right hkey]
    refine and_congr_right fun _ => ?_
    by_cases heq : record.credentialHandle = row.credentialHandle
    · rw [if_pos heq]
      exact iff_of_true rfl (.inr heq.symm)
    · rw [if_neg heq]
      exact (or_iff_left fun h => heq h.symm).symm

/-- When a retry converges, from a world in which the authorization is stored. -/
theorem converges_iff_of_find {w : World Vault} {record stored : MailboxAuthorizationRow}
    (hstored : w.authorizations.find (Schema.key record) = some stored)
    (hhandle : stored.credentialHandle = record.credentialHandle) (now : ℤ) (pick : ℕ)
    (reason : RevocationReason) : Converges w record now pick reason ↔ CanRevoke w record pick := by
  unfold Converges
  rcases revoke_cases (GoogleOAuthAdapter fun _ _ => false) (MicrosoftOAuthAdapter fun _ _ => false) w
    ⟨fun _ => false, now, pick⟩ record.tenantId record.mailboxId reason with
    ⟨row, providers, t', ⟨-, -, hrow, hvalid, hactive, hadapter⟩, hrun, hfind⟩ |
    ⟨hcond, e, providers, hrun⟩
  · rw [revoke_adapterOf] at hadapter
    have hrowmem := (Table.of_findFirst_eq_some hrow).1
    have hown : Schema.key row = Schema.key record →
        row.credentialHandle = record.credentialHandle := by
      intro hkey
      rw [← hkey, Table.find_key hrowmem] at hstored
      rw [Option.some.inj hstored, hhandle]
    rcases revokeCredential_cases (fun _ => false) row.credentialHandle w.providers with
      ⟨-, -, hholds, hrevoke⟩ | ⟨-, e, hthrow⟩
    · rw [hrevoke] at hadapter
      obtain ⟨-, rfl⟩ := EStateM.Result.ok.inj hadapter
      dsimp only
      rw [returns_of_ok hrun, after_of_ok hrun, isRevoked_iff hfind hown, eq_self_iff_true, true_and]
      constructor
      · intro h
        exact ⟨row, hrow, hactive, hvalid, hholds, h⟩
      · rintro ⟨row', hrow', -, -, -, h⟩
        obtain rfl := Option.some.inj (hrow.symm.trans hrow')
        exact h
    · rw [hthrow] at hadapter
      cases hadapter
  · dsimp only
    rw [returns_of_error hrun]
    refine iff_of_false (fun h => Bool.false_ne_true h.1) ?_
    -- a call in which nothing fails revokes the row it finds
    rintro ⟨row, hrow, hactive, hvalid, hholds, -⟩
    rcases revokeCredential_cases (fun _ => false) row.credentialHandle w.providers with
      ⟨-, -, -, hrevoke⟩ | ⟨hfails, -⟩
    · refine hcond ⟨row, Function.update w.providers row.credentialHandle none, rfl, rfl, hrow, hvalid,
        hactive, ?_⟩
      rw [revoke_adapterOf]
      exact hrevoke
    · exact hfails ⟨rfl, rfl, hholds⟩

/-- After anything that may happen to an authorization that is stored, revocations with failures
included, a retry without failures converges exactly when the database answers it with an active,
loadable row whose secret the vault still holds: its own row, unless the authorization is revoked
already and its secret gone. -/
theorem converges_iff {w : World Vault} {record : MailboxAuthorizationRow}
    (hrecord : record ∈ w.authorizations.rows) (events : List VaultEvent) (now : ℤ) (pick : ℕ)
    (reason : RevocationReason) :
    Converges (events.foldl vaultStep w) record now pick reason ↔
      CanRevoke (events.foldl vaultStep w) record pick := by
  obtain ⟨stored, hstored, status, refreshed, rfl⟩ := exists_find_foldl_vaultStep hrecord events
  exact converges_iff_of_find hstored rfl now pick reason

/-- An active authorization whose secret the vault holds. -/
def grantedMailbox : MailboxAuthorizationRow where
  id := 1
  tenantId := "tenant"
  userId := "user"
  mailboxId := "mailbox"
  platform := .gmail
  scopeSet := ["gmail.modify", "gmail.labels"]
  consentGrantedAt := 0
  lastTokenRefreshedAt := none
  credentialHandle := "handle"
  status := .active

def grantedWorld : World Vault where
  authorizations := ⟨[grantedMailbox], by simp, by simp⟩
  consentGrants := [⟨1, ["gmail.modify", "gmail.labels"], 0⟩]
  emitted := []
  providers := MockSecretsVaultAdapter.store "handle" "token" fun _ => none

/-- The mailbox has a revoked authorization of the other platform too, whose secret is gone, and
another tenant has an active one for a mailbox of that name. -/
def severalGrants : World Vault where
  authorizations :=
    ⟨[grantedMailbox,
      { grantedMailbox with
        id := 2, platform := .outlook, scopeSet := ["Mail.ReadWrite", "MailboxSettings.ReadWrite"]
        credentialHandle := "old", status := .revoked },
      { grantedMailbox with
        id := 3, tenantId := "tenant-2", credentialHandle := "other" }], by decide, by decide⟩
  consentGrants := [⟨1, ["gmail.modify", "gmail.labels"], 0⟩]
  emitted := []
  providers :=
    MockSecretsVaultAdapter.store "other" "token-2"
      (MockSecretsVaultAdapter.store "handle" "token" fun _ => none)

/-- A revocation in which the first database call fails. -/
def failedLookup : List VaultEvent :=
  [.call ⟨.revoke "tenant" "mailbox" .user_initiated, ⟨fun k => k = 0, 1, 0⟩⟩ fun _ _ => false]

/-- A revocation that failed before it touched the vault is retried, and the retry converges. -/
theorem converges_after_failed_lookup :
    Converges (failedLookup.foldl vaultStep severalGrants) grantedMailbox 2 0 .user_initiated := by
  have hrecord : grantedMailbox ∈ severalGrants.authorizations.rows := List.mem_cons_self
  have hholds : (failedLookup.foldl vaultStep severalGrants).providers.Holds "handle" :=
    ⟨"token", rfl, by decide⟩
  exact (converges_iff hrecord failedLookup 2 0 .user_initiated).mpr
    ⟨grantedMailbox, rfl, rfl, rfl, hholds, .inl rfl⟩

/-- A revocation whose save fails has deleted the secret, and the retry throws. -/
theorem not_converges_after_failed_save :
    grantedMailbox ∈ grantedWorld.authorizations.rows ∧ grantedMailbox.status = .active ∧
      ¬Converges ([.call ⟨.revoke "tenant" "mailbox" .user_initiated, ⟨fun k => k = 1, 1, 0⟩⟩
        fun _ _ => false].foldl vaultStep grantedWorld) grantedMailbox 2 0 .user_initiated := by
  refine ⟨List.mem_singleton.mpr rfl, rfl, ?_⟩
  rintro ⟨hreturns, -⟩
  revert hreturns
  decide +kernel

/-! ## Mailboxes with several authorizations

A mailbox may have a row for each user and platform. A revocation takes one of them, whichever the
database answers first.
-/

section

variable {σ : Type} (googleOAuth microsoftOAuth : OAuthProviderPort σ)

/-- A revocation of a mailbox returns, and no authorization of the mailbox is active afterwards. -/
def RevokesMailbox (w : World σ) (env : Env) (tenantId mailboxId : String)
    (reason : RevocationReason) : Prop :=
  let call := revoke googleOAuth microsoftOAuth env tenantId mailboxId reason
  returns call w = true ∧ ∀ r ∈ (after call w).authorizations.rows,
    r.tenantId = tenantId → r.mailboxId = mailboxId → r.status ≠ .active

/-- When no database call fails and the providers agree for the active authorizations of the mailbox, a
revocation is complete exactly when the row the database answers with can be loaded and is the only
active one. -/
theorem revokesMailbox_iff {w : World σ} {env : Env} {tenantId mailboxId : String}
    (hfails : ∀ k, env.fails k = false)
    (hadapter : ∀ r ∈ w.authorizations.rows, r.tenantId = tenantId → r.mailboxId = mailboxId →
      r.status = .active →
      returns ((adapterOf googleOAuth microsoftOAuth r.platform).revoke r.credentialHandle) w.providers
        = true)
    (reason : RevocationReason) :
    RevokesMailbox googleOAuth microsoftOAuth w env tenantId mailboxId reason ↔
      ∃ row, w.authorizations.findFirst env.pick
          (fun r => r.tenantId = tenantId && r.mailboxId = mailboxId) = some row ∧
        row.status = .active ∧ ScopeSet.validate row.scopeSet row.platform = .ok () ∧
        ∀ r ∈ w.authorizations.rows, r.tenantId = tenantId → r.mailboxId = mailboxId →
          r.status = .active → r = row := by
  unfold RevokesMailbox
  rcases revoke_cases googleOAuth microsoftOAuth w env tenantId mailboxId reason with
    ⟨row, providers, t', ⟨-, -, hrow, hvalid, hactive, -⟩, hrun, hfind⟩ | ⟨hcond, e, providers, hrun⟩
  · dsimp only
    rw [returns_of_ok hrun, after_of_ok hrun, eq_self_iff_true, true_and]
    constructor
    · intro h
      refine ⟨row, hrow, hactive, hvalid, fun r hr htenant hmailbox hr' => ?_⟩
      by_contra hne
      -- any other active row is still there
      have hkey : Schema.key r ≠ Schema.key row := fun hkey =>
        hne (Table.eq_of_key_eq hr (Table.of_findFirst_eq_some hrow).1 hkey)
      have hstays := (hfind (Schema.key r)).trans (if_neg hkey)
      rw [Table.find_key hr] at hstays
      exact h r (Table.find_eq_some_iff.mp hstays).1 htenant hmailbox hr'
    · rintro ⟨row', hrow', -, -, honly⟩ r hr htenant hmailbox hr'
      obtain rfl := Option.some.inj (hrow.symm.trans hrow')
      have hr₀ := (hfind (Schema.key r)).symm.trans (Table.find_key hr)
      by_cases hkey : Schema.key r = Schema.key row
      · rw [if_pos hkey] at hr₀
        rw [← Option.some.inj hr₀] at hr'
        cases hr'
      · rw [if_neg hkey] at hr₀
        exact hkey (congrArg Schema.key
          (honly r (Table.find_eq_some_iff.mp hr₀).1 htenant hmailbox hr'))
  · dsimp only
    rw [returns_of_error hrun]
    refine iff_of_false (fun h => Bool.false_ne_true h.1) ?_
    rintro ⟨row, hrow, hactive, hvalid, -⟩
    obtain ⟨hmem, hmatch⟩ := Table.of_findFirst_eq_some hrow
    obtain ⟨htenant, hmailbox⟩ : row.tenantId = tenantId ∧ row.mailboxId = mailboxId := by
      simpa using hmatch
    obtain ⟨⟨⟩, hadapter⟩ := exists_of_returns (hadapter row hmem htenant hmailbox hactive)
    exact hcond ⟨row, _, hfails 0, hfails 1, hrow, hvalid, hactive, hadapter⟩

/-- The revocation of a mailbox whose other authorization is revoked already. -/
theorem revokesMailbox_severalGrants :
    RevokesMailbox (GoogleOAuthAdapter fun _ _ => false)
      (MicrosoftOAuthAdapter fun _ _ => false) severalGrants
      ⟨fun _ => false, 1, 0⟩ "tenant" "mailbox" .user_initiated := by
  have hactive : ∀ r ∈ severalGrants.authorizations.rows, r.tenantId = "tenant" → r.mailboxId = "mailbox" →
      r.status = .active → r = grantedMailbox := by
    intro r hr htenant _ hstatus
    simp only [severalGrants, List.mem_cons, List.not_mem_nil, or_false] at hr
    rcases hr with rfl | rfl | rfl
    · rfl
    · exact absurd hstatus (by decide)
    · exact absurd htenant (by decide)
  refine (revokesMailbox_iff (GoogleOAuthAdapter fun _ _ => false) (MicrosoftOAuthAdapter fun _ _ => false)
    (fun _ => rfl) ?_ .user_initiated).mpr ⟨grantedMailbox, rfl, rfl, rfl, hactive⟩
  intro r hr htenant hmailbox hstatus
  rw [hactive r hr htenant hmailbox hstatus]
  decide +kernel

/-- A mailbox that is granted again on the other platform after its first grant was revoked. -/
def grantedOnBoth : World Unit :=
  [⟨.grantConsent "tenant" "user" "mailbox" .gmail ["gmail.modify", "gmail.labels"] "first",
     ⟨fun _ => false, 0, 0⟩⟩,
   ⟨.revoke "tenant" "mailbox" .user_initiated, ⟨fun _ => false, 1, 0⟩⟩,
   ⟨.grantConsent "tenant" "user" "mailbox" .outlook ["Mail.ReadWrite", "MailboxSettings.ReadWrite"]
     "second", ⟨fun _ => false, 2, 0⟩⟩].foldl
    (step ⟨fun _ => pure ()⟩ ⟨fun _ => pure ()⟩) ⟨Table.empty, [], [], ()⟩

/-- The database may answer with the revoked row, and the active one cannot be revoked. -/
theorem not_revokesMailbox_grantedOnBoth :
    (grantedOnBoth.authorizations.rows.any fun r =>
        r.tenantId = "tenant" && r.mailboxId = "mailbox" && r.status = .active) = true ∧
      ¬RevokesMailbox ⟨fun _ => pure ()⟩ ⟨fun _ => pure ()⟩ grantedOnBoth ⟨fun _ => false, 3, 0⟩ "tenant"
        "mailbox" .user_initiated := by
  refine ⟨by decide +kernel, ?_⟩
  rintro ⟨hreturns, -⟩
  revert hreturns
  decide +kernel

end

end EmailTriage.IdentityAccess
