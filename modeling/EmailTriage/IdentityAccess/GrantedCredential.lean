import EmailTriage.IdentityAccess.AuthorizationHistories

/-!
# The credential a grant stores

The upsert of `save` sets the credential, the scopes and the consent time of a new row only: its update
branch leaves them as an earlier grant wrote them. A grant is therefore stored as it was given when no
row is at its key, or when the row there happens to have the same credential and consent time
(`storesGrant_iff`).

The condition is about the row at the key before the grant. It is stated for a store after any history
of grants, revocations and suspensions with any failures, which is why the scopes need no clause: those
of a stored row are valid, and a platform has one valid set of them.
-/

namespace EmailTriage.IdentityAccess

open Js Db Runs MailboxAuthorizationRepository MailboxAuthorizationService
open MailboxIngestion (Platform)

/-- The authorization loaded at the key of a grant is active and has its credential, scopes and time of
consent; and if the vault held that credential before, it holds the one that is loaded. -/
def StoresGrant (w w' : World Vault) (now : ℤ) (tenantId userId mailboxId : String)
    (platform : Platform) (scopes : List String) (credentialHandle : String) : Prop :=
  ∃ record auth, w'.authorizations.find (tenantId, userId, mailboxId, platform) = some record ∧
    load record = .ok auth ∧ auth.status = .active ∧ auth.credentialHandle = credentialHandle ∧
    (∀ scope, scope ∈ auth.getScopes ↔ scope ∈ scopes) ∧ auth.consentGrantedAt = now ∧
    (w.providers.Holds credentialHandle → w'.providers.Holds auth.credentialHandle)

section

variable {w : World Vault} {now : ℤ} {tenantId userId mailboxId : String} {platform : Platform}
  {scopes : List String} {credentialHandle : String}

/-- What is loaded is the grant when the row at its key has the credential and the time of consent. -/
theorem storesGrant_iff_of_find {t' : MailboxAuthorizationTable} {record : MailboxAuthorizationRow}
    (hfind : t'.find (tenantId, userId, mailboxId, platform) = some record)
    (hplatform : record.platform = platform) (hactive : record.status = .active)
    (hrecord : ScopeSet.validate record.scopeSet record.platform = .ok ())
    (hvalid : ScopeSet.validate scopes platform = .ok ()) (grants : List ConsentGrantRow) :
    StoresGrant w { w with authorizations := t', consentGrants := grants } now tenantId userId
        mailboxId platform scopes credentialHandle ↔
      record.credentialHandle = credentialHandle ∧ record.consentGrantedAt = now := by
  obtain ⟨auth, hload, -, -, hhandle, hscopes, htime, hstatus, -⟩ := load_of_validate hrecord
  constructor
  · rintro ⟨record', auth', hfind', hload', -, hhandle', -, htime', -⟩
    obtain rfl := Option.some.inj (hfind.symm.trans hfind')
    obtain rfl := Except.ok.inj (hload.symm.trans hload')
    exact ⟨hhandle.symm.trans hhandle', htime.symm.trans htime'⟩
  · rintro ⟨hhandle', htime'⟩
    refine ⟨record, auth, hfind, hload, hstatus.trans hactive, hhandle.trans hhandle', ?_,
      htime.trans htime', ?_⟩
    · rw [hscopes]
      rw [hplatform] at hrecord
      exact ScopeSet.mem_iff_of_validate hrecord hvalid
    · rw [hhandle, hhandle']
      exact id

end

/-- A grant that returns is stored as it was given exactly when the row at its key, if there is one, has
the same credential and the same time of consent. -/
theorem storesGrant_iff_of_scopesValid {w : World Vault} (hstored : ScopesValid w.authorizations)
    {env : Env} {tenantId userId mailboxId : String} {platform : Platform} {scopes : List String}
    {credentialHandle : String} (hreturns : returns
      (grantConsent env tenantId userId mailboxId platform scopes credentialHandle) w = true) :
    StoresGrant w (after
        (grantConsent env tenantId userId mailboxId platform scopes credentialHandle) w) env.now
        tenantId userId mailboxId platform scopes credentialHandle ↔
      ∀ r, w.authorizations.find (tenantId, userId, mailboxId, platform) = some r →
        r.credentialHandle = credentialHandle ∧ r.consentGrantedAt = env.now := by
  rcases grantConsent_cases env tenantId userId mailboxId platform scopes credentialHandle w with
    ⟨-, e, hrun⟩ | ⟨⟨hvalid, -⟩, t', hfind, ⟨-, hrun⟩ | ⟨-, auth, hrun⟩⟩
  · rw [returns_of_error hrun] at hreturns
    cases hreturns
  · rw [returns_of_error hrun] at hreturns
    cases hreturns
  · rw [after_of_ok hrun]
    have hrow := (hfind (tenantId, userId, mailboxId, platform)).trans (if_pos rfl)
    rcases hold : w.authorizations.find (tenantId, userId, mailboxId, platform) with _ | r
    · -- the create branch writes everything the grant was given
      unfold grantedRow at hrow
      rw [hold] at hrow
      refine iff_of_true ?_ ?_
      · exact (storesGrant_iff_of_find hrow rfl rfl hvalid hvalid _).mpr ⟨rfl, rfl⟩
      · rintro r ⟨⟩
    · -- a row that was there keeps its handle and its time, so these have to be the ones of the
      -- grant already
      rw [grantedRow_of_find_eq_some hold] at hrow
      obtain ⟨hmem, hkey⟩ := Table.find_eq_some_iff.mp hold
      have hplatform : r.platform = platform := congrArg (fun k => k.2.2.2) hkey
      rw [storesGrant_iff_of_find hrow hplatform rfl (hstored r hmem) hvalid]
      constructor
      · rintro h r' hr'
        rw [← Option.some.inj hr']
        exact h
      · intro h
        exact h r rfl

/-- After any history of grants, revocations, suspensions and stored secrets, a grant that returns is
stored as it was given exactly when an earlier grant has left no row at its key, or one with the same
credential and the same time of consent. -/
theorem storesGrant_iff (vault : Vault) (events : List VaultEvent) (env : Env)
    (tenantId userId mailboxId : String) (platform : Platform) (scopes : List String)
    (credentialHandle : String) :
    let w := events.foldl vaultStep ⟨Table.empty, [], [], vault⟩
    let grant := grantConsent env tenantId userId mailboxId platform scopes credentialHandle
    returns grant w = true →
      (StoresGrant w (after grant w) env.now tenantId userId mailboxId platform scopes
          credentialHandle ↔
        ∀ r, w.authorizations.find (tenantId, userId, mailboxId, platform) = some r →
          r.credentialHandle = credentialHandle ∧ r.consentGrantedAt = env.now) := by
  intro w grant hreturns
  have hstored : ScopesValid w.authorizations :=
    scopesValid_foldl_vaultStep (fun r hr => absurd hr List.not_mem_nil) events
  exact storesGrant_iff_of_scopesValid hstored hreturns

/-- A mailbox is granted under a first credential, the grant is revoked, and the mailbox is granted again
under a second one. -/
def regrant : List VaultEvent :=
  [.store "first" "token",
   .call ⟨.grantConsent "tenant" "user" "mailbox" .gmail ["gmail.modify", "gmail.labels"] "first",
     ⟨fun _ => false, 0, 0⟩⟩ fun _ _ => false,
   .call ⟨.revoke "tenant" "mailbox" .user_initiated, ⟨fun _ => false, 1, 0⟩⟩ fun _ _ => false,
   .store "second" "token"]

/-- A grant of a second mailbox, under the credential that the first one should have got, is stored as
it was given. -/
theorem storesGrant_secondMailbox :
    let w := regrant.foldl vaultStep ⟨Table.empty, [], [], fun _ => none⟩
    let grant := grantConsent ⟨fun _ => false, 2, 0⟩ "tenant" "user" "mailbox-2" .gmail
      ["gmail.modify", "gmail.labels"] "second"
    StoresGrant w (after grant w) 2 "tenant" "user" "mailbox-2" .gmail ["gmail.modify", "gmail.labels"]
      "second" := by
  refine (storesGrant_iff (fun _ => none) regrant ⟨fun _ => false, 2, 0⟩ "tenant" "user" "mailbox-2" .gmail
    ["gmail.modify", "gmail.labels"] "second" (by decide +kernel)).mpr fun r hr => ?_
  have hnone : (regrant.foldl vaultStep ⟨Table.empty, [], [], fun _ => none⟩).authorizations.find
      ("tenant", "user", "mailbox-2", .gmail) = none := by decide +kernel
  exact absurd (hnone.symm.trans hr) (Option.some_ne_none r).symm

/-- The second grant of a mailbox returns, and is not stored as it was given. -/
theorem not_storesGrant_second :
    let w := regrant.foldl vaultStep ⟨Table.empty, [], [], fun _ => none⟩
    let grant := grantConsent ⟨fun _ => false, 2, 0⟩ "tenant" "user" "mailbox" .gmail
      ["gmail.modify", "gmail.labels"] "second"
    returns grant w = true ∧
      ¬StoresGrant w (after grant w) 2 "tenant" "user" "mailbox" .gmail
        ["gmail.modify", "gmail.labels"] "second" := by
  intro w grant
  have hreturns : returns grant w = true := by decide
  have hstored : ScopesValid w.authorizations :=
    scopesValid_foldl_vaultStep (fun r hr => absurd hr List.not_mem_nil) regrant
  have hold : (w.authorizations.find ("tenant", "user", "mailbox", .gmail)).map
      MailboxAuthorizationRow.credentialHandle = some "first" := by decide
  refine ⟨hreturns, fun h => ?_⟩
  obtain ⟨r, hr, hhandle⟩ := Option.map_eq_some_iff.mp hold
  have hsecond := ((storesGrant_iff_of_scopesValid hstored hreturns).mp h r hr).1
  rw [hhandle] at hsecond
  revert hsecond
  decide

end EmailTriage.IdentityAccess
