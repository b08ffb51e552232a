import Mathlib.Data.List.Dedup
import Mathlib.Data.List.Perm.Subperm
import EmailTriage.IdentityAccess.AuthorizationHistories

/-!
# Scope sets are minimal and load again

`equals` of `src/identity-access/domain/value-objects/scope-set.ts`, and what becomes of the scopes that a
grant stores. A platform has one set of scopes: the lists that are accepted for it differ in order and
repetition only, and `equals` tells the two platforms apart. The scopes of a row never change, so a row
that a save has left loads after any history, whichever row of a mailbox the database answers with
(`scopeSets_reload`).
-/

namespace EmailTriage.IdentityAccess

open Js Db Runs MailboxAuthorizationRepository
open MailboxIngestion (Platform)

namespace ScopeSet

/-- `equals`; a JavaScript `Set` holds every element once. -/
def equals (s other : ScopeSet) : Bool :=
  let thisSet := s.scopes.dedup
  let otherSet := other.toArray.dedup
  if thisSet.length ≠ otherSet.length then false
  else thisSet.all fun scope => otherSet.contains scope

/-- Two scope sets are equal when they have the same elements. -/
theorem equals_iff_mem {s other : ScopeSet} :
    s.equals other = true ↔ ∀ scope, scope ∈ s.scopes ↔ scope ∈ other.scopes := by
  unfold equals toArray
  dsimp only
  constructor
  · intro h scope
    split_ifs at h with hlength
    rw [ne_eq, not_not] at hlength
    have hsubset : s.scopes.dedup ⊆ other.scopes.dedup := by
      intro scope hscope
      simpa using List.all_eq_true.mp h scope hscope
    have hperm : s.scopes.dedup.Perm other.scopes.dedup :=
      (List.subperm_of_subset (List.nodup_dedup _) hsubset).perm_of_length_le hlength.ge
    rw [← List.mem_dedup, hperm.mem_iff, List.mem_dedup]
  · intro h
    have hperm : s.scopes.dedup.Perm other.scopes.dedup := by
      refine (List.perm_ext_iff_of_nodup (List.nodup_dedup _) (List.nodup_dedup _)).mpr fun scope => ?_
      rw [List.mem_dedup, List.mem_dedup, h]
    rw [if_neg (not_not.mpr hperm.length_eq)]
    refine List.all_eq_true.mpr fun scope hscope => ?_
    simpa using hperm.mem_iff.mp hscope

/-- The platforms have different minimal sets. -/
theorem eq_of_minRequired {platform platform' : Platform}
    (h : ∀ scope, scope ∈ minRequired platform ↔ scope ∈ minRequired platform') :
    platform = platform' := by
  rcases platform with _ | _ <;> rcases platform' with _ | _
  · rfl
  · exact absurd ((h "gmail.modify").mp (by decide)) (by decide)
  · exact absurd ((h "gmail.modify").mpr (by decide)) (by decide)
  · rfl

/-- The accepted sets of one platform are equal, and those of different platforms are not. -/
theorem equals_iff_platform {s other : ScopeSet} :
    s.equals other = true ↔ s.platform = other.platform := by
  rw [equals_iff_mem]
  constructor
  · intro h
    refine eq_of_minRequired fun scope => ?_
    rw [← validate_eq_ok_iff.mp s.valid, h, validate_eq_ok_iff.mp other.valid]
  · intro h scope
    rw [validate_eq_ok_iff.mp s.valid, validate_eq_ok_iff.mp other.valid, h]

/-- The constructor accepts what `validate` accepts. -/
theorem exists_new_iff {scopes : List String} {platform : Platform} :
    (∃ s, new scopes platform = .ok s) ↔ ∀ scope, scope ∈ scopes ↔ scope ∈ minRequired platform := by
  rw [← validate_eq_ok_iff]
  rcases hvalid : validate scopes platform with e | ⟨⟩
  · rw [new_of_validate_error hvalid]
    simp
  · rw [new_of_validate hvalid]
    exact iff_of_true ⟨_, rfl⟩ rfl

end ScopeSet

/-- An authorization as `create` returns it. -/
structure GrantedAuthorization where
  auth : MailboxAuthorization
  created : ∃ now tenantId userId mailboxId platform scopes credentialHandle,
    MailboxAuthorization.create now tenantId userId mailboxId platform scopes credentialHandle = .ok auth

/-- A granted authorization has valid scopes, and the event of its grant. -/
theorem GrantedAuthorization.spec (granted : GrantedAuthorization) :
    ScopeSet.validate granted.auth.getScopes granted.auth.platform = .ok () ∧
      granted.auth.scopeSet.platform = granted.auth.platform ∧
      ∃ tenantId userId mailboxId platform scopes timestamp, granted.auth.domainEvents =
        [.MailboxAuthorizedEvent tenantId userId mailboxId platform scopes timestamp] := by
  obtain ⟨auth, now, tenantId, userId, mailboxId, platform, scopes, handle, hcreate⟩ := granted
  rcases hvalid : ScopeSet.validate scopes platform with e | ⟨⟩
  · rw [MailboxAuthorization.create_of_validate_error hvalid] at hcreate
    cases hcreate
  · rw [MailboxAuthorization.create_of_validate hvalid] at hcreate
    obtain rfl := Except.ok.inj hcreate
    exact ⟨hvalid, rfl, _, _, _, _, _, _, rfl⟩

section

variable {σ : Type}

/-- What the save of a granted authorization does to the table: nothing when its upsert fails. -/
theorem authorizations_save (fails : ℕ → Bool) (now : ℤ) (tenantId : String)
    (granted : GrantedAuthorization) (w : World σ) :
    ∃ t', (after (save fails now tenantId granted.auth) w).authorizations
        = (if fails 0 then w.authorizations else t') ∧
      ∀ key, t'.find key = if key = keyOf tenantId granted.auth then
        some (((w.authorizations.find (keyOf tenantId granted.auth)).map
          (updateData now granted.auth).apply).getD
          (createData w.authorizations.freshId tenantId granted.auth))
        else w.authorizations.find key := by
  obtain ⟨t', ht', hfind⟩ := upsert_spec now tenantId granted.auth w
  obtain ⟨-, -, _, _, _, _, _, _, hevents⟩ := granted.spec
  have hrow := (hfind (keyOf tenantId granted.auth)).trans (if_pos rfl)
  have hsave := save_of_authorized hevents fails now tenantId ht' hrow
  refine ⟨t', ?_, hfind⟩
  split_ifs at hsave with hfails hgrant
  · rw [after_of_error hsave, if_pos hfails]
  · rw [after_of_error hsave, if_neg hfails]
  · rw [after_of_ok hsave, if_neg hfails]

/-- A save keeps the scopes of every stored row valid. -/
theorem scopesValid_save {w : World σ} (h : ScopesValid w.authorizations) (fails : ℕ → Bool) (now : ℤ)
    (tenantId : String) (granted : GrantedAuthorization) :
    ScopesValid (after (save fails now tenantId granted.auth) w).authorizations := by
  obtain ⟨t', hafter, hfind⟩ := authorizations_save fails now tenantId granted w
  rw [hafter]
  split_ifs
  · exact h
  · intro r hr
    have hat := Table.find_key hr
    rw [hfind] at hat
    split_ifs at hat
    · rcases hold : w.authorizations.find (keyOf tenantId granted.auth) with _ | record
      · rw [hold] at hat
        rw [← Option.some.inj hat]
        exact granted.spec.1
      · rw [hold] at hat
        rw [← Option.some.inj hat]
        exact h record (Table.find_eq_some_iff.mp hold).1
    · exact h r (Table.find_eq_some_iff.mp hat).1

/-- A save whose upsert works leaves a row at the key of the authorization. -/
theorem exists_find_save (w : World σ) {fails : ℕ → Bool} (hfails : fails 0 = false) (now : ℤ)
    (tenantId : String) (granted : GrantedAuthorization) :
    ∃ record ∈ (after (save fails now tenantId granted.auth) w).authorizations.rows,
      Schema.key record = keyOf tenantId granted.auth := by
  obtain ⟨t', hafter, hfind⟩ := authorizations_save fails now tenantId granted w
  rw [hfails] at hafter
  have hrow := (hfind (keyOf tenantId granted.auth)).trans (if_pos rfl)
  rw [hafter]
  exact ⟨_, Table.find_eq_some_iff.mp hrow⟩

/-- A stored row is loaded for its own platform, with a scope set equal to every one of that platform. -/
theorem load_of_scopesValid {t : MailboxAuthorizationTable} (h : ScopesValid t)
    {record : MailboxAuthorizationRow} (hrecord : record ∈ t.rows) :
    ∃ loaded, load record = .ok loaded ∧ loaded.scopeSet.platform = record.platform ∧
      loaded.getScopes = record.scopeSet ∧
      ∀ s : ScopeSet, s.platform = record.platform → loaded.scopeSet.equals s = true := by
  unfold load
  rw [ScopeSet.new_of_validate (h record hrecord)]
  exact ⟨_, rfl, rfl, rfl, fun s hs => ScopeSet.equals_iff_platform.mpr hs.symm⟩

/-- Whichever row of a mailbox the database answers with, it is loaded. -/
theorem findByTenantIdAndMailboxId_of_scopesValid {w : World σ} (h : ScopesValid w.authorizations)
    {pick : ℕ} {tenantId mailboxId : String} {record : MailboxAuthorizationRow}
    (hfirst : w.authorizations.findFirst pick (fun r => r.tenantId = tenantId && r.mailboxId = mailboxId)
      = some record) :
    ∃ loaded, findByTenantIdAndMailboxId pick tenantId mailboxId w = .ok (some loaded) w ∧
      loaded.scopeSet.platform = record.platform ∧ loaded.getScopes = record.scopeSet ∧
      ∀ s : ScopeSet, s.platform = record.platform → loaded.scopeSet.equals s = true := by
  obtain ⟨loaded, hload, hspec⟩ := load_of_scopesValid h (Table.of_findFirst_eq_some hfirst).1
  refine ⟨loaded, ?_, hspec⟩
  rw [findByTenantIdAndMailboxId_apply, hfirst]
  dsimp only
  rw [hload]

end

/-- The constructor accepts exactly the minimal set of its platform, `equals` compares platforms, and
after a save of a granted authorization, with any history before and after it, the stored row loads
with an equal set, and so does every row of the mailbox that the database may answer with. -/
theorem scopeSets_reload :
    (∀ scopes platform, (∃ s, ScopeSet.new scopes platform = .ok s) ↔
      ∀ scope, scope ∈ scopes ↔ scope ∈ ScopeSet.minRequired platform) ∧
    (∀ s other : ScopeSet, s.equals other = true ↔ s.platform = other.platform) ∧
    ∀ (vault : Vault) (before later : List VaultEvent) (fails : ℕ → Bool) (now : ℤ) (tenantId : String)
      (granted : GrantedAuthorization), fails 0 = false →
      let saved := after (save fails now tenantId granted.auth)
        (before.foldl vaultStep ⟨Table.empty, [], [], vault⟩)
      let w := later.foldl vaultStep saved
      (∃ record loaded, w.authorizations.find (keyOf tenantId granted.auth) = some record ∧
        record.platform = granted.auth.platform ∧ load record = .ok loaded ∧
        loaded.scopeSet.equals granted.auth.scopeSet = true) ∧
      ∀ pick, ∃ record loaded,
        w.authorizations.findFirst pick
          (fun r => r.tenantId = tenantId && r.mailboxId = granted.auth.mailboxId) = some record ∧
        findByTenantIdAndMailboxId pick tenantId granted.auth.mailboxId w = .ok (some loaded) w ∧
        loaded.scopeSet.platform = record.platform ∧ loaded.getScopes = record.scopeSet ∧
        (record.platform = granted.auth.platform →
          loaded.scopeSet.equals granted.auth.scopeSet = true) := by
  refine ⟨fun _ _ => ScopeSet.exists_new_iff, fun _ _ => ScopeSet.equals_iff_platform, ?_⟩
  intro vault before later fails now tenantId granted hfails saved w
  have hbefore : ScopesValid (before.foldl vaultStep ⟨Table.empty, [], [], vault⟩).authorizations :=
    scopesValid_foldl_vaultStep (fun r hr => absurd hr List.not_mem_nil) before
  have hvalid : ScopesValid w.authorizations :=
    scopesValid_foldl_vaultStep (scopesValid_save hbefore fails now tenantId granted) later
  obtain ⟨row, hrow, hkey⟩ := exists_find_save _ hfails now tenantId granted
  -- nothing later takes the stored row away or changes its scopes and platform
  obtain ⟨record, hfind, status, refreshed, hrecord⟩ := exists_find_foldl_vaultStep hrow later
  rw [hkey] at hfind
  have hplatform : record.platform = granted.auth.platform := by
    rw [hrecord]
    exact congrArg (·.2.2.2) hkey
  have hset : granted.auth.scopeSet.platform = granted.auth.platform := granted.spec.2.1
  have hmem := (Table.find_eq_some_iff.mp hfind).1
  refine ⟨?_, fun pick => ?_⟩
  · obtain ⟨loaded, hload, -, -, hequals⟩ := load_of_scopesValid hvalid hmem
    exact ⟨record, loaded, hfind, hplatform, hload, hequals _ (hset.trans hplatform.symm)⟩
  · have hkey' := (Table.find_eq_some_iff.mp hfind).2
    have htenant : record.tenantId = tenantId := congrArg (·.1) hkey'
    have hmailbox : record.mailboxId = granted.auth.mailboxId := congrArg (·.2.2.1) hkey'
    -- the lookup by mailbox may answer with another user's row, which can be loaded as well
    obtain ⟨found, hfirst⟩ := Table.exists_findFirst
      (p := fun r => r.tenantId = tenantId && r.mailboxId = granted.auth.mailboxId) hmem
      (by rw [htenant, hmailbox]; simp) pick
    obtain ⟨loaded, hfound, hloaded, hscopes, hequals⟩ :=
      findByTenantIdAndMailboxId_of_scopesValid hvalid hfirst
    exact ⟨found, loaded, hfirst, hfound, hloaded, hscopes, fun h => hequals _ (hset.trans h.symm)⟩

end EmailTriage.IdentityAccess
