import EmailTriage.Lib.Runs
import EmailTriage.IdentityAccess.ServiceOutcomes

/-!
# Events of the authorization service

Downstream contexts rely on one event for each granted consent and one for each authorization that
is revoked. `save` clears the events of the aggregate before the service reads them, so the service
never hands anything to the emitter (`emitted_step`). `publishedOnce_iff` says when the counts are
right all the same: when no call of a run takes effect.

The emitter is told nothing by any call, with any failures (`emitted_foldl`), so the counts agree
exactly if there is nothing to count. `revokedBetween` compares the rows before and after a call, and
each of the three operations has a lemma for it; over a run the numbers add up, and a sum is zero
exactly if each of its terms is (`counts_eq_zero_iff`).
-/

namespace EmailTriage.IdentityAccess

open Js Db Runs MailboxAuthorizationRepository MailboxAuthorizationService
open MailboxIngestion (Platform)

/-! ## Runs

The calls of the service, and what they should publish: one event for each row that becomes active, and
one for each that is revoked.
-/

/-- The operations of the service. -/
inductive Op where
  | grantConsent (tenantId userId mailboxId : String) (platform : Platform) (scopes : List String)
      (credentialHandle : String)
  | revoke (tenantId mailboxId : String) (reason : RevocationReason)
  | revokeAllForTenant (tenantId : String)

/-- A call of the service, with what it meets. -/
structure Call where
  op : Op
  env : Env

section

variable {σ : Type} (googleOAuth microsoftOAuth : OAuthProviderPort σ)

/-- The world a call leaves. -/
def step (w : World σ) (c : Call) : World σ :=
  match c.op with
  | .grantConsent tenantId userId mailboxId platform scopes credentialHandle =>
    after (grantConsent c.env tenantId userId mailboxId platform scopes credentialHandle) w
  | .revoke tenantId mailboxId reason =>
    after (revoke googleOAuth microsoftOAuth c.env tenantId mailboxId reason) w
  | .revokeAllForTenant tenantId =>
    after (MailboxAuthorizationService.revokeAllForTenant googleOAuth microsoftOAuth c.env tenantId) w

/-- Whether a call is a grant that returns. -/
def isGranted (w : World σ) (c : Call) : Bool :=
  match c.op with
  | .grantConsent tenantId userId mailboxId platform scopes credentialHandle =>
    returns (grantConsent c.env tenantId userId mailboxId platform scopes credentialHandle) w
  | _ => false

/-- How many authorizations are active in one table and revoked in the other. -/
def revokedBetween (t t' : MailboxAuthorizationTable) : ℕ :=
  t.rows.countP fun r =>
    r.status = .active && (t'.find (Schema.key r)).any fun r' => r'.status = .revoked

/-- How many grants of a run return. -/
def grants : World σ → List Call → ℕ
  | _, [] => 0
  | w, c :: calls =>
    (if isGranted w c then 1 else 0) + grants (step googleOAuth microsoftOAuth w c) calls

/-- How many authorizations a run revokes. -/
def revocations : World σ → List Call → ℕ
  | _, [] => 0
  | w, c :: calls =>
    revokedBetween w.authorizations (step googleOAuth microsoftOAuth w c).authorizations +
      revocations (step googleOAuth microsoftOAuth w c) calls

/-- How many events of each class were handed to the emitter. -/
def authorizedEvents (w : World σ) : ℕ := w.emitted.countP fun e => e.2.isAuthorized

def revokedEvents (w : World σ) : ℕ := w.emitted.countP fun e => !e.2.isAuthorized

/-- A run emits one event for each grant that returned and one for each authorization it revoked. -/
def PublishedOnce (w : World σ) (calls : List Call) : Prop :=
  let w' := calls.foldl (step googleOAuth microsoftOAuth) w
  authorizedEvents w' = authorizedEvents w + grants googleOAuth microsoftOAuth w calls ∧
    revokedEvents w' = revokedEvents w + revocations googleOAuth microsoftOAuth w calls

/-- A call changes what it is there to change: a grant with valid scopes and a database that works;
a revocation that finds an active, loadable authorization, whose provider agrees and which is saved;
a tenant with an active authorization, all of them loadable, that is updated. -/
def TakesEffect (w : World σ) (c : Call) : Prop :=
  match c.op with
  | .grantConsent _ _ _ platform scopes _ =>
    ScopeSet.validate scopes platform = .ok () ∧ c.env.fails 0 = false ∧ c.env.fails 1 = false ∧
      c.env.fails 2 = false
  | .revoke tenantId mailboxId _ =>
    c.env.fails 0 = false ∧ c.env.fails 1 = false ∧ ∃ record providers,
      w.authorizations.findFirst c.env.pick
        (fun r => r.tenantId = tenantId && r.mailboxId = mailboxId) = some record ∧
      ScopeSet.validate record.scopeSet record.platform = .ok () ∧ record.status = .active ∧
      (adapterOf googleOAuth microsoftOAuth record.platform).revoke record.credentialHandle w.providers
        = .ok () providers
  | .revokeAllForTenant tenantId =>
    c.env.fails 0 = false ∧ c.env.fails 1 = false ∧
      (∀ r ∈ w.authorizations.findMany (isActiveOf tenantId),
        ScopeSet.validate r.scopeSet r.platform = .ok ()) ∧
      w.authorizations.findMany (isActiveOf tenantId) ≠ []

end

/-! ## What the service emits

No call hands the events of its aggregate on.
-/

section

variable {σ : Type} {googleOAuth microsoftOAuth : OAuthProviderPort σ}

/-- A revocation changes the authorizations and what the providers hold, and nothing else. -/
theorem step_of_not_grant (googleOAuth microsoftOAuth : OAuthProviderPort σ) (w : World σ) {c : Call}
    (h : ∀ tenantId userId mailboxId platform scopes credentialHandle,
      c.op ≠ .grantConsent tenantId userId mailboxId platform scopes credentialHandle) :
    ∃ authorizations providers,
      step googleOAuth microsoftOAuth w c = { w with authorizations, providers } := by
  unfold step
  rcases c with ⟨op, env⟩
  rcases op with ⟨tenantId, userId, mailboxId, platform, scopes, handle⟩ |
    ⟨tenantId, mailboxId, reason⟩ | ⟨tenantId⟩ <;> dsimp only
  · exact absurd rfl (h tenantId userId mailboxId platform scopes handle)
  · rcases revoke_cases googleOAuth microsoftOAuth w env tenantId mailboxId reason with
      ⟨record, providers, t', -, hrun, -⟩ | ⟨-, e, providers, hrun⟩
    · exact ⟨t', providers, after_of_ok hrun⟩
    · exact ⟨w.authorizations, providers, after_of_error hrun⟩
  · rcases revokeAllForTenant_cases googleOAuth microsoftOAuth env tenantId w with
      ⟨-, e, hrun⟩ | ⟨-, providers, -, ⟨-, hrun⟩ | ⟨-, hrun⟩⟩
    · exact ⟨w.authorizations, w.providers, after_of_error hrun⟩
    · exact ⟨w.authorizations, providers, after_of_error hrun⟩
    · exact ⟨_, providers, after_of_ok hrun⟩

/-- No call of the service hands anything to the emitter. -/
theorem emitted_step (w : World σ) (c : Call) :
    (step googleOAuth microsoftOAuth w c).emitted = w.emitted := by
  by_cases hgrant : ∃ tenantId userId mailboxId platform scopes handle,
      c.op = .grantConsent tenantId userId mailboxId platform scopes handle
  · obtain ⟨tenantId, userId, mailboxId, platform, scopes, handle, hop⟩ := hgrant
    unfold step
    rw [hop]
    dsimp only
    rcases grantConsent_cases c.env tenantId userId mailboxId platform scopes handle w with
      ⟨-, e, hrun⟩ | ⟨-, t', -, ⟨-, hrun⟩ | ⟨-, auth, hrun⟩⟩
    · rw [after_of_error hrun]
    · rw [after_of_error hrun]
    · rw [after_of_ok hrun]
  · simp only [not_exists] at hgrant
    obtain ⟨authorizations, providers, hstep⟩ := step_of_not_grant googleOAuth microsoftOAuth w hgrant
    rw [hstep]

/-- The calls of the service emit nothing. -/
theorem emitted_foldl (w : World σ) (calls : List Call) :
    (calls.foldl (step googleOAuth microsoftOAuth) w).emitted = w.emitted := by
  refine foldl_invariant (f := step googleOAuth microsoftOAuth)
    (I := fun w' => w'.emitted = w.emitted) ?_ rfl calls
  intro w' c h
  rw [emitted_step, h]

/-! ## What the service stores

How many rows a call revokes, counted in the table.
-/

/-- Nothing was revoked where every active row is still there as something else than revoked. -/
theorem revokedBetween_eq_zero_iff {t t' : MailboxAuthorizationTable} :
    revokedBetween t t' = 0 ↔ ∀ r ∈ t.rows, r.status = .active →
      ∀ r', t'.find (Schema.key r) = some r' → r'.status ≠ .revoked := by
  unfold revokedBetween
  rw [List.countP_eq_zero]
  refine forall₂_congr fun r _ => ?_
  simp only [Bool.and_eq_true, decide_eq_true_eq, Option.any_eq_true, not_and, not_exists]

/-- Nothing is revoked between a table and itself. -/
theorem revokedBetween_self (t : MailboxAuthorizationTable) : revokedBetween t t = 0 := by
  rw [revokedBetween_eq_zero_iff]
  intro r hr hactive r' hr'
  rw [Table.find_eq_some_iff.mpr ⟨hr, rfl⟩] at hr'
  rw [← Option.some.inj hr', hactive]
  exact AuthorizationStatus.noConfusion

/-! ### Grants -/

/-- A grant returns when its scopes are valid and each of its database calls works. -/
theorem returns_grantConsent (w : World σ) (env : Env) (tenantId userId mailboxId : String)
    (platform : Platform) (scopes : List String) (credentialHandle : String) :
    returns (grantConsent env tenantId userId mailboxId platform scopes credentialHandle) w = true ↔
      ScopeSet.validate scopes platform = .ok () ∧ env.fails 0 = false ∧ env.fails 1 = false ∧
        env.fails 2 = false := by
  rcases grantConsent_cases env tenantId userId mailboxId platform scopes credentialHandle w with
    ⟨hcond, e, hrun⟩ | ⟨⟨hvalid, h0⟩, t', -, ⟨h12, hrun⟩ | ⟨h12, auth, hrun⟩⟩
  · rw [returns_of_error hrun]
    exact iff_of_false Bool.false_ne_true fun h => hcond ⟨h.1, h.2.1⟩
  · rw [returns_of_error hrun]
    refine iff_of_false Bool.false_ne_true ?_
    rintro ⟨-, -, h1, h2⟩
    rw [h1, h2] at h12
    cases h12
  · rw [returns_of_ok hrun]
    exact iff_of_true rfl ⟨hvalid, h0, Bool.or_eq_false_iff.mp h12⟩

/-- A grant revokes nothing. -/
theorem revokedBetween_grantConsent (w : World σ) (env : Env) (tenantId userId mailboxId : String)
    (platform : Platform) (scopes : List String) (credentialHandle : String) :
    revokedBetween w.authorizations
      (after (grantConsent env tenantId userId mailboxId platform scopes credentialHandle)
        w).authorizations = 0 := by
  rw [revokedBetween_eq_zero_iff]
  intro r hr hactive r' hr'
  have hrow := Table.find_key hr
  rcases find_grantConsent w env tenantId userId mailboxId platform scopes credentialHandle
    (Schema.key r) with h | ⟨hkey, -, h⟩
  · rw [h, hrow] at hr'
    rw [← Option.some.inj hr', hactive]
    exact AuthorizationStatus.noConfusion
  · rw [hkey] at hrow
    rw [h, grantedRow_of_find_eq_some hrow] at hr'
    rw [← Option.some.inj hr']
    exact AuthorizationStatus.noConfusion

/-! ### Revocations -/

/-- A revocation revokes something exactly when it takes effect. -/
theorem revokedBetween_revoke (w : World σ) (env : Env) (tenantId mailboxId : String)
    (reason : RevocationReason) :
    revokedBetween w.authorizations
        (after (revoke googleOAuth microsoftOAuth env tenantId mailboxId reason) w).authorizations = 0 ↔
      ¬TakesEffect googleOAuth microsoftOAuth w ⟨.revoke tenantId mailboxId reason, env⟩ := by
  dsimp only [TakesEffect]
  rcases revoke_cases googleOAuth microsoftOAuth w env tenantId mailboxId reason with
    ⟨record, providers, t', ⟨h0, h1, hrow, hvalid, hactive, hadapter⟩, hrun, hfind⟩ |
    ⟨hcond, e, providers, hrun⟩
  · rw [after_of_ok hrun, revokedBetween_eq_zero_iff]
    refine iff_of_false (fun h => ?_)
      (not_not.mpr ⟨h0, h1, record, providers, hrow, hvalid, hactive, hadapter⟩)
    -- the row the database answered with is active before and revoked after
    have hrecord := (Table.of_findFirst_eq_some hrow).1
    exact h record hrecord hactive _ ((hfind _).trans (if_pos rfl)) rfl
  · rw [after_of_error hrun]
    refine iff_of_true (revokedBetween_self _) ?_
    rintro ⟨h0, h1, record, providers, h⟩
    exact hcond ⟨record, providers, h0, h1, h⟩

/-- The update of `revokeAllForTenant` revokes each authorization the tenant has active. -/
theorem revokedBetween_updateMany (t : MailboxAuthorizationTable) (tenantId : String) :
    revokedBetween t (t.updateMany (isActiveOf tenantId) revokeData) = 0 ↔
      t.findMany (isActiveOf tenantId) = [] := by
  unfold Table.findMany
  rw [revokedBetween_eq_zero_iff, List.filter_eq_nil_iff]
  have hfind : ∀ r ∈ t.rows, (t.updateMany (isActiveOf tenantId) revokeData).find (Schema.key r)
      = some (if isActiveOf tenantId r then revokeData.apply r else r) := by
    intro r hr
    rw [Table.find_updateMany, Table.find_eq_some_iff.mpr ⟨hr, rfl⟩]
    rfl
  constructor
  · intro h r hr hactive
    have hstatus : r.status = .active := by
      unfold isActiveOf at hactive
      simp only [Bool.and_eq_true, decide_eq_true_eq] at hactive
      exact hactive.2
    refine h r hr hstatus _ (hfind r hr) ?_
    rw [if_pos hactive]
    rfl
  · intro h r hr hstatus r' hr'
    rw [hfind r hr, if_neg (h r hr)] at hr'
    rw [← Option.some.inj hr', hstatus]
    exact AuthorizationStatus.noConfusion

/-- The revocation of a tenant revokes rows exactly if it takes effect. -/
theorem revokedBetween_revokeAllForTenant (w : World σ) (env : Env) (tenantId : String) :
    revokedBetween w.authorizations
        (after (MailboxAuthorizationService.revokeAllForTenant googleOAuth microsoftOAuth env tenantId)
          w).authorizations = 0 ↔
      ¬TakesEffect googleOAuth microsoftOAuth w ⟨.revokeAllForTenant tenantId, env⟩ := by
  dsimp only [TakesEffect]
  rcases revokeAllForTenant_cases googleOAuth microsoftOAuth env tenantId w with
    ⟨hcond, e, hrun⟩ | ⟨⟨h0, hvalid⟩, providers, -, ⟨h1, hrun⟩ | ⟨h1, hrun⟩⟩
  · rw [after_of_error hrun]
    exact iff_of_true (revokedBetween_self _) fun h => hcond ⟨h.1, h.2.2.1⟩
  · rw [after_of_error hrun]
    refine iff_of_true (revokedBetween_self _) fun h => ?_
    rw [h1] at h
    cases h.2.1
  · rw [after_of_ok hrun, revokedBetween_updateMany]
    constructor
    · rintro h ⟨-, -, -, hne⟩
      exact hne h
    · intro h
      by_contra hne
      exact h ⟨h0, h1, hvalid, hne⟩

/-! ## Counts over runs

What was counted along a run is zero exactly if no call of it takes effect.
-/

/-- A call that takes effect is counted, as a grant that returned or as revocations, and no other is. -/
theorem counts_step (w : World σ) (c : Call) :
    (isGranted w c = false ∧
        revokedBetween w.authorizations (step googleOAuth microsoftOAuth w c).authorizations = 0) ↔
      ¬TakesEffect googleOAuth microsoftOAuth w c := by
  rcases c with ⟨op, env⟩
  rcases op with ⟨tenantId, userId, mailboxId, platform, scopes, handle⟩ |
    ⟨tenantId, mailboxId, reason⟩ | ⟨tenantId⟩
  · have hgrant := returns_grantConsent w env tenantId userId mailboxId platform scopes handle
    have hrevoked := revokedBetween_grantConsent w env tenantId userId mailboxId platform scopes handle
    dsimp only [isGranted, step, TakesEffect]
    rw [← hgrant, Bool.not_eq_true]
    exact and_iff_left hrevoked
  · rw [← revokedBetween_revoke]
    exact and_iff_right rfl
  · rw [← revokedBetween_revokeAllForTenant]
    exact and_iff_right rfl

/-- Nothing of a run is counted when none of its calls takes effect. -/
theorem counts_eq_zero_iff (w : World σ) (calls : List Call) :
    (grants googleOAuth microsoftOAuth w calls = 0 ∧
        revocations googleOAuth microsoftOAuth w calls = 0) ↔
      Along (fun w c _ => ¬TakesEffect googleOAuth microsoftOAuth w c) w
        (exec (step googleOAuth microsoftOAuth) w calls) := by
  induction calls generalizing w with
  | nil => exact iff_of_true ⟨rfl, rfl⟩ trivial
  | cons c calls ih =>
    unfold grants revocations exec
    rw [along_cons, ← ih, ← counts_step]
    rcases isGranted w c with _ | _
    · rw [if_neg Bool.false_ne_true, Nat.zero_add, Nat.add_eq_zero_iff]
      tauto
    · simp

/-- A run publishes its events once exactly when none of its calls takes effect. -/
theorem publishedOnce_iff (googleOAuth microsoftOAuth : OAuthProviderPort σ) (w : World σ)
    (calls : List Call) :
    PublishedOnce googleOAuth microsoftOAuth w calls ↔
      Along (fun w c _ => ¬TakesEffect googleOAuth microsoftOAuth w c) w
        (exec (step googleOAuth microsoftOAuth) w calls) := by
  rw [← counts_eq_zero_iff]
  unfold PublishedOnce authorizedEvents revokedEvents
  dsimp only
  rw [emitted_foldl, Nat.left_eq_add, Nat.left_eq_add]

/-- The grant of a mailbox, while everything works. -/
theorem not_publishedOnce_grantConsent :
    ¬PublishedOnce (⟨fun _ => pure ()⟩ : OAuthProviderPort Unit) ⟨fun _ => pure ()⟩
      ⟨Table.empty, [], [], ()⟩
      [⟨.grantConsent "tenant" "user" "mailbox" .gmail ["gmail.modify", "gmail.labels"] "handle",
        ⟨fun _ => false, 0, 0⟩⟩] := by
  rintro ⟨h, -⟩
  unfold authorizedEvents at h
  rw [emitted_foldl] at h
  revert h
  decide

end

end EmailTriage.IdentityAccess
