import Mathlib.Data.List.TakeWhile
import EmailTriage.IdentityAccess.MailboxAuthorizationService
import EmailTriage.Lib.JsString

/-!
# The state of an OAuth flow

`src/identity-access/presentation/oauth.controller.ts`. The state that `authorize` hands out is the
tenant, an underscore and the time, and the callback takes the part before the first underscore for the
tenant. A tenant whose id has an underscore is turned away with its own state, and another tenant that
is called as that id begins is let in with it (`acceptsOwnState_iff`).

`handleCallback` is the whole of it, with the grant behind the check: a callback that is turned away
leaves the world as it was (`handleCallback_of_not_accepts`). What the check lets through is `Accepts`,
and `accepts_stateFor_iff` says it in terms of the part of an id before its first underscore.
-/

namespace EmailTriage.IdentityAccess

open Js
open MailboxAuthorizationService (grantConsent)
open MailboxIngestion (Platform)

/-- The tenant that `TenantGuard` puts into a request. -/
structure RequestTenant where
  text : String
  nonempty : text ≠ ""

/-- The body of a callback for one of the two platforms. -/
structure CallbackBody where
  code : String
  state : String
  platform : Platform

/-- What a callback meets: what its call of the service does, and before it two readings of the clock,
for the id of the mailbox and for the handle of the credential. -/
structure CallbackEnv extends Env where
  mailboxTime : ℤ
  handleTime : ℤ

namespace OAuthController

/-- The state for a tenant. -/
def stateFor (now : ℤ) (tenantId : RequestTenant) : String := tenantId.text ++ "_" ++ toString now

/-- The URL that `authorize` answers with. -/
def authorize (now : ℤ) (platform : String) (tenantId : RequestTenant) : String :=
  "http://localhost:3000/oauth/callback?state=" ++ stateFor now tenantId ++ "&platform=" ++ platform

/-- `const [stateTenantId] = state.split('_')`. -/
def stateTenantId (state : String) : String := String.ofList ((state.toList.splitOn '_').headD [])

/-- The comparison with the tenant of the request. -/
def checkState (tenantId : RequestTenant) (state : String) : Except Exception Unit :=
  if stateTenantId state ≠ tenantId.text then .error (.error "State mismatch") else .ok ()

/-- The scopes a mailbox is authorized with. -/
def scopes : Platform → List String
  | .gmail => ["gmail.modify", "gmail.labels"]
  | .outlook => ["Mail.ReadWrite", "MailboxSettings.ReadWrite"]

/-- `handleCallback`: the mailbox it answers with. -/
def handleCallback {σ : Type} (env : CallbackEnv) (tenantId : RequestTenant) (userId : String)
    (body : CallbackBody) : Effect (World σ) String := do
  MonadExcept.ofExcept (checkState tenantId body.state)
  let auth ← grantConsent env.toEnv tenantId.text userId
    ("mailbox_" ++ toString env.mailboxTime) body.platform
    (scopes body.platform) ("vault_ref_" ++ toString env.handleTime)
  return auth.mailboxId

/-- The callback of a tenant gets past the comparison with a state. -/
def Accepts (tenantId : RequestTenant) (state : String) : Prop := checkState tenantId state = .ok ()

/-- A state that is not accepted grants nothing. -/
theorem handleCallback_of_not_accepts {σ : Type} {tenantId : RequestTenant} {body : CallbackBody}
    (h : ¬Accepts tenantId body.state) (env : CallbackEnv) (userId : String) (w : World σ) :
    handleCallback env tenantId userId body w = .error (.error "State mismatch") w := by
  have hcheck : checkState tenantId body.state = .error (.error "State mismatch") := by
    unfold Accepts checkState at h
    unfold checkState
    split_ifs at h ⊢ with hstate
    · rfl
    · exact absurd rfl h
  unfold handleCallback
  rw [hcheck]
  exact bind_of_error (ofExcept_error _ w) _

/-- The part of an id that a callback would take for the tenant. -/
def firstPart (tenantId : RequestTenant) : List Char := tenantId.text.toList.takeWhile (· ≠ '_')

/-- The callback reads the first part of the id the state was issued for. -/
theorem stateTenantId_stateFor (now : ℤ) (tenantId : RequestTenant) :
    stateTenantId (stateFor now tenantId) = String.ofList (firstPart tenantId) := by
  have hstate : (stateFor now tenantId).toList = tenantId.text.toList ++ '_' :: (toString now).toList := by
    unfold stateFor
    rw [String.toList_append, String.toList_append, List.append_assoc]
    rfl
  unfold stateTenantId firstPart
  rw [headD_splitOn, hstate, List.takeWhile_append]
  split_ifs with hall
  · rw [List.takeWhile_cons_of_neg (by simp), List.append_nil]
    rw [List.IsPrefix.eq_of_length (List.takeWhile_prefix _) hall]
  · rfl

/-- A state is accepted for the tenant whose id is its first part. -/
theorem accepts_stateFor_iff {now : ℤ} {issuer tenantId : RequestTenant} :
    Accepts tenantId (stateFor now issuer) ↔ firstPart issuer = tenantId.text.toList := by
  unfold Accepts checkState
  rw [stateTenantId_stateFor]
  constructor
  · intro h
    split_ifs at h with hne
    rw [ne_eq, not_not] at hne
    rw [← hne, String.toList_ofList]
  · intro h
    rw [h, String.ofList_toList, if_neg (not_not.mpr rfl)]

/-- An id without an underscore is all first part, and one with an underscore is not. -/
theorem firstPart_eq_iff {tenantId : RequestTenant} :
    firstPart tenantId = tenantId.text.toList ↔ '_' ∉ tenantId.text.toList := by
  unfold firstPart
  rw [List.takeWhile_eq_self_iff]
  constructor
  · intro h hmem
    simpa using h '_' hmem
  · intro h c hc
    refine decide_eq_true ?_
    rintro rfl
    exact h hc

/-- A state is accepted from the tenant it was issued for, and from no other, exactly when that id has no
underscore, or the tenant of the callback is neither that id nor its part before the first underscore. -/
theorem acceptsOwnState_iff (now : ℤ) (issuer tenantId : RequestTenant) :
    (Accepts tenantId (stateFor now issuer) ↔ issuer.text = tenantId.text) ↔
      ('_' ∈ issuer.text.toList →
        tenantId.text ≠ issuer.text ∧ tenantId.text.toList ≠ firstPart issuer) := by
  rw [accepts_stateFor_iff]
  by_cases hunderscore : '_' ∈ issuer.text.toList
  · have hpart : firstPart issuer ≠ issuer.text.toList :=
      fun h => firstPart_eq_iff.mp h hunderscore
    constructor
    · intro h _
      by_cases hsame : issuer.text = tenantId.text
      · exact absurd ((h.mpr hsame).trans (congrArg String.toList hsame.symm)) hpart
      · exact ⟨fun heq => hsame heq.symm, fun heq => hsame (h.mp heq.symm)⟩
    · intro h
      obtain ⟨hne, hfirst⟩ := h hunderscore
      exact iff_of_false (fun heq => hfirst heq.symm) fun heq => hne heq.symm
  · rw [firstPart_eq_iff.mpr hunderscore, String.toList_inj]
    exact iff_of_true Iff.rfl fun h => absurd h hunderscore

/-- A tenant is let in with the state of another one. -/
theorem not_acceptsOwnState :
    ¬∀ (now : ℤ) (issuer tenantId : RequestTenant),
      Accepts tenantId (stateFor now issuer) ↔ issuer.text = tenantId.text := by
  intro h
  have haccepted : Accepts ⟨"acme", by decide⟩ (stateFor 1767225600000 ⟨"acme_eu", by decide⟩) :=
    accepts_stateFor_iff.mpr (by decide)
  have hsame := (h _ _ _).mp haccepted
  exact absurd hsame (by decide)

end OAuthController

end EmailTriage.IdentityAccess
