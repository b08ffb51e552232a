import Mathlib.Logic.Function.Basic
import EmailTriage.IdentityAccess.MailboxAuthorizationService

/-!
# The OAuth adapters and the secrets vault

`src/identity-access/infrastructure/adapters/`. The two adapters share one vault and revoke a credential
by the same two calls of it. Each call may fail; a failed call changes nothing and throws. The
revocation endpoint of the platform is only a comment between the two calls: were it called there, its
failure would be that of the second call.
-/

namespace EmailTriage.IdentityAccess

open Js
open MailboxAuthorizationService (adapterOf)
open MailboxIngestion (Platform)

/-- The secrets of the vault by their handles. -/
abbrev Vault := String → Option String

/-- The vault holds a secret under a handle; an empty one counts as missing. -/
def Vault.Holds (vault : Vault) (handle : String) : Prop :=
  ∃ secret, vault handle = some secret ∧ secret ≠ ""

namespace MockSecretsVaultAdapter

/-- `store`; the handle it draws is an argument. -/
def store (handle secret : String) (vault : Vault) : Vault :=
  Function.update vault handle (some secret)

def retrieve (handle : String) : Effect Vault String := do
  let vault ← get
  match vault handle with
  | none => throw (.error ("Secret not found: " ++ handle))
  | some secret =>
    if secret = "" then throw (.error ("Secret not found: " ++ handle)) else return secret

def delete (handle : String) : Effect Vault Unit := modify fun vault =>
  Function.update vault handle none

/-- A secret that the vault holds is retrieved. -/
theorem retrieve_of_holds {vault : Vault} {handle : String} (h : vault.Holds handle) :
    ∃ secret, secret ≠ "" ∧ retrieve handle vault = .ok secret vault := by
  obtain ⟨secret, hsecret, hne⟩ := h
  refine ⟨secret, hne, ?_⟩
  unfold retrieve
  rw [bind_of_ok (x := get) rfl, hsecret]
  dsimp only
  rw [if_neg hne]
  rfl

/-- A secret that it does not hold is thrown about. -/
theorem retrieve_of_not_holds {vault : Vault} {handle : String} (h : ¬vault.Holds handle) :
    retrieve handle vault = .error (.error ("Secret not found: " ++ handle)) vault := by
  unfold retrieve
  rw [bind_of_ok (x := get) rfl]
  rcases hsecret : vault handle with _ | secret
  · rfl
  · by_cases hempty : secret = ""
    · dsimp only
      rw [if_pos hempty]
      rfl
    · exact absurd ⟨secret, hsecret, hempty⟩ h

end MockSecretsVaultAdapter

open MockSecretsVaultAdapter

/-- The exception of a call of the vault that fails. -/
def vaultError : Exception := .error "vault call failed"

/-- A call of the vault. -/
def vaultCall {α : Type} (fails : Bool) (call : Effect Vault α) : Effect Vault α :=
  if fails then throw vaultError else call

/-- A call that does not fail is itself. -/
theorem vaultCall_false {α : Type} (call : Effect Vault α) : vaultCall false call = call :=
  if_neg Bool.false_ne_true

/-- A call that fails changes nothing. -/
theorem vaultCall_true {α : Type} (call : Effect Vault α) (vault : Vault) :
    vaultCall true call vault = .error vaultError vault := rfl

/-- `revoke` of both adapters; `fails k` says whether its `k`-th call of the vault fails. -/
def revokeCredential (fails : ℕ → Bool) (credentialHandle : String) : Effect Vault Unit := do
  let refreshToken ← vaultCall (fails 0) (retrieve credentialHandle)
  if refreshToken = "" then throw (.error "Invalid credential handle")
  else vaultCall (fails 1) (delete credentialHandle)

/-- `GoogleOAuthAdapter`; the failures are those of its calls for each handle. -/
def GoogleOAuthAdapter (fails : String → ℕ → Bool) : OAuthProviderPort Vault where
  revoke credentialHandle := revokeCredential (fails credentialHandle) credentialHandle

/-- `MicrosoftOAuthAdapter`. -/
def MicrosoftOAuthAdapter (fails : String → ℕ → Bool) : OAuthProviderPort Vault where
  revoke credentialHandle := revokeCredential (fails credentialHandle) credentialHandle

/-- A revocation deletes the secret when the vault holds it and works, and otherwise throws and
changes nothing. -/
theorem revokeCredential_cases (fails : ℕ → Bool) (credentialHandle : String) (vault : Vault) :
    (fails 0 = false ∧ fails 1 = false ∧ vault.Holds credentialHandle ∧
      revokeCredential fails credentialHandle vault
        = .ok () (Function.update vault credentialHandle none)) ∨
    ¬(fails 0 = false ∧ fails 1 = false ∧ vault.Holds credentialHandle) ∧
      ∃ e, revokeCredential fails credentialHandle vault = .error e vault := by
  unfold revokeCredential
  rcases fails 0 with _ | _
  · rw [vaultCall_false]
    by_cases hholds : vault.Holds credentialHandle
    · obtain ⟨secret, hne, hretrieve⟩ := retrieve_of_holds hholds
      rw [bind_of_ok hretrieve, if_neg hne]
      rcases fails 1 with _ | _
      · exact .inl ⟨rfl, rfl, hholds, rfl⟩
      · exact .inr ⟨fun h => Bool.noConfusion h.2.1, vaultError, rfl⟩
    · refine .inr ⟨fun h => hholds h.2.2, _, bind_of_error (retrieve_of_not_holds hholds) _⟩
  · exact .inr ⟨fun h => Bool.noConfusion h.1, vaultError, bind_of_error (vaultCall_true _ _) _⟩

/-- The adapter of either platform revokes a credential in the same way. -/
theorem revoke_adapterOf (fails : String → ℕ → Bool) (platform : Platform)
    (credentialHandle : String) :
    (adapterOf (GoogleOAuthAdapter fails) (MicrosoftOAuthAdapter fails) platform).revoke
        credentialHandle
      = revokeCredential (fails credentialHandle) credentialHandle := by
  rcases platform with _ | _
  · rfl
  · rfl

end EmailTriage.IdentityAccess
