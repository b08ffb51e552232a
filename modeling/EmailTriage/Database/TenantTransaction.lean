import EmailTriage.Lib.Effect

/-!
# Transactions of a tenant

`src/database/tenant-transaction.ts`. The tenant it sets is read by the row level security policies
only, and these do not apply to the role the application connects as.
-/

namespace EmailTriage.Database

open Js

/-- The exception of a transaction that fails. -/
def transactionError : Exception := .error "transaction failed"

variable {σ α : Type}

/-- `runInTenantTransaction`: what `fn` has written stays when it returns and `fails` is false, and is
undone otherwise. A database call that fails in the middle of `fn` ends the transaction too, so it is
one of the failures. -/
def runInTenantTransaction (fails : Bool) (fn : Effect σ α) : Effect σ α := fun w =>
  match fn w with
  | .ok a w' => if fails then .error transactionError w else .ok a w'
  | .error e _ => .error e w

/-- What returns in a transaction that can be committed is kept. -/
theorem runInTenantTransaction_of_ok {fn : Effect σ α} {w w' : σ} {a : α} (h : fn w = .ok a w') :
    runInTenantTransaction false fn w = .ok a w' := by
  unfold runInTenantTransaction
  rw [h]
  rfl

/-- What throws in a transaction changes nothing. -/
theorem runInTenantTransaction_of_error {fails : Bool} {fn : Effect σ α} {w w' : σ} {e : Exception}
    (h : fn w = .error e w') : runInTenantTransaction fails fn w = .error e w := by
  unfold runInTenantTransaction
  rw [h]

/-- A transaction that fails has changed nothing. -/
theorem after_runInTenantTransaction_of_fails (fn : Effect σ α) (w : σ) :
    after (runInTenantTransaction true fn) w = w := by
  unfold after runInTenantTransaction
  rcases fn w with ⟨a, w'⟩ | ⟨e, w'⟩
  · rfl
  · rfl

end EmailTriage.Database
