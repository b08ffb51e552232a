import EmailTriage.Lib.JsNumber

/-!
# Sync cursors

`src/mailbox-ingestion/domain/value-objects/sync-cursor.ts`: where the synchronization of a mailbox has
got to, a Gmail history id or an Outlook delta link.
-/

namespace EmailTriage.MailboxIngestion

open Js

/-- The rows that cursors come from have any text for a platform. -/
structure SyncCursor where
  platform : String
  value : String

namespace SyncCursor

def canAdvanceTo (cursor : SyncCursor) (newValue : String) : Bool :=
  if cursor.platform = "gmail" then
    let oldNum := parseInt cursor.value
    let newNum := parseInt newValue
    -- an invalid cursor gives way to any valid one
    if oldNum.isNaN then !newNum.isNaN else oldNum.le newNum
  else if cursor.platform = "outlook" then newValue ≠ cursor.value
  else false

/-- History ids beyond 2 ^ 53 are compared as doubles: this one is smaller, and passes. -/
example : (SyncCursor.mk "gmail" "9007199254740993").canAdvanceTo "9007199254740992" = true := by
  decide

/-- The cursor may move: `canAdvanceTo` allows it, and a Gmail history id does not decrease. -/
def Forward (cursor : SyncCursor) (newValue : String) : Prop :=
  cursor.canAdvanceTo newValue = true ∧ (cursor.platform = "gmail" →
    ∀ m n, decimal cursor.value = some m → decimal newValue = some n → m ≤ n)

end SyncCursor

end EmailTriage.MailboxIngestion
