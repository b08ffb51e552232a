import EmailTriage.Lib.JsValue

/-!
# Message envelopes

`src/mailbox-ingestion/domain/value-objects/message-envelope.ts`: the normalized form of a message that
ingestion hands to the other contexts, and the factory that builds it.
-/

namespace EmailTriage.MailboxIngestion

open Js

inductive Platform where
  | gmail
  | outlook
deriving DecidableEq

def Platform.text : Platform → String
  | .gmail => "gmail"
  | .outlook => "outlook"

inductive CalendarMethodType where
  | REQUEST
  | REPLY
  | CANCEL
  | REFRESH
  | COUNTER
  | DECLINECOUNTER
deriving DecidableEq

def CalendarMethodType.text : CalendarMethodType → String
  | .REQUEST => "REQUEST"
  | .REPLY => "REPLY"
  | .CANCEL => "CANCEL"
  | .REFRESH => "REFRESH"
  | .COUNTER => "COUNTER"
  | .DECLINECOUNTER => "DECLINECOUNTER"

structure AttachmentSummary where
  filename : String
  mimeType : String
  sizeBytes : Option ℚ
deriving DecidableEq

/-- An envelope; `sender` and `recipients` are the source's `from` and `to`. -/
structure MessageEnvelope where
  messageId : String
  threadRef : Option String
  platform : Platform
  sender : String
  recipients : List String
  cc : Option (List String)
  bcc : Option (List String)
  subject : Option String
  sentAt : String
  hasCalendarPart : Option Bool
  calendarMethodType : Option CalendarMethodType
  listUnsubscribe : Option String
  listId : Option String
  precedence : Option String
  autoSubmitted : Option String
  spfPass : Option Bool
  dkimPass : Option Bool
  dmarcPass : Option Bool
  attachmentSummaries : Option (List AttachmentSummary)
deriving DecidableEq

/-- `Partial<MessageEnvelope>`. -/
structure PartialMessageEnvelope where
  messageId : Option String := none
  threadRef : Option String := none
  platform : Option Platform := none
  sender : Option String := none
  recipients : Option (List String) := none
  cc : Option (List String) := none
  bcc : Option (List String) := none
  subject : Option String := none
  sentAt : Option String := none
  hasCalendarPart : Option Bool := none
  calendarMethodType : Option CalendarMethodType := none
  listUnsubscribe : Option String := none
  listId : Option String := none
  precedence : Option String := none
  autoSubmitted : Option String := none
  spfPass : Option Bool := none
  dkimPass : Option Bool := none
  dmarcPass : Option Bool := none
  attachmentSummaries : Option (List AttachmentSummary) := none

/-- An optional string that is there and not empty: the strings a condition takes for true. -/
def present : Option String → Option String
  | some s => if s ≠ "" then some s else none
  | none => none

namespace MessageEnvelopeFactory

/-- The error of `create`. -/
def missingFields : Exception := .error "MessageEnvelope missing required fields"

def create (data : PartialMessageEnvelope) : Except Exception MessageEnvelope :=
  match present data.messageId, present data.sender, data.recipients, data.platform,
    present data.sentAt with
  | some messageId, some sender, some recipients, some platform, some sentAt =>
    .ok
      { messageId, sender, recipients, platform, sentAt
        threadRef := data.threadRef
        cc := some (data.cc.getD [])
        bcc := some (data.bcc.getD [])
        subject := some ((present data.subject).getD "")
        hasCalendarPart := some (data.hasCalendarPart.getD false)
        calendarMethodType := data.calendarMethodType
        listUnsubscribe := data.listUnsubscribe
        listId := data.listId
        precedence := data.precedence
        autoSubmitted := data.autoSubmitted
        spfPass := data.spfPass
        dkimPass := data.dkimPass
        dmarcPass := data.dmarcPass
        attachmentSummaries := some (data.attachmentSummaries.getD []) }
  | _, _, _, _, _ => .error missingFields

end MessageEnvelopeFactory

/-! ## The envelope as an object

The columns hold the envelope as JSON. These are its properties, with the optional ones left out where
they are missing.
-/

def AttachmentSummary.toValue (a : AttachmentSummary) : Value :=
  .obj [("filename", .str a.filename), ("mimeType", .str a.mimeType),
    ("sizeBytes", .ofOption .num a.sizeBytes)]

/-- The JavaScript object other contexts receive. -/
def MessageEnvelope.toValue (e : MessageEnvelope) : Value :=
  .obj [("messageId", .str e.messageId), ("threadRef", .ofOption .str e.threadRef),
    ("platform", .str e.platform.text), ("from", .str e.sender), ("to", .arr (e.recipients.map .str)),
    ("cc", .ofOption (fun cc => .arr (cc.map .str)) e.cc),
    ("bcc", .ofOption (fun bcc => .arr (bcc.map .str)) e.bcc),
    ("subject", .ofOption .str e.subject), ("sentAt", .str e.sentAt),
    ("hasCalendarPart", .ofOption .bool e.hasCalendarPart),
    ("calendarMethodType", .ofOption (fun m => .str m.text) e.calendarMethodType),
    ("listUnsubscribe", .ofOption .str e.listUnsubscribe), ("listId", .ofOption .str e.listId),
    ("precedence", .ofOption .str e.precedence), ("autoSubmitted", .ofOption .str e.autoSubmitted),
    ("spfPass", .ofOption .bool e.spfPass), ("dkimPass", .ofOption .bool e.dkimPass),
    ("dmarcPass", .ofOption .bool e.dmarcPass),
    ("attachmentSummaries", .ofOption (fun as => .arr (as.map (·.toValue))) e.attachmentSummaries)]

end EmailTriage.MailboxIngestion
