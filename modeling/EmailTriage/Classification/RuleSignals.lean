import EmailTriage.Lib.Codec

/-!
# Rule signals

`src/classification/domain/value-objects/rule-signal-set.ts`: the facts the rule tier reads off an
envelope. The evaluator takes the envelope as `any`, so it reads an arbitrary JavaScript value.
-/

namespace EmailTriage.Classification

open Js

structure RuleSignalSet where
  senderIsBrand : Bool
  listUnsubscribePresent : Bool
  precedenceBulk : Bool
  autoSubmittedPresent : Bool
  listIdPresent : Bool
  dmarcPass : Bool
  dkimPass : Bool
  spfPass : Bool
  methodCancelDetected : Dyn Bool
  ecommerceMarkupDetected : Dyn Bool
  threadStateAutomated : Bool

namespace RuleSignalEvaluator

def evaluateSignals (envelope : Value) : Except Exception RuleSignalSet :=
  if envelope.isNullish then .error .typeError
  else
    let headers := envelope.get "headers"
    let authResults := envelope.get "authResults"
    .ok
      { senderIsBrand := false
        listUnsubscribePresent := (headers.get "list-unsubscribe").truthy
        precedenceBulk := (headers.get "precedence").isStr "bulk"
        autoSubmittedPresent := (headers.get "auto-submitted").truthy
        listIdPresent := (headers.get "list-id").truthy
        dmarcPass := (authResults.get "dmarc").isStr "pass"
        dkimPass := (authResults.get "dkim").isStr "pass"
        spfPass := (authResults.get "spf").isStr "pass"
        methodCancelDetected :=
          ⟨(envelope.get "hasCalendarPart").and (.bool ((envelope.get "methodType").isStr "CANCEL"))⟩
        ecommerceMarkupDetected := ⟨(envelope.get "hasEcommerceMarkup").or (.bool false)⟩
        threadStateAutomated := (envelope.get "lastSenderIsMailboxOwner").isBool false }

def hasStrongAutomationSignals (signals : RuleSignalSet) : Bool :=
  let automationSignals := [signals.listUnsubscribePresent, signals.precedenceBulk,
    signals.autoSubmittedPresent, signals.listIdPresent].count true
  automationSignals ≥ 2

end RuleSignalEvaluator

end EmailTriage.Classification
