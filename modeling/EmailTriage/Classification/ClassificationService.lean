import EmailTriage.Lib.Effect
import EmailTriage.Classification.MessageClassification
import EmailTriage.MailboxIngestion.MessageEnvelope

/-!
# Classifying a message

`src/classification/application/classification.service.ts`: the rule tier, then the cheap LLM tier where
the rules left room. The language model and the repository are arbitrary effects on some world, and
either may throw.

`BulkExclusion` is the invariant that a message with bulk headers is never marked as awaiting a
reply. The evaluator looks for those headers under names that no envelope of the ingestion context
has: `evaluateSignals_toValue` computes what it sees, which is nothing.

Since the evaluator sees nothing, the verdict on every message of the factory is the same: a message
that is classified at all awaits a reply (`needsReply_of_classifyMessage`), and a silent model and a
working repository let it be classified (`classifyMessage_of_silent`). Between them these give both
directions of `bulkExclusion_iff`.
-/

namespace EmailTriage.Classification

open Js MailboxIngestion

/-- One label of the language model. -/
structure LlmResult where
  category : Category
  confidence : ℚ

/-! ## The service

The rules run first. The provider is asked only where they leave a doubt, and what it throws is not
caught.
-/

namespace ClassificationService

/-- The labels the rule signals assign. -/
def assignRules (signals : RuleSignalSet) (c : MessageClassification) :
    Except Exception MessageClassification := do
  let c ← if signals.methodCancelDetected.value.truthy then
      c.assignLabel ⟨.SHOPPING, 95 / 100, .rule, "1.0.0"⟩
    else .ok c
  let c ← if signals.ecommerceMarkupDetected.value.truthy then
      c.assignLabel ⟨.SHOPPING, 85 / 100, .rule, "1.0.0"⟩
    else .ok c
  if !RuleSignalEvaluator.hasStrongAutomationSignals signals then
    c.assignNeedsReplyIfValid signals (6 / 10)
  else .ok c

/-- Whether the rules leave room for the language model. -/
def needsCheapLlm (c : MessageClassification) : Bool :=
  c.labels.items.isEmpty || c.labels.items.any (·.confidence < 8 / 10)

/-- The labels of the language model: the categories that have no label yet. -/
def assignResults (results : List LlmResult) (c : MessageClassification) :
    Except Exception MessageClassification :=
  results.foldlM (fun c result =>
    if (c.labels.find result.category).isNone then
      c.assignLabel ⟨result.category, result.confidence, .cheap_llm, "1.0.0"⟩
    else .ok c) c

variable {σ : Type} (classifyWithHaiku : Value → Effect σ (List LlmResult))
  (save : String → MessageClassification → Effect σ Unit)

/-- The cheap LLM tier. -/
def cheapTier (messageEnvelope : Value) (c : MessageClassification) :
    Effect σ MessageClassification :=
  if needsCheapLlm c then do
    let cheapResults ← classifyWithHaiku ((messageEnvelope.get "subject").or (.str ""))
    MonadExcept.ofExcept (assignResults cheapResults c)
  else pure c

def classifyMessage (tenantId messageId : String) (messageEnvelope : Value) :
    Effect σ MessageClassification := do
  let signals ← MonadExcept.ofExcept (RuleSignalEvaluator.evaluateSignals messageEnvelope)
  let c ← MonadExcept.ofExcept (assignRules signals (.new tenantId messageId))
  let c ← cheapTier classifyWithHaiku messageEnvelope c
  let c := c.finalize
  save tenantId c
  return c

end ClassificationService

/-! ## What the evaluator sees of an envelope

The rule signals look for headers that the envelope does not carry, so they see none of them in any
envelope.
-/

/-- The signals of a message nothing is known about. -/
def noSignals : RuleSignalSet :=
  ⟨false, false, false, false, false, false, false, false, .of false, .of false, false⟩

/-- The factory sets the calendar flag. -/
theorem hasCalendarPart_create {data : PartialMessageEnvelope} {env : MessageEnvelope}
    (h : MessageEnvelopeFactory.create data = .ok env) : env.hasCalendarPart.isSome = true := by
  unfold MessageEnvelopeFactory.create at h
  split at h
  · rw [← Except.ok.inj h]
    rfl
  · cases h

/-- What the evaluator asks an envelope for, and an envelope does not have. -/
theorem get_toValue_of_mem (env : MessageEnvelope) {key : String}
    (h : key ∈ ["headers", "authResults", "methodType", "hasEcommerceMarkup",
      "lastSenderIsMailboxOwner"]) : env.toValue.get key = .undefined := by
  simp only [List.mem_cons, List.not_mem_nil, or_false] at h
  unfold MessageEnvelope.toValue
  rcases h with rfl | rfl | rfl | rfl | rfl <;> simp

/-- An envelope of the factory has none of the properties the evaluator reads, but for the calendar
part, whose method it expects elsewhere. -/
theorem evaluateSignals_toValue {data : PartialMessageEnvelope} {env : MessageEnvelope}
    (h : MessageEnvelopeFactory.create data = .ok env) :
    RuleSignalEvaluator.evaluateSignals env.toValue = .ok noSignals := by
  obtain ⟨calendar, hcalendar⟩ := Option.isSome_iff_exists.mp (hasCalendarPart_create h)
  have hpart : env.toValue.get "hasCalendarPart" = .bool calendar := by
    simp [MessageEnvelope.toValue, hcalendar, Value.ofOption]
  have hobj : env.toValue.isNullish = false := rfl
  unfold RuleSignalEvaluator.evaluateSignals
  rw [hobj, hpart, get_toValue_of_mem env (by decide : "headers" ∈ _),
    get_toValue_of_mem env (by decide : "authResults" ∈ _),
    get_toValue_of_mem env (by decide : "methodType" ∈ _),
    get_toValue_of_mem env (by decide : "hasEcommerceMarkup" ∈ _),
    get_toValue_of_mem env (by decide : "lastSenderIsMailboxOwner" ∈ _)]
  rcases calendar with _ | _ <;> rfl

/-! ## What the labels are

What a classification can contain, by the tier that has assigned it.
-/

/-- The labels of the language model never touch `NEEDS_REPLY`. -/
theorem find_needsReply_assignResults {results : List LlmResult} {c c' : MessageClassification}
    (h : ClassificationService.assignResults results c = .ok c') :
    c'.labels.find .NEEDS_REPLY = c.labels.find .NEEDS_REPLY := by
  induction results generalizing c with
  | nil =>
    have hc := Except.ok.inj h
    rw [hc]
  | cons result results ih =>
    unfold ClassificationService.assignResults at h
    rw [List.foldlM_cons] at h
    obtain ⟨c₁, hc₁, hrest⟩ := except_bind_eq_ok.mp h
    rw [ih hrest]
    split_ifs at hc₁ with hnew
    · exact MessageClassification.find_needsReply_assignLabel hc₁
    · rw [← Except.ok.inj hc₁]

/-- Without signals the rules assign `NEEDS_REPLY`, and nothing else. -/
theorem assignRules_noSignals (tenantId messageId : String) :
    ∃ c, ClassificationService.assignRules noSignals (.new tenantId messageId) = .ok c ∧
      c.labels.find .NEEDS_REPLY = some ⟨.NEEDS_REPLY, 6 / 10, .rule, "1.0.0"⟩ := by
  refine ⟨_, rfl, ?_⟩
  rw [Keyed.find_put]
  rfl

section

variable {σ : Type} {classifyWithHaiku : Value → Effect σ (List LlmResult)}
  {save : String → MessageClassification → Effect σ Unit}

/-- The cheap tier never touches `NEEDS_REPLY`. -/
theorem find_needsReply_cheapTier {messageEnvelope : Value} {s s' : σ}
    {c c' : MessageClassification}
    (h : ClassificationService.cheapTier classifyWithHaiku messageEnvelope c s = .ok c' s') :
    c'.labels.find .NEEDS_REPLY = c.labels.find .NEEDS_REPLY := by
  unfold ClassificationService.cheapTier at h
  split_ifs at h
  · obtain ⟨results, s₁, -, hresults⟩ := bind_eq_ok.mp h
    exact find_needsReply_assignResults (ofExcept_eq_ok.mp hresults).1
  · obtain ⟨rfl, -⟩ := pure_eq_ok.mp h
    rfl

/-- Every message of the factory that is classified at all awaits a reply. -/
theorem needsReply_of_classifyMessage {data : PartialMessageEnvelope} {env : MessageEnvelope}
    (h : MessageEnvelopeFactory.create data = .ok env) {tenantId messageId : String} {s s' : σ}
    {c : MessageClassification}
    (hc : ClassificationService.classifyMessage classifyWithHaiku save tenantId messageId env.toValue s
      = .ok c s') :
    c.labels.find .NEEDS_REPLY = some ⟨.NEEDS_REPLY, 6 / 10, .rule, "1.0.0"⟩ := by
  unfold ClassificationService.classifyMessage at hc
  obtain ⟨signals, s₁, hsignals, hc⟩ := bind_eq_ok.mp hc
  rw [evaluateSignals_toValue h, ofExcept_eq_ok, Except.ok.injEq] at hsignals
  obtain ⟨rfl, rfl⟩ := hsignals
  obtain ⟨c₁, s₂, hrules, hc⟩ := bind_eq_ok.mp hc
  obtain ⟨c₁', hc₁', hlabel⟩ := assignRules_noSignals tenantId messageId
  rw [hc₁', ofExcept_eq_ok, Except.ok.injEq] at hrules
  obtain ⟨rfl, rfl⟩ := hrules
  obtain ⟨c₂, s₃, hcheap, hc⟩ := bind_eq_ok.mp hc
  obtain ⟨-, s₄, -, hc⟩ := bind_eq_ok.mp hc
  obtain ⟨rfl, -⟩ := pure_eq_ok.mp hc
  have hfinal : c₂.finalize.labels = c₂.labels := rfl
  rw [hfinal, find_needsReply_cheapTier hcheap, hlabel]

/-- A language model that answers nothing and a repository that saves do not fail a message. -/
theorem classifyMessage_of_silent {data : PartialMessageEnvelope} {env : MessageEnvelope}
    (h : MessageEnvelopeFactory.create data = .ok env) (tenantId messageId : String) (s : σ) :
    ∃ c, ClassificationService.classifyMessage (fun _ => pure []) (fun _ _ => pure ()) tenantId
      messageId env.toValue s = .ok c s := by
  obtain ⟨c, hc, -⟩ := assignRules_noSignals tenantId messageId
  have hcheap : ClassificationService.cheapTier (fun _ => pure []) env.toValue c s = .ok c s := by
    unfold ClassificationService.cheapTier
    split_ifs <;> rfl
  refine ⟨c.finalize, ?_⟩
  unfold ClassificationService.classifyMessage
  refine bind_eq_ok.mpr ⟨noSignals, s, ofExcept_eq_ok.mpr ⟨evaluateSignals_toValue h, rfl⟩, ?_⟩
  refine bind_eq_ok.mpr ⟨c, s, ofExcept_eq_ok.mpr ⟨hc, rfl⟩, ?_⟩
  exact bind_eq_ok.mpr ⟨c, s, hcheap, rfl⟩

end

/-! ## The exclusion of bulk mail

The facts about a message and the signals that stand for them part where a header says what no field
carries.
-/

/-- The facts about an envelope that the rule signals stand for. -/
structure EnvelopeFacts where
  listUnsubscribe : Bool
  listId : Bool
  precedenceBulk : Bool
  autoSubmitted : Bool
  dmarcPass : Bool
  dkimPass : Bool
  spfPass : Bool
  methodCancel : Bool
deriving DecidableEq

/-- The facts as the envelope's own fields have them. -/
def EnvelopeFacts.of (env : MessageEnvelope) : EnvelopeFacts where
  listUnsubscribe := (present env.listUnsubscribe).isSome
  listId := (present env.listId).isSome
  precedenceBulk := env.precedence = some "bulk"
  autoSubmitted := (present env.autoSubmitted).isSome
  dmarcPass := env.dmarcPass = some true
  dkimPass := env.dkimPass = some true
  spfPass := env.spfPass = some true
  methodCancel := env.hasCalendarPart = some true && env.calendarMethodType = some .CANCEL

/-- The facts of a message nothing is known about. -/
def noFacts : EnvelopeFacts := ⟨false, false, false, false, false, false, false, false⟩

/-- How many of the four bulk headers are there. -/
def EnvelopeFacts.bulkHeaders (f : EnvelopeFacts) : ℕ :=
  [f.listUnsubscribe, f.listId, f.precedenceBulk, f.autoSubmitted].count true

/-- Each signal is the fact it stands for. -/
structure SignalsAgree (signals : RuleSignalSet) (f : EnvelopeFacts) : Prop where
  listUnsubscribe : signals.listUnsubscribePresent = f.listUnsubscribe
  listId : signals.listIdPresent = f.listId
  precedenceBulk : signals.precedenceBulk = f.precedenceBulk
  autoSubmitted : signals.autoSubmittedPresent = f.autoSubmitted
  dmarcPass : signals.dmarcPass = f.dmarcPass
  dkimPass : signals.dkimPass = f.dkimPass
  spfPass : signals.spfPass = f.spfPass
  methodCancel : signals.methodCancelDetected = .of f.methodCancel

/-- The signals of an envelope are its facts, and with two bulk headers no classification of it,
whatever the language model answers, awaits a reply. -/
def BulkExclusion (env : MessageEnvelope) : Prop :=
  (∃ signals, RuleSignalEvaluator.evaluateSignals env.toValue = .ok signals ∧
    SignalsAgree signals (.of env)) ∧
  ∀ (σ : Type) (classifyWithHaiku : Value → Effect σ (List LlmResult))
    (save : String → MessageClassification → Effect σ Unit) (tenantId messageId : String)
    (s s' : σ) (c : MessageClassification),
    ClassificationService.classifyMessage classifyWithHaiku save tenantId messageId env.toValue s
      = .ok c s' →
    2 ≤ (EnvelopeFacts.of env).bulkHeaders → c.labels.find .NEEDS_REPLY = none

/-- The exclusion of bulk mail works for the envelopes of the factory that carry none of the facts,
and for no other. -/
theorem bulkExclusion_iff {data : PartialMessageEnvelope} {env : MessageEnvelope}
    (h : MessageEnvelopeFactory.create data = .ok env) :
    BulkExclusion env ↔ EnvelopeFacts.of env = noFacts := by
  constructor
  · rintro ⟨⟨signals, hsignals, hagree⟩, -⟩
    rw [evaluateSignals_toValue h, Except.ok.injEq] at hsignals
    subst hsignals
    obtain ⟨h₁, h₂, h₃, h₄, h₅, h₆, h₇, h₈⟩ := hagree
    have hcancel : (EnvelopeFacts.of env).methodCancel = false := by
      have hvalue := congrArg Dyn.value h₈
      simpa [noSignals, Dyn.of, toValue] using hvalue.symm
    rcases hf : EnvelopeFacts.of env with ⟨f₁, f₂, f₃, f₄, f₅, f₆, f₇, f₈⟩
    rw [hf] at h₁ h₂ h₃ h₄ h₅ h₆ h₇ hcancel
    simp only [noSignals] at h₁ h₂ h₃ h₄ h₅ h₆ h₇ hcancel
    rw [← h₁, ← h₂, ← h₃, ← h₄, ← h₅, ← h₆, ← h₇, hcancel]
    rfl
  · intro hfacts
    refine ⟨⟨noSignals, evaluateSignals_toValue h, ?_⟩, ?_⟩
    · rw [hfacts]
      exact ⟨rfl, rfl, rfl, rfl, rfl, rfl, rfl, rfl⟩
    · intro σ classifyWithHaiku save tenantId messageId s s' c _ hbulk
      rw [hfacts] at hbulk
      exact absurd hbulk (by decide)

/-- A personal message. -/
def personal : PartialMessageEnvelope :=
  { messageId := some "id", sender := some "a@example.org", recipients := some ["b@example.org"]
    platform := some .gmail, sentAt := some "2026-07-08T00:00:00Z" }

/-- The exclusion works for a personal message. -/
theorem bulkExclusion_personal : ∃ env, MessageEnvelopeFactory.create personal = .ok env ∧
    BulkExclusion env :=
  ⟨_, rfl, (@bulkExclusion_iff personal _ rfl).mpr (by decide)⟩

/-- A newsletter, with two bulk headers. -/
def newsletter : PartialMessageEnvelope :=
  { personal with listUnsubscribe := some "<mailto:leave@example.org>", precedence := some "bulk" }

/-- The newsletter is marked as awaiting a reply, even if the language model answers nothing. -/
theorem not_bulkExclusion_newsletter : ∃ env, MessageEnvelopeFactory.create newsletter = .ok env ∧
    (EnvelopeFacts.of env).bulkHeaders = 2 ∧ ¬BulkExclusion env := by
  refine ⟨_, rfl, by decide, fun hexclusion => ?_⟩
  obtain ⟨c, hc⟩ := @classifyMessage_of_silent Unit newsletter _ rfl "tenant" "message" ()
  have hlabel := @needsReply_of_classifyMessage _ _ _ newsletter _ rfl _ _ _ _ _ hc
  rw [hexclusion.2 _ _ _ _ _ _ _ _ hc (by decide)] at hlabel
  cases hlabel

end EmailTriage.Classification
