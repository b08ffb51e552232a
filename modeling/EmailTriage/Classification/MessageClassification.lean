import Mathlib.Data.Rat.Defs
import EmailTriage.Lib.Keyed
import EmailTriage.Classification.RuleSignals

/-!
# The classification aggregate

`src/classification/domain/aggregates/message-classification.ts`: the labels of a message, at most one
for each category. `NEEDS_REPLY` has an entrance of its own, which asks for the rule signals.
-/

namespace EmailTriage.Classification

open Js

/-- The enumeration `Category` of `prisma/schema.prisma`. -/
inductive Category where
  | PERSONAL
  | WORK
  | MARKETING
  | FINANCE
  | HEALTH
  | SHOPPING
  | TRAVEL
  | SOCIAL
  | NEEDS_REPLY
deriving DecidableEq

def Category.text : Category → String
  | .PERSONAL => "PERSONAL"
  | .WORK => "WORK"
  | .MARKETING => "MARKETING"
  | .FINANCE => "FINANCE"
  | .HEALTH => "HEALTH"
  | .SHOPPING => "SHOPPING"
  | .TRAVEL => "TRAVEL"
  | .SOCIAL => "SOCIAL"
  | .NEEDS_REPLY => "NEEDS_REPLY"

inductive SourceTier where
  | rule
  | cheap_llm
  | frontier_llm
deriving DecidableEq

def SourceTier.text : SourceTier → String
  | .rule => "rule"
  | .cheap_llm => "cheap_llm"
  | .frontier_llm => "frontier_llm"

structure LabelAssignment where
  category : Category
  confidence : ℚ
  sourceTier : SourceTier
  classifierVersion : String
deriving DecidableEq

structure MessageClassification where
  tenantId : String
  messageId : String
  labels : Keyed LabelAssignment.category
  isFinalized : Bool
  pipelineVersion : String

namespace MessageClassification

/-- The constructor. -/
def new (tenantId messageId : String) : MessageClassification :=
  ⟨tenantId, messageId, Keyed.empty, false, "1.0.0"⟩

/-- The error of a change after `finalize`. -/
def finalizedError : Exception := .error "Cannot modify finalized classification"

def assignLabel (c : MessageClassification) (label : LabelAssignment) :
    Except Exception MessageClassification :=
  if c.isFinalized then .error finalizedError
  else if label.category = .NEEDS_REPLY then
    .error (.error "Cannot assign NeedsReply without checking automation signals")
  else .ok { c with labels := c.labels.put label }

def assignNeedsReplyIfValid (c : MessageClassification) (signals : RuleSignalSet)
    (confidence : ℚ) : Except Exception MessageClassification :=
  if c.isFinalized then .error finalizedError
  else if !signals.listUnsubscribePresent && !signals.precedenceBulk
      && !signals.autoSubmittedPresent then
    .ok { c with
      labels := c.labels.put
        { category := .NEEDS_REPLY, confidence, sourceTier := .rule
          classifierVersion := c.pipelineVersion } }
  else .ok c

def finalize (c : MessageClassification) : MessageClassification := { c with isFinalized := true }

/-- Assigning a label changes the label of its own category only, and never assigns `NEEDS_REPLY`. -/
theorem find_assignLabel {c c' : MessageClassification} {label : LabelAssignment}
    (h : c.assignLabel label = .ok c') (category : Category) :
    label.category ≠ .NEEDS_REPLY ∧
      c'.labels.find category = if category = label.category then some label
        else c.labels.find category := by
  unfold assignLabel at h
  split_ifs at h with hfin hcat
  have hc' := Except.ok.inj h
  refine ⟨hcat, ?_⟩
  rw [← hc']
  exact Keyed.find_put c.labels label category

/-- No label assignment touches `NEEDS_REPLY`. -/
theorem find_needsReply_assignLabel {c c' : MessageClassification} {label : LabelAssignment}
    (h : c.assignLabel label = .ok c') :
    c'.labels.find .NEEDS_REPLY = c.labels.find .NEEDS_REPLY := by
  have hfind := find_assignLabel h .NEEDS_REPLY
  rw [hfind.2, if_neg (Ne.symm hfind.1)]

end MessageClassification

end EmailTriage.Classification
