import EmailTriage.Lib.Runs
import EmailTriage.Prioritization.MessagePriority

/-!
# Escalations

`updateScore` returns the new tier where a tier of `Normal` or `Low` becomes `High` or `Critical`.
`escalationsExact_iff` says in which runs these are all rises into `High` and `Critical`.

`updated` is what a call stores, and `escalation` what it returns. A rise from `High` into `Critical`
is no escalation for `updateScore` (`escalation_eq_some_iff`), so the condition on a run is that no
call makes it.
-/

namespace EmailTriage.Prioritization

open Js Runs

/-- The order of the tiers. -/
def PriorityTier.rank : PriorityTier → ℕ
  | .Low => 0
  | .Normal => 1
  | .High => 2
  | .Critical => 3

namespace MessagePriority

/-- A call of `updateScore`. -/
structure ScoreUpdate where
  newScore : ℚ
  components : List ScoreComponent
  now : ℤ

/-- The priority after a call. -/
def updated (p : MessagePriority) (call : ScoreUpdate) : MessagePriority :=
  (p.updateScore call.newScore call.components call.now).1

/-- The tier a call returns. -/
def escalation (p : MessagePriority) (call : ScoreUpdate) : Option PriorityTier :=
  (p.updateScore call.newScore call.components call.now).2

/-- The tier after a call is in the range that calls for an alert, and above the tier before. -/
def RisesInto (before after : PriorityTier) : Prop :=
  (after = .High ∨ after = .Critical) ∧ before.rank < after.rank

/-- A call returns the tier after it exactly if that is a rise, and the tier is that of the stored
score. -/
structure EscalatesExactly (p : MessagePriority) (call : ScoreUpdate) (p' : MessagePriority) : Prop where
  returned : ∀ tier, p.escalation call = some tier ↔ RisesInto p.tier p'.tier ∧ tier = p'.tier
  tier : p'.tier = tierForScore p'.score

/-- A message that is `High` already does not become `Critical`. -/
def StaysBelowCritical (p : MessagePriority) (call : ScoreUpdate) (_ : MessagePriority) : Prop :=
  p.tier = .High → call.newScore < 80

/-- What a call stores. -/
theorem updated_spec (p : MessagePriority) (call : ScoreUpdate) :
    (p.updated call).score = clampScore call.newScore ∧
      (p.updated call).tier = tierForScore (clampScore call.newScore) := by
  unfold updated updateScore
  dsimp only
  split
  · exact ⟨rfl, rfl⟩
  · exact ⟨rfl, rfl⟩

/-- What a call returns. -/
theorem escalation_eq_some_iff {p : MessagePriority} {call : ScoreUpdate} {tier : PriorityTier} :
    p.escalation call = some tier ↔ ((p.tier = .Normal ∨ p.tier = .Low) ∧
      ((p.updated call).tier = .High ∨ (p.updated call).tier = .Critical)) ∧
        tier = (p.updated call).tier := by
  rw [(updated_spec p call).2]
  unfold escalation updateScore
  dsimp only
  split
  · next hrises =>
    rw [and_iff_right hrises]
    exact Option.some_inj.trans eq_comm
  · next hrises => exact iff_of_false (by rintro ⟨⟩) fun h => hrises h.1

/-- The check of the tier before leaves out the rises from `High`. -/
theorem risesInto_iff (before after : PriorityTier) :
    RisesInto before after ↔ ((before = .Normal ∨ before = .Low) ∧ (after = .High ∨ after = .Critical)) ∨
      (before = .High ∧ after = .Critical) := by
  unfold RisesInto
  cases before <;> cases after <;> decide

/-- A score is critical from eighty on. -/
theorem tierForScore_clampScore_eq_critical {score : ℚ} :
    tierForScore (clampScore score) = .Critical ↔ 80 ≤ score := by
  have hclamp : clampScore score ≥ 80 ↔ 80 ≤ score := by
    unfold clampScore clamp
    rw [ge_iff_le, le_max_iff, le_min_iff]
    norm_num
  rw [← hclamp]
  unfold tierForScore
  split_ifs with h
  · exact iff_of_true rfl h
  · exact iff_of_false (by rintro ⟨⟩) h
  · exact iff_of_false (by rintro ⟨⟩) h
  · exact iff_of_false (by rintro ⟨⟩) h

/-- One call. -/
theorem escalatesExactly_iff (p : MessagePriority) (call : ScoreUpdate) :
    EscalatesExactly p call (p.updated call) ↔ StaysBelowCritical p call (p.updated call) := by
  obtain ⟨hscore, htier⟩ := updated_spec p call
  have hcritical : (p.updated call).tier = .Critical ↔ 80 ≤ call.newScore := by
    rw [htier]
    exact tierForScore_clampScore_eq_critical
  constructor
  · rintro ⟨hreturned, -⟩ hhigh
    by_contra hscore
    have hafter := hcritical.mpr (not_lt.mp hscore)
    have hrises := (risesInto_iff p.tier (p.updated call).tier).mpr (.inr ⟨hhigh, hafter⟩)
    obtain ⟨⟨hbefore, -⟩, -⟩ := escalation_eq_some_iff.mp ((hreturned _).mpr ⟨hrises, rfl⟩)
    rw [hhigh] at hbefore
    rcases hbefore with h | h
    · cases h
    · cases h
  · intro hbelow
    have hnot : ¬(p.tier = .High ∧ (p.updated call).tier = .Critical) := by
      rintro ⟨hhigh, hafter⟩
      exact absurd (hcritical.mp hafter) (not_le.mpr (hbelow hhigh))
    refine ⟨fun tier => ?_, by rw [hscore, htier]⟩
    rw [escalation_eq_some_iff, risesInto_iff, or_iff_left hnot]

/-- In every run, the escalations are complete and exact if and only if no call takes a message from
`High` to `Critical`. -/
theorem escalationsExact_iff (tenantId messageId : String) (createdAt updatedAt : ℤ)
    (calls : List ScoreUpdate) :
    Along EscalatesExactly (pending tenantId messageId createdAt updatedAt)
        (exec updated (pending tenantId messageId createdAt updatedAt) calls) ↔
      Along StaysBelowCritical (pending tenantId messageId createdAt updatedAt)
        (exec updated (pending tenantId messageId createdAt updatedAt) calls) := by
  refine along_iff (I := fun _ => True) ?_ (fun _ _ _ _ _ _ => trivial) (along_exec _ _ calls) trivial
  rintro p call p' - rfl
  exact escalatesExactly_iff p call

/-- A message becomes `High`, and then `Critical`. -/
theorem not_escalationsExact_critical : ¬Along EscalatesExactly (pending "tenant" "message" 0 0)
    (exec updated (pending "tenant" "message" 0 0) [⟨65, [], 1⟩, ⟨90, [], 2⟩]) := by
  rintro ⟨-, ⟨hreturned, -⟩, -⟩
  have hnone : escalation (updated (pending "tenant" "message" 0 0) ⟨65, [], 1⟩) ⟨90, [], 2⟩ = none := by
    decide +kernel
  have hsome := (hreturned .Critical).mpr ⟨⟨.inr (by decide +kernel), by decide +kernel⟩, by decide +kernel⟩
  cases hnone.symm.trans hsome

end MessagePriority

end EmailTriage.Prioritization
