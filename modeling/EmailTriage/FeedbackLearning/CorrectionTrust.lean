import EmailTriage.FeedbackLearning.CorrectionRecord
import EmailTriage.Lib.Runs
import Mathlib.Tactic.Linarith

/-!
# Trust in a correction

A passively inferred correction is trusted while its state is `confirmed`, which `corroborate` and
`confirmCandidate` lead to, and which `markProcessed` leaves. A history counts the calls that speak for
the correction. `trustGrows_iff` says in which histories trust is earned and never lost.

A record is trusted by its source or by its state (`isTrusted_iff`), and no operation changes the
source, so a record becomes trusted by becoming confirmed. `Counts` says that a candidate has counted
the corroborations of its history, and hence that only enough of them, or a confirmation, confirm it.
Trust is lost where a confirmed record is processed, and nowhere else.
-/

namespace EmailTriage.FeedbackLearning

open Js Runs

/-- A record, with the calls of `corroborate` and of `confirmCandidate` so far. -/
structure TrustHistory where
  record : CorrectionRecord
  corroborations : ℕ
  confirmations : ℕ

namespace TrustHistory

/-- The history of a record from `create`. -/
def create (uuid : String) (now : ℤ) (tenantId messageId : String) (verdictSnapshot : VerdictSnapshot)
    (source : CorrectionSource) : TrustHistory :=
  ⟨.create uuid now tenantId messageId verdictSnapshot source, 0, 0⟩

def step (h : TrustHistory) (op : CorrectionRecord.Op) : TrustHistory where
  record := h.record.step op
  corroborations := match op with
    | .corroborate => h.corroborations + 1
    | _ => h.corroborations
  confirmations := match op with
    | .confirmCandidate => h.confirmations + 1
    | _ => h.confirmations

/-- Trust is kept, and a passively inferred correction earns it. -/
structure TrustGrows (h h' : TrustHistory) : Prop where
  kept : h.record.isTrusted = true → h'.record.isTrusted = true
  earned : h'.record.evidence.source.is .passive_inferred = true → h.record.isTrusted = false →
    h'.record.isTrusted = true → 2 ≤ h'.corroborations ∨ 1 ≤ h'.confirmations

/-- No confirmed correction that was inferred passively is marked as processed. -/
def KeepsConfirmed (h : TrustHistory) : CorrectionRecord.Op → Prop
  | .markProcessed => h.record.state = .confirmed → h.record.evidence.source.is .passive_inferred = false
  | _ => True

/-! ## One call

When a single operation makes a record trusted.
-/

/-- A record is trusted by its source, or once it is confirmed. -/
theorem isTrusted_iff {r : CorrectionRecord} :
    r.isTrusted = true ↔ r.evidence.source.is .passive_inferred = false ∨ r.state = .confirmed := by
  unfold CorrectionRecord.isTrusted CorrectionEvidence.isHighTrust
  rw [Bool.or_eq_true, Bool.not_eq_true', decide_eq_true_iff]

/-- Trust is kept where the state stays confirmed, or does not matter. -/
theorem isTrusted_step {r : CorrectionRecord} {op : CorrectionRecord.Op}
    (h : r.state = .confirmed →
      r.evidence.source.is .passive_inferred = false ∨ (r.step op).state = .confirmed)
    (htrusted : r.isTrusted = true) : (r.step op).isTrusted = true := by
  rw [isTrusted_iff, CorrectionRecord.source_step]
  rcases isTrusted_iff.mp htrusted with hactive | hconfirmed
  · exact .inl hactive
  · exact h hconfirmed

/-- A correction becomes trusted by becoming confirmed. -/
theorem state_of_becomesTrusted {r : CorrectionRecord} {op : CorrectionRecord.Op}
    (hbefore : r.isTrusted = false) (hafter : (r.step op).isTrusted = true) :
    r.state ≠ .confirmed ∧ (r.step op).state = .confirmed := by
  have hnot : ¬(r.evidence.source.is .passive_inferred = false ∨ r.state = .confirmed) := by
    rw [← isTrusted_iff, hbefore]
    exact Bool.false_ne_true
  refine ⟨fun hconfirmed => hnot (.inr hconfirmed), ?_⟩
  rw [isTrusted_iff, CorrectionRecord.source_step] at hafter
  exact hafter.resolve_left fun hactive => hnot (.inl hactive)

/-- What `corroborate` makes of a candidate. -/
theorem corroborate_candidate {r : CorrectionRecord} (h : r.state = .candidate) :
    r.corroborate.evidence.corroborationCount = r.evidence.corroborationCount + 1 ∧
      r.corroborate.state =
        if 2 ≤ r.evidence.corroborationCount + 1 then .confirmed else .candidate := by
  unfold CorrectionRecord.corroborate CorrectionRecord.confirmCandidate
  rw [if_pos h]
  dsimp only
  rw [if_pos h]
  by_cases hcount : 2 ≤ r.evidence.corroborationCount + 1
  · simp only [CorrectionEvidence.withAdditionalCorroboration, ge_iff_le, if_pos hcount, and_self]
  · simp only [CorrectionEvidence.withAdditionalCorroboration, ge_iff_le, if_neg hcount, h, and_self]

/-- What is no candidate any more is not corroborated. -/
theorem corroborate_of_not_candidate {r : CorrectionRecord} (h : r.state ≠ .candidate) :
    r.corroborate = r := by
  unfold CorrectionRecord.corroborate
  rw [if_neg h]

/-! ## Histories

The ghost counts the corroborations. Trust grows with them as long as the record is a candidate.
-/

/-- A candidate counts its corroborations. -/
def Counts (h : TrustHistory) : Prop :=
  h.record.state = .candidate → h.record.evidence.corroborationCount = h.corroborations

/-- Whatever is done with a record, the counts agree. -/
theorem counts_step {h : TrustHistory} (hh : Counts h) (op : CorrectionRecord.Op) : Counts (h.step op) := by
  intro hstate
  cases op with
  | corroborate =>
    by_cases hcandidate : h.record.state = .candidate
    · refine (corroborate_candidate hcandidate).1.trans ?_
      rw [hh hcandidate]
      exact (Nat.cast_succ _).symm
    · have hsame : h.record.corroborate.state = .candidate := hstate
      rw [corroborate_of_not_candidate hcandidate] at hsame
      exact absurd hsame hcandidate
  | confirmCandidate =>
    have hsame : h.record.confirmCandidate.state = .candidate := hstate
    unfold CorrectionRecord.confirmCandidate at hsame
    split at hsame
    · cases hsame
    · next hcandidate => exact absurd hsame hcandidate
  | markProcessed =>
    have hsame : h.record.markProcessed.state = .candidate := hstate
    show h.record.markProcessed.evidence.corroborationCount = h.corroborations
    unfold CorrectionRecord.markProcessed at hsame ⊢
    split at hsame
    · cases hsame
    · next hconfirmed =>
      rw [if_neg hconfirmed]
      exact hh hsame

/-- Corroboration keeps trust, and the second one earns it. -/
theorem trustGrows_corroborate {h : TrustHistory} (hh : Counts h) : TrustGrows h (h.step .corroborate) := by
  constructor
  · refine isTrusted_step fun hconfirmed => .inr ?_
    have hnot : h.record.state ≠ .candidate := by
      rw [hconfirmed]
      rintro ⟨⟩
    exact (congrArg CorrectionRecord.state (corroborate_of_not_candidate hnot)).trans hconfirmed
  · intro _ hbefore hafter
    obtain ⟨hnot, hconfirmed⟩ := state_of_becomesTrusted hbefore hafter
    have hstate : h.record.corroborate.state = .confirmed := hconfirmed
    by_cases hcandidate : h.record.state = .candidate
    · rw [(corroborate_candidate hcandidate).2, hh hcandidate] at hstate
      split at hstate
      · next hcount =>
        left
        show 2 ≤ h.corroborations + 1
        exact_mod_cast hcount
      · cases hstate
    · rw [corroborate_of_not_candidate hcandidate] at hstate
      exact absurd hstate hnot

/-- One call. -/
theorem trustGrows_step_iff {h : TrustHistory} (hh : Counts h) (op : CorrectionRecord.Op) :
    TrustGrows h (h.step op) ↔ KeepsConfirmed h op := by
  cases op with
  | corroborate => exact iff_of_true (trustGrows_corroborate hh) trivial
  | confirmCandidate =>
    refine iff_of_true ⟨isTrusted_step fun hconfirmed => .inr ?_, fun _ _ _ => .inr ?_⟩ trivial
    · show h.record.confirmCandidate.state = .confirmed
      unfold CorrectionRecord.confirmCandidate
      split
      · rfl
      · exact hconfirmed
    · exact Nat.succ_le_succ (Nat.zero_le _)
  | markProcessed =>
    have hstate : h.record.markProcessed.state ≠ .confirmed := by
      unfold CorrectionRecord.markProcessed
      split
      · rintro ⟨⟩
      · next hnot => exact hnot
    constructor
    · intro hgrows hconfirmed
      have htrusted : (h.record.step .markProcessed).isTrusted = true :=
        hgrows.kept (isTrusted_iff.mpr (.inr hconfirmed))
      rw [isTrusted_iff, CorrectionRecord.source_step] at htrusted
      exact htrusted.resolve_right hstate
    · intro hkeeps
      refine ⟨isTrusted_step fun hconfirmed => .inl (hkeeps hconfirmed), fun _ hbefore hafter => ?_⟩
      exact absurd (state_of_becomesTrusted hbefore hafter).2 hstate

/-- In every history from `create`, trust is earned and never lost exactly if no confirmed correction
that was inferred passively is marked as processed. -/
theorem trustGrows_iff (uuid : String) (now : ℤ) (tenantId messageId : String)
    (verdictSnapshot : VerdictSnapshot) (source : CorrectionSource) (ops : List CorrectionRecord.Op) :
    Along (fun h _ h' => TrustGrows h h') (create uuid now tenantId messageId verdictSnapshot source)
        (exec step (create uuid now tenantId messageId verdictSnapshot source) ops) ↔
      Along (fun h op _ => KeepsConfirmed h op) (create uuid now tenantId messageId verdictSnapshot source)
        (exec step (create uuid now tenantId messageId verdictSnapshot source) ops) := by
  refine along_iff (I := Counts) ?_ ?_ (along_exec _ _ ops) fun _ => Nat.cast_zero.symm
  · rintro h op h' hh rfl
    exact trustGrows_step_iff hh op
  · rintro h op h' hh rfl -
    exact counts_step hh op

/-- A correction that was inferred passively is confirmed, and marked as processed. -/
theorem not_trustGrows_processed : ¬Along (fun h _ h' => TrustGrows h h')
    (create "c1" 0 "tenant" "m1" ⟨.of .threat, .of "m1", .null, .null, ⟨.date (some 0)⟩⟩ .passive_inferred)
    (exec step
      (create "c1" 0 "tenant" "m1" ⟨.of .threat, .of "m1", .null, .null, ⟨.date (some 0)⟩⟩ .passive_inferred)
      [.confirmCandidate, .markProcessed]) := by
  rintro ⟨-, hlast, -⟩
  exact absurd (hlast.kept (by decide +kernel)) (by decide +kernel)

end TrustHistory

end EmailTriage.FeedbackLearning
