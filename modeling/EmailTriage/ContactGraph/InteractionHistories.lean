import EmailTriage.ContactGraph.SenderProfileRepository
import Mathlib.Tactic.NormNum

/-!
# Interactions across a save and a load

`save` writes the classification and the flags of a profile, and `loadBySender` builds a new profile
from them, so that the interactions recorded so far are gone. A history keeps what was recorded, and
what had been when the profile was last saved. `loadsWhatWasRecorded_iff` says in which histories no
load shows the loss.

Interactions without a valid time are never counted, and every other one is in a window that is long
enough. So a load shows no loss exactly if nothing with a valid time had been recorded by the save
(`survives_loaded_iff`). `Inv` says that what is loaded is the saved profile without its interactions,
and with it the condition on a history is one on its loads (`loadsInteractions_iff`).
-/

namespace EmailTriage.ContactGraph

open Js Db Runs SenderProfileRepository

/-- A profile as it was saved, with all interactions that had been recorded by then. -/
structure SavedProfile where
  profile : SenderProfile
  recorded : List InteractionEvent

/-- A profile with the stored rows, all interactions recorded so far, and the last save. -/
structure InteractionHistory where
  profile : SenderProfile
  table : SenderProfileTable
  recorded : List InteractionEvent
  saved : Option SavedProfile

namespace InteractionHistory

inductive Action where
  | recordInteraction (direction : Direction) (messageId : String) (occurredAt : Date)
  | save (now : ℤ) (newId : String)
  | loadBySender

/-- The profile that is loaded for the sender of another. -/
def loaded (t : SenderProfileTable) (p : SenderProfile) : Option SenderProfile :=
  loadBySender t p.tenantId p.mailboxId p.senderAddress

/-- A save that fails changes nothing, and a load that finds no row leaves the profile. -/
def step (h : InteractionHistory) : Action → InteractionHistory
  | .recordInteraction direction messageId occurredAt =>
    { h with
      profile := h.profile.recordInteraction direction messageId occurredAt
      recorded := h.recorded ++ [⟨direction, messageId, occurredAt⟩] }
  | .save now newId =>
    match save h.table now newId h.profile with
    | some table => { h with table, saved := some ⟨h.profile, h.recorded⟩ }
    | none => h
  | .loadBySender => { h with profile := (loaded h.table h.profile).getD h.profile }

/-- A loaded profile has the interactions that had been recorded by the save, as far as its operations
show.
-/
structure Survives (saved : SavedProfile) (p : SenderProfile) : Prop where
  counted : ∀ windowDays now, p.computeInteractionFrequency windowDays now =
    { saved.profile with interactionEvents := saved.recorded }.computeInteractionFrequency windowDays now
  forward : ∀ windowDays now,
    (saved.profile.computeInteractionFrequency windowDays now).totalInteractions ≤
        (p.computeInteractionFrequency windowDays now).totalInteractions ∧
      (saved.profile.computeInteractionFrequency windowDays now).bidirectionalCount ≤
        (p.computeInteractionFrequency windowDays now).bidirectionalCount
  promotion : ∀ minBidirectionalThreshold windowDays now,
    (p.promoteToVipIfQualified minBidirectionalThreshold windowDays now).2 =
      (saved.profile.promoteToVipIfQualified minBidirectionalThreshold windowDays now).2

/-- What is loaded after a save has the interactions. -/
def LoadsInteractions : InteractionHistory → Action → InteractionHistory → Prop
  | h, .loadBySender, h' => ∀ saved, h.saved = some saved → Survives saved h'.profile
  | _, _, _ => True

/-- No interaction with a valid time had been recorded by the save that is loaded. -/
def NothingToLoad : InteractionHistory → Action → InteractionHistory → Prop
  | h, .loadBySender, _ => ∀ saved, h.saved = some saved → ∀ e ∈ saved.recorded, e.occurredAt = none
  | _, _, _ => True

/-! ## Counts

The interactions are counted by their dates. Those without a valid one are never counted, and every other
one is in a window that is long enough.
-/

/-- Interactions without a valid time are not counted. -/
theorem frequency_of_invalid {p : SenderProfile} (h : ∀ e ∈ p.interactionEvents, e.occurredAt = none)
    (windowDays : Double) (now : ℤ) :
    p.computeInteractionFrequency windowDays now = ⟨0, 0, 0, 0, windowDays⟩ := by
  have hnone : p.interactionEvents.filter (SenderProfile.InteractionEvent.isRecent windowDays now) = [] := by
    refine List.filter_eq_nil_iff.mpr fun e he => ?_
    rw [SenderProfile.InteractionEvent.isRecent, h e he]
    exact Bool.false_ne_true
  unfold SenderProfile.computeInteractionFrequency
  rw [hnone]
  rfl

/-- An interaction with a valid time is counted in an unbounded window. -/
theorem isRecent_of_valid {e : InteractionEvent} {t : ℤ} (h : e.occurredAt = some t) (now : ℤ) :
    SenderProfile.InteractionEvent.isRecent (.infinite false) now e = true := by
  have hcutoff : SenderProfile.cutoffTime (.infinite false) now = .infinite true := by
    norm_num [SenderProfile.cutoffTime, Double.mul, Double.sub, Double.neg, Double.add]
  rw [SenderProfile.InteractionEvent.isRecent, h, hcutoff]
  rfl

/-- Promotion reads the designation and the counts. -/
theorem promote_snd_congr {p q : SenderProfile} {minBidirectionalThreshold : ℚ}
    {windowDays : Double} {now : ℤ}
    (hvip : p.isVip = q.isVip) (hlabel : p.classification = q.classification)
    (hcounts : p.computeInteractionFrequency windowDays now = q.computeInteractionFrequency windowDays now) :
    (p.promoteToVipIfQualified minBidirectionalThreshold windowDays now).2 =
      (q.promoteToVipIfQualified minBidirectionalThreshold windowDays now).2 := by
  rw [Bool.eq_iff_iff, SenderProfile.promote_snd_iff, SenderProfile.promote_snd_iff]
  constructor
  · rintro ⟨hnot, hpersonal, hfrequent⟩
    exact ⟨hvip ▸ hnot, hlabel ▸ hpersonal, hcounts ▸ hfrequent⟩
  · rintro ⟨hnot, hpersonal, hfrequent⟩
    exact ⟨hvip ▸ hnot, hlabel ▸ hpersonal, hcounts ▸ hfrequent⟩

/-- What is loaded has the interactions exactly if none of them could be counted. -/
theorem survives_loaded_iff {saved : SavedProfile}
    (hsub : ∀ e ∈ saved.profile.interactionEvents, e ∈ saved.recorded) :
    Survives saved { saved.profile with interactionEvents := [], domainEvents := [] } ↔
      ∀ e ∈ saved.recorded, e.occurredAt = none := by
  constructor
  · intro h e he
    rcases htime : e.occurredAt with _ | t
    · rfl
    · have htotal := congrArg InteractionFrequency.totalInteractions (h.counted (.infinite false) t)
      have hnil := List.length_eq_zero_iff.mp htotal.symm
      exact absurd (isRecent_of_valid htime t) (List.filter_eq_nil_iff.mp hnil e he)
  · intro h
    have hsaved := frequency_of_invalid (p := saved.profile) fun e he => h e (hsub e he)
    have hrecorded := frequency_of_invalid
      (p := { saved.profile with interactionEvents := saved.recorded }) h
    have hloaded := frequency_of_invalid
      (p := { saved.profile with interactionEvents := [], domainEvents := [] }) fun e he => by cases he
    refine ⟨fun windowDays now => ?_, fun windowDays now => ?_, fun minimum windowDays now => ?_⟩
    · rw [hloaded, hrecorded]
    · rw [hloaded, hsaved]
      exact ⟨le_rfl, le_rfl⟩
    · exact promote_snd_congr rfl rfl ((hloaded windowDays now).trans (hsaved windowDays now).symm)

/-! ## Histories

A ghost keeps what was recorded before each save. What is loaded afterwards has no interactions at all.
-/

/-- What a profile counts was recorded, and what was saved is loaded without its interactions. -/
structure Inv (h : InteractionHistory) : Prop where
  recorded : ∀ e ∈ h.profile.interactionEvents, e ∈ h.recorded
  saved : ∀ saved, h.saved = some saved →
    (∀ e ∈ saved.profile.interactionEvents, e ∈ saved.recorded) ∧
      loaded h.table h.profile = some { saved.profile with interactionEvents := [], domainEvents := [] }

/-- A load is for the sender of the profile. -/
theorem key_of_loaded {t : SenderProfileTable} {p p' : SenderProfile} (h : loaded t p = some p') :
    (p'.tenantId, p'.mailboxId, p'.senderAddress) = (p.tenantId, p.mailboxId, p.senderAddress) ∧
      p'.interactionEvents = [] := by
  unfold loaded loadBySender at h
  obtain ⟨record, -, rfl⟩ := Option.map_eq_some_iff.mp h
  exact ⟨rfl, rfl⟩

/-- Every action keeps the invariant. -/
theorem inv_step {h : InteractionHistory} (hh : Inv h) (action : Action) : Inv (h.step action) := by
  cases action with
  | recordInteraction direction messageId occurredAt =>
    refine ⟨fun e he => ?_, hh.saved⟩
    rcases List.mem_append.mp he with he | he
    · exact List.mem_append.mpr (.inl (hh.recorded e he))
    · exact List.mem_append.mpr (.inr he)
  | save now newId =>
    unfold step
    dsimp only
    rcases hsave : save h.table now newId h.profile with _ | table
    · exact hh
    · refine ⟨hh.recorded, fun saved hsaved => ?_⟩
      obtain rfl := Option.some.inj hsaved
      exact ⟨hh.recorded, loadBySender_save hsave⟩
  | loadBySender =>
    unfold step
    dsimp only
    rcases hloaded : loaded h.table h.profile with _ | p
    · exact hh
    · obtain ⟨hkey, hnone⟩ := key_of_loaded hloaded
      refine ⟨fun e he => ?_, fun saved hsaved => ⟨(hh.saved saved hsaved).1, ?_⟩⟩
      · rw [Option.getD_some, hnone] at he
        cases he
      · rw [← (hh.saved saved hsaved).2]
        unfold loaded
        obtain ⟨htenant, hmailbox, hsender⟩ : _ ∧ _ ∧ _ := by simpa only [Prod.mk.injEq] using hkey
        rw [Option.getD_some, htenant, hmailbox, hsender]

/-- One action. -/
theorem loadsInteractions_iff {h : InteractionHistory} (hh : Inv h) (action : Action) :
    LoadsInteractions h action (h.step action) ↔ NothingToLoad h action (h.step action) := by
  cases action with
  | recordInteraction direction messageId occurredAt => exact Iff.rfl
  | save now newId => exact Iff.rfl
  | loadBySender =>
    refine forall_congr' fun saved => forall_congr' fun hsaved => ?_
    obtain ⟨hsub, hloaded⟩ := hh.saved saved hsaved
    rw [← survives_loaded_iff hsub]
    unfold step
    dsimp only
    rw [hloaded, Option.getD_some]

/-- In every history of a profile without interactions so far, what is loaded after a save has the
interactions that had been recorded by the save exactly if none of these had a valid time. -/
theorem loadsWhatWasRecorded_iff (profile : SenderProfile.Fresh) (table : SenderProfileTable)
    (actions : List Action) :
    Along LoadsInteractions ⟨profile.1, table, [], none⟩ (exec step ⟨profile.1, table, [], none⟩ actions) ↔
      Along NothingToLoad ⟨profile.1, table, [], none⟩ (exec step ⟨profile.1, table, [], none⟩ actions) := by
  have hinit : Inv ⟨profile.1, table, [], none⟩ := by
    refine ⟨fun e he => ?_, fun saved hsaved => by cases hsaved⟩
    rw [profile.2] at he
    cases he
  refine along_iff ?_ ?_ (along_exec _ _ actions) hinit
  · rintro h action h' hh rfl
    exact loadsInteractions_iff hh action
  · rintro h action h' hh rfl -
    exact inv_step hh action

/-- An interaction is recorded, saved, and gone after a load. -/
theorem not_survives_saved : ¬Along LoadsInteractions
    ⟨.new "tenant" "mailbox" "alice@example.com", .empty, [], none⟩
    (exec step ⟨.new "tenant" "mailbox" "alice@example.com", .empty, [], none⟩
      [.recordInteraction .outbound "m1" (some 2), .save 3 "p1", .loadBySender]) := by
  rintro ⟨-, -, hload, -⟩
  have hsurvives := hload _ rfl
  have htotal := (hsurvives.forward (.finite 30) 4).1
  exact absurd htotal (by decide +kernel)

end InteractionHistory

end EmailTriage.ContactGraph
