import EmailTriage.ContactGraph.VipDesignation
import EmailTriage.Lib.Repeats
import Mathlib.Data.Finset.Card

/-!
# Messages that are delivered more than once

`recordInteraction` appends what it is given, and events are delivered at least once, so one message
can be recorded several times. `countsMessages_iff` says for which deliveries the counts, and the
promotions they lead to, are nevertheless those of the messages.

The profile that has recorded every delivery is compared with the one that has recorded each message
once, when it came first: the counts agree exactly if no later delivery is in the window
(`counts_firsts_iff`). The window has no end, so a message that is dated in the future counts as sent,
and a promotion may rest on it. That is the second half of the condition, and it is about senders that
can be promoted only.
-/

namespace EmailTriage.ContactGraph

open Js Repeats

namespace SenderProfile

/-- Whether an interaction is dated after the current time. -/
def InteractionEvent.isFuture (now : ℤ) (e : InteractionEvent) : Bool := e.occurredAt.any (now < ·)

/-- One call of `recordInteraction`. -/
def record (p : SenderProfile) (e : InteractionEvent) : SenderProfile :=
  p.recordInteraction e.direction e.messageId e.occurredAt

/-- The profile after a sequence of calls. -/
def recordAll (p : Fresh) (deliveries : List InteractionEvent) : SenderProfile := deliveries.foldl record p.1

/-- The messages to the sender in the last `windowDays` days. -/
def messagesSent (windowDays : Double) (now : ℤ) (deliveries : List InteractionEvent) : Finset String :=
  ((deliveries.filter fun e => ¬e.direction = .inbound ∧ InteractionEvent.isRecent windowDays now e ∧
    ¬InteractionEvent.isFuture now e).map InteractionEvent.messageId).toFinset

/-- Promotions and counts are those of the messages. -/
structure CountsMessages (p : Fresh) (deliveries : List InteractionEvent) (windowDays : Double) (now : ℤ) :
    Prop where
  promotes : ∀ minBidirectionalThreshold : ℚ,
    ((recordAll p deliveries).promoteToVipIfQualified minBidirectionalThreshold windowDays now).2 = true →
      minBidirectionalThreshold ≤ (messagesSent windowDays now deliveries).card
  counts : (recordAll p deliveries).computeInteractionFrequency windowDays now =
    (recordAll p (firsts InteractionEvent.messageId [] deliveries)).computeInteractionFrequency windowDays now

/-- Deliveries are appended one after the other. -/
theorem foldl_record (p : SenderProfile) (deliveries : List InteractionEvent) :
    deliveries.foldl record p = { p with interactionEvents := p.interactionEvents ++ deliveries } := by
  induction deliveries generalizing p with
  | nil =>
    rw [List.append_nil]
    rfl
  | cons e deliveries ih =>
    rw [List.foldl_cons, ih, record, recordInteraction, List.append_assoc]
    rfl

/-- What was delivered has been recorded. -/
theorem recordAll_eq (p : Fresh) (deliveries : List InteractionEvent) :
    recordAll p deliveries = { p.1 with interactionEvents := deliveries } := by
  unfold recordAll
  rw [foldl_record, p.2, List.nil_append]

variable {p : Fresh} {deliveries : List InteractionEvent} {windowDays : Double} {now : ℤ}

/-- The interactions that speak for a promotion. -/
theorem bidirectionalCount_recordAll :
    ((recordAll p deliveries).computeInteractionFrequency windowDays now).bidirectionalCount =
      (deliveries.filter fun e =>
        ¬e.direction = .inbound ∧ InteractionEvent.isRecent windowDays now e).length := by
  rw [recordAll_eq]
  unfold computeInteractionFrequency
  dsimp only
  rw [List.countP_filter, List.countP_eq_length_filter]
  congr 2
  funext e
  rw [Bool.decide_and, Bool.decide_eq_true]

/-- The counts are those of the first deliveries exactly if no later one is counted. -/
theorem counts_firsts_iff :
    (recordAll p deliveries).computeInteractionFrequency windowDays now =
        (recordAll p (firsts InteractionEvent.messageId [] deliveries)).computeInteractionFrequency
          windowDays now ↔
      ∀ e, Repeated InteractionEvent.messageId [] deliveries e →
        InteractionEvent.isRecent windowDays now e = false := by
  rw [← filter_firsts_eq_iff, recordAll_eq, recordAll_eq]
  unfold computeInteractionFrequency
  dsimp only
  constructor
  · intro h
    have hlength := congrArg InteractionFrequency.totalInteractions h
    exact ((firsts_sublist InteractionEvent.messageId [] deliveries).filter _).eq_of_length hlength.symm
  · intro h
    rw [h]

/-- A sender qualifies by as many interactions as are counted. -/
theorem qualifies_recordAll_iff {minBidirectionalThreshold : ℚ} :
    Qualifies (recordAll p deliveries) minBidirectionalThreshold windowDays now ↔
      p.1.isVip = false ∧ p.1.classification.classification = .personal ∧ minBidirectionalThreshold ≤
        (deliveries.filter fun e =>
          ¬e.direction = .inbound ∧ InteractionEvent.isRecent windowDays now e).length := by
  rw [← bidirectionalCount_recordAll (p := p)]
  constructor
  · rintro ⟨hvip, hpersonal, hfrequent⟩
    rw [recordAll_eq] at hvip hpersonal
    exact ⟨hvip, hpersonal, hfrequent⟩
  · rintro ⟨hvip, hpersonal, hfrequent⟩
    refine ⟨?_, ?_, hfrequent⟩
    · rw [recordAll_eq]
      exact hvip
    · rw [recordAll_eq]
      exact hpersonal

/-- There are at most as many messages as interactions. -/
theorem card_messagesSent_le : (messagesSent windowDays now deliveries).card ≤
    (deliveries.filter fun e => ¬e.direction = .inbound ∧ InteractionEvent.isRecent windowDays now e ∧
      ¬InteractionEvent.isFuture now e).length := by
  unfold messagesSent
  exact (List.toFinset_card_le _).trans_eq (List.length_map _)

/-- There are as many messages as interactions if no later delivery is counted. -/
theorem card_messagesSent
    (h : ∀ e, Repeated InteractionEvent.messageId [] deliveries e →
      InteractionEvent.isRecent windowDays now e = false) :
    (messagesSent windowDays now deliveries).card =
      (deliveries.filter fun e => ¬e.direction = .inbound ∧ InteractionEvent.isRecent windowDays now e ∧
        ¬InteractionEvent.isFuture now e).length := by
  unfold messagesSent
  rw [List.toFinset_card_of_nodup, List.length_map]
  rw [← (filter_firsts_eq_iff _ [] deliveries).mpr
    fun e (he : Repeated InteractionEvent.messageId [] deliveries e) =>
      decide_eq_false fun hsent => Bool.eq_false_iff.mp (h e he) hsent.2.1]
  exact (List.filter_sublist.map _).nodup (nodup_map_firsts [] deliveries)

/-- No later delivery of a message is counted, and no message to a sender that could be promoted is
dated in the future. -/
structure CountedOnce (p : Fresh) (deliveries : List InteractionEvent) (windowDays : Double) (now : ℤ) :
    Prop where
  repeated : ∀ e, Repeated InteractionEvent.messageId [] deliveries e →
    InteractionEvent.isRecent windowDays now e = false
  future : p.1.isVip = false → p.1.classification.classification = .personal →
    ∀ e ∈ deliveries, ¬e.direction = .inbound → InteractionEvent.isRecent windowDays now e = true →
      InteractionEvent.isFuture now e = false

/-- The messages are as many as the interactions that count only if none of these is dated in the
future. -/
theorem isFuture_eq_false_of_length_le
    (h : (deliveries.filter fun e => ¬e.direction = .inbound ∧
        InteractionEvent.isRecent windowDays now e).length ≤
      (messagesSent windowDays now deliveries).card)
    {e : InteractionEvent} (he : e ∈ deliveries) (houtbound : ¬e.direction = .inbound)
    (hrecent : InteractionEvent.isRecent windowDays now e = true) :
    InteractionEvent.isFuture now e = false := by
  have hle := h.trans card_messagesSent_le
  have hsub : (deliveries.filter fun e => ¬e.direction = .inbound ∧
      InteractionEvent.isRecent windowDays now e ∧ ¬InteractionEvent.isFuture now e).Sublist
      (deliveries.filter fun e => ¬e.direction = .inbound ∧ InteractionEvent.isRecent windowDays now e) := by
    refine List.monotone_filter_right deliveries fun e he => ?_
    obtain ⟨houtbound, hrecent, -⟩ := of_decide_eq_true he
    exact decide_eq_true ⟨houtbound, hrecent⟩
  have hmem : e ∈ deliveries.filter fun e => ¬e.direction = .inbound ∧
      InteractionEvent.isRecent windowDays now e :=
    List.mem_filter.mpr ⟨he, decide_eq_true ⟨houtbound, hrecent⟩⟩
  rw [← hsub.eq_of_length_le hle] at hmem
  exact Bool.eq_false_iff.mpr (of_decide_eq_true (List.mem_filter.mp hmem).2).2.2

/-- Deliveries are counted as the messages they bring exactly if no later delivery of a message is
inside the window, and no message to a sender that could be promoted is dated in the future. -/
theorem countsMessages_iff (p : Fresh) (deliveries : List InteractionEvent) (windowDays : Double) (now : ℤ) :
    CountsMessages p deliveries windowDays now ↔ CountedOnce p deliveries windowDays now := by
  constructor
  · rintro ⟨hpromotes, hcounts⟩
    refine ⟨counts_firsts_iff.mp hcounts, fun hvip hpersonal e he houtbound hrecent => ?_⟩
    -- the sender is promoted by all its interactions
    have hpromoted := hpromotes _ (promote_snd_iff.mpr
      (qualifies_recordAll_iff.mpr ⟨hvip, hpersonal, le_rfl⟩))
    exact isFuture_eq_false_of_length_le (by exact_mod_cast hpromoted) he houtbound hrecent
  · rintro ⟨hrepeated, hfuture⟩
    refine ⟨fun minBidirectionalThreshold hpromoted => ?_, counts_firsts_iff.mpr hrepeated⟩
    obtain ⟨hvip, hpersonal, hfrequent⟩ := qualifies_recordAll_iff.mp (promote_snd_iff.mp hpromoted)
    rw [card_messagesSent hrepeated]
    refine hfrequent.trans_eq (congrArg (fun l => (List.length l : ℚ)) ?_)
    refine List.filter_congr fun e he => decide_eq_decide.mpr ⟨?_, fun h => ⟨h.1, h.2.1⟩⟩
    rintro ⟨houtbound, hrecent⟩
    exact ⟨houtbound, hrecent, Bool.eq_false_iff.mp (hfuture hvip hpersonal e he houtbound hrecent)⟩

/-- A personal contact without interactions. -/
def personalContact : Fresh :=
  ⟨(new "tenant" "mailbox" "alice@example.com").updateClassification ⟨true, true, true, true, true⟩ 1,
    by decide +kernel⟩

/-- A contact is written to once, the message is delivered twice, and the contact is promoted for two. -/
theorem not_countsMessages_redelivered : ¬CountsMessages personalContact
    [⟨.outbound, "m1", some 2⟩, ⟨.outbound, "m1", some 2⟩] (.finite 30) 3 := by
  rintro ⟨hpromotes, -⟩
  exact absurd (hpromotes 2 (by decide +kernel)) (by decide +kernel)

end SenderProfile

end EmailTriage.ContactGraph
