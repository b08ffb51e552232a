import EmailTriage.ContactGraph.VipDesignation
import EmailTriage.Lib.Table

/-!
# Storing sender profiles, and manual decisions

`src/contact-graph/infrastructure/repositories/sender-profile.repository.ts` over the table
`sender_profiles` of `prisma/schema.prisma`, whose rows are unique on tenant, mailbox and sender. The
column `classification` holds the object that `save` puts there; the interactions are not stored.

A history is what happens to one profile between `save` and `loadBySender`. The flags of a profile do
not tell a manual decision against VIP status from none, so `decisionHolds_iff` says in which histories
the last manual decision nevertheless holds.

`decided` is the last manual decision of a history, and no column holds it. A promotion overrides a
decision against VIP status when the sender qualifies, and a load brings back the flags of the last
save. `decisionHolds_step_iff` says of each action when the decision holds after it, and the rule for
such steps gives the condition on histories.
-/

namespace EmailTriage.ContactGraph

open Js Db Runs

/-- A row of `sender_profiles`. -/
structure SenderProfileRow where
  id : String
  tenant_id : String
  mailbox_id : String
  sender_address : String
  classification : ContactClassification
  is_vip : Bool
  vip_auto_promoted : Bool
  last_interaction : ℤ
  created_at : ℤ
  updated_at : ℤ

instance : Schema SenderProfileRow String (String × String × String) where
  id := SenderProfileRow.id
  key r := (r.tenant_id, r.mailbox_id, r.sender_address)

/-- The table `sender_profiles`. -/
abbrev SenderProfileTable := Table SenderProfileRow

/-- What identifies a profile. -/
def SenderProfile.key (p : SenderProfile) : String × String × String :=
  (p.tenantId, p.mailboxId, p.senderAddress)

namespace SenderProfileRepository

/-- The columns `save` updates. -/
def updateData (now : ℤ) (profile : SenderProfile) : Patch SenderProfileRow where
  apply r := { r with
    classification := profile.classification
    is_vip := profile.isVip
    vip_auto_promoted := profile.vipAutoPromoted
    last_interaction := now
    updated_at := now }
  id_apply _ := rfl
  key_apply _ := rfl

/-- The row `save` creates. -/
def createData (now : ℤ) (id : String) (profile : SenderProfile) : SenderProfileRow where
  id := id
  tenant_id := profile.tenantId
  mailbox_id := profile.mailboxId
  sender_address := profile.senderAddress
  classification := profile.classification
  is_vip := profile.isVip
  vip_auto_promoted := profile.vipAutoPromoted
  last_interaction := now
  created_at := now
  updated_at := now

/-- `save`; `none` is a database error. -/
def save (t : SenderProfileTable) (now : ℤ) (newId : String) (profile : SenderProfile) :
    Option SenderProfileTable :=
  t.upsert profile.key (updateData now profile) (createData now newId profile)

def loadBySender (t : SenderProfileTable) (tenantId mailboxId senderAddress : String) :
    Option SenderProfile :=
  (t.find (tenantId, mailboxId, senderAddress)).map fun record =>
    { SenderProfile.new tenantId mailboxId senderAddress with
      isVip := record.is_vip
      vipAutoPromoted := record.vip_auto_promoted
      classification := record.classification }

/-- A save leaves a row with the designation of the profile. -/
theorem find_save {t t' : SenderProfileTable} {now : ℤ} {newId : String} {profile : SenderProfile}
    (h : save t now newId profile = some t') : ∃ record, t'.find profile.key = some record ∧
      record.classification = profile.classification ∧ record.is_vip = profile.isVip ∧
        record.vip_auto_promoted = profile.vipAutoPromoted := by
  unfold save at h
  rcases hstored : t.find profile.key with _ | record
  · have hcreate : t.create (createData now newId profile) = some t' := by
      unfold Table.upsert at h
      rwa [hstored] at h
    exact ⟨_, (Table.find_create hcreate profile.key).trans (if_pos rfl), rfl, rfl, rfl⟩
  · obtain ⟨t₁, hupsert, hrecord⟩ :=
      Table.upsert_of_find hstored (updateData now profile) (createData now newId profile)
    obtain rfl := Option.some.inj (hupsert.symm.trans h)
    exact ⟨_, hrecord, rfl, rfl, rfl⟩

/-- A saved profile is loaded with its designation, and without its interactions. -/
theorem loadBySender_save {t t' : SenderProfileTable} {now : ℤ} {newId : String} {profile : SenderProfile}
    (h : save t now newId profile = some t') :
    loadBySender t' profile.tenantId profile.mailboxId profile.senderAddress =
      some { profile with interactionEvents := [], domainEvents := [] } := by
  obtain ⟨record, hrecord, hclassification, hvip, hauto⟩ := find_save h
  unfold SenderProfile.key at hrecord
  unfold loadBySender
  rw [hrecord, Option.map_some, hclassification, hvip, hauto]
  rfl

end SenderProfileRepository

open SenderProfileRepository

/-! ## Histories

A ghost keeps the last manual decision. A promotion may go against it, and a load may bring back what was
stored before.
-/

/-- A profile with the stored rows, and the last manual decision about it, if there was one. -/
structure History where
  profile : SenderProfile
  table : SenderProfileTable
  decision : Option Bool

namespace History

/-- What happens to a profile: an operation of the aggregate, a save, or a load. -/
inductive Action where
  | aggregate (op : SenderProfile.Operation)
  | save (now : ℤ) (newId : String)
  | loadBySender

/-- The decision after an operation of the aggregate. -/
def decided (decision : Option Bool) : SenderProfile.Operation → Option Bool
  | .setManualVipDesignation isVip _ => some isVip
  | _ => decision

/-- A save that fails changes nothing, and a load that finds no row leaves the profile. -/
def step (h : History) : Action → History
  | .aggregate op => { h with profile := h.profile.step op, decision := decided h.decision op }
  | .save now newId => { h with table := (save h.table now newId h.profile).getD h.table }
  | .loadBySender =>
    { h with profile := (loadBySender h.table h.profile.tenantId h.profile.mailboxId
        h.profile.senderAddress).getD h.profile }

/-- VIP status is as it was decided. -/
def DecisionHolds (h : History) : Prop := ∀ isVip, h.decision = some isVip → h.profile.isVip = isVip

/-- No sender that was decided to be no VIP qualifies for promotion, and a load finds the decision
saved. -/
def Respects (h : History) : Action → History → Prop
  | .aggregate (.promoteToVipIfQualified minBidirectionalThreshold windowDays now), _ =>
    h.decision = some false → ¬h.profile.Qualifies minBidirectionalThreshold windowDays now
  | .loadBySender, _ =>
    ∀ isVip record, h.decision = some isVip → h.table.find h.profile.key = some record →
      record.is_vip = isVip
  | _, _ => True

/-- A manual decision holds after a promotion exactly if it was not against one. -/
theorem decisionHolds_promote_iff {h : History} (hh : DecisionHolds h)
    (minBidirectionalThreshold : ℚ) (windowDays : Double) (now : ℤ) :
    DecisionHolds (h.step (.aggregate (.promoteToVipIfQualified minBidirectionalThreshold windowDays now))) ↔
      (h.decision = some false → ¬h.profile.Qualifies minBidirectionalThreshold windowDays now) := by
  by_cases hqualifies : h.profile.Qualifies minBidirectionalThreshold windowDays now
  · have hvip : (h.profile.promoteToVipIfQualified minBidirectionalThreshold windowDays now).1.isVip = true :=
      congrArg (·.2.1) (SenderProfile.designation_promote_of_qualifies hqualifies)
    constructor
    · intro hholds hdecision
      cases hvip.symm.trans (hholds false hdecision)
    · intro hnot isVip hdecision
      refine hvip.trans ?_
      cases isVip with
      | true => rfl
      | false => exact absurd hqualifies (hnot hdecision)
  · refine iff_of_true ?_ fun _ => hqualifies
    intro isVip hdecision
    exact (congrArg SenderProfile.isVip (SenderProfile.promote_of_not_qualifies hqualifies)).trans
      (hh isVip hdecision)

/-- A manual decision holds after a load exactly if the row that is found has it. -/
theorem decisionHolds_loadBySender_iff {h : History} (hh : DecisionHolds h) :
    DecisionHolds (h.step .loadBySender) ↔ Respects h .loadBySender (h.step .loadBySender) := by
  unfold DecisionHolds step loadBySender Respects SenderProfile.key
  dsimp only
  rcases h.table.find (h.profile.tenantId, h.profile.mailboxId, h.profile.senderAddress) with _ | record
  · exact iff_of_true hh fun _ _ _ hrecord => by cases hrecord
  · constructor
    · rintro hholds isVip record' hdecision hrecord
      cases hrecord
      exact hholds isVip hdecision
    · intro hsaved isVip hdecision
      exact hsaved isVip record hdecision rfl

/-- One action. -/
theorem decisionHolds_step_iff {h : History} (hh : DecisionHolds h) (action : Action) :
    DecisionHolds (h.step action) ↔ Respects h action (h.step action) := by
  cases action with
  | aggregate op =>
    cases op with
    | updateClassification signals now =>
      refine iff_of_true (fun isVip hdecision => ?_) trivial
      exact (congrArg (·.2.1) (h.profile.designation_updateClassification signals now)).trans
        (hh isVip hdecision)
    | recordInteraction direction messageId occurredAt => exact iff_of_true hh trivial
    | promoteToVipIfQualified minBidirectionalThreshold windowDays now =>
      exact decisionHolds_promote_iff hh minBidirectionalThreshold windowDays now
    | setManualVipDesignation isVip now =>
      refine iff_of_true (fun isVip' hdecision => ?_) trivial
      rw [← Option.some.inj hdecision]
      exact congrArg (·.2.1) (h.profile.designation_setManualVipDesignation isVip now)
    | updateInteractionFrequency windowDays now => exact iff_of_true hh trivial
  | save now newId => exact iff_of_true hh trivial
  | loadBySender => exact decisionHolds_loadBySender_iff hh

/-- In every history of a profile without a manual decision so far, the last decision holds in every state
exactly if no promotion goes against one, and every load finds it saved. -/
theorem decisionHolds_iff (profile : SenderProfile) (table : SenderProfileTable) (actions : List Action) :
    Along (fun _ _ h => DecisionHolds h) ⟨profile, table, none⟩ (exec step ⟨profile, table, none⟩ actions) ↔
      Along Respects ⟨profile, table, none⟩ (exec step ⟨profile, table, none⟩ actions) := by
  refine along_iff (I := DecisionHolds) ?_ ?_ (along_exec _ _ actions) (by rintro isVip ⟨⟩)
  · rintro h action h' hh rfl
    exact decisionHolds_step_iff hh action
  · rintro h action h' hh rfl haction
    exact (decisionHolds_step_iff hh action).mpr haction

/-- A contact that was written to is decided to be no VIP, and promoted. -/
theorem not_decisionHolds_promoted : ¬Along (fun _ _ h => DecisionHolds h)
    ⟨.new "tenant" "mailbox" "alice@example.com", .empty, none⟩
    (exec step ⟨.new "tenant" "mailbox" "alice@example.com", .empty, none⟩
      [.aggregate (.updateClassification ⟨true, true, true, true, true⟩ 1),
        .aggregate (.recordInteraction .outbound "m1" (some 2)),
        .aggregate (.setManualVipDesignation false 3),
        .aggregate (.promoteToVipIfQualified 1 (.finite 30) 4)]) := by
  rintro ⟨-, -, -, hlast, -⟩
  exact absurd (hlast false rfl) (by decide +kernel)

/-- A decision that has just been saved is found by a load. -/
theorem respects_loadBySender_of_saved {h : History} {t : SenderProfileTable} {now : ℤ} {newId : String}
    (hh : DecisionHolds h) (hsave : save h.table now newId h.profile = some t) :
    Respects (h.step (.save now newId)) .loadBySender ((h.step (.save now newId)).step .loadBySender) := by
  rintro isVip record hdecision hrecord
  have htable : (h.step (.save now newId)).table = t := by
    unfold step
    dsimp only
    rw [hsave, Option.getD_some]
  obtain ⟨saved, hsaved, -, hvip, -⟩ := find_save hsave
  rw [htable] at hrecord
  obtain rfl := Option.some.inj (hsaved.symm.trans hrecord)
  exact hvip.trans (hh isVip hdecision)

end History

end EmailTriage.ContactGraph
