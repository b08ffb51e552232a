import EmailTriage.Api.VipList
import EmailTriage.ContactGraph.SenderProfileRepository
import EmailTriage.Lib.LostUpdates

/-!
# VIP designations from both sides

`updateVipList` of `src/api/v1/controllers/tenant-config.controller.ts` marks the rows of
`sender_profiles` in place. The contact graph works on copies: it loads a profile, goes on with the
aggregate, and `SenderProfileRepository.save` writes the flags of the copy back, whether or not they
were what it changed.

Any number of copies are worked on while the list is updated, one statement after the other. Beside the
table run the designations as they would be if every decision was applied to the stored row.
`vip_exact_iff` says that no decision is lost exactly if a copy on which nothing was decided finds the
row as it was loaded, and `vipAddresses_shownProfiles` that the API shows the stored designations.
-/

namespace EmailTriage.Api

open Js Db Runs
open ContactGraph (SenderProfile SenderProfileTable)
open ContactGraph.SenderProfileRepository (save loadBySender find_save)

/-! ## The table, as the API sees it

The API and the contact graph use one table. A profile is shown as its row, and marked by the loop of the
update.
-/

/-- The columns of a profile that the API uses. -/
def shownProfile (r : ContactGraph.SenderProfileRow) : SenderProfileRow :=
  ⟨r.id, r.tenant_id, r.mailbox_id, r.sender_address, r.is_vip, r.vip_auto_promoted⟩

def shownProfiles (t : SenderProfileTable) : Table SenderProfileRow where
  rows := t.rows.map shownProfile
  id_nodup := by
    rw [List.map_map]
    exact t.id_nodup
  key_nodup := by
    rw [List.map_map]
    exact t.key_nodup

/-- The columns that `updateVipList` updates, with the one that the client of the database adds. -/
def vipUpdate (now : ℤ) : Patch ContactGraph.SenderProfileRow where
  apply r := { r with is_vip := true, vip_auto_promoted := false, updated_at := now }
  id_apply _ := rfl
  key_apply _ := rfl

/-- One statement of `updateVipList`. -/
def promoteProfiles (t : SenderProfileTable) (now : ℤ) (tenant : String) (filter : String → Bool) :
    SenderProfileTable :=
  t.updateMany (fun sp => sp.tenant_id = tenant && filter sp.sender_address) (vipUpdate now)

/-- `SenderProfileRepository.deleteByTenant`. -/
def deleteByTenant (t : SenderProfileTable) (tenantId : String) : SenderProfileTable :=
  t.deleteMany fun sp => sp.tenant_id = tenantId

/-- Whether there is a VIP at a key. -/
def vipAt (t : SenderProfileTable) (k : String × String × String) : Bool := (t.find k).any (·.is_vip)

/-- A turn of the loop of `updateVipList` is that statement. -/
theorem promote_shownProfiles {env : Surroundings} {d : Database} {t : SenderProfileTable}
    (hd : d.senderProfiles = shownProfiles t) {tenantId tenant : String} {entry : Value}
    {filter : String → Bool} (htenant : env.uuid tenantId = some tenant)
    (hentry : present entry = .ok entry)
    (hfilter : TenantConfigController.addressFilter env (entry.get "sender_address") = some filter)
      (now : ℤ) :
    TenantConfigController.promote env tenantId entry d = .ok ()
      { d with senderProfiles := shownProfiles (promoteProfiles t now tenant filter) } := by
  have hrows : (d.senderProfiles.updateMany (fun sp => sp.tenant_id = tenant && filter sp.sender_address)
      TenantConfigController.vipData) = shownProfiles (promoteProfiles t now tenant filter) := by
    rw [hd]
    refine Table.ext_rows ?_
    show (t.rows.map shownProfile).map _ = (t.rows.map _).map shownProfile
    rw [List.map_map, List.map_map]
    refine List.map_congr_left fun sp _ => ?_
    show (if _ then _ else _) = shownProfile (if _ then _ else _)
    rw [apply_ite shownProfile]
    rfl
  unfold TenantConfigController.promote
  rw [hentry, bind_of_ok (ofExcept_ok _ d), bind_of_ok (uuid_eq_ok.mpr ⟨htenant, rfl⟩), hfilter]
  dsimp only
  rw [← hrows]
  rfl

/-- The VIP list of the API has the addresses with a VIP in one of the mailboxes of the tenant. -/
theorem vipAddresses_shownProfiles {env : Surroundings} {d : Database} {t : SenderProfileTable}
    (hd : d.senderProfiles = shownProfiles t) {tenantId tenant : String}
    (h : TenantConfigController.HasConfiguration env d tenantId tenant) :
    ∃ configuration, TenantConfigController.getTenantConfiguration env tenantId d = .ok configuration d ∧
      ∀ address, .str address ∈ TenantConfigController.vipAddresses configuration ↔
        ∃ mailboxId, vipAt t (tenant, mailboxId, address) = true := by
  obtain ⟨configuration, hread, haddresses⟩ := TenantConfigController.getTenantConfiguration_eq h
  refine ⟨configuration, hread, fun address => (haddresses address).trans ?_⟩
  rw [hd]
  unfold vipAt
  constructor
  · rintro ⟨sp, hsp, rfl, hvip, rfl⟩
    obtain ⟨r, hr, rfl⟩ := List.mem_map.mp hsp
    have hfind := Table.find_key hr
    refine ⟨r.mailbox_id, ?_⟩
    show (t.find (Schema.key r)).any _ = true
    rw [hfind]
    exact hvip
  · rintro ⟨mailboxId, hvip⟩
    rcases hfind : t.find (tenant, mailboxId, address) with _ | r <;> rw [hfind] at hvip
    · cases hvip
    · obtain ⟨hr, hkey⟩ := Table.find_eq_some_iff.mp hfind
      exact ⟨shownProfile r, List.mem_map_of_mem hr, congrArg Prod.fst hkey, hvip,
        congrArg (fun k => k.2.2) hkey⟩

/-! ## Copies

A service works on a copy of a profile. The flag of a copy is what was decided on it, or else what was
loaded.
-/

/-- A profile in memory, whether it was VIP when it was loaded, and what was decided about it since. -/
structure ProfileCopy where
  profile : SenderProfile
  loaded : Bool
  decided : Option Bool

/-- What an operation of the aggregate decides: a manual designation does, and a promotion that takes
place. -/
def decision (p : SenderProfile) : SenderProfile.Operation → Option Bool
  | .setManualVipDesignation isVip _ => some isVip
  | .promoteToVipIfQualified minBidirectionalThreshold windowDays now =>
    if (p.promoteToVipIfQualified minBidirectionalThreshold windowDays now).2 then some true else none
  | _ => none

/-- An operation leaves VIP status as it decides, or else as it was. -/
theorem isVip_step (p : SenderProfile) (op : SenderProfile.Operation) :
    (p.step op).isVip = (decision p op).getD p.isVip := by
  cases op with
  | updateClassification signals now =>
    exact congrArg (fun designation => designation.2.1) (p.designation_updateClassification signals now)
  | recordInteraction direction messageId occurredAt => rfl
  | promoteToVipIfQualified minBidirectionalThreshold windowDays now =>
    show _ = (if _ then some true else none).getD p.isVip
    by_cases hq : p.Qualifies minBidirectionalThreshold windowDays now
    · rw [if_pos (SenderProfile.promote_snd_iff.mpr hq)]
      exact congrArg (fun designation => designation.2.1) (SenderProfile.designation_promote_of_qualifies hq)
    · rw [if_neg (SenderProfile.promote_snd_iff.not.mpr hq)]
      exact congrArg SenderProfile.isVip (SenderProfile.promote_of_not_qualifies hq)
  | setManualVipDesignation isVip now =>
    exact congrArg (fun designation => designation.2.1) (p.designation_setManualVipDesignation isVip now)
  | updateInteractionFrequency windowDays now => rfl

namespace ProfileCopy

/-- A copy of a profile as it is now. -/
def of (profile : SenderProfile) : ProfileCopy := ⟨profile, profile.isVip, none⟩

def apply (c : ProfileCopy) (op : SenderProfile.Operation) : ProfileCopy :=
  ⟨c.profile.step op, c.loaded, (decision c.profile op).or c.decided⟩

/-- A copy is VIP as it was decided, or else as it was loaded. -/
def Decides (c : ProfileCopy) : Prop := c.profile.isVip = c.decided.getD c.loaded

/-- A new copy is VIP as it was loaded. -/
theorem decides_of (profile : SenderProfile) : (of profile).Decides := rfl

/-- An operation changes the flag and the decision alike. -/
theorem Decides.apply {c : ProfileCopy} (h : c.Decides) (op : SenderProfile.Operation) :
    (c.apply op).Decides := by
  unfold Decides ProfileCopy.apply at *
  dsimp only
  rw [isVip_step, h]
  rcases decision c.profile op with _ | isVip
  · rfl
  · rfl

end ProfileCopy

/-! ## Turns

Services, the API and deletions take turns on the table. Beside it a ghost keeps the flag that each sender
was designated to have.
-/

/-- A statement of `updateVipList`, a deletion, or what is done with a copy. A new profile is made for a
sender without a row. -/
inductive VipTurn where
  | promote (now : ℤ) (tenant : String) (filter : String → Bool)
  | deleteByTenant (tenantId : String)
  | load (tenantId mailboxId senderAddress : String)
  | aggregate (op : SenderProfile.Operation)
  | save (now : ℤ) (newId : String)
  | forget

/-- The table and the copies, and the designations if no decision was lost. -/
structure VipWorld (ι : Type) where
  table : SenderProfileTable
  copies : ι → Option ProfileCopy
  exact : String × String × String → Bool

section

variable {ι : Type} [DecidableEq ι]

namespace VipWorld

def start (t : SenderProfileTable) : VipWorld ι := ⟨t, fun _ => none, vipAt t⟩

/-- The stored designations. -/
def vip (w : VipWorld ι) : String × String × String → Bool := vipAt w.table

def setCopy (w : VipWorld ι) (i : ι) (c : Option ProfileCopy) : VipWorld ι :=
  { w with copies := Function.update w.copies i c }

/-- The senders that a statement of `updateVipList` marks. -/
def marks (w : VipWorld ι) (tenant : String) (filter : String → Bool)
    (k : String × String × String) : Bool :=
  (w.table.find k).isSome && (k.1 = tenant && filter k.2.2)

/-- The world after a copy is saved, which leaves the flags of the copy. -/
def saved (w : VipWorld ι) (i : ι) (c : ProfileCopy) (t : SenderProfileTable) : VipWorld ι :=
  { w.setCopy i (some (.of c.profile)) with
    table := t
    exact := Function.update w.exact c.profile.key (c.decided.getD (w.exact c.profile.key)) }

def step (w : VipWorld ι) (turn : ι × VipTurn) : VipWorld ι :=
  match turn with
  | (_, .promote now tenant filter) =>
    { w with
      table := promoteProfiles w.table now tenant filter
      exact := fun k => w.exact k || w.marks tenant filter k }
  | (_, .deleteByTenant tenantId) =>
    { w with
      table := deleteByTenant w.table tenantId
      exact := fun k => w.exact k && k.1 ≠ tenantId }
  | (i, .load tenantId mailboxId senderAddress) =>
    w.setCopy i (some (.of ((loadBySender w.table tenantId mailboxId senderAddress).getD
      (SenderProfile.new tenantId mailboxId senderAddress))))
  | (i, .aggregate op) => w.setCopy i ((w.copies i).map (·.apply op))
  | (i, .save now newId) =>
    match w.copies i with
    | none => w
    | some c =>
      match save w.table now newId c.profile with
      | some t => w.saved i c t
      | none => w
  | (i, .forget) => w.setCopy i none

end VipWorld

/-- A copy on which nothing was decided is saved only where it finds the row as it was loaded. -/
def FindsDesignation (w : VipWorld ι) (turn : ι × VipTurn) (_ : VipWorld ι) : Prop :=
  match turn with
  | (i, .save now newId) => ∀ c, w.copies i = some c → (save w.table now newId c.profile).isSome = true →
    c.decided = none → w.vip c.profile.key = c.loaded
  | _ => True

/-! ## Lost decisions

A save writes the flag of its copy. It loses the decisions that were made since the copy was loaded,
and no others.
-/

/-- Every copy is VIP as it was decided or loaded. -/
def CopiesDecide (w : VipWorld ι) : Prop := ∀ i c, w.copies i = some c → c.Decides

/-- A service may hold such a copy. -/
theorem CopiesDecide.setCopy {w : VipWorld ι} (hw : CopiesDecide w) {i : ι} {c : Option ProfileCopy}
    (hc : ∀ c', c = some c' → c'.Decides) : CopiesDecide (w.setCopy i c) := by
  intro j c' hj
  have hupdate : Function.update w.copies i c j = some c' := hj
  by_cases hji : j = i
  · rw [hji, Function.update_self] at hupdate
    exact hc c' hupdate
  · rw [Function.update_of_ne hji] at hupdate
    exact hw j c' hupdate

/-- Whatever a service or the API does next, every copy is VIP as it was decided or loaded. -/
theorem CopiesDecide.step {w : VipWorld ι} (hw : CopiesDecide w) (turn : ι × VipTurn) :
    CopiesDecide (w.step turn) := by
  obtain ⟨i, turn⟩ := turn
  unfold VipWorld.step
  cases turn with
  | promote now tenant filter => exact hw
  | deleteByTenant tenantId => exact hw
  | load tenantId mailboxId senderAddress =>
    refine hw.setCopy ?_
    rintro _ ⟨⟩
    exact ProfileCopy.decides_of _
  | aggregate op =>
    refine hw.setCopy fun c hc => ?_
    obtain ⟨c₀, hc₀, rfl⟩ := Option.map_eq_some_iff.mp hc
    exact (hw i c₀ hc₀).apply op
  | save now newId =>
    dsimp only
    rcases w.copies i with _ | c
    · exact hw
    · dsimp only
      rcases save w.table now newId c.profile with _ | t
      · exact hw
      · refine hw.setCopy ?_
        rintro _ ⟨⟩
        exact ProfileCopy.decides_of _
  | forget => exact hw.setCopy fun c hc => by cases hc

/-- The loop of `updateVipList` sets the flags of the stored profiles it names. -/
theorem vipAt_promoteProfiles (t : SenderProfileTable) (now : ℤ) (tenant : String) (filter : String → Bool)
    (k : String × String × String) : vipAt (promoteProfiles t now tenant filter) k =
      (vipAt t k || ((t.find k).isSome && (k.1 = tenant && filter k.2.2))) := by
  unfold vipAt promoteProfiles
  rw [Table.find_updateMany]
  rcases hfind : t.find k with _ | r
  · rfl
  · obtain ⟨-, rfl⟩ := Table.find_eq_some_iff.mp hfind
    rw [Option.map_some, Option.any_some, Option.any_some, Option.isSome_some, Bool.true_and]
    show _ = (r.is_vip || (decide (r.tenant_id = tenant) && filter r.sender_address))
    by_cases hmatch : (decide (r.tenant_id = tenant) && filter r.sender_address) = true
    · rw [if_pos hmatch, hmatch, Bool.or_true]
      rfl
    · rw [if_neg hmatch, Bool.eq_false_iff.mpr hmatch, Bool.or_false]

/-- A deletion takes the profiles of the tenant away. -/
theorem vipAt_deleteByTenant (t : SenderProfileTable) (tenantId : String) (k : String × String × String) :
    vipAt (deleteByTenant t tenantId) k = (vipAt t k && k.1 ≠ tenantId) := by
  unfold vipAt deleteByTenant
  rw [Table.find_deleteMany]
  rcases hfind : t.find k with _ | r
  · rfl
  · obtain ⟨-, rfl⟩ := Table.find_eq_some_iff.mp hfind
    show _ = (r.is_vip && decide (r.tenant_id ≠ tenantId))
    by_cases howner : r.tenant_id = tenantId
    · simp [howner]
    · simp [howner]

/-- A save writes the flag of its profile and no other one. -/
theorem vipAt_save {t t' : SenderProfileTable} {now : ℤ} {newId : String} {profile : SenderProfile}
    (h : save t now newId profile = some t') :
    vipAt t' = Function.update (vipAt t) profile.key profile.isVip := by
  obtain ⟨record, hrecord, -, hvip, -⟩ := find_save h
  funext k
  unfold vipAt
  by_cases hk : k = profile.key
  · rw [hk, Function.update_self, hrecord, Option.any_some, hvip]
  · rw [Function.update_of_ne hk, Table.find_upsert_of_ne (k := profile.key)
      (r := ContactGraph.SenderProfileRepository.createData now newId profile) rfl h hk]

/-- A save leaves the designation of the copy, and its decision is what was to be done. -/
theorem changes_saved {w : VipWorld ι} {i : ι} {c : ProfileCopy} (hc : c.Decides) {t : SenderProfileTable}
    {now : ℤ} {newId : String} (h : save w.table now newId c.profile = some t) :
    Changes VipWorld.vip VipWorld.exact (c.decided = none → w.vip c.profile.key = c.loaded) w
      (w.saved i c t) := by
  refine ⟨fun v => Function.update v c.profile.key (c.decided.getD (v c.profile.key)), rfl, ?_⟩
  have hvip : (w.saved i c t).vip = Function.update w.vip c.profile.key c.profile.isVip := vipAt_save h
  rw [hvip, hc]
  show _ ↔ _ = Function.update w.vip c.profile.key (c.decided.getD (w.vip c.profile.key))
  constructor
  · intro hloaded
    rcases hdecided : c.decided with _ | isVip
    · rw [Option.getD_none, Option.getD_none, hloaded hdecided]
    · rfl
  · intro hsame hdecided
    have hat := congrFun hsame c.profile.key
    rw [Function.update_self, Function.update_self, hdecided] at hat
    exact hat.symm

/-- One turn changes the stored flags as it changes the designations, if it finds them as decided. -/
theorem CopiesDecide.changes {w : VipWorld ι} (hw : CopiesDecide w) (turn : ι × VipTurn) :
    Changes VipWorld.vip VipWorld.exact (FindsDesignation w turn (w.step turn)) w (w.step turn) := by
  obtain ⟨i, turn⟩ := turn
  cases turn with
  | promote now tenant filter =>
    -- a statement decides for all the profiles it matches, in the table and in the account of
    -- decisions alike
    refine ⟨fun v k => v k || w.marks tenant filter k, rfl, iff_of_true trivial (funext fun k => ?_)⟩
    exact vipAt_promoteProfiles w.table now tenant filter k
  | deleteByTenant tenantId =>
    refine ⟨fun v k => v k && k.1 ≠ tenantId, rfl, iff_of_true trivial (funext fun k => ?_)⟩
    exact vipAt_deleteByTenant w.table tenantId k
  | load tenantId mailboxId senderAddress => exact changes_of_eq rfl rfl
  | aggregate op => exact changes_of_eq rfl rfl
  | save now newId =>
    -- a save that is refused says nothing, and one that is accepted writes the flag of the copy
    have hfinds : FindsDesignation w (i, .save now newId) (w.step (i, .save now newId)) ↔
        ∀ c, w.copies i = some c → (save w.table now newId c.profile).isSome = true →
          c.decided = none → w.vip c.profile.key = c.loaded := Iff.rfl
    rw [hfinds]
    unfold VipWorld.step
    dsimp only
    rcases hi : w.copies i with _ | c <;> dsimp only
    · exact (changes_of_eq rfl rfl).congr (iff_of_true (fun c hc => by cases hc) trivial)
    · rcases hsave : save w.table now newId c.profile with _ | t <;> dsimp only
      · refine (changes_of_eq rfl rfl).congr (iff_of_true ?_ trivial)
        rintro _ ⟨⟩ hsome
        rw [hsave] at hsome
        cases hsome
      · refine (changes_saved (hw i c hi) hsave).congr ⟨fun h => ?_, fun h c' hc' _ => ?_⟩
        · exact h c rfl (by rw [hsave]; rfl)
        · obtain rfl := Option.some.inj hc'
          exact h
  | forget => exact changes_of_eq rfl rfl

/-- No decision about a VIP is lost in a run, of any length and on any number of copies, exactly if
every copy on which nothing was decided finds the row as it was loaded when it is saved. -/
theorem vip_exact_iff (t : SenderProfileTable) (turns : List (ι × VipTurn)) :
    Along (fun _ _ w => w.vip = w.exact) (.start t) (exec VipWorld.step (.start t) turns) ↔
      Along FindsDesignation (.start t) (exec VipWorld.step (.start t : VipWorld ι) turns) := by
  refine along_exact_iff (I := CopiesDecide) ?_ (along_exec _ _ turns) ?_ rfl
  · rintro w turn w' hw - rfl
    exact ⟨hw.step turn, hw.changes turn⟩
  · rintro i c ⟨⟩

omit [DecidableEq ι] in
/-- Where no decision is lost, the API shows what was decided. -/
theorem vipAddresses_of_exact {w : VipWorld ι} (hexact : w.vip = w.exact) {env : Surroundings} {d : Database}
    (hd : d.senderProfiles = shownProfiles w.table) {tenantId tenant : String}
    (h : TenantConfigController.HasConfiguration env d tenantId tenant) :
    ∃ configuration, TenantConfigController.getTenantConfiguration env tenantId d = .ok configuration d ∧
      ∀ address, .str address ∈ TenantConfigController.vipAddresses configuration ↔
        ∃ mailboxId, w.exact (tenant, mailboxId, address) = true := by
  rw [← hexact]
  exact vipAddresses_shownProfiles hd h

end

/-- A sender is put on the list while its profile is classified again, and is no VIP when that is
saved. -/
example :
    let t : SenderProfileTable :=
      ⟨[⟨"row", "tenant", "mailbox", "boss@example.com", .unknown, false, false, 0, 0, 0⟩], by simp, by simp⟩
    let turns : List (Unit × VipTurn) :=
      [((), .load "tenant" "mailbox" "boss@example.com"), ((), .promote 1 "tenant" (· = "boss@example.com")),
        ((), .aggregate (.updateClassification ⟨true, true, true, true, true⟩ 2)), ((), .save 3 "")]
    let w := turns.foldl VipWorld.step (.start t)
    w.vip ("tenant", "mailbox", "boss@example.com") = false ∧
      w.exact ("tenant", "mailbox", "boss@example.com") = true := by
  decide +kernel

end EmailTriage.Api
