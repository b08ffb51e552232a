import EmailTriage.Api.MessageReads
import EmailTriage.Api.Noninterference

/-!
# The VIP list of a tenant

`updateVipList` and `getTenantConfiguration` of `src/api/v1/controllers/tenant-config.controller.ts`.
The update marks the profiles that there are for the addresses of the request. It neither clears the
mark of another profile nor makes a profile for a new address, so the list that is read afterwards is
the one that was written only where nothing of that was to be done (`roundTrip_iff`).

The entries of a request are applied one after the other, and each marks the profiles of one address,
so the marked addresses afterwards are those before and those of the request that have a profile
(`mem_promoteAll_iff`). What is read back are the addresses of all marked profiles of the tenant, and
the two lists are compared as sets.
-/

namespace EmailTriage.Api

open Js Db

namespace TenantConfigController

open MessagesController (elements)

/-- `VipListEntryDto`. -/
structure VipListEntryDto where
  sender_address : String
  display_name : Option String

def VipListEntryDto.toValue (entry : VipListEntryDto) : Value :=
  .obj [("sender_address", .str entry.sender_address),
    ("display_name", Value.ofOption .str entry.display_name)]

/-- `UpdateVipListDto`. -/
def updateVipListDto (entries : List VipListEntryDto) : Value :=
  .obj [("entries", .arr (entries.map VipListEntryDto.toValue))]

/-- The tenant is stored, and its subscription has its plan. -/
structure HasConfiguration (env : Surroundings) (d : Database) (tenantId tenant : String) : Prop where
  uuid : env.uuid tenantId = some tenant
  stored : (d.tenants.find tenant).isSome = true
  plan : ∀ subscription, d.subscriptions.find tenant = some subscription →
    (TenantSubscription.findPlan d.plans subscription.currentPlanId).isSome = true

/-- The addresses in the VIP list of a configuration. -/
def vipAddresses (configuration : Value) : List Value :=
  (elements (configuration.get "vip_list")).map (·.get "sender_address")

/-- After an update that succeeds, the VIP list has the addresses of the update, and no others. -/
def RoundTrip (env : Surroundings) (d : Database) (tenantId : String) (entries : List VipListEntryDto) :
    Prop :=
  ∀ response d', updateVipList env tenantId (updateVipListDto entries) d = .ok response d' →
    ∃ configuration, getTenantConfiguration env tenantId d' = .ok configuration d' ∧
      ∀ address, .str address ∈ vipAddresses configuration ↔
        address ∈ entries.map VipListEntryDto.sender_address

/-! ## The update

Marking the profiles of one address after the other is marking those of all addresses. No mark is cleared.
-/

/-- The profiles of a tenant with some addresses are marked. -/
def promoteAll (tenant : String) (addresses : List String) (t : Table SenderProfileRow) :
    Table SenderProfileRow :=
  t.updateMany (fun sp => sp.tenant_id = tenant && addresses.contains sp.sender_address) vipData

/-- Marking one address after another is marking them all. -/
theorem promoteAll_cons (tenant address : String) (addresses : List String) (t : Table SenderProfileRow) :
    promoteAll tenant addresses
        (t.updateMany (fun sp => sp.tenant_id = tenant && sp.sender_address = address) vipData)
      = promoteAll tenant (address :: addresses) t := by
  have hrows : ∀ (t : Table SenderProfileRow) (p : SenderProfileRow → Bool),
      (t.updateMany p vipData).rows = t.rows.map fun sp => if p sp then vipData.apply sp else sp :=
    fun _ _ => rfl
  refine Table.ext_rows ?_
  unfold promoteAll
  rw [hrows, hrows, hrows, List.map_map]
  refine List.map_congr_left fun sp _ => ?_
  rw [Function.comp_apply, List.contains_cons]
  by_cases howner : sp.tenant_id = tenant
  · by_cases haddress : sp.sender_address = address
    · -- marking a profile again changes nothing
      have hmarked : ∀ b : Bool, (if b = true then vipData.apply (vipData.apply sp) else vipData.apply sp)
          = vipData.apply sp := by
        intro b
        rcases b with _ | _
        · rfl
        · rfl
      simp only [howner, haddress, decide_true, Bool.and_self, if_true, BEq.rfl, Bool.true_or]
      exact hmarked _
    · simp [howner, haddress]
  · simp [howner]

section

variable {env : Surroundings} {d : Database} {tenantId tenant : String}

/-- One turn of the loop marks the profiles with its address. -/
theorem promote_toValue (htenant : env.uuid tenantId = some tenant) (entry : VipListEntryDto) :
    promote env tenantId entry.toValue d = .ok ()
      { d with
        senderProfiles := d.senderProfiles.updateMany
          (fun sp => sp.tenant_id = tenant && sp.sender_address = entry.sender_address) vipData } := by
  have hpresent : present entry.toValue = .ok entry.toValue := rfl
  have haddress : entry.toValue.get "sender_address" = .str entry.sender_address := rfl
  unfold promote
  rw [hpresent, bind_of_ok (ofExcept_ok _ d), bind_of_ok (uuid_eq_ok.mpr ⟨htenant, rfl⟩), haddress]
  rfl

/-- The loop marks the profiles with the addresses of its entries. -/
theorem forM_promote (htenant : env.uuid tenantId = some tenant) (entries : List VipListEntryDto) :
    (entries.map VipListEntryDto.toValue).forM (promote env tenantId) d = .ok ()
      { d with
        senderProfiles := promoteAll tenant (entries.map VipListEntryDto.sender_address)
          d.senderProfiles } := by
  induction entries generalizing d with
  | nil =>
    have hnone : promoteAll tenant [] d.senderProfiles = d.senderProfiles := by
      refine Table.ext_rows ?_
      unfold promoteAll Table.updateMany
      simp
    rw [List.map_nil, List.map_nil, hnone]
    rfl
  | cons entry entries ih =>
    have hcons : ((entry :: entries).map VipListEntryDto.toValue).forM (promote env tenantId)
        = promote env tenantId entry.toValue >>= fun _ =>
            (entries.map VipListEntryDto.toValue).forM (promote env tenantId) := rfl
    rw [hcons, bind_of_ok (promote_toValue htenant entry), ih, List.map_cons, ← promoteAll_cons]

/-- The update returns, and marks the profiles with the addresses of the request. -/
theorem updateVipList_eq (htenant : env.uuid tenantId = some tenant) (entries : List VipListEntryDto) :
    updateVipList env tenantId (updateVipListDto entries) d = .ok success
      { d with
        senderProfiles := promoteAll tenant (entries.map VipListEntryDto.sender_address)
          d.senderProfiles } := by
  have hentries : TenantConfigController.entries (updateVipListDto entries)
      = .ok (entries.map VipListEntryDto.toValue) := rfl
  unfold updateVipList
  rw [hentries, bind_of_ok (ofExcept_ok _ d), bind_of_ok (forM_promote htenant entries)]
  rfl

/-! ## The list afterwards

The list shows the marked profiles, so it is what was written if every address has a profile and nothing
else was marked.
-/

/-- The subscription of a stored tenant is read with its plan, if there is one. -/
theorem exists_findSubscription (h : HasConfiguration env d tenantId tenant) :
    ∃ subscription, findSubscription env tenantId d = .ok subscription d := by
  have hfound : findUnique (·.subscriptions) tenant d = .ok (d.subscriptions.find tenant) d := rfl
  unfold findSubscription
  rw [bind_of_ok (uuid_eq_ok.mpr ⟨h.uuid, rfl⟩), bind_of_ok hfound]
  rcases hsubscription : d.subscriptions.find tenant with _ | subscription
  · exact ⟨none, rfl⟩
  · obtain ⟨plan, hplan⟩ := Option.isSome_iff_exists.mp (h.plan subscription hsubscription)
    have hread : (reads fun d => TenantSubscription.findPlan d.plans subscription.currentPlanId : Call _) d
        = .ok (some plan) d := by
      rw [← hplan]
      rfl
    dsimp only
    rw [bind_of_ok hread]
    exact ⟨_, rfl⟩

/-- The configuration of a stored tenant is read, and its VIP list has the addresses of the marked
profiles. -/
theorem getTenantConfiguration_eq (h : HasConfiguration env d tenantId tenant) :
    ∃ configuration, getTenantConfiguration env tenantId d = .ok configuration d ∧
      ∀ address, .str address ∈ vipAddresses configuration ↔
        ∃ sp ∈ d.senderProfiles.rows, sp.tenant_id = tenant ∧ sp.is_vip = true ∧
          sp.sender_address = address := by
  obtain ⟨row, hrow⟩ := Option.isSome_iff_exists.mp h.stored
  obtain ⟨subscription, hsubscription⟩ := exists_findSubscription h
  have hfound : findUnique (·.tenants) tenant d = .ok (some row) d := by
    rw [← hrow]
    rfl
  have hprofiles : findMany env (·.senderProfiles) (fun sp => sp.tenant_id = tenant && sp.is_vip) d
      = .ok (matching env d.senderProfiles fun sp => sp.tenant_id = tenant && sp.is_vip) d := rfl
  unfold getTenantConfiguration
  rw [bind_of_ok (uuid_eq_ok.mpr ⟨h.uuid, rfl⟩), bind_of_ok hfound, bind_of_ok hsubscription,
    bind_of_ok hprofiles]
  refine ⟨_, rfl, fun address => ?_⟩
  unfold vipAddresses
  simp only [Value.get_obj_cons, String.reduceEq, if_false, if_true]
  unfold elements
  dsimp only
  rw [List.map_map]
  -- the entries are those of the tenant's profiles that are marked
  constructor
  · intro hmem
    obtain ⟨sp, hsp, haddress⟩ := List.mem_map.mp hmem
    obtain ⟨hstored, hmatch⟩ := mem_matching_iff.mp hsp
    rw [Bool.and_eq_true, decide_eq_true_eq] at hmatch
    have hsame : Value.str sp.sender_address = .str address := haddress
    exact ⟨sp, hstored, hmatch.1, hmatch.2, Value.str.inj hsame⟩
  · rintro ⟨sp, hstored, howner, hvip, rfl⟩
    refine List.mem_map.mpr ⟨sp, mem_matching_iff.mpr ⟨hstored, ?_⟩, rfl⟩
    rw [howner, hvip]
    simp

/-- The marked profiles after an update. -/
theorem mem_promoteAll_iff {addresses : List String} {t : Table SenderProfileRow} {address : String} :
    (∃ sp ∈ (promoteAll tenant addresses t).rows,
      sp.tenant_id = tenant ∧ sp.is_vip = true ∧ sp.sender_address = address) ↔
      ∃ sp ∈ t.rows, sp.tenant_id = tenant ∧ (sp.is_vip = true ∨ address ∈ addresses) ∧
        sp.sender_address = address := by
  unfold promoteAll Table.updateMany
  simp only [List.mem_map, exists_exists_and_eq_and]
  refine exists_congr fun sp => and_congr_right fun _ => ?_
  by_cases hmatch : (sp.tenant_id = tenant && addresses.contains sp.sender_address) = true
  · rw [if_pos hmatch]
    rw [Bool.and_eq_true, decide_eq_true_eq, List.contains_iff_mem] at hmatch
    constructor
    · rintro ⟨howner, -, rfl⟩
      exact ⟨howner, .inr hmatch.2, rfl⟩
    · rintro ⟨howner, -, rfl⟩
      exact ⟨howner, rfl, rfl⟩
  · rw [if_neg hmatch]
    rw [Bool.and_eq_true, decide_eq_true_eq, List.contains_iff_mem] at hmatch
    refine and_congr_right fun howner => and_congr_left ?_
    rintro rfl
    exact (or_iff_left fun hmem => hmatch ⟨howner, hmem⟩).symm

end

/-- The VIP list is read as it was written exactly when every address of the request has a profile of the
tenant, and every profile that was marked before has an address of the request. -/
theorem roundTrip_iff {env : Surroundings} {d : Database} {tenantId tenant : String}
    (h : HasConfiguration env d tenantId tenant) (entries : List VipListEntryDto) :
    RoundTrip env d tenantId entries ↔
      (∀ entry ∈ entries, ∃ sp ∈ d.senderProfiles.rows,
        sp.tenant_id = tenant ∧ sp.sender_address = entry.sender_address) ∧
      ∀ sp ∈ d.senderProfiles.rows, sp.tenant_id = tenant → sp.is_vip = true →
        ∃ entry ∈ entries, entry.sender_address = sp.sender_address := by
  -- the update promotes and never demotes, so what is read back contains what was a VIP before
  have hupdate := updateVipList_eq (d := d) h.uuid entries
  have hpromoted : HasConfiguration env { d with
      senderProfiles := promoteAll tenant (entries.map VipListEntryDto.sender_address) d.senderProfiles }
      tenantId tenant := ⟨h.uuid, h.stored, h.plan⟩
  obtain ⟨configuration, hconfiguration, haddresses⟩ := getTenantConfiguration_eq hpromoted
  have hround : RoundTrip env d tenantId entries ↔ ∀ address,
      (∃ sp ∈ d.senderProfiles.rows, sp.tenant_id = tenant ∧
        (sp.is_vip = true ∨ address ∈ entries.map VipListEntryDto.sender_address) ∧
        sp.sender_address = address) ↔ address ∈ entries.map VipListEntryDto.sender_address := by
    simp only [mem_promoteAll_iff] at haddresses
    simp only [← haddresses]
    constructor
    · intro hround
      obtain ⟨configuration', hconfiguration', hread⟩ := hround _ _ hupdate
      obtain ⟨rfl, -⟩ := EStateM.Result.ok.inj (hconfiguration.symm.trans hconfiguration')
      exact hread
    · intro hread response d' hresult
      obtain ⟨-, rfl⟩ := EStateM.Result.ok.inj (hupdate.symm.trans hresult)
      exact ⟨configuration, hconfiguration, hread⟩
  rw [hround]
  constructor
  · intro hread
    refine ⟨fun entry hentry => ?_, fun sp hsp howner hvip => ?_⟩
    · obtain ⟨sp, hsp, howner, -, haddress⟩ := (hread entry.sender_address).mpr (List.mem_map_of_mem hentry)
      exact ⟨sp, hsp, howner, haddress⟩
    · exact List.mem_map.mp ((hread sp.sender_address).mp ⟨sp, hsp, howner, .inl hvip, rfl⟩)
  · rintro ⟨hprofiles, hvips⟩ address
    constructor
    · rintro ⟨sp, hsp, howner, hvip | hlisted, rfl⟩
      · exact List.mem_map.mpr (hvips sp hsp howner hvip)
      · exact hlisted
    · intro hlisted
      obtain ⟨entry, hentry, rfl⟩ := List.mem_map.mp hlisted
      obtain ⟨sp, hsp, howner, haddress⟩ := hprofiles entry hentry
      exact ⟨sp, hsp, howner, .inr hlisted, haddress⟩

/-! ## An address without a profile

Four profiles for which the list is read as it was written, and a tenant without profiles for which it is
not.
-/

/-- Nothing is stored but a tenant. -/
def tenantOnly : Database :=
  { connectionsOnly none with
    tenants := ⟨[⟨"tenant", 0, 0⟩], by decide, by decide⟩
    tenant_label := fun _ h => absurd h List.not_mem_nil }

/-- A profile of an address in a mailbox of a tenant. -/
def profileRow (id tenant mailbox address : String) (isVip : Bool) : SenderProfileRow :=
  ⟨id, tenant, mailbox, address, isVip, false⟩

/-- A tenant with a marked profile in each of two mailboxes and one that is not marked, and a marked
profile of another tenant. -/
def fourProfiles : Database :=
  { tenantOnly with
    senderProfiles :=
      ⟨[profileRow "profile-1" "tenant" "mailbox-1" "boss@example.com" true,
        profileRow "profile-2" "tenant" "mailbox-2" "boss@example.com" true,
        profileRow "profile-3" "tenant" "mailbox-1" "friend@example.com" false,
        profileRow "profile-4" "tenant-2" "mailbox-3" "other@example.com" true], by decide, by decide⟩ }

/-- A list that drops no marked address and adds one with a profile is read as it was written. -/
theorem roundTrip_fourProfiles : RoundTrip plainSurroundings fourProfiles "tenant"
    [⟨"friend@example.com", some "Friend"⟩, ⟨"boss@example.com", none⟩] := by
  have hconfiguration : HasConfiguration plainSurroundings fourProfiles "tenant" "tenant" :=
    ⟨rfl, by decide, fun _ h => by cases h⟩
  refine (roundTrip_iff hconfiguration _).mpr ⟨?_, ?_⟩
  · intro entry hentry
    simp only [List.mem_cons, List.not_mem_nil, or_false] at hentry
    rcases hentry with rfl | rfl
    · exact ⟨profileRow "profile-3" "tenant" "mailbox-1" "friend@example.com" false,
        by simp [fourProfiles], rfl, rfl⟩
    · exact ⟨profileRow "profile-1" "tenant" "mailbox-1" "boss@example.com" true,
        by simp [fourProfiles], rfl, rfl⟩
  · intro sp hsp howner _
    simp only [fourProfiles, List.mem_cons, List.not_mem_nil, or_false] at hsp
    rcases hsp with rfl | rfl | rfl | rfl
    · exact ⟨⟨"boss@example.com", none⟩, by simp, rfl⟩
    · exact ⟨⟨"boss@example.com", none⟩, by simp, rfl⟩
    · exact ⟨⟨"friend@example.com", some "Friend"⟩, by simp, rfl⟩
    · exact absurd howner (by decide)

/-- An address that no mail has come from is not in the list after it was put there. -/
theorem not_roundTrip_unknown :
    ¬∀ (env : Surroundings) (d : Database) (tenantId tenant : String),
      HasConfiguration env d tenantId tenant → ∀ entries, RoundTrip env d tenantId entries := by
  intro h
  have hconfiguration : HasConfiguration plainSurroundings tenantOnly "tenant" "tenant" :=
    ⟨rfl, by decide, fun _ h => by cases h⟩
  obtain ⟨configuration, hread, hlist⟩ := h _ _ _ _ hconfiguration [⟨"boss@example.com", none⟩] _ _
    (updateVipList_eq rfl _)
  have hafter : HasConfiguration plainSurroundings
      { tenantOnly with senderProfiles := promoteAll "tenant" ["boss@example.com"] .empty }
      "tenant" "tenant" := ⟨rfl, by decide, fun _ h => by cases h⟩
  obtain ⟨configuration', hread', haddresses⟩ := getTenantConfiguration_eq hafter
  obtain ⟨rfl, -⟩ := EStateM.Result.ok.inj (hread.symm.trans hread')
  obtain ⟨sp, hsp, -⟩ := (haddresses "boss@example.com").mp ((hlist _).mpr (List.mem_singleton_self _))
  cases hsp

end TenantConfigController

end EmailTriage.Api
