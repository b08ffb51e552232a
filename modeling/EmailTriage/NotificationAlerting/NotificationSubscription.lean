import EmailTriage.Lib.JsObject
import EmailTriage.Lib.Runs
import EmailTriage.NotificationAlerting.AlertDispatch

/-!
# Notification subscriptions

`src/notification-alerting/domain/`: the value object `notification-preference.ts` and the aggregate
`aggregates/notification-subscription.aggregate.ts`. A subscription has a set of authorized channels,
and a preference for each type of event.

`updatePreference` refuses an immediate preference for a channel that is not authorized; the defaults
and `revokeChannel` do not look at the preferences. `immediateAuthorized_iff` says in which runs
immediate alerts nevertheless have an authorized channel.

The property is about every type of event at once. `immediateAuthorized_step_iff` says of one operation
when it keeps it: an authorization always does, an update checks the channel, and a revocation must
find no immediate preference for its channel. A new subscription has the property exactly if it comes
with the channel of its immediate default. A copy that is written and read back has the same channels
and the same preferences, so reloads do not matter.
-/

namespace EmailTriage.NotificationAlerting

open Js Runs

/-! ## Preferences

How each type of event is delivered.
-/

inductive EventType where
  | message_quarantined
  | priority_escalated
  | needs_reply_aging
deriving DecidableEq

inductive DeliveryMode where
  | immediate
  | digest_only
  | off
deriving DecidableEq

/-- The text of a channel. -/
def Channel.text : Channel → String
  | .push => "push"
  | .sms => "sms"
  | .in_app => "in_app"
  | .digest_email => "digest_email"

structure NotificationPreference where
  eventType : EventType
  deliveryMode : DeliveryMode
  preferredChannel : Channel

/-- The object `NotificationPreference.toDb` builds. -/
structure NotificationPreferenceData where
  eventType : EventType
  deliveryMode : DeliveryMode
  preferredChannel : Channel

namespace NotificationPreference

def messageQuarantined : NotificationPreference := ⟨.message_quarantined, .immediate, .push⟩

def priorityEscalated : NotificationPreference := ⟨.priority_escalated, .digest_only, .digest_email⟩

def needsReplyAging : NotificationPreference := ⟨.needs_reply_aging, .digest_only, .digest_email⟩

def isImmediate (p : NotificationPreference) : Bool := p.deliveryMode = .immediate

def toDb (p : NotificationPreference) : NotificationPreferenceData :=
  ⟨p.eventType, p.deliveryMode, p.preferredChannel⟩

def fromDb (data : NotificationPreferenceData) : NotificationPreference :=
  ⟨data.eventType, data.deliveryMode, data.preferredChannel⟩

end NotificationPreference

/-! ## The aggregate

A subscription starts with the safe defaults and the channels it is given. Preferences and channels are
changed independently.
-/

/-- A `Set` of channels. -/
abbrev ChannelSet := Keyed (id : Channel → Channel)

structure NotificationSubscription where
  tenantId : String
  userId : String
  authorizedChannels : ChannelSet
  preferences : StringMap NotificationPreference

/-- The object `NotificationSubscription.toDb` builds. -/
structure NotificationSubscriptionData where
  tenant_id : String
  user_id : String
  preferences : Object NotificationPreferenceData
  authorized_channels : List Channel

namespace NotificationSubscription

/-- `initializeSafeDefaults`. -/
def safeDefaults : StringMap NotificationPreference :=
  ((Keyed.empty.put ("message_quarantined", .messageQuarantined)).put
    ("priority_escalated", .priorityEscalated)).put ("needs_reply_aging", .needsReplyAging)

/-- The constructor. -/
def new (tenantId userId : String) (authorizedChannels : List Channel) : NotificationSubscription :=
  ⟨tenantId, userId, authorizedChannels.foldl Keyed.put .empty, safeDefaults⟩

/-- `create`; the channels default to none. -/
def create (tenantId userId : String) (authorizedChannels : List Channel) : NotificationSubscription :=
  new tenantId userId authorizedChannels

def fromDb (data : NotificationSubscriptionData) : NotificationSubscription :=
  { new data.tenant_id data.user_id data.authorized_channels with
    preferences := ofObject NotificationPreference.fromDb data.preferences }

def toDb (s : NotificationSubscription) : NotificationSubscriptionData where
  tenant_id := s.tenantId
  user_id := s.userId
  preferences := toObject NotificationPreference.toDb s.preferences
  authorized_channels := s.authorizedChannels.items

def isChannelAuthorized (s : NotificationSubscription) (channel : Channel) : Bool :=
  (s.authorizedChannels.find channel).isSome

def updatePreference (s : NotificationSubscription) (eventType : String)
    (preference : NotificationPreference) : Except Exception NotificationSubscription :=
  if preference.isImmediate && !s.isChannelAuthorized preference.preferredChannel then
    .error (.error ("Channel " ++ preference.preferredChannel.text ++ " not authorized for user"))
  else .ok { s with preferences := s.preferences.put (eventType, preference) }

def getPreference (s : NotificationSubscription) (eventType : String) : Option NotificationPreference :=
  (s.preferences.find eventType).map Prod.snd

def shouldNotifyImmediately (s : NotificationSubscription) (eventType : String) : Bool :=
  match s.getPreference eventType with
  | some pref => pref.isImmediate
  | none => false

def authorizeChannel (s : NotificationSubscription) (channel : Channel) : NotificationSubscription :=
  { s with authorizedChannels := s.authorizedChannels.put channel }

def revokeChannel (s : NotificationSubscription) (channel : Channel) : NotificationSubscription :=
  { s with authorizedChannels := s.authorizedChannels.delete channel }

/-! ## Runs

The operations on one subscription, a reload among them.
-/

/-- The operations, and being stored and loaded. -/
inductive Operation where
  | updatePreference (eventType : String) (preference : NotificationPreference)
  | authorizeChannel (channel : Channel)
  | revokeChannel (channel : Channel)
  | reload

/-- A preference that is refused changes nothing. -/
def step (s : NotificationSubscription) : Operation → NotificationSubscription
  | .updatePreference eventType preference =>
    match s.updatePreference eventType preference with
    | .ok s' => s'
    | .error _ => s
  | .authorizeChannel channel => s.authorizeChannel channel
  | .revokeChannel channel => s.revokeChannel channel
  | .reload => fromDb s.toDb

/-- An event that is notified immediately prefers an authorized channel. -/
def ImmediateAuthorized (s : NotificationSubscription) : Prop :=
  ∀ eventType, s.shouldNotifyImmediately eventType = true →
    ∃ pref, s.getPreference eventType = some pref ∧ s.isChannelAuthorized pref.preferredChannel = true

/-- No channel is revoked that an immediate preference names. -/
def RevokesUnused (s : NotificationSubscription) : Operation → Prop
  | .revokeChannel channel => ∀ eventType pref, s.getPreference eventType = some pref →
      pref.isImmediate = true → pref.preferredChannel ≠ channel
  | _ => True

/-- All that is sent at once goes over channels that are authorized. -/
theorem immediateAuthorized_iff_forall {s : NotificationSubscription} : ImmediateAuthorized s ↔
    ∀ eventType pref, s.getPreference eventType = some pref → pref.isImmediate = true →
      s.isChannelAuthorized pref.preferredChannel = true := by
  unfold ImmediateAuthorized shouldNotifyImmediately
  refine forall_congr' fun eventType => ?_
  rcases s.getPreference eventType with _ | pref
  · exact iff_of_true (fun h => absurd h Bool.false_ne_true) fun _ h => by cases h
  · constructor
    · rintro h pref' ⟨⟩ himmediate
      obtain ⟨_, ⟨⟩, hauthorized⟩ := h himmediate
      exact hauthorized
    · intro h himmediate
      exact ⟨pref, rfl, h pref rfl himmediate⟩

/-! ## What is authorized

What each operation does to the channels and the preferences.
-/

/-- A new subscription authorizes the channels it is given. -/
theorem isChannelAuthorized_create (tenantId userId : String) {channels : List Channel} {channel : Channel} :
    (create tenantId userId channels).isChannelAuthorized channel = true ↔ channel ∈ channels := by
  refine Keyed.isSome_find_foldl_put.trans ((or_iff_left Bool.false_ne_true).trans ?_)
  simp only [id_eq, exists_eq_right]

/-- An authorization adds one channel. -/
theorem isChannelAuthorized_authorizeChannel {s : NotificationSubscription} {channel other : Channel} :
    (s.authorizeChannel channel).isChannelAuthorized other = true ↔
      other = channel ∨ s.isChannelAuthorized other = true := by
  unfold isChannelAuthorized authorizeChannel
  rw [Keyed.find_put, id_eq]
  by_cases h : other = channel
  · rw [if_pos h]
    exact iff_of_true rfl (.inl h)
  · rw [if_neg h]
    exact (or_iff_right h).symm

/-- A revocation takes one channel away. -/
theorem isChannelAuthorized_revokeChannel {s : NotificationSubscription} {channel other : Channel} :
    (s.revokeChannel channel).isChannelAuthorized other = true ↔
      other ≠ channel ∧ s.isChannelAuthorized other = true := by
  unfold isChannelAuthorized revokeChannel
  rw [Keyed.find_delete]
  by_cases h : other = channel
  · rw [if_pos h]
    exact iff_of_false Bool.false_ne_true fun hne => hne.1 h
  · rw [if_neg h]
    exact (and_iff_right h).symm

/-- A set is read back as it was written. -/
theorem authorizedChannels_reload (s : NotificationSubscription) :
    (fromDb s.toDb).authorizedChannels = s.authorizedChannels := by
  refine Keyed.ext (Keyed.items_foldl_put ?_)
  exact s.authorizedChannels.nodup

/-- What is read back was written. -/
theorem getPreference_reload {s : NotificationSubscription} {eventType : String}
    {pref : NotificationPreference} (h : (fromDb s.toDb).getPreference eventType = some pref) :
    s.getPreference eventType = some pref := by
  unfold getPreference fromDb toDb at h
  dsimp only at h
  rw [find_ofObject, find_toObject] at h
  split at h
  · cases h
  · rw [Option.map_map, Option.map_map] at h
    exact h

/-- A preference that is set is found, and the others as before. -/
theorem getPreference_put {s : NotificationSubscription} (eventType : String)
    (preference : NotificationPreference) (k : String) :
    getPreference { s with preferences := s.preferences.put (eventType, preference) } k =
      if k = eventType then some preference else s.getPreference k := by
  unfold getPreference
  rw [Keyed.find_put]
  split
  · rfl
  · rfl

/-- A preference that is accepted is set, and its channel is authorized if it is immediate. -/
theorem updatePreference_eq_ok {s s' : NotificationSubscription} {eventType : String}
    {preference : NotificationPreference} (h : s.updatePreference eventType preference = .ok s') :
    s' = { s with preferences := s.preferences.put (eventType, preference) } ∧
      (preference.isImmediate = true → s.isChannelAuthorized preference.preferredChannel = true) := by
  unfold updatePreference at h
  split at h
  · cases h
  · next hcheck =>
    refine ⟨(Except.ok.inj h).symm, fun himmediate => ?_⟩
    rw [himmediate, Bool.true_and, Bool.not_eq_true', Bool.not_eq_false] at hcheck
    exact hcheck

/-! ## Immediate alerts

All that is sent at once should go over an authorized channel. Only a revocation and the creation can
break it.
-/

/-- The three preferences of a new subscription. -/
theorem items_safeDefaults : safeDefaults.items = [("message_quarantined", .messageQuarantined),
    ("priority_escalated", .priorityEscalated), ("needs_reply_aging", .needsReplyAging)] := rfl

/-- The defaults prefer the channel `push` for what is immediate. -/
theorem immediateAuthorized_create_iff {tenantId userId : String} {channels : List Channel} :
    ImmediateAuthorized (create tenantId userId channels) ↔ .push ∈ channels := by
  rw [← isChannelAuthorized_create tenantId userId, immediateAuthorized_iff_forall]
  constructor
  · intro h
    exact h "message_quarantined" .messageQuarantined rfl rfl
  · intro h eventType pref hpref himmediate
    obtain ⟨item, hitem, rfl⟩ := Option.map_eq_some_iff.mp hpref
    have hdefault : item = ("message_quarantined", .messageQuarantined) ∨
        item = ("priority_escalated", .priorityEscalated) ∨
        item = ("needs_reply_aging", .needsReplyAging) := by
      have hmem := Keyed.mem_of_find hitem
      rw [create, new, items_safeDefaults] at hmem
      simpa only [List.mem_cons, List.not_mem_nil, or_false] using hmem
    rcases hdefault with rfl | rfl | rfl
    · exact h
    · cases himmediate
    · cases himmediate

/-- One operation. -/
theorem immediateAuthorized_step_iff {s : NotificationSubscription} (hs : ImmediateAuthorized s)
    (op : Operation) : ImmediateAuthorized (s.step op) ↔ RevokesUnused s op := by
  have hall := immediateAuthorized_iff_forall.mp hs
  cases op with
  | updatePreference eventType preference =>
    refine iff_of_true ?_ trivial
    unfold step
    dsimp only
    rcases hupdate : s.updatePreference eventType preference with e | s'
    · exact hs
    · obtain ⟨rfl, hauthorized⟩ := updatePreference_eq_ok hupdate
      refine immediateAuthorized_iff_forall.mpr fun k pref hpref himmediate => ?_
      rw [getPreference_put] at hpref
      split at hpref
      · obtain rfl := Option.some.inj hpref
        exact hauthorized himmediate
      · exact hall k pref hpref himmediate
  | authorizeChannel channel =>
    refine iff_of_true (immediateAuthorized_iff_forall.mpr fun k pref hpref himmediate => ?_) trivial
    exact isChannelAuthorized_authorizeChannel.mpr (.inr (hall k pref hpref himmediate))
  | revokeChannel channel =>
    -- a revocation takes one channel away, and no preference may name it
    refine immediateAuthorized_iff_forall.trans ⟨fun h k pref hpref himmediate => ?_,
      fun h k pref hpref himmediate => ?_⟩
    · exact (isChannelAuthorized_revokeChannel.mp (h k pref hpref himmediate)).1
    · exact isChannelAuthorized_revokeChannel.mpr
        ⟨h k pref hpref himmediate, hall k pref hpref himmediate⟩
  | reload =>
    refine iff_of_true (immediateAuthorized_iff_forall.mpr fun k pref hpref himmediate => ?_) trivial
    have hauthorized := hall k pref (getPreference_reload hpref) himmediate
    unfold isChannelAuthorized at hauthorized ⊢
    rw [step, authorizedChannels_reload]
    exact hauthorized

/-- In every run from `create`, what is notified immediately prefers an authorized channel exactly if the
channel of the defaults was authorized at first, and no channel is revoked that an immediate preference
names. -/
theorem immediateAuthorized_iff (tenantId userId : String) (channels : List Channel) (ops : List Operation) :
    (ImmediateAuthorized (create tenantId userId channels) ∧
        Along (fun _ _ s => ImmediateAuthorized s) (create tenantId userId channels)
          (exec step (create tenantId userId channels) ops)) ↔
      .push ∈ channels ∧
        Along (fun s op _ => RevokesUnused s op) (create tenantId userId channels)
          (exec step (create tenantId userId channels) ops) := by
  refine (and_congr_right fun hcreate => ?_).trans (and_congr_left' immediateAuthorized_create_iff)
  refine along_iff (I := ImmediateAuthorized) ?_ ?_ (along_exec _ _ ops) hcreate
  · rintro s op s' hs rfl
    exact immediateAuthorized_step_iff hs op
  · rintro s op s' hs rfl hop
    exact (immediateAuthorized_step_iff hs op).mpr hop

/-- A subscription without channels notifies of quarantined messages immediately. -/
theorem not_immediateAuthorized_noChannels : ¬ImmediateAuthorized (create "tenant" "user" []) := by
  intro h
  obtain ⟨pref, hpref, hauthorized⟩ := h "message_quarantined" rfl
  obtain rfl := Option.some.inj (hpref.symm.trans (show _ = some .messageQuarantined from rfl))
  cases hauthorized

end NotificationSubscription

end EmailTriage.NotificationAlerting
