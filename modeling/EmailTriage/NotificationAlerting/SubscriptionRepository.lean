import EmailTriage.Lib.Registers
import EmailTriage.NotificationAlerting.NotificationSubscription

/-!
# The table of notification subscriptions

`src/notification-alerting/infrastructure/repositories/notification-subscription.repository.ts` over
the table `notification_subscriptions` of `prisma/schema.prisma`, whose rows are unique on tenant and
user. `save` looks for the row of the user in one database call and writes it in another, so the calls
of several clients mix; `savedSettings_run` says what each of them is told all the same.

The repository is an instance of the registers of the library: a read returns what was saved last, a
save that finds no row inserts one, and of two that insert at the same time one fails. What has to be
shown for the instance is that a stored subscription is read back with the same settings, in whatever
order the database returns the keys of the preferences (`sameSettings_load`).
-/

namespace EmailTriage.NotificationAlerting

open Js Db

/-- What the column `preferences` gives back for the object it was given: the keys may come back in
another order. -/
structure PreferencesColumn where
  stored : Object NotificationPreferenceData → Object NotificationPreferenceData
  perm : ∀ o, (stored o).items.Perm o.items

/-- A column that keeps the order of the keys. -/
def PreferencesColumn.ordered : PreferencesColumn := ⟨id, fun _ => List.Perm.refl _⟩

/-- A row of `notification_subscriptions`. -/
structure NotificationSubscriptionRow where
  id : ℕ
  tenant_id : String
  user_id : String
  preferences : Object NotificationPreferenceData
  authorized_channels : List Channel
  created_at : ℤ
  updated_at : ℤ

instance : Schema NotificationSubscriptionRow ℕ (String × String) where
  id := NotificationSubscriptionRow.id
  key r := (r.tenant_id, r.user_id)

/-- The table `notification_subscriptions`. -/
abbrev NotificationSubscriptionTable := Table NotificationSubscriptionRow

/-- A subscription that is saved for a tenant. -/
structure SavedSubscription where
  tenantId : String
  aggregate : NotificationSubscription

/-- A subscription that is read has the settings of one that was saved. The key `__proto__` of the
preferences is never stored. -/
structure SameSettings (s : NotificationSubscription) (saved : SavedSubscription) : Prop where
  tenantId : s.tenantId = saved.tenantId
  userId : s.userId = saved.aggregate.userId
  preference : ∀ eventType, eventType ≠ "__proto__" →
    s.getPreference eventType = saved.aggregate.getPreference eventType
  channel : ∀ channel, s.isChannelAuthorized channel = saved.aggregate.isChannelAuthorized channel

namespace NotificationSubscriptionRepository

variable (column : PreferencesColumn)

/-- The columns `save` updates. -/
def updateData (now : ℤ) (aggregate : NotificationSubscription) : Patch NotificationSubscriptionRow where
  apply r := { r with
    preferences := column.stored aggregate.toDb.preferences
    authorized_channels := aggregate.toDb.authorized_channels
    updated_at := now }
  id_apply _ := rfl
  key_apply _ := rfl

/-- The row `save` creates. -/
def createData (now : ℤ) (id : ℕ) (aggregate : NotificationSubscription) (tenantId : String) :
    NotificationSubscriptionRow where
  id := id
  tenant_id := tenantId
  user_id := aggregate.userId
  preferences := column.stored aggregate.toDb.preferences
  authorized_channels := aggregate.toDb.authorized_channels
  created_at := now
  updated_at := now

/-- The subscription of a row. -/
def load (record : NotificationSubscriptionRow) : NotificationSubscription :=
  .fromDb ⟨record.tenant_id, record.user_id, record.preferences, record.authorized_channels⟩

/-- `save`, in two calls; `none` is a database error. -/
def save (t : NotificationSubscriptionTable) (now : ℤ) (aggregate : NotificationSubscription)
    (tenantId : String) : Option NotificationSubscriptionTable :=
  let existing := (t.find (tenantId, aggregate.userId)).map NotificationSubscriptionRow.id
  t.write existing (updateData column now aggregate) (createData column now t.freshId aggregate tenantId)

def findByUserId (t : NotificationSubscriptionTable) (tenantId userId : String) :
    Option NotificationSubscription :=
  (t.find (tenantId, userId)).map load

/-- `findOrCreate`, with the table it leaves. -/
def findOrCreate (t : NotificationSubscriptionTable) (now : ℤ) (tenantId userId : String) :
    Option (NotificationSubscriptionTable × NotificationSubscription) :=
  match findByUserId t tenantId userId with
  | some existing => some (t, existing)
  | none =>
    let agg := NotificationSubscription.create tenantId userId []
    (save column t now agg tenantId).map fun t => (t, agg)

/-! ## What is read

The repository is a register for the settings of a user: what is loaded shows what was saved.
-/

/-- What is read back has the settings that were written. -/
theorem sameSettings_load {record : NotificationSubscriptionRow} {saved : SavedSubscription}
    (hkey : Schema.key record = (saved.tenantId, saved.aggregate.userId))
    (hpreferences : record.preferences = column.stored saved.aggregate.toDb.preferences)
    (hchannels : record.authorized_channels = saved.aggregate.toDb.authorized_channels) :
    SameSettings (load record) saved := by
  obtain ⟨htenant, huser⟩ := Prod.mk.inj hkey
  refine ⟨htenant, huser, fun eventType hproto => ?_, fun channel => ?_⟩
  · show ((ofObject NotificationPreference.fromDb record.preferences).find eventType).map Prod.snd = _
    rw [find_ofObject, hpreferences, Keyed.find_perm (column.perm _)]
    show (((toObject _ _).find eventType).map _).map Prod.snd = _
    rw [find_toObject, if_neg hproto, Option.map_map, Option.map_map]
    rfl
  · have hset : (load record).authorizedChannels = saved.aggregate.authorizedChannels := by
      show record.authorized_channels.foldl Keyed.put .empty = _
      rw [hchannels]
      exact Keyed.ext (Keyed.items_foldl_put saved.aggregate.authorizedChannels.nodup)
    unfold NotificationSubscription.isChannelAuthorized
    rw [hset]

/-- The repository as one that looks up and then writes. -/
def subscriptions : Repository NotificationSubscriptionRow SavedSubscription NotificationSubscription where
  key v := (v.tenantId, v.aggregate.userId)
  patch now v := updateData column now v.aggregate
  row now t v := createData column now t.freshId v.aggregate v.tenantId
  key_row _ _ _ := rfl
  id_row _ _ _ _ hr := Table.ne_freshId hr
  load := load
  fresh k := ⟨k.1, .create k.1 k.2 []⟩
  key_fresh _ := rfl
  created k := .create k.1 k.2 []
  Shows := SameSettings
  shows_patch _ _ _ hkey := sameSettings_load column hkey rfl rfl
  shows_row _ _ _ := sameSettings_load column rfl rfl rfl
  shows_created _ := ⟨rfl, rfl, fun _ _ => rfl, fun _ => rfl⟩

/-- The save of the repository is the one of a register. -/
theorem save_eq (t : NotificationSubscriptionTable) (now : ℤ) (aggregate : NotificationSubscription)
    (tenantId : String) :
    save column t now aggregate tenantId = (subscriptions column).save t now ⟨tenantId, aggregate⟩ := rfl

/-- So is the lookup that creates what is missing. -/
theorem findOrCreate_eq (t : NotificationSubscriptionTable) (now : ℤ) (tenantId userId : String) :
    findOrCreate column t now tenantId userId
      = (subscriptions column).findOrCreate t now (tenantId, userId) := by
  have hread : findByUserId t tenantId userId = (subscriptions column).read t (tenantId, userId) := rfl
  unfold findOrCreate Repository.findOrCreate
  rw [hread]
  rcases (subscriptions column).read t (tenantId, userId) with _ | existing
  · rfl
  · rfl

/-! ## Clients

The library says what any clients read, and that a client which is not interrupted does what the functions
do.
-/

open Repository

/-- A client that is not interrupted does what the functions do. -/
theorem table_uninterrupted {ι : Type} [DecidableEq ι]
    (w : Repository.World NotificationSubscriptionRow ι SavedSubscription NotificationSubscription) (i : ι)
    (now : ℤ) :
    let call := fun w => (subscriptions column).call w i now
    (∀ aggregate tenantId, w.phases i = .asked (.save ⟨tenantId, aggregate⟩) →
      (call (call w)).table = (save column w.table now aggregate tenantId).getD w.table) ∧
    ∀ tenantId userId, w.phases i = .asked (.findOrCreate (tenantId, userId)) →
      (call (call (call w))).table =
        ((findOrCreate column w.table now tenantId userId).map Prod.fst).getD w.table := by
  refine ⟨fun aggregate tenantId hi => (subscriptions column).table_save hi now,
    fun tenantId userId hi => ?_⟩
  rw [findOrCreate_eq]
  exact (subscriptions column).table_findOrCreate hi now

/-- Whatever the order of the calls, and whichever of them fail: a client is told the settings of the user
that were saved last, and these are what the table holds; when `findOrCreate` stores its defaults, or the
unique key refuses a save, the client had looked before the user saved anything. -/
theorem savedSettings_run {ι : Type} [DecidableEq ι]
    (turns : List (ι × Turn (String × String) SavedSubscription)) :
    let R := subscriptions column
    let w := turns.foldl R.step start
    (∀ i tenantId userId answer past, .answered i (tenantId, userId) answer :: past <:+ w.history →
      R.Answers answer (R.lastWrite (tenantId, userId) past)) ∧
    (∀ tenantId userId,
      R.Answers (findByUserId w.table tenantId userId) (R.lastWrite (tenantId, userId) w.history)) ∧
    (∀ i tenantId userId past, .created i (tenantId, userId) :: past <:+ w.history →
      ∃ before, .missed i (tenantId, userId) :: before <:+ past ∧
        R.lastWrite (tenantId, userId) before = none) ∧
    ∀ i tenantId userId past, .refused i (tenantId, userId) :: past <:+ w.history →
      R.lastWrite (tenantId, userId) past ≠ none ∧
        ∃ before, .looked i (tenantId, userId) :: before <:+ past ∧
          R.lastWrite (tenantId, userId) before = none := by
  intro R w
  have hw := isRegister_run R turns
  refine ⟨fun i _ _ answer past => hw.answered i _ answer past, fun _ _ => hw.stored _,
    fun i _ _ past => hw.created i _ past, fun i _ _ past h => ?_⟩
  exact (hw.refused i _ past h).symm

/-- A client finds nothing, another one saves a channel, and the defaults of the first come over it. -/
example :
    let turns : List (Bool × Turn (String × String) SavedSubscription) :=
      [(true, .request (.findOrCreate ("tenant", "user"))), (true, .call 0),
        (false, .request (.save ⟨"tenant", .create "tenant" "user" [.sms]⟩)), (false, .call 1),
        (false, .call 2), (true, .call 3), (true, .call 4)]
    (findByUserId (turns.foldl (subscriptions .ordered).step start).table "tenant" "user").map
      (·.isChannelAuthorized .sms) = some false := by decide

end NotificationSubscriptionRepository

end EmailTriage.NotificationAlerting
