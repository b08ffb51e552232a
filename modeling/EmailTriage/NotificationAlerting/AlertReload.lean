import EmailTriage.Lib.Runs
import EmailTriage.NotificationAlerting.AlertDispatch

/-!
# Alerts that are stored and loaded

The constructor of `AlertDispatch` computes the end of the cool-down from a number of minutes, by
`setMinutes` of the local time. `toDb` writes the end, and not the minutes, and `fromDb` gives the
constructor zero minutes.

## What comes back

`fromDb_toDb` says what the loaded alert is: all is as it was, but the cool-down ends when the alert
was dispatched. So the alert is in cool-down when it was exactly if its own cool-down ended there too,
and `comesBack_iff_coolDownUntil` is about any alert with a status. The operations on an alert change
no more than the status, which `onlyStatus_foldl` shows by induction over them, and so `comesBack_iff`
is about the length that `create` was given: it has to add nothing to the minute of the hour.
-/

namespace EmailTriage.NotificationAlerting

open Js Runs

namespace AlertDispatch

/-- `create`, at an instant of the clock and with a random id. -/
def create (offset : Date.Offset) (now : Date.Instant) (randomUUID : String)
    (tenantId userId eventType : Dyn String) (payload : AlertPayload) (channel : Dyn Channel)
    (coolDownMinutes : Double) : AlertDispatch :=
  new offset tenantId userId eventType payload channel coolDownMinutes .undefined .undefined .undefined
    randomUUID now.1

def dispatch (a : AlertDispatch) : AlertDispatch :=
  if a.status.value.isStr "pending" then { a with status := ⟨.str "dispatched"⟩ } else a

def markFailed (a : AlertDispatch) : AlertDispatch :=
  if a.status.value.isStr "pending" then { a with status := ⟨.str "failed"⟩ } else a

/-- The operations that change the status. -/
inductive Op where
  | dispatch
  | markFailed

def step (a : AlertDispatch) : Op → AlertDispatch
  | .dispatch => a.dispatch
  | .markFailed => a.markFailed

/-- An alert, stored and loaded, has its payload, channel, status and time, and is in cool-down when it
was, at every instant, those outside the range of dates included. -/
def ComesBack (offset : Date.Offset) (a : AlertDispatch) : Prop :=
  ∀ randomUUID now, ∃ b, fromDb offset randomUUID now a.toDb = .ok b ∧ b.payload = a.payload ∧
    b.channel = a.channel ∧ b.status = a.status ∧ b.dispatchedAt = a.dispatchedAt ∧
    ∀ t, b.isInCoolDown t = a.isInCoolDown t

/-! ## What comes back

A loaded alert has everything but the end of its cool-down, which is when it was dispatched.
-/

variable {offset : Date.Offset}

/-- An alert with a status comes back with a cool-down that ends when it was dispatched. -/
theorem fromDb_toDb (offset : Date.Offset) {a : AlertDispatch} (hstatus : a.status.value ≠ .undefined)
    (hdispatched : a.dispatchedAt.Representable) (randomUUID : String) (now : ℤ) :
    ∃ b, fromDb offset randomUUID now a.toDb = .ok b ∧ b.payload = a.payload ∧ b.channel = a.channel ∧
      b.status = a.status ∧ b.dispatchedAt = a.dispatchedAt ∧ b.coolDownUntil = a.dispatchedAt := by
  have hpayload : AlertPayload.fromDb (a.toDb.get "payload") = .ok a.payload := by
    simp [toDb]
  have hread : Date.ofValue (((a.toDb.get "dispatched_at").or (a.toDb.get "dispatchedAt")).or
      (.date (some now))) = a.dispatchedAt := by
    simp [toDb, Value.or, Value.truthy, Date.ofValue]
  have hchannel : a.toDb.get "channel" = a.channel.value := by
    simp [toDb]
  have hwritten : a.toDb.get "status" = a.status.value := by
    simp [toDb]
  have hload : fromDb offset randomUUID now a.toDb = .ok (new offset ⟨a.toDb.get "tenant_id"⟩
      ⟨a.toDb.get "user_id"⟩ ⟨(a.toDb.get "event_type").or (a.toDb.get "eventType")⟩ a.payload
      ⟨a.toDb.get "channel"⟩ (.finite 0) (a.toDb.get "id") (a.toDb.get "status")
      ((a.toDb.get "dispatched_at").or (a.toDb.get "dispatchedAt")) randomUUID now) := by
    unfold fromDb
    rw [hpayload]
    rfl
  refine ⟨_, hload, rfl, ?_, ?_, hread, (coolDownUntil_of_fromDb hload ?_).trans hread⟩
  · exact congrArg Dyn.mk hchannel
  · unfold new
    dsimp only
    rw [hwritten]
    split
    · next h => exact absurd h hstatus
    · rfl
  · exact fun t ht => hdispatched t (hread.symm.trans ht)

/-- Nothing but the status has changed, and there still is one. -/
structure OnlyStatus (a b : AlertDispatch) : Prop where
  status : b.status.value ≠ .undefined
  dispatchedAt : b.dispatchedAt = a.dispatchedAt
  coolDownUntil : b.coolDownUntil = a.coolDownUntil

/-- A pending alert takes another status. -/
theorem OnlyStatus.settle {a b : AlertDispatch} (h : OnlyStatus a b) (status : String) :
    OnlyStatus a (if b.status.value.isStr "pending" then { b with status := ⟨.str status⟩ } else b) := by
  split
  · exact ⟨by rintro ⟨⟩, h.dispatchedAt, h.coolDownUntil⟩
  · exact h

/-- The status is all that the operations change. -/
theorem onlyStatus_foldl {a : AlertDispatch} (hstatus : a.status.value ≠ .undefined) (ops : List Op) :
    OnlyStatus a (ops.foldl step a) := by
  refine foldl_invariant (I := OnlyStatus a) (fun b op hb => ?_) ⟨hstatus, rfl, rfl⟩ ops
  cases op with
  | dispatch => exact hb.settle "dispatched"
  | markFailed => exact hb.settle "failed"

/-- An alert comes back exactly if its cool-down ends when it was dispatched. -/
theorem comesBack_iff_coolDownUntil {a : AlertDispatch} {s : Date.Instant}
    (hstatus : a.status.value ≠ .undefined)
    (hdispatched : a.dispatchedAt = some s.1) : ComesBack offset a ↔ a.coolDownUntil = some s.1 := by
  have hrepresentable : a.dispatchedAt.Representable := by
    rw [hdispatched]
    exact Date.representable_some s
  constructor
  · intro h
    obtain ⟨b, hb, -, -, -, -, hagree⟩ := h "" 0
    obtain ⟨b', hb', -, -, -, -, hend⟩ := fromDb_toDb offset hstatus hrepresentable "" 0
    obtain rfl := Except.ok.inj (hb.symm.trans hb')
    unfold isInCoolDown at hagree
    rw [hend, hdispatched] at hagree
    -- the invalid date would be told from the time of dispatch by the instant before it
    rcases hcoolDown : a.coolDownUntil with _ | e
    · have hbefore := hagree (s.1 - 1)
      rw [hcoolDown, Option.any_some, Option.any_none, decide_eq_false_iff_not] at hbefore
      omega
    · -- and two dates by the earlier one of them
      have hends : ∀ t, t < s.1 ↔ t < e := by
        intro t
        have ht := hagree t
        rw [hcoolDown, Option.any_some, Option.any_some, decide_eq_decide] at ht
        exact ht
      have hs := hends s.1
      have he := hends e
      exact congrArg some (by omega)
  · intro h randomUUID now
    obtain ⟨b, hb, hpayload, hchannel, hstatus', hdispatched', hend⟩ :=
      fromDb_toDb offset hstatus hrepresentable randomUUID now
    refine ⟨b, hb, hpayload, hchannel, hstatus', hdispatched', fun t => ?_⟩
    unfold isInCoolDown
    rw [hend, hdispatched, h]

/-! ## Lengths

Adding a length to the minutes of an hour is rounded, and a length that adds nothing is lost on the way.
-/

/-- The minute of the hour of the local time. -/
def minuteOfHour (offset : Date.Offset) (now : Date.Instant) : ℕ :=
  ((now.1 + offset.1) / 60000 % 60).toNat

/-- The minute that a date reads is the one of the hour, and there are sixty of them. -/
theorem minuteOfHour_spec (offset : Date.Offset) (now : Date.Instant) :
    (minuteOfHour offset now : ℤ) = (now.1 + offset.1) / 60000 % 60 ∧ minuteOfHour offset now < 60 := by
  unfold minuteOfHour
  omega

/-- An alert from `create`, whatever happened to its status, comes back exactly if the length of its
cool-down is a number that adds nothing to the minute of the hour at which it began. -/
theorem comesBack_iff (offset : Date.Offset) (now : Date.Instant) (randomUUID : String)
    (tenantId userId eventType : Dyn String) (payload : AlertPayload) (channel : Dyn Channel)
    (coolDownMinutes : Double) (ops : List Op) :
    ComesBack offset (ops.foldl step
        (create offset now randomUUID tenantId userId eventType payload channel coolDownMinutes)) ↔
      ∃ q, coolDownMinutes = .finite q ∧ Date.AddsNothing (minuteOfHour offset now) q := by
  obtain ⟨hminute, hlt⟩ := minuteOfHour_spec offset now
  obtain ⟨hstatus, hdispatched, hcoolDown⟩ := onlyStatus_foldl
    (a := create offset now randomUUID tenantId userId eventType payload channel coolDownMinutes)
    (by rintro ⟨⟩) ops
  rw [comesBack_iff_coolDownUntil (s := now) hstatus hdispatched, hcoolDown]
  refine (Date.setMinutes_eq_self_iff offset now _).trans ?_
  show ((Double.finite (((now.1 + offset.1) / 60000 % 60 : ℤ) : ℚ)).add coolDownMinutes).truncate = _ ↔ _
  rw [← hminute, Int.cast_natCast]
  exact Date.truncate_add_eq_iff hlt coolDownMinutes

/-- An alert that is raised in the first minute of the epoch, with the default length of a quarter of
an hour, is no longer in cool-down. -/
theorem not_comesBack_quarter : ¬ComesBack ⟨0, by decide⟩ (create ⟨0, by decide⟩ ⟨0, by decide⟩ "alert-1"
    (.of "tenant") (.of "user") (.of "message_quarantined")
    ⟨.of "message_quarantined", .of "summary", ⟨.str "critical"⟩⟩ ⟨.str "push"⟩ (.finite 15)) := by
  intro h
  have hend := (comesBack_iff_coolDownUntil (s := ⟨0, by decide⟩) (by rintro ⟨⟩) rfl).mp h
  exact absurd hend (by decide +kernel)

end AlertDispatch

end EmailTriage.NotificationAlerting
