import EmailTriage.Lib.Codec
import EmailTriage.Lib.Effect
import EmailTriage.Lib.LocalTime

/-!
# Alerts and their payload

`src/notification-alerting/domain/aggregates/alert-dispatch.aggregate.ts` and
`src/notification-alerting/domain/value-objects/alert-payload.ts`.

Both have a `fromDb` that reads its fields out of `any`. That of the payload reads three properties
of what it is given and throws where nothing is; that of the alert builds the alert anew with a
cool-down of zero minutes.

The constructor counts the cool-down in minutes of the local time, which is ahead of UTC by an offset
that does not change. A length is any number: it is added to the minute of the hour as doubles are, and
the end of the cool-down is the invalid date where that leads beyond the dates, or is no finite number.
-/

namespace EmailTriage.NotificationAlerting

open Js

inductive Severity where
  | critical
  | high
  | normal
deriving DecidableEq

inductive Channel where
  | push
  | sms
  | in_app
  | digest_email
deriving DecidableEq

inductive AlertStatus where
  | pending
  | dispatched
  | failed
deriving DecidableEq

structure AlertPayload where
  triggeringEvent : Dyn String
  renderedSummary : Dyn String
  severity : Dyn Severity

namespace AlertPayload

def toDb (p : AlertPayload) : Value :=
  .obj [("triggeringEvent", p.triggeringEvent.value), ("renderedSummary", p.renderedSummary.value),
    ("severity", p.severity.value)]

def fromDb (data : Value) : Except Exception AlertPayload :=
  if data.isNullish then .error .typeError
  else .ok ⟨⟨data.get "triggeringEvent"⟩, ⟨data.get "renderedSummary"⟩, ⟨data.get "severity"⟩⟩

@[simp] theorem fromDb_toDb (p : AlertPayload) : fromDb p.toDb = .ok p := by
  simp [fromDb, toDb, Value.isNullish]

end AlertPayload

/-- An alert to a user. -/
structure AlertDispatch where
  id : Dyn String
  tenantId : Dyn String
  userId : Dyn String
  eventType : Dyn String
  payload : AlertPayload
  channel : Dyn Channel
  status : Dyn AlertStatus
  dispatchedAt : Date
  coolDownUntil : Date

namespace AlertDispatch

/-- The constructor, with the offset of the local time, and the random id and the clock it falls back
on. -/
def new (offset : Date.Offset) (tenantId userId eventType : Dyn String) (payload : AlertPayload)
    (channel : Dyn Channel) (coolDownMinutes : Double) (id status dispatchedAt : Value) (randomUUID : String)
    (now : ℤ) : AlertDispatch :=
  let dispatchedAt := Date.ofValue (dispatchedAt.or (.date (some now)))
  { id := ⟨id.or (.str randomUUID)⟩
    tenantId := tenantId
    userId := userId
    eventType := eventType
    payload := payload
    channel := channel
    status := match status with
      | .undefined => ⟨.str "pending"⟩
      | status => ⟨status⟩
    dispatchedAt := dispatchedAt
    coolDownUntil := dispatchedAt.setMinutes offset ((dispatchedAt.getMinutes offset).add coolDownMinutes) }

def fromDb (offset : Date.Offset) (randomUUID : String) (now : ℤ) (data : Value) :
    Except Exception AlertDispatch := do
  let payload ← AlertPayload.fromDb (data.get "payload")
  return new offset ⟨data.get "tenant_id"⟩ ⟨data.get "user_id"⟩
    ⟨(data.get "event_type").or (data.get "eventType")⟩ payload ⟨data.get "channel"⟩
    (.finite 0) -- cool-down is already computed
    (data.get "id") (data.get "status") ((data.get "dispatched_at").or (data.get "dispatchedAt"))
    randomUUID now

/-- `isInCoolDown`; no instant is before the invalid date. -/
def isInCoolDown (a : AlertDispatch) (now : ℤ) : Bool := a.coolDownUntil.any fun t => now < t

def toDb (a : AlertDispatch) : Value :=
  .obj [("id", a.id.value), ("tenant_id", a.tenantId.value), ("user_id", a.userId.value),
    ("event_type", a.eventType.value), ("payload", a.payload.toDb), ("channel", a.channel.value),
    ("status", a.status.value), ("dispatched_at", .date a.dispatchedAt),
    ("cool_down_until", .date a.coolDownUntil)]

/-- Without a payload there is nothing to load. -/
theorem fromDb_of_payload {offset : Date.Offset} {randomUUID : String} {now : ℤ} {data : Value}
    (h : (data.get "payload").isNullish = true) :
    fromDb offset randomUUID now data = .error .typeError := by
  unfold fromDb AlertPayload.fromDb
  rw [if_pos h]
  rfl

/-- The window of an alert that is built with no minutes ends when the alert was dispatched. -/
theorem setMinutes_getMinutes (offset : Date.Offset) {d : Date} (h : d.Representable) :
    d.setMinutes offset ((d.getMinutes offset).add (.finite 0)) = d := by
  rcases d with _ | t
  · rfl
  · have hminute : 0 ≤ (t + offset.1) / 60000 % 60 ∧ (t + offset.1) / 60000 % 60 < 60 := by omega
    obtain ⟨minute, hcast⟩ := Int.eq_ofNat_of_zero_le hminute.1
    rw [Date.setMinutes_eq_self_iff offset ⟨t, h t rfl⟩, Date.getMinutes, hcast, Int.cast_natCast,
      Date.truncate_add_eq_iff (by omega)]
    refine ⟨0, rfl, ?_, ?_⟩
    · split
      · decide +kernel
      · exact neg_nonpos.mpr (two_zpow_pos _).le
    · exact sub_pos.mpr (halfGap_lt_one (by omega))

/-- The window of a loaded alert ends when the alert was dispatched, whatever was stored. -/
theorem coolDownUntil_of_fromDb {offset : Date.Offset} {randomUUID : String} {now : ℤ} {data : Value}
    {a : AlertDispatch} (h : fromDb offset randomUUID now data = .ok a)
    (hdispatched : a.dispatchedAt.Representable) : a.coolDownUntil = a.dispatchedAt := by
  obtain ⟨payload, -, h⟩ := except_bind_eq_ok.mp h
  rw [← Except.ok.inj h] at hdispatched ⊢
  exact setMinutes_getMinutes offset hdispatched

end AlertDispatch

end EmailTriage.NotificationAlerting
