import EmailTriage.Lib.LocalTime

/-!
# The cool-down between alerts

`AlertDispatch` of `src/notification-alerting/domain/notification-subscription.aggregate.ts`: the
dispatches made so far, in order, and the gate that an alert has to pass.

The gate looks for a record of the user and category with `find`, which answers with the *first* one,
while `recordDispatch` appends. So once the window of the first dispatch is over the gate stays open,
however recent the last dispatch is. `dispatched_alerts` says which
attempts get through, and `cooledDown_alerts_iff` when a history keeps the cool-down all the same.

The length of a cool-down is any number. The end of a window is computed with doubles, and may be a
millisecond off what the length says; that two dispatches are a cool-down apart is a matter of the
length itself.
-/

namespace EmailTriage.NotificationAlerting

open Js

/-- An `AlertDispatchRecord`. -/
structure AlertDispatchRecord where
  alert_id : String
  user_id : String
  triggering_category : String
  dispatched_at : ℤ
  cool_down_until : Date
deriving DecidableEq

/-- What a cool-down is kept for: a user and a category. -/
def AlertDispatchRecord.subject (r : AlertDispatchRecord) : String × String :=
  (r.user_id, r.triggering_category)

/-- `new Date(now.getTime() + cool_down_seconds * 1000)`: a product and a sum of doubles. -/
def coolDownUntil (now : ℤ) (cool_down_seconds : Double) : Date :=
  Date.ofDouble ((Double.finite now).add (cool_down_seconds.mul (.finite 1000)))

/-- `now.getTime() >= cool_down_until.getTime()`; no instant is at or after the invalid date. -/
def isOver (cool_down_until : Date) (now : ℤ) : Bool := cool_down_until.any fun t => t ≤ now

/-- `canDispatchAlert`. It does not read the cool-down it is given. -/
def canDispatchAlert (dispatch_records : List AlertDispatchRecord) (now : ℤ)
    (user_id category : String) (_cool_down_seconds : Double) : Bool :=
  match dispatch_records.find? fun r => r.subject = (user_id, category) with
  | none => true
  | some recent => isOver recent.cool_down_until now

/-- `recordDispatch`. -/
def recordDispatch (dispatch_records : List AlertDispatchRecord) (now : ℤ)
    (alert_id user_id category : String) (cool_down_seconds : Double) : List AlertDispatchRecord :=
  dispatch_records ++ [⟨alert_id, user_id, category, now, coolDownUntil now cool_down_seconds⟩]

/-! ## Histories

Attempts at times that do not go back, with the records of those that were dispatched. The end of a cool-
down is computed in doubles and cut off to a date.
-/

/-- An attempt to alert a user. The gate and the record each read the clock. -/
structure AlertAttempt where
  alert_id : String
  user_id : String
  category : String
  askedAt : ℤ
  recordedAt : ℤ

def AlertAttempt.subject (a : AlertAttempt) : String × String := (a.user_id, a.category)

/-- One attempt: the dispatch is recorded when the gate lets it through. -/
def attempt (cool_down_seconds : Double) (dispatch_records : List AlertDispatchRecord)
    (a : AlertAttempt) : List AlertDispatchRecord :=
  if canDispatchAlert dispatch_records a.askedAt a.user_id a.category cool_down_seconds then
    recordDispatch dispatch_records a.recordedAt a.alert_id a.user_id a.category cool_down_seconds
  else dispatch_records

/-- The records after a sequence of attempts. -/
def alerts (cool_down_seconds : Double) (attempts : List AlertAttempt) : List AlertDispatchRecord :=
  attempts.foldl (attempt cool_down_seconds) []

/-- Two instants are at least the cool-down apart: `cool_down_seconds` seconds as they are, without
rounding. No two instants are infinitely far apart, and none are when the length is not a number. -/
def Apart (cool_down_seconds : Double) (s t : ℤ) : Prop :=
  cool_down_seconds.le (.finite ((t - s).natAbs / 1000)) = true

/-- Any two recorded dispatches for one user and category are at least the cool-down apart. -/
def CooledDown (cool_down_seconds : Double) (dispatch_records : List AlertDispatchRecord) : Prop :=
  dispatch_records.Pairwise fun r r' =>
    r.subject = r'.subject → Apart cool_down_seconds r.dispatched_at r'.dispatched_at

/-- The attempts on one subject that get through: the first, and all that are made once the window of
the first is over. -/
def admitted (cool_down_seconds : Double) : List AlertAttempt → List AlertAttempt
  | [] => []
  | first :: later =>
    first :: later.filter fun a => isOver (coolDownUntil first.recordedAt cool_down_seconds) a.askedAt

/-- For every user and category, the first attempt and those made once its window is over are at least
the cool-down apart. -/
def SpacedAttempts (cool_down_seconds : Double) (attempts : List AlertAttempt) : Prop :=
  ∀ subject, (admitted cool_down_seconds (attempts.filter fun a => a.subject = subject)).Pairwise
    fun a a' => Apart cool_down_seconds a.recordedAt a'.recordedAt

instance (s : Double) (t u : ℤ) : Decidable (Apart s t u) := inferInstanceAs (Decidable (_ = true))

instance (s : Double) (rs : List AlertDispatchRecord) : Decidable (CooledDown s rs) :=
  inferInstanceAs (Decidable (rs.Pairwise _))

/-! ## Which attempts are recorded

The attempts for one user and category depend on each other only: an attempt is recorded if no recorded
one before it is still cooling down.
-/

variable {cool_down_seconds : Double} {dispatch_records : List AlertDispatchRecord}
  {subject : String × String}

/-- The records of one subject. -/
def ofSubject (subject : String × String) (dispatch_records : List AlertDispatchRecord) :
    List AlertDispatchRecord :=
  dispatch_records.filter fun r => r.subject = subject

/-- The gate of a subject is the window of its first record. -/
theorem canDispatchAlert_eq (cool_down_seconds : Double) (dispatch_records : List AlertDispatchRecord)
    (now : ℤ) (user_id category : String) :
    canDispatchAlert dispatch_records now user_id category cool_down_seconds =
      ((ofSubject (user_id, category) dispatch_records).head?.all fun r =>
        isOver r.cool_down_until now) := by
  unfold canDispatchAlert ofSubject
  rw [List.head?_filter]
  rcases dispatch_records.find? _ with _ | recent
  · rfl
  · rfl

/-- An attempt on another subject leaves the records of this one alone. -/
theorem ofSubject_attempt_of_ne {a : AlertAttempt} (h : a.subject ≠ subject) :
    ofSubject subject (attempt cool_down_seconds dispatch_records a) =
      ofSubject subject dispatch_records := by
  have hne : (a.user_id, a.category) ≠ subject := h
  unfold attempt recordDispatch ofSubject
  split
  · rw [List.filter_append]
    simp [AlertDispatchRecord.subject, hne]
  · rfl

/-- An attempt adds its record when the gate is open. -/
theorem ofSubject_attempt (cool_down_seconds : Double) (dispatch_records : List AlertDispatchRecord)
    (a : AlertAttempt) :
    (ofSubject a.subject (attempt cool_down_seconds dispatch_records a)) =
      ofSubject a.subject dispatch_records ++
        if (ofSubject a.subject dispatch_records).head?.all fun r => isOver r.cool_down_until a.askedAt
        then [⟨a.alert_id, a.user_id, a.category, a.recordedAt,
          coolDownUntil a.recordedAt cool_down_seconds⟩]
        else [] := by
  have hgate := canDispatchAlert_eq cool_down_seconds dispatch_records a.askedAt a.user_id a.category
  unfold attempt
  rw [hgate]
  unfold AlertAttempt.subject
  split
  · unfold recordDispatch ofSubject
    rw [List.filter_append]
    simp [AlertDispatchRecord.subject]
  · rw [List.append_nil]

/-- Once a subject has a record, its first record decides which attempts are recorded. -/
theorem dispatched_of_cons {r : AlertDispatchRecord} {rs : List AlertDispatchRecord}
    (attempts : List AlertAttempt) (h : ofSubject subject dispatch_records = r :: rs) :
    (ofSubject subject (attempts.foldl (attempt cool_down_seconds) dispatch_records)).map
        (·.dispatched_at) =
      (r :: rs).map (·.dispatched_at) ++
        ((attempts.filter fun a => a.subject = subject).filter fun a =>
          isOver r.cool_down_until a.askedAt).map (·.recordedAt) := by
  induction attempts generalizing dispatch_records rs with
  | nil => rw [List.foldl_nil, h, List.filter_nil, List.filter_nil, List.map_nil, List.append_nil]
  | cons a attempts ih =>
    rw [List.foldl_cons]
    by_cases ha : a.subject = subject
    · subst ha
      have hstep := ofSubject_attempt cool_down_seconds dispatch_records a
      rw [h] at hstep
      rw [List.filter_cons_of_pos (by simp)]
      rcases hover : isOver r.cool_down_until a.askedAt with _ | _
      · rw [if_neg (by simp [hover]), List.append_nil] at hstep
        rw [ih hstep, List.filter_cons_of_neg (by simp [hover])]
      · rw [if_pos (by simp [hover]), List.cons_append] at hstep
        rw [ih hstep, List.filter_cons_of_pos (by simp [hover])]
        simp
    · rw [List.filter_cons_of_neg (by simpa using ha)]
      refine ih ?_
      rw [ofSubject_attempt_of_ne ha, h]

/-- A subject without records gets the admitted attempts. -/
theorem dispatched_of_nil (attempts : List AlertAttempt)
    (h : ofSubject subject dispatch_records = []) :
    (ofSubject subject (attempts.foldl (attempt cool_down_seconds) dispatch_records)).map
        (·.dispatched_at) =
      (admitted cool_down_seconds (attempts.filter fun a => a.subject = subject)).map (·.recordedAt) := by
  induction attempts generalizing dispatch_records with
  | nil => rw [List.foldl_nil, h, List.filter_nil, admitted, List.map_nil, List.map_nil]
  | cons a attempts ih =>
    rw [List.foldl_cons]
    by_cases ha : a.subject = subject
    · subst ha
      have hstep := ofSubject_attempt cool_down_seconds dispatch_records a
      -- nothing closes the gate for the first attempt, which becomes the first record
      rw [h, List.nil_append, if_pos (by simp)] at hstep
      rw [dispatched_of_cons attempts hstep, List.filter_cons_of_pos (by simp), admitted]
      simp
    · rw [List.filter_cons_of_neg (by simpa using ha)]
      refine ih ?_
      rw [ofSubject_attempt_of_ne ha, h]

/-- The dispatches of a subject are its admitted attempts. -/
theorem dispatched_alerts (cool_down_seconds : Double) (attempts : List AlertAttempt)
    (subject : String × String) :
    (ofSubject subject (alerts cool_down_seconds attempts)).map (·.dispatched_at) =
      (admitted cool_down_seconds (attempts.filter fun a => a.subject = subject)).map (·.recordedAt) :=
  dispatched_of_nil attempts rfl

/-! ## When the cool-down is kept

The cool-down should last its length from the attempt on. Where rounding ends it early or late, the
attempts in between are the ones that tell.
-/

/-- The cool-down is kept when it is kept for each subject. -/
theorem cooledDown_iff_forall_ofSubject : CooledDown cool_down_seconds dispatch_records ↔
    ∀ subject, ((ofSubject subject dispatch_records).map (·.dispatched_at)).Pairwise
      (Apart cool_down_seconds) := by
  unfold CooledDown ofSubject
  simp only [List.pairwise_map, List.pairwise_filter, decide_eq_true_eq]
  induction dispatch_records with
  | nil => simp
  | cons r rs ih =>
    simp only [List.pairwise_cons, forall_and]
    refine and_congr ?_ ih
    constructor
    · intro h subject r' hr' hsubject hsubject'
      exact h r' hr' (hsubject.trans hsubject'.symm)
    · intro h r' hr' heq
      exact h r'.subject r' hr' heq rfl

/-- A history of attempts keeps the cool-down exactly when, for each user and category, its first
attempt and those made once the window of that one is over are a cool-down apart. -/
theorem cooledDown_alerts_iff (cool_down_seconds : Double) (attempts : List AlertAttempt) :
    CooledDown cool_down_seconds (alerts cool_down_seconds attempts) ↔
      SpacedAttempts cool_down_seconds attempts := by
  rw [cooledDown_iff_forall_ofSubject]
  unfold SpacedAttempts
  refine forall_congr' fun subject => ?_
  rw [dispatched_alerts, List.pairwise_map]

/-- An alert for a user and a category every second, with a cool-down of five minutes. The window of
the first ends at 300 s; the attempts at 300 s and 301 s are both recorded. -/
theorem not_cooledDown_alerts : ¬ CooledDown (.finite 300) (alerts (.finite 300)
    [⟨"alert-1", "user-1", "phishing", 0, 0⟩, ⟨"alert-2", "user-1", "phishing", 300000, 300000⟩,
      ⟨"alert-3", "user-1", "phishing", 301000, 301000⟩]) := by
  decide +kernel

end EmailTriage.NotificationAlerting
