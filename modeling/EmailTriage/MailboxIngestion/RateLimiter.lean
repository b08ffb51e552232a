import Mathlib.Data.List.Basic
import Mathlib.Data.Rat.Defs
import Mathlib.Logic.Function.Basic
import EmailTriage.Lib.JsString
import EmailTriage.Queue.EventRouting

/-!
# The rate limiter

`src/mailbox-ingestion/infrastructure/adapters/rate-limiter.adapter.ts`: a counter of calls for each
platform, tenant and mailbox, under a key that is their concatenation. A timer deletes the counter a
second after its first call. Mailbox ids may contain the separator of the key; where platforms and
tenant ids do not, mailboxes do not interfere (`answers_filter`).

A counter is a function of its key, so the result is one about keys: two mailboxes share a counter
exactly if their keys are equal, and the texts before a separator can be read off where they do not
contain it (`IsPlain.key_inj`). `answers_filter` then deletes the operations on other mailboxes from a
run and keeps the answers, timers included.
-/

namespace EmailTriage.MailboxIngestion

/-- The mailbox of a tenant on a platform. -/
structure RateLimited where
  platform : String
  tenantId : String
  mailboxId : String
deriving DecidableEq

namespace RateLimited

def key (s : RateLimited) : String :=
  "ratelimit:" ++ s.platform ++ ":" ++ s.tenantId ++ ":" ++ s.mailboxId

/-- `limits[platform] || 100`. An inherited property is there, but no number. -/
def limit (s : RateLimited) : Option ℕ :=
  match s.platform with
  | "gmail" => some 250
  | "outlook" => some 333
  | platform => if platform ∈ Queue.inheritedNames then none else some 100

/-- `current <= limit`, which no number is with what is no number. -/
def allows (s : RateLimited) (current : ℕ) : Bool := s.limit.any (current ≤ ·)

/-- Neither the platform nor the tenant id contains the separator. -/
def IsPlain (s : RateLimited) : Prop := ':' ∉ s.platform.toList ∧ ':' ∉ s.tenantId.toList

end RateLimited

/-- The calls on the adapter, and its timers. -/
inductive RateLimiterOperation where
  | enforceQuota (s : RateLimited) (units : ℚ)
  | getCurrentUsage (s : RateLimited)
  | reset (s : RateLimited)

/-- What a call returns. -/
inductive RateLimiterAnswer where
  | allowed (b : Bool)
  | usage (n : ℕ)
  | nothing
deriving DecidableEq

/-- The mailbox that an operation is about. -/
def RateLimiterOperation.subject : RateLimiterOperation → RateLimited
  | .enforceQuota s _ => s
  | .getCurrentUsage s => s
  | .reset s => s

/-- The counters. -/
abbrev RateLimiter := String → Option ℕ

namespace RateLimiter

/-- The counters of a new adapter. -/
def initial : RateLimiter := fun _ => none

/-- `counters.get(key) || 0`. -/
def usage (c : RateLimiter) (key : String) : ℕ := (c key).getD 0

/-- The counters after an operation, and its answer. -/
def step (c : RateLimiter) : RateLimiterOperation → RateLimiter × RateLimiterAnswer
  | .enforceQuota s _ =>
    let current := c.usage s.key + 1
    (Function.update c s.key (some current), .allowed (s.allows current))
  | .getCurrentUsage s => (c, .usage (c.usage s.key))
  | .reset s => (Function.update c s.key none, .nothing)

/-- The answers about each mailbox, in the order of the operations. -/
def answers (c : RateLimiter) : List RateLimiterOperation → List (RateLimited × RateLimiterAnswer)
  | [] => []
  | op :: ops => (op.subject, (c.step op).2) :: answers (c.step op).1 ops

end RateLimiter

/-! ## Keys

A key joins platform, tenant and mailbox with colons. Without colons in the ids, different mailboxes have
different keys.
-/

/-- The characters of a key. -/
theorem RateLimited.toList_key (s : RateLimited) :
    s.key.toList = "ratelimit:".toList ++
      (s.platform.toList ++ ':' :: (s.tenantId.toList ++ ':' :: s.mailboxId.toList)) := by
  have hcolon : ":".toList = [':'] := rfl
  unfold key
  simp only [String.toList_append, hcolon, List.append_assoc, List.cons_append, List.nil_append]

/-- The key says which mailbox it is for. -/
theorem RateLimited.IsPlain.key_inj {s t : RateLimited} (hs : s.IsPlain) (ht : t.IsPlain)
    (h : s.key = t.key) : s = t := by
  have hlist := congrArg String.toList h
  rw [toList_key, toList_key] at hlist
  obtain ⟨hplatform, hrest⟩ := Js.append_separator_inj hs.1 ht.1 (List.append_cancel_left hlist)
  obtain ⟨htenant, hmailbox⟩ := Js.append_separator_inj hs.2 ht.2 hrest
  rw [String.toList_inj] at hplatform htenant hmailbox
  cases s
  cases t
  congr

/-! ## Mailboxes do not interfere

An operation changes the counter of one key. So the answers about a mailbox are those that its own
operations would get alone.
-/

namespace RateLimiter

variable {c d : RateLimiter} {s : RateLimited}

/-- The usage of a key is read off its counter alone. -/
theorem usage_congr {key : String} (h : c key = d key) : c.usage key = d.usage key := by
  rw [usage, usage, h]

/-- An operation answers from the counter of its own mailbox. -/
theorem step_congr {op : RateLimiterOperation} (h : c op.subject.key = d op.subject.key) :
    (c.step op).2 = (d.step op).2 ∧ (c.step op).1 op.subject.key = (d.step op).1 op.subject.key := by
  cases op with
  | enforceQuota s units =>
    have husage : c.usage s.key = d.usage s.key := usage_congr h
    unfold step RateLimiterOperation.subject
    dsimp only
    rw [husage, Function.update_self, Function.update_self]
    exact ⟨rfl, rfl⟩
  | getCurrentUsage s => exact ⟨congrArg RateLimiterAnswer.usage (usage_congr h), h⟩
  | reset s =>
    unfold step RateLimiterOperation.subject
    dsimp only
    rw [Function.update_self, Function.update_self]
    exact ⟨rfl, rfl⟩

/-- A call is counted, whatever it is answered. -/
theorem usage_enforceQuota (c : RateLimiter) (s : RateLimited) (units : ℚ) :
    (c.step (.enforceQuota s units)).1.usage s.key = c.usage s.key + 1 := by
  unfold step usage
  dsimp only
  rw [Function.update_self]
  rfl

/-- A reset starts the counter again. -/
theorem usage_reset (c : RateLimiter) (s : RateLimited) : (c.step (.reset s)).1.usage s.key = 0 := by
  unfold step usage
  dsimp only
  rw [Function.update_self]
  rfl

/-- An operation leaves the counters under other keys alone. -/
theorem step_of_ne {op : RateLimiterOperation} {key : String} (h : op.subject.key ≠ key) :
    (c.step op).1 key = c key := by
  cases op with
  | enforceQuota s units => exact Function.update_of_ne (Ne.symm h) _ _
  | getCurrentUsage s => rfl
  | reset s => exact Function.update_of_ne (Ne.symm h) _ _

/-- A mailbox whose platform and tenant id are plain. -/
abbrev PlainMailbox := { s : RateLimited // s.IsPlain }

/-- An operation on such a mailbox. -/
abbrev PlainOperation := { op : RateLimiterOperation // op.subject.IsPlain }

/-- The answers about a mailbox. -/
def answersAbout (s : RateLimited) (c : RateLimiter) (ops : List PlainOperation) :
    List (RateLimited × RateLimiterAnswer) :=
  (answers c (ops.map Subtype.val)).filter fun answer => answer.1 = s

/-- The operations on a mailbox. -/
def operationsOn (s : RateLimited) (ops : List PlainOperation) : List PlainOperation :=
  ops.filter fun op => op.1.subject = s

/-- An operation on the mailbox is answered, and then the others. -/
theorem answersAbout_cons_of_eq {op : PlainOperation} (h : op.1.subject = s) (c : RateLimiter)
    (ops : List PlainOperation) :
    answersAbout s c (op :: ops) = (s, (c.step op.1).2) :: answersAbout s (c.step op.1).1 ops := by
  unfold answersAbout
  rw [List.map_cons, answers, h, List.filter_cons, if_pos (decide_eq_true rfl)]

/-- An operation on another mailbox is left out, but changes the counters. -/
theorem answersAbout_cons_of_ne {op : PlainOperation} (h : op.1.subject ≠ s) (c : RateLimiter)
    (ops : List PlainOperation) :
    answersAbout s c (op :: ops) = answersAbout s (c.step op.1).1 ops := by
  unfold answersAbout
  rw [List.map_cons, answers, List.filter_cons, if_neg (by simpa using h)]

/-- From counters that agree on a mailbox, the operations on other mailboxes make no difference to it. -/
theorem answersAbout_congr (s : PlainMailbox) (h : c s.1.key = d s.1.key) (ops : List PlainOperation) :
    answersAbout s.1 c ops = answersAbout s.1 d (operationsOn s.1 ops) := by
  induction ops generalizing c d with
  | nil => rfl
  | cons op ops ih =>
    unfold operationsOn at ih ⊢
    by_cases hop : op.1.subject = s.1
    · rw [← hop] at h
      obtain ⟨hanswer, hcounter⟩ := step_congr h
      rw [hop] at hcounter
      rw [List.filter_cons, if_pos (decide_eq_true hop), answersAbout_cons_of_eq hop,
        answersAbout_cons_of_eq hop, hanswer, ih hcounter]
    · have hkey : op.1.subject.key ≠ s.1.key := fun heq => hop (op.2.key_inj s.2 heq)
      rw [List.filter_cons, if_neg (by simpa using hop), answersAbout_cons_of_ne hop]
      exact ih ((step_of_ne hkey).trans h)

/-- Without the operations on other mailboxes, the answers about a mailbox are the same. -/
theorem answers_filter (s : PlainMailbox) (c : RateLimiter) (ops : List PlainOperation) :
    answersAbout s.1 c ops = answersAbout s.1 c (operationsOn s.1 ops) :=
  answersAbout_congr s rfl ops

end RateLimiter

end EmailTriage.MailboxIngestion
