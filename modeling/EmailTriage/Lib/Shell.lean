import Mathlib.Data.List.DropRight
import EmailTriage.Lib.Effect

/-!
# Shell scripts

A `Script` runs under `set -euo pipefail` on a `World` of files and ends early with an exit status.
What an external command prints and returns is its `Outcome`; where its output goes is a `Sink`. A
command leaves its status as a result, and `errexit` ends the script where the status of a simple
command is not zero.

A name stands for a file of its own: links are left out. The script may create, write and remove the
files of the directories that are `writable`.

`Exits s r` says that a script has the result `r` in every world, `Spares path s` that it leaves a file
alone and `Leaves path content s` what it makes of one. Their rules go through a script command by
command.
-/

namespace Shell

open Js

structure World where
  files : String → Option String
  stdout : String
  stderr : String

/-- A script, which may end early with an exit status. -/
abbrev Script := EStateM ℕ World

/-- What an external command prints and returns. -/
structure Outcome where
  stdout : String
  stderr : String
  status : ℕ

/-- Where output goes. -/
inductive Sink
  | stdout
  | stderr
  | null
  | truncate (path : String)
  | append (path : String)

/-! ## Texts

The names of files and the texts of commands, as the shell takes them apart.
-/

/-- The lines of a text. -/
def lines (text : String) : List String :=
  let parts := text.toList.splitOn '\n'
  (if parts.getLast? = some [] then parts.dropLast else parts).map String.ofList

/-- What `$(…)` makes of an output. -/
def substituted (text : String) : String := String.ofList (text.toList.rdropWhile (· = '\n'))

/-- The value of a variable, or its default where it is unset or empty. -/
def orDefault (value default : String) : String := if value = "" then default else value

/-- The directory of a name, with its last slash. -/
def directory (path : String) : String := String.ofList (path.toList.rdropWhile (· ≠ '/'))

/-- A name that commands read as options. -/
def isOption (path : String) : Bool := path.toList.head? = some '-'

/-- A name with a suffix is another name. -/
theorem append_ne_self {suffix : String} (h : suffix ≠ "") (path : String) : path ++ suffix ≠ path :=
  fun heq => h (String.append_eq_left_iff.mp heq)

/-- A suffix without slashes leaves the directory of a name. -/
theorem directory_append {path suffix : String} (h : '/' ∉ suffix.toList) :
    directory (path ++ suffix) = directory path := by
  unfold directory
  rw [String.toList_append, List.rdropWhile, List.rdropWhile, List.reverse_append,
    List.dropWhile_append_of_pos]
  intro c hc
  rw [decide_eq_true_eq]
  rintro rfl
  exact h (List.mem_reverse.mp hc)

/-- A suffix that does not look like an option does not make one of a name. -/
theorem isOption_append {path suffix : String} (h : isOption suffix = false) :
    isOption (path ++ suffix) = isOption path := by
  unfold isOption at h ⊢
  rw [String.toList_append]
  rcases path.toList with _ | ⟨c, cs⟩
  · exact h
  · rfl

/-! ## Commands

Each command of the scripts as a function of the files and of what the external programs print and return.
Where the text of a command goes is decided by its redirections, which have to be opened first.
-/

namespace World

/-- The world with another file of the name, or without one. -/
def set (w : World) (path : String) (content : Option String) : World :=
  { w with files := fun path' => if path' = path then content else w.files path' }

/-- What is in the files after a write to one of them. -/
theorem files_set (w : World) (path : String) (content : Option String) (path' : String) :
    (w.set path content).files path' = if path' = path then content else w.files path' := rfl

end World

def exit {α : Type} (status : ℕ) : Script α := throw status

/-- A simple command that is not part of a condition. -/
def errexit (status : ℕ) : Script PUnit := if status = 0 then pure () else exit status

namespace Sink

variable (writable : String → Bool)

/-- The file behind a sink. -/
def path? : Sink → Option String
  | truncate path | append path => some path
  | stdout | stderr | null => none

/-- Whether a sink can be opened. -/
def opens (sink : Sink) : Bool := sink.path?.all fun path => writable (directory path)

/-- Opening a sink creates its file, and empties it where it is not appended to. -/
def create (sink : Sink) : Script PUnit :=
  match sink with
  | truncate path => modify fun w => w.set path (some "")
  | append path => modify fun w => w.set path (some ((w.files path).getD ""))
  | stdout | stderr | null => pure ()

def emit (text : String) : Sink → Script PUnit
  | stdout => modify fun w => { w with stdout := w.stdout ++ text }
  | stderr => modify fun w => { w with stderr := w.stderr ++ text }
  | null => pure ()
  | truncate path | append path => modify fun w => w.set path (some ((w.files path).getD "" ++ text))

end Sink

section

variable (writable : String → Bool)

/-- A command with its redirections; it is not run where one of them fails. -/
def run (command : Outcome) (out err : Sink) : Script ℕ :=
  -- the redirections are opened one after the other, so that a second one that fails comes too late for the
  -- file that the first one has emptied
  if out.opens writable then do
    out.create
    if err.opens writable then do
      err.create
      out.emit command.stdout
      err.emit command.stderr
      return command.status
    else return 1
  else return 1

/-- `echo` with a redirection. -/
def echoTo (text : String) (out : Sink) : Script ℕ := run writable ⟨text ++ "\n", "", 0⟩ out .stderr

/-- `echo text | tee` with the file of a sink. A name that begins with a dash is taken for an unknown
option. -/
def tee (text path : String) (sink : String → Sink) : Script ℕ :=
  if isOption path then return 1
  else do
    let status ← echoTo writable text (sink path)
    -- the text is copied to the terminal even where the file cannot be opened
    Sink.stdout.emit (text ++ "\n")
    return status

/-- `echo` with a redirection, as a simple command. -/
def record (text : String) (out : Sink) : Script PUnit := do
  errexit (← echoTo writable text out)

/-- `echo text | tee`, as a simple command. -/
def note (text path : String) (sink : String → Sink) : Script PUnit := do
  errexit (← tee writable text path sink)

/-- `rm -f` with a name that is no option. -/
def rm (path : String) : Script ℕ := do
  if (← get).files path = none then return 0
  else if writable (directory path) then do
    modify fun w => w.set path none
    return 0
  else return 1

end

def echo (text : String) : Script PUnit := Sink.stdout.emit (text ++ "\n")

def echoError (text : String) : Script PUnit := Sink.stderr.emit (text ++ "\n")

/-- A part of a script without effects. -/
def orExit {α : Type} : Except ℕ α → Script α
  | .ok a => pure a
  | .error n => exit n

/-- `[ -f path ]`. -/
def isFile (path : String) : Script Bool := return ((← get).files path).isSome

/-- `[ -s path ]`. -/
def isNonEmpty (path : String) : Script Bool := return ((← get).files path).any (· ≠ "")

/-! ## How a script ends

`Exits` goes through a script from command to command: a script under `errexit` ends at the first simple
command that fails.
-/

section

variable {α β : Type} {s : Script α} {f : α → Script β} {a : α} {n : ℕ} {r : Except ℕ β} {w : World}

/-- The result of a script, or the status it ends early with. -/
def result (s : Script α) (w : World) : Except ℕ α :=
  match s w with
  | .ok a _ => .ok a
  | .error n _ => .error n

/-- The exit status of a script. -/
def exitStatus (s : Script α) (w : World) : ℕ :=
  match result s w with
  | .ok _ => 0
  | .error n => n

/-- A run that goes on is known by its result and by the world after it. -/
theorem eq_ok_iff {w' : World} : s w = .ok a w' ↔ result s w = .ok a ∧ after s w = w' := by
  unfold result after
  rcases s w with ⟨a', w₁⟩ | ⟨n', w₁⟩ <;> simp

/-- A run that ends early is known by its status and by the world after it. -/
theorem eq_error_iff {w' : World} : s w = .error n w' ↔ result s w = .error n ∧ after s w = w' := by
  unfold result after
  rcases s w with ⟨a', w₁⟩ | ⟨n', w₁⟩ <;> simp

/-- A script that goes on has the result of the rest of it. -/
theorem result_bind_of_ok (h : result s w = .ok a) : result (s >>= f) w = result (f a) (after s w) := by
  unfold result
  rw [bind_of_ok (eq_ok_iff.mpr ⟨h, rfl⟩)]

/-- A script that goes on leaves the world that the rest of it leaves. -/
theorem after_bind (h : result s w = .ok a) : after (s >>= f) w = after (f a) (after s w) :=
  after_bind_of_ok (eq_ok_iff.mpr ⟨h, rfl⟩) f

/-- A script that has ended early does not get to the rest of it. -/
theorem result_bind_of_error (h : result s w = .error n) : result (s >>= f) w = .error n := by
  unfold result
  rw [bind_of_error (eq_error_iff.mpr ⟨h, rfl⟩)]

/-- What has ended early leaves the world as it is then. -/
theorem after_bind_error (h : result s w = .error n) : after (s >>= f) w = after s w :=
  after_bind_of_error (eq_error_iff.mpr ⟨h, rfl⟩) f

/-- In every world a script has the same result. -/
def Exits (s : Script α) (r : Except ℕ α) : Prop := ∀ w, result s w = r

/-- A value is the result in every world. -/
theorem Exits.pure (a : α) : Exits (Pure.pure a) (.ok a) := fun _ => rfl

/-- `exit` ends the script with its status. -/
theorem exits_exit (n : ℕ) : Exits (exit n : Script α) (.error n) := fun _ => rfl

/-- A change of the world does not end the script. -/
theorem exits_modify (g : World → World) : Exits (modify g) (.ok ⟨⟩) := fun _ => rfl

/-- A command that succeeds does not end the script. -/
theorem exits_errexit {status : ℕ} (h : status = 0) : Exits (errexit status) (.ok ⟨⟩) := by
  rw [errexit, if_pos h]
  exact .pure _

/-- The status of a command that fails is the one of the script. -/
theorem exits_errexit_ne {status : ℕ} (h : status ≠ 0) : Exits (errexit status) (.error status) := by
  rw [errexit, if_neg h]
  exact exits_exit _

/-- A script has the result of its rest, where the first part goes on. -/
theorem Exits.bind (hs : Exits s (.ok a)) (hf : Exits (f a) r) : Exits (s >>= f) r :=
  fun w => (result_bind_of_ok (hs w)).trans (hf _)

/-- A script ends early where its first part does. -/
theorem Exits.bind_error (hs : Exits s (.error n)) : Exits (s >>= f) (.error n) :=
  fun w => result_bind_of_error (hs w)

/-- In every world a script ends early with the same failure. -/
def Fails (s : Script α) : Prop := ∃ n, n ≠ 0 ∧ Exits s (.error n)

/-- `exit` with a status other than zero is a failure. -/
theorem fails_exit {n : ℕ} (h : n ≠ 0) : Fails (exit n : Script α) := ⟨n, h, exits_exit n⟩

/-- A command that fails makes the script fail. -/
theorem fails_errexit {status : ℕ} (h : status ≠ 0) : Fails (errexit status) :=
  ⟨status, h, exits_errexit_ne h⟩

/-- A script fails where its first part does. -/
theorem Fails.bind (hs : Fails s) : Fails (s >>= f) := by
  obtain ⟨n, hn, hexits⟩ := hs
  exact ⟨n, hn, hexits.bind_error⟩

/-- A script fails where a part fails that it gets to. -/
theorem Exits.bind_fails (hs : Exits s (.ok a)) (hf : Fails (f a)) : Fails (s >>= f) := by
  obtain ⟨n, hn, hexits⟩ := hf
  exact ⟨n, hn, hs.bind hexits⟩

/-- A script that fails has an exit status other than zero. -/
theorem Fails.exitStatus_ne_zero (hs : Fails s) (w : World) : exitStatus s w ≠ 0 := by
  obtain ⟨n, hn, hexits⟩ := hs
  unfold exitStatus
  rw [hexits w]
  exact hn

end

section

variable {writable : String → Bool} {command : Outcome} {out err : Sink}

/-- Opening a redirection has no status of its own. -/
theorem exits_create (sink : Sink) : Exits sink.create (.ok ⟨⟩) := by
  cases sink <;> exact fun _ => rfl

/-- Writing to a redirection that is open has no status of its own. -/
theorem exits_emit (text : String) (sink : Sink) : Exits (sink.emit text) (.ok ⟨⟩) := by
  cases sink <;> exact fun _ => rfl

/-- `echo` goes on. -/
theorem exits_echo (text : String) : Exits (echo text) (.ok ⟨⟩) := exits_emit _ _

/-- So does `echo` to the standard error. -/
theorem exits_echoError (text : String) : Exits (echoError text) (.ok ⟨⟩) := exits_emit _ _

/-- A command whose redirections can be opened returns its own status. -/
theorem exits_run (command : Outcome) (out err : Sink) (hout : out.opens writable = true)
    (herr : err.opens writable = true) : Exits (run writable command out err) (.ok command.status) := by
  unfold run
  rw [if_pos hout, if_pos herr]
  exact (exits_create out).bind <| (exits_create err).bind <| (exits_emit _ out).bind <|
    (exits_emit _ err).bind <| .pure _

/-- `echo` to a file that can be opened succeeds. -/
theorem exits_echoTo {text : String} (hout : out.opens writable = true) :
    Exits (echoTo writable text out) (.ok 0) :=
  exits_run _ out .stderr hout rfl

/-- `echo` to a file that cannot be opened does not. -/
theorem exits_echoTo_of_not {text : String} (hout : out.opens writable = false) :
    Exits (echoTo writable text out) (.ok 1) := by
  unfold echoTo run
  rw [if_neg (Bool.eq_false_iff.mp hout)]
  exact .pure _

/-- `tee` succeeds with a name that is no option and can be opened. -/
theorem exits_tee {text path : String} {sink : String → Sink} (hoption : isOption path = false)
    (hsink : (sink path).opens writable = true) : Exits (tee writable text path sink) (.ok 0) := by
  unfold tee
  rw [if_neg (Bool.eq_false_iff.mp hoption)]
  exact (exits_echoTo hsink).bind <| (exits_emit _ _).bind <| .pure _

/-- `tee` does not succeed with an option, or with a name that cannot be opened. -/
theorem exits_tee_of_not {text path : String} {sink : String → Sink}
    (h : isOption path = true ∨ (sink path).opens writable = false) :
    Exits (tee writable text path sink) (.ok 1) := by
  unfold tee
  by_cases hoption : isOption path = true
  · rw [if_pos hoption]
    exact .pure _
  · rw [if_neg hoption]
    exact (exits_echoTo_of_not (h.resolve_left hoption)).bind <| (exits_emit _ _).bind <| .pure _

/-- A line is logged where the log can be opened. -/
theorem exits_record {text : String} (hout : out.opens writable = true) :
    Exits (record writable text out) (.ok ⟨⟩) :=
  (exits_echoTo hout).bind (exits_errexit rfl)

/-- A script that cannot open its log ends there. -/
theorem exits_record_of_not {text : String} (hout : out.opens writable = false) :
    Exits (record writable text out) (.error 1) :=
  (exits_echoTo_of_not hout).bind (exits_errexit_ne Nat.one_ne_zero)

/-- A line is printed and logged where the log is no option and can be opened. -/
theorem exits_note {text path : String} {sink : String → Sink} (hoption : isOption path = false)
    (hsink : (sink path).opens writable = true) : Exits (note writable text path sink) (.ok ⟨⟩) :=
  (exits_tee hoption hsink).bind (exits_errexit rfl)

/-- A script that cannot hand its log to `tee` ends there. -/
theorem exits_note_of_not {text path : String} {sink : String → Sink}
    (h : isOption path = true ∨ (sink path).opens writable = false) :
    Exits (note writable text path sink) (.error 1) :=
  (exits_tee_of_not h).bind (exits_errexit_ne Nat.one_ne_zero)

/-- What is known already is the result in every world. -/
theorem exits_orExit {α : Type} (r : Except ℕ α) : Exits (orExit r) r := by
  cases r with
  | ok a => exact .pure a
  | error n => exact exits_exit n

/-- `rm -f` removes a file of a directory that is writable. -/
theorem exits_rm {path : String} (h : writable (directory path) = true) :
    Exits (rm writable path) (.ok 0) := by
  intro w
  unfold rm
  rw [result_bind_of_ok (a := w) rfl]
  split_ifs <;> rfl

end

/-- Where a script returns, its result has a property. -/
def Yields {α : Type} (P : α → Prop) (s : Script α) : Prop := ∀ w a, result s w = .ok a → P a

section

variable {α β : Type} {P : β → Prop} {s : Script α} {f : α → Script β}

/-- A value has what is known of it. -/
theorem Yields.pure {b : β} (h : P b) : Yields P (Pure.pure b) := fun _ _ hb => Except.ok.inj hb ▸ h

/-- A script that ends early has no value. -/
theorem yields_exit (n : ℕ) : Yields P (exit n) := fun _ _ h => nomatch h

/-- What is known of the values of the rest is known of the whole script. -/
theorem Yields.bind (hf : ∀ a, Yields P (f a)) : Yields P (s >>= f) := by
  intro w b hb
  rcases hresult : result s w with n | a
  · rw [result_bind_of_error hresult] at hb
    cases hb
  · rw [result_bind_of_ok hresult] at hb
    exact hf a _ _ hb

end

/-! ## What becomes of a file

`Spares` says that no command of a script touches a file, whatever the commands return, and `Leaves` what
the file has in the end.
-/

section

variable {α β : Type} {path : String} {s : Script α} {f : α → Script β}

/-- A script leaves a file alone. -/
def Spares (path : String) (s : Script α) : Prop := Keeps (fun w => w.files path) s

/-- A value leaves every file alone. -/
theorem Spares.pure (a : α) : Spares path (Pure.pure a) := fun _ => rfl

/-- `exit` leaves every file alone. -/
theorem spares_exit (n : ℕ) : Spares path (exit n : Script α) := fun _ => rfl

/-- So does the test of a status. -/
theorem spares_errexit (status : ℕ) : Spares path (errexit status) := by
  unfold errexit
  split_ifs
  · exact .pure _
  · exact spares_exit _

/-- A change of the world that leaves the file alone. -/
theorem spares_modify {g : World → World} (h : ∀ w, (g w).files path = w.files path) :
    Spares path (modify g) := h

/-- Two parts that leave the file alone, one after the other. -/
theorem Spares.bind (hs : Spares path s) (hf : ∀ a, Spares path (f a)) : Spares path (s >>= f) :=
  Keeps.bind hs fun _ a w' _ => hf a w'

/-- The second part need only leave the file alone after the results of the first. -/
theorem Spares.bind_yields {P : α → Prop} (hs : Spares path s) (hresult : Yields P s)
    (hf : ∀ a, P a → Spares path (f a)) : Spares path (s >>= f) :=
  Keeps.bind hs fun w a w' h => hf a (hresult w a (eq_ok_iff.mp h).1) w'

/-- Where the result of the first part is known, the second part need only leave the file alone after
it. -/
theorem Spares.bind_exits {a : α} (hs : Spares path s) (hresult : Exits s (.ok a))
    (hf : Spares path (f a)) : Spares path (s >>= f) :=
  hs.bind_yields (fun w _ h => Except.ok.inj ((hresult w).symm.trans h)) fun _ h => h ▸ hf

/-- What comes after the end of a script does not matter. -/
theorem Spares.bind_error {n : ℕ} (hs : Spares path s) (hresult : Exits s (.error n)) :
    Spares path (s >>= f) := by
  intro w
  rw [after_bind_error (hresult w)]
  exact hs w

/-- Two branches that leave the file alone. -/
theorem Spares.ite {c : Prop} [Decidable c] {s' : Script α} (hs : Spares path s)
    (hs' : Spares path s') : Spares path (if c then s else s') := by
  split_ifs
  · exact hs
  · exact hs'

variable {writable : String → Bool} {command : Outcome} {out err sink : Sink} {text : String}

/-- Opening a redirection to another file leaves the file alone. -/
theorem spares_create (h : sink.path? ≠ some path) : Spares path sink.create := by
  cases sink with
  | truncate path' => exact spares_modify fun w => if_neg fun heq => h (congrArg some heq.symm)
  | append path' => exact spares_modify fun w => if_neg fun heq => h (congrArg some heq.symm)
  | stdout => exact .pure _
  | stderr => exact .pure _
  | null => exact .pure _

/-- So does writing to one. -/
theorem spares_emit (text : String) (sink : Sink) (h : sink.path? ≠ some path) :
    Spares path (sink.emit text) := by
  cases sink with
  | truncate path' => exact spares_modify fun w => if_neg fun heq => h (congrArg some heq.symm)
  | append path' => exact spares_modify fun w => if_neg fun heq => h (congrArg some heq.symm)
  | stdout => exact spares_modify fun _ => rfl
  | stderr => exact spares_modify fun _ => rfl
  | null => exact .pure _

/-- `echo` writes to no file. -/
theorem spares_echo (text : String) : Spares path (echo text) := spares_emit _ .stdout nofun

/-- Nor does `echo` to the standard error. -/
theorem spares_echoError (text : String) : Spares path (echoError text) :=
  spares_emit _ .stderr nofun

/-- A command writes only the files its output goes to. -/
theorem spares_run (command : Outcome) (out err : Sink) (hout : out.path? ≠ some path)
    (herr : err.path? ≠ some path) : Spares path (run writable command out err) := by
  unfold run
  refine .ite ((spares_create hout).bind fun _ => .ite ?_ (.pure _)) (.pure _)
  exact (spares_create herr).bind fun _ => (spares_emit _ out hout).bind fun _ =>
    (spares_emit _ err herr).bind fun _ => .pure _

/-- `echo` into another file leaves the file alone. -/
theorem spares_echoTo (hout : out.path? ≠ some path) : Spares path (echoTo writable text out) :=
  spares_run _ out .stderr hout nofun

/-- So does `tee` with another file. -/
theorem spares_tee {path' : String} {sink : String → Sink} (h : (sink path').path? ≠ some path) :
    Spares path (tee writable text path' sink) := by
  unfold tee
  refine .ite (.pure _) ((spares_echoTo h).bind fun _ => ?_)
  exact (spares_emit _ .stdout nofun).bind fun _ => .pure _

/-- Logging to another file leaves the file alone. -/
theorem spares_record (hout : out.path? ≠ some path) : Spares path (record writable text out) :=
  (spares_echoTo hout).bind fun _ => spares_errexit _

/-- So does printing and logging. -/
theorem spares_note {path' : String} {sink : String → Sink} (h : (sink path').path? ≠ some path) :
    Spares path (note writable text path' sink) :=
  (spares_tee h).bind fun _ => spares_errexit _

/-- What is known already changes no file. -/
theorem spares_orExit (r : Except ℕ α) : Spares path (orExit r) := by
  cases r with
  | ok a => exact .pure a
  | error n => exact spares_exit n

/-- Removing another file leaves the file alone. -/
theorem spares_rm {path' : String} (h : path' ≠ path) : Spares path (rm writable path') := by
  unfold rm
  refine Spares.bind (fun _ => rfl) fun w => .ite (.pure _) (.ite ?_ (.pure _))
  exact (spares_modify fun w => if_neg h.symm).bind fun _ => .pure _

/-- Looking at a file changes none. -/
theorem spares_isNonEmpty (path' : String) : Spares path (isNonEmpty path') := fun _ => rfl

/-- A script leaves a file with a content, or without the file. -/
def Leaves (path : String) (content : Option String) (s : Script α) : Prop :=
  ∀ w, (after s w).files path = content

variable {content : Option String}

/-- A script leaves what its last part leaves of the file. -/
theorem Leaves.bind {a : α} (hresult : Exits s (.ok a)) (hf : Leaves path content (f a)) :
    Leaves path content (s >>= f) := by
  intro w
  rw [after_bind (hresult w)]
  exact hf _

/-- What an ending script has left of the file stays. -/
theorem Leaves.bind_error {n : ℕ} (hs : Leaves path content s) (hresult : Exits s (.error n)) :
    Leaves path content (s >>= f) := by
  intro w
  rw [after_bind_error (hresult w)]
  exact hs w

/-- What a first part leaves of the file stays where the rest leaves the file alone. -/
theorem Leaves.bind_spares (hs : Leaves path content s) (hf : ∀ a, Spares path (f a)) :
    Leaves path content (s >>= f) := by
  intro w
  rcases hresult : result s w with n | a
  · rw [after_bind_error hresult]
    exact hs w
  · rw [after_bind hresult]
    exact (hf a _).trans (hs w)

/-- `rm` leaves no file, where it may remove files. -/
theorem leaves_rm (h : writable (directory path) = true) : Leaves path none (rm writable path) := by
  intro w
  unfold rm
  rw [after_bind (a := w) rfl]
  split_ifs with hnone
  · exact hnone
  · exact (World.files_set _ _ _ _).trans (if_pos rfl)

/-- A command whose output goes to a file leaves the file with its output. -/
theorem leaves_run (hout : writable (directory path) = true) (hopens : err.opens writable = true)
    (herr : err.path? ≠ some path) :
    Leaves path (some command.stdout) (run writable command (.truncate path) err) := by
  intro w
  have hempty : (after (Sink.truncate path).create w).files path = some "" := if_pos rfl
  unfold run
  rw [if_pos (show (Sink.truncate path).opens writable = true from hout), if_pos hopens,
    after_bind (exits_create _ w), after_bind (exits_create _ _), after_bind (exits_emit _ _ _)]
  -- what comes after the output leaves the file alone, and so does opening the other sink before it
  refine Eq.trans (Spares.bind (spares_emit _ err herr) (fun _ => Spares.pure _) _) ?_
  have hopened := (spares_create herr _).trans hempty
  refine (World.files_set _ _ _ _).trans ((if_pos rfl).trans ?_)
  rw [show (after err.create (after (Sink.truncate path).create w)).files path = some "" from hopened]
  exact congrArg some String.empty_append

end

end Shell
