import EmailTriage.Scripts.PostgresContainer

/-!
# Backing up the database

`scripts/backup-database.sh`. `pg_dump` runs in a container or, where that is not possible or fails,
directly, and both write `BACKUP_FILE`. `BACKUP_SUCCEEDED` records whether one of them has succeeded,
but what the script then looks at is whether the file has a content, and a dump that breaks off has
written a part of it.

What the commands return is part of a `Setting`, and so are the files that `find` deletes.

## The shape of the argument

The script is a computation in which every command may fail, and there are three kinds of facts about
its parts: which files a part leaves alone (`Spares`), how it ends (`Exits`, `Fails`), and what it
leaves in a file (`Leaves`). Each part of the script has lemmas of these kinds and is not opened again.
What is reported and not complete is the case that `ReportsPartial` describes: both dumps have failed,
the last one after a part of its output, and everything behind them goes through.
-/

namespace EmailTriage.BackupDatabase

open Js Shell

/-- What a run of the script meets. -/
structure Setting where
  /-- The environment; a variable that is unset is empty. -/
  env : String → String
  /-- The directories the script may write. -/
  writable : String → Bool
  docker : Docker
  mkdir : Outcome
  /-- `$(date +%Y%m%d_%H%M%S)`. -/
  timestamp : String
  dockerDump : Outcome
  directDump : Outcome
  /-- `$(du -h "$BACKUP_FILE" | cut -f1)`. -/
  backupSize : String
  /-- `command -v gpg`. -/
  hasGpg : Bool
  gpg : Outcome
  /-- The encrypted file that `gpg` writes, if it gets to writing one. -/
  encrypted : Option String
  /-- `command -v aws`. -/
  hasAws : Bool
  aws : Outcome
  find : Outcome
  /-- The files that `find` deletes. -/
  expired : String → Bool

/-- `tail -n` of a text. -/
def tail (n : ℕ) (text : String) : String :=
  let parts := text.toList.splitOn '\n'
  let kept := if parts.getLast? = some [] then n + 1 else n
  String.ofList (['\n'].intercalate (parts.drop (parts.length - kept)))

def basename (path : String) : String := String.ofList (path.toList.rtakeWhile (· ≠ '/'))

namespace Setting

variable (c : Setting)

def backupDir : String := orDefault (c.env "BACKUP_DIR") "./backups"

def dbHost : String := orDefault (c.env "DATABASE_HOST") "localhost"

def dbPort : String := orDefault (c.env "DATABASE_PORT") "5432"

def dbName : String := orDefault (c.env "DATABASE_NAME") "email_triage"

def backupRetentionDays : String := orDefault (c.env "BACKUP_RETENTION_DAYS") "30"

def backupFile : String := c.backupDir ++ "/backup_" ++ c.dbName ++ "_" ++ c.timestamp ++ ".sql"

def backupLog : String := c.backupFile ++ ".log"

def encryptedFile : String := c.backupFile ++ ".gpg"

/-- The container the backup uses, if it uses one. -/
def backupContainer : Except ℕ (Option String) := container c.dbHost (c.env "DOCKER_CONTAINER_ID") c.docker

/-- `echo text | tee -a "$BACKUP_LOG"`. -/
def logged (text : String) : Script PUnit := note c.writable text c.backupLog .append

/-- A command whose errors are logged. -/
def runLogged (command : Outcome) (out : Sink) : Script ℕ := run c.writable command out (.append c.backupLog)

def start : Script PUnit := do
  errexit (← run c.writable c.mkdir .stdout .stderr)
  echo ("Starting database backup for " ++ c.dbName ++ "...")
  record c.writable ("Timestamp: " ++ c.timestamp) (.truncate c.backupLog)
  record c.writable ("Host: " ++ c.dbHost ++ ":" ++ c.dbPort) (.append c.backupLog)

def backupViaDocker (containerId : String) : Script ℕ := do
  -- in a condition, where the function is called, an `echo` that fails does not end the script
  let _ ← echoTo c.writable ("Using Docker container " ++ containerId ++ " for backup...")
    (.append c.backupLog)
  c.runLogged c.dockerDump (.truncate c.backupFile)

def backupViaDirect : Script ℕ := c.runLogged c.directDump (.truncate c.backupFile)

/-- `BACKUP_SUCCEEDED` after the attempt with Docker. -/
def tryDocker : Script Bool := do
  match ← orExit c.backupContainer with
  | none => return false
  | some containerId =>
    let status ← c.backupViaDocker containerId
    if status = 0 then return true
    else
      record c.writable "Docker backup failed, trying direct connection..." (.append c.backupLog)
      return false

/-- `BACKUP_SUCCEEDED` after the attempt without Docker, which is not made where it is set already. -/
def tryDirect (succeeded : Bool) : Script Bool :=
  if succeeded then pure true
  else do
    let status ← c.backupViaDirect
    return status = 0

/-- The part of the script that writes `BACKUP_FILE`. -/
def makeBackup : Script Bool := do
  c.start
  let succeeded ← c.tryDocker
  c.tryDirect succeeded

/-- Whether `BACKUP_FILE` has a content then; `BACKUP_SUCCEEDED` is not looked at again. -/
def checkBackup : Script Bool := do
  let _ ← c.makeBackup
  isNonEmpty c.backupFile

def symmetricGpg : Script ℕ := do
  let status ← c.runLogged c.gpg .stdout
  modify fun w => c.encrypted.elim w fun text => w.set c.encryptedFile (some text)
  return status

/-- The encryption, and `BACKUP_FILE` after it. -/
def encrypt : Script String :=
  if c.env "ENCRYPT" = "true" then
    if c.hasGpg then
      if c.env "GPG_PASSPHRASE" = "" then do
        echoError "✗ GPG_PASSPHRASE not set for encryption"
        exit 1
      else do
        errexit (← c.symmetricGpg)
        -- the file is there, so that `rm` does what `rm -f` does
        errexit (← rm c.writable c.backupFile)
        c.logged ("✓ Backup encrypted: " ++ c.encryptedFile)
        return c.encryptedFile
    else do
      c.logged "⚠ gpg not found, skipping encryption"
      return c.backupFile
  else return c.backupFile

def upload (backupFile : String) : Script PUnit :=
  let bucket := c.env "AWS_S3_BUCKET"
  if c.env "UPLOAD_S3" = "true" ∧ bucket ≠ "" then
    if c.hasAws then do
      let status ← c.runLogged c.aws .stdout
      if status = 0 then
        c.logged ("✓ Backup uploaded to S3: s3://" ++ bucket ++ "/backups/" ++ basename backupFile)
      else do
        echoError "✗ Failed to upload to S3"
        exit 1
    else c.logged "⚠ aws CLI not found, skipping S3 upload"
  else pure ()

/-- What comes before the retention. -/
def deliver : Script PUnit := do
  -- `du` takes a name that begins with a dash for an unknown option
  errexit (if isOption c.backupFile then 1 else 0)
  c.logged ("✓ Backup successful: " ++ c.backupFile ++ " (" ++ c.backupSize ++ ")")
  let backupFile ← c.encrypt
  c.upload backupFile

/-- The retention policy. -/
def cleanUp : Script PUnit := do
  echo ("Cleaning up backups older than " ++ c.backupRetentionDays ++ " days...")
  modify fun w => { w with files := fun path => if c.expired path then none else w.files path }
  errexit (← run c.writable c.find .stdout .stderr)

def succeed : Script PUnit := do
  c.deliver
  c.cleanUp
  echo "✓ Backup operation completed successfully"
  exit 0

def fail : Script PUnit := do
  echoError "✗ Backup failed - file is empty, check logs for pg_dump errors:"
  let log := ((← get).files c.backupLog).getD ""
  Sink.stderr.emit (tail 20 log)
  exit 1

end Setting

/-- The script. -/
def backupDatabase (c : Setting) : Script PUnit := do
  if ← c.checkBackup then c.succeed else c.fail

/-! ## Other files

Part by part, a run leaves every file alone that is not one of its own, but for what the retention
deletes.
-/

namespace Setting

/-- A file that is not written by the run itself. -/
def IsOlder (c : Setting) (path : String) : Prop :=
  path ≠ c.backupFile ∧ path ≠ c.backupLog ∧ path ≠ c.encryptedFile

section

variable {c : Setting} {path : String}

/-- A log line goes to the log of the run, not to an older file. -/
theorem spares_logged (h : c.IsOlder path) (text : String) : Spares path (c.logged text) :=
  spares_note fun heq => h.2.1 (Option.some.inj heq).symm

/-- A command whose output goes elsewhere writes its errors to the log only. -/
theorem spares_runLogged (h : c.IsOlder path) (command : Outcome) (out : Sink)
    (hout : out.path? ≠ some path) : Spares path (c.runLogged command out) :=
  spares_run _ _ _ hout fun heq => h.2.1 (Option.some.inj heq).symm

/-- A dump goes to the backup file of the run. -/
theorem spares_dump (h : c.IsOlder path) (command : Outcome) :
    Spares path (c.runLogged command (.truncate c.backupFile)) :=
  spares_runLogged h command _ fun heq => h.1 (Option.some.inj heq).symm

/-- A line that is logged without being printed. -/
theorem spares_log (h : c.IsOlder path) (text : String) :
    Spares path (record c.writable text (.append c.backupLog)) :=
  spares_record fun heq => h.2.1 (Option.some.inj heq).symm

/-- Making the backup leaves older files alone, whichever way it is made. -/
theorem spares_makeBackup (h : c.IsOlder path) : Spares path c.makeBackup := by
  refine Spares.bind ?_ fun _ => Spares.bind ?_ fun succeeded => ?_
  · refine (spares_run _ .stdout .stderr nofun nofun).bind fun _ =>
      (spares_errexit _).bind fun _ => (spares_echo _).bind fun _ => Spares.bind ?_ fun _ => spares_log h _
    exact spares_record fun heq => h.2.1 (Option.some.inj heq).symm
  · refine (spares_orExit _).bind fun container => ?_
    cases container with
    | none => exact .pure _
    | some containerId =>
      refine Spares.bind ?_ fun status => .ite (.pure _) ?_
      · exact Spares.bind (spares_echoTo fun heq => h.2.1 (Option.some.inj heq).symm) fun _ =>
          spares_dump h _
      · exact (spares_log h _).bind fun _ => .pure _
  · exact .ite (.pure _) ((spares_dump h _).bind fun _ => .pure _)

/-- Testing the backup adds nothing to that. -/
theorem spares_checkBackup (h : c.IsOlder path) : Spares path c.checkBackup :=
  (spares_makeBackup h).bind fun _ => spares_isNonEmpty _

/-- Encryption writes the encrypted file and removes the backup file, both of this run. -/
theorem spares_encrypt (h : c.IsOlder path) : Spares path c.encrypt := by
  refine .ite (.ite (.ite ?_ ?_) ?_) (.pure _)
  · exact (spares_echoError _).bind fun _ => spares_exit _
  · refine Spares.bind ?_ fun _ => (spares_errexit _).bind fun _ => (spares_rm h.1.symm).bind fun _ =>
      (spares_errexit _).bind fun _ => (spares_logged h _).bind fun _ => .pure _
    refine (spares_runLogged h _ .stdout nofun).bind fun _ => Spares.bind
      (spares_modify fun w => ?_) fun _ =>
      .pure _
    cases c.encrypted with
    | none => rfl
    | some text => exact if_neg h.2.2
  · exact (spares_logged h _).bind fun _ => .pure _

/-- The upload reads the backup and writes to the log. -/
theorem spares_upload (h : c.IsOlder path) (backupFile : String) : Spares path (c.upload backupFile) := by
  refine .ite (.ite ?_ (spares_logged h _)) (.pure _)
  refine (spares_runLogged h _ .stdout nofun).bind fun _ => .ite (spares_logged h _) ?_
  exact (spares_echoError _).bind fun _ => spares_exit _

/-- Encryption and upload leave older files alone. -/
theorem spares_deliver (h : c.IsOlder path) : Spares path c.deliver :=
  (spares_errexit _).bind fun _ => (spares_logged h _).bind fun _ => (spares_encrypt h).bind fun _ =>
    spares_upload h _

/-- The failing end of the script prints the end of the log and writes no file. -/
theorem spares_fail : Spares path c.fail :=
  (spares_echoError _).bind fun _ => Spares.bind (fun _ => rfl) fun _ =>
    (spares_emit _ .stderr nofun).bind fun _ => spares_exit _

/-- The retention deletes what `find` takes for expired and nothing else. -/
theorem spares_succeed (h : c.IsOlder path) (hexpired : c.expired path = false) : Spares path c.succeed := by
  refine (spares_deliver h).bind fun _ => Spares.bind ?_ fun _ => (spares_echo _).bind fun _ => spares_exit _
  refine (spares_echo _).bind fun _ => Spares.bind (spares_modify fun w => ?_) fun _ =>
    (spares_run _ .stdout .stderr nofun nofun).bind fun _ => spares_errexit _
  exact if_neg (Bool.eq_false_iff.mp hexpired)

/-- A run deletes no older file that has not expired. -/
theorem spares_backupDatabase (h : c.IsOlder path) (hexpired : c.expired path = false) :
    Spares path (backupDatabase c) :=
  (spares_checkBackup h).bind fun _ => .ite (spares_succeed h hexpired) spares_fail

end

/-! ## How the parts of the script end

The parts in the order of the script, each with the conditions under which it goes on.
-/

section

variable {c : Setting}

/-- The script gets to the dumps. -/
def Starts (c : Setting) : Prop := c.mkdir.status = 0 ∧ c.writable (directory c.backupFile) = true

instance : Decidable c.Starts := inferInstanceAs (Decidable (_ ∧ _))

/-- A script that starts can write its log, which is next to the backup file. -/
theorem Starts.opens (h : c.Starts) : (Sink.append c.backupLog).opens c.writable = true := by
  change c.writable (directory (c.backupFile ++ ".log")) = true
  rw [directory_append (by decide)]
  exact h.2

/-- The beginning of a script that starts. -/
theorem exits_start (h : c.Starts) : Exits c.start (.ok ⟨⟩) := by
  unfold start
  refine (exits_run c.mkdir .stdout .stderr rfl rfl).bind <| (exits_errexit h.1).bind <|
    (exits_echo _).bind <| .bind (exits_record ?_) (exits_record h.opens)
  exact h.opens

/-- A script that does not start ends with a failure. -/
theorem fails_start (h : ¬ c.Starts) : Fails c.start := by
  unfold start
  refine (exits_run c.mkdir .stdout .stderr rfl rfl).bind_fails ?_
  by_cases hmkdir : c.mkdir.status = 0
  · refine (exits_errexit hmkdir).bind_fails <| (exits_echo _).bind_fails <| Fails.bind ?_
    refine ⟨1, Nat.one_ne_zero, exits_record_of_not (Bool.eq_false_iff.mpr fun hopens => h ⟨hmkdir, ?_⟩)⟩
    change c.writable (directory (c.backupFile ++ ".log")) = true at hopens
    rw [directory_append (by decide)] at hopens
    exact hopens
  · exact (fails_errexit hmkdir).bind

/-- A script that starts can print and log, if its log does not look like an option. -/
theorem exits_logged (h : c.Starts) (hname : isOption c.backupFile = false) (text : String) :
    Exits (c.logged text) (.ok ⟨⟩) :=
  exits_note ((isOption_append (by decide)).trans hname) h.opens

/-- A logged command returns its own status. -/
theorem exits_runLogged (h : c.Starts) (command : Outcome) (out : Sink)
    (hout : out.opens c.writable = true) : Exits (c.runLogged command out) (.ok command.status) :=
  exits_run _ _ _ hout h.opens

/-- A dump returns the status of the command. -/
theorem exits_dump (h : c.Starts) (dump : Outcome) :
    Exits (c.runLogged dump (.truncate c.backupFile)) (.ok dump.status) :=
  exits_runLogged h dump _ h.2

/-- A dump leaves what it has printed in the backup file, whether it succeeds or not. -/
theorem leaves_dump (h : c.Starts) (dump : Outcome) :
    Leaves c.backupFile (some dump.stdout) (c.runLogged dump (.truncate c.backupFile)) := by
  refine leaves_run h.2 h.opens fun heq => ?_
  exact append_ne_self (by decide) c.backupFile (Option.some.inj heq)

/-- A dump in a container returns the status of the command in the container. -/
theorem exits_backupViaDocker (h : c.Starts) (containerId : String) :
    Exits (c.backupViaDocker containerId) (.ok c.dockerDump.status) :=
  (exits_echoTo h.opens).bind (exits_dump h _)

/-- The attempt with Docker. -/
theorem exits_tryDocker (h : c.Starts) :
    Exits c.tryDocker (c.backupContainer.map fun container =>
      container.isSome && decide (c.dockerDump.status = 0)) := by
  unfold tryDocker
  rcases c.backupContainer with n | container
  · exact .bind_error (exits_orExit _)
  refine (exits_orExit _).bind ?_
  cases container with
  | none => exact .pure _
  | some containerId =>
    refine (exits_backupViaDocker h containerId).bind ?_
    by_cases hdump : c.dockerDump.status = 0
    · simp only [hdump]
      exact .pure _
    · simp only [hdump, if_false]
      exact (exits_record h.opens).bind <| .pure _

/-- The dump in a container is not made, or fails. -/
def DockerFails (c : Setting) : Prop :=
  ∃ container, c.backupContainer = .ok container ∧ (container = none ∨ c.dockerDump.status ≠ 0)

/-- Where the dump in a container fails, the script goes on to the other one. -/
theorem exits_tryDocker_of_fails (h : c.Starts) (hfails : c.DockerFails) :
    Exits c.tryDocker (.ok false) := by
  obtain ⟨container, hcontainer, hfails⟩ := hfails
  have hexits := exits_tryDocker h
  rw [hcontainer] at hexits
  have hfalse : (container.isSome && decide (c.dockerDump.status = 0)) = false := by
    rcases hfails with rfl | hdump
    · rfl
    · simp [hdump]
  exact hfalse ▸ hexits

/-- Where the dump in a container fails, the backup file has the output of the other one. -/
theorem makeBackup_of_fails (h : c.Starts) (hfails : c.DockerFails) :
    Exits c.makeBackup (.ok (decide (c.directDump.status = 0))) ∧
      Leaves c.backupFile (some c.directDump.stdout) c.makeBackup := by
  have hdocker := exits_tryDocker_of_fails h hfails
  constructor
  · exact (exits_start h).bind <| hdocker.bind <| (exits_dump h _).bind <| .pure _
  · refine .bind (exits_start h) <| .bind hdocker ?_
    exact (leaves_dump h c.directDump).bind_spares fun _ => .pure _

/-- The backup is there if the dump that is tried last wrote something, whatever its status. -/
theorem exits_checkBackup (h : c.Starts) (hfails : c.DockerFails) :
    Exits c.checkBackup (.ok (decide (c.directDump.stdout ≠ ""))) := by
  obtain ⟨hexits, hleaves⟩ := makeBackup_of_fails h hfails
  intro w
  unfold checkBackup
  rw [result_bind_of_ok (hexits w)]
  change Except.ok (Option.any _ ((after c.makeBackup w).files c.backupFile)) = _
  rw [hleaves w]
  rfl

/-- A dump in a container that succeeds is kept. -/
theorem leaves_makeBackup {containerId : String} (h : c.Starts)
    (hcontainer : c.backupContainer = .ok (some containerId)) (hdump : c.dockerDump.status = 0) :
    Leaves c.backupFile (some c.dockerDump.stdout) c.makeBackup := by
  have hdocker : Exits c.tryDocker (.ok true) := by
    have hexits := exits_tryDocker h
    rw [hcontainer, hdump] at hexits
    exact hexits
  have hleaves : Leaves c.backupFile (some c.dockerDump.stdout) c.tryDocker := by
    unfold tryDocker
    rw [hcontainer]
    refine .bind (exits_orExit _) ?_
    have hstays : Leaves c.backupFile (some c.dockerDump.stdout) (c.backupViaDocker containerId) :=
      .bind (exits_echoTo h.opens) (leaves_dump h _)
    refine hstays.bind_spares fun status => .ite (.pure _) ?_
    refine Spares.bind (spares_record fun heq => ?_) fun _ => .pure _
    exact append_ne_self (by decide) c.backupFile (Option.some.inj heq)
  refine .bind (exits_start h) fun w => ?_
  rw [after_bind (hdocker w)]
  exact hleaves w

/-- An encryption that is asked for and possible succeeds. -/
def Encrypts (c : Setting) : Prop :=
  c.env "ENCRYPT" = "true" → c.hasGpg = true → c.env "GPG_PASSPHRASE" ≠ "" ∧ c.gpg.status = 0

/-- An upload that is asked for and possible succeeds. -/
def Uploads (c : Setting) : Prop :=
  c.env "UPLOAD_S3" = "true" → c.env "AWS_S3_BUCKET" ≠ "" → c.hasAws = true → c.aws.status = 0

/-- The script gets from the dump to the retention. -/
structure Delivers (c : Setting) : Prop where
  name : isOption c.backupFile = false
  encrypts : c.Encrypts
  uploads : c.Uploads

/-- The encryption returns the status of `gpg`. -/
theorem exits_symmetricGpg (h : c.Starts) : Exits c.symmetricGpg (.ok c.gpg.status) := by
  unfold symmetricGpg
  exact (exits_runLogged h _ .stdout rfl).bind <| (exits_modify _).bind <| .pure _

/-- An encryption that works hands on a file. -/
theorem exits_encrypt (h : c.Starts) (hname : isOption c.backupFile = false) (hencrypts : c.Encrypts) :
    ∃ backupFile, Exits c.encrypt (.ok backupFile) := by
  unfold encrypt
  split_ifs with hasked hgpg hpassphrase
  · exact absurd hpassphrase (hencrypts hasked hgpg).1
  · refine ⟨_, (exits_symmetricGpg h).bind <| (exits_errexit (hencrypts hasked hgpg).2).bind <|
      (exits_rm h.2).bind <| (exits_errexit rfl).bind <| (exits_logged h hname _).bind <| .pure _⟩
  · exact ⟨_, (exits_logged h hname _).bind <| .pure _⟩
  · exact ⟨_, .pure _⟩

/-- One that does not work ends the script with a failure. -/
theorem fails_encrypt (h : c.Starts) (hencrypts : ¬ c.Encrypts) : Fails c.encrypt := by
  unfold Encrypts at hencrypts
  push Not at hencrypts
  obtain ⟨hasked, hgpg, hfails⟩ := hencrypts
  unfold encrypt
  rw [if_pos hasked, if_pos hgpg]
  split_ifs with hpassphrase
  · exact (exits_echoError _).bind_fails (fails_exit Nat.one_ne_zero)
  · exact (exits_symmetricGpg h).bind_fails (fails_errexit (hfails hpassphrase)).bind

/-- An upload that works, or is not asked for. -/
theorem exits_upload (h : c.Starts) (hname : isOption c.backupFile = false) (huploads : c.Uploads)
    (backupFile : String) : Exits (c.upload backupFile) (.ok ⟨⟩) := by
  unfold upload
  dsimp only
  split_ifs with hasked haws
  · refine (exits_runLogged h _ .stdout rfl).bind ?_
    rw [if_pos (huploads hasked.1 hasked.2 haws)]
    exact exits_logged h hname _
  · exact exits_logged h hname _
  · exact .pure _

/-- One that does not work ends the script with a failure. -/
theorem fails_upload (h : c.Starts) (huploads : ¬ c.Uploads) (backupFile : String) :
    Fails (c.upload backupFile) := by
  unfold Uploads at huploads
  push Not at huploads
  obtain ⟨hasked, hbucket, haws, hfails⟩ := huploads
  unfold upload
  dsimp only
  rw [if_pos ⟨hasked, hbucket⟩, if_pos haws]
  refine (exits_runLogged h _ .stdout rfl).bind_fails ?_
  rw [if_neg hfails]
  exact (exits_echoError _).bind_fails (fails_exit Nat.one_ne_zero)

/-- Encryption and upload go through where both work. -/
theorem exits_deliver (h : c.Starts) (hdelivers : c.Delivers) : Exits c.deliver (.ok ⟨⟩) := by
  obtain ⟨hname, hencrypts, huploads⟩ := hdelivers
  obtain ⟨backupFile, hexits⟩ := exits_encrypt h hname hencrypts
  unfold deliver
  rw [hname]
  exact (exits_errexit rfl).bind <| (exits_logged h hname _).bind <| hexits.bind <|
    exits_upload h hname huploads _

/-- Where one of them does not, the script fails. -/
theorem fails_deliver (h : c.Starts) (hdelivers : ¬ c.Delivers) : Fails c.deliver := by
  unfold deliver
  by_cases hname : isOption c.backupFile = false
  · rw [hname]
    refine (exits_errexit rfl).bind_fails <| (exits_logged h hname _).bind_fails ?_
    by_cases hencrypts : c.Encrypts
    · obtain ⟨backupFile, hexits⟩ := exits_encrypt h hname hencrypts
      exact hexits.bind_fails <| fails_upload h (fun huploads => hdelivers ⟨hname, hencrypts, huploads⟩) _
    · exact (fails_encrypt h hencrypts).bind
  · rw [Bool.not_eq_false] at hname
    rw [hname]
    exact (fails_errexit Nat.one_ne_zero).bind

/-- The failing end is a failure. -/
theorem fails_fail : Fails c.fail := by
  refine (exits_echoError _).bind_fails ⟨1, Nat.one_ne_zero, fun w => ?_⟩
  rw [result_bind_of_ok (a := w) rfl]
  exact (exits_emit _ _).bind (exits_exit 1) w

/-- What the script does after it has delivered the backup. -/
theorem exits_succeed (h : c.Starts) (hdelivers : c.Delivers) : Exits c.succeed (.error c.find.status) := by
  have hdeletes : Exits c.cleanUp (if c.find.status = 0 then .ok ⟨⟩ else .error c.find.status) := by
    unfold cleanUp
    refine (exits_echo _).bind <| (exits_modify _).bind <|
      (exits_run c.find .stdout .stderr rfl rfl).bind ?_
    split_ifs with hfind
    · exact exits_errexit hfind
    · exact exits_errexit_ne hfind
  unfold succeed
  refine (exits_deliver h hdelivers).bind ?_
  split_ifs at hdeletes with hfind
  · rw [hfind]
    exact hdeletes.bind <| (exits_echo _).bind <| exits_exit 0
  · exact hdeletes.bind_error

/-- A script that gets to the retention deletes the files that `find` takes for expired. -/
theorem leaves_succeed (h : c.Starts) (hdelivers : c.Delivers) {path : String}
    (hexpired : c.expired path = true) : Leaves path none c.succeed := by
  unfold succeed
  refine .bind (exits_deliver h hdelivers) <| Leaves.bind_spares ?_ fun _ =>
    (spares_echo _).bind fun _ => spares_exit _
  unfold cleanUp
  refine .bind (exits_echo _) <| Leaves.bind_spares (fun w => ?_) fun _ =>
    (spares_run _ .stdout .stderr nofun nofun).bind fun _ => spares_errexit _
  exact if_pos hexpired

end

end Setting

/-! ## Backups that are reported

A backup is reported if the file is not empty, which a dump that was cut off is not either.
-/

section

variable (c : Setting) (w : World)

/-- The script ends with status 0, or has deleted an older file. -/
def Reported : Prop :=
  exitStatus (backupDatabase c) w = 0 ∨
    ∃ path, c.IsOlder path ∧ w.files path ≠ none ∧ (after (backupDatabase c) w).files path = none

/-- The dump commands that the script runs. -/
def dumps : List Outcome :=
  if c.Starts then
    match c.backupContainer with
    | .error _ => []
    | .ok none => [c.directDump]
    | .ok (some _) => if c.dockerDump.status = 0 then [c.dockerDump] else [c.dockerDump, c.directDump]
  else []

/-- One of the dump commands has succeeded, and the backup file has its full output when the script
comes to look at it. -/
def Complete : Prop :=
  ∃ dump ∈ dumps c, dump.status = 0 ∧ (after c.makeBackup w).files c.backupFile = some dump.stdout

/-- A dump that breaks off after a part of its output gets to the retention, and `find` succeeds or
deletes an older file. -/
structure ReportsPartial : Prop where
  starts : c.Starts
  docker : c.DockerFails
  direct : c.directDump.status ≠ 0
  output : c.directDump.stdout ≠ ""
  delivers : c.Delivers
  retention : c.find.status = 0 ∨ ∃ path, c.IsOlder path ∧ w.files path ≠ none ∧ c.expired path = true

variable {c w}

/-- A script that fails and leaves the older files alone reports nothing. -/
theorem not_reported (hfails : Fails (backupDatabase c))
    (hspares : ∀ path, c.IsOlder path → Spares path (backupDatabase c)) : ¬ Reported c w := by
  rintro (hstatus | ⟨path, holder, hthere, hgone⟩)
  · exact hfails.exitStatus_ne_zero w hstatus
  · exact hthere ((hspares path holder w).symm.trans hgone)

/-- A script that fails before the backup is tested reports no backup. -/
theorem not_reported_of_makeBackup (hfails : Fails c.makeBackup) : ¬ Reported c w := by
  have hcheck : Fails c.checkBackup := hfails.bind
  refine not_reported hcheck.bind fun path holder => ?_
  obtain ⟨n, -, hexits⟩ := hcheck
  exact (Setting.spares_checkBackup holder).bind_error hexits

/-- After a dump that failed in a container it depends on the rest of the script whether it reports a
backup. -/
theorem reported_iff_of_fails (h : c.Starts) (hfails : c.DockerFails) :
    Reported c w ↔ c.directDump.stdout ≠ "" ∧ c.Delivers ∧
      (c.find.status = 0 ∨ ∃ path, c.IsOlder path ∧ w.files path ≠ none ∧ c.expired path = true) := by
  have hcheck := Setting.exits_checkBackup h hfails
  by_cases houtput : c.directDump.stdout = ""
  · rw [decide_eq_false (not_not_intro houtput)] at hcheck
    refine iff_of_false (not_reported (hcheck.bind_fails Setting.fails_fail) fun path holder => ?_) ?_
    · exact (Setting.spares_checkBackup holder).bind_exits hcheck Setting.spares_fail
    · exact fun hreports => hreports.1 houtput
  rw [decide_eq_true houtput] at hcheck
  -- the file is not empty, so the script goes on as if the dump had succeeded
  by_cases hdelivers : c.Delivers
  · rw [and_iff_right houtput, and_iff_right hdelivers]
    have hexits : Exits (backupDatabase c) (.error c.find.status) :=
      hcheck.bind (Setting.exits_succeed h hdelivers)
    have hstatus : exitStatus (backupDatabase c) w = c.find.status := by
      unfold exitStatus
      rw [hexits w]
    unfold Reported
    rw [hstatus]
    refine or_congr_right (exists_congr fun path => and_congr_right fun holder =>
      and_congr_right fun hthere => ?_)
    constructor
    · intro hgone
      by_contra hkept
      have hspares := Setting.spares_backupDatabase holder (Bool.eq_false_iff.mpr hkept)
      exact hthere ((hspares w).symm.trans hgone)
    · intro hexpired
      have hleaves : Leaves path none (backupDatabase c) :=
        .bind hcheck (Setting.leaves_succeed h hdelivers hexpired)
      exact hleaves w
  · have hdeliver := Setting.fails_deliver h hdelivers
    refine iff_of_false (not_reported (hcheck.bind_fails hdeliver.bind) fun path holder => ?_) ?_
    · obtain ⟨n, -, hexits⟩ := hdeliver
      exact (Setting.spares_checkBackup holder).bind_exits hcheck
        ((Setting.spares_deliver holder).bind_error hexits)
    · exact fun hreports => hdelivers hreports.2.1

/-- After a dump that failed in a container it depends on the other one whether the backup is complete. -/
theorem complete_iff_of_fails (h : c.Starts) (hfails : c.DockerFails) :
    Complete c w ↔ c.directDump.status = 0 := by
  obtain ⟨-, hleaves⟩ := Setting.makeBackup_of_fails h hfails
  obtain ⟨container, hcontainer, hdocker⟩ := hfails
  have hdumps : ∀ dump, dump ∈ dumps c ∧ dump.status = 0 ↔ dump = c.directDump ∧ dump.status = 0 := by
    intro dump
    unfold dumps
    rw [if_pos h, hcontainer]
    cases container with
    | none => simp
    | some containerId =>
      have hstatus : c.dockerDump.status ≠ 0 := hdocker.resolve_left nofun
      simp only [if_neg hstatus, List.mem_cons, List.not_mem_nil, or_false]
      constructor
      · rintro ⟨rfl | rfl, hsucceeds⟩
        · exact absurd hsucceeds hstatus
        · exact ⟨rfl, hsucceeds⟩
      · exact fun ⟨heq, hsucceeds⟩ => ⟨Or.inr heq, hsucceeds⟩
  constructor
  · rintro ⟨dump, hdump, hsucceeds, -⟩
    obtain ⟨rfl, hstatus⟩ := (hdumps dump).mp ⟨hdump, hsucceeds⟩
    exact hstatus
  · intro hstatus
    exact ⟨c.directDump, ((hdumps _).mpr ⟨rfl, hstatus⟩).1, hstatus, hleaves w⟩

/-- A dump that succeeds in a container makes the backup complete. -/
theorem complete_of_not_fails {container : Option String} (h : c.Starts)
    (hcontainer : c.backupContainer = .ok container) (hdocker : ¬ c.DockerFails) : Complete c w := by
  cases container with
  | none => exact absurd ⟨none, hcontainer, Or.inl rfl⟩ hdocker
  | some containerId =>
    have hdump : c.dockerDump.status = 0 := by
      by_contra hstatus
      exact hdocker ⟨some containerId, hcontainer, Or.inr hstatus⟩
    refine ⟨c.dockerDump, ?_, hdump, Setting.leaves_makeBackup h hcontainer hdump w⟩
    unfold dumps
    rw [if_pos h, hcontainer]
    dsimp only
    rw [if_pos hdump]
    exact List.mem_singleton_self _

/-- Over all settings and files, a backup that the script reports is complete exactly if the script
does not report a dump that broke off. -/
theorem complete_of_reported_iff (c : Setting) (w : World) :
    (Reported c w → Complete c w) ↔ ¬ ReportsPartial c w := by
  by_cases hstarts : c.Starts
  · rcases hcontainer : c.backupContainer with n | container
    · -- the search for a container ends the script
      have hfails : Fails c.makeBackup := by
        refine (Setting.exits_start hstarts).bind_fails <| Fails.bind ⟨n, ?_, ?_⟩
        · rintro rfl
          exact container_ne_error_zero _ _ _ hcontainer
        · have hexits := Setting.exits_tryDocker hstarts
          rw [hcontainer] at hexits
          exact hexits
      refine iff_of_true (fun hreported => absurd hreported (not_reported_of_makeBackup hfails)) ?_
      rintro ⟨-, ⟨container, hfound, -⟩, -⟩
      cases hcontainer.symm.trans hfound
    by_cases hdocker : c.DockerFails
    · rw [reported_iff_of_fails hstarts hdocker, complete_iff_of_fails hstarts hdocker]
      constructor
      · rintro hcomplete ⟨-, -, hdirect, houtput, hdelivers, hretention⟩
        exact hdirect (hcomplete ⟨houtput, hdelivers, hretention⟩)
      · rintro hnot ⟨houtput, hdelivers, hretention⟩
        by_contra hdirect
        exact hnot ⟨hstarts, hdocker, hdirect, houtput, hdelivers, hretention⟩
    · have hcomplete : Complete c w := complete_of_not_fails hstarts hcontainer hdocker
      exact iff_of_true (fun _ => hcomplete) fun hreports => hdocker hreports.docker
  · have hfails : Fails c.makeBackup := (Setting.fails_start hstarts).bind
    exact iff_of_true (fun hreported => absurd hreported (not_reported_of_makeBackup hfails))
      fun hreports => hstarts hreports.starts

end

/-- The connection breaks off during the dump; there is no Docker, and nothing else is asked for. -/
def connectionLost : Setting where
  env _ := ""
  writable _ := true
  docker := ⟨false, ⟨"", "", 127⟩, ⟨"", "", 127⟩⟩
  mkdir := ⟨"", "", 0⟩
  timestamp := "20260815_120000"
  dockerDump := ⟨"", "", 127⟩
  directDump := ⟨"-- PostgreSQL database dump\n", "server closed the connection unexpectedly\n", 1⟩
  backupSize := "4.0K"
  hasGpg := false
  gpg := ⟨"", "", 127⟩
  encrypted := none
  hasAws := false
  aws := ⟨"", "", 127⟩
  find := ⟨"", "", 0⟩
  expired _ := false

/-- There are no files yet. -/
def noFiles : World where
  files _ := none
  stdout := ""
  stderr := ""

/-- The beginning of a dump is reported as a successful backup. -/
theorem not_complete_connectionLost :
    ¬ (Reported connectionLost noFiles → Complete connectionLost noFiles) := by
  intro h
  obtain ⟨dump, hdump, hsucceeds, -⟩ := h (Or.inl (by decide +kernel))
  have hfailed : ∀ dump ∈ dumps connectionLost, dump.status ≠ 0 := by decide +kernel
  exact hfailed dump hdump hsucceeds

end EmailTriage.BackupDatabase
