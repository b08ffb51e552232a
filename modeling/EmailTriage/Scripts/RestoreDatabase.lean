import EmailTriage.Scripts.PostgresContainer

/-!
# Restoring a backup

`scripts/restore-database.sh`. A backup whose name ends in `.gpg` is decrypted into a temporary file,
and any other one is restored from where it is: `RESTORE_FILE` is then the backup itself, and the
script removes `RESTORE_FILE` where it cannot create the database or restore it.

What the commands `docker`, `gpg` and `psql` return is part of a `Setting`, one outcome for each place
where they are called.

The parts of the script have lemmas as in the one for backups: what a part leaves alone, how it ends,
and what it leaves in a file. An encrypted backup is never touched, since only the temporary file is
removed (`spares_restore_of_isEncrypted`). A plain backup is lost where both ways to restore it have
failed (`GivesUp`), and kept everywhere else.
-/

namespace EmailTriage.RestoreDatabase

open Js Shell

/-- What a run of the script meets. -/
structure Setting where
  /-- The environment; a variable that is unset is empty. -/
  env : String → String
  /-- The directories the script may write. -/
  writable : String → Bool
  docker : Docker
  /-- `$0`. -/
  script : String
  /-- `$$`. -/
  pid : String
  /-- `$(date)`. -/
  date : String
  /-- `$(date +%s)`, for the name of the decrypted file and for the times of the end and the start. -/
  seconds : String
  endTime : ℤ
  startTime : ℤ
  /-- `$(du -h "$BACKUP_FILE" | cut -f1)`. -/
  restoreSize : String
  gpg : Outcome
  dockerDrop : Outcome
  dockerCreate : Outcome
  dockerRestore : Outcome
  psqlDrop : Outcome
  psqlCreate : Outcome
  psqlRestore : Outcome
  /-- `docker ps` once more, before the tables are counted. -/
  dockerPsAgain : Outcome
  tableCount : Outcome
  tenantCount : Outcome

def isEncrypted (backupFile : String) : Bool := ".gpg".toList.isSuffixOf backupFile.toList

def restoreLog (backupFile : String) : String := backupFile ++ ".restore.log"

/-- The optional arguments, which set `TARGET_DB`. -/
def parseOptions : String → List String → Except String String
  | targetDb, [] => .ok targetDb
  | _, [option] =>
    if option = "--target-db" then .error "$2: unbound variable" else .error ("Unknown option: " ++ option)
  | _, option :: value :: options =>
    if option = "--target-db" then parseOptions value options else .error ("Unknown option: " ++ option)

/-- `tr -d ' '`. -/
def withoutBlanks (text : String) : String := String.ofList (text.toList.filter (· ≠ ' '))

/-- `[ "$text" -gt 0 ]`; a text that is no number is not. -/
def isPositive (text : String) : Bool :=
  let isBlank : Char → Bool := fun c => c = ' ' || c = '\t' || c = '\n'
  let number := (text.toList.dropWhile isBlank).rdropWhile isBlank
  let digits := if number.head? = some '+' then number.tail else number
  let value := digits.foldl (fun n c => 10 * n + (c.toNat - '0'.toNat)) 0
  digits.all Char.isDigit && 0 < value && value < 2 ^ 63

namespace Setting

variable (c : Setting) (backupFile restoreFile targetDb : String)

def dbHost : String := orDefault (c.env "DATABASE_HOST") "localhost"

def defaultTargetDb : String := orDefault (c.env "DATABASE_NAME") "email_triage_restored"

/-- The container the restore uses, if it uses one. -/
def restoreContainer : Except ℕ (Option String) := container c.dbHost (c.env "DOCKER_CONTAINER_ID") c.docker

def decryptedFile : String := "/tmp/restore_" ++ c.pid ++ "_" ++ c.seconds ++ ".sql"

/-- `echo text | tee -a "$RESTORE_LOG"`. -/
def logged (text : String) : Script PUnit := note c.writable text (restoreLog backupFile) .append

/-- A command whose errors are logged. -/
def runLogged (command : Outcome) (out : Sink) : Script ℕ :=
  run c.writable command out (.append (restoreLog backupFile))

/-- The end of a restore that failed: `RESTORE_FILE` is removed. -/
def giveUp {α : Type} (message : String) : Script α := do
  echoError message
  errexit (← rm c.writable restoreFile)
  exit 1

/-- `RESTORE_FILE`. -/
def chooseRestoreFile : Script String :=
  if isEncrypted backupFile then do
    echo "Detected encrypted backup, decrypting..."
    if c.env "GPG_PASSPHRASE" = "" then do
      echoError "✗ GPG_PASSPHRASE not set for decryption"
      exit 1
    else do
      let status ← c.runLogged backupFile c.gpg (.truncate c.decryptedFile)
      if status = 0 then do
        c.logged backupFile "✓ Backup decrypted"
        return c.decryptedFile
      else c.giveUp c.decryptedFile "✗ Failed to decrypt backup"
  else return backupFile

/-- `head -1 "$RESTORE_FILE" | grep -q "^--"`. -/
def warnUnlessSql : Script PUnit := do
  let line := (lines (((← get).files restoreFile).getD "")).headD ""
  if "--".toList.isPrefixOf line.toList then pure ()
  else c.logged backupFile "⚠ Warning: Backup file may not be valid SQL"

def restoreViaDocker : Script Bool := do
  match ← orExit c.restoreContainer with
  | none => return false
  | some containerId =>
    record c.writable ("Using Docker container " ++ containerId ++ " for restore...")
      (.append (restoreLog backupFile))
    -- `|| true`: whether there was a database to drop does not matter
    let _ ← c.runLogged backupFile c.dockerDrop .stdout
    let created ← c.runLogged backupFile c.dockerCreate .stdout
    if created = 0 then
      c.logged backupFile "✓ Created target database"
      -- the restore file is the standard input, which the outcome stands for
      let restored ← c.runLogged backupFile c.dockerRestore (.append (restoreLog backupFile))
      return restored = 0
    else return false

/-- The direct restore, unless the restore has succeeded already. -/
def restoreDirectly (succeeded : Bool) : Script Bool :=
  if succeeded then pure true
  else do
    -- `|| true` again, so that the message comes in either case
    let _ ← c.runLogged backupFile c.psqlDrop .stdout
    c.logged backupFile "✓ Dropped existing database"
    let created ← c.runLogged backupFile c.psqlCreate .stdout
    if created = 0 then
      c.logged backupFile "✓ Created target database"
      let restored ← c.runLogged backupFile c.psqlRestore (.append (restoreLog backupFile))
      return restored = 0
    else c.giveUp restoreFile "✗ Failed to create target database"

/-- `$((END_TIME - START_TIME))`. -/
def duration : String := toString (c.endTime - c.startTime)

/-- The counts of what has been restored. -/
def verify : Script PUnit := do
  echo "Verifying restore integrity..."
  -- without a container the counts go through `psql`
  errexit (if isLocal c.dbHost && c.env "DOCKER_CONTAINER_ID" = "" then c.dockerPsAgain.status else 0)
  errexit (← c.runLogged backupFile c.tableCount .null)
  let tableCount := substituted (withoutBlanks c.tableCount.stdout)
  let fallback := if c.tenantCount.status = 0 then "" else "0\n"
  let tenantCount := substituted (withoutBlanks c.tenantCount.stdout ++ fallback)
  if isPositive tableCount then
    c.logged backupFile ("✓ Restore integrity verified: " ++ tableCount ++ " tables found")
    c.logged backupFile
      ("✓ Data round-trip verified: " ++ tenantCount ++ " tenants in restored database")
  else c.logged backupFile "⚠ Warning: No tables found in restored database"

def removeDecrypted : Script PUnit :=
  if isEncrypted backupFile then do errexit (← rm c.writable restoreFile) else pure ()

def finish (succeeded : Bool) : Script PUnit :=
  if succeeded then do
    c.logged backupFile "✓ Restore successful"
    c.logged backupFile ("  Backup size: " ++ c.restoreSize)
    c.logged backupFile ("  Restore time: " ++ c.duration ++ "s")
    c.verify backupFile
    c.removeDecrypted backupFile restoreFile
    c.logged backupFile
      ("✓ Restore operation completed successfully (RTO: " ++ c.duration ++ "s)")
    exit 0
  else c.giveUp restoreFile ("✗ Restore failed - see " ++ restoreLog backupFile ++ " for details")

/-- The restore of a backup file that is there. -/
def restore : Script PUnit := do
  echo ("Starting database restore from " ++ backupFile ++ "...")
  note c.writable ("Target database: " ++ targetDb) (restoreLog backupFile) .truncate
  record c.writable ("Timestamp: " ++ c.date) (.append (restoreLog backupFile))
  let restoreFile ← c.chooseRestoreFile backupFile
  c.warnUnlessSql backupFile restoreFile
  let viaDocker ← c.restoreViaDocker backupFile
  let succeeded ← c.restoreDirectly backupFile restoreFile viaDocker
  c.finish backupFile restoreFile succeeded

end Setting

/-- The script, with its arguments. -/
def restoreDatabase (c : Setting) : List String → Script PUnit
  | [] => do
    echoError ("Usage: " ++ c.script ++ " <backup-file> [--target-db <dbname>]")
    echoError ("Example: " ++ c.script ++ " backups/backup_email_triage_20260815_120000.sql")
    exit 1
  | backupFile :: options =>
    match parseOptions c.defaultTargetDb options with
    | .error message => do
      echoError message
      exit 1
    | .ok targetDb => do
      if ← isFile backupFile then c.restore backupFile targetDb
      else
        echoError ("✗ Backup file not found: " ++ backupFile)
        exit 1

/-! ## What happens to the backup file

A restore works on the backup itself, unless the backup is encrypted; then it works on a file of its own.
-/

namespace Setting

variable {c : Setting} {backupFile restoreFile : String}

/-- The log is a file of its own. -/
theorem restoreLog_ne (backupFile : String) : restoreLog backupFile ≠ backupFile :=
  append_ne_self (by decide) backupFile

/-- A decrypted file is no encrypted backup. -/
theorem decryptedFile_ne (h : isEncrypted backupFile = true) : c.decryptedFile ≠ backupFile := by
  rintro rfl
  have hsql : ".sql".toList <:+ c.decryptedFile.toList := by
    delta decryptedFile
    rw [String.toList_append]
    exact List.suffix_append _ _
  have hgpg : ".gpg".toList <:+ c.decryptedFile.toList := List.isSuffixOf_iff_suffix.mp h
  have hlast : ".gpg".toList = ".sql".toList :=
    (List.suffix_of_suffix_length_le hgpg hsql (by decide)).eq_of_length (by decide)
  exact absurd hlast (by decide)

/-- What is appended to the log does not go into the backup. -/
theorem append_ne (backupFile : String) : (Sink.append (restoreLog backupFile)).path? ≠ some backupFile :=
  fun h => restoreLog_ne backupFile (Option.some.inj h)

/-- A log line leaves the backup alone. -/
theorem spares_logged (text : String) : Spares backupFile (c.logged backupFile text) :=
  spares_note (append_ne backupFile)

/-- So does the first one, which begins the log. -/
theorem spares_targetDb {text : String} :
    Spares backupFile (note c.writable text (restoreLog backupFile) .truncate) :=
  spares_note fun heq => restoreLog_ne backupFile (Option.some.inj heq)

/-- A command whose output goes elsewhere writes its errors to the log only. -/
theorem spares_runLogged (command : Outcome) (out : Sink) (h : out.path? ≠ some backupFile) :
    Spares backupFile (c.runLogged backupFile command out) :=
  spares_run _ _ _ h (append_ne backupFile)

/-- Giving up removes the restore file, which is another one than the backup here. -/
theorem spares_giveUp {α : Type} (h : restoreFile ≠ backupFile) (message : String) :
    Spares backupFile (c.giveUp restoreFile message : Script α) :=
  (spares_echoError _).bind fun _ => (spares_rm h).bind fun _ => (spares_errexit _).bind fun _ =>
    spares_exit _

/-- The restore file is the backup itself exactly if the backup is not encrypted. -/
theorem yields_chooseRestoreFile (c : Setting) (backupFile : String) :
    Yields (fun restoreFile =>
        restoreFile = if isEncrypted backupFile then c.decryptedFile else backupFile)
      (c.chooseRestoreFile backupFile) := by
  unfold chooseRestoreFile
  split_ifs
  · exact .bind fun _ => .bind fun _ => yields_exit _
  · refine .bind fun _ => .bind fun status => ?_
    split_ifs
    · exact .bind fun _ => .pure rfl
    · exact .bind fun _ => .bind fun _ => .bind fun _ => yields_exit _
  · exact .pure rfl

/-- Choosing the restore file leaves the backup alone, also where it is decrypted. -/
theorem spares_chooseRestoreFile : Spares backupFile (c.chooseRestoreFile backupFile) := by
  unfold chooseRestoreFile
  by_cases hencrypted : isEncrypted backupFile = true
  · have hne := decryptedFile_ne (c := c) hencrypted
    rw [if_pos hencrypted]
    refine (spares_echo _).bind fun _ => .ite ?_ ?_
    · exact (spares_echoError _).bind fun _ => spares_exit _
    · refine (spares_runLogged _ _ ?_).bind fun status => .ite ?_ ?_
      · exact fun h => hne (Option.some.inj h)
      · exact (spares_logged _).bind fun _ => .pure _
      · exact spares_giveUp hne _
  · rw [if_neg hencrypted]
    exact .pure _

/-- The warning about the format is only printed and logged. -/
theorem spares_warnUnlessSql : Spares backupFile (c.warnUnlessSql backupFile restoreFile) :=
  Spares.bind (fun _ => rfl) fun _ => .ite (.pure _) (spares_logged _)

/-- The restore in a container reads the restore file. -/
theorem spares_restoreViaDocker : Spares backupFile (c.restoreViaDocker backupFile) := by
  refine (spares_orExit _).bind fun container => ?_
  cases container with
  | none => exact .pure _
  | some containerId =>
    refine (spares_record (append_ne _)).bind fun _ => (spares_runLogged _ .stdout nofun).bind fun _ =>
      (spares_runLogged _ .stdout nofun).bind fun created => .ite ?_ (.pure _)
    exact (spares_logged _).bind fun _ => (spares_runLogged _ _ (append_ne _)).bind fun _ => .pure _

/-- The direct restore removes the restore file at most. -/
theorem spares_restoreDirectly (h : restoreFile ≠ backupFile) (succeeded : Bool) :
    Spares backupFile (c.restoreDirectly backupFile restoreFile succeeded) := by
  refine .ite (.pure _) <| (spares_runLogged _ .stdout nofun).bind fun _ => (spares_logged _).bind fun _ =>
    (spares_runLogged _ .stdout nofun).bind fun created => .ite ?_ (spares_giveUp h _)
  exact (spares_logged _).bind fun _ => (spares_runLogged _ _ (append_ne _)).bind fun _ => .pure _

/-- The verification reads the restored database. -/
theorem spares_verify : Spares backupFile (c.verify backupFile) := by
  refine (spares_echo _).bind fun _ => (spares_errexit _).bind fun _ =>
    (spares_runLogged _ .null nofun).bind fun _ => (spares_errexit _).bind fun _ =>
      .ite ?_ (spares_logged _)
  exact (spares_logged _).bind fun _ => spares_logged _

/-- A restore that succeeded removes a decrypted file only. -/
theorem spares_finish_true (h : isEncrypted backupFile = true → restoreFile ≠ backupFile) :
    Spares backupFile (c.finish backupFile restoreFile true) := by
  refine (spares_logged _).bind fun _ => (spares_logged _).bind fun _ => (spares_logged _).bind fun _ =>
    spares_verify.bind fun _ => Spares.bind ?_ fun _ => (spares_logged _).bind fun _ => spares_exit _
  unfold removeDecrypted
  split_ifs with hencrypted
  · exact (spares_rm (h hencrypted)).bind fun _ => spares_errexit _
  · exact .pure _

/-- The end of the script removes the restore file at most. -/
theorem spares_finish (h : restoreFile ≠ backupFile) (succeeded : Bool) :
    Spares backupFile (c.finish backupFile restoreFile succeeded) := by
  cases succeeded with
  | false => exact spares_giveUp h _
  | true => exact spares_finish_true fun _ => h

/-- The restore of an encrypted backup works on a file of its own. -/
theorem spares_restore_of_isEncrypted (h : isEncrypted backupFile = true) (targetDb : String) :
    Spares backupFile (c.restore backupFile targetDb) := by
  refine (spares_echo _).bind fun _ => spares_targetDb.bind fun _ =>
    (spares_record (append_ne _)).bind fun _ =>
      spares_chooseRestoreFile.bind_yields (yields_chooseRestoreFile c backupFile) ?_
  rintro _ rfl
  rw [if_pos h]
  have hne : c.decryptedFile ≠ backupFile := decryptedFile_ne h
  exact spares_warnUnlessSql.bind fun _ => spares_restoreViaDocker.bind fun viaDocker =>
    (spares_restoreDirectly hne viaDocker).bind fun succeeded => spares_finish hne succeeded

/-! ## The restore of a plain backup

The parts of the script in their order. Where all attempts fail, the script gives up and removes the file
that it works on.
-/

/-- The log can be written: its name is no option, and its directory is writable. -/
structure Loggable (c : Setting) (backupFile : String) : Prop where
  name : isOption backupFile = false
  directory : c.writable (directory backupFile) = true

/-- The log looks like an option if the backup does. -/
theorem isOption_restoreLog (backupFile : String) :
    isOption (restoreLog backupFile) = isOption backupFile :=
  isOption_append (by decide)

/-- The log is next to the backup. -/
theorem directory_restoreLog (backupFile : String) :
    directory (restoreLog backupFile) = directory backupFile :=
  directory_append (by decide)

/-- A log that can be written can be appended to. -/
theorem Loggable.opens (h : c.Loggable backupFile) :
    (Sink.append (restoreLog backupFile)).opens c.writable = true := by
  change c.writable (Shell.directory (restoreLog backupFile)) = true
  rw [directory_restoreLog]
  exact h.directory

/-- A log line is printed and written. -/
theorem exits_logged (h : c.Loggable backupFile) (text : String) :
    Exits (c.logged backupFile text) (.ok ⟨⟩) :=
  exits_note ((isOption_restoreLog backupFile).trans h.name) h.opens

/-- A logged command returns its own status. -/
theorem exits_runLogged (h : c.Loggable backupFile) (command : Outcome) (out : Sink)
    (hout : out.opens c.writable = true) : Exits (c.runLogged backupFile command out) (.ok command.status) :=
  exits_run _ _ _ hout h.opens

/-- The warning about the format does not end the script. -/
theorem exits_warnUnlessSql (h : c.Loggable backupFile) :
    Exits (c.warnUnlessSql backupFile restoreFile) (.ok ⟨⟩) := by
  intro w
  unfold warnUnlessSql
  rw [result_bind_of_ok (a := w) rfl]
  dsimp only
  split_ifs
  · rfl
  · exact exits_logged h _ _

/-- The restore in a container. -/
theorem exits_restoreViaDocker (h : c.Loggable backupFile) :
    Exits (c.restoreViaDocker backupFile) (c.restoreContainer.map fun container =>
      container.isSome && decide (c.dockerCreate.status = 0 ∧ c.dockerRestore.status = 0)) := by
  unfold restoreViaDocker
  rcases hcontainer : c.restoreContainer with n | container
  · exact .bind_error (exits_orExit _)
  refine (exits_orExit _).bind ?_
  cases container with
  | none => exact .pure _
  | some containerId =>
    refine (exits_record h.opens).bind <| (exits_runLogged h _ .stdout rfl).bind <|
      (exits_runLogged h _ .stdout rfl).bind ?_
    by_cases hcreated : c.dockerCreate.status = 0
    · rw [if_pos hcreated]
      refine (exits_logged h _).bind <| (exits_runLogged h _ _ h.opens).bind ?_
      simp only [hcreated, true_and]
      exact .pure _
    · rw [if_neg hcreated]
      simp only [hcreated, false_and]
      exact .pure _

/-- A direct restore into a new database succeeds if the commands that restore do. -/
theorem exits_restoreDirectly (h : c.Loggable backupFile) (hcreated : c.psqlCreate.status = 0) :
    Exits (c.restoreDirectly backupFile restoreFile false) (.ok (decide (c.psqlRestore.status = 0))) := by
  unfold restoreDirectly
  rw [if_neg Bool.false_ne_true]
  refine (exits_runLogged h _ .stdout rfl).bind <| (exits_logged h _).bind <|
    (exits_runLogged h _ .stdout rfl).bind ?_
  rw [if_pos hcreated]
  exact (exits_logged h _).bind <| (exits_runLogged h _ _ h.opens).bind <| .pure _

/-- A direct restore that can create the database leaves the backup alone. -/
theorem spares_restoreDirectly_of_created (h : c.Loggable backupFile)
    (hcreated : c.psqlCreate.status = 0) :
    Spares backupFile (c.restoreDirectly backupFile restoreFile false) := by
  unfold restoreDirectly
  rw [if_neg Bool.false_ne_true]
  refine (spares_runLogged _ .stdout nofun).bind fun _ => (spares_logged _).bind fun _ =>
    (spares_runLogged _ .stdout nofun).bind_exits (exits_runLogged h _ .stdout rfl) ?_
  rw [if_pos hcreated]
  exact (spares_logged _).bind fun _ => (spares_runLogged _ _ (append_ne _)).bind fun _ => .pure _

/-- Giving up removes the restore file. -/
theorem leaves_giveUp {α : Type} (h : c.writable (Shell.directory restoreFile) = true) (message : String) :
    Leaves restoreFile none (c.giveUp restoreFile message : Script α) :=
  .bind (exits_echoError _) <| (leaves_rm h).bind_spares fun _ => (spares_errexit _).bind fun _ =>
    spares_exit _

/-- The script gives up with status one. -/
theorem exits_giveUp {α : Type} (h : c.writable (Shell.directory restoreFile) = true) (message : String) :
    Exits (c.giveUp restoreFile message : Script α) (.error 1) :=
  (exits_echoError _).bind <| (exits_rm h).bind <| (exits_errexit rfl).bind <| exits_exit _

/-- A direct restore that cannot create the database removes the restore file and ends the script. -/
theorem restoreDirectly_of_not_created (h : c.Loggable backupFile) (hcreated : c.psqlCreate.status ≠ 0) :
    Exits (c.restoreDirectly backupFile backupFile false) (.error 1) ∧
      Leaves backupFile none (c.restoreDirectly backupFile backupFile false) := by
  have hdrop := exits_runLogged h c.psqlDrop .stdout rfl
  have hcreate := exits_runLogged h c.psqlCreate .stdout rfl
  unfold restoreDirectly
  rw [if_neg Bool.false_ne_true]
  constructor
  · refine hdrop.bind <| (exits_logged h _).bind <| hcreate.bind ?_
    rw [if_neg hcreated]
    exact exits_giveUp h.directory _
  · refine .bind hdrop <| .bind (exits_logged h _) <| .bind hcreate ?_
    rw [if_neg hcreated]
    exact leaves_giveUp h.directory _

/-- The restore does not succeed in a container. -/
def DockerFails (c : Setting) : Prop :=
  ∃ container, c.restoreContainer = .ok container ∧
    (container = none ∨ c.dockerCreate.status ≠ 0 ∨ c.dockerRestore.status ≠ 0)

/-- The restore of a plain backup gets to the point where the script gives up. -/
structure GivesUp (c : Setting) (backupFile : String) : Prop where
  plain : isEncrypted backupFile = false
  loggable : c.Loggable backupFile
  docker : c.DockerFails
  direct : c.psqlCreate.status ≠ 0 ∨ c.psqlRestore.status ≠ 0

/-- A restore in a container that does not succeed leaves the other one to be tried. -/
theorem exits_restoreViaDocker_of_fails (h : c.Loggable backupFile) (hfails : c.DockerFails) :
    Exits (c.restoreViaDocker backupFile) (.ok false) := by
  obtain ⟨container, hcontainer, hfails⟩ := hfails
  have hexits := exits_restoreViaDocker h
  rw [hcontainer] at hexits
  have hfalse : (container.isSome && decide (c.dockerCreate.status = 0 ∧ c.dockerRestore.status = 0)) =
      false := by
    rcases hfails with rfl | hcreate | hrestore
    · rfl
    · simp [hcreate]
    · simp [hrestore]
  exact hfalse ▸ hexits

/-- One that succeeds says so. -/
theorem exits_restoreViaDocker_of_not_fails (h : c.Loggable backupFile) {container : Option String}
    (hcontainer : c.restoreContainer = .ok container) (hsucceeds : ¬ c.DockerFails) :
    Exits (c.restoreViaDocker backupFile) (.ok true) := by
  have hexits := exits_restoreViaDocker h
  rw [hcontainer] at hexits
  have htrue : (container.isSome && decide (c.dockerCreate.status = 0 ∧ c.dockerRestore.status = 0)) =
      true := by
    rw [Bool.and_eq_true, decide_eq_true_eq, Option.isSome_iff_ne_none]
    by_contra hnot
    refine hsucceeds ⟨container, hcontainer, ?_⟩
    tauto
  exact htrue ▸ hexits

/-- A script that gives up has removed the backup. -/
theorem leaves_restore (h : c.GivesUp backupFile) (targetDb : String) :
    Leaves backupFile none (c.restore backupFile targetDb) := by
  have hgiveUp := fun {α : Type} => leaves_giveUp (α := α) h.loggable.directory
  have hchoose : c.chooseRestoreFile backupFile = pure backupFile :=
    if_neg (Bool.eq_false_iff.mp h.plain)
  refine .bind (exits_echo _) <| .bind (exits_note ?_ h.loggable.opens) <|
    .bind (exits_record h.loggable.opens) ?_
  · exact (isOption_restoreLog backupFile).trans h.loggable.name
  rw [hchoose]
  refine .bind (.pure _) <| .bind (exits_warnUnlessSql h.loggable) <|
    .bind (exits_restoreViaDocker_of_fails h.loggable h.docker) ?_
  by_cases hcreated : c.psqlCreate.status = 0
  · refine .bind (exits_restoreDirectly h.loggable hcreated) ?_
    rw [decide_eq_false (h.direct.resolve_left (not_not_intro hcreated))]
    exact hgiveUp _
  · obtain ⟨hexits, hleaves⟩ := restoreDirectly_of_not_created h.loggable hcreated
    exact hleaves.bind_error hexits

/-- The restore of a plain backup with a log leaves the backup alone where it succeeds in one of the
two ways, and where the search for a container ends the script. -/
theorem spares_restoreFrom (h : c.Loggable backupFile) (hplain : isEncrypted backupFile = false)
    (hgivesUp : ¬ c.GivesUp backupFile) :
    Spares backupFile (c.restoreViaDocker backupFile >>= fun viaDocker =>
      c.restoreDirectly backupFile backupFile viaDocker >>= c.finish backupFile backupFile) := by
  have hfinish : Spares backupFile (c.finish backupFile backupFile true) :=
    spares_finish_true fun hencrypted => absurd hencrypted (Bool.eq_false_iff.mp hplain)
  rcases hcontainer : c.restoreContainer with n | container
  · have hdocker := exits_restoreViaDocker h
    rw [hcontainer] at hdocker
    exact spares_restoreViaDocker.bind_error hdocker
  by_cases hfails : c.DockerFails
  · -- then the direct restore does what it should
    have hcreated : c.psqlCreate.status = 0 := by
      by_contra hcreated
      exact hgivesUp ⟨hplain, h, hfails, Or.inl hcreated⟩
    have hrestored : c.psqlRestore.status = 0 := by
      by_contra hrestored
      exact hgivesUp ⟨hplain, h, hfails, Or.inr hrestored⟩
    refine spares_restoreViaDocker.bind_exits (exits_restoreViaDocker_of_fails h hfails) ?_
    refine (spares_restoreDirectly_of_created h hcreated).bind_exits (exits_restoreDirectly h hcreated) ?_
    rw [decide_eq_true hrestored]
    exact hfinish
  · refine spares_restoreViaDocker.bind_exits (exits_restoreViaDocker_of_not_fails h hcontainer hfails) ?_
    exact Spares.bind_exits (.pure _) (.pure _) hfinish

/-- A script that does not give up leaves the backup alone. -/
theorem spares_restore (h : ¬ c.GivesUp backupFile) (targetDb : String) :
    Spares backupFile (c.restore backupFile targetDb) := by
  by_cases hencrypted : isEncrypted backupFile = true
  · exact spares_restore_of_isEncrypted hencrypted targetDb
  have hchoose : c.chooseRestoreFile backupFile = pure backupFile := if_neg hencrypted
  by_cases hloggable : c.Loggable backupFile
  · refine (spares_echo _).bind fun _ => spares_targetDb.bind fun _ =>
      (spares_record (append_ne _)).bind fun _ => ?_
    rw [hchoose]
    refine Spares.bind_exits (.pure _) (.pure _) <| spares_warnUnlessSql.bind fun _ => ?_
    exact spares_restoreFrom hloggable (Bool.eq_false_iff.mpr hencrypted) h
  · -- the first line does not get into the log, and the script ends there
    refine (spares_echo _).bind fun _ => spares_targetDb.bind_error (exits_note_of_not ?_)
    rw [isOption_restoreLog]
    by_contra hnot
    rw [not_or, Bool.not_eq_true, Bool.not_eq_false] at hnot
    exact hloggable ⟨hnot.1, (directory_restoreLog backupFile) ▸ hnot.2⟩

end Setting

/-- Whatever its status, the script leaves the backup file it was given with its content. -/
def KeepsBackup (c : Setting) (args : List String) (w : World) : Prop :=
  ∀ backupFile content, args.head? = some backupFile → w.files backupFile = some content →
    (after (restoreDatabase c args) w).files backupFile = some content

/-- The script gives up on a plain backup that is there. -/
def LosesBackup (c : Setting) (args : List String) (w : World) : Prop :=
  ∃ backupFile options, args = backupFile :: options ∧
    (∃ targetDb, parseOptions c.defaultTargetDb options = .ok targetDb) ∧
    w.files backupFile ≠ none ∧ c.GivesUp backupFile

/-- With arguments that are accepted the script gets to the restore of a backup that is there. -/
theorem files_restoreDatabase {c : Setting} {backupFile content targetDb : String} {options : List String}
    {w : World} (hcontent : w.files backupFile = some content)
    (hoptions : parseOptions c.defaultTargetDb options = .ok targetDb) :
    (after (restoreDatabase c (backupFile :: options)) w).files backupFile =
      (after (c.restore backupFile targetDb) w).files backupFile := by
  have hfile : result (isFile backupFile) w = .ok true :=
    congrArg Except.ok (congrArg Option.isSome hcontent)
  rw [restoreDatabase, hoptions]
  dsimp only
  rw [after_bind hfile, if_pos rfl]
  rfl

/-- Over all arguments, settings and files, the script keeps the backup exactly if it does not give up
on a plain one. -/
theorem keepsBackup_iff (c : Setting) (args : List String) (w : World) :
    KeepsBackup c args w ↔ ¬ LosesBackup c args w := by
  cases args with
  | nil =>
    refine iff_of_true (fun _ _ hhead => nomatch hhead) ?_
    rintro ⟨_, _, hargs, -⟩
    cases hargs
  | cons backupFile options =>
    constructor
    · rintro hkeeps ⟨_, _, hargs, ⟨targetDb, hoptions⟩, hfile, hgivesUp⟩
      cases hargs
      obtain ⟨content, hcontent⟩ := Option.ne_none_iff_exists'.mp hfile
      have hkept := hkeeps backupFile content rfl hcontent
      rw [files_restoreDatabase hcontent hoptions, Setting.leaves_restore hgivesUp] at hkept
      cases hkept
    · intro hnot _ content hhead hcontent
      cases hhead
      rcases hoptions : parseOptions c.defaultTargetDb options with message | targetDb
      · rw [restoreDatabase, hoptions]
        exact ((spares_echoError _).bind fun _ => spares_exit _) w |>.trans hcontent
      · have hgivesUp : ¬ c.GivesUp backupFile := fun h =>
          hnot ⟨backupFile, options, rfl, ⟨targetDb, hoptions⟩, by rw [hcontent]; exact nofun, h⟩
        rw [files_restoreDatabase hcontent hoptions]
        exact (Setting.spares_restore hgivesUp targetDb w).trans hcontent

/-- The database is down, and there is no Docker. -/
def databaseDown : Setting where
  env _ := ""
  writable _ := true
  docker := ⟨false, ⟨"", "", 127⟩, ⟨"", "", 127⟩⟩
  script := "scripts/restore-database.sh"
  pid := "4711"
  date := "Sat Aug 15 12:00:00 UTC 2026"
  seconds := "1786795200"
  endTime := 1786795200
  startTime := 1786795200
  restoreSize := "4.0K"
  gpg := ⟨"", "", 2⟩
  dockerDrop := ⟨"", "", 127⟩
  dockerCreate := ⟨"", "", 127⟩
  dockerRestore := ⟨"", "", 127⟩
  psqlDrop := ⟨"", "connection refused\n", 2⟩
  psqlCreate := ⟨"", "connection refused\n", 2⟩
  psqlRestore := ⟨"", "connection refused\n", 2⟩
  dockerPsAgain := ⟨"", "", 127⟩
  tableCount := ⟨"", "connection refused\n", 2⟩
  tenantCount := ⟨"", "connection refused\n", 2⟩

/-- A backup that is not encrypted. -/
def plainBackup : World where
  files path := if path = "backups/backup.sql" then some "-- PostgreSQL database dump\n" else none
  stdout := ""
  stderr := ""

/-- The only backup is removed because the database is down. -/
theorem not_keepsBackup_databaseDown : ¬ KeepsBackup databaseDown ["backups/backup.sql"] plainBackup := by
  intro h
  have hthere : plainBackup.files "backups/backup.sql" = some "-- PostgreSQL database dump\n" := by decide
  have hgivesUp : databaseDown.GivesUp "backups/backup.sql" :=
    ⟨by decide, ⟨by decide, rfl⟩, ⟨none, by decide, Or.inl rfl⟩, Or.inl (by decide)⟩
  have hkept := h "backups/backup.sql" _ rfl hthere
  have hoptions : parseOptions databaseDown.defaultTargetDb [] = .ok "email_triage_restored" := by decide
  rw [files_restoreDatabase hthere hoptions, Setting.leaves_restore hgivesUp] at hkept
  cases hkept

end EmailTriage.RestoreDatabase
