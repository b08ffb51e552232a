import Mathlib.Data.List.Infix
import EmailTriage.Lib.Shell

/-!
# The container of the database

`scripts/backup-database.sh` and `scripts/restore-database.sh` look for a Docker container with
PostgreSQL in the same way. Under `pipefail` the search ends the script where `docker` fails, and also
where no container is found, since `grep` then fails.
-/

namespace EmailTriage

open Shell

/-- What the scripts find out about Docker. -/
structure Docker where
  /-- `command -v docker`. -/
  installed : Bool
  /-- `docker ps --filter "ancestor=postgres:15"`. -/
  ps : Outcome
  /-- `docker ps --filter "status=running"`, with the images. -/
  psRunning : Outcome

/-- `grep`, with a text that has no special characters. -/
def grep (pattern : String) (ls : List String) : List String :=
  ls.filter fun line => pattern.toList <:+: line.toList

/-- `awk '{print $1}'` of a line. -/
def firstField (line : String) : String :=
  let isBlank : Char → Bool := fun c => c = ' ' || c = '\t'
  String.ofList ((line.toList.dropWhile isBlank).takeWhile fun c => !isBlank c)

/-- `CONTAINER_ID`, given `DOCKER_CONTAINER_ID`. -/
def containerId (dockerContainerId : String) (docker : Docker) : Except ℕ String :=
  if dockerContainerId ≠ "" then .ok dockerContainerId
  else if docker.ps.status ≠ 0 then .error docker.ps.status
  else
    let id := (lines docker.ps.stdout).headD ""
    if id ≠ "" then .ok id
    else
      -- `grep` fails where no line matches, and the last failure in a pipeline is its status
      let images := grep "postgres" (lines docker.psRunning.stdout)
      if images = [] then .error 1
      else if docker.psRunning.status ≠ 0 then .error docker.psRunning.status
      else .ok (firstField (images.headD ""))

def isLocal (dbHost : String) : Bool := dbHost = "localhost" || dbHost = "127.0.0.1"

/-- The container a script uses, if it uses one. -/
def container (dbHost dockerContainerId : String) (docker : Docker) : Except ℕ (Option String) :=
  if isLocal dbHost && docker.installed then
    match containerId dockerContainerId docker with
    | .ok id => .ok (if id = "" then none else some id)
    | .error n => .error n
  else .ok none

/-- A script that ends while it looks for its container fails. -/
theorem containerId_ne_error_zero (dockerContainerId : String) (docker : Docker) :
    containerId dockerContainerId docker ≠ .error 0 := by
  unfold containerId
  intro h
  split at h
  · cases h
  split at h
  · exact absurd (Except.error.inj h) (by assumption)
  dsimp only at h
  split at h
  · cases h
  split at h
  · exact Nat.one_ne_zero (Except.error.inj h)
  split at h
  · exact absurd (Except.error.inj h) (by assumption)
  · cases h

/-- A search that ends the script ends it with a failure. -/
theorem container_ne_error_zero (dbHost dockerContainerId : String) (docker : Docker) :
    container dbHost dockerContainerId docker ≠ .error 0 := by
  unfold container
  split_ifs
  · rcases hid : containerId dockerContainerId docker with n | id
    · intro h
      exact containerId_ne_error_zero _ _ (hid.trans (congrArg Except.error (Except.error.inj h)))
    · exact nofun
  · exact nofun

end EmailTriage
