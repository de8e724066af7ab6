import AlertService.Startup.Start

/-!
# The command line

Reads the environment and starts the service up to where it would listen.
-/

namespace AlertService

/-- The variables that the configuration looks at. -/
def settingNames : List String :=
  ["ENS_JWT_SECRET", "ENS_HOST", "ENS_PORT", "ENS_DB_PATH", "ENS_ACCESS_TOKEN_TTL_SECS",
    "ENS_REFRESH_TOKEN_TTL_SECS", "ENS_TELEGRAM_BOT_TOKEN", "ENS_TELEGRAM_API_URL",
    "ENS_TELEGRAM_WEBHOOK_SECRET"]

/-- The bytes that a database in a file starts with. -/
def databaseHead : Bytes := Utf8.encode "SQLite format 3" ++ [0]

/-- Whether the file can be opened for writing, or made. -/
def canMake (path : String) : IO Bool := do
  try
    let _ ← IO.FS.Handle.mk path .append
    return true
  catch _ => return false

/-- What there is at a path that leads somewhere. -/
def contentOf (h : IO.FS.Handle) : IO Found := do
  try
    let head := (← h.read 16).toList
    return if head.isEmpty then .empty else if head = databaseHead then .database else .foreign
  catch _ => return .directory

/-- What there is at a path. A file is made to find out whether it can be. -/
def found (path : String) : IO Found := do
  let opened ← (IO.FS.Handle.mk path .read).toBaseIO
  match opened with
  | .ok h => contentOf h
  | .error _ => return .nothing (← canMake path)

/-- The paths that have to be looked at to open the database that the configuration names. -/
def pathsOf (env : Config.Environment) (working : String) : List String :=
  match (Config.read env).toOption.bind fun c => (Location.parse c.database).toOption with
  | some (.file f) => Location.resolved working f.path :: f.likeness.toList
  | _ => []

end AlertService

open AlertService

def main : IO UInt32 := do
  let values ← settingNames.mapM fun key => do return (key, ← IO.getEnv key)
  let env : Config.Environment := fun key => (values.lookup key).join
  let working := (← IO.currentDir).toString
  let seen ← (pathsOf env working).mapM fun path => do return (path, ← found path)
  match start env working fun path => (seen.lookup path).getD (.nothing false) with
  | .ok _ => return 0
  | .error e =>
    (← IO.getStderr).putStr e.report
    return 1
