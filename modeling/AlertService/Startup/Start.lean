import AlertService.Startup.Config
import AlertService.Startup.Opening
import AlertService.Token.Service

/-!
# Starting up

The configuration is read, the database is opened, and the lifetimes of tokens are checked, in this
order. The first failure ends the program.
-/

namespace AlertService

inductive StartError where
  | config (e : ConfigError)
  | opening (e : OpenError)
  | lifetime (e : LifetimeError)
deriving DecidableEq

namespace StartError

def message : StartError → String
  | .config e => e.message
  | .opening e => e.message
  | .lifetime _ => "invalid token TTL configuration"

def cause? : StartError → Option String
  | .config e => e.cause?
  | .opening e => some e.cause
  | .lifetime e => some e.message

/-- What is written when the program ends. -/
def report (e : StartError) : String :=
  "Error: " ++ e.message ++ "\n" ++
    (e.cause?.map fun c => "\nCaused by:\n    " ++ c ++ "\n").getD ""

end StartError

/-- Starts the service up to where it would listen; `look` says what there is at a path. -/
def start (env : Config.Environment) (working : String) (look : String → Found) :
    Except StartError (Config × TokenService) := do
  let config ← (Config.read env).mapError .config
  (openDatabase config.database working look).mapError .opening
  let tokens ←
    (TokenService.make config.secret config.accessLifetime config.refreshLifetime).mapError .lifetime
  return (config, tokens)

end AlertService
