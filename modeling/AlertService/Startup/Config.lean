import AlertService.Startup.Address
import AlertService.Startup.Number
import AlertService.Text.Quoted

/-!
# Configuration

The settings come from the environment. A missing one has a default, except for the secret, which
has to be set to something of one's own. The first setting that is wrong is reported, in the order
secret, port, address, access lifetime, refresh lifetime.
-/

namespace AlertService

/-- Lifetimes are in seconds. -/
structure Config where
  secret : String
  database : String
  address : Address
  accessLifetime : Nat
  refreshLifetime : Nat
  botToken : Option String
  botUrl : String
  webhookSecret : Option String
deriving DecidableEq

inductive ConfigError where
  | placeholderSecret
  | number (key value : String) (cause : NumberError)
  | address (text : String)
deriving DecidableEq

namespace ConfigError

def message : ConfigError → String
  | .placeholderSecret =>
    "ENS_JWT_SECRET is unset or still a placeholder; set it in your .env file and restart"
  | .number key value _ => key ++ " has an invalid value " ++ Text.quoted value
  | .address text => "invalid listen address " ++ text

/-- What made the setting wrong. -/
def cause? : ConfigError → Option String
  | .placeholderSecret => none
  | .number _ _ cause => some cause.message
  | .address _ => some "invalid socket address syntax"

end ConfigError

namespace Config

abbrev Environment := String → Option String

/-- Secrets from examples, which are no secrets. -/
def placeholders : List String := ["change-me-to-a-random-string", "dev-secret-change-me"]

/-- A number below `bound`, with a default. -/
def numberOr (env : Environment) (key : String) (bound default : Nat) : Except ConfigError Nat :=
  match env key with
  | none => .ok default
  | some value => (Setting.number bound value).mapError (.number key value)

/-- A text that counts only when there is something in it. -/
def nonEmpty (env : Environment) (key : String) : Option String :=
  (env key).filter fun s => s ≠ ""

def secretOf (env : Environment) : Except ConfigError String :=
  let secret := (env "ENS_JWT_SECRET").getD ""
  if secret = "" ∨ placeholders.contains secret then .error .placeholderSecret else .ok secret

/-- The address of a host and a port. -/
def addressOf (host : String) (port : Nat) : Except ConfigError Address :=
  let text := host ++ ":" ++ toString port
  match Address.parse? text with
  | some a => .ok a
  | none => .error (.address text)

def read (env : Environment) : Except ConfigError Config := do
  let secret ← secretOf env
  let port ← numberOr env "ENS_PORT" UInt16.size 8080
  let address ← addressOf ((env "ENS_HOST").getD "0.0.0.0") port
  let access ← numberOr env "ENS_ACCESS_TOKEN_TTL_SECS" UInt64.size 3600
  let refresh ← numberOr env "ENS_REFRESH_TOKEN_TTL_SECS" UInt64.size (30 * 24 * 3600)
  return {
    secret := secret
    database := (env "ENS_DB_PATH").getD "ens.db"
    address := address
    accessLifetime := access
    refreshLifetime := refresh
    botToken := nonEmpty env "ENS_TELEGRAM_BOT_TOKEN"
    botUrl := (env "ENS_TELEGRAM_API_URL").getD "https://api.telegram.org"
    webhookSecret := nonEmpty env "ENS_TELEGRAM_WEBHOOK_SECRET" }

end Config

end AlertService
