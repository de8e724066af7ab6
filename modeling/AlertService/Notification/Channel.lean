import AlertService.Json.Record

/-!
# Channels

The ways in which a notification can be delivered.
-/

namespace AlertService

inductive Channel where
  | telegram
deriving DecidableEq, Repr

namespace Channel

def name : Channel → String
  | .telegram => "telegram"

def all : List Channel := [.telegram]

def ofName? (s : String) : Option Channel := all.find? fun c => c.name = s

def read : Json.Reader Channel := .choice (all.map fun c => (c.name, c))

end Channel

end AlertService
