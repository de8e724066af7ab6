import AlertService.Json.Record
import AlertService.Json.Value

/-!
# The body of a failed request
-/

namespace AlertService.Http

/-- What the client is told. -/
structure Problem where
  message : String
deriving DecidableEq

namespace Problem

def shape : Json.Shape Problem where
  name := "ErrorBody"
  fields := [.required "message" .string]
  closed := false
  build := fun (message, _) => ⟨message⟩

def toJson (p : Problem) : Json := .object [("message", .string p.message)]

end Problem

end AlertService.Http
