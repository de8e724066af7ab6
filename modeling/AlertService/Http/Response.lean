import AlertService.Json.Value

/-!
# Responses

A status, headers, and a body that is a value or nothing.
-/

namespace AlertService.Http

structure Response where
  status : Nat
  headers : List (String × String)
  body : Option Json

namespace Response

/-- A response with a body, or without one. -/
def make (status : Nat) (body : Option Json) : Response :=
  let length := (body.map fun j => j.text.utf8ByteSize).getD 0
  let type := if body.isSome then [("content-type", "application/json")] else []
  ⟨status, type ++ [("content-length", toString length)], body⟩

def addHeaders (r : Response) (headers : List (String × String)) : Response :=
  { r with headers := r.headers ++ headers }

def header? (r : Response) (name : String) : Option String := r.headers.lookup name.toLower

/-- The response that does not say how long its body is. -/
def withoutLength (r : Response) : Response :=
  { r with headers := r.headers.filter fun h => h.1 ≠ "content-length" }

/-- The response to a request that asks for the headers only. -/
def withoutBody (r : Response) : Response := { r with body := none }

end Response

end AlertService.Http
