import AlertService.Http.Problem
import AlertService.Http.Response
import AlertService.Store.Error

/-!
# Failed requests

What a request can fail with. Messages name kinds of rows, never their identifiers, and say nothing
of what went wrong inside.
-/

namespace AlertService

inductive Failure where
  | validation (message : String)
  | unauthenticated
  | notFound (message : String)
  | conflict (message : String)
  | internal
deriving DecidableEq

namespace Failure

/-- Nothing of that kind was found. -/
def missing (label : String) : Failure := .notFound (label ++ " not found")

def message : Failure → String
  | .validation m => m
  | .unauthenticated => "unauthorized"
  | .notFound m => m
  | .conflict m => m
  | .internal => "internal server error"

def status : Failure → Nat
  | .validation _ => 422
  | .unauthenticated => 401
  | .notFound _ => 404
  | .conflict _ => 409
  | .internal => 500

/-- What a client is told of a failure of the store. A row of someone else looks like a bad
token. -/
def ofStore (e : StoreError) : Failure :=
  match e with
  | .notFound _ => .notFound e.message
  | .notOwner _ => .unauthenticated
  | .conflict _ => .conflict e.message
  | .invalidReference _ => .validation e.message
  | .poisoned _ => .internal
  | .engine _ => .internal

def response (f : Failure) : Http.Response :=
  .make f.status (some (Http.Problem.toJson ⟨f.message⟩))

end Failure

end AlertService
