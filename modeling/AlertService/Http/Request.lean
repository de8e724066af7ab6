import AlertService.Http.Query
import AlertService.Text.Blank

/-!
# Requests

A method, a target, headers in the order in which they were sent, and a body.
-/

namespace AlertService.Http

/-- Where a request goes. -/
structure Target where
  path : String
  query : Option String
deriving DecidableEq

namespace Target

/-- What comes after the name of the scheme and the host. -/
def dropAuthority (cs : List Char) : List Char :=
  match cs with
  | '/' :: _ => cs
  | _ =>
    match (cs.dropWhile fun c => c ≠ ':' && c ≠ '/' && c ≠ '?') with
    | ':' :: '/' :: '/' :: rest =>
      match rest.dropWhile fun c => c ≠ '/' && c ≠ '?' with
      | '/' :: path => '/' :: path
      | query => '/' :: query
    | _ => cs

/-- Reads a target; what follows a hash is not part of it. -/
def parse (uri : String) : Target :=
  let cs := dropAuthority (uri.toList.takeWhile (· ≠ '#'))
  let path := String.ofList (cs.takeWhile (· ≠ '?'))
  match cs.dropWhile (· ≠ '?') with
  | _ :: query => ⟨path, some (String.ofList query)⟩
  | [] => ⟨path, none⟩

end Target

structure Request where
  method : String
  target : Target
  headers : List (String × Bytes)
  body : Bytes

/-- A byte that may stand in a header that is read as text. -/
def isVisible (b : UInt8) : Bool := (32 ≤ b && b < 127) || b = 9

/-- The text of a header. -/
def headerText? (value : Bytes) : Option String :=
  if value.all isVisible then some (String.ofList (value.map fun b => Char.ofNat b.toNat)) else none

namespace Request

/-- The first header of that name, in any case of the letters, if it is text. -/
def header? (r : Request) (name : String) : Option String :=
  (r.headers.find? fun h => h.1.toLower = name.toLower).bind fun h => headerText? h.2

def query (r : Request) : Query := (r.target.query.map Query.parse).getD []

end Request

/-- A token, with or without the word `Bearer` in front of it. -/
def bearerToken? (value : String) : Option String :=
  let cs := value.toList
  let word := "Bearer ".toList
  let token := Text.trim (if word.isPrefixOf cs then cs.drop word.length else cs)
  if token.isEmpty then none else some (String.ofList token)

/-- The token that a request brings. -/
def Request.bearerToken? (r : Request) : Option String :=
  (r.header? "authorization").bind Http.bearerToken?

end AlertService.Http
