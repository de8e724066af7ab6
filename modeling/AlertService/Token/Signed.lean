import AlertService.Crypto.Base64
import AlertService.Crypto.Sha256
import AlertService.Token.Header

/-!
# Signed tokens

A token is a header, a payload and a signature of the two, each in base 64 and joined by points.
-/

namespace AlertService.Token

/-- The text before the last point and the text after it. -/
def cutLast? (cs : List Char) : Option (List Char × List Char) :=
  let r := cs.reverse
  match r.dropWhile (· ≠ '.') with
  | _ :: before => some (before.reverse, (r.takeWhile (· ≠ '.')).reverse)
  | [] => none

def encodeText (s : String) : List Char := Base64.encode .urlSafe (Utf8.encode s)

/-- The signature of a message. -/
def sign (secret : String) (message : List Char) : List Char :=
  Base64.encode .urlSafe
    (Sha256.keyed (Utf8.encode secret) (Utf8.encode (String.ofList message)))

/-- A token with the given payload. -/
def ofPayload (secret payload : String) : String :=
  let message := encodeText issuedHeader.text ++ '.' :: encodeText payload
  String.ofList (message ++ '.' :: sign secret message)

/-- The header is well-formed and names the algorithm in use. -/
def acceptsHeader (part : List Char) : Bool :=
  match Base64.decode? .urlSafe part with
  | none => false
  | some bs =>
    match Json.readBody Header.shape.read bs with
    | .ok h => h.algorithm = algorithm
    | .error _ => false

/-- The payload of a token whatever its signature. -/
def payload? (token : String) : Option Bytes := do
  let (message, _) ← cutLast? token.toList
  let (_, payload) ← cutLast? message
  Base64.decode? .urlSafe payload

/-- The payload of a token signed under the secret. -/
def verifiedPayload? (secret token : String) : Option Bytes := do
  let (message, signature) ← cutLast? token.toList
  let (header, payload) ← cutLast? message
  if acceptsHeader header && sign secret message = signature then Base64.decode? .urlSafe payload
  else none

end AlertService.Token
