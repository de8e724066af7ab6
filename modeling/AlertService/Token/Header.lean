import AlertService.Json.Raw
import AlertService.Json.Value

/-!
# The header of a token

The first part of a token names the algorithm that signed it. Only one is accepted, but the other
members of a header still have to be what they are meant to be.
-/

namespace AlertService.Token

/-- The algorithms that a header may name. -/
def algorithms : List String :=
  ["HS256", "HS384", "HS512", "ES256", "ES384", "RS256", "RS384", "RS512", "PS256", "PS384",
    "PS512", "EdDSA"]

/-- The algorithm that tokens are signed with. -/
def algorithm : String := "HS256"

def choice (names : List String) : Json.Reader String := .choice (names.map fun n => (n, n))

/-! ## Keys

A header may hold a key. Nothing uses it, but it has to be one: the members that every key may have
are right where they are present, and those that a key of its type needs are present. Other members
may be anything.
-/

namespace Key

open Json.Raw (isString isStrings)

/-- What a member of a key may hold. -/
abbrev Check := Json.Raw → Bool

/-- One of the names, or an object with the name as its only key and `null` as its value. -/
def isName (names : List String) : Check
  | .string s => names.contains s
  | .object [(s, .null)] => names.contains s
  | _ => false

/-- A name as before, but an empty object also does in the place of `null`. -/
def isNameOrTag (names : List String) : Check
  | .object [(s, .object [])] => names.contains s
  | v => isName names v

/-- The members that every key may have. -/
def optionalMembers : List (String × Check) :=
  [("use", isString), ("key_ops", isStrings),
    ("alg", isNameOrTag (algorithms ++ ["RSA1_5", "RSA-OAEP", "RSA-OAEP-256"])),
    ("kid", isString), ("x5u", isString), ("x5c", isStrings), ("x5t", isString),
    ("x5t#S256", isString)]

def isCurve : Check := isName ["P-256", "P-384", "P-521", "Ed25519"]

/-- The types of keys, and the members that a key of each type needs. -/
def types : List (String × List (String × Check)) :=
  [("EC", [("crv", isCurve), ("x", isString), ("y", isString)]),
    ("OKP", [("crv", isCurve), ("x", isString)]),
    ("RSA", [("n", isString), ("e", isString)]),
    ("oct", [("k", isString)])]

/-- The values of the members with a key. -/
def valuesOf (members : List (String × Json.Raw)) (key : String) : List Json.Raw :=
  (members.filter fun m => m.1 = key).map Prod.snd

/-- The member comes at most once, and is `null` or right. -/
def admits (members : List (String × Json.Raw)) (m : String × Check) : Bool :=
  match valuesOf members m.1 with
  | [] => true
  | [v] => v.isNull || m.2 v
  | _ => false

/-- The member comes once and is right. -/
def has (members : List (String × Json.Raw)) (m : String × Check) : Bool :=
  match valuesOf members m.1 with
  | [v] => m.2 v
  | _ => false

/-- The members make a key. -/
def isKey (members : List (String × Json.Raw)) : Bool :=
  optionalMembers.all (admits members) &&
    types.any fun (type, needed) => (("kty", isName [type]) :: needed).all (has members)

def read : Json.Reader Unit := fun bs => do
  let (value, rest) ← Json.Raw.readMember bs
  match value with
  | .object members =>
    if isKey members then return ((), rest) else .error ⟨.missingField "kty", rest⟩
  | _ => .error ⟨.expectedValue, rest⟩

end Key

/-! ## Headers -/

structure Header where
  algorithm : String

def Header.shape : Json.Shape Header where
  name := "Header"
  fields := [.nullable "typ" .string, .required "alg" (choice algorithms), .nullable "cty" .string,
    .nullable "jku" .string, .nullable "jwk" Key.read, .nullable "kid" .string,
    .nullable "x5u" .string, .nullable "x5c" (.list .string), .nullable "x5t" .string,
    .nullable "x5t#S256" .string]
  closed := false
  build := fun (_, algorithm, _) => ⟨algorithm⟩

/-- The header of the tokens that are issued. -/
def issuedHeader : Json := .object [("typ", .string "JWT"), ("alg", .string algorithm)]

end AlertService.Token
