import AlertService.Crypto.Base64
import AlertService.Text.Digits
import AlertService.Text.Split

/-!
# Password hashes

A password is kept as the text of a hash: fields between dollar signs that name an algorithm, its
version and parameters, a salt, and the digest of the password under all of these. How the digest is
computed is a parameter.
-/

namespace AlertService

structure PasswordHash where
  algorithm : String
  version : Option Nat
  parameters : List (String × String)
  salt : Option String
  digest : Option Bytes
deriving DecidableEq

/-- The digest, of a given size, of a password under the other fields of a hash. There is none where
these have no meaning. -/
abbrev Digest := PasswordHash → (size : Nat) → Bytes → Option Bytes

namespace PasswordHash

/-! ## Reading -/

def isLower (c : Char) : Bool := 'a' ≤ c && c ≤ 'z'

def isUpper (c : Char) : Bool := 'A' ≤ c && c ≤ 'Z'

/-- The name of an algorithm or of a parameter. -/
def isName (cs : List Char) : Bool :=
  0 < cs.length && cs.length ≤ 32 && cs.all fun c => isLower c || Text.isDigit c || c = '-'

def isValueChar (c : Char) : Bool :=
  isLower c || isUpper c || Text.isDigit c || c = '+' || c = '-' || c = '.' || c = '/'

/-- The value of a parameter. -/
def isValue (cs : List Char) : Bool := cs.length ≤ 64 && cs.all isValueChar

def isSalt (cs : List Char) : Bool := 4 ≤ cs.length && isValue cs

/-- A number below `2 ^ 32` without needless zeros. -/
def decimal? (cs : List Char) : Option Nat :=
  if cs.head? = some '0' ∧ cs ≠ ['0'] then none
  else (Text.natural? cs).filter fun n => cs.length ≤ 64 && n < UInt32.size

/-- A parameter, as in `m=19456`. -/
def parameter? (cs : List Char) : Option (String × String) :=
  let name := cs.takeWhile (· ≠ '=')
  match cs.dropWhile (· ≠ '=') with
  | _ :: value => if isName name && isValue value then some (.ofList name, .ofList value) else none
  | [] => none

def parameters? (cs : List Char) : Option (List (String × String)) :=
  if cs.length ≤ 127 then (Text.splitOn ',' cs).mapM parameter? else none

def salt? (cs : List Char) : Option String := if isSalt cs then some (.ofList cs) else none

/-- A digest of ten to sixty-four bytes. -/
def digest? (cs : List Char) : Option Bytes :=
  (Base64.decode? .standard cs).filter fun bs => 10 ≤ bs.length && bs.length ≤ 64

/-- The version, and the fields after it. -/
def takeVersion? (fields : List (List Char)) : Option (Option Nat × List (List Char)) :=
  match fields with
  | ('v' :: '=' :: v) :: rest =>
    if v.contains ',' then some (none, fields) else (decimal? v).map fun n => (some n, rest)
  | _ => some (none, fields)

/-- The parameters, and the fields after them. -/
def takeParameters? (fields : List (List Char)) :
    Option (List (String × String) × List (List Char)) :=
  match fields with
  | field :: rest =>
    if field.contains '=' then (parameters? field).map fun ps => (ps, rest) else some ([], fields)
  | [] => some ([], [])

/-- Reads the text of a hash. Everything after the algorithm may be missing. -/
def parse? (s : String) : Option PasswordHash :=
  match Text.splitOn '$' s.toList with
  | [] :: algorithm :: fields =>
    if isName algorithm then do
      let (version, fields) ← takeVersion? fields
      let (parameters, fields) ← takeParameters? fields
      match fields with
      | [] => some ⟨.ofList algorithm, version, parameters, none, none⟩
      | [salt] => (salt? salt).map fun x => ⟨.ofList algorithm, version, parameters, some x, none⟩
      | [salt, digest] => do
        let salt ← salt? salt
        let digest ← digest? digest
        some ⟨.ofList algorithm, version, parameters, some salt, some digest⟩
      | _ => none
    else none
  | _ => none

/-! ## Writing -/

def field (s : String) : String := "$" ++ s

/-- The text of a hash. -/
def text (h : PasswordHash) : String :=
  field h.algorithm ++ (h.version.map fun v => field ("v=" ++ toString v)).getD "" ++
    (if h.parameters.isEmpty then ""
      else field (",".intercalate (h.parameters.map fun (k, v) => k ++ "=" ++ v))) ++
    (h.salt.map field).getD "" ++
    (h.digest.map fun bs => field (.ofList (Base64.encode .standard bs))).getD ""

/-! ## Making and checking -/

/-- What a new hash is made with. -/
def settings (salt : Bytes) : PasswordHash where
  algorithm := "argon2id"
  version := some 19
  parameters := [("m", "19456"), ("t", "2"), ("p", "1")]
  salt := some (.ofList (Base64.encode .standard salt))
  digest := none

/-- The hash of a password under a salt. -/
def make (digest : Digest) (salt : Bytes) (password : String) : Option PasswordHash :=
  let h := settings salt
  (digest h 32 (Utf8.encode password)).map fun bs => { h with digest := some bs }

/-- The password is the one that the hash was made of. A hash without salt or digest is of none. -/
def verify (digest : Digest) (h : PasswordHash) (password : String) : Bool :=
  match h.salt, h.digest with
  | some _, some expected =>
    digest { h with digest := none } expected.length (Utf8.encode password) = some expected
  | _, _ => false

end PasswordHash

end AlertService
