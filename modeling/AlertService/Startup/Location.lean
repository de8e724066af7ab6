import AlertService.Text.Digits
import AlertService.Text.Split
import AlertService.Text.Utf8

/-!
# Where the database is

A database is named by a path, or by a text in the form of an address: `file:`, perhaps `//` and an
authority, a path, options after a question mark, and a fragment that counts for nothing. Options
are pairs of a name and a value; those that say how to access the database have to name something
known. `Location.parse` reads both forms.
-/

namespace AlertService

/-- What may be done with a database. -/
inductive Location.Access where
  | readOnly
  | readWrite
  | create
  | memory
deriving DecidableEq

/-- A file that is to hold the database. One that is fixed is never changed. A new file takes its
permissions from its likeness. -/
structure Location.File where
  path : String
  access : Location.Access
  isFixed : Bool
  likeness : Option String
deriving DecidableEq

/-- A database in memory, or in a file. -/
inductive Location where
  | memory (writable : Bool)
  | file (f : Location.File)
deriving DecidableEq

/-- What is wrong with the address of a database. -/
inductive LocationError where
  | authority (text : String)
  | cache (value : String)
  | access (value : String)
  | accessDenied (value : String)
  | system (name : String)
deriving DecidableEq

namespace LocationError

def message : LocationError → String
  | .authority text => "invalid uri authority: " ++ text
  | .cache value => "no such cache mode: " ++ value
  | .access value => "no such access mode: " ++ value
  | .accessDenied value => "access mode not allowed: " ++ value
  | .system name => "no such vfs: " ++ name

/-- The answer of the storage engine. -/
def cause : LocationError → String
  | .accessDenied _ => "Error code 3: Access permission denied"
  | _ => "Error code 1: SQL error or missing database"

end LocationError

namespace Location

/-! ## Parts of an address -/

/-- The byte that two hexadecimal digits write. -/
def octet? (a b : UInt8) : Option UInt8 := do
  let hi ← Text.hexValue? (Char.ofNat a.toNat)
  let lo ← Text.hexValue? (Char.ofNat b.toNat)
  return UInt8.ofNat (hi.val * 16 + lo.val)

/-- Decodes a part of an address. An encoded zero ends it; a percent sign without two digits stands
for itself. -/
def decode : Bytes → Bytes
  | 37 :: a :: b :: rest =>
    match octet? a b with
    | some 0 => []
    | some x => x :: decode rest
    | none => 37 :: decode (a :: b :: rest)
  | b :: rest => b :: decode rest
  | [] => []

/-- The bytes before the first `mark`, and the bytes after it, if there is one. -/
def cut (mark : UInt8) (bs : Bytes) : Bytes × Option Bytes :=
  match bs.dropWhile (· ≠ mark) with
  | _ :: rest => (bs.takeWhile (· ≠ mark), some rest)
  | [] => (bs, none)

/-- An option: a name and, after an equals sign, a value. -/
def option (bs : Bytes) : Bytes × Bytes :=
  let (name, value) := cut '='.toUInt8 bs
  (decode name, (value.map decode).getD [])

/-- The options of an address; those without a name do not count. -/
def options (query : Bytes) : List (String × String) :=
  (Text.splitOn '&'.toUInt8 query).filterMap fun bs =>
    let (name, value) := option bs
    if name.isEmpty then none else some (Utf8.lossy name, Utf8.lossy value)

/-- The part after the authority, which has to be this machine. -/
def afterAuthority (bs : Bytes) : Except LocationError Bytes :=
  match bs with
  | 47 :: 47 :: rest =>
    let authority := Utf8.lossy (rest.takeWhile (· ≠ '/'.toUInt8))
    if authority = "" ∨ authority = "localhost" then .ok (rest.dropWhile (· ≠ '/'.toUInt8))
    else .error (.authority authority)
  | _ => .ok bs

/-! ## Options -/

def Access.ofName? (name : String) : Option Access :=
  match name with
  | "ro" => some .readOnly
  | "rw" => some .readWrite
  | "rwc" => some .create
  | "memory" => some .memory
  | _ => none

/-- How much is allowed, as a number: the first three grow, and memory allows for all. -/
def Access.extent : Access → Nat
  | .readOnly => 1
  | .readWrite => 2
  | .create => 6
  | .memory => 128

/-- The access after asking for another one, which may not be more than there is. Memory may always
be asked for. -/
def Access.restrict (current : Access) (value : String) : Except LocationError Access :=
  match ofName? value with
  | none => .error (.access value)
  | some a =>
    if a ≠ .memory ∧ current.extent < a.extent then .error (.accessDenied value) else .ok a

/-- The access that the options leave. -/
def accessOf : Access → List (String × String) → Except LocationError Access
  | a, [] => .ok a
  | a, (name, value) :: rest =>
    if name = "mode" then (a.restrict value).bind fun a => accessOf a rest
    else if name = "cache" ∧ value ≠ "shared" ∧ value ≠ "private" then .error (.cache value)
    else accessOf a rest

/-- The ways in which files are accessed. -/
def systems : List String := ["unix", "unix-none", "unix-dotfile", "unix-excl", "memdb"]

/-- The last system that the options name. -/
def systemOf (options : List (String × String)) : Option String :=
  options.reverse.lookup "vfs"

/-- The words for yes. -/
def yesWords : List String := ["on", "yes", "true"]

/-- Whether a value says yes: such a word, or a number whose lowest eight bits are not all zero. A number
that is too large counts as zero. -/
def saysYes (value : String) : Bool :=
  let ds := (value.toList.takeWhile Text.isDigit).filterMap Text.digitValue?
  let n := Text.ofDigits ds
  if ds.isEmpty then yesWords.contains value.toLower else n ≤ 2147483647 && n % 256 ≠ 0

/-- The first value of an option says yes. -/
def isSet (options : List (String × String)) (name : String) : Bool :=
  (options.lookup name).any saysYes

/-! ## Reading -/

/-- A path that names no file. -/
def isNoFile (path : String) : Bool := path = "" || path = ":memory:"

/-- The location of a path under an access and options. -/
def make (path : String) (access : Access) (options : List (String × String)) : Location :=
  if access = .memory ∨ isNoFile path then .memory (access ≠ .readOnly)
  else .file ⟨path, access, isSet options "immutable", options.lookup "modeof"⟩

/-- A database in memory that has a name, under an access and options. -/
def makeNamed (path : String) (access : Access) (options : List (String × String)) : Location :=
  .memory (access ≠ .readOnly &&
    (access = .memory || isNoFile path || !isSet options "immutable"))

/-- Reads the part of an address after the scheme. -/
def parseAddress (bs : Bytes) : Except LocationError Location := do
  let bs ← afterAuthority bs
  let (path, query) := cut '?'.toUInt8 (bs.takeWhile (· ≠ '#'.toUInt8))
  let path := Utf8.lossy (decode path)
  let options := (query.map options).getD []
  let access ← accessOf .create options
  match systemOf options with
  | none => return make path access options
  | some s =>
    if s = "memdb" then return makeNamed path access options
    else if systems.contains s then return make path access options
    else .error (.system s)

/-- Reads the name of a database. -/
def parse (s : String) : Except LocationError Location :=
  let scheme := Utf8.encode "file:"
  let bs := Utf8.encode s
  if scheme.isPrefixOf bs then parseAddress (bs.drop scheme.length) else .ok (make s .create [])

end Location

end AlertService
