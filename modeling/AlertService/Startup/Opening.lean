import AlertService.Startup.Location

/-!
# Opening the database

A database in a file is opened in steps: the path is resolved, the permissions of a new file are
looked up, the file is opened or made, and it is prepared for writing, which needs a second file
beside it. What is found at the path decides how far this gets.
-/

namespace AlertService

/-- What there is at a path. A device keeps nothing of what is written to it. Beside a sealed file no
other one can be made; it is empty. -/
inductive Found where
  | nothing (canMake : Bool)
  | directory
  | empty
  | sealed
  | device (hasRoom : Bool)
  | foreign
  | database
deriving DecidableEq

def Found.isNothing : Found → Bool
  | .nothing _ => true
  | _ => false

/-- Something else than a directory. -/
def Found.isFile : Found → Bool
  | .nothing _ => false
  | .directory => false
  | _ => true

/-- Why a database is not opened. -/
inductive OpenError where
  | location (e : LocationError)
  | noFile (name : String)
  | noCompanion
  | readOnly
  | notDatabase
  | noPermissions
  | unreadable
  | notKept
  | full
deriving DecidableEq

namespace OpenError

def message : OpenError → String
  | .location e => e.message
  | .noFile name => "unable to open database file: " ++ name
  | .noCompanion => "unable to open database file"
  | .readOnly => "attempt to write a readonly database"
  | .notDatabase => "file is not a database"
  | .noPermissions | .unreadable | .notKept => "disk I/O error"
  | .full => "database or disk is full"

/-- The answer of the storage engine. -/
def cause : OpenError → String
  | .location e => e.cause
  | .noFile _ | .noCompanion => "Error code 14: Unable to open the database file"
  | .readOnly => "Error code 8: Attempt to write a readonly database"
  | .notDatabase => "Error code 26: File opened that is not a database file"
  | .noPermissions => "Error code 1802: Error invoking fstat to get file metadata"
  | .unreadable => "Error code 266: Error reading from disk"
  | .notKept => "Error code 1034: Error flushing data to persistent storage (fsync)"
  | .full => "Error code 13: Insertion failed because database is full"

end OpenError

namespace Location

/-! ## Paths -/

/-- The path of names that are listed last first. -/
def pathOf (names : List String) : String := "/" ++ "/".intercalate names.reverse

/-- The names along a path, last first, with the steps back taken. -/
def stepAlong (names : List String) (name : String) : List String :=
  if name = "" || name = "." then names
  else if name = ".." then names.drop 1
  else name :: names

/-- The names of a path from the root, where a relative one starts in the working directory. -/
def namesOf (working path : String) : List String :=
  let names (s : String) := (Text.splitOn '/' s.toList).map String.ofList
  (if path.startsWith "/" then [] else names working) ++ names path

/-- The path from the root. Steps back are taken in the text: nothing has to be where they lead back
from. -/
def resolved (working path : String) : String := pathOf ((namesOf working path).foldl stepAlong [])

/-- No name comes behind that of a file, not even where a step back follows. -/
def isPassable (working path : String) (look : String → Found) : Bool :=
  (List.range (namesOf working path).length).all fun k =>
    let names := ((namesOf working path).take (k + 1)).foldl stepAlong []
    names.tail.isEmpty || !(look (pathOf names.tail)).isFile

/-- The most bytes in a path. -/
def longestPath : Nat := 504

/-- The most bytes in the last part of the name of a file. -/
def longestName : Nat := 255

/-- What is added to the name of the file for that of the one beside it. -/
def companionEnding : String := "-journal"

/-- The bytes of the last name of a path. -/
def lastNameSize (path : String) : Nat :=
  (((Text.splitOn '/' path.toList).getLast?.map String.ofList).getD "").utf8ByteSize

/-- The path of a file is neither the root nor too long. -/
def isUsable (path : String) : Bool := path ≠ "/" && path.utf8ByteSize ≤ longestPath

/-! ## Files -/

/-- A file beside the one at the path can be made. -/
def hasCompanion (path : String) : Bool :=
  lastNameSize path + companionEnding.utf8ByteSize ≤ longestName

/-- Prepares an opened file for writing. -/
def prepare (f : File) (path : String) : Found → Except OpenError Unit
  | .foreign => .error .notDatabase
  | .database => .ok ()
  | found =>
    if f.isFixed || f.access = .readOnly then .error .readOnly
    else if found = .sealed || !hasCompanion path then .error .noCompanion
    else if found = .device true then .error .notKept
    else if found = .device false then .error .full
    else .ok ()

/-- Opens a file of that name; `look` says what there is at a path. -/
def openFile (f : File) (name working : String) (look : String → Found) :
    Except OpenError Unit := do
  let path := resolved working f.path
  if !isUsable path || !isPassable working f.path look then throw (.noFile name)
  if f.likeness.any fun other => (look other).isNothing then throw .noPermissions
  match look path with
  | .nothing canMake =>
    if canMake ∧ f.access = .create ∧ lastNameSize path ≤ longestName then prepare f path .empty
    else throw (.noFile name)
  | .directory => throw (if f.access = .readOnly then .unreadable else .noFile name)
  | found => prepare f path found

end Location

/-- Opens the database of that name; `look` says what there is at a path. -/
def openDatabase (name working : String) (look : String → Found) : Except OpenError Unit := do
  match ← (Location.parse name).mapError .location with
  | .memory writable => if !writable then throw .readOnly
  | .file f => Location.openFile f name working look

end AlertService
