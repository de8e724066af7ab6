/-!
# Failures of the store

A call can fail because of what the rows say, or because the storage engine refuses. The words of
the first kind may be shown to clients; those of the engine may not.
-/

namespace AlertService

/-- What the storage engine refuses, and why. -/
inductive EngineFault where
  | foreignKey
  | unique (columns : String)
  | notNull (column : String)
  | check (label : String)
  | conversion (index : Nat) (reason : String)
  | columnType (found : String) (index : Nat) (column : String)
  | noColumnName (name : String)
  | noColumnAt (index : Nat)
  | tableExists (name : String)
  | indexExists (name : String)
  | indexNamed (name : String)
  | tableNamed (name : String)
  | noTable (name : String)
  | duplicateColumn (name : String)
  | noColumn (name query : String) (place : Nat)
  | computedColumn (name : String)
  | columnLoop (name : String)
  | keyMismatch (child parent : String)
  | integerOverflow
  | longEscape
  | complexPattern
  | changing (function place : String)
  | noCollation (name : String)
  | misusedRow
  | malformedDocument
  | badPath (text : String)
  | oddMembers
  | evenArguments (function : String)
  | badKey
  | tooBig
  | unusable (function : String)
  | tooManyColumns (table : String)
deriving DecidableEq

def EngineFault.message : EngineFault → String
  | .foreignKey => "FOREIGN KEY constraint failed"
  | .unique columns => "UNIQUE constraint failed: " ++ columns
  | .notNull column => "NOT NULL constraint failed: " ++ column
  | .check label => "CHECK constraint failed: " ++ label
  | .conversion index reason =>
    "Conversion error from type Text at index: " ++ toString index ++ ", " ++ reason
  | .columnType found index column =>
    "Invalid column type " ++ found ++ " at index: " ++ toString index ++ ", name: " ++ column
  | .noColumnName name => "Invalid column name: " ++ name
  | .noColumnAt index => "Invalid column index: " ++ toString index
  | .tableExists name => "table " ++ name ++ " already exists"
  | .indexExists name => "index " ++ name ++ " already exists"
  | .indexNamed name => "there is already an index named " ++ name
  | .tableNamed name => "there is already a table named " ++ name
  | .noTable name => "no such table: " ++ name
  | .duplicateColumn name => "duplicate column name: " ++ name
  | .noColumn name query place =>
    "no such column: " ++ name ++ " in " ++ query ++ " at offset " ++ toString place
  | .computedColumn name => "cannot INSERT into generated column \"" ++ name ++ "\""
  | .columnLoop name => "generated column loop on \"" ++ name ++ "\""
  | .keyMismatch child parent =>
    "foreign key mismatch - \"" ++ child ++ "\" referencing \"" ++ parent ++ "\""
  | .integerOverflow => "integer overflow"
  | .longEscape => "ESCAPE expression must be a single character"
  | .complexPattern => "LIKE or GLOB pattern too complex"
  | .tooBig => "string or blob too big"
  | .malformedDocument => "malformed JSON"
  | .badPath text => "bad JSON path: " ++ text
  | .oddMembers => "json_object() requires an even number of arguments"
  | .evenArguments function => "json_" ++ function ++ "() needs an odd number of arguments"
  | .badKey => "json_object() labels must be TEXT"
  | .misusedRow => "row value misused"
  | .noCollation name => "no such collation sequence: " ++ name
  | .unusable function => "unable to use function " ++ function ++ " in the requested context"
  | .tooManyColumns table => "too many columns on " ++ table
  | .changing function place => "non-deterministic use of " ++ function ++ "() in " ++ place

/-- Why a call of the store failed. A label names the kind of row the call was about. -/
inductive StoreError where
  | notFound (label : String)
  | notOwner (label : String)
  | conflict (label : String)
  | invalidReference (field : String)
  | poisoned (reason : String)
  | engine (fault : EngineFault)
deriving DecidableEq

namespace StoreError

def message : StoreError → String
  | .notFound label => label ++ " not found"
  | .notOwner label => label ++ " belongs to another user"
  | .conflict label => label ++ " already exists"
  | .invalidReference field => "invalid " ++ field
  | .poisoned reason => "database lock poisoned: " ++ reason
  | .engine fault => fault.message

/-- The failure of every call after one broke off inside the store. -/
def brokenOff : StoreError := .poisoned "poisoned lock: another task failed inside"

end StoreError

end AlertService
