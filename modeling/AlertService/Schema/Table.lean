import AlertService.Schema.Expression.Basic
import AlertService.Store.Error

/-!
# Tables

A table has columns, conditions on its rows, keys that no two rows share, and references to the rows of
other tables or its own. What is broken says for itself what becomes of the new row.
-/

namespace AlertService.Schema

/-- What becomes of a row that breaks a rule: it is refused, it is passed over, or it takes the place of
what is in its way. -/
inductive Resolution where
  | refuse
  | skip
  | replace
deriving DecidableEq

/-- A column is numbered where the number of its row is its content, and computed where an expression
tells it. Computed columns are not shown. -/
structure Column where
  name : String
  type : String
  order : Collation
  required : Option Resolution
  isNumbered : Bool
  default : Option Expression
  computed : Option Expression

namespace Column

/-- A column that takes anything. -/
def plain (name : String) : Column := ⟨name, "", .exact, none, false, none, none⟩

def text (name : String) : Column := { plain name with type := "TEXT" }

def integer (name : String) : Column := { plain name with type := "INTEGER" }

/-- The column with the rule that it has to hold something. -/
def needed (c : Column) : Column := { c with required := some .refuse }

/-- What the column prefers because of its type. -/
def preference (c : Column) : Preference :=
  if c.type.isEmpty then .any else (Conversion.ofType c.type).preference

/-- The column as the only one of a primary key: one of integers then numbers the rows. -/
def canNumber (c : Column) : Bool := sameName c.type "integer"

def isShown (c : Column) : Bool := c.computed.isNone

end Column

/-- A condition on rows and what it is called. -/
structure Check where
  label : String
  condition : Expression

/-- Columns whose content, compared in some order, belongs to one row only. -/
structure Key where
  columns : List (String × Collation)
  isPrimary : Bool
  resolution : Option Resolution
deriving DecidableEq

namespace Key

/-- Two keys of the same columns, compared alike, are one. -/
def isLike (a b : Key) : Bool :=
  a.columns.length = b.columns.length &&
    (a.columns.zip b.columns).all fun (x, y) => sameName x.1 y.1 && x.2 = y.2

/-- A key together with one that is like it. -/
def merged (old new : Key) : Key :=
  { old with
    isPrimary := old.isPrimary || new.isPrimary
    resolution := old.resolution.orElse fun _ => new.resolution }

end Key

/-- The columns whose content names a row of another table, by the columns there or by its primary
key. -/
structure Reference where
  columns : List String
  parent : String
  parentColumns : List String
  isDeferred : Bool
deriving DecidableEq

/-- A row in a table. -/
structure Record where
  number : Int
  row : Expression.Row
deriving DecidableEq

namespace Record

/-- What is known of the content of a column. -/
def content? (r : Record) (name : String) : Option Cell := (r.row.entry? name).bind (·.content)

/-- The row with content in one more column. -/
def withEntry (r : Record) (e : Expression.Entry) : Record := { r with row := r.row ++ [e] }

end Record

/-- The keys and references are listed with the last one first, the rows in the order in which they were
added. A table that counts does not give the number of a row away again; `last` is the greatest one that
a row ever had. -/
structure Table where
  name : String
  columns : List Column
  checks : List Check
  keys : List Key
  references : List Reference
  numbering : Option Resolution
  counts : Bool
  rows : List Record
  last : Int

namespace Table

def empty (name : String) : Table := ⟨name, [], [], [], [], none, false, [], 0⟩

def column? (t : Table) (name : String) : Option Column :=
  t.columns.find? fun c => sameName c.name name

/-- The column whose content is the number of the row. -/
def numbered? (t : Table) : Option Column := t.columns.find? Column.isNumbered

/-- The names of the columns that are shown. -/
def shown (t : Table) : List String := (t.columns.filter Column.isShown).map (·.name)

/-- The order in which the texts of a column are compared. -/
def orderOf (t : Table) (name : String) : Collation := ((t.column? name).map (·.order)).getD .exact

/-- The name of a column with the name of its table. -/
def qualified (t : Table) (name : String) : String :=
  t.name ++ "." ++ ((t.column? name).map (·.name)).getD name

/-- The entry of a column with the given content. -/
def entry (c : Column) (content : Option Cell) : Expression.Entry :=
  ⟨c.name, c.preference, c.order, content.map (Cell.prefer c.preference)⟩

/-! ## Making tables -/

/-- Adds a column, in which the rows that are there hold nothing. -/
def withColumn (t : Table) (c : Column) : Table :=
  { t with
    columns := t.columns ++ [c]
    rows := t.rows.map fun r => r.withEntry (entry c (some .null)) }

/-- Changes the column of that name. -/
def changeColumn (t : Table) (name : String) (f : Column → Column) : Table :=
  { t with columns := t.columns.map fun c => if sameName c.name name then f c else c }

/-- Adds a key, unless there is one like it. -/
def withKey (t : Table) (k : Key) : Table :=
  { t with
    keys :=
      if t.keys.any (Key.isLike k) then
        t.keys.map fun old => if k.isLike old then old.merged k else old
      else k :: t.keys }

/-- Adds a primary key. One column of integers numbers the rows instead, unless that is denied. -/
def withPrimary (t : Table) (k : Key) (isDenied : Bool) : Table :=
  match k.columns with
  | [(name, _)] =>
    if !isDenied && (t.column? name).any Column.canNumber then
      { t.changeColumn name fun c => { c with isNumbered := true } with numbering := k.resolution }
    else t.withKey k
  | _ => t.withKey k

def withReference (t : Table) (r : Reference) : Table := { t with references := r :: t.references }

/-- A table without conditions: its columns, its primary key and its references. -/
def made (name : String) (columns : List Column) (primary : List String)
    (references : List Reference) : Table :=
  let t : Table := { empty name with columns := columns, references := references }
  t.withPrimary ⟨primary.map fun n => (n, .exact), true, none⟩ false

/-- A new row may take the place of others. -/
def replaces (t : Table) : Bool :=
  t.numbering = some .replace || t.keys.any fun k => k.resolution = some .replace

/-- The keys in the order in which they are tested: those that replace rows come last. -/
def tested (t : Table) : List Key :=
  t.keys.filter (·.resolution ≠ some .replace) ++ t.keys.filter (·.resolution = some .replace)

end Table

end AlertService.Schema
