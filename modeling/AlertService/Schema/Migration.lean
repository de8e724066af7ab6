import AlertService.Schema.Index
import AlertService.Schema.Reference

/-!
# The schema and its migrations

A database starts with any tables. A run of the migrations brings it up to date: every migration
above the greatest recorded version runs its statements in order, the last of which records its
version. A statement that fails ends the run; the statements before it stay.
-/

namespace AlertService

namespace Schema

/-- The tables of a database with their rows, the names of its indexes, and what statements did so far.
Temporary tables hide others of their names, but no table is kept from being made by them. -/
structure Catalog where
  tables : List Table
  temporary : List Table
  indexes : List String
  history : History

namespace Catalog

def empty : Catalog := ⟨[], [], [], ⟨0, 0, 0⟩⟩

/-- The table that is meant by a name. -/
def table? (c : Catalog) (name : String) : Option Table :=
  (c.temporary ++ c.tables).find? fun t => sameName t.name name

/-- Whether the table that is meant by a name is temporary. -/
def hides (c : Catalog) (name : String) : Bool := c.temporary.any fun t => sameName t.name name

/-- The tables among which the references of a table lead. -/
def siblings (c : Catalog) (t : Table) : List Table :=
  if c.hides t.name then c.temporary else c.tables

/-- What is shown of the tables that are not temporary: their names, and the columns that are meant by
these. -/
def shown (c : Catalog) : List (String × List String) :=
  c.tables.map fun t => (t.name, ((c.table? t.name).getD t).shown)

def hasTable (c : Catalog) (name : String) : Bool := c.tables.any fun t => sameName t.name name

def hasIndex (c : Catalog) (name : String) : Bool := c.indexes.any fun i => sameName i name

/-- The table in which the engine keeps the numbers of tables that count. -/
def countingTable : Table := .made "sqlite_sequence" [.plain "name", .plain "seq"] [] []

/-- The table in which the engine keeps the schema. -/
def masterTable : String := "sqlite_master"

/-- The names of that table; no reference leads there. -/
def schemaTables : List String := [masterTable, "sqlite_schema"]

/-- The catalog with one more table, unless there is one of that name. -/
def withTable (c : Catalog) (t : Table) : Catalog :=
  if c.hasTable t.name then c
  else
    let tables := c.tables ++ [t]
    { c with
      tables :=
        if t.counts && !c.hasTable countingTable.name then tables ++ [countingTable] else tables }

/-- The catalog with one more temporary table. -/
def withTemporary (c : Catalog) (t : Table) : Catalog := { c with temporary := c.temporary ++ [t] }

/-- Changes the table that is meant by a name. -/
def change (c : Catalog) (name : String) (f : Table → Table) : Catalog :=
  let changed (ts : List Table) : List Table := ts.map fun t => if sameName t.name name then f t else t
  if c.hides name then { c with temporary := changed c.temporary }
  else { c with tables := changed c.tables }

end Catalog

/-! ## Recorded versions -/

/-- Every version is a row of this table. -/
def versionTable : Table := { Table.empty "schema_version" with columns := [.needed (.integer "version")] }

/-- How the greatest version is asked for. -/
def greatest : String := "COALESCE(MAX(version), 0)"

namespace Catalog

/-- The catalog with a table of versions, which is made if there is none. Nothing else may have its
name. -/
def withVersionTable (c : Catalog) : Except EngineFault Catalog :=
  if c.hasTable versionTable.name then .ok c
  else if c.hasIndex versionTable.name then .error (.indexNamed versionTable.name)
  else .ok (c.withTable versionTable)

/-- The catalog with a table of versions that holds these. -/
def withVersions (c : Catalog) (versions : List Cell) : Catalog :=
  let records := versions.zipIdx.map fun (cell, index) =>
    (⟨index + 1, versionTable.columns.map fun column => Table.entry column (some cell)⟩ : Record)
  { (c.withTable versionTable).change versionTable.name fun t =>
      { t with rows := records, last := records.length } with
    history := ⟨records.length, min 1 records.length, records.length⟩ }

/-- The recorded versions. -/
def versions (c : Catalog) : List Cell :=
  match c.table? versionTable.name with
  | none => []
  | some t => t.rows.filterMap fun r => r.content? "version"

/-- The table and the column that versions are recorded in. -/
def versionColumn (c : Catalog) : Except EngineFault (Table × Column) :=
  match c.table? versionTable.name with
  | none => .error (.noTable versionTable.name)
  | some t =>
    match t.column? "version" with
    | none =>
      .error (.noColumn "version" ("SELECT " ++ greatest ++ " FROM " ++ versionTable.name) 20)
    | some column => .ok (t, column)

/-- The greater of two cells. -/
def greater (a b : Cell) : Cell := if a.isBelow .exact b then b else a

/-- The greatest recorded version, zero if there is none. What is no integer is no version. -/
def version (c : Catalog) : Except EngineFault Int := do
  let _ ← c.versionColumn
  match c.versions.foldl greater .null with
  | .null => return 0
  | .integer i => return i
  | cell => throw (.columnType cell.kindName 0 greatest)

/-! ## New versions -/

/-- The table that a reference leads to and where it leads there. -/
def target (c : Catalog) (child : Table) (r : Reference) :
    Except EngineFault (Table × Reference.Target) :=
  match (c.siblings child).find? fun t => sameName t.name r.parent with
  | some parent =>
    match r.target? parent with
    | some t => .ok (parent, t)
    | none => .error (.keyMismatch child.name r.parent)
  | none =>
    if schemaTables.any (sameName r.parent) then .error (.keyMismatch child.name r.parent)
    else .error (.noTable ("main." ++ r.parent))

/-- The references from tables that lead to one of that name, each with its own table; the last one comes
first. -/
def referencesTo (children : List Table) (parent : String) : List (Table × Reference) :=
  children.reverse.flatMap fun child =>
    (child.references.filter fun r => sameName r.parent parent).map (child, ·)

/-- Tests that the references to a table lead to a key of it. Only those that wait for the end are
looked at, unless a new row may replace others. -/
def testWaiting (c : Catalog) (parent : Table) : Except EngineFault Unit :=
  (referencesTo (c.siblings parent) parent.name).forM fun (child, r) =>
    if (r.isDeferred || parent.replaces) && (r.target? parent).isNone then
      throw (.keyMismatch child.name r.parent)
    else return ()

/-- Tests that no reference leads to the table that tells the indexes: there is no key to it. -/
def testIndexing (c : Catalog) : Except EngineFault Unit :=
  match referencesTo c.tables masterTable with
  | (child, r) :: _ => throw (.keyMismatch child.name r.parent)
  | [] => return ()

/-- Tests that a row fulfils a reference to a table, which may be its own one with these other rows. -/
def testReference (own : Table) (row : Record) (others : List Record)
    (r : Reference × Table × Reference.Target) : Except EngineFault Unit :=
  let (r, parent, t) := r
  let isOwn := sameName parent.name own.name
  if r.isFulfilled parent row isOwn (if isOwn then others else parent.rows) t then .ok ()
  else .error .foreignKey

/-- The catalog with other rows in a table, after one with that number was made for it. -/
def withRows (c : Catalog) (t : Table) (rows : List Record) (number : Int) (history : History) :
    Catalog :=
  { c.change t.name fun t => { t with rows := rows, last := max t.last number } with
    history := history }

/-- The catalog after a new row for a version, which may be passed over. Rows of other tables do not keep
it from taking the place of others. -/
def add (c : Catalog) (now : Instant) (t : Table) (column : Column) (version : Int) :
    Except EngineFault Catalog := do
  let targets ← t.references.mapM fun r => (c.target t r).map fun p => (r, p)
  c.testWaiting t
  let cell := Cell.integer version
  let number := t.nextNumber column.name cell t.last t.rows
  match t.insert column.name cell number ⟨now, c.history⟩ t.rows with
  | .error .skipped => return c.withRows t t.rows number { c.history with made := 0 }
  | .error (.refused f) => throw f
  | .ok (row, others) =>
    targets.forM (testReference t row others)
    let rows := others ++ [row]
    if others.length < t.rows.length then
      others.forM fun other => targets.forM (testReference t other rows)
    return c.withRows t rows number ⟨number, 1, c.history.total + 1⟩

/-- Records a version in a new row. -/
def record (c : Catalog) (now : Instant) (version : Int) : Except EngineFault Catalog := do
  let (t, column) ← c.versionColumn
  if column.isShown then c.add now t column version else throw (.computedColumn column.name)

end Catalog

/-! ## Statements -/

inductive Statement where
  | createTable (t : Table)
  | createIndex (i : Index)
  | addColumn (table : String) (column : Column)
  | recordVersion (version : Int)

namespace Statement

/-- The most columns that a table can have. -/
def columnLimit : Nat := 2000

/-- The name that a table has while a column is added to it. -/
def altered (table : String) : String := "sqlite_altertab_" ++ table

/-- Every table that a statement makes has an index. The indexes of temporary tables are not kept. -/
def run (now : Instant) (c : Catalog) : Statement → Except EngineFault Catalog
  | .createTable t =>
    if c.hasTable t.name then .error (.tableExists t.name)
    else if c.hasIndex t.name then .error (.indexNamed t.name)
    else c.testIndexing.map fun _ => c.withTable t
  | .createIndex i =>
    match c.table? i.table with
    | none => .error (.noTable ("main." ++ i.table))
    | some t =>
      if (c.siblings t).any fun u => sameName u.name i.name then .error (.tableNamed i.name)
      else if !c.hides i.table && c.hasIndex i.name then .error (.indexExists i.name)
      else
        match i.missing? t with
        | some (name, place) => .error (.noColumn name i.text place)
        | none =>
          if c.hides i.table then .ok c
          else c.testIndexing.map fun _ => { c with indexes := c.indexes ++ [i.name] }
  | .addColumn table column =>
    match c.table? table with
    | none => .error (.noTable table)
    | some t =>
      if columnLimit ≤ t.columns.length then .error (.tooManyColumns (altered t.name))
      else if (t.column? column.name).isSome then .error (.duplicateColumn column.name)
      else .ok (c.change table fun t => t.withColumn column)
  | .recordVersion version => c.record now version

/-- Runs statements up to the first that fails. -/
def runAll (now : Instant) (c : Catalog) : List Statement → Except EngineFault Unit × Catalog
  | [] => (.ok (), c)
  | s :: rest =>
    match s.run now c with
    | .ok c => runAll now c rest
    | .error fault => (.error fault, c)

end Statement

structure Migration where
  version : Int
  changes : List Statement

/-- The statements of a migration; the last one records that it was made. -/
def Migration.statements (m : Migration) : List Statement :=
  m.changes ++ [.recordVersion m.version]

/-! ## The migrations of this service -/

namespace Column

/-- A column that holds the time at which the row was added, unless something else is given. -/
def moment (name : String) : Column :=
  { needed (text name) with default := some (.call "datetime" [.literal (.text "now")]) }

end Column

/-- A column that names a row of another table by a column there. -/
def Reference.single (column parent parentColumn : String) : Reference :=
  ⟨[column], parent, [parentColumn], false⟩

/-- The reference to the user that a row belongs to. -/
def Reference.toUser (column : String) : Reference := .single column "users" "user_id"

/-- A table of drafts or entities: the columns that all of them have, and those of the kind. -/
def Table.owned (name : String) (columns : List Column) (references : List Reference) : Table :=
  .made name
    ([.text (name ++ "_id"), .needed (.text "master_id"), .needed (.text "name")] ++ columns)
    [name ++ "_id"] (references ++ [.toUser "master_id"])

/-- Users, sessions, drafts, entities and memberships. The template of a draft is looked for when it is
confirmed. -/
def accountsAndEntities : Migration where
  version := 1
  changes :=
    let recipients : List Column := [.text "email", .text "phone_number", .integer "telegram_id"]
    let templates : List Column := [.text "message_text"]
    let groups : List Column := [.needed (.integer "active"), .text "template_id"]
    [.createTable ((Table.made "users" [.text "user_id", .needed (.text "name"),
       .needed (.text "password_hash"), .moment "created_at"] ["user_id"] []).withKey
         ⟨[("name", .exact)], false, none⟩),
     .createTable (.made "sessions" [.text "session_id", .needed (.text "user_id"),
       .moment "created_at"] ["session_id"] [.toUser "user_id"]),
     .createIndex sessionsByUser,
     .createTable (.owned "recipient_draft" recipients []),
     .createTable (.owned "recipient" recipients []),
     .createIndex recipientsByMaster,
     .createTable (.owned "notification_template_draft" templates []),
     .createTable (.owned "notification_template" templates []),
     .createIndex templatesByMaster,
     .createTable (.owned "recipient_group_draft" groups []),
     .createTable (.owned "recipient_group" groups
       [.single "template_id" "notification_template" "notification_template_id"]),
     .createIndex groupsByMaster,
     .createTable (.made "recipient_recipient_group"
       [.needed (.text "recipient_group_id"), .needed (.text "recipient_id")]
       ["recipient_group_id", "recipient_id"]
       [.single "recipient_id" "recipient" "recipient_id",
        .single "recipient_group_id" "recipient_group" "recipient_group_id"])]

def batches : Migration where
  version := 2
  changes :=
    [.createTable (.made "notifications_batch" [.text "batch_id", .needed (.text "master_id"),
       { Column.needed (.integer "sent") with default := some (.literal (.integer 0)) },
       .moment "created_at"] ["batch_id"] [.toUser "master_id"]),
     .createTable (.made "notification"
       [.text "notification_id", .needed (.text "batch_id"), .needed (.text "recipient_id"),
        .needed (.text "recipient_group_id"), .needed (.text "type"),
        .needed (.text "creation_timestamp"), .text "completion_timestamp"] ["notification_id"]
       [.single "recipient_group_id" "recipient_group" "recipient_group_id",
        .single "recipient_id" "recipient" "recipient_id",
        .single "batch_id" "notifications_batch" "batch_id"]),
     .createIndex notificationsByBatch]

/-- The column that tells when a session ends. Sessions opened before there was one have no expiry. -/
def expiryColumn : Column := .integer "expires_at"

def expiryAndContacts : Migration where
  version := 3
  changes :=
    [.addColumn "sessions" expiryColumn,
     .createTable (.made "telegram_contact" [.integer "telegram_id", .needed (.integer "active"),
       .moment "updated_at"] ["telegram_id"] [])]

def migrations : List Migration := [accountsAndEntities, batches, expiryAndContacts]

/-! ## Running them -/

namespace Catalog

/-- Makes the migrations above version `v`, up to the first that fails. -/
def upgrade (now : Instant) (v : Int) (c : Catalog) :
    List Migration → Except EngineFault Unit × Catalog
  | [] => (.ok (), c)
  | m :: rest =>
    if v < m.version then
      match Statement.runAll now c m.statements with
      | (.ok (), c) => upgrade now v c rest
      | failed => failed
    else upgrade now v c rest

/-- Brings the catalog up to date. -/
def migrate (now : Instant) (c : Catalog) : Except EngineFault Unit × Catalog :=
  match c.withVersionTable with
  | .error fault => (.error fault, c)
  | .ok c =>
    match c.version with
    | .ok v => c.upgrade now v migrations
    | .error fault => (.error fault, c)

end Catalog

end Schema

end AlertService
