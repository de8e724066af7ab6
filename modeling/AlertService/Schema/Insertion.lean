import AlertService.Schema.Expression.Value
import AlertService.Schema.Table

/-!
# New rows

A row is made of what is given for one column and of the defaults of all others; computed columns come
after these. A row is refused or passed over where a column that needs content has none, where a
condition is false, or where a key is taken, unless it takes the place of the other row.
-/

namespace AlertService.Schema

/-- Why a row does not get into a table: it is passed over, or refused. -/
inductive Rejection where
  | skipped
  | refused (f : EngineFault)
deriving DecidableEq

abbrev Admission (α : Type) := Except Rejection α

namespace Admission

/-- What an expression comes to, if that is known. -/
def ofOutcome {α : Type} (x : Outcome α) : Admission (Option α) :=
  match x.known with
  | .ok r => .ok r
  | .error f => .error (.refused f)

/-- What becomes of a row that breaks a rule and takes no other place. -/
def rejected {α : Type} (resolution : Resolution) (f : EngineFault) : Admission α :=
  match resolution with
  | .skip => .error .skipped
  | _ => .error (.refused f)

end Admission

namespace Table

/-! ## Content -/

/-- The row with the content of a column. -/
def setting (row : Expression.Row) (c : Column) (content : Option Cell) : Expression.Row :=
  row.map fun e => if sameName e.name c.name then entry c content else e

/-- The content that a column has by default. -/
def defaultContent (around : Circumstances) (chance : Nat) (c : Column) : Admission (Option Cell) :=
  match c.default with
  | none => .ok (some .null)
  | some e => .ofOutcome (e.value (.alone around chance))

/-- The row with that number that is given for one column, without its computed columns. -/
def given (t : Table) (column : String) (cell : Cell) (number : Int) (around : Circumstances) :
    Admission Expression.Row :=
  t.columns.zipIdx.mapM fun (c, index) =>
    if c.isNumbered then .ok (entry c (some (.integer number)))
    else if sameName c.name column then .ok (entry c (some cell))
    else if c.computed.isSome then .ok (entry c none)
    else (defaultContent around (number.natAbs * 1000 + index) c).map (entry c)

/-- What an expression is computed in for a row, in a place that is not free to ask for the time. -/
def settingOf (row : Expression.Row) (number : Int) (around : Circumstances) (place : String) : Setting :=
  ⟨row, some number, around, number.natAbs * 1000, some place⟩

/-- What is wrong with the expressions of a table where a row is given for a column, for all rows. -/
def refusal? (t : Table) (column : String) : Option EngineFault :=
  let shape := t.columns.map fun c => entry c none
  let ofColumn (c : Column) : List Expression :=
    (if sameName c.name column then [] else c.default.toList) ++ c.computed.toList
  (t.columns.flatMap ofColumn ++ t.checks.map fun c => c.condition.simplified shape).findSome?
    (·.refusal? shape)

/-- The first column whose expression names none of the others that are left. -/
def ready? (left : List Column) : Option Column :=
  left.find? fun c =>
    !((c.computed.map Expression.names).getD []).any fun n => left.any fun d => sameName d.name n

/-- Computes the columns that are left, those first that depend on no other one. It is refused where all
depend on others that are left. -/
def compute (number : Int) (around : Circumstances) : (steps : Nat) → (left : List Column) →
    Expression.Row → Admission Expression.Row
  | 0, _, row => .ok row
  | steps + 1, left, row =>
    match ready? left with
    | none => (left.getLast?.map fun c => .error (.refused (.columnLoop c.name))).getD (.ok row)
    | some c => do
      let e := c.computed.getD .undetermined
      let content ← Admission.ofOutcome (e.value (settingOf row number around "a generated column"))
      compute number around steps (left.filter fun d => !sameName d.name c.name) (setting row c content)

/-- The row with its computed columns. -/
def computed (t : Table) (number : Int) (around : Circumstances) (row : Expression.Row) :
    Admission Expression.Row :=
  let left := t.columns.filter fun c => c.computed.isSome
  compute number around left.length left row

/-! ## Missing content -/

/-- The column has no content in the row. -/
def lacks (row : Expression.Row) (c : Column) : Bool :=
  (row.entry? c.name).any fun e => e.content = some .null

/-- Tests a column that needs content; one that replaces nothing by its default gets it. -/
def supply (t : Table) (around : Circumstances) (row : Expression.Row) (c : Column) :
    Admission Expression.Row :=
  match c.required with
  | none => .ok row
  | some resolution =>
    if c.isNumbered || c.computed.isSome || !lacks row c then .ok row
    else if resolution = .replace ∧ c.default.isSome then
      (defaultContent around 0 c).map (setting row c)
    else .rejected resolution (.notNull (t.qualified c.name))

/-- Tests a computed column, or one that has been supplied. -/
def confirm (t : Table) (row : Expression.Row) (c : Column) : Admission Unit :=
  match c.required with
  | none => .ok ()
  | some resolution =>
    if !c.isNumbered && (c.computed.isSome || resolution = .replace) && lacks row c then
      .rejected resolution (.notNull (t.qualified c.name))
    else .ok ()

/-- The row with content where it is needed. -/
def supplied (t : Table) (number : Int) (around : Circumstances) (row : Expression.Row) :
    Admission Expression.Row := do
  let row ← t.columns.foldlM (t.supply around) row
  let row ← t.computed number around row
  t.columns.forM (t.confirm row)
  return row

/-! ## Conditions -/

/-- Tests a condition. One of which it is not known whether it holds is taken to hold. -/
def test (number : Int) (around : Circumstances) (row : Expression.Row) (c : Check) : Admission Unit := do
  let s := settingOf row number around "a CHECK constraint"
  match ← Admission.ofOutcome ((c.condition.simplified row).holds s true) with
  | some false => .error (.refused (.check c.label))
  | _ => .ok ()

/-! ## Keys -/

/-- Two rows have the same content in a column of a key, and it is not nothing. -/
def agrees (row : Expression.Row) (other : Record) (column : String × Collation) : Bool :=
  match (row.entry? column.1).bind (·.content), other.content? column.1 with
  | some a, some b => a ≠ .null && b ≠ .null && a.isLevel column.2 b
  | _, _ => false

/-- The other rows without those that have a key in common with the row. -/
def without (row : Expression.Row) (k : Key) (others : List Record) : List Record :=
  others.filter fun other => !k.columns.all (agrees row other)

/-- Makes place for a row at a key, if the key is taken. -/
def claim (t : Table) (row : Expression.Row) (others : List Record) (k : Key) :
    Admission (List Record) :=
  let rest := without row k others
  if rest.length = others.length then .ok others
  else if k.resolution = some .replace then .ok rest
  else .rejected (k.resolution.getD .refuse)
    (.unique (", ".intercalate (k.columns.map fun c => t.qualified c.1)))

/-- Makes place for the number of a row, if a row has it. -/
def claimNumber (t : Table) (number : Int) (others : List Record) : Admission (List Record) :=
  let rest := others.filter fun other => other.number ≠ number
  if rest.length = others.length then .ok others
  else if t.numbering = some .replace then .ok rest
  else .rejected (t.numbering.getD .refuse)
    (.unique (t.qualified ((t.numbered?.map (·.name)).getD "rowid")))

/-! ## Admission -/

/-- The number of the next row: one more than all before it, or what is given for the column that holds
the numbers. `last` is the greatest number that was ever given. -/
def nextNumber (t : Table) (column : String) (cell : Cell) (last : Int) (others : List Record) : Int :=
  if t.numbered?.any fun c => sameName c.name column then cell.whole
  else
    let greatest := others.foldl (fun n r => max n r.number) 0
    (if t.counts then max last greatest else greatest) + 1

/-- The row as it gets into the table, and the other rows that stay there. -/
def insert (t : Table) (column : String) (cell : Cell) (number : Int) (around : Circumstances)
    (others : List Record) : Admission (Record × List Record) := do
  if let some f := t.refusal? column then throw (.refused f)
  let row ← t.given column cell number around
  let row ← t.computed number around row
  let row ← t.supplied number around row
  t.checks.forM (test number around row)
  let others ← t.claimNumber number others
  let others ← t.tested.foldlM (t.claim row) others
  return (⟨number, row⟩, others)

end Table

end AlertService.Schema
