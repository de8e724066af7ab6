import AlertService.Schema.Insertion

/-!
# References between rows

A reference leads to the numbers of the rows of a table, or to a key of it. Where it leads is settled
before any row is looked at; a row then fulfils a reference if some of its columns hold nothing, or if
the row is there that they name. A row can be the one that it names itself.
-/

namespace AlertService.Schema

namespace Reference

/-- Where a reference leads: the number of a row, or columns, each with the column that names it and the
order in which they are compared. -/
inductive Target where
  | number (child : String)
  | columns (pairs : List (String × String × Collation))
deriving DecidableEq

/-- The columns of a key, each with the column of the reference that names it. -/
def pairs? (r : Reference) (parent : Table) (k : Key) : Option (List (String × String × Collation)) :=
  if k.columns.length ≠ r.columns.length then none
  else if r.parentColumns.isEmpty then
    if k.isPrimary then some ((r.columns.zip k.columns).map fun (child, name, order) =>
      (child, name, order)) else none
  else
    k.columns.mapM fun (name, order) =>
      if order = parent.orderOf name then
        ((r.columns.zip r.parentColumns).find? fun p => sameName p.2 name).map fun p =>
          (p.1, name, order)
      else none

/-- Where a reference to a table leads, if it fits the table. -/
def target? (r : Reference) (parent : Table) : Option Target :=
  let byKey := (parent.tested.findSome? (r.pairs? parent)).map Target.columns
  match r.columns, parent.numbered? with
  | [child], some c =>
    if r.parentColumns.all (sameName c.name) then some (.number child) else byKey
  | _, _ => byKey

/-! ## Rows -/

/-- The row that a reference looks for is among the rows of a table, or it is the row itself. -/
def isFound (parent : Table) (child : Record) (isOwn : Bool) (others : List Record) : Target → Bool
  | .number name =>
    match child.content? name with
    | none => true
    | some c =>
      match c.asInteger with
      | .integer i => isOwn && child.number = i || others.any fun other => other.number = i
      | _ => false
  | .columns pairs =>
    let own := isOwn && pairs.all fun (name, target, _) =>
      match child.content? name, child.content? target with
      | some a, some b => b ≠ .null && a.isLevel .exact b
      | _, _ => false
    own || others.any fun other => pairs.all fun (name, target, order) =>
      match child.content? name, other.content? target with
      | some a, some b =>
        b ≠ .null && (a.prefer ((parent.column? target).elim .any Column.preference)).isLevel order b
      | _, _ => false

/-- A row fulfils a reference with that target. -/
def isFulfilled (r : Reference) (parent : Table) (child : Record) (isOwn : Bool)
    (others : List Record) (t : Target) : Bool :=
  (r.columns.any fun name => child.content? name = some .null) ||
    isFound parent child isOwn others t

end Reference

end AlertService.Schema
