import AlertService.Schema.Expression.Reader
import AlertService.Schema.Table

/-!
# Reading the definitions of a table

A definition names a column, its type and what else is said of it in clauses, or it is made of
clauses on the whole table.
-/

namespace AlertService.Schema

/-- A table as far as it has been read. The owner is the column that clauses are about, if they are about
one; the label names the conditions after it. -/
structure Draft where
  table : Table
  owner : Option String
  label : Option String

namespace Draft

/-! ## Parts of clauses -/

/-- What a type or a condition without a label is called: what is written, or where that starts with a
quote, what stands in these quotes. -/
def wording (cs : List Char) : String := .ofList (Lexeme.unquoted (Numeral.trimmed cs))

/-- What is to become of rows that break the rule before. -/
def resolution (ls : List Lexeme) : Option Resolution × List Lexeme :=
  match (Lexeme.afterWord? "on" ls).bind (Lexeme.afterWord? "conflict") with
  | some (l :: r) =>
    (some (if l.isWord "ignore" then .skip else if l.isWord "replace" then .replace else .refuse), r)
  | _ => (none, ls)

/-- The parts of a list in brackets, and the lexemes after it. -/
def listed (ls : List Lexeme) : List (List Lexeme) × List Lexeme :=
  match Lexeme.after? "(" ls with
  | some r =>
    let (inside, rest) := Lexeme.enclosed 0 r
    (Lexeme.parts 0 inside, rest.drop 1)
  | none => ([], ls)

/-- The name in a part of a list. -/
def nameIn? (part : List Lexeme) : Option String := (part.find? Lexeme.isName).map Lexeme.name

/-- The lexemes behind a word, wherever it stands. -/
def behind (word : String) (ls : List Lexeme) : List Lexeme :=
  (ls.dropWhile fun l => !l.isWord word).drop 1

/-- A column of a key: its name, and the order in which it is compared. -/
def keyColumn? (t : Table) (part : List Lexeme) : Option (String × Collation) :=
  (nameIn? part).map fun name =>
    (name, ((behind "collate" part).head?.map fun l =>
      Expression.collationNamed l.name).getD (t.orderOf name))

/-- The columns of a key: those that its clause lists, or the one that it stands at. Also says whether
the table counts its rows. -/
def keyColumns (d : Draft) (ls : List Lexeme) : List (String × Collation) × Bool × List Lexeme :=
  match d.owner with
  | some name => ([(name, d.table.orderOf name)], false, ls)
  | none =>
    let (parts, rest) := listed ls
    (parts.filterMap (keyColumn? d.table), parts.flatten.any (·.isWord "autoincrement"), rest)

/-- The value of a default, and the lexemes after it. A name alone is a text, but for those of truth and
of the time. -/
def defaultOf (ls : List Lexeme) : Expression × List Lexeme :=
  match ls with
  | l :: r =>
    if l.kind = .quoted ∨ l.kind = .word ∧
        !l.isAnyOf (["null", "true", "false"] ++ Expression.timeWords) then
      (.literal (.text l.name), r)
    else
      match Expression.operand (Expression.steps ls) ls with
      | some (e, rest) => (e.single, rest)
      | none => (.undetermined, r)
  | [] => (.undetermined, [])

/-- Changes the column that clauses are about. -/
def changeOwner (d : Draft) (f : Column → Column) : Draft :=
  match d.owner with
  | some name => { d with table := d.table.changeColumn name f }
  | none => d

/-! ## Clauses -/

def required (d : Draft) (ls : List Lexeme) : Draft × List Lexeme :=
  let (r, ls) := resolution ls
  (d.changeOwner fun c => { c with required := some (r.getD .refuse) }, ls)

def primary (d : Draft) (ls : List Lexeme) : Draft × List Lexeme :=
  let (columns, counts, ls) := d.keyColumns ls
  let isDenied := d.owner.isSome && ls.head?.any (·.isWord "desc")
  let ls := if ls.head?.any (·.isAnyOf ["asc", "desc"]) then ls.drop 1 else ls
  let (r, ls) := resolution ls
  let (counts, ls) :=
    match Lexeme.afterWord? "autoincrement" ls with
    | some rest => (true, rest)
    | none => (counts, ls)
  let t := d.table.withPrimary ⟨columns, true, r⟩ isDenied
  ({ d with table := { t with counts := t.counts || counts } }, ls)

def unique (d : Draft) (ls : List Lexeme) : Draft × List Lexeme :=
  let (columns, _, ls) := d.keyColumns ls
  let (r, ls) := resolution ls
  ({ d with table := d.table.withKey ⟨columns, false, r⟩ }, ls)

def check (d : Draft) (ls : List Lexeme) : Draft × List Lexeme :=
  let (inside, rest) := Lexeme.enclosed 0 (ls.drop 1)
  let written := Lexeme.written inside ++ (rest.head?.map (·.gap)).getD []
  let c : Check := ⟨d.label.getD (wording written), .ofLexemes inside⟩
  ({ d with table := { d.table with checks := d.table.checks ++ [c] } }, (resolution (rest.drop 1)).2)

/-- The order of the column, which is also that of the key of this column alone. -/
def collate (d : Draft) (ls : List Lexeme) : Draft × List Lexeme :=
  match ls, d.owner with
  | l :: r, some name =>
    let order := Expression.collationNamed l.name
    let d := d.changeOwner fun c => { c with order := order }
    let keys := d.table.keys.map fun k =>
      match k.columns with
      | [(n, _)] => if sameName n name then { k with columns := [(n, order)] } else k
      | _ => k
    ({ d with table := { d.table with keys := keys } }, r)
  | _, _ => (d, ls.drop 1)

/-- A reference from columns to what the lexemes name. -/
def reference (d : Draft) (columns : List String) (ls : List Lexeme) : Draft × List Lexeme :=
  match ls with
  | l :: r =>
    let (parts, rest) := listed r
    ({ d with
      table := d.table.withReference ⟨columns, l.name, parts.filterMap nameIn?, false⟩ }, rest)
  | [] => (d, [])

/-- When the last reference is tested. -/
def deferral (d : Draft) (ls : List Lexeme) (isPossible : Bool) : Draft × List Lexeme :=
  let (isDeferred, ls) :=
    match Lexeme.afterWord? "initially" ls with
    | some (l :: r) => (isPossible && l.isWord "deferred", r)
    | _ => (false, ls)
  let references :=
    match d.table.references with
    | r :: rs => { r with isDeferred := isDeferred } :: rs
    | [] => []
  ({ d with table := { d.table with references := references } }, ls)

/-- The lexemes behind what happens when rows that are referred to change. -/
def afterAction (ls : List Lexeme) : List Lexeme :=
  if (ls.drop 1).head?.any (·.isAnyOf ["set", "no"]) then ls.drop 3 else ls.drop 2

/-- The expression that computes a column, and the lexemes after it. -/
def computed (d : Draft) (ls : List Lexeme) : Draft × List Lexeme :=
  let (inside, rest) := Lexeme.enclosed 0 (ls.drop 1)
  let rest := rest.drop 1
  (d.changeOwner fun c => { c with computed := some (.ofLexemes inside) },
    if rest.head?.any (·.isAnyOf ["stored", "virtual"]) then rest.drop 1 else rest)

/-- Reads a clause that starts with a lexeme, and gives the lexemes after it. -/
def clause (d : Draft) (l : Lexeme) (ls : List Lexeme) : Draft × List Lexeme :=
  if l.isWord "constraint" then ({ d with label := ls.head?.map Lexeme.name }, ls.drop 1)
  else if l.isWord "not" then
    if ls.head?.any (·.isWord "deferrable") then d.deferral (ls.drop 1) false
    else d.required (ls.drop 1)
  else if l.isWord "null" then (d, (resolution ls).2)
  else if l.isWord "primary" then d.primary (ls.drop 1)
  else if l.isWord "unique" then d.unique ls
  else if l.isWord "check" then d.check ls
  else if l.isWord "default" then
    let (e, ls) := defaultOf ls
    (d.changeOwner fun c => { c with default := some e }, ls)
  else if l.isWord "collate" then d.collate ls
  else if l.isWord "foreign" then
    let (parts, rest) := listed (ls.drop 1)
    d.reference (parts.filterMap nameIn?) (rest.drop 1)
  else if l.isWord "references" then d.reference d.owner.toList ls
  else if l.isWord "on" then (d, afterAction ls)
  else if l.isWord "match" then (d, ls.drop 1)
  else if l.isWord "deferrable" then d.deferral ls true
  else if l.isWord "generated" then (d, ls.drop 1)
  else if l.isWord "as" then d.computed ls
  else (d, ls)

/-- Reads clauses; each takes at least one lexeme. -/
def clauses : (steps : Nat) → Draft → List Lexeme → Draft
  | 0, d, _ => d
  | _, d, [] => d
  | steps + 1, d, l :: ls =>
    let (d, rest) := d.clause l ls
    clauses steps d rest

/-! ## Columns -/

/-- The words that end the type of a column. -/
def clauseWords : List String :=
  ["constraint", "primary", "not", "null", "unique", "check", "default", "collate", "references", "as"]

/-- The words that start clauses on the whole table. -/
def tableWords : List String := ["constraint", "primary", "unique", "check", "foreign"]

/-- The type without the words for a computed column at its end. -/
def ownType (ls : List Lexeme) : List Lexeme :=
  match ls.reverse with
  | always :: generated :: r =>
    if always.isWord "always" && generated.isWord "generated" then r.reverse else ls
  | _ => ls

/-- Reads one definition. The label that is left of a column also names the conditions of clauses on the
table that follow it at once. -/
def definition (d : Draft) (ls : List Lexeme) : Draft :=
  match ls with
  | [] => d
  | l :: rest =>
    if l.isAnyOf tableWords then
      { clauses ls.length { d with owner := none } ls with label := none }
    else
      let type := rest.takeWhile fun m => !m.isAnyOf clauseWords
      let column : Column :=
        { Column.plain l.name with type := wording (Lexeme.writtenAlone (ownType type)) }
      clauses ls.length ⟨d.table.withColumn column, some l.name, none⟩ (rest.drop type.length)

end Draft

namespace Table

/-- The name that a table is given, without what says where it is. -/
def nameOf (name : String) : String :=
  ((Lexeme.read name.toList).getLast?.map Lexeme.name).getD name

/-- The name that a table is given says that it is temporary. -/
def isTemporaryName (name : String) : Bool :=
  match Lexeme.read name.toList with
  | place :: dot :: _ => sameName place.name "temp" && dot.isMark "."
  | _ => false

/-- The table that its definitions define. -/
def ofDefinitions (name : String) (definitions : List String) : Table :=
  let text := '(' :: (", ".intercalate definitions).toList ++ [')']
  let (inside, _) := Lexeme.enclosed 0 ((Lexeme.read text).drop 1)
  ((Lexeme.parts 0 inside).foldl Draft.definition ⟨.empty (nameOf name), none, none⟩).table

end Table

end AlertService.Schema
