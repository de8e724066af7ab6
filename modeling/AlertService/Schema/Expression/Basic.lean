import AlertService.Schema.Lexeme
import AlertService.Store.Cell
import AlertService.Store.Error

/-!
# Expressions over a row

What the definitions of a table compute from a row: defaults, computed columns and conditions. An
expression can prefer a kind of content and compare texts in some order, as the columns do that it
names.
-/

namespace AlertService.Schema

inductive Operator where
  | or
  | and
  | equal
  | same
  | less
  | add
  | subtract
  | multiply
  | divide
  | remainder
  | allBits
  | anyBits
  | shiftLeft
  | shiftRight
  | join
deriving DecidableEq

/-- What content can be turned into. -/
inductive Conversion where
  | text
  | integer
  | number
  | real
  | bytes
deriving DecidableEq

/-- In `name` the flag tells a name in double quotes, which is a text where there is no such column.
What is `plain` prefers no kind of content; what is `bare` has no order of texts either. A `choice` is
made by a test. What is `refused` has no value in any row. Several expressions are `misused` in the place
of one. -/
inductive Expression where
  | literal (c : Cell)
  | number (n : Numeral)
  | name (s : String) (isQuoted : Bool)
  | not (e : Expression)
  | negate (e : Expression)
  | invert (e : Expression)
  | plain (e : Expression)
  | bare (e : Expression)
  | collated (e : Expression) (order : Collation)
  | cast (e : Expression) (kind : Conversion)
  | binary (op : Operator) (a b : Expression)
  | choice (test value otherwise : Expression)
  | call (function : String) (arguments : List Expression)
  | refused (f : EngineFault)
  | misused
  | undetermined

/-! ## Types -/

/-- The text contains the word. -/
def mentions (word : String) : List Char → Bool
  | [] => word.isEmpty
  | c :: r => word.toList.isPrefixOf (c :: r) || mentions word r

/-- What a type turns content into, by the words in it. -/
def Conversion.ofType (type : String) : Conversion :=
  let cs := type.toLower.toList
  if mentions "int" cs then .integer
  else if ["char", "clob", "text"].any (mentions · cs) then .text
  else if mentions "blob" cs then .bytes
  else if ["real", "floa", "doub"].any (mentions · cs) then .real
  else .number

def Conversion.preference : Conversion → Preference
  | .text => .text
  | .integer => .number
  | .number => .number
  | .real => .real
  | .bytes => .any

namespace Expression

/-! ## Rows -/

/-- A column of a row: what it prefers, how its texts are compared, and its content, if that is known. -/
structure Entry where
  name : String
  preference : Preference
  order : Collation
  content : Option Cell
deriving DecidableEq

abbrev Row := List Entry

def Row.entry? (r : Row) (name : String) : Option Entry := r.find? fun e => sameName e.name name

/-- The names that stand for the number of a row where no column has them. -/
def rowNumberNames : List String := ["rowid", "oid", "_rowid_"]

def isRowNumber (row : Row) (s : String) : Bool :=
  (row.entry? s).isNone && rowNumberNames.any (sameName s)

/-! ## Preferences and orders -/

/-- The preference of the column that an expression names, or of what it is turned into. -/
def preference? (row : Row) : Expression → Option Preference
  | name s _ =>
    if isRowNumber row s then some .number else (row.entry? s).map (·.preference)
  | cast _ kind => some kind.preference
  | collated e _ => preference? row e
  | _ => none

mutual

/-- The order of texts that is asked for somewhere in an expression. -/
def explicitOrder? : Expression → Option Collation
  | collated _ order => some order
  | not e => explicitOrder? e
  | negate e => explicitOrder? e
  | invert e => explicitOrder? e
  | plain e => explicitOrder? e
  | cast e _ => explicitOrder? e
  | binary _ a b => (explicitOrder? a).orElse fun _ => explicitOrder? b
  | choice test value otherwise =>
    (explicitOrder? test).orElse fun _ =>
      (explicitOrder? value).orElse fun _ => explicitOrder? otherwise
  | call _ es => firstOrder? es
  | literal _ => none
  | number _ => none
  | name _ _ => none
  | bare _ => none
  | refused _ => none
  | misused => none
  | undetermined => none

/-- The first order of texts that is asked for in a list. -/
def firstOrder? : List Expression → Option Collation
  | [] => none
  | e :: es => (explicitOrder? e).orElse fun _ => firstOrder? es

end

/-- The order of texts of an expression: that of a column, or one that is asked for. -/
def order? (row : Row) : Expression → Option Collation
  | name s _ => (row.entry? s).map (·.order)
  | plain e => order? row e
  | cast e _ => order? row e
  | e => explicitOrder? e

/-- The order in which two expressions are compared. An order that is asked for goes before that of a
column, and the left side before the right one. -/
def commonOrder (row : Row) (a b : Expression) : Collation :=
  let found :=
    if (explicitOrder? a).isSome then order? row a
    else if (explicitOrder? b).isSome then order? row b
    else (order? row a).orElse fun _ => order? row b
  found.getD .exact

/-! ## Names -/

mutual

/-- The names in an expression. -/
def names : Expression → List String
  | name s _ => [s]
  | not e => names e
  | negate e => names e
  | invert e => names e
  | plain e => names e
  | bare e => names e
  | collated e _ => names e
  | cast e _ => names e
  | binary _ a b => names a ++ names b
  | choice test value otherwise => names test ++ names value ++ names otherwise
  | call _ es => allNames es
  | literal _ => []
  | number _ => []
  | refused _ => []
  | misused => []
  | undetermined => []

def allNames : List Expression → List String
  | [] => []
  | e :: es => names e ++ allNames es

end

/-- An expression of literals and operators alone. -/
def isConstant : Expression → Bool
  | literal _ => true
  | number _ => true
  | not e => isConstant e
  | negate e => isConstant e
  | invert e => isConstant e
  | plain e => isConstant e
  | collated e _ => isConstant e
  | cast e _ => isConstant e
  | binary _ a b => isConstant a && isConstant b
  | choice test value otherwise => isConstant test && isConstant value && isConstant otherwise
  | _ => false

end Expression

end AlertService.Schema
