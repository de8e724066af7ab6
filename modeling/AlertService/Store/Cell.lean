import AlertService.Decimal.Printed
import AlertService.Store.Numeral
import AlertService.Text.Utf8

/-!
# Cells

The raw content of a column, whatever the column is meant for. A column prefers a kind of content:
what is put into it is turned into that kind where nothing is lost. Cells are ordered: nothing comes
first, then the numbers by size, then the texts, then the bytes.
-/

namespace AlertService

/-- The raw content of a column. -/
inductive Cell where
  | null
  | integer (i : Int)
  | real (x : Quantity)
  | text (s : String)
  | blob (bs : Bytes)
deriving DecidableEq

namespace Cell

/-- The word for the kind of content. -/
def kindName : Cell → String
  | .null => "Null"
  | .integer _ => "Integer"
  | .real _ => "Real"
  | .text _ => "Text"
  | .blob _ => "Blob"

/-! ## Numbers -/

def leastInteger : Int := -9223372036854775808

def greatestInteger : Int := 9223372036854775807

/-- The number as it is written: with a point or an exponent it is real. -/
def ofNumeral (n : Numeral) : Cell :=
  if n.isPlain ∧ leastInteger ≤ n.integer ∧ n.integer ≤ greatestInteger then .integer n.integer
  else .real n.quantity

/-- The characters that bytes are taken for where a number is looked for. -/
def characters : Cell → List Char
  | .text s => s.toList
  | .blob bs => bs.map fun b => Char.ofNat b.toNat
  | _ => []

/-- The number of a cell: that of a text is the one it starts with. -/
def number : Cell → Cell
  | .null => .null
  | .integer i => .integer i
  | .real x => .real x
  | c => ((Numeral.take? c.characters).map fun n => ofNumeral n.1).getD (.integer 0)

/-- The real number nearest to the number of a cell. -/
def quantity : Cell → Quantity
  | .null => .zero
  | .integer i => .ofInt i
  | .real x => x
  | c => ((Numeral.take? c.characters).map fun n => n.1.quantity).getD .zero

/-- The whole number of a cell: of a text only the digits at its head count. -/
def whole : Cell → Int
  | .null => 0
  | .integer i => i
  | .real x => x.truncated leastInteger greatestInteger
  | c =>
    let (negative, cs) := Numeral.takeSign (c.characters.dropWhile Numeral.isBlank)
    let ds := (cs.takeWhile Text.isDigit).map fun d => d.toNat - 48
    max leastInteger (min greatestInteger (Quantity.signed negative (Text.ofDigits ds)))

/-- Whether a cell counts as true: it does unless its number is zero. Nothing is neither. -/
def truth? : Cell → Option Bool
  | .null => none
  | .integer i => some (i ≠ 0)
  | c => some (!c.quantity.isZero)

def ofTruth? : Option Bool → Cell
  | some b => .integer (if b then 1 else 0)
  | none => .null

/-! ## Texts -/

/-- The text of a cell, if it is not nothing. -/
def words? : Cell → Option String
  | .null => none
  | .integer i => some (toString i)
  | .real x => some x.text
  | .text s => some s
  | .blob bs => some (Utf8.lossy bs)

/-- The bytes of a cell; those of a number are those of its text. -/
def bytes : Cell → Bytes
  | .blob bs => bs
  | c => (c.words?.map Utf8.encode).getD []

/-! ## Preferences -/

/-- What becomes of a cell in a column of text. -/
def asText : Cell → Cell
  | .integer i => .text (toString i)
  | .real x => .text x.text
  | c => c

/-- A real number as the integer that it is, if it is one. The two integers farthest from zero are not
taken for exact. -/
def settled : Cell → Cell
  | .real x =>
    match x.fraction? with
    | some (n, d) =>
      if n % d = 0 ∧ leastInteger < n / d ∧ n / d < greatestInteger then .integer (n / d) else .real x
    | none => .real x
  | c => c

/-- What becomes of a cell in a column of integers. -/
def asInteger : Cell → Cell
  | .text s => ((Numeral.ofText? s).map fun n => (ofNumeral n).settled).getD (.text s)
  | c => c.settled

/-- What becomes of a cell in a column of real numbers. -/
def asReal (c : Cell) : Cell :=
  match c.asInteger with
  | .integer i => .real (.ofInt i)
  | c => c

end Cell

/-- The kind of content that a column prefers. -/
inductive Preference where
  | text
  | number
  | real
  | any
deriving DecidableEq

/-- What becomes of a cell in a column. -/
def Cell.prefer : Preference → Cell → Cell
  | .text, c => c.asText
  | .number, c => c.asInteger
  | .real, c => c.asReal
  | .any, c => c

/-! ## Order -/

/-- How texts are compared: as they are, without regard to the case of letters, or without the blanks
at their end. There may be no order of the name that is asked for. -/
inductive Collation where
  | exact
  | caseless
  | trimmed
  | unknown (name : String)
deriving DecidableEq

/-- What of a text counts in comparisons. -/
def Collation.key : Collation → String → String
  | .exact, s => s
  | .unknown _, s => s
  | .caseless, s => s.toLower
  | .trimmed, s => .ofList (s.toList.reverse.dropWhile (· = ' ')).reverse

namespace Cell

/-- The fraction that a number is, unless it is beyond all sizes. -/
def fraction? : Cell → Option (Int × Nat)
  | .integer i => some (i, 1)
  | .real x => x.fraction?
  | _ => none

/-- Whether a number is smaller than another. -/
def isSmaller (a b : Cell) : Bool :=
  match a.fraction?, b.fraction?, a, b with
  | some p, some q, _, _ => p.1 * q.2 < q.1 * p.2
  | none, none, .real x, .real y => x.negative && !y.negative
  | none, _, .real x, _ => x.negative
  | _, none, _, .real y => !y.negative
  | _, _, _, _ => false

/-- Whether bytes come before others. -/
def isEarlier : Bytes → Bytes → Bool
  | _, [] => false
  | [], _ :: _ => true
  | a :: as, b :: bs => a < b || a = b && isEarlier as bs

/-- Whether a cell comes before another. -/
def isBelow (order : Collation) (a b : Cell) : Bool :=
  match a, b with
  | _, .null => false
  | .null, _ => true
  | .blob x, .blob y => isEarlier x y
  | .blob _, _ => false
  | _, .blob _ => true
  | .text s, .text t => order.key s < order.key t
  | .text _, _ => false
  | _, .text _ => true
  | _, _ => isSmaller a b

/-- Neither of two cells comes before the other. -/
def isLevel (order : Collation) (a b : Cell) : Bool := !a.isBelow order b && !b.isBelow order a

end Cell

end AlertService
