import AlertService.Schema.Function.Text

/-!
# Texts with places to fill

A template holds directives, each of which is filled with the next argument: flags, a width, a
precision and a letter that says how the argument is written. Widths count bytes, unless a directive
is full. What is missing counts as zero or as an empty text. The text ends at a letter that is none.
-/

namespace AlertService.Schema

structure Directive where
  isLeft : Bool
  lead : Option Char
  isAlternate : Bool
  isFull : Bool
  isPadded : Bool
  groups : Bool
  width : Nat
  precision : Option Nat
deriving DecidableEq

namespace Directive

def empty : Directive := ⟨false, none, false, false, false, false, 0, none⟩

/-- The flag that a character sets, if it is one. -/
def withFlag? (d : Directive) (c : Char) : Option Directive :=
  match c with
  | '-' => some { d with isLeft := true }
  | '+' => some { d with lead := some '+' }
  | ' ' => some { d with lead := some ' ' }
  | '#' => some { d with isAlternate := true }
  | '!' => some { d with isFull := true }
  | '0' => some { d with isPadded := true }
  | ',' => some { d with groups := true }
  | _ => none

/-- Reads the flags at the head. -/
def readFlags (d : Directive) : List Char → Directive × List Char
  | [] => (d, [])
  | c :: r =>
    match d.withFlag? c with
    | some d => readFlags d r
    | none => (d, c :: r)

/-! ## Arguments -/

/-- The next argument, and the others. -/
def next (cs : List Cell) : Cell × List Cell := (cs.headD .null, cs.tail)

/-- The greatest width and precision. -/
def greatest : Nat := 1000000

/-- A number that is written, or taken from the next argument where an asterisk stands. -/
def readCount (cs : List Char) (args : List Cell) : Int × List Char × List Cell :=
  match cs with
  | '*' :: r =>
    let (c, args) := next args
    (c.whole.bmod 4294967296, r, args)
  | cs => (Text.ofDigits ((cs.takeWhile Text.isDigit).map fun c => c.toNat - 48),
      cs.dropWhile Text.isDigit, args)

/-- Reads a width, which is on the left where it is negative. -/
def readWidth (d : Directive) (cs : List Char) (args : List Cell) :
    Directive × List Char × List Cell :=
  let (n, cs, args) := readCount cs args
  ({ d with width := min greatest n.natAbs, isLeft := d.isLeft || n < 0 }, cs, args)

/-- Reads a precision behind a point. -/
def readPrecision (d : Directive) (cs : List Char) (args : List Cell) :
    Directive × List Char × List Cell :=
  match cs with
  | '.' :: r =>
    let (n, cs, args) := readCount r args
    ({ d with precision := some (min greatest n.natAbs) }, cs, args)
  | cs => (d, cs, args)

/-- Passes over the letters that tell the size of a number elsewhere. -/
def afterSize : List Char → List Char
  | 'l' :: 'l' :: r => r
  | 'l' :: r => r
  | cs => cs

/-! ## Writing -/

/-- Bytes with blanks up to the width. -/
def aligned (d : Directive) (bs : Bytes) (size : Nat) : Bytes :=
  let blanks := List.replicate (d.width - size) (UInt8.ofNat 32)
  if d.isLeft then bs ++ blanks else blanks ++ bs

def characters (cs : List Char) : Bytes := Utf8.encode (.ofList cs)

/-- How many bytes of text are no first bytes of characters. -/
def follows (bs : Bytes) : Nat := (bs.filter fun b => b.toNat / 64 = 2).length

/-- The size of text that counts for the width: its characters in a full directive, else its bytes. -/
def size (isFull : Bool) (bs : Bytes) : Nat := bs.length - if isFull then follows bs else 0

/-- The words for numbers that count. -/
def ordinal (n : Nat) : List Char :=
  let x := if n / 10 % 10 = 1 then 0 else n % 10
  if x = 1 then ['s', 't'] else if x = 2 then ['n', 'd'] else if x = 3 then ['r', 'd'] else ['t', 'h']

/-- A whole number in a base, behind `lead` and `mark`. -/
def integer (d : Directive) (base : Nat) (upper groups : Bool) (lead mark : List Char) (n : Nat)
    (suffix : List Char) : Bytes :=
  let ds := (Nat.toDigits base n).map fun c => if upper then c.toUpper else c
  let ds := ds ++ suffix
  let least := max (d.precision.getD 0) (if d.isPadded then d.width - lead.length else 0)
  let ds := List.replicate (least - ds.length) '0' ++ ds
  let ds := if groups then Printed.grouped ds else ds
  let bs := characters ((if n = 0 ∨ !d.isAlternate then [] else mark) ++ lead ++ ds)
  d.aligned bs bs.length

/-- The sign in front of a number. -/
def leadOf (d : Directive) (negative : Bool) : List Char :=
  if negative then ['-'] else d.lead.toList

/-- A real number. -/
def real (d : Directive) (kind : Printed.Kind) (letter : Char) (x : Quantity) : Bytes :=
  let negative := x.negative && !x.isZero
  let style : Printed.Style :=
    ⟨kind, d.precision.getD 6, d.isFull, d.isAlternate, d.groups, letter⟩
  let written (ds : Paired.Digits) : Bytes :=
    let isNothing :=
      d.isAlternate && d.lead.isNone && kind = .fixed && ds.point ≤ -(style.precision : Int)
    let lead := if isNothing && negative then [] else d.leadOf negative
    let cs := Printed.body style ds
    let zeros := if d.isPadded && !d.isLeft then d.width - (lead.length + cs.length) else 0
    let bs := characters (lead ++ List.replicate zeros '0' ++ cs)
    d.aligned bs bs.length
  match x.size with
  | some s => written (Printed.digits style s)
  | none =>
    if d.isPadded then written ⟨[9], 1000⟩
    else
      let bs := characters (d.leadOf negative ++ ['I', 'n', 'f'])
      d.aligned bs bs.length

/-- The first characters of a text, or its first bytes. -/
def cut (d : Directive) (s : List Char) : Bytes :=
  match d.precision with
  | none => characters s
  | some n => if d.isFull then characters (s.take n) else (characters s).take n

/-- A text in which a quote is written twice. -/
def doubled (quote : Nat) (bs : Bytes) : Bytes :=
  bs.flatMap fun b => if b.toNat = quote then [b, b] else [b]

/-- A character, repeated as often as the precision says. -/
def character (d : Directive) (c : Cell) : Bytes :=
  let cs : List Char :=
    match c.words? with
    | some s => (Pattern.visible s).take 1
    | none => []
  let bs := if cs.isEmpty then [0] else characters cs
  let count := max 1 (d.precision.getD 1)
  d.aligned (List.replicate count bs).flatten count

/-- Fills a directive with an argument, by its letter. -/
def fill? (d : Directive) (letter : Char) (c : Cell) : Option Bytes :=
  let text (bs : Bytes) : Bytes := d.aligned bs (size d.isFull bs)
  let visible := (c.words?.map Pattern.visible).getD []
  let i := c.whole
  let word := (i % 18446744073709551616).toNat
  match letter with
  | 'd' | 'i' => some (d.integer 10 false d.groups (d.leadOf (i < 0)) [] i.natAbs [])
  | 'r' => some (d.integer 10 false false (d.leadOf (i < 0)) [] i.natAbs (ordinal i.natAbs))
  | 'u' => some (d.integer 10 false d.groups [] [] word [])
  | 'x' | 'p' => some (d.integer 16 false false [] ['0', 'x'] word [])
  | 'X' => some (d.integer 16 true false [] ['0', 'X'] word [])
  | 'o' => some (d.integer 8 false false [] ['0'] word [])
  | 'f' => some (d.real .fixed 'e' c.quantity)
  | 'e' => some (d.real .exponent 'e' c.quantity)
  | 'E' => some (d.real .exponent 'E' c.quantity)
  | 'g' => some (d.real .general 'e' c.quantity)
  | 'G' => some (d.real .general 'E' c.quantity)
  | 'c' => some (d.character c)
  | 's' | 'z' => some (text (d.cut visible))
  | 'q' => some (text (doubled 39 (d.cut (if c = .null then "(NULL)".toList else visible))))
  | 'w' => some (text (doubled 34 (d.cut (if c = .null then "(NULL)".toList else visible))))
  | 'Q' =>
    some (text (if c = .null then d.cut "NULL".toList
      else 39 :: doubled 39 (d.cut visible) ++ [39]))
  | _ => none

end Directive

namespace Template

/-- Fills the directive that starts behind a percent sign; also gives the text and the arguments after
it. Two percent signs stand for one. -/
def fillNext? (cs : List Char) (args : List Cell) : Option (Bytes × List Char × List Cell) :=
  let (d, cs) := Directive.empty.readFlags cs
  let (d, cs, args) := d.readWidth cs args
  let (d, cs, args) := d.readPrecision cs args
  match Directive.afterSize cs with
  | [] => none
  | letter :: r =>
    if letter = '%' then some (d.aligned [37] 1, r, args)
    else if letter = 'n' then some ([], r, args)
    else
      let (c, args) := Directive.next args
      (d.fill? letter c).map fun bs => (bs, r, args)

/-- The text that a template becomes. There are no more directives than characters. -/
def filled : (steps : Nat) → List Char → List Cell → Bytes
  | 0, _, _ => []
  | steps + 1, cs, args =>
    let plain := cs.takeWhile (· ≠ '%')
    Directive.characters plain ++
      match cs.dropWhile (· ≠ '%') with
      | [] => []
      | [c] => Directive.characters [c]
      | _ :: r =>
        match fillNext? r args with
        | some (bs, r, args) => bs ++ filled steps r args
        | none => []

/-- The text that a template becomes with arguments. Nothing comes of an empty one. -/
def format : Function := fun a =>
  match a.cells with
  | template :: args =>
    let cs := (template.words?.map Pattern.visible).getD []
    .ok (if cs.isEmpty then .null else .text (Utf8.lossy (filled (cs.length + 1) cs args)))
  | [] => .ok .null

end Template

end AlertService.Schema
