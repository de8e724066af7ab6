import AlertService.Schema.Function.Pattern

/-!
# Functions of texts and bytes

Places in a text count from one, and from its end where they are negative.
-/

namespace AlertService.Schema

namespace Function

/-! ## Sizes and parts -/

/-- How many characters a text shows, or how many bytes something else has. -/
def length : Function := onValue fun c =>
  match c with
  | .text s => .integer (Pattern.visible s).length
  | c => .integer c.bytes.length

def octetLength : Function := onValue fun c => .integer c.bytes.length

/-- The number in 32 bits with a sign. -/
def short (c : Cell) : Int := c.whole.bmod 4294967296

/-- Where a part starts and how long it is: from a place, backwards where the length is negative. -/
def extent (size : Nat) (place length : Int) : Nat × Nat :=
  let (start, count) : Int × Int :=
    if place < 0 then
      let start := place + size
      if start < 0 then (0, max 0 (length.natAbs + start)) else (start, length.natAbs)
    else if 0 < place then (place - 1, length.natAbs)
    else (0, max 0 ((length.natAbs : Int) - 1))
  if length < 0 then
    let first := start - count
    if first < 0 then (0, (count + first).toNat) else (first.toNat, count.toNat)
  else (start.toNat, count.toNat)

/-- The part of a cell from a place on. -/
def part (c place : Cell) (length : Int) : Cell :=
  match c with
  | .blob [] => .null
  | .blob bs =>
    let (start, count) := extent bs.length (short place) length
    .blob ((bs.drop start).take count)
  | c =>
    match c.words? with
    | some s =>
      let cs := Pattern.visible s
      let (start, count) := extent cs.length (short place) length
      .text (.ofList ((cs.drop start).take count))
    | none => .null

def substring : Function := fun a =>
  match a.cells with
  | [c, place] => .ok (if place = .null then .null else part c place 1000000000)
  | [c, place, length] =>
    .ok (if place = .null ∨ length = .null then .null else part c place (short length))
  | _ => .error .undetermined

/-- The place of one list in another, counted from one; zero if there is none. -/
def placeOf {α : Type} [BEq α] (part : List α) (whole : List α) : Nat :=
  if part.isEmpty then 1
  else
    ((List.range whole.length).find? fun k => part.isPrefixOf (whole.drop k)).elim 0 (· + 1)

def place : Function := fun a =>
  match a.cells with
  | [.blob whole, .blob part] => .ok (.integer (placeOf part whole))
  | [whole, part] =>
    match whole.words?, part.words? with
    | some s, some t => .ok (.integer (placeOf t.toList s.toList))
    | _, _ => .ok .null
  | _ => .error .undetermined

/-! ## Changing texts -/

def upper : Function := onText fun s => .text s.toUpper

def lower : Function := onText fun s => .text s.toLower

/-- Puts a text in place of each occurrence of another. -/
def substitute (part new : List Char) (cs : List Char) : List Char :=
  match cs with
  | [] => []
  | c :: r =>
    if part ≠ [] ∧ part.isPrefixOf (c :: r) then new ++ substitute part new ((c :: r).drop part.length)
    else c :: substitute part new r
termination_by cs.length
decreasing_by
  · rename_i h
    have : 0 < part.length := List.length_pos_iff.2 h.1
    simp only [List.length_cons, List.length_drop]; omega
  · simp

def replace : Function := fun a =>
  match a.cells with
  | [whole, part, new] =>
    match whole.words?, part.words?, new.words? with
    | some s, some p, some n =>
      .ok (.text (.ofList (substitute (Pattern.visible p) n.toList s.toList)))
    | some s, some p, none => .ok (if (Pattern.visible p).isEmpty then .text s else .null)
    | _, _, _ => .ok .null
  | _ => .error .undetermined

/-- Takes characters away from the ends of a text, blanks unless others are given. -/
def trim (fromStart fromEnd : Bool) : Function := fun a =>
  let cut (c : Cell) (set : List Char) : Cell :=
    (c.words?.map fun s =>
      let cs := s.toList
      let cs := if fromStart then cs.dropWhile set.contains else cs
      .text (.ofList (if fromEnd then (cs.reverse.dropWhile set.contains).reverse else cs))).getD .null
  match a.cells with
  | [c] => .ok (cut c [' '])
  | [c, set] => .ok ((set.words?.map fun s => cut c (Pattern.visible s)).getD .null)
  | _ => .error .undetermined

/-- The texts of all cells that are not nothing, one after the other. -/
def concatenated (between : String) (cs : List Cell) : Cell :=
  .text (between.intercalate (cs.filterMap Cell.words?))

def concat : Function := fun a => .ok (concatenated "" a.cells)

def concatWith : Function := fun a =>
  match a.cells with
  | between :: cs => .ok ((between.words?.map fun s => concatenated s cs).getD .null)
  | [] => .error .undetermined

/-! ## Characters and bytes -/

/-- The character of a number; one that stands for what is none where there is no such character. -/
def characterOf (i : Int) : Char :=
  if 0 ≤ i ∧ i.toNat.isValidChar then Char.ofNat i.toNat else '\ufffd'

def ofCharacters : Function := fun a =>
  .ok (.text (.ofList (a.cells.map fun c => characterOf c.whole)))

def codePoint : Function := onText fun s =>
  ((Pattern.visible s).head?.map fun c => Cell.integer c.toNat).getD .null

/-- The two digits of a byte. -/
def hexDigits (b : UInt8) : List Char :=
  [Text.lowDigit (b.toNat / 16), Text.lowDigit b.toNat].map fun d => (Text.hexDigit d).toUpper

def hex : Function := unary fun c => .text (.ofList (c.bytes.flatMap hexDigits))

/-- The bytes that digits write in pairs, between which some characters are passed over. -/
def unhexed (passed : List Char) : List Char → Option Bytes
  | [] => some []
  | [c] => if (Text.hexValue? c).isNone && passed.contains c then some [] else none
  | c :: d :: r =>
    match Text.hexValue? c with
    | some high =>
      (Text.hexValue? d).bind fun low =>
        (unhexed passed r).map fun bs => UInt8.ofNat (high.val * 16 + low.val) :: bs
    | none => if passed.contains c then unhexed passed (d :: r) else none

def unhex : Function := fun a =>
  let read (c : Cell) (passed : List Char) : Cell :=
    match c.words? with
    | some s => ((unhexed passed (Pattern.visible s)).map Cell.blob).getD .null
    | none => .null
  match a.cells with
  | [c] => .ok (read c [])
  | [c, passed] => .ok ((passed.words?.map fun s => read c s.toList).getD .null)
  | _ => .error .undetermined

/-- The real number as it is written where it has to read back. -/
def writtenReal (x : Quantity) : String :=
  let short := x.text
  if (Numeral.ofText? short).any fun n => !n.quantity.isBelow x && !x.isBelow n.quantity then short
  else
    match x.size with
    | some s =>
      let style : Printed.Style := ⟨.exponent, 20, true, false, false, 'e'⟩
      .ofList ((if x.negative then ['-'] else []) ++ Printed.body style (Printed.digits style s))
    | none => if x.negative then "-9.0e+999" else "9.0e+999"

/-- The quote around texts. -/
def textQuote : Char := Char.ofNat 39

/-- A text in quotes; a quote in it is written twice. -/
def quotedText (cs : List Char) : List Char :=
  textQuote :: cs.flatMap (fun c => if c = textQuote then [c, c] else [c]) ++ [textQuote]

/-- A cell as it is written in definitions. -/
def quoted (c : Cell) : String :=
  match c with
  | .null => "NULL"
  | .integer i => toString i
  | .real x => writtenReal x
  | .text s => .ofList (quotedText (Pattern.visible s))
  | .blob bs => .ofList ('X' :: quotedText (bs.flatMap hexDigits))

def quote : Function := unary fun c => .text (quoted c)

/-! ## Sound -/

/-- The class of a letter by its sound, zero for what has none. -/
def soundClass (b : UInt8) : Nat :=
  match (Char.ofNat (b.toNat % 128)).toUpper with
  | 'B' | 'F' | 'P' | 'V' => 1
  | 'C' | 'G' | 'J' | 'K' | 'Q' | 'S' | 'X' | 'Z' => 2
  | 'D' | 'T' => 3
  | 'L' => 4
  | 'M' | 'N' => 5
  | 'R' => 6
  | _ => 0

/-- The classes of letters, without those that repeat the one before. -/
def soundClasses (before : Nat) : Bytes → List Nat
  | [] => []
  | b :: r =>
    let n := soundClass b
    if n = 0 then soundClasses 0 r
    else if n = before then soundClasses before r
    else n :: soundClasses n r

def isLetterByte (b : UInt8) : Bool := b.toNat < 128 && (Char.ofNat b.toNat).isAlpha

def sound : Function := unary fun c =>
  let bs := c.bytes.takeWhile (· ≠ 0)
  match bs.dropWhile fun b => !isLetterByte b with
  | b :: r =>
    let ds := (soundClasses (soundClass b) r ++ [0, 0, 0]).take 3
    .text (.ofList ((Char.ofNat b.toNat).toUpper :: ds.map fun d => Char.ofNat (48 + d)))
  | [] => .text "?000"

end Function

end AlertService.Schema
