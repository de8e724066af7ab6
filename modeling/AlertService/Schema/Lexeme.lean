import AlertService.Text.Digits

/-!
# Lexemes of definitions

The definitions of a table are read as words, names in quotes, texts, bytes, numbers and marks. A
lexeme keeps how it is written and the gap before it, which is made of blanks and remarks.
-/

namespace AlertService.Schema

/-- Names that differ in the case of letters only are the same name. -/
def sameName (a b : String) : Bool := a.toList.map Char.toLower = b.toList.map Char.toLower

namespace Lexeme

inductive Kind where
  | word
  | quoted
  | text
  | bytes
  | number
  | mark
deriving DecidableEq

end Lexeme

structure Lexeme where
  kind : Lexeme.Kind
  gap : List Char
  source : List Char
deriving DecidableEq

namespace Lexeme

/-! ## Gaps -/

def isBlank (c : Char) : Bool := c = ' ' || c = '\t' || c = '\n' || c = '\r' || c.toNat = 12

/-- How many characters there are up to the end of the line. -/
def lineSize (cs : List Char) : Nat := (cs.takeWhile (· ≠ '\n')).length

/-- How many characters there are up to the end of a remark in asterisks. -/
def blockSize : List Char → Nat
  | '*' :: '/' :: _ => 2
  | _ :: r => 1 + blockSize r
  | [] => 0

/-- How long the remark at the head of a text is, zero if there is none. -/
def remarkSize : List Char → Nat
  | '-' :: '-' :: r => 2 + lineSize r
  | '/' :: '*' :: c :: r => 2 + blockSize (c :: r)
  | _ => 0

/-- How many characters of the head are blanks and remarks. -/
def gapSize (cs : List Char) : Nat :=
  match cs with
  | [] => 0
  | c :: r =>
    if isBlank c then 1 + gapSize r
    else
      let n := remarkSize (c :: r)
      if n = 0 then 0 else n + gapSize ((c :: r).drop n)
termination_by cs.length
decreasing_by all_goals simp only [List.length_cons, List.length_drop]; omega

/-! ## Reading -/

def isWordStart (c : Char) : Bool := c.isAlpha || c = '_' || 128 ≤ c.toNat

def isWordChar (c : Char) : Bool := isWordStart c || Text.isDigit c || c = '$'

/-- A single quote. -/
def isTextQuote (c : Char) : Bool := c.toNat = 39

/-- A double quote or a backward one. -/
def isNameQuote (c : Char) : Bool := c.toNat = 34 || c.toNat = 96

/-- How many characters there are up to the end of a text in quotes. A quote that is written twice
does not end it. -/
def closing (quote : Char) : List Char → Nat
  | [] => 0
  | c :: r =>
    if c ≠ quote then 1 + closing quote r
    else
      match r with
      | d :: r => if d = quote then 2 + closing quote r else 1
      | [] => 1

/-- A digit, or the line that may stand between digits. -/
def isDigitPlace (c : Char) : Bool := Text.isDigit c || c = '_'

/-- How many characters there are up to the end of an exponent. -/
def exponentSize : List Char → Nat
  | c :: r =>
    if c = 'e' ∨ c = 'E' then
      let signed := r.head?.any fun s => s = '+' || s = '-'
      let digits := ((if signed then r.tail else r).takeWhile isDigitPlace).length
      if digits = 0 then 0 else digits + (if signed then 2 else 1)
    else 0
  | [] => 0

/-- How many characters there are up to the end of a number whose first character is `first`. -/
def numberSize (first : Char) (cs : List Char) : Nat :=
  if first = '0' && cs.head?.any fun c => c = 'x' || c = 'X' then
    1 + (cs.tail.takeWhile fun c => (Text.hexValue? c).isSome || c = '_').length
  else
    let isMantissa (c : Char) : Bool := isDigitPlace c || c = '.'
    (cs.takeWhile isMantissa).length + exponentSize (cs.dropWhile isMantissa)

/-- The marks of several characters. -/
def marks : List String := ["->>", "->", "<<", ">>", "<=", ">=", "<>", "!=", "==", "||"]

/-- How many characters follow the first one of a mark. -/
def markSize (cs : List Char) : Nat :=
  ((marks.find? fun m => m.toList.isPrefixOf cs).map fun m => m.length - 1).getD 0

/-- The kind of the lexeme that starts with a character, and how many characters follow that one. -/
def classify (c : Char) (r : List Char) : Kind × Nat :=
  if (c = 'x' || c = 'X') && r.head?.any isTextQuote then
    (.bytes, (r.tail.takeWhile fun d => !isTextQuote d).length + 2)
  else if isWordStart c then (.word, (r.takeWhile isWordChar).length)
  else if Text.isDigit c || (c = '.' && r.head?.any Text.isDigit) then (.number, numberSize c r)
  else if isTextQuote c then (.text, closing c r)
  else if isNameQuote c then (.quoted, closing c r)
  else if c = '[' then (.quoted, (r.takeWhile (· ≠ ']')).length + 1)
  else (.mark, markSize (c :: r))

/-- Reads the lexemes of a text. -/
def read (cs : List Char) : List Lexeme :=
  match _h : cs.drop (gapSize cs) with
  | [] => []
  | c :: r =>
    let (kind, size) := classify c r
    ⟨kind, cs.take (gapSize cs), c :: r.take size⟩ :: read (r.drop size)
termination_by cs.length
decreasing_by
  have := congrArg List.length _h
  simp only [List.length_cons, List.length_drop] at *
  omega

/-- How lexemes are written, with the gap before each. -/
def written (ls : List Lexeme) : List Char := ls.flatMap fun l => l.gap ++ l.source

/-- How lexemes are written, without what stands before the first. -/
def writtenAlone : List Lexeme → List Char
  | [] => []
  | l :: ls => l.source ++ written ls

/-! ## What a lexeme says -/

/-- The text between quotes, where a quote written twice stands for one. -/
def unquote (quote : Char) : List Char → List Char
  | [] => []
  | c :: r =>
    if c ≠ quote then c :: unquote quote r
    else
      match r with
      | d :: r => if d = quote then c :: unquote quote r else []
      | [] => []

/-- The text that is written in quotes, if it is. -/
def unquoted (cs : List Char) : List Char :=
  match cs with
  | c :: r =>
    if c = '[' then r.takeWhile (· ≠ ']')
    else if isTextQuote c || isNameQuote c then unquote c r
    else cs
  | [] => []

/-- The name that a lexeme stands for. -/
def name (l : Lexeme) : String := .ofList (unquoted l.source)

/-- The lexeme is that word. -/
def isWord (l : Lexeme) (word : String) : Bool := l.kind = .word && sameName (.ofList l.source) word

/-- The lexeme is one of those words. -/
def isAnyOf (l : Lexeme) (words : List String) : Bool := words.any l.isWord

/-- The lexeme is that mark. -/
def isMark (l : Lexeme) (mark : String) : Bool := l.kind = .mark && l.source = mark.toList

/-- The lexeme is a name, in quotes or not. -/
def isName (l : Lexeme) : Bool := l.kind = .word || l.kind = .quoted || l.kind = .text

/-- The lexemes after a mark. -/
def after? (mark : String) : List Lexeme → Option (List Lexeme)
  | l :: r => if l.isMark mark then some r else none
  | [] => none

/-- The lexemes after a word. -/
def afterWord? (word : String) : List Lexeme → Option (List Lexeme)
  | l :: r => if l.isWord word then some r else none
  | [] => none

/-! ## Parts of definitions -/

/-- How many brackets are open after a lexeme. -/
def depthAfter (depth : Nat) (l : Lexeme) : Nat :=
  if l.isMark "(" then depth + 1 else if l.isMark ")" then depth - 1 else depth

/-- The lexemes up to the bracket that closes what is open, and those from it on. -/
def enclosed (depth : Nat) : List Lexeme → List Lexeme × List Lexeme
  | [] => ([], [])
  | l :: r =>
    if depth = 0 ∧ l.isMark ")" then ([], l :: r)
    else
      let (inside, rest) := enclosed (depthAfter depth l) r
      (l :: inside, rest)

/-- The parts between commas outside of brackets. -/
def parts (depth : Nat) : List Lexeme → List (List Lexeme)
  | [] => [[]]
  | l :: r =>
    let rest := parts (depthAfter depth l) r
    if depth = 0 ∧ l.isMark "," then [] :: rest
    else
      match rest with
      | first :: others => (l :: first) :: others
      | [] => [[l]]

end Lexeme

end AlertService.Schema
