import AlertService.Schema.Function.Text

/-!
# Documents

A text can write a document: nothing, a truth value, a number, a text, a list, or members with their
keys. A path leads to a part of a document, step by step, and is only read as far as it leads.
-/

namespace AlertService.Schema

/-- A document. Numbers and texts are kept as they are written, texts without their quotes. -/
inductive Document where
  | null
  | truth (b : Bool)
  | number (cs : List Char)
  | text (cs : List Char)
  | list (ds : List Document)
  | members (ms : List (List Char × Document))

namespace Document

/-! ## Reading -/

def isSpace (c : Char) : Bool := c = ' ' || c = '\t' || c = '\n' || c = '\r'

def afterSpaces (cs : List Char) : List Char := cs.dropWhile isSpace

def quoteMark : Char := Char.ofNat 34

def escapeMark : Char := Char.ofNat 92

/-- The characters that can follow the mark of an escape, with what they stand for. -/
def escapes : List (Char × Char) :=
  [(quoteMark, quoteMark), (escapeMark, escapeMark), ('/', '/'), ('b', Char.ofNat 8),
   ('f', Char.ofNat 12), ('n', '\n'), ('r', '\r'), ('t', '\t')]

def isHex (c : Char) : Bool := (Text.hexValue? c).isSome

/-- Reads a text behind its opening quote, as it is written. -/
def textRest? : List Char → Option (List Char × List Char)
  | [] => none
  | c :: r =>
    if c = quoteMark then some ([], r)
    else if c.toNat < 32 then none
    else if c ≠ escapeMark then (textRest? r).map fun (cs, rest) => (c :: cs, rest)
    else
      match r with
      | 'u' :: p :: q :: s :: t :: r =>
        if [p, q, s, t].all isHex then
          (textRest? r).map fun (cs, rest) => (c :: 'u' :: p :: q :: s :: t :: cs, rest)
        else none
      | e :: r =>
        if (escapes.lookup e).isSome then (textRest? r).map fun (cs, rest) => (c :: e :: cs, rest)
        else none
      | [] => none

/-- The digits at the head of a text, of which there is at least one. -/
def digits? (cs : List Char) : Option (List Char × List Char) :=
  let ds := cs.takeWhile Text.isDigit
  if ds.isEmpty then none else some (ds, cs.drop ds.length)

/-- The digits behind a point, if there is one. -/
def fraction? (cs : List Char) : Option (List Char × List Char) :=
  match cs with
  | '.' :: r => (digits? r).map fun (ds, rest) => ('.' :: ds, rest)
  | cs => some ([], cs)

/-- The exponent, if there is one. -/
def exponent? (cs : List Char) : Option (List Char × List Char) :=
  match cs with
  | e :: r =>
    if e = 'e' ∨ e = 'E' then
      let sign := (r.take 1).takeWhile fun c => c = '+' || c = '-'
      (digits? (r.drop sign.length)).map fun (ds, rest) => (e :: (sign ++ ds), rest)
    else some ([], cs)
  | [] => some ([], [])

/-- A number, as it is written. It has no zeros in front. -/
def number? (cs : List Char) : Option (List Char × List Char) := do
  let sign := (cs.take 1).takeWhile (· = '-')
  let (whole, r) ← digits? (cs.drop sign.length)
  if whole.head? = some '0' ∧ 1 < whole.length then none
  else
    let (fraction, r) ← fraction? r
    let (exponent, r) ← exponent? r
    return (sign ++ whole ++ fraction ++ exponent, r)

/-- The text behind a character. -/
def after? (mark : Char) : List Char → Option (List Char)
  | c :: r => if c = mark then some r else none
  | [] => none

/-- The text behind a word. -/
def afterWord? (word : String) (cs : List Char) : Option (List Char) :=
  if word.toList.isPrefixOf cs then some (cs.drop word.length) else none

mutual

/-- Reads a document; each step takes a character or goes on inside a bracket. -/
def read : (fuel : Nat) → List Char → Option (Document × List Char)
  | 0, _ => none
  | fuel + 1, cs =>
    match afterSpaces cs with
    | [] => none
    | c :: r =>
      if c = quoteMark then (textRest? r).map fun (t, rest) => (.text t, rest)
      else if c = '[' then
        match afterSpaces r with
        | ']' :: rest => some (.list [], rest)
        | r => (items fuel r).map fun (ds, rest) => (.list ds, rest)
      else if c.toNat = 123 then
        match afterSpaces r with
        | d :: rest =>
          if d.toNat = 125 then some (.members [], rest)
          else (pairs fuel (d :: rest)).map fun (ms, rest) => (.members ms, rest)
        | [] => none
      else
        match afterWord? "null" (c :: r), afterWord? "true" (c :: r), afterWord? "false" (c :: r) with
        | some rest, _, _ => some (.null, rest)
        | _, some rest, _ => some (.truth true, rest)
        | _, _, some rest => some (.truth false, rest)
        | none, none, none => (number? (c :: r)).map fun (n, rest) => (.number n, rest)

/-- Reads the documents of a list, up to its closing bracket. -/
def items : (fuel : Nat) → List Char → Option (List Document × List Char)
  | 0, _ => none
  | fuel + 1, cs => do
    let (d, r) ← read fuel cs
    match afterSpaces r with
    | ',' :: r =>
      let (ds, rest) ← items fuel r
      return (d :: ds, rest)
    | ']' :: rest => return ([d], rest)
    | _ => none

/-- Reads keys and documents, up to the closing brace. -/
def pairs : (fuel : Nat) → List Char → Option (List (List Char × Document) × List Char)
  | 0, _ => none
  | fuel + 1, cs => do
    match afterSpaces cs with
    | [] => none
    | q :: r =>
      if q ≠ quoteMark then none
      else
        let (key, r) ← textRest? r
        let (d, r) ← read fuel (← after? ':' (afterSpaces r))
        match afterSpaces r with
        | ',' :: r =>
          let (ms, rest) ← pairs fuel r
          return ((key, d) :: ms, rest)
        | c :: rest => if c.toNat = 125 then return ([(key, d)], rest) else none
        | [] => none

end

/-- The document that a text writes as a whole. -/
def ofText? (s : String) : Option Document :=
  let cs := Pattern.visible s
  match read (2 * cs.length + 2) cs with
  | some (d, rest) => if (afterSpaces rest).isEmpty then some d else none
  | none => none

/-! ## Writing -/

/-- A text in quotes. -/
def enquoted (cs : List Char) : List Char := quoteMark :: cs ++ [quoteMark]

mutual

/-- How a document is written, without blanks. -/
def written : Document → List Char
  | null => ['n', 'u', 'l', 'l']
  | truth b => if b then ['t', 'r', 'u', 'e'] else ['f', 'a', 'l', 's', 'e']
  | number cs => cs
  | text cs => enquoted cs
  | list ds => '[' :: writtenItems ds ++ [']']
  | members ms => Char.ofNat 123 :: writtenPairs ms ++ [Char.ofNat 125]

def writtenItems : List Document → List Char
  | [] => []
  | [d] => written d
  | d :: ds => written d ++ ',' :: writtenItems ds

def writtenPairs : List (List Char × Document) → List Char
  | [] => []
  | [(key, d)] => enquoted key ++ ':' :: written d
  | (key, d) :: ms => enquoted key ++ ':' :: (written d ++ ',' :: writtenPairs ms)

end

/-- The number that hexadecimal digits write. -/
def hexadecimal (cs : List Char) : Nat :=
  cs.foldl (fun n c => n * 16 + ((Text.hexValue? c).map Fin.val).getD 0) 0

/-- The characters that a written text stands for. -/
def plainText : List Char → List Char
  | [] => []
  | c :: r =>
    if c ≠ escapeMark then c :: plainText r
    else
      match r with
      | 'u' :: p :: q :: s :: t :: m :: 'u' :: v :: w :: x :: y :: r =>
        let high := hexadecimal [p, q, s, t]
        let low := hexadecimal [v, w, x, y]
        if m = escapeMark ∧ 0xD800 ≤ high ∧ high < 0xDC00 ∧ 0xDC00 ≤ low ∧ low < 0xE000 then
          Char.ofNat (0x10000 + (high - 0xD800) * 1024 + (low - 0xDC00)) :: plainText r
        else Char.ofNat high :: plainText (m :: 'u' :: v :: w :: x :: y :: r)
      | 'u' :: p :: q :: s :: t :: r => Char.ofNat (hexadecimal [p, q, s, t]) :: plainText r
      | e :: r => (escapes.lookup e).getD e :: plainText r
      | [] => []

/-- A character as it is written in a text. -/
def writtenChar (c : Char) : List Char :=
  match escapes.find? fun e => e.2 = c && c ≠ '/' with
  | some (e, _) => [escapeMark, e]
  | none =>
    if c.toNat < 32 then
      escapeMark :: 'u' :: '0' :: '0' :: Nat.toDigits 16 (c.toNat / 16) ++ Nat.toDigits 16 (c.toNat % 16)
    else [c]

/-- The text that a cell is written as, if it is no document. -/
def ofCell? : Cell → Option Document
  | .null => some .null
  | .integer i => some (.number (toString i).toList)
  | .real x => some (.number (match x.size with
    | some _ => x.text.toList
    | none => (if x.negative then "-9.0e+999" else "9.0e+999").toList))
  | .text s => some (.text (s.toList.flatMap writtenChar))
  | .blob _ => none

/-- The cell that a document is taken for. -/
def cell : Document → Cell
  | null => .null
  | truth b => .integer (if b then 1 else 0)
  | number cs => ((Numeral.take? cs).map fun n => Cell.ofNumeral n.1).getD .null
  | text cs => .text (.ofList (plainText cs))
  | d => .text (.ofList (written d))

/-- The word for the kind of a document. -/
def kind : Document → String
  | null => "null"
  | truth b => if b then "true" else "false"
  | number cs => if cs.any fun c => c = '.' || c = 'e' || c = 'E' then "real" else "integer"
  | text _ => "text"
  | list _ => "array"
  | members _ => "object"

/-! ## Paths -/

/-- A step to a part. What is written wrongly leads nowhere; a wrong place in a list is only wrong in a
list. -/
inductive Step where
  | key (cs : List Char)
  | place (n : Nat)
  | fromEnd (n : Nat)
  | wrongPlace
  | wrong
deriving DecidableEq

/-- Where a path leads. -/
inductive Found where
  | part (d : Document)
  | missing
  | wrongPath

/-- Goes on from where a path leads. -/
def Found.bind (f : Found) (next : Document → Found) : Found :=
  match f with
  | .part d => next d
  | .missing => .missing
  | .wrongPath => .wrongPath

def Found.ofOption : Option Document → Found
  | some d => .part d
  | none => .missing

/-- Takes a step. Of members with the same key the first counts. -/
def step (s : Step) (d : Document) : Found :=
  match s, d with
  | .key k, .members ms => .ofOption ((ms.find? fun m => plainText m.1 = k).map (·.2))
  | .place n, .list ds => .ofOption ds[n]?
  | .fromEnd n, .list ds => .ofOption (if n ≤ ds.length then ds[ds.length - n]? else none)
  | .wrongPlace, .list _ => .wrongPath
  | .wrong, _ => .wrongPath
  | _, _ => .missing

/-- Follows a path. -/
def follow : List Step → Document → Found
  | [], d => .part d
  | s :: path, d => (step s d).bind (follow path)

/-- The place in a list that is written behind an opening bracket, and the text after it. -/
def placeAt (cs : List Char) : Step × List Char :=
  let number (ds : List Char) : Nat := Text.ofDigits (ds.map fun c => c.toNat - 48)
  let closed (s : Step) (r : List Char) : Step × List Char :=
    match r with
    | ']' :: r => (s, r)
    | _ => (.wrongPlace, [])
  match cs with
  | '#' :: '-' :: r =>
    let ds := r.takeWhile Text.isDigit
    if ds.isEmpty then (.wrongPlace, []) else closed (.fromEnd (number ds)) (r.drop ds.length)
  | '#' :: r => closed (.fromEnd 0) r
  | r =>
    let ds := r.takeWhile Text.isDigit
    if ds.isEmpty then (.wrongPlace, []) else closed (.place (number ds)) (r.drop ds.length)

/-- The steps of a path behind its start; each takes a character. -/
def steps : (fuel : Nat) → List Char → List Step
  | 0, _ => []
  | _, [] => []
  | fuel + 1, '[' :: r =>
    let (s, r) := placeAt r
    s :: steps fuel r
  | fuel + 1, '.' :: r =>
    if r.head? = some quoteMark then
      match r.tail.dropWhile (· ≠ quoteMark) with
      | _ :: rest => .key (r.tail.takeWhile (· ≠ quoteMark)) :: steps fuel rest
      | [] => [.wrong]
    else
      let key := r.takeWhile fun c => c ≠ '.' && c ≠ '['
      if key.isEmpty then [.wrong] else .key key :: steps fuel (r.drop key.length)
  | _, _ => [.wrong]

/-- The steps of a path from the whole document on. -/
def path (cs : List Char) : List Step :=
  match cs with
  | '$' :: r => steps r.length r
  | _ => [.wrong]

/-- The steps of a short path: a place in a list, a key, or a path. A key of letters and digits stands
alone, any other one in quotes. -/
def shortPath (c : Cell) (cs : List Char) : List Step :=
  match c, cs with
  | _, '$' :: _ => path cs
  | .integer i, _ => if i < 0 then [.fromEnd i.natAbs] else [.place i.toNat]
  | _, cs =>
    if cs.all fun c => c.toNat < 128 && c.isAlphanum then steps (cs.length + 1) ('.' :: cs)
    else if cs.head? = some '[' ∧ cs.getLast? = some ']' ∧ 3 ≤ cs.length then steps cs.length cs
    else steps (cs.length + 3) ('.' :: quoteMark :: cs ++ [quoteMark])

/-! ## Functions -/

/-- The document that a cell writes. -/
def ofCell (c : Cell) : Outcome Document :=
  match (c.words?.bind ofText?) with
  | some d => .ok d
  | none => .error (.fault .malformedDocument)

/-- What a document is asked for where a path leads. -/
def asked (c : Cell) (p : Cell) (read : List Char → List Step) (f : Document → Cell) : Outcome Cell :=
  match c with
  | .null => .ok .null
  | c => do
    let d ← ofCell c
    match p.words? with
    | none => return .null
    | some s =>
      match follow (read (Pattern.visible s)) d with
      | .part d => return f d
      | .missing => return .null
      | .wrongPath => throw (.fault (.badPath (.ofList (Function.quotedText (Pattern.visible s)))))

/-- A function of a document, or of the part of it that a path leads to. -/
def ofPart (f : Document → Cell) : Function := fun a =>
  match a.cells with
  | [.null] => .ok .null
  | [c] => (ofCell c).map f
  | [c, p] => asked c p path f
  | _ => .error .undetermined

def isValid : Function := fun a =>
  match a.cells with
  | [.null] => .ok .null
  | [c] => .ok (.ofTruth? (some (c.words?.bind ofText?).isSome))
  | _ => .error .undetermined

/-- How a document is written, in a cell. -/
def asText (d : Document) : Cell := .text (.ofList (written d))

def minified : Function := fun a =>
  match a.cells with
  | [_] => ofPart asText a
  | _ => .error .undetermined

def kindOf : Function := ofPart fun d => .text d.kind

def length : Function := ofPart fun d =>
  match d with
  | .list ds => .integer ds.length
  | _ => .integer 0

/-- The parts of a document that paths lead to, in a list. -/
def parts (d : Document) : List Cell → Outcome (Option (List Document))
  | [] => .ok (some [])
  | p :: ps =>
    match p.words? with
    | none => .ok none
    | some s => do
      let part ←
        match follow (path (Pattern.visible s)) d with
        | .part d => pure d
        | .missing => pure .null
        | .wrongPath => throw (.fault (.badPath (.ofList (Function.quotedText (Pattern.visible s)))))
      return (← parts d ps).map (part :: ·)

def extract : Function := fun a =>
  match a.cells with
  | [c, p] => asked c p path cell
  | .null :: _ => .ok .null
  | c :: ps => do
    let d ← ofCell c
    return ((← parts d ps).map fun ds => asText (.list ds)).getD .null
  | [] => .error .undetermined

/-- The part that a short path leads to, as a document. -/
def partOf : Function := fun a =>
  match a.cells with
  | [c, p] => asked c p (shortPath p) asText
  | _ => .error .undetermined

/-- The part that a short path leads to, as what it is taken for. -/
def contentOf : Function := fun a =>
  match a.cells with
  | [c, p] => asked c p (shortPath p) cell
  | _ => .error .undetermined

/-- Whether a document has parts. -/
def hasParts : Document → Bool
  | list _ => true
  | members _ => true
  | _ => false

/-- The document that a cell is or is written as. The mark tells how the cell is taken. -/
def made (mark : Char) (c : Cell) : Outcome Document :=
  let plain := ((ofCell? c).map Except.ok).getD (.error .undetermined)
  if c = .null then plain
  else if mark = '1' then ofCell c
  else if mark = '2' then (((c.words?.bind ofText?).filter hasParts).map Except.ok).getD plain
  else plain

/-- The documents of cells, with a mark for each of them. -/
def ofCells : List Char → List Cell → Outcome (List Document)
  | _, [] => .ok []
  | marks, c :: cs => do
    let d ← made (marks.head?.getD '0') c
    return d :: (← ofCells marks.tail cs)

/-- A function that makes a document of its arguments. The first tells how to take the others. -/
def making (f : List Document → Outcome Document) : Function := fun a =>
  match a.cells with
  | marks :: cs => do return asText (← f (← ofCells ((marks.words?.map String.toList).getD []) cs))
  | [] => .error .undetermined

def quoted : Function := making fun ds => ((ds.head?.map Except.ok).getD (.error .undetermined))

def listed : Function := making fun ds => .ok (.list ds)

/-- The members that keys and documents make in turn. -/
def membersOf : List Document → Outcome (List (List Char × Document))
  | [] => .ok []
  | .text key :: d :: ds => (membersOf ds).map ((key, d) :: ·)
  | [_] => .error (.fault .oddMembers)
  | _ => .error (.fault .badKey)

def joined : Function := making fun ds =>
  if ds.length % 2 = 1 then .error (.fault .oddMembers) else (membersOf ds).map .members

end Document

end AlertService.Schema
