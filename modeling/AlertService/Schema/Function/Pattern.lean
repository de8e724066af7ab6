import AlertService.Schema.Function.Basic

/-!
# Patterns

A pattern is a list of pieces: a character, any character, one of a set, or any number of characters.
There are two ways to write patterns; in one of them the case of letters does not matter.
-/

namespace AlertService.Schema

namespace Pattern

/-- A piece of a pattern. The last one is what is written wrongly; it matches nothing. -/
inductive Piece where
  | exactly (c : Char)
  | one
  | among (isDenied : Bool) (ranges : List (Char × Char))
  | many
  | nothing
deriving DecidableEq

/-- The character is the other one, or differs in case only where case does not matter. -/
def isLike (caseless : Bool) (c d : Char) : Bool := c = d || caseless && c.toLower = d.toLower

/-- A piece matches a character. -/
def Piece.accepts (caseless : Bool) : Piece → Char → Bool
  | .exactly c, d => isLike caseless c d
  | .one, _ => true
  | .among isDenied ranges, d => isDenied != ranges.any fun (low, high) => low ≤ d && d ≤ high
  | .many, _ => false
  | .nothing, _ => false

/-- Each flag together with all behind it. -/
def anyOnward : List Bool → List Bool
  | [] => []
  | b :: r =>
    let onward := anyOnward r
    (b || onward.headD false) :: onward

/-- For every end of a text, from the whole of it to nothing, whether a pattern matches it. -/
def coverage (caseless : Bool) (cs : List Char) : List Piece → List Bool
  | [] => List.replicate cs.length false ++ [true]
  | .many :: p => anyOnward (coverage caseless cs p)
  | piece :: p =>
    ((cs.zip (coverage caseless cs p).tail).map fun (c, b) => piece.accepts caseless c && b) ++ [false]

/-- The pattern matches the text as a whole. -/
def isCovered (caseless : Bool) (p : List Piece) (cs : List Char) : Bool :=
  (coverage caseless cs p).headD false

/-! ## Reading -/

/-- The pieces of a pattern with `%` and `_`. The character behind the escape stands for itself. -/
def ofLike (escape : Option Char) : List Char → List Piece
  | [] => []
  | c :: r =>
    if some c = escape then
      match r with
      | d :: r => .exactly d :: ofLike escape r
      | [] => [.nothing]
    else (if c = '%' then .many else if c = '_' then .one else .exactly c) :: ofLike escape r

/-- The ranges that the content of a set writes; `before` is the character that a range can start with. -/
def ranges (before : Option Char) : List Char → List (Char × Char)
  | [] => []
  | [c] => [(c, c)]
  | c :: d :: r =>
    match before with
    | some low => if c = '-' then (low, d) :: ranges none r else (c, c) :: ranges (some c) (d :: r)
    | none => (c, c) :: ranges (some c) (d :: r)

/-- Reads a set behind its opening bracket. A closing bracket that comes first belongs to it. -/
def set? (cs : List Char) : Option (Piece × List Char) :=
  let isDenied := cs.head? = some '^'
  let cs := if isDenied then cs.tail else cs
  let isFirst := cs.head? = some ']'
  let cs := if isFirst then cs.tail else cs
  match cs.dropWhile (· ≠ ']') with
  | _ :: rest =>
    some (.among isDenied ((if isFirst then [(']', ']')] else []) ++
      ranges none (cs.takeWhile (· ≠ ']'))), rest)
  | [] => none

theorem length_set {cs : List Char} {p : Piece × List Char} (h : set? cs = some p) :
    p.2.length < cs.length + 1 := by
  have tail (b : Bool) (xs : List Char) : (if b then xs.tail else xs).length ≤ xs.length := by
    cases b <;> simp
  unfold set? at h
  simp only at h
  generalize hd : (if cs.head? = some '^' then cs.tail else cs) = ds at h
  generalize he : (if ds.head? = some ']' then ds.tail else ds) = es at h
  have h₁ : ds.length ≤ cs.length := by
    rw [← hd]; have := tail (decide (cs.head? = some '^')) cs; simpa using this
  have h₂ : es.length ≤ ds.length := by
    rw [← he]; have := tail (decide (ds.head? = some ']')) ds; simpa using this
  have h₃ := (List.dropWhile_suffix (· ≠ ']') (l := es)).length_le
  split at h
  · rename_i c rest hr
    cases h
    rw [hr] at h₃
    simp only [List.length_cons] at h₃
    show rest.length < cs.length + 1
    omega
  · cases h

/-- The pieces of a pattern with `*`, `?` and sets in brackets. -/
def ofGlob (cs : List Char) : List Piece :=
  match cs with
  | [] => []
  | c :: r =>
    if c = '[' then
      match _h : set? r with
      | some (piece, rest) => piece :: ofGlob rest
      | none => [.nothing]
    else (if c = '*' then .many else if c = '?' then .one else .exactly c) :: ofGlob r
termination_by cs.length
decreasing_by
  · exact length_set _h
  · simp

/-! ## Functions -/

/-- The characters before the first that ends a text in memory. -/
def visible (s : String) : List Char := s.toList.takeWhile fun c => c.toNat ≠ 0

/-- The greatest size of a pattern, in bytes. -/
def greatestSize : Nat := 50000

/-- Whether the second text matches the pattern that the first one writes. -/
def test (caseless : Bool) (read : List Char → List Piece) (pattern text : Cell) : Outcome Cell :=
  match pattern.words?, text.words? with
  | some p, some t =>
    if greatestSize < p.utf8ByteSize then .error (.fault .complexPattern)
    else .ok (Cell.ofTruth? (some (isCovered caseless (read (visible p)) (visible t))))
  | _, _ => .ok .null

def like : Function := fun a =>
  match a.cells with
  | [pattern, text] => test true (ofLike none) pattern text
  | [pattern, text, escape] =>
    match escape.words? with
    | none => .ok .null
    | some e =>
      match visible e with
      | [c] => test true (ofLike (some c)) pattern text
      | _ => .error (.fault .longEscape)
  | _ => .error .undetermined

def glob : Function := fun a =>
  match a.cells with
  | [pattern, text] => test false ofGlob pattern text
  | _ => .error .undetermined

end Pattern

end AlertService.Schema
