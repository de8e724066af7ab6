import AlertService.Text.Quoted
import AlertService.Uuid.Spelling

/-!
# What can be wrong with a body

A body that cannot be read is refused with one cause and the place where it was noticed. The place
is given by the bytes that were still unread then; `Fault.message` turns them into a line and a
column.
-/

namespace AlertService.Json

/-- What was found where something else was wanted. -/
inductive Found where
  | null
  | flag (b : Bool)
  | integer (i : Int)
  | real (text : String)
  | string (s : String)
  | sequence
  | map

def Found.message : Found → String
  | .null => "null"
  | .flag b => "boolean `" ++ (if b then "true" else "false") ++ "`"
  | .integer i => "integer `" ++ toString i ++ "`"
  | .real t => "floating point `" ++ t ++ "`"
  | .string s => "string " ++ Text.quoted s
  | .sequence => "sequence"
  | .map => "map"

inductive Cause where
  | endInValue
  | endInList
  | endInObject
  | endInString
  | expectedValue
  | expectedWord
  | expectedColon
  | expectedCommaOrBracket
  | expectedCommaOrBrace
  | keyNotString
  | trailingComma
  | trailingCharacters
  | invalidNumber
  | numberOutOfRange
  | invalidEscape
  /-- The text that was read has `size` bytes from its first ill-formed one on. -/
  | illFormedText (size : Nat)
  | unpairedSurrogate
  | unfinishedSurrogate
  | controlCharacter
  | tooDeep
  | wrongType (found : Found) (expected : String)
  | outOfRange (found : Int) (expected : String)
  | missingField (name : String)
  | duplicateField (name : String)
  | unknownField (name : String) (known : List String)
  | unknownChoice (name : String) (known : List String)
  | wrongLength (found : Nat) (record : String) (size : Nat)
  | identifier (error : Uuid.SpellingError)

/-- The names that would have been right. -/
def alternatives : List String → String
  | [a] => "`" ++ a ++ "`"
  | [a, b] => "`" ++ a ++ "` or `" ++ b ++ "`"
  | names => "one of " ++ ", ".intercalate (names.map fun n => "`" ++ n ++ "`")

def Cause.message : Cause → String
  | .endInValue => "EOF while parsing a value"
  | .endInList => "EOF while parsing a list"
  | .endInObject => "EOF while parsing an object"
  | .endInString => "EOF while parsing a string"
  | .expectedValue => "expected value"
  | .expectedWord => "expected ident"
  | .expectedColon => "expected `:`"
  | .expectedCommaOrBracket => "expected `,` or `]`"
  | .expectedCommaOrBrace => "expected `,` or `\x7d`"
  | .keyNotString => "key must be a string"
  | .trailingComma => "trailing comma"
  | .trailingCharacters => "trailing characters"
  | .invalidNumber => "invalid number"
  | .numberOutOfRange => "number out of range"
  | .invalidEscape => "invalid escape"
  | .illFormedText _ => "invalid unicode code point"
  | .unpairedSurrogate => "lone leading surrogate in hex escape"
  | .unfinishedSurrogate => "unexpected end of hex escape"
  | .controlCharacter => "control character (\\u0000-\\u001F) found while parsing a string"
  | .tooDeep => "recursion limit exceeded"
  | .wrongType f e => "invalid type: " ++ f.message ++ ", expected " ++ e
  | .outOfRange i e => "invalid value: integer `" ++ toString i ++ "`, expected " ++ e
  | .missingField n => "missing field `" ++ n ++ "`"
  | .duplicateField n => "duplicate field `" ++ n ++ "`"
  | .unknownField n known => "unknown field `" ++ n ++ "`, expected " ++ alternatives known
  | .unknownChoice n known => "unknown variant `" ++ n ++ "`, expected " ++ alternatives known
  | .wrongLength n record size =>
    "invalid length " ++ toString n ++ ", expected struct " ++ record ++ " with " ++
      toString size ++ (if size = 1 then " element" else " elements")
  | .identifier e => "UUID parsing failed: " ++ e.message

/-- How many bytes a cause is reported before the place where it was noticed. -/
def Cause.setback : Cause → Nat
  | .illFormedText size => size
  | _ => 0

/-- A cause, and the bytes that were unread when it was noticed. -/
structure Fault where
  cause : Cause
  rest : Bytes

/-- A fault noticed by looking at the next byte, which counts as read. -/
def Fault.next (cause : Cause) (rest : Bytes) : Fault := ⟨cause, rest.tail⟩

/-- The line of the place after `read`, counted from one, and the bytes read on it. -/
def position (read : Bytes) : Nat × Nat :=
  read.foldl (fun p b => if b = 10 then (p.1 + 1, 0) else (p.1, p.2 + 1)) (1, 0)

/-- What the sender of `body` is told. -/
def Fault.message (body : Bytes) (f : Fault) : String :=
  let read := body.length - f.rest.length - f.cause.setback
  let (line, column) := position (body.take read)
  f.cause.message ++ " at line " ++ toString line ++ " column " ++ toString column

end AlertService.Json
