import AlertService.Text.Digits

/-!
# JSON values and their text

The values that answers are made of, and the one text that writes each of them: no blanks, members
in the order of the value, and an escape only where a string needs one.
-/

namespace AlertService

inductive Json where
  | null
  | bool (b : Bool)
  | integer (i : Int)
  | string (s : String)
  | array (items : List Json)
  | object (members : List (String × Json))

namespace Json

/-- The written form of a character inside a string: the two quotation characters and the controls
are escaped, the five common controls by a letter. -/
def escapeChar (c : Char) : List Char :=
  if c = '"' then ['\\', '"']
  else if c = '\\' then ['\\', '\\']
  else if c = '\n' then ['\\', 'n']
  else if c = '\r' then ['\\', 'r']
  else if c = '\t' then ['\\', 't']
  else if c = '\x08' then ['\\', 'b']
  else if c = '\x0c' then ['\\', 'f']
  else if c.toNat < 0x20 then
    ['\\', 'u', '0', '0', Text.hexDigit (Text.lowDigit (c.toNat / 16)),
      Text.hexDigit (Text.lowDigit c.toNat)]
  else [c]

/-- A string between quotes. -/
def renderString (s : String) : List Char := '"' :: (s.toList.flatMap escapeChar ++ ['"'])

mutual
/-- The text of a value. -/
def render : Json → List Char
  | .null => "null".toList
  | .bool true => "true".toList
  | .bool false => "false".toList
  | .integer i => (toString i).toList
  | .string s => renderString s
  | .array items => '[' :: (renderItems items ++ [']'])
  | .object members => '\x7b' :: (renderMembers members ++ ['\x7d'])

def renderItems : List Json → List Char
  | [] => []
  | [j] => render j
  | j :: js => render j ++ ',' :: renderItems js

def renderMembers : List (String × Json) → List Char
  | [] => []
  | [(k, j)] => renderString k ++ ':' :: render j
  | (k, j) :: ms => renderString k ++ ':' :: (render j ++ ',' :: renderMembers ms)
end

/-- The text of a value as a string. -/
def text (j : Json) : String := String.ofList j.render

/-- A member that is left out when it has no value. -/
def optional (key : String) (value : Option Json) : List (String × Json) :=
  match value with
  | none => []
  | some j => [(key, j)]

/-- A value or `null`. -/
def orNull (value : Option Json) : Json := value.getD .null

end Json

end AlertService
