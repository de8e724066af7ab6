import AlertService.Json.Lexical

/-!
# Values that nobody reads

An unknown member of an open record is skipped. Its syntax is checked, but neither the depth of its
brackets, nor the size of its numbers, nor the characters of its strings. The brackets still open
are kept on a stack, so a value of any depth is skipped in the same space.
-/

namespace AlertService.Json

inductive Bracket where
  | list
  | object
deriving DecidableEq

namespace Bracket

def opening? (b : UInt8) : Option Bracket :=
  if b = '['.toUInt8 then some .list else if b = '\x7b'.toUInt8 then some .object else none

def closing : Bracket → UInt8
  | .list => ']'.toUInt8
  | .object => '\x7d'.toUInt8

/-- The cause when the body ends inside the bracket. -/
def unfinished : Bracket → Cause
  | .list => .endInList
  | .object => .endInObject

/-- The cause when neither a comma nor the closing bracket follows an item. -/
def unseparated : Bracket → Cause
  | .list => .expectedCommaOrBracket
  | .object => .expectedCommaOrBrace

end Bracket

/-- Skips what follows a backslash. -/
def skipEscape : Bytes → Except Fault Bytes
  | [] => .error ⟨.endInString, []⟩
  | b :: bs =>
    if b = 'u'.toUInt8 then (readHexCode bs).map fun r => r.2
    else if (letterEscape? b).isSome then .ok bs
    else .error ⟨.invalidEscape, bs⟩

theorem length_skipEscape {bs rest : Bytes} (h : skipEscape bs = .ok rest) :
    rest.length < bs.length := by
  unfold skipEscape at h
  split at h
  · cases h
  · split at h
    · rename_i bs _
      cases hr : readHexCode bs with
      | error f => rw [hr] at h; cases h
      | ok r =>
        rw [hr] at h
        cases h
        have := length_readHexCode hr
        simp only [List.length_cons]; omega
    · split at h
      · cases h; simp
      · cases h

/-- Skips up to the closing quote. A control character is reported where it stands. -/
def skipString : Bytes → Except Fault Bytes
  | [] => .error ⟨.endInString, []⟩
  | b :: bs =>
    if b = '"'.toUInt8 then .ok bs
    else if b = '\\'.toUInt8 then
      match h : skipEscape bs with
      | .ok rest =>
        have : rest.length < bs.length := length_skipEscape h
        skipString rest
      | .error f => .error f
    else if b < 32 then .error ⟨.controlCharacter, b :: bs⟩
    else skipString bs
  termination_by bs => bs.length
  decreasing_by all_goals simp only [List.length_cons]; omega

/-- Skips what follows the letter of an exponent. -/
def skipExponent (bs : Bytes) : Except Fault Bytes :=
  let bs :=
    match bs with
    | b :: r => if b = '+'.toUInt8 ∨ b = '-'.toUInt8 then r else bs
    | [] => []
  if startsWithDigit bs then .ok (afterDigits bs) else .error (.next .invalidNumber bs)

def skipExponentIfAny (bs : Bytes) : Except Fault Bytes :=
  match bs with
  | b :: r => if isExponentLetter b then skipExponent r else .ok bs
  | [] => .ok []

/-- Skips a fraction and an exponent, if they follow. -/
def skipAfterWhole (bs : Bytes) : Except Fault Bytes :=
  match bs with
  | b :: r =>
    if b = '.'.toUInt8 then
      if startsWithDigit r then skipExponentIfAny (afterDigits r)
      else .error (.next .invalidNumber r)
    else skipExponentIfAny bs
  | [] => .ok []

/-- Skips a number after its sign. -/
def skipNumber : Bytes → Except Fault Bytes
  | [] => .error ⟨.invalidNumber, []⟩
  | b :: bs =>
    if b = '0'.toUInt8 then
      if startsWithDigit bs then .error (.next .invalidNumber bs) else skipAfterWhole bs
    else if Text.isDigitByte b then skipAfterWhole (afterDigits bs)
    else .error ⟨.invalidNumber, bs⟩

/-- Skips a value without brackets that starts with `b`. -/
def skipScalar (b : UInt8) (bs : Bytes) : Except Fault Bytes :=
  if b = 'n'.toUInt8 then readLetters "ull" bs
  else if b = 't'.toUInt8 then readLetters "rue" bs
  else if b = 'f'.toUInt8 then readLetters "alse" bs
  else if b = '-'.toUInt8 then skipNumber bs
  else if Text.isDigitByte b then skipNumber (b :: bs)
  else if b = '"'.toUInt8 then skipString bs
  else .error (.next .expectedValue (b :: bs))

/-- Reads the colon between the key and the value of a member. -/
def readColon (bs : Bytes) : Except Fault Bytes :=
  match skipSpaces bs with
  | [] => .error ⟨.endInObject, []⟩
  | b :: r => if b = ':'.toUInt8 then .ok r else .error (.next .expectedColon (b :: r))

/-- Goes to the next value inside a bracket: in an object a key and a colon come first. -/
def skipToValue (k : Bracket) (bs : Bytes) : Except Fault Bytes :=
  match k with
  | .list => .ok bs
  | .object =>
    match skipSpaces bs with
    | [] => .error ⟨.endInObject, []⟩
    | b :: r =>
      if b = '"'.toUInt8 then (skipString r).bind readColon
      else .error (.next .keyNotString (b :: r))

/-- Closes the brackets that end here and goes on to where the next value is due. `fresh` says
that the innermost bracket has no item yet. No open bracket is left when the whole value ends. -/
def advance : (fresh : Bool) → List Bracket → Bytes → Except Fault (List Bracket × Bytes)
  | _, [], bs => .ok ([], bs)
  | fresh, k :: outer, bs =>
    match skipSpaces bs with
    | [] => .error ⟨k.unfinished, []⟩
    | b :: r =>
      if b = k.closing then advance false outer r
      else if fresh then (skipToValue k (b :: r)).map fun rest => (k :: outer, rest)
      else if b = ','.toUInt8 then (skipToValue k r).map fun rest => (k :: outer, rest)
      else .error (.next k.unseparated (b :: r))

/-- Takes the value that is due here, or the bracket that opens it. -/
def skipStep (brackets : List Bracket) (bs : Bytes) : Except Fault (List Bracket × Bytes) :=
  match skipSpaces bs with
  | [] => .error ⟨.endInValue, []⟩
  | b :: r =>
    match Bracket.opening? b with
    | some k => advance true (k :: brackets) r
    | none => (skipScalar b r).bind (advance false brackets)

/-- Skips the value that is due here and all that the open brackets hold after it. Every round
takes a byte, so as many rounds as there are bytes are enough. -/
def skipRounds : (rounds : Nat) → List Bracket → Bytes → Except Fault Bytes
  | 0, _, bs => .error ⟨.endInValue, bs⟩
  | rounds + 1, brackets, bs =>
    match skipStep brackets bs with
    | .error f => .error f
    | .ok ([], rest) => .ok rest
    | .ok (k :: outer, rest) => skipRounds rounds (k :: outer) rest

end AlertService.Json
