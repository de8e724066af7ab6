import AlertService.Json.Lexical

/-!
# Readers of single values

One reader for each kind of value that a record may hold.
-/

namespace AlertService.Json

namespace Reader

/-- A fault of what a string says, noticed after the string. -/
def checked {α : Type} (check : String → Except Cause α) (expected : String) : Reader α := fun bs =>
  match skipSpaces bs with
  | [] => .error ⟨.endInValue, []⟩
  | b :: r =>
    if b = '"'.toUInt8 then do
      let (s, rest) ← readStringRest r
      match check s with
      | .ok x => .ok (x, rest)
      | .error cause => .error ⟨cause, rest⟩
    else .error (typeFault expected (b :: r))

def string : Reader String := checked .ok "a string"

/-- An identifier in any of its spellings. -/
def uuid : Reader Uuid :=
  checked (fun s => (Uuid.parse s).mapError Cause.identifier) "a formatted UUID string"

def flag : Reader Bool := fun bs =>
  match skipSpaces bs with
  | [] => .error ⟨.endInValue, []⟩
  | b :: r =>
    if b = 't'.toUInt8 then (readLetters "rue" r).map fun rest => (true, rest)
    else if b = 'f'.toUInt8 then (readLetters "alse" r).map fun rest => (false, rest)
    else .error (typeFault "a boolean" (b :: r))

/-- A number whose value is checked after it was read. -/
def number {α : Type} (check : Number → Except Cause α) (expected : String) : Reader α := fun bs =>
  match skipSpaces bs with
  | [] => .error ⟨.endInValue, []⟩
  | b :: r =>
    if b = '-'.toUInt8 ∨ Text.isDigitByte b then do
      let (n, rest) ← if b = '-'.toUInt8 then readNumber true r else readNumber false (b :: r)
      match check n with
      | .ok x => .ok (x, rest)
      | .error cause => .error ⟨cause, rest⟩
    else .error (typeFault expected (b :: r))

/-- A whole number from `-2 ^ 63` up to `2 ^ 63 - 1`. -/
def int64 : Reader Int64 :=
  number (fun n =>
    match n with
    | .natural k => if k < signedBound then .ok (Int64.ofNat k) else .error (.outOfRange k "i64")
    | .negative k => .ok (Int64.ofInt (-k))
    | .real .. => .error (.wrongType n.found "i64")) "i64"

/-- A whole number from zero up to `2 ^ 64 - 1`. -/
def uint64 : Reader UInt64 :=
  number (fun n =>
    match n with
    | .natural k => .ok (UInt64.ofNat k)
    | .negative k => .error (.outOfRange (-k) "usize")
    | .real .. => .error (.wrongType n.found "usize")) "usize"

/-- A value of the given kind, or `null`. -/
def optional {α : Type} (read : Reader α) : Reader (Option α) := fun bs =>
  match skipSpaces bs with
  | [] => (read []).map fun (x, rest) => (some x, rest)
  | b :: r =>
    if b = 'n'.toUInt8 then (readLetters "ull" r).map fun rest => (none, rest)
    else (read (b :: r)).map fun (x, rest) => (some x, rest)

/-- The one value `null`, where nothing else makes sense. -/
def unit : Reader Unit := fun bs =>
  match skipSpaces bs with
  | [] => .error ⟨.endInValue, []⟩
  | b :: r =>
    if b = 'n'.toUInt8 then (readLetters "ull" r).map fun rest => ((), rest)
    else .error (typeFault "unit" (b :: r))

end Reader

end AlertService.Json
