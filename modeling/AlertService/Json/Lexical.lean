import AlertService.Json.Number

/-!
# Words, blanks and strings of a body

The smallest parts of a body. A reader starts where its part is due and gives back what it read
together with the bytes after it.

* `length_readEscape`: an escape takes at least one byte.
-/

namespace AlertService.Json

abbrev Reader (α : Type) := Bytes → Except Fault (α × Bytes)

/-- The blanks that may stand between the parts of a body. -/
def isSpace (b : UInt8) : Bool := b = 32 || b = 10 || b = 9 || b = 13

def skipSpaces (bs : Bytes) : Bytes := bs.dropWhile isSpace

/-- Reads the given bytes, the rest of a word. -/
def readWord : (word : Bytes) → Bytes → Except Fault Bytes
  | [], bs => .ok bs
  | _ :: _, [] => .error ⟨.endInValue, []⟩
  | w :: ws, b :: bs => if b = w then readWord ws bs else .error ⟨.expectedWord, bs⟩

/-- Reads the letters after the first one of `null`, `true` or `false`. -/
def readLetters (letters : String) (bs : Bytes) : Except Fault Bytes :=
  readWord (Utf8.encode letters) bs

/-! ## Strings -/

/-- The number written by four hexadecimal digits. -/
def hexCode? (a b c d : UInt8) : Option Nat := do
  let ds ← [a, b, c, d].mapM fun x => Text.hexValue? (Char.ofNat x.toNat)
  return ds.foldl (fun n d => n * 16 + d.val) 0

/-- Reads four hexadecimal digits. -/
def readHexCode : Reader Nat
  | a :: b :: c :: d :: bs =>
    match hexCode? a b c d with
    | some n => .ok (n, bs)
    | none => .error ⟨.invalidEscape, bs⟩
  | _ => .error ⟨.endInString, []⟩

/-- Reads the byte that has to follow the first half of a surrogate pair. -/
def readPairByte (wanted : UInt8) : Bytes → Except Fault Bytes
  | [] => .error ⟨.endInString, []⟩
  | b :: bs => if b = wanted then .ok bs else .error ⟨.unfinishedSurrogate, bs⟩

/-- Reads the second half of a surrogate pair whose first half is `high`. -/
def readLowSurrogate (high : Nat) (bs : Bytes) : Except Fault (Char × Bytes) := do
  let bs ← readPairByte '\\'.toUInt8 bs
  let bs ← readPairByte 'u'.toUInt8 bs
  let (low, bs) ← readHexCode bs
  if low < 0xdc00 ∨ 0xdfff < low then .error ⟨.unpairedSurrogate, bs⟩
  else .ok (Char.ofNat (0x10000 + (high - 0xd800) * 0x400 + (low - 0xdc00)), bs)

/-- Reads the digits of an escape by code, and the escape after it if the two make a pair. -/
def readCodeEscape : Reader Char := fun bs => do
  let (n, bs) ← readHexCode bs
  if n < 0xd800 ∨ 0xdfff < n then .ok (Char.ofNat n, bs)
  else if 0xdc00 ≤ n then .error ⟨.unpairedSurrogate, bs⟩
  else readLowSurrogate n bs

/-- The character that a letter after a backslash stands for. -/
def letterEscape? (b : UInt8) : Option Char :=
  if b = '"'.toUInt8 then some '"'
  else if b = '\\'.toUInt8 then some '\\'
  else if b = '/'.toUInt8 then some '/'
  else if b = 'b'.toUInt8 then some '\x08'
  else if b = 'f'.toUInt8 then some '\x0c'
  else if b = 'n'.toUInt8 then some '\n'
  else if b = 'r'.toUInt8 then some '\r'
  else if b = 't'.toUInt8 then some '\t'
  else none

/-- Reads what follows a backslash. -/
def readEscape : Reader Char
  | [] => .error ⟨.endInString, []⟩
  | b :: bs =>
    if b = 'u'.toUInt8 then readCodeEscape bs
    else
      match letterEscape? b with
      | some c => .ok (c, bs)
      | none => .error ⟨.invalidEscape, bs⟩

theorem length_readHexCode {bs : Bytes} {r : Nat × Bytes} (h : readHexCode bs = .ok r) :
    r.2.length ≤ bs.length := by
  unfold readHexCode at h
  split at h
  · split at h
    · cases h; simp only [List.length_cons]; omega
    · cases h
  · cases h

theorem length_readPairByte {wanted : UInt8} {bs rest : Bytes}
    (h : readPairByte wanted bs = .ok rest) : rest.length ≤ bs.length := by
  unfold readPairByte at h
  split at h
  · cases h
  · split at h
    · cases h; simp only [List.length_cons]; omega
    · cases h

theorem length_readLowSurrogate {high : Nat} {bs : Bytes} {r : Char × Bytes}
    (h : readLowSurrogate high bs = .ok r) : r.2.length ≤ bs.length := by
  unfold readLowSurrogate at h
  simp only [bind, Except.bind] at h
  split at h
  · cases h
  rename_i bs₁ h₁
  split at h
  · cases h
  rename_i bs₂ h₂
  split at h
  · cases h
  rename_i p h₃
  have := length_readPairByte h₁
  have := length_readPairByte h₂
  have := length_readHexCode h₃
  split at h
  · cases h
  · rw [← Except.ok.inj h]
    show p.2.length ≤ bs.length
    omega

theorem length_readCodeEscape {bs : Bytes} {r : Char × Bytes} (h : readCodeEscape bs = .ok r) :
    r.2.length ≤ bs.length := by
  unfold readCodeEscape at h
  simp only [bind, Except.bind] at h
  split at h
  · cases h
  rename_i p hp
  have := length_readHexCode hp
  split at h
  · cases h; exact this
  · split at h
    · cases h
    · have := length_readLowSurrogate h
      omega

theorem length_readEscape {bs : Bytes} {r : Char × Bytes} (h : readEscape bs = .ok r) :
    r.2.length < bs.length := by
  unfold readEscape at h
  split at h
  · cases h
  · split at h
    · have := length_readCodeEscape h
      simp only [List.length_cons]; omega
    · split at h
      · cases h; simp
      · cases h

/-- Reads up to the closing quote; the bytes of the text so far are in `acc`, last first. -/
def readStringBytes (acc : Bytes) : Reader Bytes
  | [] => .error ⟨.endInString, []⟩
  | b :: bs =>
    if b = '"'.toUInt8 then .ok (acc.reverse, bs)
    else if b = '\\'.toUInt8 then
      match h : readEscape bs with
      | .ok (c, rest) =>
        have : rest.length < bs.length := length_readEscape h
        readStringBytes ((String.utf8EncodeChar c).reverse ++ acc) rest
      | .error f => .error f
    else if b < 32 then .error ⟨.controlCharacter, bs⟩
    else readStringBytes (b :: acc) bs
  termination_by bs => bs.length
  decreasing_by all_goals simp only [List.length_cons]; omega

/-- Reads a string after its opening quote. Bytes that are no text are noticed after the closing
one, and reported as many bytes before it as the text has from there on. -/
def readStringRest : Reader String := fun bs => do
  let (text, rest) ← readStringBytes [] bs
  match Utf8.decode? text with
  | some s => .ok (s, rest)
  | none => .error ⟨.illFormedText (Utf8.wellFormedRest text).length, rest⟩

/-! ## Values of the wrong type -/

/-- Reads a value far enough to name it in a message: a list or an object is named by its
bracket. -/
def readFound : Reader Found
  | [] => .error ⟨.endInValue, []⟩
  | b :: bs =>
    if b = 'n'.toUInt8 then (readLetters "ull" bs).map fun r => (.null, r)
    else if b = 't'.toUInt8 then (readLetters "rue" bs).map fun r => (.flag true, r)
    else if b = 'f'.toUInt8 then (readLetters "alse" bs).map fun r => (.flag false, r)
    else if b = '-'.toUInt8 then (readNumber true bs).map fun (n, r) => (n.found, r)
    else if Text.isDigitByte b then (readNumber false (b :: bs)).map fun (n, r) => (n.found, r)
    else if b = '"'.toUInt8 then (readStringRest bs).map fun (s, r) => (.string s, r)
    else if b = '['.toUInt8 then .ok (.sequence, b :: bs)
    else if b = '\x7b'.toUInt8 then .ok (.map, b :: bs)
    else .error (.next .expectedValue (b :: bs))

/-- The fault of something else where `expected` is due. -/
def typeFault (expected : String) (bs : Bytes) : Fault :=
  match readFound bs with
  | .ok (found, rest) => ⟨.wrongType found expected, rest⟩
  | .error f => f

end AlertService.Json
