import AlertService.Json.Sequence

/-!
# Records

A record is written as an object, whose members come in any order, or as an array of the same
values in the order of the fields. An object without a member, and an array that ends early, take
the field's default where there is one. A closed record refuses members it does not know, an open
one skips them.
-/

namespace AlertService.Json

/-- A field of a record. `absent` is its value in an object without the member, `short` its value
in an array that ends before it. -/
structure Field where
  name : String
  Value : Type
  read : Reader Value
  absent : Option Value
  short : Option Value

namespace Field

def required (name : String) {α : Type} (read : Reader α) : Field := ⟨name, α, read, none, none⟩

/-- May be left out in both forms. -/
def optional (name : String) {α : Type} (read : Reader α) : Field :=
  ⟨name, Option α, .optional read, some none, some none⟩

/-- May be left out of an object only. -/
def nullable (name : String) {α : Type} (read : Reader α) : Field :=
  ⟨name, Option α, .optional read, some none, none⟩

end Field

/-- The values read so far. -/
def Slots : List Field → Type
  | [] => Unit
  | f :: fs => Option f.Value × Slots fs

/-- A value for every field. -/
def Values : List Field → Type
  | [] => Unit
  | f :: fs => f.Value × Values fs

namespace Slots

def empty : (fs : List Field) → Slots fs
  | [] => ()
  | _ :: fs => (none, empty fs)

/-- The values, with the defaults of the fields not read; or the name of a field without one. -/
def complete : (fs : List Field) → Slots fs → Except String (Values fs)
  | [], _ => .ok ()
  | f :: fs, (x, slots) =>
    match x.orElse fun _ => f.absent with
    | some v => (complete fs slots).map fun vs => (v, vs)
    | none => .error f.name

end Slots

/-- What is wrong with an object as a whole is noticed after its closing bracket, if that is what
comes next. -/
def afterClosing (bs : Bytes) : Bytes :=
  match skipSpaces bs with
  | [] => []
  | b :: r => if b = Bracket.object.closing then r else b :: r

/-- Reads the value of the member `key` into its slot, from the bytes after the key; none if no
field has that name. -/
def fillSlot (key : String) (bs : Bytes) :
    (fs : List Field) → Slots fs → Option (Except Fault (Slots fs × Bytes))
  | [], _ => none
  | f :: fs, (x, slots) =>
    if f.name = key then
      some (match x with
        | some _ => .error ⟨.duplicateField key, afterClosing bs⟩
        | none =>
          (readColon bs).bind fun bs =>
            (f.read bs).map fun (v, rest) => ((some v, slots), rest))
    else
      (fillSlot key bs fs slots).map fun filled =>
        filled.map fun (slots, rest) => ((x, slots), rest)

/-- Goes to the key of the next member, or past the closing bracket if there is none. -/
def readKey (first : Bool) (bs : Bytes) : Except Fault (Option String × Bytes) :=
  match skipSpaces bs with
  | [] => .error ⟨.endInObject, []⟩
  | b :: r =>
    if b = Bracket.object.closing then .ok (none, r)
    else if first then keyAt (b :: r)
    else if b = ','.toUInt8 then
      match skipSpaces r with
      | [] => .error ⟨.endInValue, []⟩
      | c :: r =>
        if c = Bracket.object.closing then .error (.next .trailingComma (c :: r))
        else keyAt (c :: r)
    else .error (.next .expectedCommaOrBrace (b :: r))
where
  keyAt : Bytes → Except Fault (Option String × Bytes)
    | [] => .error ⟨.endInObject, []⟩
    | b :: r =>
      if b = '"'.toUInt8 then (readStringRest r).map fun (key, rest) => (some key, rest)
      else .error (.next .keyNotString (b :: r))

structure Shape (α : Type) where
  name : String
  fields : List Field
  /-- Unknown members are refused. -/
  closed : Bool
  build : Values fields → α

namespace Shape

variable {α : Type} (shape : Shape α)

/-- Reads the members after the ones in `slots`. Every round takes a byte, so as many rounds as
there are bytes are enough; the rounds left are enough for a value to skip, too. -/
def readMembers : (rounds : Nat) → (first : Bool) → Slots shape.fields → Reader α
  | 0, _, _, bs => .error ⟨.endInObject, bs⟩
  | rounds + 1, first, slots, bs =>
    match readKey first bs with
    | .error f => .error f
    | .ok (none, rest) =>
      match Slots.complete shape.fields slots with
      | .ok values => .ok (shape.build values, rest)
      | .error name => .error ⟨.missingField name, rest⟩
    | .ok (some key, rest) =>
      match fillSlot key rest shape.fields slots with
      | some (.error f) => .error f
      | some (.ok (slots, rest)) => readMembers rounds false slots rest
      | none =>
        if shape.closed then
          .error ⟨.unknownField key (shape.fields.map Field.name), afterClosing rest⟩
        else
          match (readColon rest).bind (skipRounds rounds []) with
          | .error f => .error f
          | .ok rest => readMembers rounds false slots rest

/-- Reads the values of the fields in order; `index` of them came before. -/
def readItems : (index : Nat) → (fs : List Field) → Reader (Values fs)
  | _, [], bs => .ok ((), bs)
  | index, f :: fs, bs => do
    let (found, bs) ← readItemStart (index = 0) bs
    let (v, bs) ←
      if found then f.read bs
      else
        match f.short with
        | some v => .ok (v, bs)
        | none => .error ⟨.wrongLength index shape.name shape.fields.length, bs.tail⟩
    let (vs, rest) ← readItems (index + 1) fs bs
    return ((v, vs), rest)

/-- Reads a record in either form. -/
def read : Reader α := fun bs =>
  match skipSpaces bs with
  | [] => .error ⟨.endInValue, []⟩
  | b :: r =>
    if b = '['.toUInt8 then do
      let (values, rest) ← shape.readItems 0 shape.fields r
      let rest ← readListEnd rest
      return (shape.build values, rest)
    else if b = '\x7b'.toUInt8 then
      shape.readMembers (r.length + 1) true (Slots.empty shape.fields) r
    else .error (typeFault ("struct " ++ shape.name) (b :: r))

end Shape

/-! ## Choices -/

/-- A value written by its name, or as an object with the name as its only key and `null` as its
value. -/
def Reader.choice {α : Type} (options : List (String × α)) : Reader α := fun bs =>
  let pick := fun s =>
    match options.lookup s with
    | some x => Except.ok x
    | none => Except.error (Cause.unknownChoice s (options.map Prod.fst))
  match skipSpaces bs with
  | [] => .error ⟨.endInValue, []⟩
  | b :: r =>
    if b = '"'.toUInt8 then Reader.checked pick "variant identifier" (b :: r)
    else if b = '\x7b'.toUInt8 then do
      let (x, rest) ← Reader.checked pick "variant identifier" r
      let rest ← readColon rest
      let (_, rest) ← Reader.unit rest
      match skipSpaces rest with
      | [] => .error ⟨.endInObject, []⟩
      | c :: r =>
        if c = Bracket.object.closing then .ok (x, r) else .error ⟨.expectedValue, c :: r⟩
    else .error (.next .expectedValue (b :: r))

/-! ## Bodies -/

/-- Reads one value that fills the whole body. -/
def readBody {α : Type} (read : Reader α) (body : Bytes) : Except Fault α := do
  let (x, rest) ← read body
  match skipSpaces rest with
  | [] => .ok x
  | b :: r => .error (.next .trailingCharacters (b :: r))

/-- Reads a body, or says what is wrong with it. -/
def parseBody {α : Type} (read : Reader α) (body : Bytes) : Except String α :=
  (readBody read body).mapError (Fault.message body)

end AlertService.Json
