import AlertService.Store.Basic
import AlertService.Uuid.Spelling

/-!
# The columns of drafts and entities

A draft or an entity is written into columns: its identifier, its owner, and its fields in one order for
each kind. Its fields are read from the columns at the same places.

* `Kind.header`: the names of the columns.
* `Cell.ofOwned`, `Kind.readFields`: how a row is written, and how its fields are read.
-/

namespace AlertService

namespace Kind

/-- The columns of the fields. -/
def columns : Kind → List String
  | .recipient => ["name", "email", "phone_number", "telegram_id"]
  | .template => ["name", "message_text"]
  | .group => ["name", "active", "template_id"]

/-- The columns of a row. -/
def header (k : Kind) (idColumn : String) : List String := idColumn :: "master_id" :: k.columns

end Kind

namespace Cell

/-! ## Writing -/

def ofId (id : Uuid) : Cell := .text id.text

def ofBool (b : Bool) : Cell := .integer (if b then 1 else 0)

def ofOption {α : Type} (f : α → Cell) (x : Option α) : Cell := x.elim .null f

def ofFields : (k : Kind) → k.Fields → List Cell
  | .recipient, f =>
    [.text f.name, ofOption .text f.email, ofOption .text f.phoneNumber,
      ofOption (fun chat => .integer chat.toInt) f.telegramId]
  | .template, f => [.text f.name, ofOption .text f.messageText]
  | .group, f => [.text f.name, ofBool f.active, ofOption ofId f.template]

def ofOwned {k : Kind} (row : Owned k.Fields) : List Cell :=
  ofId row.id :: ofId row.owner :: ofFields k row.fields

/-- The columns of a draft. A stray text stands in the last one. -/
def ofDraft {k : Kind} (d : Draft k.Fields) : List Cell :=
  match d.stray with
  | none => ofOwned d.toOwned
  | some t => (ofOwned d.toOwned).dropLast ++ [.text t]

/-! ## Reading

What cannot be read is refused with the place and the name of its column. -/

/-- Reads the column at a place of a row. -/
def readAt {α : Type} (read : Nat → String → Cell → Except EngineFault α)
    (row : List (String × Cell)) (index : Nat) : Except EngineFault α :=
  match row[index]? with
  | some (column, c) => read index column c
  | none => .error (.noColumnAt index)

def readText (index : Nat) (column : String) : Cell → Except EngineFault String
  | .text s => .ok s
  | c => .error (.columnType c.kindName index column)

def readInteger (index : Nat) (column : String) : Cell → Except EngineFault Int64
  | .integer i => .ok (.ofInt i)
  | c => .error (.columnType c.kindName index column)

/-- Every integer but zero is true. -/
def readBool (index : Nat) (column : String) : Cell → Except EngineFault Bool
  | .integer i => .ok (i ≠ 0)
  | c => .error (.columnType c.kindName index column)

/-- An identifier in any spelling. -/
def readId (index : Nat) (column : String) (c : Cell) : Except EngineFault Uuid := do
  let t ← readText index column c
  (Uuid.parse t).mapError fun e => .conversion index e.message

def readOption {α : Type} (read : Nat → String → Cell → Except EngineFault α) (index : Nat)
    (column : String) : Cell → Except EngineFault (Option α)
  | .null => .ok none
  | c => (read index column c).map some

end Cell

open Cell in
/-- The fields in a row, from the column at the place `first` on. -/
def Kind.readFields (k : Kind) (row : List (String × Cell)) (first : Nat) :
    Except EngineFault k.Fields :=
  match k with
  | .recipient => do
    let name ← readAt readText row first
    let email ← readAt (readOption readText) row (first + 1)
    let phoneNumber ← readAt (readOption readText) row (first + 2)
    let telegramId ← readAt (readOption readInteger) row (first + 3)
    return ⟨name, email, phoneNumber, telegramId⟩
  | .template => do
    let name ← readAt readText row first
    let messageText ← readAt (readOption readText) row (first + 1)
    return ⟨name, messageText⟩
  | .group => do
    let name ← readAt readText row first
    let active ← readAt readBool row (first + 1)
    let template ← readAt (readOption readId) row (first + 2)
    return ⟨name, active, template⟩

end AlertService
