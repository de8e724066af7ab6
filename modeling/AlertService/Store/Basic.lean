import AlertService.Entity.Kind
import AlertService.Store.Cell
import AlertService.Store.Error
import AlertService.Time.Instant

/-!
# The store

Every table is a list of rows in the order in which they were added. New rows go to the end, a
changed row keeps its place.

The program itself writes every column with a value of the column's type. Other programs may
have left something else in four of them: there a column holds a value or a foreign cell.
-/

namespace AlertService

/-- What stands in a column of type `α`. -/
inductive Stored (α : Type) where
  | value (a : α)
  | foreign (c : Cell)
deriving DecidableEq

/-! ## Rows -/

structure User where
  id : Stored Uuid
  name : String
  passwordHash : String
deriving DecidableEq

/-- The field `expiry` is in seconds from the start of 1970; a session without one never lapses. -/
structure Session where
  id : Uuid
  user : Uuid
  expiry : Stored (Option Int)
deriving DecidableEq

/-- A row waiting to be confirmed. `stray` is a text in the place of the template reference of a
group draft that the program did not write. -/
structure Draft (α : Type) extends Owned α where
  stray : Option String := none
deriving DecidableEq

structure Membership where
  group : Uuid
  recipient : Uuid
deriving DecidableEq

structure Batch where
  id : Uuid
  owner : Uuid
  sent : Stored Bool
deriving DecidableEq

structure Notification where
  id : Uuid
  batch : Uuid
  recipient : Uuid
  group : Uuid
  channel : String
  created : Stored Instant
  completed : Option Instant
deriving DecidableEq

/-- A chat that has talked to the bot. -/
structure Contact where
  chat : Int64
  active : Bool
deriving DecidableEq

/-! ## Tables -/

/-- One thing for each kind of entity. -/
structure PerKind (α : Kind → Type) where
  recipient : α .recipient
  template : α .template
  group : α .group

namespace PerKind

variable {α : Kind → Type}

def get (t : PerKind α) : (k : Kind) → α k
  | .recipient => t.recipient
  | .template => t.template
  | .group => t.group

def set (t : PerKind α) : (k : Kind) → α k → PerKind α
  | .recipient, x => { t with recipient := x }
  | .template, x => { t with template := x }
  | .group, x => { t with group := x }

@[simp] theorem get_set_self (t : PerKind α) (k : Kind) (x : α k) : (t.set k x).get k = x := by
  cases k <;> rfl

theorem get_set_of_ne (t : PerKind α) {j k : Kind} (h : j ≠ k) (x : α k) :
    (t.set k x).get j = t.get j := by
  revert h
  cases j <;> cases k <;> simp [get, set]

end PerKind

structure Store where
  users : List User
  sessions : List Session
  drafts : PerKind fun k => List (Draft k.Fields)
  entities : PerKind fun k => List (Owned k.Fields)
  memberships : List Membership
  batches : List Batch
  notifications : List Notification
  contacts : List Contact

namespace Store

def empty : Store where
  users := []
  sessions := []
  drafts := ⟨[], [], []⟩
  entities := ⟨[], [], []⟩
  memberships := []
  batches := []
  notifications := []
  contacts := []

/-! ## Looking rows up -/

def hasUser (s : Store) (id : Uuid) : Bool := s.users.any fun u => u.id = .value id

def draft? (s : Store) (k : Kind) (id : Uuid) : Option (Draft k.Fields) :=
  (s.drafts.get k).find? fun d => d.id = id

def entity? (s : Store) (k : Kind) (id : Uuid) : Option (Owned k.Fields) :=
  (s.entities.get k).find? fun e => e.id = id

/-- The entity exists and belongs to the user. -/
def owns (s : Store) (owner : Uuid) (k : Kind) (id : Uuid) : Bool :=
  (s.entities.get k).any fun e => e.id = id && e.owner = owner

/-! ## Adding rows

The engine refuses a second row with the same key before it looks at references. -/

/-- Refuses a row whose key is taken. -/
def refuseTaken (taken : Bool) (columns : String) : Except StoreError Unit :=
  if taken then .error (.engine (.unique columns)) else .ok ()

/-- Refuses a row that refers to a row that does not exist. -/
def requireReference (present : Bool) : Except StoreError Unit :=
  if present then .ok () else .error (.engine .foreignKey)

end Store

end AlertService
