import AlertService.Store.Entities

/-!
# Users

A name belongs to at most one user, byte for byte. A user takes along all that it owns.
-/

namespace AlertService

/-- A user as the program reads it. -/
structure Account where
  id : Uuid
  name : String
  passwordHash : String
deriving DecidableEq

namespace Store

/-- Adds a user. Of two taken columns the name is the one reported. -/
def insertUser (s : Store) (id : Uuid) (name passwordHash : String) : Except StoreError Store := do
  refuseTaken (s.users.any fun u => u.name = name) "users.name"
  refuseTaken (s.hasUser id) "users.user_id"
  return { s with users := s.users ++ [⟨.value id, name, passwordHash⟩] }

/-- Adds a user, unless its name or its identifier is taken. -/
def createUser (s : Store) (id : Uuid) (name passwordHash : String) : Except StoreError Store :=
  (s.insertUser id name passwordHash).mapError fun e =>
    match e with
    | .engine (.unique _) => .conflict "user"
    | e => e

/-- Gives a user a new name and a new password hash. -/
def updateUser (s : Store) (id : Uuid) (name passwordHash : String) : Except StoreError Store :=
  if !s.hasUser id then .error (.notFound "user")
  else if s.users.any fun u => u.name = name && u.id ≠ .value id then .error (.conflict "user")
  else
    .ok { s with users := s.users.map fun u =>
      if u.id = .value id then { u with name := name, passwordHash := passwordHash } else u }

/-- The identifier in a key column. -/
def readKey (index : Nat) (column : String) : Stored Uuid → Except StoreError Uuid
  | .value id => .ok id
  | .foreign c => (c.readId index column).mapError .engine

/-- The user of a name. -/
def userByName (s : Store) (name : String) : Except StoreError (Option Account) :=
  match s.users.find? fun u => u.name = name with
  | none => .ok none
  | some u => (readKey 0 "user_id" u.id).map fun id => some ⟨id, u.name, u.passwordHash⟩

/-- Drops a user with all its sessions, drafts, entities and batches, and what depends on them. -/
def deleteUser (s : Store) (id : Uuid) : Except StoreError Store :=
  if !s.hasUser id then .error (.notFound "user")
  else
    let s := (s.dropEntities .recipient (s.ownedIds id .recipient)).dropEntities .template
      (s.ownedIds id .template)
    let s := s.dropEntities .group (s.ownedIds id .group)
    let s := s.dropBatches ((s.batches.filter fun b => b.owner = id).map Batch.id)
    .ok { s with
      users := s.users.filter fun u => u.id ≠ .value id
      sessions := s.sessions.filter fun x => x.user ≠ id
      drafts :=
        ⟨s.drafts.recipient.filter fun d => d.owner ≠ id,
          s.drafts.template.filter fun d => d.owner ≠ id,
          s.drafts.group.filter fun d => d.owner ≠ id⟩ }

end Store

end AlertService
