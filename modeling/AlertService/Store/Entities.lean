import AlertService.Store.Fields

/-!
# Drafts and entities

A draft becomes an entity under a new identifier when it is confirmed; it is gone then, so each is
confirmed at most once. The template that a group refers to has to belong to the group's user when
the group is confirmed or changed.

An entity that goes takes along what depends on it: a group and a recipient their memberships and
notifications, a template the references to it.
-/

namespace AlertService

namespace Store

/-! ## What goes with an entity -/

/-- Drops rows of the kind by their identifiers, with what depends on them. -/
def dropEntities (s : Store) (k : Kind) (ids : List Uuid) : Store :=
  let s := { s with
    entities := s.entities.set k ((s.entities.get k).filter fun e => !ids.contains e.id) }
  match k with
  | .recipient =>
    { s with
      memberships := s.memberships.filter fun m => !ids.contains m.recipient
      notifications := s.notifications.filter fun n => !ids.contains n.recipient }
  | .template =>
    { s with entities := s.entities.set .group (s.entities.group.map fun g =>
        { g with fields.template := g.fields.template.filter fun t => !ids.contains t }) }
  | .group =>
    { s with
      memberships := s.memberships.filter fun m => !ids.contains m.group
      notifications := s.notifications.filter fun n => !ids.contains n.group }

/-- Drops batches with their notifications. -/
def dropBatches (s : Store) (ids : List Uuid) : Store :=
  { s with
    batches := s.batches.filter fun b => !ids.contains b.id
    notifications := s.notifications.filter fun n => !ids.contains n.batch }

/-- The identifiers of the user's entities of a kind. -/
def ownedIds (s : Store) (owner : Uuid) (k : Kind) : List Uuid :=
  ((s.entities.get k).filter fun e => e.owner = owner).map Owned.id

/-! ## Checks -/

/-- The row, if it exists and belongs to the user. -/
def requireOwner {α : Type} (row? : Option α) (ownerOf : α → Uuid) (owner : Uuid)
    (label : String) : Except StoreError α :=
  match row? with
  | none => .error (.notFound label)
  | some row => if ownerOf row = owner then .ok row else .error (.notOwner label)

/-- What the fields refer to belongs to the user. -/
def checkReferences (s : Store) (owner : Uuid) : (k : Kind) → k.Fields → Except StoreError Unit
  | .recipient, _ => .ok ()
  | .template, _ => .ok ()
  | .group, f =>
    match f.template with
    | none => .ok ()
    | some t =>
      if s.owns owner .template t then .ok ()
      else .error (.invalidReference "notification_template_id")

/-! ## Drafts -/

def insertDraft (s : Store) (k : Kind) (id owner : Uuid) (fields : k.Fields) :
    Except StoreError Store := do
  refuseTaken (s.draft? k id).isSome (k.draftTable ++ "." ++ k.draftIdColumn)
  requireReference (s.hasUser owner)
  return { s with drafts := s.drafts.set k (s.drafts.get k ++ [⟨⟨id, owner, fields⟩, none⟩]) }

/-- The fields of a draft, as they are read from its row. -/
def draftFields (k : Kind) (d : Draft k.Fields) : Except StoreError k.Fields :=
  (k.readFields ((k.header k.draftIdColumn).zip (Cell.ofDraft d)) 2).mapError .engine

/-- Adds an entity. -/
def insertEntity (s : Store) (k : Kind) (e : Owned k.Fields) : Except StoreError Store := do
  refuseTaken (s.entity? k e.id).isSome (k.table ++ "." ++ k.idColumn)
  requireReference (s.hasUser e.owner)
  return { s with entities := s.entities.set k (s.entities.get k ++ [e]) }

def deleteDraft (s : Store) (k : Kind) (id : Uuid) : Store :=
  { s with drafts := s.drafts.set k ((s.drafts.get k).filter fun d => d.id ≠ id) }

/-- Turns a draft into an entity under a new identifier. -/
def confirmDraft (s : Store) (k : Kind) (owner id new : Uuid) :
    Except StoreError (Owned k.Fields × Store) := do
  let d ← requireOwner (s.draft? k id) (fun d => d.owner) owner k.draftLabel
  let fields ← draftFields k d
  s.checkReferences owner k fields
  let entity : Owned k.Fields := ⟨new, owner, fields⟩
  let s ← s.insertEntity k entity
  return (entity, s.deleteDraft k id)

/-! ## Entities -/

def getEntity (s : Store) (k : Kind) (owner id : Uuid) : Except StoreError (Owned k.Fields) :=
  requireOwner (s.entity? k id) Owned.owner owner k.label

/-- The user's entities of a kind. -/
def listEntities (s : Store) (k : Kind) (owner : Uuid) : List (Owned k.Fields) :=
  (s.entities.get k).filter fun e => e.owner = owner

def listActiveGroups (s : Store) (owner : Uuid) : List (Owned GroupFields) :=
  s.entities.group.filter fun g => g.owner = owner && g.fields.active

/-- Gives an entity new fields. -/
def updateEntity (s : Store) (k : Kind) (owner id : Uuid) (fields : k.Fields) :
    Except StoreError (Owned k.Fields × Store) := do
  let _ ← s.getEntity k owner id
  s.checkReferences owner k fields
  let rows := (s.entities.get k).map fun e => if e.id = id then { e with fields := fields } else e
  return (⟨id, owner, fields⟩, { s with entities := s.entities.set k rows })

def deleteEntity (s : Store) (k : Kind) (owner id : Uuid) : Except StoreError Store := do
  let _ ← s.getEntity k owner id
  return s.dropEntities k [id]

end Store

end AlertService
