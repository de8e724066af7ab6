import AlertService.Service.World

/-!
# Drafts, entities and members

The same requests for every kind of entity, and those about the members of groups. A body is read
before the identifier is looked at.
-/

namespace AlertService

namespace Service

variable (service : Service) (caller : Uuid)

/-- The identifier of an entity that the request names. -/
def entityId (r : Http.Request) (k : Kind) : Handler Uuid := Handler.id r k.idParameter k.label

def create (k : Kind) (body : Bytes) : Handler Reply := do
  let fields ← Handler.payload k.shape.read body
  let id ← service.freshId
  Handler.change fun s => s.insertDraft k id caller fields
  return .value (k.draftToJson ⟨id, caller, fields⟩)

def confirm (k : Kind) (r : Http.Request) : Handler Reply := do
  let draft ← Handler.id r "draft_id" k.draftLabel
  let id ← service.freshId
  let entity ← Handler.store fun s => s.confirmDraft k caller draft id
  return .value (k.entityToJson entity)

def getOne (k : Kind) (r : Http.Request) : Handler Reply := do
  let id ← entityId r k
  let entity ← Handler.ask fun s => s.getEntity k caller id
  return .value (k.entityToJson entity)

def getAll (k : Kind) : Handler Reply := do
  let entities ← Handler.ask fun s => .ok (s.listEntities k caller)
  return .value (.array (entities.map k.entityToJson))

def modify (k : Kind) (r : Http.Request) : Handler Reply := do
  let fields ← Handler.payload k.shape.read r.body
  let id ← entityId r k
  let entity ← Handler.store fun s => s.updateEntity k caller id fields
  return .value (k.entityToJson entity)

def delete (k : Kind) (r : Http.Request) : Handler Reply := do
  let id ← entityId r k
  Handler.change fun s => s.deleteEntity k caller id
  return .done

/-! ## Groups and their members -/

def activeGroups : Handler Reply := do
  let groups ← Handler.ask fun s => .ok (s.listActiveGroups caller)
  return .value (.array (groups.map Kind.group.entityToJson))

def membersOf (r : Http.Request) : Handler Reply := do
  let group ← entityId r .group
  let members ← Handler.ask fun s => s.groupMembers caller group
  return .value (.array (members.map Kind.recipient.entityToJson))

def addMember (r : Http.Request) : Handler Reply := do
  let group ← entityId r .group
  let recipient ← entityId r .recipient
  Handler.change fun s => s.addMember caller group recipient
  return .done

def removeMember (r : Http.Request) : Handler Reply := do
  let group ← entityId r .group
  let recipient ← entityId r .recipient
  Handler.change fun s => s.removeMember caller group recipient
  return .done

end Service

end AlertService
