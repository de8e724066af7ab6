import AlertService.Store.Basic

/-!
# Memberships

A recipient is a member of a group at most once. To these calls a group or a recipient of someone
else does not exist.
-/

namespace AlertService

namespace Store

/-- The group and the recipient are the user's. -/
def requireOwned (s : Store) (owner : Uuid) (k : Kind) (id : Uuid) : Except StoreError Unit :=
  if s.owns owner k id then .ok () else .error (.notFound k.label)

def addMember (s : Store) (owner group recipient : Uuid) : Except StoreError Store := do
  s.requireOwned owner .group group
  s.requireOwned owner .recipient recipient
  if s.memberships.contains ⟨group, recipient⟩ then .error (.conflict "group membership")
  else .ok { s with memberships := s.memberships ++ [⟨group, recipient⟩] }

def removeMember (s : Store) (owner group recipient : Uuid) : Except StoreError Store := do
  s.requireOwned owner .group group
  s.requireOwned owner .recipient recipient
  if s.memberships.contains ⟨group, recipient⟩ then
    .ok { s with memberships := s.memberships.filter fun m => m ≠ ⟨group, recipient⟩ }
  else .error (.notFound "group membership")

/-- The members of a group, in the order in which they joined. -/
def members (s : Store) (group : Uuid) : List (Owned RecipientFields) :=
  (s.memberships.filter fun m => m.group = group).filterMap fun m =>
    s.entity? .recipient m.recipient

def groupMembers (s : Store) (owner group : Uuid) :
    Except StoreError (List (Owned RecipientFields)) := do
  s.requireOwned owner .group group
  return s.members group

end Store

end AlertService
