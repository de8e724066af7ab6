import AlertService.Store.Basic

/-!
# Contacts

A chat receives notifications while it is active here. Opting in and out says whether anything
changed.
-/

namespace AlertService

namespace Store

def contactIsActive (s : Store) (chat : Int64) : Bool :=
  s.contacts.any fun c => c.chat = chat && c.active

/-- Marks the chat, which has a row already. -/
def setContact (s : Store) (chat : Int64) (active : Bool) : Store :=
  { s with contacts := s.contacts.map fun c =>
      if c.chat = chat then { c with active := active } else c }

def activateContact (s : Store) (chat : Int64) : Bool × Store :=
  if s.contactIsActive chat then (false, s)
  else if s.contacts.any fun c => c.chat = chat then (true, s.setContact chat true)
  else (true, { s with contacts := s.contacts ++ [⟨chat, true⟩] })

def deactivateContact (s : Store) (chat : Int64) : Bool × Store :=
  if s.contactIsActive chat then (true, s.setContact chat false) else (false, s)

end Store

end AlertService
