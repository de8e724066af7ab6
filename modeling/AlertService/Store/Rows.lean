import AlertService.Store.Fields

/-!
# The rows of the tables

What an observer of the database sees: every table as a list of rows of raw columns.
-/

namespace AlertService

inductive TableName where
  | users
  | sessions
  | drafts (k : Kind)
  | entities (k : Kind)
  | memberships
  | batches
  | notifications
  | contacts
deriving DecidableEq

namespace TableName

def text : TableName → String
  | .users => "users"
  | .sessions => "sessions"
  | .drafts k => k.draftTable
  | .entities k => k.table
  | .memberships => "recipient_recipient_group"
  | .batches => "notifications_batch"
  | .notifications => "notification"
  | .contacts => "telegram_contact"

def all : List TableName :=
  [.users, .sessions, .drafts .recipient, .entities .recipient, .drafts .template,
    .entities .template, .drafts .group, .entities .group, .memberships, .batches, .notifications,
    .contacts]

def ofText? (s : String) : Option TableName := all.find? fun t => t.text = s

end TableName

namespace Cell

def ofStored {α : Type} (f : α → Cell) : Stored α → Cell
  | .value a => f a
  | .foreign c => c

end Cell

namespace Store

open Cell

/-- The rows of a table in order; contacts by their chat. -/
def rows (s : Store) : TableName → List (List Cell)
  | .users => s.users.map fun u => [ofStored ofId u.id, .text u.name, .text u.passwordHash]
  | .sessions =>
    s.sessions.map fun x => [ofId x.id, ofId x.user, ofStored (ofOption .integer) x.expiry]
  | .drafts k => (s.drafts.get k).map ofDraft
  | .entities k => (s.entities.get k).map ofOwned
  | .memberships => s.memberships.map fun m => [ofId m.group, ofId m.recipient]
  | .batches => s.batches.map fun b => [ofId b.id, ofId b.owner, ofStored ofBool b.sent]
  | .notifications =>
    s.notifications.map fun n =>
      [ofId n.id, ofId n.batch, ofId n.recipient, ofId n.group, .text n.channel,
        ofOption (fun t : Instant => .text t.text) n.completed]
  | .contacts =>
    (s.contacts.mergeSort fun a b => a.chat ≤ b.chat).map fun c =>
      [.integer c.chat.toInt, ofBool c.active]

end Store

end AlertService
