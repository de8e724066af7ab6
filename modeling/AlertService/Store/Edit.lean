import AlertService.Store.Accounts
import AlertService.Store.Notifications

/-!
# Edits from outside

Another program may set a column in all rows of a table. The engine turns what it is given into
the type of the column where it can, and refuses what breaks a constraint; beyond that anything may
end up in the column.
-/

namespace AlertService

/-- The columns that can be set from outside. -/
inductive Column where
  | notificationType
  | passwordHash
  | sessionExpiry
  | draftTemplate
  | userId
  | batchSent
  | creationTimestamp
deriving DecidableEq

namespace Store

/-- A row that refers to the user exists. -/
def isReferenced (s : Store) (user : Uuid) : Bool :=
  s.sessions.any (fun x => x.user = user) || s.batches.any (fun b => b.owner = user) ||
    [Kind.recipient, .template, .group].any fun k =>
      (s.drafts.get k).any (fun d => d.owner = user) ||
        (s.entities.get k).any fun e => e.owner = user

/-- A key column with the given content: the written form of an identifier is that identifier. -/
def keyOfCell (c : Cell) : Stored Uuid :=
  match c with
  | .text t =>
    match Uuid.parse t with
    | .ok id => if id.text = t then .value id else .foreign c
    | .error _ => .foreign c
  | c => .foreign c

/-- Sets the key of all users. -/
def overwriteUserIds (s : Store) (c : Cell) : Except StoreError Store :=
  let key := keyOfCell c
  if 2 ≤ s.users.length ∧ c ≠ .null then .error (.engine (.unique "users.user_id"))
  else if s.users.any fun u =>
      u.id ≠ key && (match u.id with | .value id => s.isReferenced id | .foreign _ => false) then
    .error (.engine .foreignKey)
  else .ok { s with users := s.users.map fun u => { u with id := key } }

/-- Sets the template reference of all group drafts. -/
def overwriteReferences (s : Store) (c : Cell) : Store :=
  let (template, stray) :=
    match keyOfCell c, c with
    | .value id, _ => (some id, none)
    | .foreign _, .text t => (none, some t)
    | .foreign _, _ => (none, none)
  { s with drafts := s.drafts.set .group (s.drafts.group.map fun d =>
      { d with fields.template := template, stray := stray }) }

/-- The column refuses a missing value when there are rows. -/
def required (rows : Nat) (column : String) (c : Cell) : Except StoreError Unit :=
  if c = .null ∧ 0 < rows then .error (.engine (.notNull column)) else .ok ()

def textOf : Cell → String
  | .text t => t
  | _ => ""

/-- Sets a column in all rows of its table; also says how many rows that were. -/
def overwrite (s : Store) (column : Column) (c : Cell) : Except StoreError (Nat × Store) :=
  match column with
  | .notificationType => do
    required s.notifications.length "notification.type" c
    let channel := textOf c.asText
    return (s.notifications.length, { s with
      notifications := s.notifications.map fun n => { n with channel := channel } })
  | .passwordHash => do
    required s.users.length "users.password_hash" c
    let hash := textOf c.asText
    return (s.users.length, { s with
      users := s.users.map fun u => { u with passwordHash := hash } })
  | .sessionExpiry =>
    let expiry : Stored (Option Int) :=
      match c.asInteger with
      | .null => .value none
      | .integer i => .value (some i)
      | c => .foreign c
    .ok (s.sessions.length, { s with
      sessions := s.sessions.map fun x => { x with expiry := expiry } })
  | .draftTemplate => .ok (s.drafts.group.length, s.overwriteReferences c.asText)
  | .userId => (s.overwriteUserIds c.asText).map fun s => (s.users.length, s)
  | .batchSent => do
    required s.batches.length "notifications_batch.sent" c
    let sent : Stored Bool :=
      match c.asInteger with
      | .integer 0 => .value false
      | .integer 1 => .value true
      | c => .foreign c
    return (s.batches.length, { s with batches := s.batches.map fun b => { b with sent := sent } })
  | .creationTimestamp => do
    required s.notifications.length "notification.creation_timestamp" c
    let c := c.asText
    return (s.notifications.length, { s with
      notifications := s.notifications.map fun n => { n with created := .foreign c } })

end Store

end AlertService
