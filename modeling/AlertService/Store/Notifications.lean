import AlertService.Notification.Channel
import AlertService.Store.Contacts
import AlertService.Store.Entities
import AlertService.Store.Memberships
import AlertService.Time.Written

/-!
# Batches and notifications

A batch is sent once. Sending it makes one pending notification for every member of an active group
that can be reached: the group's template has a text, and the member's chat has opted in. A
notification belongs to the user of its batch; while it is pending it can be completed or
cancelled.
-/

namespace AlertService

/-- A notification that still has to be handed to a chat. -/
structure Delivery where
  notification : Uuid
  chat : Int64
  text : String
deriving DecidableEq

/-- A member of a group that a batch reaches. -/
structure Target where
  group : Uuid
  recipient : Uuid
  chat : Int64
  text : String
deriving DecidableEq

/-- A notification as the program reads it. -/
structure NotificationRecord where
  id : Uuid
  batch : Uuid
  recipient : Uuid
  group : Uuid
  channel : String
  created : Instant
  completed : Option Instant
deriving DecidableEq

namespace Store

def createBatch (s : Store) (id owner : Uuid) : Except StoreError Store := do
  refuseTaken (s.batches.any fun b => b.id = id) "notifications_batch.batch_id"
  requireReference (s.hasUser owner)
  return { s with batches := s.batches ++ [⟨id, owner, .value false⟩] }

/-! ## Sending a batch -/

/-- The text that an active group sends, if its template has one. -/
def groupText? (s : Store) (g : Owned GroupFields) : Option String :=
  if g.fields.active then
    g.fields.template.bind fun t => (s.entity? .template t).bind fun x => x.fields.messageText
  else none

/-- The chat of a recipient, if it has opted in. -/
def reachableChat? (s : Store) (r : Owned RecipientFields) : Option Int64 :=
  r.fields.telegramId.filter s.contactIsActive

def groupTargets (s : Store) (g : Owned GroupFields) : List Target :=
  match s.groupText? g with
  | none => []
  | some text =>
    (s.members g.id).filterMap fun r =>
      (s.reachableChat? r).map fun chat => ⟨g.id, r.id, chat, text⟩

/-- Whom a batch of the user reaches: by group, and within a group by membership. -/
def targets (s : Store) (owner : Uuid) : List Target :=
  (s.listEntities .group owner).flatMap s.groupTargets

/-- Adds a pending notification for every target, under the identifiers `fresh i`, `fresh (i + 1)`
and so on. -/
def queue (s : Store) (batch : Uuid) (now : Instant) (fresh : Nat → Uuid) :
    (i : Nat) → List Target → Except StoreError (List Delivery × Store)
  | _, [] => .ok ([], s)
  | i, t :: ts => do
    refuseTaken (s.notifications.any fun n => n.id = fresh i) "notification.notification_id"
    let row : Notification :=
      ⟨fresh i, batch, t.recipient, t.group, Channel.telegram.name, .value now, none⟩
    let (deliveries, s) ← { s with notifications := s.notifications ++ [row] }.queue batch now
      fresh (i + 1) ts
    return (⟨fresh i, t.chat, t.text⟩ :: deliveries, s)

/-- The batch exists, is the user's and has not been sent. -/
def isUnsent (s : Store) (owner batch : Uuid) : Bool :=
  s.batches.any fun b => b.id = batch && b.owner = owner && b.sent = .value false

def markSent (s : Store) (batch : Uuid) : Store :=
  { s with batches := s.batches.map fun b =>
      if b.id = batch then { b with sent := .value true } else b }

/-- Marks a batch sent and queues its notifications. -/
def startBatch (s : Store) (owner batch : Uuid) (now : Instant) (fresh : Nat → Uuid) :
    Except StoreError (List Delivery × Store) :=
  if s.isUnsent owner batch then (s.markSent batch).queue batch now fresh 0 (s.targets owner)
  else .error (.notFound "notification batch")

/-! ## Notifications -/

/-- The batch of the notification is the user's. -/
def ownsNotification (s : Store) (owner : Uuid) (n : Notification) : Bool :=
  s.batches.any fun b => b.id = n.batch && b.owner = owner

/-- The notification has that identifier and is pending. -/
def isPending (id : Uuid) (n : Notification) : Bool := n.id = id && n.completed.isNone

/-- Marks a pending notification as delivered. -/
def completeNotification (s : Store) (id : Uuid) (time : Instant) : Except StoreError Store :=
  if s.notifications.any (isPending id) then
    .ok { s with notifications := s.notifications.map fun n =>
      if isPending id n then { n with completed := some time } else n }
  else .error (.notFound "notification")

/-- The instant in a time column. -/
def readInstant (index : Nat) (column : String) : Stored Instant → Except StoreError Instant
  | .value t => .ok t
  | .foreign (.text t) =>
    (Instant.read t).mapError fun e => .engine (.conversion index e.message)
  | .foreign c => .error (.engine (.columnType c.kindName index column))

def readNotification (n : Notification) : Except StoreError NotificationRecord :=
  (readInstant 5 "creation_timestamp" n.created).map fun created =>
    ⟨n.id, n.batch, n.recipient, n.group, n.channel, created, n.completed⟩

def getNotification (s : Store) (owner id : Uuid) : Except StoreError NotificationRecord :=
  match s.notifications.find? fun n => n.id = id && s.ownsNotification owner n with
  | none => .error (.notFound "notification")
  | some n => readNotification n

/-- The user's notifications, all or the pending ones. -/
def listNotifications (s : Store) (owner : Uuid) (pendingOnly : Bool) :
    Except StoreError (List NotificationRecord) :=
  (s.notifications.filter fun n =>
    s.ownsNotification owner n && (!pendingOnly || n.completed.isNone)).mapM readNotification

/-- Only a pending notification can be cancelled. -/
def cancelNotification (s : Store) (owner id : Uuid) : Except StoreError Store :=
  if s.notifications.any fun n => isPending id n && s.ownsNotification owner n then
    .ok { s with notifications := s.notifications.filter fun n =>
      !(isPending id n && s.ownsNotification owner n) }
  else .error (.notFound "notification")

end Store

end AlertService
