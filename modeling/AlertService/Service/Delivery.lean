import AlertService.Service.World

/-!
# Sending batches

Sending a batch hands every notification it made to the notifier, in order. One that was delivered is
marked as such, if it is still there; one that was not stays pending. Neither keeps the others from
being sent.
-/

namespace AlertService

/-- The value of a notification, if its channel is known. -/
def NotificationRecord.toJson? (n : NotificationRecord) : Option Json :=
  (Channel.ofName? n.channel).map fun channel =>
    .object [("notification_id", .string n.id.text), ("batch_id", .string n.batch.text),
      ("recipient_id", .string n.recipient.text), ("recipient_group_id", .string n.group.text),
      ("type", .string channel.name), ("creation_timestamp", .string n.created.text),
      ("completion_timestamp", .orNull (n.completed.map fun t => .string t.text))]

/-- The answer that names a batch. -/
structure BatchReference where
  batch : Uuid
deriving DecidableEq

namespace BatchReference

def shape : Json.Shape BatchReference where
  name := "NotificationBatch"
  fields := [.required "batch_id" .uuid]
  closed := false
  build := fun (batch, _) => ⟨batch⟩

def toJson (b : BatchReference) : Json := .object [("batch_id", .string b.batch.text)]

end BatchReference

namespace Service

variable (service : Service) (now : Instant) (caller : Uuid)

def createBatch : Handler Reply := do
  let batch ← service.freshId
  Handler.change fun s => s.createBatch batch caller
  return .value (BatchReference.toJson ⟨batch⟩)

/-- Hands a delivery to the notifier and marks it if it was delivered. -/
def deliver (d : Delivery) : Handler Unit := do
  if ← service.send ⟨d.chat, d.text⟩ then
    Handler.attempt (Handler.change fun s => s.completeNotification d.notification now)

/-- Makes the deliveries one after the other. -/
def deliverAll : List Delivery → Handler Unit
  | [] => return ()
  | d :: ds => do
    service.deliver now d
    deliverAll ds

def sendBatch (r : Http.Request) : Handler Reply := do
  let batch ← Handler.id r "batch_id" "notification batch"
  let first ← Handler.issue
  let deliveries ← Handler.store fun s =>
    s.startBatch caller batch now fun i => service.ids (first + i)
  Handler.issueMore deliveries.length
  service.deliverAll now deliveries
  return .value (.array (deliveries.map fun d => .string d.notification.text))

/-! ## Notifications -/

def getNotification (r : Http.Request) : Handler Reply := do
  let id ← Handler.id r "notification_id" "notification"
  let n ← Handler.ask fun s => s.getNotification caller id
  let j ← Handler.require n.toJson?
  return .value j

def notifications (pendingOnly : Bool) : Handler Reply := do
  let ns ← Handler.ask fun s => s.listNotifications caller pendingOnly
  let js ← Handler.require (ns.mapM NotificationRecord.toJson?)
  return .value (.array js)

def cancelNotification (r : Http.Request) : Handler Reply := do
  let id ← Handler.id r "notification_id" "notification"
  Handler.change fun s => s.cancelNotification caller id
  return .done

end Service

end AlertService
