import AlertService.Service.World
import AlertService.Telegram.Command
import AlertService.Telegram.Update

/-!
# The bot

A chat opts in and out by commands; anything else is answered with help. Where updates have to show
a secret, one that does not is refused. Whether the reply reaches the chat makes no difference.
-/

namespace AlertService

namespace Telegram

/-- What the bot says. -/
inductive Reaction where
  | help
  | subscribed
  | alreadySubscribed
  | unsubscribed
  | notSubscribed
deriving DecidableEq

def Reaction.text : Reaction → String
  | .help =>
    "This is the notifier bot of the emergency notification system. " ++
      "Use /send_notifications or /stop_notifications to accept or reject notifications " ++
      "from other users"
  | .subscribed => "Success! Now you will receive notifications from other users"
  | .alreadySubscribed => "You are already subscribed to notifications"
  | .unsubscribed => "Stopped notifications"
  | .notSubscribed => "You aren't subscribed to notifications"

/-- The header that shows the secret. -/
def secretHeader : String := "x-telegram-bot-api-secret-token"

end Telegram

namespace Service

open Telegram

variable (service : Service)

/-- Does what the text asks for on behalf of the chat. -/
def react (chat : Int64) (text : String) : Handler Reaction := do
  match Command.parse text with
  | none | some .start | some .help => return .help
  | some .sendNotifications =>
    let changed ← Handler.store fun s => .ok (s.activateContact chat)
    return if changed then .subscribed else .alreadySubscribed
  | some .stopNotifications =>
    let changed ← Handler.store fun s => .ok (s.deactivateContact chat)
    return if changed then .unsubscribed else .notSubscribed

/-- The request shows the secret, if one is wanted. -/
def showsSecret (r : Http.Request) : Bool :=
  match service.webhookSecret with
  | none => true
  | some secret => r.header? secretHeader = some secret

def botUpdate (r : Http.Request) : Handler Reply := do
  let update ← Handler.payload Update.shape.read r.body
  if !service.showsSecret r then throw .unauthenticated
  match update.message with
  | none => return .done
  | some message =>
    let chat := message.chat.id
    let reaction ← react chat (message.text.getD "")
    let _ ← service.send ⟨chat, reaction.text⟩
    return .done

end Service

end AlertService
