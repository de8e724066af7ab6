import AlertService.Json.Record
import AlertService.Json.Value

/-!
# Updates of the bot

The part of an update that the bot reads: the chat a message came from and its text. All else in
an update is skipped.
-/

namespace AlertService.Telegram

structure Chat where
  id : Int64
deriving DecidableEq

structure Message where
  chat : Chat
  text : Option String
deriving DecidableEq

structure Update where
  id : Int64
  message : Option Message
deriving DecidableEq

def Chat.shape : Json.Shape Chat where
  name := "TelegramChat"
  fields := [.required "id" .int64]
  closed := false
  build := fun (id, _) => ⟨id⟩

def Message.shape : Json.Shape Message where
  name := "TelegramMessage"
  fields := [.required "chat" Chat.shape.read, .nullable "text" .string]
  closed := false
  build := fun (chat, text, _) => ⟨chat, text⟩

def Message.toJson (m : Message) : Json :=
  .object [("chat", .object [("id", .integer m.chat.id.toInt)]),
    ("text", .orNull (m.text.map .string))]

namespace Update

def shape : Json.Shape Update where
  name := "TelegramUpdate"
  fields := [.required "update_id" .int64, .nullable "message" Message.shape.read]
  closed := false
  build := fun (id, message, _) => ⟨id, message⟩

def toJson (u : Update) : Json :=
  .object [("update_id", .integer u.id.toInt), ("message", .orNull (u.message.map Message.toJson))]

end Update

end AlertService.Telegram
