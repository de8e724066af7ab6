import AlertService.Json.Record
import AlertService.Json.Value

/-!
# The writable fields of recipients, templates and groups

What a user may set of each kind of entity: how it is read from a body, and the members that write
it. A field without a value is left out.
-/

namespace AlertService

structure RecipientFields where
  name : String
  email : Option String
  phoneNumber : Option String
  telegramId : Option Int64
deriving DecidableEq

structure TemplateFields where
  name : String
  messageText : Option String
deriving DecidableEq

/-- The field `template` refers to a template of the same user. -/
structure GroupFields where
  name : String
  active : Bool
  template : Option Uuid
deriving DecidableEq

open Json (Shape Reader)

namespace RecipientFields

def shape : Shape RecipientFields where
  name := "RecipientFields"
  fields := [.required "name" .string, .optional "email" .string, .optional "phone_number" .string,
    .optional "telegram_id" .int64]
  closed := true
  build := fun (name, email, phoneNumber, telegramId, _) => ⟨name, email, phoneNumber, telegramId⟩

def members (f : RecipientFields) : List (String × Json) :=
  ("name", .string f.name) :: (Json.optional "email" (f.email.map .string) ++
    Json.optional "phone_number" (f.phoneNumber.map .string) ++
    Json.optional "telegram_id" (f.telegramId.map fun chat => .integer chat.toInt))

end RecipientFields

namespace TemplateFields

def shape : Shape TemplateFields where
  name := "TemplateFields"
  fields := [.required "name" .string, .optional "message_text" .string]
  closed := true
  build := fun (name, messageText, _) => ⟨name, messageText⟩

def members (f : TemplateFields) : List (String × Json) :=
  ("name", .string f.name) :: Json.optional "message_text" (f.messageText.map .string)

end TemplateFields

namespace GroupFields

def shape : Shape GroupFields where
  name := "GroupFields"
  fields := [.required "name" .string, .required "active" .flag,
    .optional "notification_template_id" .uuid]
  closed := true
  build := fun (name, active, template, _) => ⟨name, active, template⟩

def members (f : GroupFields) : List (String × Json) :=
  ("name", .string f.name) :: ("active", .bool f.active) ::
    Json.optional "notification_template_id" (f.template.map fun id => .string id.text)

end GroupFields

end AlertService
