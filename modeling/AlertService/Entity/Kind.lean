import AlertService.Entity.Fields

/-!
# The three kinds of entities

Recipients, templates and groups go through the same life: a draft is written, confirmed once,
and then read, changed and deleted as an entity. `Kind` names the three and says what differs
between them: their fields, the words for them in messages and their member names in answers.
-/

namespace AlertService

inductive Kind where
  | recipient
  | template
  | group
deriving DecidableEq, Repr

/-- A row with an identifier that belongs to a user. -/
structure Owned (α : Type) where
  id : Uuid
  owner : Uuid
  fields : α
deriving DecidableEq

namespace Kind

abbrev Fields : Kind → Type
  | .recipient => RecipientFields
  | .template => TemplateFields
  | .group => GroupFields

instance (k : Kind) : DecidableEq k.Fields :=
  match k with
  | .recipient => inferInstanceAs (DecidableEq RecipientFields)
  | .template => inferInstanceAs (DecidableEq TemplateFields)
  | .group => inferInstanceAs (DecidableEq GroupFields)

def shape : (k : Kind) → Json.Shape k.Fields
  | .recipient => RecipientFields.shape
  | .template => TemplateFields.shape
  | .group => GroupFields.shape

def members : (k : Kind) → k.Fields → List (String × Json)
  | .recipient => RecipientFields.members
  | .template => TemplateFields.members
  | .group => GroupFields.members

/-- The word for an entity of the kind. -/
def label : Kind → String
  | .recipient => "recipient"
  | .template => "notification template"
  | .group => "recipient group"

/-- The word for a draft of the kind. -/
def draftLabel (k : Kind) : String := k.label ++ " draft"

/-- The table that holds the entities of the kind. -/
def table : Kind → String
  | .recipient => "recipient"
  | .template => "notification_template"
  | .group => "recipient_group"

/-- The column, and the member of an answer, that holds the identifier of an entity. -/
def idColumn (k : Kind) : String := k.table ++ "_id"

def draftTable (k : Kind) : String := k.table ++ "_draft"

def draftIdColumn (k : Kind) : String := k.draftTable ++ "_id"

/-- The parameter of a query that names an entity. -/
def idParameter : Kind → String
  | .recipient => "recipient_id"
  | .template => "template_id"
  | .group => "group_id"

/-- The value of a row whose identifier goes by the name `key`. -/
def toJson (k : Kind) (key : String) (row : Owned k.Fields) : Json :=
  .object ((key, .string row.id.text) :: ("master_id", .string row.owner.text) ::
    k.members row.fields)

def draftToJson (k : Kind) (draft : Owned k.Fields) : Json := k.toJson "draft_id" draft

def entityToJson (k : Kind) (entity : Owned k.Fields) : Json := k.toJson k.idColumn entity

end Kind

end AlertService
