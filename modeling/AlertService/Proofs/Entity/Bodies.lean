import AlertService.Account.Credentials
import AlertService.Entity.Kind
import AlertService.Proofs.Json.Conforming
import AlertService.Service.World

/-!
# The bodies that are accepted

The writable fields of each kind of entity, and the credentials, are declared: their names, their
types and which of them have to be there. The declarations tell which bodies are accepted; that
nothing of such a body is lost is seen when the fields are written again.

* `payload_accepts`: which bodies are accepted, and what is kept of them.
-/

namespace AlertService

open Json (Declared Documents rulesOf shapeOf)

/-! ## Declarations -/

namespace Kind

def declared : Kind → List Declared
  | .recipient => [⟨"name", .text, true⟩, ⟨"email", .text, false⟩, ⟨"phone_number", .text, false⟩,
      ⟨"telegram_id", .integer, false⟩]
  | .template => [⟨"name", .text, true⟩, ⟨"message_text", .text, false⟩]
  | .group => [⟨"name", .text, true⟩, ⟨"active", .flag, true⟩,
      ⟨"notification_template_id", .identifier, false⟩]

theorem declared_names (k : Kind) : (k.declared.map Declared.name).Nodup := by
  cases k <;> decide

/-- The fields from the values of the declared ones. -/
def build (k : Kind) : Json.Values (Json.fieldsOf (rulesOf k.declared)) → k.Fields :=
  match k with
  | .recipient => RecipientFields.shape.build
  | .template => TemplateFields.shape.build
  | .group => GroupFields.shape.build

theorem shape_eq (k : Kind) :
    k.shape = shapeOf k.shape.name (rulesOf k.declared) true k.build := by
  cases k <;> rfl

theorem members_build (k : Kind) (vs : Json.Values (Json.fieldsOf (rulesOf k.declared))) :
    k.members (k.build vs) = Json.written k.declared vs := by
  cases k with
  | recipient =>
    obtain ⟨name, email, phoneNumber, telegramId, -⟩ := vs
    cases email <;> cases phoneNumber <;> cases telegramId <;> rfl
  | template =>
    obtain ⟨name, messageText, -⟩ := vs
    cases messageText <;> rfl
  | group =>
    obtain ⟨name, active, template, -⟩ := vs
    cases template <;> rfl

theorem exists_build (k : Kind) (fields : k.Fields) : ∃ vs, fields = k.build vs := by
  cases k with
  | recipient =>
    obtain ⟨name, email, phoneNumber, telegramId⟩ := fields
    exact ⟨(name, email, phoneNumber, telegramId, ()), rfl⟩
  | template =>
    obtain ⟨name, messageText⟩ := fields
    exact ⟨(name, messageText, ()), rfl⟩
  | group =>
    obtain ⟨name, active, template⟩ := fields
    exact ⟨(name, active, template, ()), rfl⟩

end Kind

namespace Credentials

def declared : List Declared := [⟨"name", .text, true⟩, ⟨"password", .text, true⟩]

theorem declared_names : (declared.map Declared.name).Nodup := by decide

theorem shape_eq : shape = shapeOf "Credentials" (rulesOf declared) true shape.build := rfl

/-- The members that would write credentials. -/
def members (c : Credentials) : List (String × Json) :=
  [("name", .string c.name), ("password", .string c.password)]

theorem members_build (vs : Json.Values (Json.fieldsOf (rulesOf declared))) :
    members (shape.build vs) = Json.written declared vs := rfl

end Credentials

/-! ## Acceptance -/

variable {α : Type} {read : Json.Reader α} {body : Bytes} {w : World} {x : α}

theorem Handler.payload_eq_ok : payload read body w = (.ok x, w) ↔
    body.length ≤ bodyLimit ∧ Json.readBody read body = .ok x := by
  have hparse : Json.parseBody read body = .ok x ↔ Json.readBody read body = .ok x :=
    mapError_eq_ok
  unfold payload
  by_cases hlimit : bodyLimit < body.length
  · rw [if_pos hlimit]
    refine iff_of_false (fun h => nomatch (Prod.mk.inj h).1) fun h => ?_
    omega
  · rw [if_neg hlimit, and_iff_right (by omega), ← hparse]
    split
    · rename_i y hy
      rw [hy]
      exact ⟨fun h => congrArg Except.ok (Except.ok.inj (Prod.mk.inj h).1),
        fun h => congrArg (fun r => (Except.ok r, w)) (Except.ok.inj h)⟩
    · rename_i message hy
      rw [hy]
      exact iff_of_false (fun h => nomatch (Prod.mk.inj h).1) nofun

/-- The body of a request is accepted for the fields of a kind if and only if it is no longer than
allowed and is the text of a tree that conforms to the declaration of the fields, and the fields are
those with which the tree is kept. The same holds of credentials. -/
theorem Handler.payload_accepts (body : Bytes) (w : World) :
    (∀ k : Kind,
      ((∃ fields, payload k.shape.read body w = (.ok fields, w)) ↔
        body.length ≤ bodyLimit ∧ ∃ t, Documents t body ∧ t.Conforms k.declared) ∧
      ∀ fields, payload k.shape.read body w = (.ok fields, w) ↔
        body.length ≤ bodyLimit ∧
          ∃ t, Documents t body ∧ t.Conforms k.declared ∧ t.Keeps k.declared (k.members fields)) ∧
    ((∃ c, payload Credentials.shape.read body w = (.ok c, w)) ↔
      body.length ≤ bodyLimit ∧ ∃ t, Documents t body ∧ t.Conforms Credentials.declared) ∧
    ∀ c, payload Credentials.shape.read body w = (.ok c, w) ↔
      body.length ≤ bodyLimit ∧ ∃ t, Documents t body ∧ t.Conforms Credentials.declared ∧
        t.Keeps Credentials.declared c.members := by
  simp only [payload_eq_ok, exists_and_left]
  refine ⟨fun k => ⟨and_congr_right fun _ => ?_, fun fields => and_congr_right fun _ => ?_⟩,
    and_congr_right fun _ => ?_, fun c => and_congr_right fun _ => ?_⟩
  · rw [k.shape_eq]
    exact Json.exists_readBody k.declared_names
  · rw [k.shape_eq]
    exact Json.readBody_keeps k.declared_names k.members_build k.exists_build
  · rw [Credentials.shape_eq]
    exact Json.exists_readBody Credentials.declared_names
  · rw [Credentials.shape_eq]
    exact Json.readBody_keeps Credentials.declared_names Credentials.members_build
      fun c => ⟨(c.name, c.password, ()), rfl⟩

end AlertService
