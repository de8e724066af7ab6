import AlertService.Json.Value
import AlertService.Proofs.Json.Records
import Mathlib.Algebra.Group.Int.Defs

/-!
# Fields that are declared

A field is declared by its name and its type and by whether it is required. That says which trees are
right in its place, and how its value is written again.

* `FieldType.accepts_iff`: the trees of a type are those that its reader takes.
* `Declared.exists_means`, `Declared.mem_write`: the same with fields that may be left out.
-/

namespace AlertService.Json

inductive FieldType where
  | text
  | flag
  | integer
  | identifier

namespace FieldType

/-- What is accepted in the place of a field, and how it is written again. -/
inductive Accepts : FieldType → Tree → Json → Prop
  | text {s : String} : Accepts .text (.string s) (.string s)
  | flag {b : Bool} : Accepts .flag (.flag b) (.bool b)
  | integer {l : Numeral} {i : Int} : l.IsInteger i → -2 ^ 63 ≤ i → i < 2 ^ 63 →
      Accepts .integer (.number l) (.integer i)
  | identifier {s : String} {u : Uuid} : u.Spells s.toList →
      Accepts .identifier (.string s) (.string u.text)

abbrev Value : FieldType → Type
  | .text => String
  | .flag => Bool
  | .integer => Int64
  | .identifier => Uuid

def read : (type : FieldType) → Reader type.Value
  | .text => .string
  | .flag => .flag
  | .integer => .int64
  | .identifier => .uuid

def toJson : (type : FieldType) → type.Value → Json
  | .text => .string
  | .flag => .bool
  | .integer => fun i => .integer i.toInt
  | .identifier => fun u => .string u.text

def Means : (type : FieldType) → Tree → type.Value → Prop
  | .text => fun t s => t = .string s
  | .flag => fun t b => t = .flag b
  | .integer => fun t i => Reader.MeansInteger t i.toInt
  | .identifier => Reader.MeansUuid

variable {type : FieldType} {t : Tree} {j j' : Json}

theorem takes_read : type.read.Takes type.Means := by
  cases type with
  | text => exact Reader.takes_string
  | flag => exact Reader.takes_flag
  | integer => exact Reader.takes_int64
  | identifier => exact Reader.takes_uuid

theorem only_read : type.read.Only type.Means := by
  cases type with
  | text => exact Reader.only_string
  | flag => exact Reader.only_flag
  | integer => exact Reader.only_int64
  | identifier => exact Reader.only_uuid

theorem not_means_null (v : type.Value) : ¬type.Means .null v := by
  cases type with
  | text => exact nofun
  | flag => exact nofun
  | integer => exact fun ⟨_, h, _⟩ => nomatch h
  | identifier => exact fun ⟨_, h, _⟩ => nomatch h

theorem accepts_iff : type.Accepts t j ↔ ∃ v, type.Means t v ∧ j = type.toJson v := by
  constructor
  · intro h
    cases h with
    | text => exact ⟨_, rfl, rfl⟩
    | flag => exact ⟨_, rfl, rfl⟩
    | @integer l i hl hmin hmax =>
      have hi : (Int64.ofInt i).toInt = i := Int64.toInt_ofInt_of_le hmin hmax
      have hmeans : FieldType.integer.Means (.number l) (Int64.ofInt i) := by
        refine ⟨l, rfl, ?_⟩
        rwa [hi]
      exact ⟨Int64.ofInt i, hmeans, congrArg Json.integer hi.symm⟩
    | identifier hspells => exact ⟨_, ⟨_, rfl, hspells⟩, rfl⟩
  · rintro ⟨v, hmeans, rfl⟩
    cases type with
    | text => exact hmeans ▸ .text
    | flag => exact hmeans ▸ .flag
    | integer =>
      obtain ⟨l, rfl, hl⟩ := hmeans
      exact .integer hl (Int64.le_toInt v) (Int64.toInt_lt v)
    | identifier =>
      obtain ⟨s, rfl, hspells⟩ := hmeans
      exact .identifier hspells

theorem Accepts.unique (h : type.Accepts t j) (h' : type.Accepts t j') : j = j' := by
  cases h with
  | text => cases h'; rfl
  | flag => cases h'; rfl
  | integer hl =>
    cases h' with
    | integer hl' => rw [hl.unique hl']
  | identifier hspells =>
    cases h' with
    | identifier hspells' => rw [hspells.unique hspells']

theorem toJson_inj {v v' : type.Value} (h : type.toJson v = type.toJson v') : v = v' := by
  cases type with
  | text => exact Json.string.inj h
  | flag => exact Json.bool.inj h
  | integer => exact Int64.toInt_inj.mp (Json.integer.inj h)
  | identifier => exact Uuid.text_inj.mp (Json.string.inj h)

end FieldType

structure Declared where
  name : String
  type : FieldType
  required : Bool

namespace Declared

/-- The tree is right in the place of the field. -/
def Allows (d : Declared) (t : Tree) : Prop :=
  (∃ j, d.type.Accepts t j) ∨ d.required = false ∧ t = .null

def rule : Declared → Rule
  | ⟨name, type, true⟩ => ⟨.required name type.read, type.Means, FieldType.takes_read⟩
  | ⟨name, type, false⟩ => ⟨.optional name type.read, Reader.MeansOptional type.Means,
      Reader.takes_optional FieldType.takes_read FieldType.not_means_null⟩

abbrev Value (d : Declared) : Type := d.rule.field.Value

/-- The member that writes the value of the field, if it has one. -/
def write : (d : Declared) → d.Value → List (String × Json)
  | ⟨name, type, true⟩, v => [(name, type.toJson v)]
  | ⟨name, type, false⟩, v => Json.optional name (Option.map type.toJson v)

variable {d : Declared} {t : Tree} {v : d.Value}

theorem rule_name (d : Declared) : d.rule.name = d.name := by
  obtain ⟨name, type, required⟩ := d
  cases required <;> rfl

theorem only_rule (d : Declared) : d.rule.field.read.Only d.rule.means := by
  obtain ⟨name, type, required⟩ := d
  cases required with
  | true => exact FieldType.only_read
  | false => exact Reader.only_optional FieldType.only_read

theorem exists_means : (∃ v, d.rule.means t v) ↔ d.Allows t := by
  obtain ⟨name, type, required⟩ := d
  have haccepts : (∃ j, type.Accepts t j) ↔ ∃ v, type.Means t v := by
    constructor
    · rintro ⟨j, hj⟩
      obtain ⟨v, hv, -⟩ := FieldType.accepts_iff.mp hj
      exact ⟨v, hv⟩
    · rintro ⟨v, hv⟩
      exact ⟨_, FieldType.accepts_iff.mpr ⟨v, hv, rfl⟩⟩
  cases required with
  | true =>
    constructor
    · exact fun h => .inl (haccepts.mpr h)
    · rintro (h | ⟨h, -⟩)
      · exact haccepts.mp h
      · cases h
  | false =>
    constructor
    · rintro ⟨_, _ | hv⟩
      · exact .inr ⟨rfl, rfl⟩
      · exact .inl (haccepts.mpr ⟨_, hv⟩)
    · rintro (h | ⟨-, rfl⟩)
      · obtain ⟨v, hv⟩ := haccepts.mp h
        exact ⟨some v, .some hv⟩
      · exact ⟨none, .none⟩

/-- Without a tree only an optional field has a value, and that is not written. -/
theorem absent_spec : (d.rule.field.absent = some v ↔ d.rule.field.short = some v) ∧
    (d.rule.field.absent = some v → d.required = false ∧ d.write v = []) := by
  obtain ⟨name, type, required⟩ := d
  cases required with
  | true => exact ⟨Iff.rfl, nofun⟩
  | false =>
    refine ⟨Iff.rfl, fun h => ?_⟩
    obtain rfl : none = v := Option.some.inj h
    exact ⟨rfl, rfl⟩

theorem exists_absent (h : d.required = false) : ∃ v, d.rule.field.absent = some v := by
  obtain ⟨name, type, required⟩ := d
  obtain rfl : required = false := h
  exact ⟨none, rfl⟩

/-- A member is written if and only if what the tree means is so accepted. -/
theorem mem_write {key : String} {j : Json} (hmeans : d.rule.means t v) :
    (key, j) ∈ d.write v ↔ d.name = key ∧ d.type.Accepts t j := by
  obtain ⟨name, type, required⟩ := d
  have haccepts : ∀ w, type.Means t w → (j = type.toJson w ↔ type.Accepts t j) := by
    intro w hw
    have hmine := FieldType.accepts_iff.mpr ⟨w, hw, rfl⟩
    exact ⟨fun h => h ▸ hmine, fun h => h.unique hmine⟩
  cases required with
  | true =>
    show (key, j) ∈ [(name, type.toJson v)] ↔ _
    rw [List.mem_singleton, Prod.mk.injEq, haccepts v hmeans, eq_comm]
  | false =>
    have hoptional : Reader.MeansOptional type.Means t v := hmeans
    cases hoptional with
    | none => exact iff_of_false List.not_mem_nil fun h => nomatch h.2
    | @some _ w hw =>
      show (key, j) ∈ [(name, type.toJson w)] ↔ _
      rw [List.mem_singleton, Prod.mk.injEq, haccepts w hw, eq_comm]

theorem write_inj {v' : d.Value} (h : d.write v = d.write v') : v = v' := by
  obtain ⟨name, type, required⟩ := d
  cases required with
  | true =>
    have hpair := List.head_eq_of_cons_eq h
    exact FieldType.toJson_inj (Prod.mk.inj hpair).2
  | false =>
    obtain _ | w := (v : Option type.Value) <;> obtain _ | w' := (v' : Option type.Value)
    · rfl
    · cases h
    · cases h
    · have hpair := List.head_eq_of_cons_eq h
      exact congrArg some (FieldType.toJson_inj (Prod.mk.inj hpair).2)

theorem write_keys (d : Declared) (v : d.Value) : (d.write v).map Prod.fst = [] ∨
    (d.write v).map Prod.fst = [d.name] := by
  obtain ⟨name, type, required⟩ := d
  cases required with
  | true => exact .inr rfl
  | false =>
    obtain _ | w := (v : Option type.Value)
    · exact .inl rfl
    · exact .inr rfl

end Declared

end AlertService.Json
