import AlertService.Proofs.Http.Query
import AlertService.Proofs.Service.Handler
import AlertService.Proofs.Text.Blank
import AlertService.Proofs.Uuid.Spelling

/-!
# How requests name identifiers

A parameter of a query names the identifier that its last value writes: in any spelling, with any
blanks around it, and with escapes wherever the sender put them.

* `Uuid.spells_trimmed`: what is read as an identifier is what writes it.
* `namedId?_eq_some`: a parameter names an identifier if and only if its last value writes it.
* `namedId?_of_respells`: one writing is as good as another.
-/

namespace AlertService

open Text (isBlank trim)

/-- What a value says, without the blanks around it. -/
def Http.trimmed (raw : List Char) : List Char :=
  trim (Http.decodeComponent (Utf8.bytes raw)).toList

/-! ## Writing an identifier -/

namespace Uuid

variable {u : Uuid} {raw cs before after : List Char}

/-- The text writes a spelling of the identifier, with any blanks around it. -/
def IsWritten (u : Uuid) (raw : List Char) : Prop :=
  ∃ before cs after, (∀ c ∈ before, isBlank c = true) ∧ (∀ c ∈ after, isBlank c = true) ∧
    u.Spells cs ∧ Http.Writes (Utf8.bytes raw) (Utf8.bytes (before ++ cs ++ after))

theorem InRange.not_blank {c : Char} (h : InRange c) : isBlank c = false := by
  obtain ⟨hlow, hhigh⟩ := h
  unfold isBlank
  simp
  omega

/-- A spelling between blanks is read where it is written, and nowhere else. -/
theorem decodeComponent_padded (hbefore : ∀ c ∈ before, isBlank c = true)
    (hafter : ∀ c ∈ after, isBlank c = true) (h : u.Spells cs) :
    Http.decodeComponent (Utf8.bytes raw) = String.ofList (before ++ cs ++ after) ↔
      Http.Writes (Utf8.bytes raw) (Utf8.bytes (before ++ cs ++ after)) := by
  have hchars : ∀ c ∈ before ++ cs ++ after, isBlank c = true ∨ InRange c := by
    intro c hc
    rcases List.mem_append.mp hc with hc | hc
    · rcases List.mem_append.mp hc with hc | hc
      · exact .inl (hbefore c hc)
      · exact .inr (h.inRange c hc)
    · exact .inl (hafter c hc)
  apply Http.decodeComponent_eq
  · intro hmem
    exact absurd (hchars _ hmem) (by decide)
  · intro hmem
    exact absurd (hchars _ hmem) (by decide)

theorem spells_trimmed : u.Spells (Http.trimmed raw) ↔ u.IsWritten raw := by
  constructor
  · intro h
    obtain ⟨before, after, htext, hbefore, hafter⟩ :=
      Text.exists_trim (Http.decodeComponent (Utf8.bytes raw)).toList
    refine ⟨before, _, after, hbefore, hafter, h, ?_⟩
    rw [← decodeComponent_padded hbefore hafter h, Http.trimmed, ← htext, String.ofList_toList]
  · rintro ⟨before, cs, after, hbefore, hafter, hcs, hwrites⟩
    have hplain : ∀ c ∈ cs, isBlank c = false := fun c hc => (hcs.inRange c hc).not_blank
    rw [Http.trimmed, (decodeComponent_padded hbefore hafter hcs).mpr hwrites,
      String.toList_ofList, Text.trim_append hbefore hplain hafter]
    exact hcs

theorem IsWritten.accept? (h : u.IsWritten raw) : Uuid.accept? (Http.trimmed raw) = some u :=
  accept?_eq_some.mpr (spells_trimmed.mpr h)

/-- A spelling needs no escapes. -/
theorem isWritten_of_spells (h : u.Spells cs) : u.IsWritten cs := by
  refine ⟨[], cs, [], by simp, by simp, h, ?_⟩
  rw [List.nil_append, List.append_nil]
  have habsent : ∀ d : Char, d.toNat < 128 → ¬InRange d → d.toUInt8 ∉ Utf8.bytes cs := by
    intro d hd hrange
    apply Utf8.ascii_not_mem_bytes hd
    intro hmem
    exact hrange (h.inRange d hmem)
  apply Http.writes_self
  intro b hb
  constructor
  · rintro rfl
    exact habsent '+' (by decide) (by decide) hb
  · rintro rfl
    exact habsent '%' (by decide) (by decide) hb

theorem isWritten_text (u : Uuid) : u.IsWritten u.text.toList := isWritten_of_spells (spells_text u)

end Uuid

/-! ## The last value of a parameter -/

namespace Http

/-- The request has a query, and its last pair with the name has the value, as it is written. -/
def Request.LastValue (r : Request) (key : String) (raw : List Char) : Prop :=
  ∃ s, r.target.query = some s ∧ Http.LastValue s key raw

theorem Request.query_get? {r : Request} {key text : String} : r.query.get? key = some text ↔
    ∃ raw, r.LastValue key raw ∧ decodeComponent (Utf8.bytes raw) = text := by
  unfold Request.query Request.LastValue
  cases r.target.query with
  | none =>
    constructor
    · intro h
      exact nomatch h
    · rintro ⟨raw, ⟨s, hs, -⟩, -⟩
      exact nomatch hs
  | some s =>
    rw [Option.map_some, Option.getD_some, Query.get?_parse]
    simp only [Option.some.injEq, exists_eq_left']

end Http

namespace Service

variable {u : Uuid} {r : Http.Request} {key : String}

theorem namedId?_eq_some :
    namedId? r key = some u ↔ ∃ raw, r.LastValue key raw ∧ u.IsWritten raw := by
  unfold namedId?
  rw [Option.bind_eq_some_iff]
  constructor
  · rintro ⟨text, htext, hread⟩
    obtain ⟨raw, hlast, rfl⟩ := Http.Request.query_get?.mp htext
    exact ⟨raw, hlast, Uuid.spells_trimmed.mp (Uuid.accept?_eq_some.mp hread)⟩
  · rintro ⟨raw, hlast, hwritten⟩
    exact ⟨_, Http.Request.query_get?.mpr ⟨raw, hlast, rfl⟩, hwritten.accept?⟩

theorem namedId?_eq_none :
    namedId? r key = none ↔ ∀ raw, r.LastValue key raw → ∀ u : Uuid, ¬u.IsWritten raw := by
  rw [Option.eq_none_iff_forall_ne_some]
  constructor
  · intro h raw hlast u hwritten
    exact h u (namedId?_eq_some.mpr ⟨raw, hlast, hwritten⟩)
  · intro h u hu
    obtain ⟨raw, hlast, hwritten⟩ := namedId?_eq_some.mp hu
    exact h raw hlast u hwritten

example : (namedId? ⟨"PUT", ⟨"/recipients/confirmCreation",
    some "draft_id=1&draft%5Fid=+%7ba1b2c3d4-E5F6-4a5b-8c9d-0e1f2a3b4c5d%7D%20&x=%"⟩, [], []⟩
      "draft_id").map Uuid.text = some "a1b2c3d4-e5f6-4a5b-8c9d-0e1f2a3b4c5d" := by
  decide +kernel

end Service

/-! ## Other writings -/

namespace Http

variable {parts parts' : List (List Char)} {part part' : List Char}

/-- The parts of two queries are the same, or they have the same name and values that write the same
identifier. -/
inductive RespellsPart : List Char → List Char → Prop
  | same (part : List Char) : RespellsPart part part
  | id {u : Uuid} {name raw raw' : List Char} : '=' ∉ name → u.IsWritten raw → u.IsWritten raw' →
      RespellsPart (name ++ '=' :: raw) (name ++ '=' :: raw')

/-- The second request is the first, with some of the identifiers in its query written in another
way. -/
inductive Request.Respells : Request → Request → Prop
  | query {method path s s' : String} {headers : List (String × Bytes)} {body : Bytes}
      {parts parts' : List (List Char)} : IsSplit s parts → IsSplit s' parts' →
      List.Forall₂ RespellsPart parts parts' →
      Respells ⟨method, ⟨path, some s⟩, headers, body⟩ ⟨method, ⟨path, some s'⟩, headers, body⟩

/-- Two pairs have the same name, and their values are read as the same identifier, or as none. -/
def SameId (p p' : String × String) : Prop :=
  p'.1 = p.1 ∧ Uuid.accept? (trim p'.2.toList) = Uuid.accept? (trim p.2.toList)

theorem RespellsPart.eq_nil_iff (h : RespellsPart part part') : part' = [] ↔ part = [] := by
  cases h with
  | same part => rfl
  | id _ _ _ => simp

theorem RespellsPart.sameId (h : RespellsPart part part') :
    SameId (decodePair (Utf8.bytes part)) (decodePair (Utf8.bytes part')) := by
  cases h with
  | same part => exact ⟨rfl, rfl⟩
  | id hname hraw hraw' =>
    rw [(IsPair.valued hname).decodePair, (IsPair.valued hname).decodePair]
    exact ⟨rfl, hraw'.accept?.trans hraw.accept?.symm⟩

theorem sameId_of_respells {s s' : String} (hs : IsSplit s parts) (hs' : IsSplit s' parts')
    (h : List.Forall₂ RespellsPart parts parts') :
    List.Forall₂ SameId (Query.parse s) (Query.parse s') := by
  rw [hs.parse, hs'.parse, List.forall₂_map_left_iff, List.forall₂_map_right_iff]
  clear hs hs'
  induction h with
  | nil => exact .nil
  | @cons part part' _ _ hpart _ ih =>
    by_cases hnone : part = []
    · rw [hnone, hpart.eq_nil_iff.mpr hnone, List.filter_cons_of_neg (by simp),
        List.filter_cons_of_neg (by simp)]
      exact ih
    · have hnone' := mt hpart.eq_nil_iff.mp hnone
      rw [List.filter_cons_of_pos (by simpa using hnone),
        List.filter_cons_of_pos (by simpa using hnone')]
      exact .cons hpart.sameId ih

theorem lookup_of_sameId {q q' : Query} (h : List.Forall₂ SameId q q') (key : String) :
    ((q'.lookup key).bind fun v => Uuid.accept? (trim v.toList)) =
      (q.lookup key).bind fun v => Uuid.accept? (trim v.toList) := by
  induction h with
  | nil => rfl
  | @cons p p' _ _ hpair _ ih =>
    obtain ⟨name, value⟩ := p
    obtain ⟨name', value'⟩ := p'
    obtain ⟨hname, hvalue⟩ := hpair
    obtain rfl : name' = name := hname
    rw [List.lookup_cons, List.lookup_cons]
    cases key == name' with
    | true => exact hvalue
    | false => exact ih

end Http

/-- What a parameter names does not depend on how it is written. -/
theorem Service.namedId?_of_respells {r r' : Http.Request} (h : r.Respells r') (key : String) :
    namedId? r' key = namedId? r key := by
  cases h with
  | query hs hs' hparts =>
    apply Http.lookup_of_sameId
    exact List.forall₂_reverse_iff.mpr (Http.sameId_of_respells hs hs' hparts)

end AlertService
