import AlertService.Proofs.Json.Objects

/-!
# Records and bodies

A record is read from an object or from a list of the values of its fields. A body is read if the
record, with blanks around it, is all of it.

* `Describes`: the tree writes the record with these values.
* `Shape.takes_read`, `Shape.only_read`: a record is read from such trees, and from no others.
* `readBody_eq_ok`: when a body is read.
-/

namespace AlertService.Json

open Utf8 (bytes)

namespace Values

/-- The items are those of the fields in order; fields that may be short may be left out at the end. -/
def Listed : (rs : List Rule) → Values (fieldsOf rs) → List Tree → Prop
  | [], _, ts => ts = []
  | r :: rs, (v, vs), [] => r.field.short = some v ∧ Listed rs vs []
  | r :: rs, (v, vs), t :: ts => r.means t v ∧ Listed rs vs ts

end Values

/-- The record with these values is written by the tree. -/
inductive Describes (rs : List Rule) (closed : Bool) (vs : Values (fieldsOf rs)) : Tree → Prop
  | object {ms : List (String × Tree)} : (keysOf ms).Nodup →
      (∀ m ∈ ms, m.1 ∈ rs.map Rule.name ∨ closed = false ∧ m.2.IsSkipped) → vs.Given rs ms →
      Describes rs closed vs (.object ms)
  | list {ts : List Tree} : vs.Listed rs ts → Describes rs closed vs (.list ts)

variable {rs : List Rule} {ts : List Tree} {bs rest : Bytes} {text : List Char} {α : Type}
  {name : String} {closed : Bool} {build : Values (fieldsOf rs) → α}

/-! ## Lists -/

theorem Shape.readItems_cons {shape : Shape α} {f : Field} {fs : List Field} {index : Nat}
    {v : f.Value} {vs : Values fs} :
    shape.readItems index (f :: fs) bs = .ok ((v, vs), rest) ↔
      (∃ tail tail', readItemStart (index = 0) bs = .ok (true, tail) ∧ f.read tail = .ok (v, tail') ∧
        shape.readItems (index + 1) fs tail' = .ok (vs, rest)) ∨
      ∃ tail, readItemStart (index = 0) bs = .ok (false, tail) ∧ f.short = some v ∧
        shape.readItems (index + 1) fs tail = .ok (vs, rest) := by
  let next : f.Value × Bytes → Except Fault (Values (f :: fs) × Bytes) := fun p =>
    (shape.readItems (index + 1) fs p.2).bind fun q => .ok ((p.1, q.1), q.2)
  have hnext : ∀ w tail, next (w, tail) = .ok ((v, vs), rest) ↔
      w = v ∧ shape.readItems (index + 1) fs tail = .ok (vs, rest) := by
    intro w tail
    refine bind_eq_ok.trans ?_
    constructor
    · rintro ⟨⟨ws, rest'⟩, hmore, h⟩
      cases h
      exact ⟨rfl, hmore⟩
    · rintro ⟨rfl, hmore⟩
      exact ⟨(vs, rest), hmore, rfl⟩
  refine (Eq.congr_left (Shape.readItems.eq_2 ..)).trans (bind_eq_ok.trans ?_)
  constructor
  · rintro ⟨⟨found, tail⟩, hstart, h⟩
    dsimp only at h
    cases found with
    | true =>
      rw [if_pos rfl] at h
      obtain ⟨⟨w, tail'⟩, hvalue, h⟩ := bind_eq_ok.mp h
      obtain ⟨rfl, hmore⟩ := (hnext w tail').mp h
      exact .inl ⟨tail, tail', hstart, hvalue, hmore⟩
    | false =>
      rw [if_neg (by decide)] at h
      split at h
      · rename_i w hshort
        obtain ⟨rfl, hmore⟩ := (hnext w tail).mp h
        exact .inr ⟨tail, hstart, hshort, hmore⟩
      · cases h
  · rintro (⟨tail, tail', hstart, hvalue, hmore⟩ | ⟨tail, hstart, hshort, hmore⟩)
    · exact ⟨(true, tail), hstart, bind_eq_ok.mpr ⟨(v, tail'), hvalue, (hnext v tail').mpr ⟨rfl, hmore⟩⟩⟩
    · refine ⟨(false, tail), hstart, ?_⟩
      dsimp only
      rw [if_neg (by decide), hshort]
      exact (hnext v tail).mpr ⟨rfl, hmore⟩

variable {shape : Shape α} {vs : Values (fieldsOf rs)} {index : Nat} {tail : Bytes}

theorem readItems_close : shape.readItems (index + 1) (fieldsOf rs) (']'.toUInt8 :: rest) =
    .ok (vs, tail) ↔ vs.Listed rs [] ∧ tail = ']'.toUInt8 :: rest := by
  induction rs generalizing index with
  | nil =>
    constructor
    · intro h
      cases h
      exact ⟨rfl, rfl⟩
    · rintro ⟨-, rfl⟩
      rfl
  | cons r rs ih =>
    obtain ⟨v, vs⟩ := vs
    have hstart := readItemStart_close (decide (index + 1 = 0)) isGap_nil rest
    rw [Utf8.bytes_nil, List.nil_append] at hstart
    refine Shape.readItems_cons.trans ?_
    rw [hstart]
    constructor
    · rintro (⟨_, _, h, -⟩ | ⟨_, h, hshort, hmore⟩)
      · cases h
      · cases h
        obtain ⟨hlisted, htail⟩ := ih.mp hmore
        exact ⟨⟨hshort, hlisted⟩, htail⟩
    · rintro ⟨⟨hshort, hlisted⟩, htail⟩
      exact .inr ⟨_, rfl, hshort, ih.mpr ⟨hlisted, htail⟩⟩

theorem readItems_listed (hlisted : vs.Listed rs ts) (htext : ItemsFrom (index = 0) ts text) :
    ∃ tail, shape.readItems index (fieldsOf rs) (bytes text ++ ']'.toUInt8 :: rest) =
      .ok (vs, tail) ∧ readListEnd tail = .ok rest := by
  induction rs generalizing index ts text with
  | nil =>
    obtain rfl : ts = [] := hlisted
    exact ⟨_, rfl, readListEnd_eq_ok.mpr ⟨text, itemsFrom_nil.mp htext, rfl⟩⟩
  | cons r rs ih =>
    obtain ⟨v, vs⟩ := vs
    cases ts with
    | nil =>
      obtain ⟨hshort, hlisted⟩ := hlisted
      refine ⟨']'.toUInt8 :: rest, ?_, readListEnd_eq_ok.mpr ⟨[], isGap_nil, rfl⟩⟩
      exact Shape.readItems_cons.mpr (.inr ⟨_, readItemStart_close _ (itemsFrom_nil.mp htext) rest,
        hshort, readItems_close.mpr ⟨hlisted, rfl⟩⟩)
    | cons t ts =>
      obtain ⟨hmeans, hlisted⟩ := hlisted
      obtain ⟨lead, cs, more, hlead, hwrites, hmore, rfl⟩ := itemsFrom_cons.mp htext
      obtain ⟨tail, hitems, hend⟩ :
          ∃ tail, shape.readItems (index + 1) (fieldsOf rs) (bytes more ++ ']'.toUInt8 :: rest) =
            .ok (vs, tail) ∧ readListEnd tail = .ok rest := ih hlisted hmore
      have hread := r.takes isGap_nil hwrites hmeans (ends_of_itemsFrom hmore rest)
      refine ⟨tail, Shape.readItems_cons.mpr (.inl ⟨_, _, ?_, hread, hitems⟩), hend⟩
      simp only [Utf8.bytes_append, List.append_assoc]
      exact readItemStart_of_leads hlead hwrites

theorem listed_of_readItems (hexact : AreExact rs)
    (h : shape.readItems index (fieldsOf rs) bs = .ok (vs, tail)) (hend : readListEnd tail = .ok rest) :
    ∃ ts text, ItemsFrom (index = 0) ts text ∧ bs = bytes text ++ ']'.toUInt8 :: rest ∧
      vs.Listed rs ts := by
  induction rs generalizing index bs with
  | nil =>
    cases h
    obtain ⟨gap, hgap, rfl⟩ := readListEnd_eq_ok.mp hend
    exact ⟨[], gap, itemsFrom_nil.mpr hgap, rfl, rfl⟩
  | cons r rs ih =>
    obtain ⟨hr, hexact⟩ := List.forall_mem_cons.mp hexact
    obtain ⟨v, vs⟩ := vs
    rcases Shape.readItems_cons.mp h with ⟨tail', tail'', hstart, hread, hmore⟩ |
      ⟨tail', hstart, hshort, hmore⟩
    · obtain ⟨ts, text, htext, rfl, hlisted⟩ := ih hexact hmore
      obtain ⟨lead, hlead, rfl⟩ := leads_of_readItemStart hstart
      obtain ⟨gap, cs, t, hgap, hwrites, hmeans, rfl⟩ := hr hread
      refine ⟨t :: ts, _, itemsFrom_cons.mpr ⟨lead ++ gap, cs, text, hlead.append hgap, hwrites, htext,
        rfl⟩, ?_, hmeans, hlisted⟩
      simp only [Utf8.bytes_append, List.append_assoc]
    · obtain ⟨gap, r', hgap, rfl, rfl⟩ := close_of_readItemStart hstart
      obtain ⟨hlisted, rfl⟩ := readItems_close.mp hmore
      have hend' : readListEnd (']'.toUInt8 :: r') = .ok r' :=
        readListEnd_eq_ok.mpr ⟨[], isGap_nil, rfl⟩
      obtain rfl := Except.ok.inj (hend'.symm.trans hend)
      exact ⟨[], gap, itemsFrom_nil.mpr hgap, rfl, hshort, hlisted⟩

/-! ## Records -/

/-- A record takes every tree that describes it. -/
theorem Shape.takes_read (hnames : (rs.map Rule.name).Nodup) :
    (shapeOf name rs closed build).read.Takes fun t x =>
      ∃ vs, Describes rs closed vs t ∧ x = build vs := by
  rintro gap cs t _ rest hgap hwrites ⟨vs, hdescribes, rfl⟩ -
  obtain ⟨c, more, hbegins, hcs, -, hskip⟩ := hwrites.skipSpaces_eq hgap rest
  unfold Shape.read
  rw [hskip]
  cases hdescribes with
  | @object ms hkeys hknown hgiven =>
    obtain rfl : c = '\x7b' := hbegins
    cases hwrites with
    | @object _ text htext =>
      obtain rfl : text ++ ['\x7d'] = more := (List.cons.inj hcs).2
      have hbytes : bytes (text ++ ['\x7d']) ++ rest = bytes text ++ '\x7d'.toUInt8 :: rest := by
        rw [Utf8.bytes_append, Utf8.bytes_cons_of_lt (by decide), List.append_assoc]
        rfl
      have hlength : ms.length < (bytes text ++ '\x7d'.toUInt8 :: rest).length + 1 := by
        have hwritten : MembersFrom true ms text := htext
        have hle := length_le_of_membersFrom hwritten
        rw [List.length_append]
        omega
      have hread : (shapeOf name rs closed build).readMembers _ true
          (Slots.taken rs vs (keysOf [])) _ = .ok (build vs, rest) :=
        readMembers_taken hnames hkeys hknown hgiven htext hlength
      rw [keysOf, List.map_nil, Slots.taken_nil] at hread
      show (if _ then _ else if _ then _ else _) = _
      rw [if_neg (by decide), if_pos (by decide), hbytes]
      exact hread
  | @list ts hlisted =>
    obtain rfl : c = '[' := hbegins
    cases hwrites with
    | @list _ text htext =>
      obtain rfl : text ++ [']'] = more := (List.cons.inj hcs).2
      have hbytes : bytes (text ++ [']']) ++ rest = bytes text ++ ']'.toUInt8 :: rest := by
        rw [Utf8.bytes_append, Utf8.bytes_cons_of_lt (by decide), List.append_assoc]
        rfl
      obtain ⟨tail, hitems, hend⟩ : ∃ tail, (shapeOf name rs closed build).readItems 0 _ _ =
          .ok (vs, tail) ∧ readListEnd tail = .ok rest := readItems_listed hlisted htext
      show (if _ then _ else _) = _
      rw [if_pos (by decide), hbytes]
      exact bind_eq_ok.mpr ⟨(vs, tail), hitems, bind_eq_ok.mpr ⟨rest, hend, rfl⟩⟩

/-- A closed record is read from trees that describe it only. -/
theorem Shape.only_read (hexact : AreExact rs) (hnames : (rs.map Rule.name).Nodup) :
    (shapeOf name rs true build).read.Only fun t x =>
      ∃ vs, Describes rs true vs t ∧ x = build vs := by
  intro bs rest x h
  obtain ⟨gap, hgap, hbs⟩ := exists_gap bs
  unfold Shape.read at h
  split at h
  · cases h
  · rename_i b r hskip
    by_cases hlist : b = '['.toUInt8
    · rw [if_pos hlist] at h
      obtain ⟨⟨vs, tail⟩, hitems, h⟩ := bind_eq_ok.mp h
      obtain ⟨rest', hend, h⟩ := bind_eq_ok.mp h
      cases h
      obtain ⟨ts, text, htext, rfl, hlisted⟩ := listed_of_readItems hexact hitems hend
      refine ⟨gap, _, .list ts, hgap, .list htext, ⟨vs, .list hlisted, rfl⟩, ?_⟩
      rw [hbs, hskip, hlist, Utf8.bytes_append, Utf8.bytes_cons_of_lt (by decide), Utf8.bytes_append,
        Utf8.bytes_cons_of_lt (by decide)]
      simp
    · rw [if_neg hlist] at h
      obtain ⟨hobject, h⟩ := ite_ok_eq_ok.mp h
      have hnone : (keysOf []).Nodup := List.nodup_nil
      obtain ⟨ms, text, vs, htext, rfl, rfl, hkeys, hknown, hgiven⟩ :=
        given_of_readMembers hexact hnames hnone Slots.hold_empty h
      refine ⟨gap, _, .object ms, hgap, .object htext,
        ⟨vs, .object hkeys (fun m hm => .inl (hknown m hm)) hgiven, rfl⟩, ?_⟩
      rw [hbs, hskip, hobject, Utf8.bytes_append, Utf8.bytes_cons_of_lt (by decide),
        Utf8.bytes_append, Utf8.bytes_cons_of_lt (by decide)]
      simp

/-! ## Bodies -/

section bodies

variable {read : Reader α} {means : Tree → α → Prop} {body : Bytes} {x : α} {t : Tree}

theorem readBody_of_documents (htakes : read.Takes means) (hdocuments : Documents t body)
    (hmeans : means t x) : readBody read body = .ok x := by
  obtain @⟨text, before, cs, after, htext, hbefore, hwrites, hafter⟩ := hdocuments
  have hbody : Utf8.encode text = bytes (before ++ cs) ++ bytes after := by
    rw [Utf8.encode_eq_bytes, htext]
    simp only [Utf8.bytes_append, List.append_assoc]
  have hspace : skipSpaces (bytes after) = [] := by
    have := skipSpaces_gap hafter []
    rwa [List.append_nil] at this
  have hnil : Ends [] := fun _ hb => nomatch hb
  have hends := ends_of_gap hafter hnil
  rw [List.append_nil] at hends
  unfold readBody
  rw [hbody]
  refine bind_eq_ok.mpr ⟨(x, bytes after), htakes hbefore hwrites hmeans hends, ?_⟩
  dsimp only
  rw [hspace]

theorem documents_of_readBody (honly : read.Only means) (h : readBody read body = .ok x) :
    ∃ t, Documents t body ∧ means t x := by
  obtain ⟨⟨y, rest⟩, hread, h⟩ := bind_eq_ok.mp h
  dsimp only at h
  split at h
  · rename_i hspace
    cases h
    obtain ⟨before, cs, t, hbefore, hwrites, hmeans, rfl⟩ := honly hread
    obtain ⟨after, hafter, hrest⟩ := exists_gap rest
    rw [hspace, List.append_nil] at hrest
    refine ⟨t, ?_, hmeans⟩
    have htext : Utf8.encode (String.ofList (before ++ (cs ++ after))) =
        bytes (before ++ cs) ++ rest := by
      rw [Utf8.encode_ofList, hrest]
      simp only [Utf8.bytes_append, List.append_assoc]
    exact htext ▸ .text String.toList_ofList hbefore hwrites hafter
  · cases h

/-- A body is read as a value if and only if it is the text of a tree that means it. -/
theorem readBody_eq_ok (htakes : read.Takes means) (honly : read.Only means) :
    readBody read body = .ok x ↔ ∃ t, Documents t body ∧ means t x :=
  ⟨documents_of_readBody honly, fun ⟨_, hdocuments, hmeans⟩ =>
    readBody_of_documents htakes hdocuments hmeans⟩

end bodies

end AlertService.Json
