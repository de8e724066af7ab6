import AlertService.Proofs.Json.Separators
import Mathlib.Data.List.Nodup

/-!
# Records read from objects

Each field of a record has its own rule: what it is called, what a tree in its place means, and what
it is without one. The members of an object come in any order.

* `Values.Given`: the values of the fields are those that the members give them.
* `readMembers_taken`: members that give values to all fields are read as these values.
* `given_of_readMembers`: only such members are read.
-/

namespace AlertService.Json

open Utf8 (bytes)

/-- A field with the meaning of the trees that it takes. -/
structure Rule where
  field : Field
  means : Tree → field.Value → Prop
  takes : field.read.Takes means

abbrev Rule.name (r : Rule) : String := r.field.name

abbrev fieldsOf (rs : List Rule) : List Field := rs.map Rule.field

abbrev keysOf (ms : List (String × Tree)) : List String := ms.map Prod.fst

/-- No field takes other trees. -/
def AreExact (rs : List Rule) : Prop := ∀ r ∈ rs, r.field.read.Only r.means

namespace Values

/-- Every field has the meaning of the member with its name, or is absent together with it. -/
def Given : (rs : List Rule) → Values (fieldsOf rs) → List (String × Tree) → Prop
  | [], _, _ => True
  | r :: rs, (v, vs), ms =>
    ((∃ t, (r.name, t) ∈ ms ∧ r.means t v) ∨ r.name ∉ keysOf ms ∧ r.field.absent = some v) ∧
      Given rs vs ms

end Values

/-- Passing over a value that is not asked for. -/
def Tree.IsSkipped (t : Tree) : Prop :=
  ∀ ⦃gap cs : List Char⦄ ⦃rest : Bytes⦄ (rounds : Nat), IsGap gap → Writes t cs → Ends rest →
    skipRounds (rounds + 1) [] (bytes (gap ++ cs) ++ rest) = .ok rest

variable {rs : List Rule} {ms : List (String × Tree)} {bs rest : Bytes}
  {first : Bool} {text : List Char} {key : String}

/-- Under a key there is one tree. -/
theorem eq_of_mem {t t' : Tree} (hkeys : (keysOf ms).Nodup) (h : (key, t) ∈ ms)
    (h' : (key, t') ∈ ms) : t = t' :=
  (Prod.mk.inj (List.inj_on_of_nodup_map hkeys h h' rfl)).2

/-! ## One field after the other -/

section fields

variable {f : Field} {fs : List Field} {x : Option f.Value} {slots : Slots fs}

theorem Slots.complete_cons {v : f.Value} {vs : Values fs} :
    complete (f :: fs) (x, slots) = .ok (v, vs) ↔
      (x.orElse fun _ => f.absent) = some v ∧ complete fs slots = .ok vs := by
  refine (Eq.congr_left (complete.eq_2 ..)).trans ?_
  cases x.orElse fun _ => f.absent with
  | none => simp only [reduceCtorEq, false_and]
  | some w =>
    refine map_eq_ok.trans ?_
    constructor
    · rintro ⟨ws, hws, he⟩
      cases he
      exact ⟨rfl, hws⟩
    · rintro ⟨hw, hvs⟩
      cases hw
      exact ⟨vs, hvs, rfl⟩

theorem fillSlot_self (h : f.name = key) {y : Slots (f :: fs)} :
    fillSlot key bs (f :: fs) (x, slots) = some (.ok (y, rest)) ↔
      x = none ∧ ∃ tail v, readColon bs = .ok tail ∧ f.read tail = .ok (v, rest) ∧
        y = (some v, slots) := by
  cases x with
  | some w =>
    refine (Eq.congr_left ((fillSlot.eq_2 ..).trans (if_pos h))).trans ?_
    simp only [Option.some.injEq, reduceCtorEq, false_and]
  | none =>
    refine (Eq.congr_left ((fillSlot.eq_3 ..).trans (if_pos h))).trans
      ((Option.some.injEq _ _).to_iff.trans ?_)
    constructor
    · intro hread
      obtain ⟨tail, hcolon, hvalue⟩ := bind_eq_ok.mp hread
      obtain ⟨⟨v, tail'⟩, hv, he⟩ := map_eq_ok.mp hvalue
      cases he
      exact ⟨rfl, tail, v, hcolon, hv, rfl⟩
    · rintro ⟨-, tail, v, hcolon, hv, rfl⟩
      exact bind_eq_ok.mpr ⟨tail, hcolon, map_eq_ok.mpr ⟨(v, rest), hv, rfl⟩⟩

theorem fillSlot_other (h : f.name ≠ key) {y : Slots (f :: fs)} :
    fillSlot key bs (f :: fs) (x, slots) = some (.ok (y, rest)) ↔
      ∃ slots', fillSlot key bs fs slots = some (.ok (slots', rest)) ∧ y = (x, slots') := by
  have hfill : fillSlot key bs (f :: fs) (x, slots) =
      (fillSlot key bs fs slots).map fun filled =>
        filled.map fun p => ((x, p.1), p.2) := if_neg h
  refine (Eq.congr_left hfill).trans (Option.map_eq_some_iff.trans ?_)
  constructor
  · rintro ⟨filled, hfilled, he⟩
    obtain ⟨⟨slots', tail⟩, rfl, hy⟩ := map_eq_ok.mp he
    cases hy
    exact ⟨slots', hfilled, rfl⟩
  · rintro ⟨slots', hfilled, rfl⟩
    exact ⟨_, hfilled, rfl⟩

end fields

/-! ## The members of an object, taken one after the other -/

namespace Slots

/-- The slots after the members with these keys were taken. -/
def taken : (rs : List Rule) → Values (fieldsOf rs) → List String → Slots (fieldsOf rs)
  | [], _, _ => ()
  | r :: rs, (v, vs), keys => (if r.name ∈ keys then some v else none, taken rs vs keys)

theorem taken_nil (vs : Values (fieldsOf rs)) : taken rs vs [] = empty (fieldsOf rs) := by
  induction rs with
  | nil => rfl
  | cons r rs ih => exact Prod.ext rfl (ih vs.2)

theorem taken_cons_of_not_mem {vs : Values (fieldsOf rs)} {keys : List String}
    (h : key ∉ rs.map Rule.name) : taken rs vs (key :: keys) = taken rs vs keys := by
  induction rs with
  | nil => rfl
  | cons r rs ih =>
    rw [List.map_cons, List.mem_cons, not_or] at h
    have hiff : r.name ∈ key :: keys ↔ r.name ∈ keys := by
      rw [List.mem_cons, or_iff_right (Ne.symm h.1)]
    exact Prod.ext (if_congr hiff rfl rfl) (ih h.2)

theorem complete_taken {vs : Values (fieldsOf rs)} {keys : List String} (h : vs.Given rs ms)
    (hkeys : ∀ name ∈ rs.map Rule.name, name ∈ keys ↔ name ∈ keysOf ms) :
    complete (fieldsOf rs) (taken rs vs keys) = .ok vs := by
  induction rs with
  | nil => rfl
  | cons r rs ih =>
    obtain ⟨v, vs⟩ := vs
    obtain ⟨hgiven, hrest⟩ := h
    have htail := ih hrest fun name hname => hkeys name (List.mem_cons_of_mem _ hname)
    have hfound : (Option.orElse (if r.name ∈ keys then some v else none) fun _ =>
        r.field.absent) = some v := by
      have hiff := hkeys r.name List.mem_cons_self
      split_ifs with hmem
      · rfl
      · rcases hgiven with ⟨t, ht, -⟩ | ⟨-, habsent⟩
        · exact absurd (hiff.mpr (List.mem_map_of_mem ht)) hmem
        · exact habsent
    exact complete_cons.mpr ⟨hfound, htail⟩

end Slots

theorem fillSlot_unknown {slots : Slots (fieldsOf rs)} (h : key ∉ rs.map Rule.name) :
    fillSlot key bs (fieldsOf rs) slots = none := by
  induction rs with
  | nil => rfl
  | cons r rs ih =>
    rw [List.map_cons, List.mem_cons, not_or] at h
    show (if r.name = key then _ else (fillSlot key bs (fieldsOf rs) slots.2).map _) = _
    rw [if_neg (Ne.symm h.1), ih h.2]
    rfl

/-- The value of a member in the text after its key. -/
theorem fillSlot_taken {vs : Values (fieldsOf rs)} {keys : List String} {t : Tree}
    {before after cs : List Char} (hnames : (rs.map Rule.name).Nodup) (hkeys : (keysOf ms).Nodup)
    (hgiven : vs.Given rs ms) (hname : key ∈ rs.map Rule.name) (hnew : key ∉ keys)
    (hmem : (key, t) ∈ ms) (hbefore : IsGap before) (hafter : IsGap after) (hwrites : Writes t cs)
    (hends : Ends rest) :
    fillSlot key (bytes before ++ ':'.toUInt8 :: (bytes (after ++ cs) ++ rest)) (fieldsOf rs)
        (Slots.taken rs vs keys) = some (.ok (Slots.taken rs vs (key :: keys), rest)) := by
  induction rs with
  | nil => exact absurd hname List.not_mem_nil
  | cons r rs ih =>
    obtain ⟨v, vs⟩ := vs
    obtain ⟨hfirst, hrest⟩ := hgiven
    rw [List.map_cons, List.nodup_cons] at hnames
    by_cases hr : r.name = key
    · have hmeans : r.means t v := by
        rcases hfirst with ⟨t', ht', hmeans⟩ | ⟨habsent, -⟩
        · rw [hr] at ht'
          rwa [eq_of_mem hkeys hmem ht']
        · exact absurd (List.mem_map_of_mem hmem) (hr ▸ habsent)
      have hcolon := readColon_eq_ok.mpr
        ⟨before, hbefore, (rfl : _ = bytes before ++ ':'.toUInt8 :: (bytes (after ++ cs) ++ rest))⟩
      have hread := r.takes hafter hwrites hmeans hends
      have hempty : (if r.name ∈ keys then some v else none) = none := if_neg (hr ▸ hnew)
      have hfull : (if r.name ∈ key :: keys then some v else none) = some v :=
        if_pos (hr ▸ List.mem_cons_self)
      have htail : Slots.taken rs vs (key :: keys) = Slots.taken rs vs keys :=
        Slots.taken_cons_of_not_mem (hr ▸ hnames.1)
      exact (fillSlot_self hr).mpr ⟨hempty, _, v, hcolon, hread, Prod.ext hfull htail⟩
    · have hname' : key ∈ rs.map Rule.name := by
        rcases List.mem_cons.mp hname with h | h
        · exact absurd h.symm hr
        · exact h
      have hiff : r.name ∈ key :: keys ↔ r.name ∈ keys := by
        rw [List.mem_cons, or_iff_right hr]
      have hread := ih hnames.2 hrest hname'
      exact (fillSlot_other hr).mpr ⟨_, hread, Prod.ext (if_congr hiff rfl rfl) rfl⟩

/-! ## Objects -/

namespace Shape

section members

variable {α : Type} {shape : Shape α} {slots slots' : Slots shape.fields} {rounds : Nat}
  {tail tail' : Bytes} {x : α}

theorem readMembers_end {values : Values shape.fields} (hkey : readKey first bs = .ok (none, rest))
    (hcomplete : Slots.complete shape.fields slots = .ok values) :
    shape.readMembers (rounds + 1) first slots bs = .ok (shape.build values, rest) := by
  rw [readMembers, hkey]
  dsimp only
  rw [hcomplete]

theorem readMembers_known (hkey : readKey first bs = .ok (some key, tail))
    (hfill : fillSlot key tail shape.fields slots = some (.ok (slots', tail'))) :
    shape.readMembers (rounds + 1) first slots bs = shape.readMembers rounds false slots' tail' := by
  rw [readMembers, hkey]
  dsimp only
  rw [hfill]

theorem readMembers_unknown (hkey : readKey first bs = .ok (some key, tail))
    (hfill : fillSlot key tail shape.fields slots = none) (hopen : shape.closed = false)
    (hskip : (readColon tail).bind (skipRounds rounds []) = .ok tail') :
    shape.readMembers (rounds + 1) first slots bs = shape.readMembers rounds false slots tail' := by
  rw [readMembers, hkey]
  dsimp only
  rw [hfill, hopen]
  dsimp only
  rw [if_neg (by decide), hskip]

/-- What a closed record reads next: the end, or one of its members. -/
theorem readMembers_cases (hclosed : shape.closed = true)
    (h : shape.readMembers (rounds + 1) first slots bs = .ok (x, rest)) :
    (∃ values, readKey first bs = .ok (none, rest) ∧
      Slots.complete shape.fields slots = .ok values ∧ x = shape.build values) ∨
    ∃ key tail slots' tail', readKey first bs = .ok (some key, tail) ∧
      fillSlot key tail shape.fields slots = some (.ok (slots', tail')) ∧
      shape.readMembers rounds false slots' tail' = .ok (x, rest) := by
  rw [readMembers] at h
  split at h
  · cases h
  · rename_i tail hkey
    split at h
    · rename_i values hcomplete
      cases h
      exact .inl ⟨values, hkey, hcomplete, rfl⟩
    · cases h
  · rename_i key tail hkey
    split at h
    · cases h
    · rename_i slots' tail' hfill
      exact .inr ⟨key, tail, slots', tail', hkey, hfill, h⟩
    · rw [if_pos hclosed] at h
      cases h

end members

end Shape

/-- A record with rules for its fields. -/
abbrev shapeOf {α : Type} (name : String) (rs : List Rule) (closed : Bool)
    (build : Values (fieldsOf rs) → α) : Shape α := ⟨name, fieldsOf rs, closed, build⟩

variable {α : Type} {name : String} {closed : Bool} {build : Values (fieldsOf rs) → α}

/-- The members that are left are read into their slots. Of those that are done the last comes
first. -/
theorem readMembers_taken {done : List (String × Tree)} {vs : Values (fieldsOf rs)} {rounds : Nat}
    (hnames : (rs.map Rule.name).Nodup) (hkeys : (keysOf (done.reverse ++ ms)).Nodup)
    (hknown : ∀ m ∈ ms, m.1 ∈ rs.map Rule.name ∨ closed = false ∧ m.2.IsSkipped)
    (hgiven : vs.Given rs (done.reverse ++ ms)) (htext : MembersFrom first ms text)
    (hrounds : ms.length < rounds) :
    (shapeOf name rs closed build).readMembers rounds first (Slots.taken rs vs (keysOf done))
      (bytes text ++ '\x7d'.toUInt8 :: rest) = .ok (build vs, rest) := by
  induction ms generalizing done first text rounds with
  | nil =>
    obtain ⟨rounds, rfl⟩ := Nat.exists_eq_succ_of_ne_zero (Nat.ne_of_gt hrounds)
    have hend : readKey first (bytes text ++ '\x7d'.toUInt8 :: rest) = .ok (none, rest) :=
      readKey_eq_none.mpr ⟨text, membersFrom_nil.mp htext, rfl⟩
    rw [List.append_nil] at hgiven
    have hdone : ∀ k, k ∈ keysOf done ↔ k ∈ keysOf done.reverse := by simp
    exact Shape.readMembers_end hend (Slots.complete_taken hgiven fun k _ => hdone k)
  | cons m ms ih =>
    obtain ⟨key, t⟩ := m
    obtain ⟨rounds, rfl⟩ : ∃ n, rounds = n + 2 := by
      rw [List.length_cons] at hrounds
      exact ⟨rounds - 2, by omega⟩
    obtain ⟨lead, name, before, after, cs, more, hlead, hname, hbefore, hafter, hwrites, hmore, rfl⟩ :=
      membersFrom_cons.mp htext
    have hends := ends_of_membersFrom hmore rest
    have hread : ∀ rest, readKey first (bytes (lead ++ name) ++ rest) = .ok (some key, rest) :=
      fun rest => readKey_of_leads hlead hname
    have hnew : key ∉ keysOf done := by
      intro hdone
      rw [keysOf, List.map_append, List.map_cons, List.nodup_middle, List.nodup_cons] at hkeys
      refine hkeys.1 (List.mem_append_left _ ?_)
      rwa [List.map_reverse, List.mem_reverse]
    obtain ⟨hfirst, hknown⟩ := List.forall_mem_cons.mp hknown
    -- the member goes over to those that are done
    have hmoved : done.reverse ++ (key, t) :: ms = ((key, t) :: done).reverse ++ ms := by
      rw [List.reverse_cons, List.append_assoc, List.singleton_append]
    have hmem : (key, t) ∈ done.reverse ++ (key, t) :: ms :=
      List.mem_append_right _ List.mem_cons_self
    rw [hmoved] at hkeys hgiven hmem
    have hlt : ms.length < rounds + 1 := by
      rw [List.length_cons] at hrounds
      omega
    have hnext := ih hkeys hknown hgiven hmore hlt
    rw [bytes_member]
    by_cases hfield : key ∈ rs.map Rule.name
    · have hfill := fillSlot_taken hnames hkeys hgiven hfield hnew hmem hbefore hafter hwrites hends
      exact (Shape.readMembers_known (hread _) hfill).trans hnext
    · obtain ⟨hopen, hskipped⟩ := hfirst.resolve_left hfield
      have hcolon := readColon_eq_ok.mpr ⟨before, hbefore, (rfl : bytes before ++ ':'.toUInt8 ::
        (bytes (after ++ cs) ++ (bytes more ++ '\x7d'.toUInt8 :: rest)) = _)⟩
      have hskip := bind_eq_ok.mpr ⟨_, hcolon, hskipped rounds hafter hwrites hends⟩
      rw [keysOf, List.map_cons, Slots.taken_cons_of_not_mem hfield] at hnext
      exact (Shape.readMembers_unknown (hread _) (fillSlot_unknown hfield) hopen hskip).trans hnext

/-- The slots hold what the members mean. -/
def Slots.Hold : (rs : List Rule) → Slots (fieldsOf rs) → List (String × Tree) → Prop
  | [], _, _ => True
  | r :: rs, (none, slots), ms => r.name ∉ keysOf ms ∧ Hold rs slots ms
  | r :: rs, (some v, slots), ms => (∃ t, (r.name, t) ∈ ms ∧ r.means t v) ∧ Hold rs slots ms

namespace Slots

theorem hold_empty : Hold rs (empty (fieldsOf rs)) [] := by
  induction rs with
  | nil => exact trivial
  | cons r rs ih => exact ⟨List.not_mem_nil, ih⟩

theorem Hold.concat_of_not_mem {slots : Slots (fieldsOf rs)} {t : Tree} (h : Hold rs slots ms)
    (hkey : key ∉ rs.map Rule.name) : Hold rs slots (ms ++ [(key, t)]) := by
  induction rs with
  | nil => exact trivial
  | cons r rs ih =>
    rw [List.map_cons, List.mem_cons, not_or] at hkey
    obtain ⟨x, slots⟩ := slots
    cases x with
    | none =>
      obtain ⟨hnone, hrest⟩ := h
      refine ⟨?_, ih hrest hkey.2⟩
      simpa [keysOf, Ne.symm hkey.1] using hnone
    | some v =>
      obtain ⟨⟨t', ht', hmeans⟩, hrest⟩ := h
      exact ⟨⟨t', List.mem_append_left _ ht', hmeans⟩, ih hrest hkey.2⟩

theorem Hold.given {slots : Slots (fieldsOf rs)} {vs : Values (fieldsOf rs)}
    (h : Hold rs slots ms) (hcomplete : complete (fieldsOf rs) slots = .ok vs) :
    vs.Given rs ms := by
  induction rs with
  | nil => exact trivial
  | cons r rs ih =>
    obtain ⟨x, slots⟩ := slots
    obtain ⟨v, vs⟩ := vs
    obtain ⟨hvalue, hcomplete'⟩ := complete_cons.mp hcomplete
    cases x with
    | none => exact ⟨.inr ⟨h.1, hvalue⟩, ih h.2 hcomplete'⟩
    | some w =>
      obtain rfl : w = v := Option.some.inj hvalue
      exact ⟨.inl h.1, ih h.2 hcomplete'⟩

end Slots

/-- A member that was read had not been read before, and its slot holds it now. -/
theorem hold_of_fillSlot {slots slots' : Slots (fieldsOf rs)} (hexact : AreExact rs)
    (hnames : (rs.map Rule.name).Nodup) (hhold : slots.Hold rs ms)
    (h : fillSlot key bs (fieldsOf rs) slots = some (.ok (slots', rest))) :
    key ∈ rs.map Rule.name ∧ key ∉ keysOf ms ∧ ∃ before after cs t, IsGap before ∧ IsGap after ∧
      Writes t cs ∧ bs = bytes before ++ ':'.toUInt8 :: (bytes (after ++ cs) ++ rest) ∧
      slots'.Hold rs (ms ++ [(key, t)]) := by
  induction rs with
  | nil => cases h
  | cons r rs ih =>
    rw [List.map_cons, List.nodup_cons] at hnames
    obtain ⟨hr, hexact⟩ := List.forall_mem_cons.mp hexact
    obtain ⟨x, slots⟩ := slots
    by_cases hname : r.name = key
    · obtain ⟨rfl, tail, v, hcolon, hread, rfl⟩ := (fillSlot_self hname).mp h
      obtain ⟨hnone, hrest⟩ := hhold
      obtain ⟨before, hbefore, rfl⟩ := readColon_eq_ok.mp hcolon
      obtain ⟨after, cs, t, hafter, hwrites, hmeans, rfl⟩ := hr hread
      refine ⟨hname ▸ List.mem_cons_self, hname ▸ hnone, before, after, cs, t, hbefore, hafter,
        hwrites, rfl, ⟨t, ?_, hmeans⟩, hrest.concat_of_not_mem (hname ▸ hnames.1)⟩
      rw [hname]
      exact List.mem_append_right _ List.mem_cons_self
    · obtain ⟨slots', hfill, rfl⟩ := (fillSlot_other hname).mp h
      cases x with
      | none =>
        obtain ⟨hnone, hrest⟩ := hhold
        obtain ⟨hmem, hnew, before, after, cs, t, hbefore, hafter, hwrites, hbs, hslots⟩ :=
          ih hexact hnames.2 hrest hfill
        refine ⟨List.mem_cons_of_mem _ hmem, hnew, before, after, cs, t, hbefore, hafter, hwrites,
          hbs, ?_, hslots⟩
        simpa [keysOf, hname] using hnone
      | some v =>
        obtain ⟨⟨t', ht', hmeans⟩, hrest⟩ := hhold
        obtain ⟨hmem, hnew, before, after, cs, t, hbefore, hafter, hwrites, hbs, hslots⟩ :=
          ih hexact hnames.2 hrest hfill
        exact ⟨List.mem_cons_of_mem _ hmem, hnew, before, after, cs, t, hbefore, hafter, hwrites, hbs,
          ⟨t', List.mem_append_left _ ht', hmeans⟩, hslots⟩

/-- What is read of an object to its end are members that give the values. -/
theorem given_of_readMembers {slots : Slots (fieldsOf rs)} {rounds : Nat} {x : α}
    (hexact : AreExact rs) (hnames : (rs.map Rule.name).Nodup) (hkeys : (keysOf ms).Nodup)
    (hhold : slots.Hold rs ms)
    (h : (shapeOf name rs true build).readMembers rounds first slots bs = .ok (x, rest)) :
    ∃ more text vs, MembersFrom first more text ∧ bs = bytes text ++ '\x7d'.toUInt8 :: rest ∧
      x = build vs ∧ (keysOf (ms ++ more)).Nodup ∧ (∀ m ∈ more, m.1 ∈ rs.map Rule.name) ∧
      vs.Given rs (ms ++ more) := by
  induction rounds generalizing ms first slots bs with
  | zero => cases h
  | succ rounds ih =>
    rcases Shape.readMembers_cases rfl h with ⟨vs, hend, hcomplete, rfl⟩ |
      ⟨key, tail, slots', tail', hkey, hfill, hmore⟩
    · obtain ⟨gap, hgap, rfl⟩ := readKey_eq_none.mp hend
      have hgiven := hhold.given hcomplete
      refine ⟨[], gap, vs, membersFrom_nil.mpr hgap, rfl, rfl, ?_,
        fun m hm => absurd hm List.not_mem_nil, ?_⟩
      · rwa [List.append_nil]
      · rwa [List.append_nil]
    · obtain ⟨lead, name, hlead, hname, rfl⟩ := leads_of_readKey hkey
      obtain ⟨hmem, hnew, before, after, cs, t, hbefore, hafter, hwrites, rfl, hhold'⟩ :=
        hold_of_fillSlot hexact hnames hhold hfill
      have hkeys' : (keysOf (ms ++ [(key, t)])).Nodup := by
        rw [keysOf, List.map_append, List.map_singleton, ← List.concat_eq_append]
        exact hkeys.concat hnew
      obtain ⟨more, text, vs, htext, rfl, rfl, hnodup, hknown, hgiven⟩ := ih hkeys' hhold' hmore
      rw [List.append_assoc, List.singleton_append] at hnodup hgiven
      refine ⟨(key, t) :: more, _, vs, membersFrom_cons.mpr ⟨lead, name, before, after, cs, text, hlead,
        hname, hbefore, hafter, hwrites, htext, rfl⟩, ?_, rfl, hnodup,
        List.forall_mem_cons.mpr ⟨hmem, hknown⟩, hgiven⟩
      rw [bytes_member, ← List.append_assoc]

end AlertService.Json
