import AlertService.Startup.Address
import Mathlib.Data.List.TakeWhile
import Mathlib.Tactic.SplitIfs

/-!
# Which texts spell an address

Four numbers and a port, or eight groups in brackets, with a scope or without, and a port. A run of
zero groups may be left out between two colons, once, and the last two groups may be written as four
numbers. The reader never looks back: what it takes for a part of an address is that part, since the
character after it says so.

* `Spells`: the texts of an address.
* `readGroups_append`, `exists_of_readGroups`: groups are read to their end.
* `parse?_eq_some`: a text is read as an address if and only if it spells it.
-/

namespace AlertService.Address

variable {base width n g scope port limit : Nat} {zeros first octets : Bool} {mark : Char}
  {os gs : List Nat} {cs ds rest : List Char} {a : Address}

/-! ## Texts of addresses -/

/-- The digits write the number in the base. -/
structure IsNumeral (base n : Nat) (cs : List Char) : Prop where
  ne_nil : cs ≠ []
  digits : ∀ c ∈ cs, (digit? base c).isSome = true
  value : n = (cs.filterMap (digit? base)).foldl (fun n d => n * base + d) 0

/-- One to three digits without a zero in front write a number below 256. -/
structure IsOctet (n : Nat) (cs : List Char) : Prop where
  numeral : IsNumeral 10 n cs
  length : cs.length ≤ 3
  front : cs.head? = some '0' → cs.length = 1
  lt : n < 256

inductive IsOctets : List Nat → List Char → Prop
  | points {a b c d : Nat} {as bs cs ds : List Char} : IsOctet a as → IsOctet b bs → IsOctet c cs →
      IsOctet d ds → IsOctets [a, b, c, d] (as ++ '.' :: (bs ++ '.' :: (cs ++ '.' :: ds)))

/-- One to four digits in base sixteen write the number. -/
structure IsGroup (g : Nat) (cs : List Char) : Prop where
  numeral : IsNumeral 16 g cs
  length : cs.length ≤ 4

/-- What stands in front of a group, unless it is the first one. -/
def colon (first : Bool) : List Char := if first then [] else [':']

/-- Groups, each with a colon in front of it, but for the first one; whether the last two of them
are written as four numbers. -/
inductive IsGroups : (first octets : Bool) → List Nat → List Char → Prop
  | none {first : Bool} : IsGroups first false [] []
  | octets {first : Bool} {os : List Nat} {cs : List Char} : IsOctets os cs →
      IsGroups first true (groupsOfOctets os) (colon first ++ cs)
  | group {first octets : Bool} {g : Nat} {gs : List Nat} {cs ds : List Char} : IsGroup g cs →
      IsGroups false octets gs ds → IsGroups first octets (g :: gs) (colon first ++ (cs ++ ds))

/-- Eight groups, or less with two colons for zeros in place of the others. -/
inductive IsEight : List Nat → List Char → Prop
  | full {octets : Bool} {gs : List Nat} {cs : List Char} : IsGroups true octets gs cs →
      gs.length = 8 → IsEight gs cs
  | short {octets : Bool} {hs ts : List Nat} {cs ds : List Char} : IsGroups true false hs cs →
      IsGroups true octets ts ds → hs.length + ts.length < 8 →
        IsEight (hs ++ List.replicate (8 - hs.length - ts.length) 0 ++ ts) (cs ++ ':' :: ':' :: ds)

inductive IsScope : Nat → List Char → Prop
  | none : IsScope 0 []
  | some {n : Nat} {cs : List Char} : IsNumeral 10 n cs → n < UInt32.size → IsScope n ('%' :: cs)

structure IsPort (n : Nat) (cs : List Char) : Prop where
  numeral : IsNumeral 10 n cs
  lt : n < UInt16.size

inductive Spells : Address → List Char → Prop
  | v4 {os : List Nat} {port : Nat} {cs ds : List Char} : IsOctets os cs → IsPort port ds →
      Spells (.v4 os port) (cs ++ ':' :: ds)
  | v6 {gs : List Nat} {scope port : Nat} {cs ds es : List Char} : IsEight gs cs →
      IsScope scope ds → IsPort port es →
        Spells (.v6 gs scope port) ('[' :: (cs ++ (ds ++ ']' :: ':' :: es)))

/-! ## Numbers -/

/-- Where a number ends: there is no digit after it. -/
def Ends (base : Nat) (rest : List Char) : Prop := ∀ c ∈ rest.head?, digit? base c = none

theorem digit?_zero {c : Char} (h : digit? 10 c = some 0) : c = '0' := by
  simp only [digit?, Text.hexValue?, Option.bind_eq_some_iff] at h
  obtain ⟨d, hd, hzero⟩ := h
  have hvalue : d.val = 0 := by
    split_ifs at hzero
    exact Option.some.inj hzero
  have hcode : c.toNat = 48 := by
    split_ifs at hd with hdecimal hlower hupper
    all_goals
      have hlow := congrArg Fin.val (Option.some.inj hd)
      simp only [Text.lowDigit] at hlow
      omega
  exact Char.toNat_inj.mp hcode

theorem length_digits (h : ∀ c ∈ cs, (digit? base c).isSome = true) :
    (cs.filterMap (digit? base)).length = cs.length := by
  induction cs with
  | nil => rfl
  | cons c cs ih =>
    obtain ⟨hc, hcs⟩ := List.forall_mem_cons.mp h
    obtain ⟨d, hd⟩ := Option.isSome_iff_exists.mp hc
    rw [List.filterMap_cons_some hd, List.length_cons, List.length_cons, ih hcs]

/-- A text begins with the digits that it begins with. -/
theorem exists_digits (base : Nat) (cs : List Char) : ∃ ds rest, cs = ds ++ rest ∧
    (∀ c ∈ ds, (digit? base c).isSome = true) ∧ Ends base rest := by
  refine ⟨cs.takeWhile fun c => (digit? base c).isSome, cs.dropWhile fun c => (digit? base c).isSome,
    List.takeWhile_append_dropWhile.symm, fun c hc => ?_, fun c hc => ?_⟩
  · exact List.mem_takeWhile_imp (p := fun c => (digit? base c).isSome) hc
  · have hhead := List.head?_dropWhile_not (fun c => (digit? base c).isSome) cs
    rw [hc] at hhead
    simpa using hhead

theorem takeWhile_digits (h : ∀ c ∈ ds, (digit? base c).isSome = true) (hrest : Ends base rest) :
    (ds ++ rest).takeWhile (fun c => (digit? base c).isSome) = ds := by
  rw [List.takeWhile_append_of_pos h]
  cases rest with
  | nil => rw [List.takeWhile_nil, List.append_nil]
  | cons c rest =>
    have hc : digit? base c = none := hrest c rfl
    rw [List.takeWhile_cons_of_neg (by simp [hc]), List.append_nil]

/-- Two ways in which a text begins with digits are the same. -/
theorem digits_unique {ds' rest' : List Char} (h : ds ++ rest = ds' ++ rest')
    (hds : ∀ c ∈ ds, (digit? base c).isSome = true) (hrest : Ends base rest)
    (hds' : ∀ c ∈ ds', (digit? base c).isSome = true) (hrest' : Ends base rest') :
    ds = ds' ∧ rest = rest' := by
  have hsame : ds = ds' := by
    rw [← takeWhile_digits hds hrest, h, takeWhile_digits hds' hrest']
  subst hsame
  exact ⟨rfl, List.append_cancel_left h⟩

theorem readNumber_append (h : ∀ c ∈ ds, (digit? base c).isSome = true) (hrest : Ends base rest) :
    readNumber base width zeros (ds ++ rest) =
      if ds = [] ∨ width < ds.length ∨
        (!zeros ∧ (ds.filterMap (digit? base)).head? = some 0 ∧ 1 < ds.length) then none
      else some ((ds.filterMap (digit? base)).foldl (fun n d => n * base + d) 0, rest) := by
  have hempty : (ds.filterMap (digit? base)).isEmpty = true ↔ ds = [] := by
    rw [List.isEmpty_iff_length_eq_zero, length_digits h, List.length_eq_zero_iff]
  simp only [readNumber, takeWhile_digits h hrest, hempty, length_digits h, List.drop_left]

theorem readNumber_eq_some : readNumber base width zeros cs = some (n, rest) ↔
    ∃ ds, cs = ds ++ rest ∧ IsNumeral base n ds ∧ ds.length ≤ width ∧
      (zeros = false → (ds.filterMap (digit? base)).head? = some 0 → ds.length = 1) ∧
      Ends base rest := by
  constructor
  · intro h
    obtain ⟨ds, rest', rfl, hds, hrest⟩ := exists_digits base cs
    rw [readNumber_append hds hrest] at h
    split_ifs at h with hbad
    obtain ⟨hn, rfl⟩ := Prod.mk.inj (Option.some.inj h)
    simp only [not_or, not_and, not_lt, Bool.not_eq_true'] at hbad
    obtain ⟨hsome, hwidth, hzeros⟩ := hbad
    have hpos : 0 < ds.length := List.length_pos_iff.mpr hsome
    refine ⟨ds, rfl, ⟨hsome, hds, hn.symm⟩, hwidth, fun hz hhead => ?_, hrest⟩
    have := hzeros hz hhead
    omega
  · rintro ⟨ds, rfl, hnumeral, hwidth, hzeros, hrest⟩
    have hgood : ¬(ds = [] ∨ width < ds.length ∨
        (!zeros ∧ (ds.filterMap (digit? base)).head? = some 0 ∧ 1 < ds.length)) := by
      rintro (hnil | hlong | ⟨hz, hhead, hlong⟩)
      · exact hnumeral.ne_nil hnil
      · omega
      · have := hzeros (by simpa using hz) hhead
        omega
    rw [readNumber_append hnumeral.digits hrest, if_neg hgood, hnumeral.value]

theorem readMark_eq_some : readMark mark cs = some rest ↔ cs = mark :: rest := by
  cases cs with
  | nil => exact iff_of_false nofun nofun
  | cons c cs =>
    simp only [readMark, List.cons.injEq]
    by_cases hc : c = mark
    · rw [if_pos hc, Option.some.injEq, and_iff_right hc]
    · rw [if_neg hc]
      exact iff_of_false nofun fun h => hc h.1

/-! ## Four numbers -/

theorem readOctet_eq_some : readOctet cs = some (n, rest) ↔
    ∃ ds, cs = ds ++ rest ∧ IsOctet n ds ∧ Ends 10 rest := by
  have hfront : ∀ ds : List Char, (∀ c ∈ ds, (digit? 10 c).isSome = true) →
      ((ds.filterMap (digit? 10)).head? = some 0 ↔ ds.head? = some '0') := by
    intro ds hds
    cases ds with
    | nil => exact iff_of_false nofun nofun
    | cons c ds =>
      obtain ⟨d, hd⟩ := Option.isSome_iff_exists.mp (hds c List.mem_cons_self)
      rw [List.filterMap_cons_some hd, List.head?_cons, List.head?_cons, Option.some.injEq,
        Option.some.injEq]
      constructor
      · rintro rfl
        exact digit?_zero hd
      · rintro rfl
        exact (Option.some.inj hd).symm
  simp only [readOctet, Option.filter_eq_some_iff, readNumber_eq_some, decide_eq_true_eq]
  constructor
  · rintro ⟨⟨ds, rfl, hnumeral, hlength, hzero, hrest⟩, hlt⟩
    refine ⟨ds, rfl, ⟨hnumeral, hlength, fun h => ?_, hlt⟩, hrest⟩
    exact hzero trivial ((hfront ds hnumeral.digits).mpr h)
  · rintro ⟨ds, rfl, ⟨hnumeral, hlength, hzero, hlt⟩, hrest⟩
    refine ⟨⟨ds, rfl, hnumeral, hlength, fun _ h => ?_, hrest⟩, hlt⟩
    exact hzero ((hfront ds hnumeral.digits).mp h)

theorem ends_cons {c : Char} (h : digit? base c = none) : Ends base (c :: rest) := by
  intro c' hc'
  rwa [← Option.some.inj hc']

theorem readOctets_eq_some : readOctets cs = some (os, rest) ↔
    ∃ ds, cs = ds ++ rest ∧ IsOctets os ds ∧ Ends 10 rest := by
  have hpoint : ∀ cs, Ends 10 ('.' :: cs) := fun cs => ends_cons (by decide)
  simp only [readOctets, bind, Option.bind_eq_some_iff, Prod.exists, readOctet_eq_some,
    readMark_eq_some, pure, Option.some.injEq, Prod.mk.injEq]
  constructor
  · rintro ⟨a, _, ⟨as, rfl, ha, -⟩, _, rfl, b, _, ⟨bs, rfl, hb, -⟩, _, rfl, c, _, ⟨cs, rfl, hc, -⟩,
      _, rfl, d, _, ⟨ds, rfl, hd, hrest⟩, rfl, rfl⟩
    exact ⟨_, by simp, .points ha hb hc hd, hrest⟩
  · rintro ⟨_, rfl, hoctets, hrest⟩
    cases hoctets with
    | @points a b c d as bs cs ds ha hb hc hd =>
      have htext : (as ++ '.' :: (bs ++ '.' :: (cs ++ '.' :: ds))) ++ rest =
          as ++ '.' :: (bs ++ '.' :: (cs ++ '.' :: (ds ++ rest))) := by
        simp only [List.append_assoc, List.cons_append]
      rw [htext]
      exact ⟨a, _, ⟨as, rfl, ha, hpoint _⟩, _, rfl, b, _, ⟨bs, rfl, hb, hpoint _⟩, _, rfl,
        c, _, ⟨cs, rfl, hc, hpoint _⟩, _, rfl, d, _, ⟨ds, rfl, hd, hrest⟩, rfl, rfl⟩

/-! ## Groups -/

theorem afterColon_eq_some : afterColon first cs = some rest ↔ cs = colon first ++ rest := by
  cases first with
  | true =>
    rw [afterColon, if_pos rfl, Option.some.injEq]
    rfl
  | false => exact readMark_eq_some

/-- Two groups that are written as four numbers are at the head of the text. -/
theorem readOctets_afterColon : (afterColon first cs).bind readOctets = some (os, rest) ↔
    ∃ ds, cs = colon first ++ (ds ++ rest) ∧ IsOctets os ds ∧ Ends 10 rest := by
  simp only [Option.bind_eq_some_iff, afterColon_eq_some, readOctets_eq_some]
  constructor
  · rintro ⟨_, rfl, ds, rfl, h⟩
    exact ⟨ds, rfl, h⟩
  · rintro ⟨ds, rfl, h⟩
    exact ⟨_, rfl, ds, rfl, h⟩

/-- A group is at the head of the text. -/
theorem readGroup_afterColon : (afterColon first cs).bind (readNumber 16 4 true) = some (g, rest) ↔
    ∃ ds, cs = colon first ++ (ds ++ rest) ∧ IsGroup g ds ∧ Ends 16 rest := by
  simp only [Option.bind_eq_some_iff, afterColon_eq_some, readNumber_eq_some]
  constructor
  · rintro ⟨_, rfl, ds, rfl, hnumeral, hlength, -, hrest⟩
    exact ⟨ds, rfl, ⟨hnumeral, hlength⟩, hrest⟩
  · rintro ⟨ds, rfl, ⟨hnumeral, hlength⟩, hrest⟩
    exact ⟨_, rfl, ds, rfl, hnumeral, hlength, nofun, hrest⟩

theorem length_groupsOfOctets (h : IsOctets os cs) : (groupsOfOctets os).length = 2 := by
  cases h
  rfl

theorem exists_of_readGroups (h : readGroups limit first cs = (gs, octets, rest)) :
    gs.length ≤ limit ∧ ∃ ds, cs = ds ++ rest ∧ IsGroups first octets gs ds := by
  induction limit generalizing first cs gs octets rest with
  | zero =>
    obtain ⟨rfl, rfl, rfl⟩ : [] = gs ∧ false = octets ∧ cs = rest := by simpa [readGroups] using h
    exact ⟨Nat.le_refl 0, [], rfl, .none⟩
  | succ limit ih =>
    rw [readGroups] at h
    split at h
    · rename_i os rest' hos
      obtain ⟨rfl, rfl, rfl⟩ : groupsOfOctets os = gs ∧ true = octets ∧ rest' = rest := by
        simpa using h
      have hlimit : 0 < limit := by
        by_contra hzero
        rw [if_neg hzero] at hos
        exact nomatch hos
      rw [if_pos hlimit] at hos
      obtain ⟨ds, rfl, hds, -⟩ := readOctets_afterColon.mp hos
      refine ⟨?_, colon first ++ ds, by rw [List.append_assoc], .octets hds⟩
      rw [length_groupsOfOctets hds]
      omega
    · split at h
      · rename_i g rest' hg
        obtain ⟨ds, rfl, hds, -⟩ := readGroup_afterColon.mp hg
        rcases hmore : readGroups limit false rest' with ⟨gs', octets', rest''⟩
        rw [hmore] at h
        obtain ⟨rfl, rfl, rfl⟩ : g :: gs' = gs ∧ octets' = octets ∧ rest'' = rest := by
          simpa using h
        obtain ⟨hlength, es, rfl, hgroups⟩ := ih hmore
        refine ⟨Nat.succ_le_succ hlength, colon first ++ (ds ++ es), ?_, .group hds hgroups⟩
        rw [List.append_assoc, List.append_assoc]
      · obtain ⟨rfl, rfl, rfl⟩ : [] = gs ∧ false = octets ∧ cs = rest := by simpa using h
        exact ⟨Nat.zero_le _, [], rfl, .none⟩

/-! ## The end of the groups -/

/-- What may come after all groups: the end of the brackets, a scope, or two colons. -/
inductive Stops : List Char → Prop
  | bracket {rest : List Char} : Stops (']' :: rest)
  | scope {rest : List Char} : Stops ('%' :: rest)
  | colons {rest : List Char} : Stops (':' :: ':' :: rest)

/-- No group begins there. -/
theorem Stops.not_digit {c : Char} (h : Stops (colon first ++ c :: cs)) : digit? 16 c = none := by
  cases first with
  | true => cases h <;> decide
  | false =>
    have hcolons : Stops (':' :: c :: cs) := h
    cases hcolons
    decide

/-- After a group comes a colon, or what comes after all groups; it is neither a digit nor a point. -/
theorem follows_of_isGroups (h : IsGroups false octets gs ds) (hrest : Stops rest) :
    ∃ c tail, ds ++ rest = c :: tail ∧ digit? 16 c = none ∧ c ≠ '.' := by
  cases h with
  | none =>
    cases hrest with
    | bracket | scope | colons => exact ⟨_, _, rfl, by decide, by decide⟩
  | octets => exact ⟨':', _, rfl, by decide, by decide⟩
  | group => exact ⟨':', _, rfl, by decide, by decide⟩

theorem isSome_digit?_sixteen {c : Char} (h : (digit? 10 c).isSome = true) :
    (digit? 16 c).isSome = true := by
  obtain ⟨n, hn⟩ := Option.isSome_iff_exists.mp h
  obtain ⟨d, hd, -⟩ := Option.bind_eq_some_iff.mp hn
  simp only [digit?, hd, Option.bind_some, if_pos d.isLt, Option.isSome_some]

theorem IsNumeral.exists_cons (h : IsNumeral base n cs) :
    ∃ c tail, cs = c :: tail ∧ (digit? base c).isSome = true := by
  obtain ⟨c, tail, rfl⟩ := List.exists_cons_of_ne_nil h.ne_nil
  exact ⟨c, tail, rfl, h.digits c List.mem_cons_self⟩

/-- Four numbers begin with digits and a point after them. -/
theorem IsOctets.exists_point (h : IsOctets os cs) : ∃ as tail, cs = as ++ '.' :: tail ∧
    as ≠ [] ∧ ∀ c ∈ as, (digit? 16 c).isSome = true := by
  cases h with
  | points ha =>
    exact ⟨_, _, rfl, ha.numeral.ne_nil, fun c hc => isSome_digit?_sixteen (ha.numeral.digits c hc)⟩

theorem IsOctets.exists_cons (h : IsOctets os cs) :
    ∃ c tail, cs = c :: tail ∧ (digit? 16 c).isSome = true := by
  obtain ⟨as, tail, rfl, hsome, has⟩ := h.exists_point
  obtain ⟨c, as, rfl⟩ := List.exists_cons_of_ne_nil hsome
  exact ⟨c, _, rfl, has c List.mem_cons_self⟩

/-- What comes after all groups is none. -/
theorem not_octets_of_stops (h : Stops cs) : (afterColon first cs).bind readOctets = none := by
  refine Option.eq_none_iff_forall_ne_some.mpr fun ⟨os, rest⟩ hread => ?_
  obtain ⟨ds, rfl, hds, -⟩ := readOctets_afterColon.mp hread
  obtain ⟨c, tail, rfl, hdigit⟩ := hds.exists_cons
  rw [h.not_digit] at hdigit
  exact nomatch hdigit

theorem not_group_of_stops (h : Stops cs) :
    (afterColon first cs).bind (readNumber 16 4 true) = none := by
  refine Option.eq_none_iff_forall_ne_some.mpr fun ⟨g, rest⟩ hread => ?_
  obtain ⟨ds, rfl, hds, -⟩ := readGroup_afterColon.mp hread
  obtain ⟨c, tail, rfl, hdigit⟩ := hds.numeral.exists_cons
  rw [h.not_digit] at hdigit
  exact nomatch hdigit

/-- A group is not taken for the first of four numbers: there is no point after it. -/
theorem not_octets_of_group {tail : List Char} {c : Char} (h : IsGroup g ds)
    (hc : digit? 16 c = none) (hpoint : c ≠ '.') :
    (afterColon first (colon first ++ (ds ++ c :: tail))).bind readOctets = none := by
  refine Option.eq_none_iff_forall_ne_some.mpr fun ⟨os, rest⟩ hread => ?_
  obtain ⟨es, htext, hes, -⟩ := readOctets_afterColon.mp hread
  obtain ⟨as, tail', rfl, -, has⟩ := hes.exists_point
  rw [List.append_assoc] at htext
  obtain ⟨-, hrest⟩ := digits_unique (List.append_cancel_left htext) h.numeral.digits
    (ends_cons hc) has (ends_cons (by decide))
  exact hpoint (List.cons.inj hrest).1

/-- Groups are read to their end. -/
theorem readGroups_append (h : IsGroups first octets gs ds) (hlimit : gs.length ≤ limit)
    (hrest : Stops rest) : readGroups limit first (ds ++ rest) = (gs, octets, rest) := by
  induction h generalizing limit with
  | none =>
    cases limit with
    | zero => rfl
    | succ limit =>
      simp only [readGroups, List.nil_append, not_octets_of_stops hrest, not_group_of_stops hrest,
        ite_self]
  | @octets first os cs hoctets =>
    have hends : Ends 10 rest := by
      cases hrest with
      | bracket | scope | colons => exact ends_cons (by decide)
    rw [length_groupsOfOctets hoctets] at hlimit
    obtain ⟨limit, rfl⟩ : ∃ l, limit = l + 1 := ⟨limit - 1, by omega⟩
    have hread := readOctets_afterColon.mpr
      ⟨cs, List.append_assoc (colon first) cs rest, hoctets, hends⟩
    simp only [readGroups, if_pos (show 0 < limit by omega), hread]
  | @group first octets g gs cs ds hgroup hgroups ih =>
    -- four numbers are tried first, so it matters that no point follows the digits
    obtain ⟨c, tail, htail, hdigit, hpoint⟩ := follows_of_isGroups hgroups hrest
    obtain ⟨limit, rfl⟩ : ∃ l, limit = l + 1 := ⟨limit - 1, by simp at hlimit; omega⟩
    have htext : colon first ++ (cs ++ ds) ++ rest = colon first ++ (cs ++ c :: tail) := by
      rw [List.append_assoc, List.append_assoc, htail]
    have hends : Ends 16 (c :: tail) := ends_cons hdigit
    have hread : (afterColon first (colon first ++ (cs ++ c :: tail))).bind (readNumber 16 4 true) =
        some (g, c :: tail) := readGroup_afterColon.mpr ⟨cs, rfl, hgroup, hends⟩
    have hmore := ih (Nat.le_of_succ_le_succ hlimit)
    rw [htail] at hmore
    rw [htext]
    simp only [readGroups, not_octets_of_group hgroup hdigit hpoint, ite_self, hread, hmore]

theorem exists_of_readEight (h : readEight cs = some (gs, rest)) :
    ∃ ds, cs = ds ++ rest ∧ IsEight gs ds := by
  rcases hhead : readGroups 8 true cs with ⟨head, octets, rest'⟩
  obtain ⟨hlength, ds, rfl, hds⟩ := exists_of_readGroups hhead
  simp only [readEight, hhead] at h
  split_ifs at h with height hoctets
  · obtain ⟨rfl, rfl⟩ := Prod.mk.inj (Option.some.inj h)
    exact ⟨ds, rfl, .full hds height⟩
  · obtain rfl : octets = false := Bool.eq_false_iff.mpr hoctets
    simp only [bind, Option.bind_eq_some_iff, readMark_eq_some] at h
    obtain ⟨tailText, ⟨_, rfl, rfl⟩, h⟩ := h
    rcases htail : readGroups (7 - head.length) true tailText with ⟨tail, octets', rest''⟩
    obtain ⟨hlength', es, rfl, hes⟩ := exists_of_readGroups htail
    rw [htail] at h
    have hpair : (head ++ List.replicate (8 - head.length - tail.length) 0 ++ tail, rest'') =
        (gs, rest) := Option.some.inj h
    obtain ⟨rfl, rfl⟩ := Prod.mk.inj hpair
    refine ⟨ds ++ ':' :: ':' :: es, by simp only [List.append_assoc, List.cons_append], ?_⟩
    exact .short hds hes (by omega)

/-- The groups are followed by what comes after them. -/
theorem readEight_append (h : IsEight gs ds) (hrest : Stops rest) :
    readEight (ds ++ rest) = some (gs, rest) := by
  cases h with
  | full hgroups hlength =>
    simp only [readEight, readGroups_append hgroups (Nat.le_of_eq hlength) hrest, if_pos hlength]
  | @short octets hs ts cs ds hhead htail hlength =>
    have htext : cs ++ ':' :: ':' :: ds ++ rest = cs ++ ':' :: ':' :: (ds ++ rest) := by
      simp only [List.append_assoc, List.cons_append]
    have hfirst : readGroups 8 true (cs ++ ':' :: ':' :: (ds ++ rest)) =
        (hs, false, ':' :: ':' :: (ds ++ rest)) := readGroups_append hhead (by omega) .colons
    have hlast : readGroups (7 - hs.length) true (ds ++ rest) = (ts, octets, rest) :=
      readGroups_append htail (by omega) hrest
    have hnot : hs.length ≠ 8 := by omega
    rw [htext]
    simp only [readEight, hfirst, if_neg hnot, Bool.false_eq_true, if_false, readMark, if_true,
      Option.bind_some, bind, hlast, pure]

/-! ## The whole address -/

theorem isScope_of_readScope (h : readScope cs = (scope, rest)) :
    ∃ ds, cs = ds ++ rest ∧ IsScope scope ds := by
  unfold readScope at h
  split at h
  · rename_i r
    split at h
    · rename_i found hn
      subst h
      simp only [Option.filter_eq_some_iff, readNumber_eq_some, decide_eq_true_eq] at hn
      obtain ⟨⟨ds, rfl, hds, -⟩, hlt⟩ := hn
      exact ⟨'%' :: ds, rfl, .some hds hlt⟩
    · obtain ⟨rfl, rfl⟩ := Prod.mk.inj h
      exact ⟨[], rfl, .none⟩
  · obtain ⟨rfl, rfl⟩ := Prod.mk.inj h
    exact ⟨[], rfl, .none⟩

theorem readScope_append (h : IsScope scope ds) :
    readScope (ds ++ ']' :: rest) = (scope, ']' :: rest) := by
  cases h with
  | none => rfl
  | @some n cs hcs hlt =>
    have hread : readNumber 10 (cs ++ ']' :: rest).length true (cs ++ ']' :: rest) =
        Option.some (scope, ']' :: rest) := by
      refine readNumber_eq_some.mpr ⟨cs, rfl, hcs, ?_, nofun, ends_cons (by decide)⟩
      rw [List.length_append]
      omega
    simp only [readScope, List.cons_append, hread, Option.filter_some, decide_eq_true hlt, if_true]

theorem readPort_eq_some : readPort cs = some port ↔ ∃ ds, cs = ':' :: ds ∧ IsPort port ds := by
  simp only [readPort, bind, Option.bind_eq_some_iff, readMark_eq_some, Prod.exists,
    readNumber_eq_some]
  constructor
  · rintro ⟨_, rfl, n, rest, ⟨ds, rfl, hds, -⟩, h⟩
    split_ifs at h with hall
    obtain ⟨hempty, hlt⟩ := hall
    obtain rfl := Option.some.inj h
    obtain rfl := List.isEmpty_iff.mp hempty
    exact ⟨ds, by rw [List.append_nil], hds, hlt⟩
  · rintro ⟨ds, rfl, hds, hlt⟩
    refine ⟨ds, rfl, port, [], ⟨ds, (List.append_nil ds).symm, hds, Nat.le_refl _, nofun, nofun⟩, ?_⟩
    rw [if_pos ⟨rfl, hlt⟩]

theorem parse?_eq_some {s : String} : parse? s = some a ↔ a.Spells s.toList := by
  constructor
  · intro h
    unfold parse? at h
    split at h
    · rename_i os rest hos
      obtain ⟨cs, hcs, hoctets, -⟩ := readOctets_eq_some.mp hos
      obtain ⟨port, hport, rfl⟩ := Option.map_eq_some_iff.mp h
      obtain ⟨ds, rfl, hds⟩ := readPort_eq_some.mp hport
      exact hcs ▸ .v4 hoctets hds
    · simp only [bind, Option.bind_eq_some_iff, readMark_eq_some, pure, Option.some.injEq,
        Prod.exists] at h
      obtain ⟨text, htext, gs, rest, hgs, rest', hrest', port, hport, rfl⟩ := h
      obtain ⟨cs, rfl, hcs⟩ := exists_of_readEight hgs
      rcases hscope : readScope rest with ⟨scope, rest''⟩
      obtain ⟨ds, rfl, hds⟩ := isScope_of_readScope hscope
      obtain ⟨es, rfl, hes⟩ := readPort_eq_some.mp hport
      rw [hscope] at hrest'
      obtain rfl : rest'' = ']' :: ':' :: es := hrest'
      rw [htext]
      exact .v6 hcs hds hes
  · generalize hcs : s.toList = cs
    rintro (@⟨os, port, cs, ds, hos, hds⟩ | @⟨gs, scope, port, cs, ds, es, hgs, hscope, hport⟩)
    · have hread : readOctets (cs ++ ':' :: ds) = some (os, ':' :: ds) :=
        readOctets_eq_some.mpr ⟨cs, rfl, hos, ends_cons (by decide)⟩
      have hport : readPort (':' :: ds) = some port := readPort_eq_some.mpr ⟨ds, rfl, hds⟩
      simp only [parse?, hcs, hread, hport, Option.map_some]
    · have hnone : readOctets ('[' :: (cs ++ (ds ++ ']' :: ':' :: es))) = none := by
        refine Option.eq_none_iff_forall_ne_some.mpr fun ⟨os, rest⟩ hread => ?_
        obtain ⟨text, htext, hos, -⟩ := readOctets_eq_some.mp hread
        obtain ⟨c, tail, rfl, hdigit⟩ := hos.exists_cons
        obtain ⟨rfl, -⟩ := List.cons.inj htext
        exact absurd hdigit (by decide)
      have hstops : Stops (ds ++ ']' :: ':' :: es) := by
        cases hscope with
        | none => exact .bracket
        | some => exact .scope
      have hport : readPort (':' :: es) = some port := readPort_eq_some.mpr ⟨es, rfl, hport⟩
      simp only [parse?, hcs, hnone, readMark, if_true, bind, Option.bind_some,
        readEight_append hgs hstops, readScope_append hscope, hport, pure]

end AlertService.Address
