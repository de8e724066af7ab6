import AlertService.Proofs.Text.Split
import AlertService.Uuid.Spelling
import Mathlib.Algebra.GroupWithZero.Nat
import Mathlib.Data.Bool.AllAny
import Mathlib.Data.List.Forall2
import Mathlib.Tactic.SplitIfs

/-!
# Which texts spell an identifier

* `parse_eq_ok`: a text is read as an identifier if and only if it spells it.
* `Spells.inRange`: it has no blanks in it, and nothing that an escape is needed for.
* `spells_text`, `parse_text`: the written form spells the identifier, and is read as it.
-/

namespace AlertService.Uuid

variable {u : Uuid} {cs : List Char} {ds : List (Fin 16)} {gs : List (List Char)}

/-- The characters are the digits, with letters of either case. -/
def WritesDigits (ds : List (Fin 16)) (cs : List Char) : Prop :=
  List.Forall₂ (fun c d => Text.hexValue? c = some d) cs ds

/-- The digits in groups of the right sizes. -/
inductive Hyphenated (u : Uuid) : List Char → Prop
  | groups {gs : List (List Char)} : gs.map List.length = groupSizes →
      WritesDigits u.digits gs.flatten → Hyphenated u (hyphenate gs)

/-- The accepted spellings of an identifier. -/
inductive Spells (u : Uuid) : List Char → Prop
  | simple {cs : List Char} : WritesDigits u.digits cs → Spells u cs
  | hyphenated {cs : List Char} : Hyphenated u cs → Spells u cs
  | braced {cs : List Char} : Hyphenated u cs → Spells u ('\x7b' :: (cs ++ ['\x7d']))
  | urn {scheme cs : List Char} : scheme.map Char.toLower = "urn:uuid:".toList →
      Hyphenated u cs → Spells u (scheme ++ cs)

/-! ## Digits -/

theorem digits?_eq_some : digits? cs = some ds ↔ WritesDigits ds cs := by
  unfold digits? WritesDigits
  induction cs generalizing ds with
  | nil =>
    rw [List.forall₂_nil_left_iff]
    exact ⟨fun h => (Option.some.inj h).symm, fun h => h ▸ rfl⟩
  | cons c cs ih =>
    rw [List.mapM_cons, List.forall₂_cons_left_iff]
    simp only [bind, pure, Option.bind_eq_some_iff, ih, Option.some.injEq]
    constructor
    · rintro ⟨d, hd, ds', hds, rfl⟩
      exact ⟨d, ds', hd, hds, rfl⟩
    · rintro ⟨d, ds', hd, hds, rfl⟩
      exact ⟨d, hd, ds', hds, rfl⟩

theorem simple?_eq_some : simple? cs = some u ↔ WritesDigits u.digits cs := by
  simp only [simple?, Option.bind_eq_some_iff, digits?_eq_some, ofDigits?]
  constructor
  · rintro ⟨ds, hds, h⟩
    split_ifs at h with hsize
    exact (Option.some.inj h) ▸ hds
  · intro h
    exact ⟨u.digits, h, dif_pos u.size⟩

theorem exists_hexValue? {c : Char} (h : WritesDigits ds cs) (hc : c ∈ cs) :
    ∃ d, Text.hexValue? c = some d := by
  induction h with
  | nil => exact absurd hc List.not_mem_nil
  | cons hd _ ih =>
    rcases List.mem_cons.mp hc with rfl | hc
    · exact ⟨_, hd⟩
    · exact ih hc

/-- A digit is neither a hyphen nor a brace nor a colon, and has one byte. -/
theorem writesDigits_spec (h : WritesDigits ds cs) :
    ∀ c ∈ cs, c ∉ ['-', '\x7b', ':'] ∧ c.utf8Size = 1 := by
  intro c hc
  obtain ⟨d, hd⟩ := exists_hexValue? h hc
  have hhex : c.toNat ≤ 127 := by
    unfold Text.hexValue? at hd
    dsimp only at hd
    split_ifs at hd <;> omega
  refine ⟨fun hmem => ?_, Char.utf8Size_eq_one_iff.mpr hhex⟩
  simp only [List.mem_cons, List.not_mem_nil, or_false] at hmem
  rcases hmem with rfl | rfl | rfl <;> exact nomatch hd

/-! ## Groups -/

theorem hyphenate_eq (gs : List (List Char)) : hyphenate gs = ['-'].intercalate gs := by
  induction gs with
  | nil => rfl
  | cons g gs ih =>
    cases gs with
    | nil => simp [hyphenate, List.intercalate]
    | cons g' gs =>
      rw [hyphenate, ih, List.intercalate_cons_cons, List.append_assoc, List.singleton_append]
      exact List.cons_ne_nil g' gs

theorem exists_groups (h : gs.map List.length = groupSizes) : ∃ a b c d e, gs = [a, b, c, d, e] ∧
    a.length = 8 ∧ b.length = 4 ∧ c.length = 4 ∧ d.length = 4 ∧ e.length = 12 := by
  have hlength := congrArg List.length h
  rw [List.length_map] at hlength
  match gs, hlength with
  | [a, b, c, d, e], _ =>
    simp only [groupSizes, List.map_cons, List.map_nil, List.cons.injEq, and_true] at h
    exact ⟨a, b, c, d, e, rfl, h⟩

theorem hyphenated?_eq_some : hyphenated? cs = some u ↔ Hyphenated u cs := by
  unfold hyphenated?
  dsimp only
  rw [Option.ite_none_right_eq_some, simple?_eq_some]
  constructor
  · rintro ⟨hsizes, hdigits⟩
    have hcs : hyphenate (groups cs) = cs := by
      rw [hyphenate_eq]
      exact Text.intercalate_splitOn '-' cs
    exact hcs ▸ .groups hsizes hdigits
  · rintro @⟨gs, hsizes, hdigits⟩
    obtain ⟨a, b, c, d, e, rfl, -⟩ := exists_groups hsizes
    have hgroups : groups (hyphenate [a, b, c, d, e]) = [a, b, c, d, e] := by
      rw [hyphenate_eq]
      refine Text.splitOn_intercalate (List.cons_ne_nil _ _) fun g hg hhyphen => ?_
      have hmem := List.mem_flatten_of_mem hg hhyphen
      exact (writesDigits_spec hdigits '-' hmem).1 List.mem_cons_self
    rw [hgroups]
    exact ⟨hsizes, hdigits⟩

theorem byteSize_eq (h : ∀ c ∈ cs, c.utf8Size = 1) : byteSize cs = cs.length := by
  have hones : cs.map Char.utf8Size = List.replicate cs.length 1 :=
    List.eq_replicate_iff.mpr ⟨List.length_map _, List.forall_mem_map.mpr h⟩
  rw [byteSize, ← List.sum_eq_foldl, hones, List.sum_replicate_nat, Nat.mul_one]

theorem Hyphenated.spec (h : Hyphenated u cs) : cs.length = 36 ∧ '-' ∈ cs ∧
    ∀ c ∈ cs, c ∉ ['\x7b', ':'] ∧ c.utf8Size = 1 := by
  obtain @⟨gs, hsizes, hdigits⟩ := h
  have hspec := writesDigits_spec hdigits
  obtain ⟨a, b, c, d, e, rfl, ha, hb, hc, hd, he⟩ := exists_groups hsizes
  simp only [hyphenate]
  refine ⟨by simp [ha, hb, hc, hd, he], by simp, fun x hx => ?_⟩
  by_cases hhyphen : x = '-'
  · rw [hhyphen]
    decide
  · have hmem : x ∈ [a, b, c, d, e].flatten := by simpa [hhyphen] using hx
    obtain ⟨hx, hsize⟩ := hspec x hmem
    exact ⟨fun h => hx (List.mem_cons_of_mem _ h), hsize⟩

theorem Hyphenated.byteSize_eq (h : Hyphenated u cs) : byteSize cs = 36 := by
  obtain ⟨hlength, -, hchars⟩ := h.spec
  rw [Uuid.byteSize_eq fun c hc => (hchars c hc).2, hlength]

/-! ## Spellings -/

theorem simple?_eq_none {c : Char} (hc : c ∈ ['-', '\x7b', ':']) (h : c ∈ cs) :
    simple? cs = none := by
  refine Option.eq_none_iff_forall_ne_some.mpr fun u hu => ?_
  exact (writesDigits_spec (simple?_eq_some.mp hu) c h).1 hc

theorem byteSize_append (cs ds : List Char) : byteSize (cs ++ ds) = byteSize cs + byteSize ds := by
  simp only [byteSize, ← List.sum_eq_foldl, List.map_append, List.sum_append]

theorem unwrap?_braced (cs : List Char) :
    unwrap? ('\x7b' :: (cs ++ ['\x7d'])) = some (1, cs) := by
  have hlast : ('\x7b' :: (cs ++ ['\x7d'])).getLast? = some '\x7d' := by
    rw [← List.cons_append, List.getLast?_concat]
  unfold unwrap?
  rw [if_pos ⟨rfl, hlast, by simp⟩, List.tail_cons, List.dropLast_concat]

theorem unwrap?_urn {scheme : List Char} (h : scheme.map Char.toLower = "urn:uuid:".toList)
    (cs : List Char) : unwrap? (scheme ++ cs) = some (9, cs) := by
  have hlength : scheme.length = 9 := by
    have := congrArg List.length h
    rwa [List.length_map] at this
  have hhead : (scheme ++ cs).head? ≠ some '\x7b' := by
    obtain ⟨c, more, rfl⟩ : ∃ c more, scheme = c :: more :=
      List.exists_cons_of_length_pos (by omega)
    intro hc
    rw [List.cons_append, List.head?_cons, Option.some.injEq] at hc
    rw [hc] at h
    exact absurd (List.cons.inj h).1 (by decide)
  unfold unwrap?
  rw [if_neg fun hb => hhead hb.1, ← hlength, List.take_left, List.drop_left, hlength]
  exact if_pos h

theorem unwrap?_eq_some {n : Nat} {inner : List Char} (h : unwrap? cs = some (n, inner)) :
    cs = '\x7b' :: (inner ++ ['\x7d']) ∨
      ∃ scheme : List Char, scheme.map Char.toLower = "urn:uuid:".toList ∧ cs = scheme ++ inner := by
  unfold unwrap? at h
  split_ifs at h with hbraced hurn
  · obtain ⟨hhead, hlast, htwo⟩ := hbraced
    cases h
    left
    cases cs with
    | nil => exact nomatch hhead
    | cons c more =>
      obtain rfl := Option.some.inj hhead
      have hmore : more ≠ [] := by
        rintro rfl
        exact absurd htwo (by decide)
      rw [List.getLast?_cons_of_ne_nil hmore] at hlast
      rw [List.tail_cons, List.dropLast_append_getLast? _ hlast]
  · cases h
    exact .inr ⟨cs.take 9, hurn, (List.take_append_drop 9 cs).symm⟩

/-- A character is its own small letter, unless it is a capital. -/
theorem toLower_cases (c : Char) : c.toLower = c ∨
    65 ≤ c.toNat ∧ c.toNat ≤ 90 ∧ c.toLower.toNat = c.toNat + 32 := by
  unfold Char.toLower
  split
  · rename_i hupper
    have hle : 65 ≤ c.toNat := UInt32.le_iff_toNat_le.mp hupper.1
    have hle' : c.toNat ≤ 90 := UInt32.le_iff_toNat_le.mp hupper.2
    refine .inr ⟨hle, hle', ?_⟩
    show (c.toNat + 32) % 2 ^ 32 = c.toNat + 32
    omega
  · exact .inl rfl

theorem eq_colon_of_toLower {c : Char} (h : c.toLower = ':') : c = ':' := by
  rcases toLower_cases c with hself | ⟨hle, -, hlower⟩
  · exact hself.symm.trans h
  · have hcolon : c.toLower.toNat = 58 := congrArg Char.toNat h
    omega

/-- Text around a hyphenated spelling can be taken off if it makes the whole longer. -/
theorem accept?_of_unwrap {n : Nat} {inner : List Char} {c : Char} (hc : c ∈ ['-', '\x7b', ':'])
    (hmem : c ∈ cs) (hsize : byteSize cs ≠ 36) (hunwrap : unwrap? cs = some (n, inner))
    (h : Hyphenated u inner) : accept? cs = some u := by
  have hcore : core? cs = some inner := by
    rw [core?, if_neg hsize, hunwrap]
    exact if_pos h.byteSize_eq
  rw [accept?, simple?_eq_none hc hmem, hcore]
  exact hyphenated?_eq_some.mpr h

theorem accept?_eq_some : accept? cs = some u ↔ Spells u cs := by
  constructor
  · intro h
    unfold accept? at h
    cases hsimple : simple? cs with
    | some v =>
      rw [hsimple] at h
      obtain rfl := Option.some.inj h
      exact .simple (simple?_eq_some.mp hsimple)
    | none =>
      rw [hsimple] at h
      obtain ⟨inner, hcore, hinner⟩ := Option.bind_eq_some_iff.mp h
      have hhyphenated := hyphenated?_eq_some.mp hinner
      unfold core? at hcore
      split_ifs at hcore
      · cases hcore
        exact .hyphenated hhyphenated
      · obtain ⟨⟨n, core⟩, hunwrap, hsize⟩ := Option.bind_eq_some_iff.mp hcore
        cases (Option.ite_none_right_eq_some.mp hsize).2
        rcases unwrap?_eq_some hunwrap with rfl | ⟨scheme, hscheme, rfl⟩
        · exact .braced hhyphenated
        · exact .urn hscheme hhyphenated
  · intro h
    cases h with
    | simple h => rw [accept?, simple?_eq_some.mpr h, Option.orElse_some]
    | hyphenated h =>
      obtain ⟨-, hhyphen, -⟩ := h.spec
      rw [accept?, simple?_eq_none (by decide) hhyphen, core?, if_pos h.byteSize_eq]
      exact hyphenated?_eq_some.mpr h
    | @braced cs h =>
      refine accept?_of_unwrap (c := '\x7b') (by decide) List.mem_cons_self ?_ (unwrap?_braced cs) h
      rw [← List.singleton_append, byteSize_append, byteSize_append, h.byteSize_eq]
      decide
    | @urn scheme cs hscheme h =>
      -- with a colon in it the text is not read as digits alone, nor is it a hyphenated one
      have hcolon : ':' ∈ scheme := by
        have : ':' ∈ scheme.map Char.toLower := hscheme ▸ by decide
        obtain ⟨c, hc, hlower⟩ := List.mem_map.mp this
        exact eq_colon_of_toLower hlower ▸ hc
      have hpos : 0 < byteSize scheme := by
        obtain ⟨before, after, rfl⟩ := List.append_of_mem hcolon
        rw [byteSize_append, ← List.singleton_append, byteSize_append]
        exact Nat.add_pos_right _ (Nat.add_pos_left (by decide) _)
      refine accept?_of_unwrap (c := ':') (by decide) (List.mem_append_left _ hcolon) ?_
        (unwrap?_urn hscheme cs) h
      rw [byteSize_append, h.byteSize_eq]
      omega

theorem Spells.unique {v : Uuid} (h : Spells u cs) (h' : Spells v cs) : u = v :=
  Option.some.inj ((accept?_eq_some.mpr h).symm.trans (accept?_eq_some.mpr h'))

theorem parse_eq_ok {s : String} : parse s = .ok u ↔ Spells u s.toList := by
  rw [← accept?_eq_some, parse]
  split <;> rename_i h <;> simp [h]

/-! ## Characters -/

/-- The character is in the part of ASCII that spellings are written in. -/
def InRange (c : Char) : Prop := 45 ≤ c.toNat ∧ c.toNat ≤ 125

instance (c : Char) : Decidable (InRange c) := inferInstanceAs (Decidable (_ ∧ _))

theorem inRange_of_hexValue? {c : Char} {d : Fin 16} (h : Text.hexValue? c = some d) :
    InRange c := by
  unfold Text.hexValue? at h
  unfold InRange
  dsimp only at h
  split_ifs at h <;> omega

theorem inRange_of_toLower {c : Char} (h : InRange c.toLower) : InRange c := by
  rcases toLower_cases c with hself | ⟨hle, hle', -⟩
  · rwa [hself] at h
  · unfold InRange
    omega

theorem WritesDigits.inRange (h : WritesDigits ds cs) : ∀ c ∈ cs, InRange c := by
  intro c hc
  obtain ⟨d, hd⟩ := exists_hexValue? h hc
  exact inRange_of_hexValue? hd

theorem Hyphenated.mem {c : Char} (h : Hyphenated u cs) (hc : c ∈ cs) :
    c = '-' ∨ ∃ d, Text.hexValue? c = some d := by
  obtain @⟨gs, hsizes, hdigits⟩ := h
  obtain ⟨a, b, c', d, e, rfl, -⟩ := exists_groups hsizes
  by_cases hhyphen : c = '-'
  · exact .inl hhyphen
  · apply Or.inr
    apply exists_hexValue? hdigits
    simpa [hyphenate, hhyphen] using hc

theorem Hyphenated.inRange (h : Hyphenated u cs) : ∀ c ∈ cs, InRange c := by
  intro c hc
  rcases h.mem hc with rfl | ⟨d, hd⟩
  · decide
  · exact inRange_of_hexValue? hd

theorem Spells.inRange (h : Spells u cs) : ∀ c ∈ cs, InRange c := by
  cases h with
  | simple h => exact h.inRange
  | hyphenated h => exact h.inRange
  | braced h =>
    intro c hc
    rcases List.mem_cons.mp hc with rfl | hc
    · decide
    rcases List.mem_append.mp hc with hc | hc
    · exact h.inRange c hc
    · rw [List.mem_singleton.mp hc]
      decide
  | urn hscheme h =>
    have hlower : ∀ c ∈ "urn:uuid:".toList, InRange c := by
      rw [← List.all_iff_forall_prop]
      decide
    intro c hc
    rcases List.mem_append.mp hc with hc | hc
    · apply inRange_of_toLower
      exact hlower _ (hscheme ▸ List.mem_map_of_mem hc)
    · exact h.inRange c hc

/-! ## The written form -/

theorem writesDigits_hexDigit (ds : List (Fin 16)) : WritesDigits ds (ds.map Text.hexDigit) := by
  unfold WritesDigits
  rw [List.forall₂_map_left_iff]
  exact List.forall₂_same.mpr fun d _ => Text.hexValue?_hexDigit d

theorem flatten_cut {α : Type} (sizes : List Nat) (xs : List α) :
    (cut sizes xs).flatten = xs.take sizes.sum := by
  induction sizes generalizing xs with
  | nil => simp [cut]
  | cons n sizes ih => rw [cut, List.flatten_cons, ih, List.sum_cons, List.take_add]

theorem hyphenated_chars (u : Uuid) : Hyphenated u u.chars := by
  have hlength : (u.digits.map Text.hexDigit).length = 32 := by rw [List.length_map, u.size]
  have hflatten : (cut groupSizes (u.digits.map Text.hexDigit)).flatten =
      u.digits.map Text.hexDigit := by
    rw [flatten_cut, List.take_of_length_le]
    exact Nat.le_of_eq hlength
  refine .groups ?_ ?_
  · simp [cut, groupSizes, hlength]
  · rw [hflatten]
    exact writesDigits_hexDigit u.digits

theorem spells_chars (u : Uuid) : Spells u u.chars := .hyphenated (hyphenated_chars u)

theorem spells_text (u : Uuid) : Spells u u.text.toList := by
  rw [text, String.toList_ofList]
  exact spells_chars u

/-- What is written is read again. -/
theorem parse_text (u : Uuid) : parse u.text = .ok u := parse_eq_ok.mpr (spells_text u)

theorem text_inj {v : Uuid} : u.text = v.text ↔ u = v := by
  refine ⟨fun h => ?_, fun h => h ▸ rfl⟩
  have hread := parse_text u
  rw [h, parse_text v] at hread
  exact (Except.ok.inj hread).symm

end AlertService.Uuid
