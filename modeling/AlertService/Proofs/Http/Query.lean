import AlertService.Http.Query
import AlertService.Proofs.Text.Lossy
import AlertService.Proofs.Text.Split
import Mathlib.Data.List.TakeWhile

/-!
# What a query says

A query has pairs of a name and a value between ampersands. A name or a value is written with a plus
or an escape for what it cannot hold itself. What is written in any other way is read as something
that shows it.

* `Writes`: the bytes that write others.
* `decodeComponent_eq`: what a text without a percent sign or a replacement character is read from.
* `LastValue`: the value of the last pair with a name, as it is written.
* `Query.get?_parse`: it is the one that is found under the name.
-/

namespace AlertService.Http

variable {b c d : UInt8} {x y : Fin 16} {bs raw : Bytes} {cs name value part : List Char}
  {s key text : String} {parts : List (List Char)}

/-! ## Escapes -/

/-- The bytes `raw` write the bytes `bs`: a plus writes a blank, a percent sign with two hexadecimal
digits the byte of that number, and any other byte itself. -/
inductive Writes : Bytes → Bytes → Prop
  | nil : Writes [] []
  | plain {b : UInt8} {raw bs : Bytes} : b ≠ '+'.toUInt8 → b ≠ '%'.toUInt8 → Writes raw bs →
      Writes (b :: raw) (b :: bs)
  | blank {raw bs : Bytes} : Writes raw bs → Writes ('+'.toUInt8 :: raw) (' '.toUInt8 :: bs)
  | escape {c d : UInt8} {x y : Fin 16} {raw bs : Bytes} : hexByte? c = some x →
      hexByte? d = some y → Writes raw bs →
      Writes ('%'.toUInt8 :: c :: d :: raw) (UInt8.ofNat (x.val * 16 + y.val) :: bs)

theorem writes_self (h : ∀ b ∈ bs, b ≠ '+'.toUInt8 ∧ b ≠ '%'.toUInt8) : Writes bs bs := by
  induction bs with
  | nil => exact .nil
  | cons b bs ih =>
    obtain ⟨hplus, hpercent⟩ := h b List.mem_cons_self
    exact .plain hplus hpercent (ih fun d hd => h d (List.mem_cons_of_mem b hd))

theorem percentDecode_plain (h : b ≠ '%'.toUInt8) (bs : Bytes) :
    percentDecode (b :: bs) = b :: percentDecode bs := by
  match bs with
  | [] => rfl
  | [_] => rfl
  | _ :: _ :: _ => rw [percentDecode, if_neg h]

theorem percentDecode_escape (hc : hexByte? c = some x) (hd : hexByte? d = some y) (bs : Bytes) :
    percentDecode ('%'.toUInt8 :: c :: d :: bs) =
      UInt8.ofNat (x.val * 16 + y.val) :: percentDecode bs := by
  rw [percentDecode, if_pos rfl, hc, hd]

/-- A percent sign that two digits do not follow stands for itself. -/
theorem percentDecode_percent (bs : Bytes) :
    (∃ c d x y rest, bs = c :: d :: rest ∧ hexByte? c = some x ∧ hexByte? d = some y) ∨
      '%'.toUInt8 ∈ percentDecode ('%'.toUInt8 :: bs) := by
  match bs with
  | [] => exact .inr List.mem_cons_self
  | [_] => exact .inr List.mem_cons_self
  | c :: d :: rest =>
    rw [percentDecode, if_pos rfl]
    split
    · rename_i x y hc hd
      exact .inl ⟨c, d, x, y, rest, rfl, hc, hd⟩
    · exact .inr List.mem_cons_self

theorem plusToBlank_of_ne (h : b ≠ '+'.toUInt8) : plusToBlank b = b := if_neg h

theorem hexByte?_plusToBlank (b : UInt8) : hexByte? (plusToBlank b) = hexByte? b := by
  by_cases hb : b = '+'.toUInt8
  · rw [hb]
    rfl
  · rw [plusToBlank_of_ne hb]

/-- The part of a query with blanks for pluses is read as these bytes. -/
theorem percentDecode_of_writes (h : Writes raw bs) :
    percentDecode (raw.map plusToBlank) = bs := by
  induction h with
  | nil => rfl
  | plain hplus hpercent _ ih =>
    rw [List.map_cons, plusToBlank_of_ne hplus, percentDecode_plain hpercent, ih]
  | blank _ ih =>
    have hblank : plusToBlank '+'.toUInt8 = ' '.toUInt8 := rfl
    rw [List.map_cons, hblank, percentDecode_plain (by decide), ih]
  | escape hc hd _ ih =>
    rw [← hexByte?_plusToBlank] at hc hd
    rw [List.map_cons, List.map_cons, List.map_cons, plusToBlank_of_ne (by decide),
      percentDecode_escape hc hd, ih]

/-- What is read without a percent sign has been written. -/
theorem writes_of_percentDecode (h : '%'.toUInt8 ∉ percentDecode (raw.map plusToBlank)) :
    Writes raw (percentDecode (raw.map plusToBlank)) := by
  induction hsize : raw.length using Nat.strongRecOn generalizing raw with
  | ind size ih =>
    cases raw with
    | nil => exact .nil
    | cons b raw =>
      rw [List.length_cons] at hsize
      rw [List.map_cons] at h ⊢
      by_cases hplus : b = '+'.toUInt8
      · have hblank : plusToBlank b = ' '.toUInt8 := if_pos hplus
        rw [hblank, percentDecode_plain (by decide), List.mem_cons, not_or] at h
        rw [hblank, percentDecode_plain (by decide), hplus]
        exact .blank (ih raw.length (by omega) h.2 rfl)
      by_cases hpercent : b = '%'.toUInt8
      · subst hpercent
        rw [plusToBlank_of_ne hplus] at h ⊢
        -- an escape is read as its byte, and anything else would leave the percent sign
        rcases percentDecode_percent (raw.map plusToBlank) with
          ⟨c', d', x, y, rest, hraw, hc, hd⟩ | hmem
        · obtain ⟨c, tail, rfl, rfl, htail⟩ := List.map_eq_cons_iff.mp hraw
          obtain ⟨d, raw, rfl, rfl, -⟩ := List.map_eq_cons_iff.mp htail
          simp only [List.length_cons] at hsize
          rw [List.map_cons, List.map_cons, percentDecode_escape hc hd] at h ⊢
          rw [hexByte?_plusToBlank] at hc hd
          rw [List.mem_cons, not_or] at h
          exact .escape hc hd (ih raw.length (by omega) h.2 rfl)
        · exact absurd hmem h
      · rw [plusToBlank_of_ne hplus, percentDecode_plain hpercent] at h ⊢
        rw [List.mem_cons, not_or] at h
        exact .plain hplus hpercent (ih raw.length (by omega) h.2 rfl)

theorem percentDecode_eq (h : '%'.toUInt8 ∉ bs) :
    percentDecode (raw.map plusToBlank) = bs ↔ Writes raw bs := by
  constructor
  · intro hread
    rw [← hread] at h ⊢
    exact writes_of_percentDecode h
  · exact percentDecode_of_writes

/-! ## Names and values -/

/-- A text in which nothing tells of a fault is read where it is written, and nowhere else. -/
theorem decodeComponent_eq (hpercent : '%' ∉ cs) (hfault : '\ufffd' ∉ cs) :
    decodeComponent raw = String.ofList cs ↔ Writes raw (Utf8.bytes cs) := by
  rw [decodeComponent, Utf8.lossy_eq hfault]
  exact percentDecode_eq (Utf8.ascii_not_mem_bytes (by decide) hpercent)

/-! ## Pairs -/

/-- The part of a query is a pair of the name and the value, as they are written. -/
inductive IsPair : List Char → List Char → List Char → Prop
  | valued {name value : List Char} : '=' ∉ name → IsPair (name ++ '=' :: value) name value
  | bare {name : List Char} : name ≠ [] → '=' ∉ name → IsPair name name []

/-- The query is written in these parts. -/
structure IsSplit (s : String) (parts : List (List Char)) : Prop where
  ne_nil : parts ≠ []
  joined : s.toList = ['&'].intercalate parts
  apart : ∀ part ∈ parts, '&' ∉ part

/-- The last pair of the query with the name has the value, as it is written there. -/
def LastValue (s key : String) (raw : List Char) : Prop :=
  ∃ before part after name, IsSplit s (before ++ part :: after) ∧ IsPair part name raw ∧
    decodeComponent (Utf8.bytes name) = key ∧ ∀ later ∈ after, ∀ name' value,
      IsPair later name' value → decodeComponent (Utf8.bytes name') ≠ key

theorem IsPair.ne_nil (h : IsPair part name value) : part ≠ [] := by
  cases h with
  | valued _ => simp
  | bare hsome _ => exact hsome

theorem IsPair.decodePair (h : IsPair part name value) : decodePair (Utf8.bytes part) =
    (decodeComponent (Utf8.bytes name), decodeComponent (Utf8.bytes value)) := by
  have hkeep : ∀ {name : List Char}, '=' ∉ name → ∀ b ∈ Utf8.bytes name,
      decide (b ≠ '='.toUInt8) = true := by
    intro name h b hb
    exact decide_eq_true fun he => Utf8.ascii_not_mem_bytes (by decide) h (he ▸ hb)
  unfold Http.decodePair
  cases h with
  | valued hname =>
    rw [Utf8.bytes_append, Utf8.bytes_cons_of_lt (by decide),
      List.takeWhile_append_of_pos (hkeep hname), List.dropWhile_append_of_pos (hkeep hname),
      List.takeWhile_cons_of_neg (by simp), List.dropWhile_cons_of_neg (by simp), List.append_nil]
    rfl
  | bare _ hname =>
    rw [List.takeWhile_eq_self_iff.mpr (hkeep hname), List.dropWhile_eq_nil_iff.mpr (hkeep hname)]
    rfl

/-- Every part is a pair, unless there is nothing in it. -/
theorem exists_isPair (h : part ≠ []) : ∃ name value, IsPair part name value := by
  by_cases hvalued : '=' ∈ part
  · obtain ⟨name, value, rfl, hname⟩ := List.eq_append_cons_of_mem hvalued
    exact ⟨name, value, .valued hname⟩
  · exact ⟨part, [], .bare h hvalued⟩

theorem isSplit_iff : IsSplit s parts ↔ Text.splitOn '&' s.toList = parts := by
  rw [Text.splitOn_eq_iff]
  constructor
  · intro h
    exact ⟨h.ne_nil, h.joined, h.apart⟩
  · intro ⟨hsome, hjoined, hapart⟩
    exact ⟨hsome, hjoined, hapart⟩

theorem IsSplit.parse (h : IsSplit s parts) : Query.parse s =
    (parts.filter fun part => !part.isEmpty).map fun part => decodePair (Utf8.bytes part) := by
  have hparts : Text.splitOn '&'.toUInt8 (Utf8.encode s) =
      (Text.splitOn '&' s.toList).map Utf8.bytes := Utf8.splitOn_encode (by decide) s
  have hempty : ((fun part : Bytes => !part.isEmpty) ∘ Utf8.bytes) =
      fun part : List Char => !part.isEmpty := by
    funext part
    exact congrArg (!·) (Utf8.isEmpty_bytes part)
  rw [isSplit_iff.mp h] at hparts
  rw [Query.parse, hparts, List.filter_map, List.map_map, hempty]
  rfl

/-- What is found when the last pair is looked for. -/
theorem lookup_reverse_eq_some {α : Type} {xs : List α} {p : α → Bool} {f : α → String × String} :
    ((xs.filter p).map f).reverse.lookup key = some text ↔
      ∃ before x after, xs = before ++ x :: after ∧ p x = true ∧ f x = (key, text) ∧
        ∀ later ∈ after, p later = true → (f later).1 ≠ key := by
  rw [List.lookup_eq_some_iff]
  constructor
  · rintro ⟨later, earlier, hpairs, hlater⟩
    rw [List.reverse_eq_iff, List.reverse_append, List.reverse_cons, List.append_assoc,
      List.singleton_append] at hpairs
    obtain ⟨front, back, hfilter, -, hback⟩ := List.map_eq_append_iff.mp hpairs
    obtain ⟨x, kept, rfl, hx, hkept⟩ := List.map_eq_cons_iff.mp hback
    obtain ⟨before, rest, rfl, -, hrest⟩ := List.filter_eq_append_iff.mp hfilter
    obtain ⟨skipped, after, rfl, -, hp, rfl⟩ := List.filter_eq_cons_iff.mp hrest
    refine ⟨before ++ skipped, x, after, by rw [List.append_assoc], hp, hx, ?_⟩
    intro y hy hpy
    have hmem : f y ∈ later.reverse := by
      rw [← hkept]
      exact List.mem_map_of_mem (List.mem_filter.mpr ⟨hy, hpy⟩)
    exact (bne_iff_ne.mp (hlater _ (List.mem_reverse.mp hmem))).symm
  · rintro ⟨before, x, after, rfl, hp, hx, hafter⟩
    refine ⟨((after.filter p).map f).reverse, ((before.filter p).map f).reverse, ?_, ?_⟩
    · rw [List.filter_append, List.filter_cons_of_pos hp, List.map_append, List.map_cons, hx,
        List.reverse_append, List.reverse_cons, List.append_assoc, List.singleton_append]
    · intro y hy
      obtain ⟨later, hlater, rfl⟩ := List.mem_map.mp (List.mem_reverse.mp hy)
      obtain ⟨hmem, hpl⟩ := List.mem_filter.mp hlater
      exact bne_iff_ne.mpr (hafter later hmem hpl).symm

/-- Under a name the value of the last pair with it is found. -/
theorem Query.get?_parse : (Query.parse s).get? key = some text ↔
    ∃ raw, LastValue s key raw ∧ decodeComponent (Utf8.bytes raw) = text := by
  rw [Query.get?, (isSplit_iff.mpr rfl).parse, lookup_reverse_eq_some]
  constructor
  · rintro ⟨before, part, after, hsplit, hsome, hpair, hafter⟩
    obtain ⟨name, raw, hraw⟩ := exists_isPair (by simpa using hsome)
    rw [hraw.decodePair] at hpair
    obtain ⟨hname, htext⟩ := Prod.mk.inj hpair
    refine ⟨raw, ⟨before, part, after, name, isSplit_iff.mpr hsplit, hraw, hname, ?_⟩, htext⟩
    intro later hlater name' value hvalue
    have hne := hafter later hlater (by simpa using hvalue.ne_nil)
    rwa [hvalue.decodePair] at hne
  · rintro ⟨raw, ⟨before, part, after, name, hsplit, hpair, hname, hafter⟩, htext⟩
    refine ⟨before, part, after, isSplit_iff.mp hsplit, ?_, ?_, ?_⟩
    · simpa using hpair.ne_nil
    · rw [hpair.decodePair, hname, htext]
    · intro later hlater hsome
      have hpart : later ≠ [] := by simpa using hsome
      obtain ⟨name', value, hvalue⟩ := exists_isPair hpart
      rw [hvalue.decodePair]
      exact hafter later hlater name' value hvalue

end AlertService.Http
