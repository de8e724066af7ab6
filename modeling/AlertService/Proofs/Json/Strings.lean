import AlertService.Json.Lexical
import AlertService.Proofs.Except
import AlertService.Proofs.Json.Grammar

/-!
# Blanks and strings

Bytes are read as a string if and only if they are those of a text that the grammar has for it. What
is between the quotes is read byte by byte and decoded afterwards; since a character cannot begin in
the bytes as they stand and go on in an escape, that is the same as reading character by character.

* `skipSpaces_gap`, `exists_gap`: the blanks in front of a value.
* `readEscape_eq_ok`: what is read after a backslash.
* `readStringRest_eq_ok`: what is read after the opening quote.
-/

namespace AlertService.Json

open Utf8 (bytes IsInner)

variable {bs rest : Bytes} {c : Char} {n : Nat} {s : String} {cs : List Char}

/-! ## Blanks -/

theorem isSpace_iff {b : UInt8} : isSpace b = true ↔ ∃ c ∈ [' ', '\n', '\t', '\r'],
    b = c.toUInt8 := by
  simp only [isSpace, Bool.or_eq_true, decide_eq_true_eq, List.mem_cons, List.not_mem_nil, or_false,
    exists_eq_or_imp, exists_eq_left]
  simp only [or_assoc]
  exact Iff.rfl

theorem toNat_le_of_blank (h : c ∈ [' ', '\n', '\t', '\r']) : c.toNat ≤ 32 := by
  simp only [List.mem_cons, List.not_mem_nil, or_false] at h
  obtain rfl | rfl | rfl | rfl := h <;> decide

theorem ascii_of_gap {gap : List Char} (h : IsGap gap) : ∀ c ∈ gap, c.toNat < 128 := by
  intro c hc
  have hle := toNat_le_of_blank (h c hc)
  omega

theorem not_space_of_lt (hascii : c.toNat < 128) (hc : 32 < c.toNat) :
    isSpace c.toUInt8 = false := by
  refine Bool.eq_false_iff.mpr fun hspace => ?_
  obtain ⟨d, hd, hbyte⟩ := isSpace_iff.mp hspace
  have hle := toNat_le_of_blank hd
  rw [(Utf8.toUInt8_inj hascii (by omega)).mp hbyte] at hc
  omega

theorem skipSpaces_gap {gap : List Char} (h : IsGap gap) (bs : Bytes) :
    skipSpaces (bytes gap ++ bs) = skipSpaces bs := by
  refine List.dropWhile_append_of_pos fun b hb => ?_
  rw [Utf8.bytes_of_lt (ascii_of_gap h), List.mem_map] at hb
  obtain ⟨c, hc, rfl⟩ := hb
  exact isSpace_iff.mpr ⟨c, h c hc, rfl⟩

theorem exists_gap (bs : Bytes) : ∃ gap, IsGap gap ∧ bs = bytes gap ++ skipSpaces bs := by
  have hspace : ∀ b ∈ bs.takeWhile isSpace, isSpace b = true :=
    List.all_eq_true.mp List.all_takeWhile
  have hgap : ∀ ss : Bytes, (∀ b ∈ ss, isSpace b = true) → ∃ gap, IsGap gap ∧ bytes gap = ss := by
    intro ss hss
    induction ss with
    | nil => exact ⟨[], isGap_nil, rfl⟩
    | cons b ss ih =>
      obtain ⟨gap, hgap, hbytes⟩ := ih fun d hd => hss d (List.mem_cons_of_mem b hd)
      obtain ⟨c, hc, rfl⟩ := isSpace_iff.mp (hss b List.mem_cons_self)
      have hcons : IsGap (c :: gap) := List.forall_mem_cons.mpr ⟨hc, hgap⟩
      refine ⟨c :: gap, hcons, ?_⟩
      rw [Utf8.bytes_cons_of_lt (ascii_of_gap hcons c List.mem_cons_self), hbytes]
  obtain ⟨gap, hgap, hbytes⟩ := hgap _ hspace
  refine ⟨gap, hgap, ?_⟩
  rw [hbytes]
  exact List.takeWhile_append_dropWhile.symm

theorem skipSpaces_of_not_space {b : UInt8} (h : isSpace b = false) (bs : Bytes) :
    skipSpaces (b :: bs) = b :: bs := by
  rw [skipSpaces, List.dropWhile_cons_of_neg (by simp [h])]

/-! ## Escapes -/

theorem ascii_of_hexValue? {d : Fin 16} (h : Text.hexValue? c = some d) : c.toNat < 128 := by
  unfold Text.hexValue? at h
  dsimp only at h
  split_ifs at h <;> omega

theorem hexCode?_eq_some {a b c d : UInt8} : hexCode? a b c d = some n ↔
    WritesCode n [Char.ofNat a.toNat, Char.ofNat b.toNat, Char.ofNat c.toNat,
      Char.ofNat d.toNat] := by
  simp only [hexCode?, List.mapM_cons, List.mapM_nil, bind, pure, Option.bind_eq_some_iff,
    Option.some.injEq]
  constructor
  · rintro ⟨-, ⟨i, hi, -, ⟨j, hj, -, ⟨k, hk, -, ⟨l, hl, -, rfl, rfl⟩, rfl⟩, rfl⟩, rfl⟩, rfl⟩
    simpa using WritesCode.four hi hj hk hl
  · intro h
    generalize hds : [Char.ofNat a.toNat, Char.ofNat b.toNat, Char.ofNat c.toNat,
      Char.ofNat d.toNat] = ds at h
    obtain @⟨_, _, _, _, i, j, k, l, hi, hj, hk, hl⟩ := h
    simp only [List.cons.injEq, and_true] at hds
    obtain ⟨rfl, rfl, rfl, rfl⟩ := hds
    exact ⟨_, ⟨i, hi, _, ⟨j, hj, _, ⟨k, hk, _, ⟨l, hl, _, rfl, rfl⟩, rfl⟩, rfl⟩, rfl⟩, by simp⟩

theorem readHexCode_eq_ok : readHexCode bs = .ok (n, rest) ↔
    ∃ ds, WritesCode n ds ∧ bs = bytes ds ++ rest := by
  constructor
  · intro h
    unfold readHexCode at h
    split at h
    · rename_i a b c d tail
      split at h
      · rename_i m hm
        simp only [Except.ok.injEq, Prod.mk.injEq] at h
        obtain ⟨rfl, rfl⟩ := h
        have hcode := hexCode?_eq_some.mp hm
        refine ⟨_, hcode, ?_⟩
        generalize hds : [Char.ofNat a.toNat, Char.ofNat b.toNat, Char.ofNat c.toNat,
          Char.ofNat d.toNat] = ds at hcode
        obtain ⟨ha, hb, hc, hd⟩ := hcode
        simp only [List.cons.injEq, and_true] at hds
        obtain ⟨rfl, rfl, rfl, rfl⟩ := hds
        rw [Utf8.bytes_ofNat_cons (ascii_of_hexValue? ha), Utf8.bytes_ofNat_cons (ascii_of_hexValue? hb),
          Utf8.bytes_ofNat_cons (ascii_of_hexValue? hc), Utf8.bytes_ofNat_cons (ascii_of_hexValue? hd)]
        rfl
      · cases h
    · cases h
  · rintro ⟨ds, hcode, rfl⟩
    obtain ⟨ha, hb, hc, hd⟩ := id hcode
    have ha' := ascii_of_hexValue? ha
    have hb' := ascii_of_hexValue? hb
    have hc' := ascii_of_hexValue? hc
    have hd' := ascii_of_hexValue? hd
    rw [Utf8.bytes_cons_of_lt ha', Utf8.bytes_cons_of_lt hb', Utf8.bytes_cons_of_lt hc',
      Utf8.bytes_cons_of_lt hd']
    rw [← Utf8.ofNat_toUInt8 ha', ← Utf8.ofNat_toUInt8 hb', ← Utf8.ofNat_toUInt8 hc',
      ← Utf8.ofNat_toUInt8 hd'] at hcode
    simp only [Utf8.bytes_nil, List.cons_append, List.nil_append, readHexCode,
      hexCode?_eq_some.mpr hcode]

theorem readPairByte_eq_ok {wanted : UInt8} :
    readPairByte wanted bs = .ok rest ↔ bs = wanted :: rest := by
  cases bs with
  | nil => simp [readPairByte]
  | cons b bs => simp [readPairByte, ite_ok_eq_ok]

theorem isValidChar_iff {n : Nat} (h : n < 0x110000) :
    n.isValidChar ↔ n < 0xd800 ∨ 0xdfff < n := by
  unfold Nat.isValidChar
  omega

theorem not_surrogate (c : Char) : c.toNat < 0xd800 ∨ 0xdfff < c.toNat := by
  have hvalid : c.toNat.isValidChar := c.valid
  unfold Nat.isValidChar at hvalid
  omega

theorem writesCode_lt (h : WritesCode n cs) : n < 0x10000 := by
  obtain @⟨_, _, _, _, i, j, k, l, -⟩ := h
  omega

theorem readLowSurrogate_eq_ok {high : Nat} (hhigh : high < 0xdc00) :
    readLowSurrogate high bs = .ok (c, rest) ↔
      ∃ low es, WritesCode low es ∧ 0xdc00 ≤ low ∧ low < 0xe000 ∧
        c.toNat = 0x10000 + (high - 0xd800) * 0x400 + (low - 0xdc00) ∧
        bs = bytes ('\\' :: 'u' :: es) ++ rest := by
  have hbytes : ∀ es, bytes ('\\' :: 'u' :: es) ++ rest =
      '\\'.toUInt8 :: 'u'.toUInt8 :: (bytes es ++ rest) := fun es => by
    rw [Utf8.bytes_cons_of_lt (by decide), Utf8.bytes_cons_of_lt (by decide)]
    rfl
  simp only [readLowSurrogate, bind_eq_ok, readPairByte_eq_ok, ite_error_eq_ok, Except.ok.injEq,
    Prod.mk.injEq, hbytes]
  constructor
  · rintro ⟨_, rfl, _, rfl, ⟨low, tail⟩, hread, hlow, hc, htail⟩
    obtain ⟨es, hcode, rfl⟩ := readHexCode_eq_ok.mp hread
    obtain rfl : tail = rest := htail
    have hlow' : ¬(low < 0xdc00 ∨ 0xdfff < low) := hlow
    refine ⟨low, es, hcode, by omega, by omega, ?_, rfl⟩
    rw [← hc, Utf8.toNat_ofNat ((isValidChar_iff (by omega)).mpr (by omega))]
  · rintro ⟨low, es, hcode, hle, hlt, hc, rfl⟩
    refine ⟨_, rfl, _, rfl, (low, rest), readHexCode_eq_ok.mpr ⟨es, hcode, rfl⟩, ?_, ?_, rfl⟩
    · show ¬(low < 0xdc00 ∨ 0xdfff < low)
      omega
    · rw [← hc, Char.ofNat_toNat]

theorem readCodeEscape_eq_ok : readCodeEscape bs = .ok (c, rest) ↔
    ∃ cs, WritesEscape c ('u' :: cs) ∧ bs = bytes cs ++ rest := by
  simp only [readCodeEscape, bind_eq_ok, Prod.exists]
  constructor
  · rintro ⟨n, tail, hread, h⟩
    obtain ⟨ds, hcode, rfl⟩ := readHexCode_eq_ok.mp hread
    have hlt := writesCode_lt hcode
    split_ifs at h with hsingle hlate
    · cases h
      have hvalid : n.isValidChar := (isValidChar_iff (by omega)).mpr hsingle
      rw [← Utf8.toNat_ofNat hvalid] at hcode
      exact ⟨ds, .code hcode, rfl⟩
    · obtain ⟨low, es, hcode', hle, hlt', hc, rfl⟩ := (readLowSurrogate_eq_ok (by omega)).mp h
      exact ⟨_, .pair hcode hcode' (by omega) (by omega) hle hlt' hc, by simp⟩
  · rintro ⟨cs, hescape, rfl⟩
    cases hescape with
    | letter hletter => exact absurd hletter (by simp [letters])
    | code hcode =>
      refine ⟨c.toNat, rest, readHexCode_eq_ok.mpr ⟨_, hcode, rfl⟩, ?_⟩
      rw [if_pos (not_surrogate c), Char.ofNat_toNat]
    | @pair high low ds es hcode hcode' hle hlt hle' hlt' hc =>
      refine ⟨high, bytes ('\\' :: 'u' :: es) ++ rest, readHexCode_eq_ok.mpr ⟨ds, hcode, ?_⟩, ?_⟩
      · rw [Utf8.bytes_append, List.append_assoc]
      · rw [if_neg (by omega), if_neg (by omega)]
        exact (readLowSurrogate_eq_ok hlt).mpr ⟨low, es, hcode', hle', hlt', hc, rfl⟩

theorem letterEscape?_eq_some {b : UInt8} :
    letterEscape? b = some c ↔ ∃ l, (l, c) ∈ letters ∧ b = l.toUInt8 := by
  constructor
  · intro h
    unfold letterEscape? at h
    split_ifs at h with hb hb hb hb hb hb hb hb <;> cases h <;>
      exact ⟨_, by simp [letters], hb⟩
  · rintro ⟨l, hl, rfl⟩
    simp only [letters, List.mem_cons, Prod.mk.injEq, List.not_mem_nil, or_false] at hl
    rcases hl with ⟨rfl, rfl⟩ | ⟨rfl, rfl⟩ | ⟨rfl, rfl⟩ | ⟨rfl, rfl⟩ | ⟨rfl, rfl⟩ | ⟨rfl, rfl⟩ |
      ⟨rfl, rfl⟩ | ⟨rfl, rfl⟩ <;> rfl

theorem ascii_of_letter {l : Char} (h : (l, c) ∈ letters) : l.toNat < 128 ∧ l ≠ 'u' := by
  have hletters : ∀ x ∈ letters, x.1.toNat < 128 ∧ x.1 ≠ 'u' := by decide
  exact hletters (l, c) h

theorem readEscape_eq_ok : readEscape bs = .ok (c, rest) ↔
    ∃ escape, WritesEscape c escape ∧ bs = bytes escape ++ rest := by
  constructor
  · intro h
    unfold readEscape at h
    split at h
    · cases h
    · rename_i b tail
      split_ifs at h with hb
      · obtain ⟨cs, hescape, rfl⟩ := readCodeEscape_eq_ok.mp h
        refine ⟨'u' :: cs, hescape, ?_⟩
        rw [Utf8.bytes_cons_of_lt (by decide), hb]
        rfl
      · split at h
        · rename_i d hd
          cases h
          obtain ⟨l, hl, rfl⟩ := letterEscape?_eq_some.mp hd
          refine ⟨[l], .letter hl, ?_⟩
          rw [Utf8.bytes_cons_of_lt (ascii_of_letter hl).1]
          rfl
        · cases h
  · rintro ⟨escape, hescape, rfl⟩
    have hcode : ∀ cs, WritesEscape c ('u' :: cs) →
        readEscape (bytes ('u' :: cs) ++ rest) = .ok (c, rest) := by
      intro cs h
      rw [Utf8.bytes_cons_of_lt (by decide), List.cons_append, readEscape, if_pos rfl]
      exact readCodeEscape_eq_ok.mpr ⟨cs, h, rfl⟩
    cases hescape with
    | @letter l hl =>
      obtain ⟨hascii, hne⟩ := ascii_of_letter hl
      have hu : l.toUInt8 ≠ 'u'.toUInt8 := fun h =>
        hne ((Utf8.toUInt8_inj hascii (by decide)).mp h)
      rw [Utf8.bytes_cons_of_lt hascii, List.cons_append, readEscape, if_neg hu,
        letterEscape?_eq_some.mpr ⟨l, hl, rfl⟩]
      rfl
    | code h => exact hcode _ (.code h)
    | pair h h' hle hlt hle' hlt' hc => exact hcode _ (.pair h h' hle hlt hle' hlt' hc)

/-! ## Strings -/

/-- The bytes between the quotes of a string, and those of the text that they stand for. -/
inductive Unquotes : Bytes → Bytes → Prop
  | nil : Unquotes [] []
  | raw {b : UInt8} {written text : Bytes} : b ≠ '"'.toUInt8 → b ≠ '\\'.toUInt8 → ¬b < 32 →
      Unquotes written text → Unquotes (b :: written) (b :: text)
  | escaped {c : Char} {escape : List Char} {written text : Bytes} : WritesEscape c escape →
      Unquotes written text →
      Unquotes ('\\'.toUInt8 :: (bytes escape ++ written)) (String.utf8EncodeChar c ++ text)

theorem readStringBytes_of_unquotes {written text : Bytes} (h : Unquotes written text)
    (acc rest : Bytes) :
    readStringBytes acc (written ++ '"'.toUInt8 :: rest) = .ok (acc.reverse ++ text, rest) := by
  induction h generalizing acc with
  | nil =>
    rw [List.nil_append, readStringBytes, if_pos rfl, List.append_nil]
  | raw hquote hbackslash hcontrol _ ih =>
    rw [List.cons_append, readStringBytes, if_neg hquote, if_neg hbackslash, if_neg hcontrol, ih]
    simp
  | @escaped c escape written text hescape _ ih =>
    have hread := readEscape_eq_ok.mpr ⟨escape, hescape,
      (rfl : bytes escape ++ (written ++ '"'.toUInt8 :: rest) = _)⟩
    have hquote : '\\'.toUInt8 ≠ '"'.toUInt8 := by decide
    rw [List.cons_append, List.append_assoc, readStringBytes, if_neg hquote, if_pos rfl]
    split
    · rename_i d tail hd
      rw [hread] at hd
      cases hd
      rw [ih]
      simp
    · rename_i f hf
      rw [hread] at hf
      cases hf

theorem unquotes_of_readStringBytes {acc text : Bytes}
    (h : readStringBytes acc bs = .ok (text, rest)) :
    ∃ written tail, Unquotes written tail ∧ text = acc.reverse ++ tail ∧
      bs = written ++ '"'.toUInt8 :: rest := by
  fun_induction readStringBytes acc bs with
  | case1 => cases h
  | case2 acc bs =>
    cases h
    exact ⟨[], [], .nil, (List.append_nil _).symm, rfl⟩
  | case3 acc bs c tail hread _ hquote ih =>
    obtain ⟨escape, hescape, rfl⟩ := readEscape_eq_ok.mp hread
    obtain ⟨written, text', hun, rfl, rfl⟩ := ih h
    exact ⟨_, _, .escaped hescape hun, by simp, by simp⟩
  | case4 => cases h
  | case5 => cases h
  | case6 acc b bs hquote hbackslash hcontrol ih =>
    obtain ⟨written, text', hun, rfl, rfl⟩ := ih h
    exact ⟨_, _, .raw hquote hbackslash hcontrol hun, by simp, rfl⟩

/-- A byte that stands for itself. -/
def IsRaw (b : UInt8) : Prop := b ≠ '"'.toUInt8 ∧ b ≠ '\\'.toUInt8 ∧ ¬b < 32

theorem unquotes_raw {raw written text : Bytes} (hraw : ∀ b ∈ raw, IsRaw b)
    (h : Unquotes written text) : Unquotes (raw ++ written) (raw ++ text) := by
  induction raw with
  | nil => exact h
  | cons b raw ih =>
    obtain ⟨hquote, hbackslash, hcontrol⟩ := hraw b List.mem_cons_self
    exact .raw hquote hbackslash hcontrol (ih fun d hd => hraw d (List.mem_cons_of_mem b hd))

theorem isRaw_of_le {b : UInt8} (h : 128 ≤ b.toNat) : IsRaw b := by
  have hne : ∀ d : UInt8, d.toNat < 128 → b ≠ d := by
    rintro d hd rfl
    omega
  refine ⟨hne _ (by decide), hne _ (by decide), fun hlt => ?_⟩
  have hlt' : b.toNat < 32 := hlt
  omega

/-- The bytes of a character that may stand for itself do so. -/
theorem isRaw_of_plain (hquote : c ≠ '"') (hbackslash : c ≠ '\\') (hcontrol : 0x20 ≤ c.toNat) :
    ∀ b ∈ String.utf8EncodeChar c, IsRaw b := by
  intro b hb
  by_cases hascii : c.toNat < 128
  · rw [Utf8.encodeChar_of_lt hascii, List.mem_singleton] at hb
    subst hb
    refine ⟨fun h => hquote ((Utf8.toUInt8_inj hascii (by decide)).mp h),
      fun h => hbackslash ((Utf8.toUInt8_inj hascii (by decide)).mp h), fun hlt => ?_⟩
    have hlt' : c.toUInt8.toNat < 32 := hlt
    rw [Utf8.toNat_toUInt8 hascii] at hlt'
    omega
  · obtain ⟨first, inner, hbytes, hfirst, hinner⟩ :=
      Utf8.encodeChar_of_le (Nat.le_of_not_lt hascii)
    rw [hbytes, List.mem_cons] at hb
    rcases hb with rfl | hb
    · exact isRaw_of_le (by omega)
    · exact isRaw_of_le (hinner b hb).1

theorem unquotes_of_writesText {body : List Char} (h : WritesText cs body) :
    Unquotes (bytes body) (bytes cs) := by
  induction h with
  | nil => exact .nil
  | plain hquote hbackslash hcontrol _ ih =>
    rw [Utf8.bytes_cons, Utf8.bytes_cons]
    exact unquotes_raw (isRaw_of_plain hquote hbackslash hcontrol) ih
  | escaped hescape _ ih =>
    rw [Utf8.bytes_cons_of_lt (by decide), Utf8.bytes_append, Utf8.bytes_cons]
    exact .escaped hescape ih

/-- The inner bytes of a character are not those that an escape begins with. -/
theorem unquotes_inner {inner written text : Bytes} (hinner : ∀ b ∈ inner, IsInner b)
    (h : Unquotes written (inner ++ text)) :
    ∃ rest, written = inner ++ rest ∧ Unquotes rest text := by
  induction inner generalizing written with
  | nil => exact ⟨written, rfl, h⟩
  | cons b inner ih =>
    obtain ⟨hle, hlt⟩ := hinner b List.mem_cons_self
    generalize htext : b :: inner ++ text = text' at h
    cases h with
    | nil => cases htext
    | raw _ _ _ hrest =>
      cases htext
      obtain ⟨rest, rfl, hun⟩ := ih (fun d hd => hinner d (List.mem_cons_of_mem b hd)) hrest
      exact ⟨rest, rfl, hun⟩
    | @escaped d _ _ _ hescape hrest =>
      -- an escape stands for a whole character, and no character begins with such a byte
      refine absurd htext fun he => ?_
      by_cases hascii : d.toNat < 128
      · rw [Utf8.encodeChar_of_lt hascii] at he
        have hfirst : b = d.toUInt8 := (List.cons.inj he).1
        rw [hfirst, Utf8.toNat_toUInt8 hascii] at hle
        omega
      · obtain ⟨first, more, hbytes, hfirst, -⟩ := Utf8.encodeChar_of_le (Nat.le_of_not_lt hascii)
        rw [hbytes] at he
        have hsame : b = first := (List.cons.inj he).1
        rw [hsame] at hlt
        omega

theorem writesText_of_unquotes {written : Bytes} (h : Unquotes written (bytes cs)) :
    ∃ body, WritesText cs body ∧ written = bytes body := by
  -- on the characters, since a step of the derivation may be one byte of several
  induction cs generalizing written with
  | nil =>
    generalize htext : bytes [] = text at h
    cases h with
    | nil => exact ⟨[], .nil, rfl⟩
    | raw => cases htext
    | @escaped d => exact absurd (List.append_eq_nil_iff.mp htext.symm).1 (Utf8.encodeChar_ne_nil d)
  | cons c cs ih =>
    generalize htext : bytes (c :: cs) = text at h
    cases h with
    | nil => exact absurd (List.append_eq_nil_iff.mp htext).1 (Utf8.encodeChar_ne_nil c)
    | @raw b written' text' hquote hbackslash hcontrol hrest =>
      by_cases hascii : c.toNat < 128
      · rw [Utf8.bytes_cons_of_lt hascii] at htext
        obtain ⟨rfl, rfl⟩ := List.cons.inj htext
        obtain ⟨body, hbody, rfl⟩ := ih hrest
        refine ⟨c :: body, .plain ?_ ?_ ?_ hbody, (Utf8.bytes_cons_of_lt hascii body).symm⟩
        · rintro rfl
          exact hquote rfl
        · rintro rfl
          exact hbackslash rfl
        · have hle : ¬c.toUInt8.toNat < 32 := hcontrol
          rw [Utf8.toNat_toUInt8 hascii] at hle
          omega
      · have hle := Nat.le_of_not_lt hascii
        obtain ⟨first, inner, hbytes, -, hinner⟩ := Utf8.encodeChar_of_le hle
        rw [Utf8.bytes_cons, hbytes] at htext
        obtain ⟨rfl, rfl⟩ := List.cons.inj htext
        obtain ⟨rest, rfl, hun⟩ := unquotes_inner hinner hrest
        obtain ⟨body, hbody, rfl⟩ := ih hun
        have hne : ∀ d : Char, d.toNat < 128 → c ≠ d := by
          rintro d hd rfl
          omega
        refine ⟨c :: body, .plain (hne _ (by decide)) (hne _ (by decide)) (by omega) hbody, ?_⟩
        rw [Utf8.bytes_cons, hbytes]
        rfl
    | escaped hescape hrest =>
      rw [Utf8.bytes_cons] at htext
      obtain ⟨rfl, rfl⟩ := Utf8.encodeChar_append_inj htext
      obtain ⟨body, hbody, rfl⟩ := ih hrest
      refine ⟨_, .escaped hescape hbody, ?_⟩
      rw [Utf8.bytes_cons_of_lt (by decide), Utf8.bytes_append]

theorem readStringRest_eq_ok : readStringRest bs = .ok (s, rest) ↔
    ∃ body, WritesText s.toList body ∧ bs = bytes body ++ '"'.toUInt8 :: rest := by
  simp only [readStringRest, bind_eq_ok, Prod.exists]
  constructor
  · rintro ⟨text, tail, hread, h⟩
    obtain ⟨written, text', hun, rfl, rfl⟩ := unquotes_of_readStringBytes hread
    split at h
    · rename_i t ht
      cases h
      rw [Utf8.decode?_eq_some, Utf8.encode_eq_bytes] at ht
      obtain ⟨body, hbody, rfl⟩ := writesText_of_unquotes (ht ▸ hun)
      exact ⟨body, hbody, rfl⟩
    · cases h
  · rintro ⟨body, hbody, rfl⟩
    refine ⟨bytes s.toList, rest, readStringBytes_of_unquotes (unquotes_of_writesText hbody) [] rest,
      ?_⟩
    have hdecode : Utf8.decode? (bytes s.toList) = some s := by
      rw [Utf8.decode?_eq_some, Utf8.encode_eq_bytes]
    rw [hdecode]

/-- The string with its opening quote. -/
theorem readStringRest_of_quoted {name : List Char} (h : WritesString s name) (rest : Bytes) :
    ∃ tail, bytes name ++ rest = '"'.toUInt8 :: tail ∧ readStringRest tail = .ok (s, rest) := by
  obtain @⟨body, hbody⟩ := h
  refine ⟨bytes body ++ '"'.toUInt8 :: rest, ?_, readStringRest_eq_ok.mpr ⟨body, hbody, rfl⟩⟩
  rw [Utf8.bytes_cons_of_lt (by decide), Utf8.bytes_append, Utf8.bytes_cons_of_lt (by decide)]
  simp

theorem quoted_of_readStringRest (h : readStringRest bs = .ok (s, rest)) :
    ∃ name, WritesString s name ∧ '"'.toUInt8 :: bs = bytes name ++ rest := by
  obtain ⟨body, hbody, rfl⟩ := readStringRest_eq_ok.mp h
  refine ⟨_, .quoted hbody, ?_⟩
  rw [Utf8.bytes_cons_of_lt (by decide), Utf8.bytes_append, Utf8.bytes_cons_of_lt (by decide)]
  simp

end AlertService.Json
