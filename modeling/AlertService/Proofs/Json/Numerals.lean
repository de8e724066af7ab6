import AlertService.Json.Reader
import AlertService.Proofs.Json.Strings
import AlertService.Proofs.Text.Digits
import Mathlib.Tactic.SplitIfs

/-!
# Whole numbers

A number is read as a whole number if and only if it is written without a fraction and an exponent
and fits 64 bits; what comes after it must not go on with a number.

* `readNumber_whole`, `whole_of_readNumber`: the text of a number after its sign.
* `Reader.number_whole`, `Reader.whole_of_number`: the number with its sign, and what is checked of it.
-/

namespace AlertService.Json

open Utf8 (bytes)
open Text (isDigitByte digitOfByte valueOf)

variable {bs rest : Bytes} {ds : List Nat} {s t : Nat} {negative : Bool} {n : Number}

/-- What comes next does not go on with a number. -/
def Ends (rest : Bytes) : Prop := ∀ b ∈ rest.head?,
  isDigitByte b = false ∧ b ≠ '.'.toUInt8 ∧ isExponentLetter b = false

/-! ## The digits -/

theorem le_foldl_digits (s : Nat) (ds : List Nat) :
    s ≤ ds.foldl (fun n d => n * 10 + d) s := by
  induction ds generalizing s with
  | nil => exact Nat.le_refl s
  | cons d ds ih =>
    have hstep : s ≤ s * 10 + d := by omega
    exact Nat.le_trans hstep (ih (s * 10 + d))

/-- All digits fit if and only if the number does. -/
theorem capture_eq_zero (hs : s < UInt64.size) : capture s ds = (t, 0) ↔
    ds.foldl (fun n d => n * 10 + d) s = t ∧ t < UInt64.size := by
  induction ds generalizing s with
  | nil =>
    simp only [capture, List.foldl_nil, Prod.mk.injEq, and_true]
    constructor
    · intro h
      exact ⟨h, h ▸ hs⟩
    · exact And.left
  | cons d ds ih =>
    rw [capture, List.foldl_cons]
    split_ifs with hd
    · exact ih hd
    · have hle := le_foldl_digits (s * 10 + d) ds
      simp only [Prod.mk.injEq, Nat.add_eq_zero_iff, Nat.one_ne_zero, and_false, false_iff]
      rintro ⟨rfl, hlt⟩
      omega

theorem digitRun_append {whole : List Char} (h : Numeral.IsDigits whole) (hends : Ends rest) :
    digitRun (bytes whole ++ rest) = whole.map valueOf ∧
      afterDigits (bytes whole ++ rest) = rest := by
  have hascii : ∀ c ∈ whole, c.toNat < 128 := fun c hc => Text.ascii_of_isDigit (h c hc)
  have hdigit : ∀ b ∈ bytes whole, isDigitByte b = true := by
    intro b hb
    rw [Utf8.bytes_of_lt hascii, List.mem_map] at hb
    obtain ⟨c, hc, rfl⟩ := hb
    rw [Text.isDigitByte_toUInt8 (hascii c hc)]
    exact h c hc
  have hrest : rest.takeWhile isDigitByte = [] ∧ rest.dropWhile isDigitByte = rest := by
    cases rest with
    | nil => exact ⟨rfl, rfl⟩
    | cons b rest =>
      have hb : isDigitByte b = false := (hends b rfl).1
      simp [hb]
  rw [digitRun, afterDigits, List.takeWhile_append_of_pos hdigit,
    List.dropWhile_append_of_pos hdigit, hrest.1, hrest.2]
  refine ⟨?_, rfl⟩
  rw [List.append_nil, Utf8.bytes_of_lt hascii, List.map_map]
  exact List.map_congr_left fun c hc => Text.digitOfByte_toUInt8 (hascii c hc)

theorem exists_digits (bs : Bytes) : ∃ whole, Numeral.IsDigits whole ∧
    whole.map valueOf = digitRun bs ∧ bs = bytes whole ++ afterDigits bs := by
  have hdigit : ∀ b ∈ bs.takeWhile isDigitByte, isDigitByte b = true :=
    List.all_eq_true.mp List.all_takeWhile
  have hwhole : ∀ run : Bytes, (∀ b ∈ run, isDigitByte b = true) →
      ∃ whole, Numeral.IsDigits whole ∧ whole.map valueOf = run.map digitOfByte ∧
        bytes whole = run := by
    intro run hrun
    induction run with
    | nil => exact ⟨[], fun _ h => absurd h List.not_mem_nil, rfl, rfl⟩
    | cons b run ih =>
      obtain ⟨whole, hdigits, hvalues, hbytes⟩ := ih fun d hd => hrun d (List.mem_cons_of_mem b hd)
      have hb := Text.isDigit_ofNat (hrun b List.mem_cons_self)
      have hascii := Text.ascii_of_isDigit hb
      refine ⟨Char.ofNat b.toNat :: whole, List.forall_mem_cons.mpr ⟨hb, hdigits⟩, ?_, ?_⟩
      · have hvalue := Text.digitOfByte_toUInt8 hascii
        rw [Utf8.toUInt8_ofNat] at hvalue
        rw [List.map_cons, List.map_cons, hvalues, hvalue]
      · rw [Utf8.bytes_ofNat_cons hascii, hbytes]
  obtain ⟨whole, hdigits, hvalues, hbytes⟩ := hwhole _ hdigit
  refine ⟨whole, hdigits, hvalues, ?_⟩
  rw [hbytes]
  exact List.takeWhile_append_dropWhile.symm

/-! ## After the sign -/

theorem realNumber_ne {e : Int} (h : realNumber negative s e bs = .ok (n, rest)) :
    ∃ x, n = .real negative x := by
  unfold realNumber at h
  split at h
  · cases h
    exact ⟨_, rfl⟩
  · cases h

theorem readExponent_ne {e : Int} (h : readExponent negative s e bs = .ok (n, rest)) :
    ∃ x, n = .real negative x := by
  unfold readExponent at h
  dsimp only at h
  split at h
  · cases h
  · split at h
    · split at h
      · exact realNumber_ne h
      · rw [ite_error_eq_ok] at h
        cases h.2
        exact ⟨_, rfl⟩
    · cases h

theorem readScaled_ne {e : Int} (h : readScaled negative s e bs = .ok (n, rest)) :
    ∃ x, n = .real negative x := by
  unfold readScaled at h
  split at h
  · split at h
    · exact readExponent_ne h
    · exact realNumber_ne h
  · exact realNumber_ne h

theorem readFraction_ne {extra : Nat} (h : readFraction negative s extra bs = .ok (n, rest)) :
    ∃ x, n = .real negative x := by
  unfold readFraction at h
  dsimp only at h
  split at h
  · split at h <;> cases h
  · exact readScaled_ne h

theorem readAfterWhole_of_ends (hvalue : Text.ofDigits ds = t) (hlt : t < UInt64.size)
    (hends : Ends rest) :
    readAfterWhole negative ds rest = .ok (wholeNumber negative t, rest) := by
  have hcapture : capture 0 ds = (t, 0) := (capture_eq_zero (by decide)).mpr ⟨hvalue, hlt⟩
  unfold readAfterWhole
  rw [hcapture]
  dsimp only
  cases rest with
  | nil => rfl
  | cons b rest =>
    obtain ⟨-, hpoint, hletter⟩ := hends b rfl
    split
    · rename_i hcons
      exact absurd (List.cons.inj hcons).1 hpoint
    · rename_i hcons
      obtain ⟨rfl, -⟩ := List.cons.inj hcons
      rw [if_neg (by simp [hletter]), if_pos rfl]
    · rename_i hcons
      cases hcons

theorem whole_of_readAfterWhole (h : readAfterWhole negative ds bs = .ok (n, rest))
    (hreal : ∀ x, n ≠ .real negative x) : ∃ t, Text.ofDigits ds = t ∧ t < UInt64.size ∧
      n = wholeNumber negative t ∧ bs = rest := by
  have hwhole : ∀ t extra, capture 0 ds = (t, extra) → extra = 0 →
      Text.ofDigits ds = t ∧ t < UInt64.size := by
    rintro t _ hcapture rfl
    exact (capture_eq_zero (by decide)).mp hcapture
  unfold readAfterWhole at h
  generalize hcapture : capture 0 ds = captured at h
  obtain ⟨t, extra⟩ := captured
  dsimp only at h
  split at h
  · obtain ⟨x, hx⟩ := readFraction_ne h
    exact absurd hx (hreal x)
  · split_ifs at h with hletter hextra
    · obtain ⟨x, hx⟩ := readExponent_ne h
      exact absurd hx (hreal x)
    · obtain ⟨hvalue, hlt⟩ := hwhole t extra hcapture hextra
      cases h
      exact ⟨t, hvalue, hlt, rfl, rfl⟩
    · obtain ⟨x, hx⟩ := realNumber_ne h
      exact absurd hx (hreal x)
  · split_ifs at h with hextra
    · obtain ⟨hvalue, hlt⟩ := hwhole t extra hcapture hextra
      cases h
      exact ⟨t, hvalue, hlt, rfl, rfl⟩
    · obtain ⟨x, hx⟩ := realNumber_ne h
      exact absurd hx (hreal x)

namespace Numeral

/-- The numeral has digits before the point only, and they write the number. -/
structure IsWhole (l : Numeral) (t : Nat) : Prop where
  well : l.IsWellFormed
  fraction : l.fraction = []
  exponent : l.exponent = []
  value : Text.natural? l.whole = some t

variable {l : Numeral}

theorem IsWhole.chars_eq (h : l.IsWhole t) :
    l.chars = (if l.negative then ['-'] else []) ++ l.whole := by
  rw [chars, h.fraction, h.exponent, if_pos rfl, List.append_nil, List.append_nil]

theorem IsWhole.ofDigits_eq (h : l.IsWhole t) : Text.ofDigits (l.whole.map valueOf) = t := by
  obtain ⟨-, -, hvalue⟩ := Text.natural?_eq_some.mp h.value
  exact hvalue.symm

theorem IsInteger.unique {i i' : Int} (h : l.IsInteger i) (h' : l.IsInteger i') : i = i' := by
  obtain ⟨n, hn, hi⟩ := h.value
  obtain ⟨n', hn', hi'⟩ := h'.value
  obtain rfl := Option.some.inj (hn.symm.trans hn')
  rcases hi with ⟨hneg, rfl⟩ | ⟨hneg, -, rfl⟩ <;> rcases hi' with ⟨hneg', rfl⟩ | ⟨hneg', -, rfl⟩
  · rfl
  · exact absurd (hneg.symm.trans hneg') (by decide)
  · exact absurd (hneg.symm.trans hneg') (by decide)
  · rfl

end Numeral

theorem readNumber_whole {l : Numeral} (h : l.IsWhole t) (hlt : t < UInt64.size)
    (hends : Ends rest) :
    readNumber negative (bytes l.whole ++ rest) = .ok (wholeNumber negative t, rest) := by
  obtain ⟨⟨hdigits, hsome, hleading, -, -⟩, -, -, -⟩ := id h
  have hvalue := h.ofDigits_eq
  obtain ⟨c, whole, hwhole⟩ := List.exists_cons_of_ne_nil hsome
  rw [hwhole] at hdigits hleading hvalue ⊢
  obtain ⟨hc, hdigits'⟩ := List.forall_mem_cons.mp hdigits
  have hascii := Text.ascii_of_isDigit hc
  have hbyte : isDigitByte c.toUInt8 = true := by rwa [Text.isDigitByte_toUInt8 hascii]
  rw [Utf8.bytes_cons_of_lt hascii, List.cons_append, readNumber]
  split_ifs with hzero hmore
  · have hchar : c = '0' := (Utf8.toUInt8_inj hascii (by decide)).mp hzero
    have hnil : whole = [] := (List.cons.inj (hleading (by rw [hchar]; rfl))).2
    rw [hnil] at hmore
    obtain ⟨b, hb, hdigit⟩ := (Option.any_eq_true _ _).mp hmore
    exact absurd hdigit (Bool.eq_false_iff.mp (hends b hb).1)
  · have hchar : c = '0' := (Utf8.toUInt8_inj hascii (by decide)).mp hzero
    have hnil : whole = [] := (List.cons.inj (hleading (by rw [hchar]; rfl))).2
    rw [hnil, hchar] at hvalue
    rw [hnil]
    exact readAfterWhole_of_ends hvalue hlt hends
  · have hrun := digitRun_append hdigits hends
    rw [Utf8.bytes_cons_of_lt hascii, List.cons_append] at hrun
    obtain ⟨hrun, hafter⟩ := hrun
    rw [afterDigits, List.dropWhile_cons_of_pos hbyte] at hafter
    rw [hrun, afterDigits, hafter]
    exact readAfterWhole_of_ends hvalue hlt hends

theorem whole_of_readNumber (h : readNumber negative bs = .ok (n, rest))
    (hreal : ∀ x, n ≠ .real negative x) : ∃ (l : Numeral) (t : Nat), l.negative = negative ∧
      l.IsWhole t ∧ t < UInt64.size ∧ n = wholeNumber negative t ∧
        bs = bytes l.whole ++ rest := by
  have hnone : Numeral.IsDigits [] := fun _ h => absurd h List.not_mem_nil
  unfold readNumber at h
  split at h
  · cases h
  · rename_i b r
    split_ifs at h with hzero hmore hdigit
    · obtain ⟨t, hvalue, hlt, rfl, rfl⟩ := whole_of_readAfterWhole h hreal
      obtain rfl : 0 = t := hvalue
      have hdigits : Numeral.IsDigits ['0'] := List.forall_mem_singleton.mpr rfl
      have hzeros : Text.natural? ['0'] = some 0 := by decide
      exact ⟨⟨negative, ['0'], [], []⟩, 0, rfl,
        ⟨⟨hdigits, List.cons_ne_nil _ _, fun _ => rfl, hnone, .none⟩, rfl, rfl, hzeros⟩, hlt,
        rfl, hzero ▸ rfl⟩
    · obtain ⟨t, hvalue, hlt, rfl, htail⟩ := whole_of_readAfterWhole h hreal
      obtain ⟨whole, hdigits, hvalues, hbytes⟩ := exists_digits (b :: r)
      have hafter : afterDigits (b :: r) = rest := by
        rw [← htail, afterDigits, List.dropWhile_cons_of_pos hdigit]
        rfl
      rw [hafter] at hbytes
      rw [← hvalues] at hvalue
      have hsome : whole ≠ [] := by
        rintro rfl
        rw [digitRun, List.takeWhile_cons_of_pos hdigit] at hvalues
        cases hvalues
      obtain ⟨c, more, hwhole⟩ := List.exists_cons_of_ne_nil hsome
      have hfirst : b = c.toUInt8 := by
        have hascii := Text.ascii_of_isDigit (hdigits c (hwhole ▸ List.mem_cons_self))
        rw [hwhole, Utf8.bytes_cons_of_lt hascii] at hbytes
        exact (List.cons.inj hbytes).1
      have hleading : whole.head? = some '0' → whole = ['0'] := by
        intro hhead
        rw [hwhole] at hhead
        rw [hfirst, Option.some.inj hhead] at hzero
        exact absurd rfl hzero
      exact ⟨⟨negative, whole, [], []⟩, t, rfl,
        ⟨⟨hdigits, hsome, hleading, hnone, .none⟩, rfl, rfl,
          Text.natural?_eq_some.mpr ⟨hsome, hdigits, hvalue.symm⟩⟩, hlt, rfl, hbytes⟩

/-! ## With a sign -/

namespace Reader

variable {α : Type} {check : Number → Except Cause α} {expected : String} {x : α}

theorem number_whole {l : Numeral} (h : l.IsWhole t) (hlt : t < UInt64.size)
    (hcheck : check (wholeNumber l.negative t) = .ok x) (hends : Ends rest) :
    number check expected (bytes l.chars ++ rest) = .ok (x, rest) := by
  have hread : ∀ negative, readNumber negative (bytes l.whole ++ rest) =
      .ok (wholeNumber negative t, rest) := fun _ => readNumber_whole h hlt hends
  obtain ⟨⟨hdigits, hsome, -, -, -⟩, -, -, -⟩ := id h
  rw [h.chars_eq]
  cases hneg : l.negative with
  | true =>
    rw [hneg] at hcheck
    have hdash : skipSpaces (bytes ('-' :: l.whole) ++ rest) =
        '-'.toUInt8 :: (bytes l.whole ++ rest) := by
      rw [Utf8.bytes_cons_of_lt (by decide)]
      exact skipSpaces_of_not_space (by decide) _
    simp only [number, if_true, List.singleton_append, hdash, true_or, hread, bind, Except.bind,
      hcheck]
  | false =>
    rw [hneg] at hcheck
    obtain ⟨c, whole, hwhole⟩ := List.exists_cons_of_ne_nil hsome
    have hc : Text.isDigit c = true := hdigits c (hwhole ▸ List.mem_cons_self)
    have hascii := Text.ascii_of_isDigit hc
    have hbyte : isDigitByte c.toUInt8 = true := by rwa [Text.isDigitByte_toUInt8 hascii]
    have hbytes : bytes l.whole ++ rest = c.toUInt8 :: (bytes whole ++ rest) := by
      rw [hwhole, Utf8.bytes_cons_of_lt hascii]
      rfl
    have hrange := Text.isDigit_iff.mp hc
    have hdash : c.toUInt8 ≠ '-'.toUInt8 := by
      intro hcd
      rw [(Utf8.toUInt8_inj hascii (by decide)).mp hcd] at hrange
      exact absurd hrange.1 (by decide)
    have hskip : skipSpaces (bytes l.whole ++ rest) = c.toUInt8 :: (bytes whole ++ rest) := by
      rw [hbytes]
      exact skipSpaces_of_not_space (not_space_of_lt hascii (by omega)) _
    rw [hbytes] at hread
    simp only [number, Bool.false_eq_true, if_false, List.nil_append, hskip, hbyte, or_true,
      if_true, hdash, hread, bind, Except.bind, hcheck]

theorem whole_of_number (hreal : ∀ negative v, check (.real negative v) ≠ .ok x)
    (h : number check expected bs = .ok (x, rest)) : ∃ (gap : List Char) (l : Numeral) (t : Nat),
      IsGap gap ∧ l.IsWhole t ∧ t < UInt64.size ∧ check (wholeNumber l.negative t) = .ok x ∧
        bs = bytes (gap ++ l.chars) ++ rest := by
  obtain ⟨gap, hgap, hbs⟩ := exists_gap bs
  unfold number at h
  split at h
  · cases h
  · rename_i b r hskip
    rw [hskip] at hbs
    split_ifs at h with hfirst hdash
    · simp only [bind_eq_ok, Prod.exists] at h
      obtain ⟨n, tail, hread, h⟩ := h
      split at h
      · rename_i y hcheck
        cases h
        have hne : ∀ v, n ≠ .real true v := by
          rintro v rfl
          exact hreal true v hcheck
        obtain ⟨l, t, hneg, hwhole, hlt, rfl, rfl⟩ := whole_of_readNumber hread hne
        refine ⟨gap, l, t, hgap, hwhole, hlt, hneg ▸ hcheck, ?_⟩
        rw [hwhole.chars_eq, hneg, if_pos rfl, hbs, hdash, Utf8.bytes_append,
          List.singleton_append, Utf8.bytes_cons_of_lt (by decide), List.append_assoc]
        rfl
      · cases h
    · simp only [bind_eq_ok, Prod.exists] at h
      obtain ⟨n, tail, hread, h⟩ := h
      split at h
      · rename_i y hcheck
        cases h
        have hne : ∀ v, n ≠ .real false v := by
          rintro v rfl
          exact hreal false v hcheck
        obtain ⟨l, t, hneg, hwhole, hlt, rfl, hbytes⟩ := whole_of_readNumber hread hne
        refine ⟨gap, l, t, hgap, hwhole, hlt, hneg ▸ hcheck, ?_⟩
        rw [hwhole.chars_eq, hneg, if_neg (by decide), hbs, hbytes, Utf8.bytes_append,
          List.nil_append, List.append_assoc]
      · cases h

end Reader

end AlertService.Json
