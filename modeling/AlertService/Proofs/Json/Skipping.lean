import AlertService.Proofs.Json.Objects

/-!
# Values that are passed over

What comes after a value that nobody reads is found again.

* `isSkipped_string`, `isSkipped_integer`: strings and integers are passed over.
-/

namespace AlertService.Json

open Utf8 (bytes)

variable {bs rest : Bytes} {c : Char} {cs : List Char}

/-! ## Strings -/

theorem skipEscape_code {n : Nat} {ds : List Char} (h : WritesCode n ds) (rest : Bytes) :
    skipEscape (bytes ('u' :: ds) ++ rest) = .ok rest := by
  have hread := readHexCode_eq_ok.mpr ⟨ds, h, (rfl : bytes ds ++ rest = _)⟩
  rw [Utf8.bytes_cons_of_lt (by decide), List.cons_append, skipEscape, if_pos rfl]
  exact map_eq_ok.mpr ⟨(n, rest), hread, rfl⟩

theorem skipEscape_letter {l : Char} (h : (l, c) ∈ letters) (rest : Bytes) :
    skipEscape (bytes [l] ++ rest) = .ok rest := by
  obtain ⟨hascii, hne⟩ := ascii_of_letter h
  have hu : l.toUInt8 ≠ 'u'.toUInt8 := fun he => hne ((Utf8.toUInt8_inj hascii (by decide)).mp he)
  have hletter := letterEscape?_eq_some.mpr ⟨l, h, rfl⟩
  rw [Utf8.bytes_cons_of_lt hascii, List.cons_append, skipEscape, if_neg hu, hletter]
  rfl

theorem skipString_escape (h : skipEscape bs = .ok rest) :
    skipString ('\\'.toUInt8 :: bs) = skipString rest := by
  rw [skipString, if_neg (by decide), if_pos rfl]
  split
  · rename_i tail htail
    rw [h] at htail
    rw [Except.ok.inj htail]
  · rename_i f hf
    rw [h] at hf
    cases hf

theorem skipString_of_unquotes {written text : Bytes} (h : Unquotes written text) (rest : Bytes) :
    skipString (written ++ '"'.toUInt8 :: rest) = .ok rest := by
  induction h with
  | nil => rw [List.nil_append, skipString, if_pos rfl]
  | raw hquote hbackslash hcontrol _ ih =>
    rw [List.cons_append, skipString, if_neg hquote, if_neg hbackslash, if_neg hcontrol, ih]
  | @escaped c escape written text hescape _ ih =>
    rw [List.cons_append, List.append_assoc]
    cases hescape with
    | letter hletter => rw [skipString_escape (skipEscape_letter hletter _), ih]
    | code hcode => rw [skipString_escape (skipEscape_code hcode _), ih]
    | @pair high low ds es hcode hcode' =>
      -- The two halves of the pair are passed over one after the other.
      have hbytes : bytes ('u' :: (ds ++ '\\' :: 'u' :: es)) ++ (written ++ '"'.toUInt8 :: rest) =
          bytes ('u' :: ds) ++ ('\\'.toUInt8 :: (bytes ('u' :: es) ++
            (written ++ '"'.toUInt8 :: rest))) := by
        rw [← List.cons_append, Utf8.bytes_append, Utf8.bytes_cons_of_lt (c := '\\') (by decide),
          List.append_assoc, List.cons_append]
      rw [hbytes, skipString_escape (skipEscape_code hcode _),
        skipString_escape (skipEscape_code hcode' _), ih]

/-! ## Numbers -/

theorem skipAfterWhole_of_ends (h : Ends rest) : skipAfterWhole rest = .ok rest := by
  cases rest with
  | nil => rfl
  | cons b rest =>
    obtain ⟨-, hpoint, hletter⟩ := h b rfl
    rw [skipAfterWhole, if_neg hpoint, skipExponentIfAny, if_neg (by simp [hletter])]

theorem startsWithDigit_of_ends (h : Ends rest) : startsWithDigit rest = false := by
  cases rest with
  | nil => rfl
  | cons b rest => exact (h b rfl).1

theorem skipNumber_whole {l : Numeral} {t : Nat} (h : l.IsWhole t) (hends : Ends rest) :
    skipNumber (bytes l.whole ++ rest) = .ok rest := by
  obtain ⟨⟨hdigits, hsome, hleading, -, -⟩, -, -, -⟩ := h
  obtain ⟨c, whole, hwhole⟩ := List.exists_cons_of_ne_nil hsome
  rw [hwhole] at hdigits hleading ⊢
  obtain ⟨hc, hdigits'⟩ := List.forall_mem_cons.mp hdigits
  have hascii := Text.ascii_of_isDigit hc
  have hbyte : Text.isDigitByte c.toUInt8 = true := by rwa [Text.isDigitByte_toUInt8 hascii]
  rw [Utf8.bytes_cons_of_lt hascii, List.cons_append, skipNumber]
  by_cases hzero : c.toUInt8 = '0'.toUInt8
  · have hchar : c = '0' := (Utf8.toUInt8_inj hascii (by decide)).mp hzero
    have hnil : whole = [] := (List.cons.inj (hleading (by rw [hchar]; rfl))).2
    rw [if_pos hzero, hnil, Utf8.bytes_nil, List.nil_append, startsWithDigit_of_ends hends]
    exact skipAfterWhole_of_ends hends
  · rw [if_neg hzero, if_pos hbyte, (digitRun_append hdigits' hends).2]
    exact skipAfterWhole_of_ends hends

/-! ## Values -/

/-- A value that is skipped up to its end, whatever it begins with. -/
theorem isSkipped_of_scalar {t : Tree} (hbracket : ∀ c, t.Begins c → Bracket.opening? c.toUInt8 = none)
    (h : ∀ ⦃c cs rest⦄, Writes t (c :: cs) → Ends rest →
      skipScalar c.toUInt8 (bytes cs ++ rest) = .ok rest) : t.IsSkipped := by
  intro gap cs rest rounds hgap hwrites hends
  obtain ⟨c, more, hbegins, rfl, -, hskip⟩ := hwrites.skipSpaces_eq hgap rest
  have hstep : skipStep [] (bytes (gap ++ c :: more) ++ rest) = .ok ([], rest) := by
    unfold skipStep
    rw [hskip]
    dsimp only
    rw [hbracket c hbegins]
    exact bind_eq_ok.mpr ⟨rest, h hwrites hends, rfl⟩
  rw [skipRounds, hstep]

theorem isSkipped_string (s : String) : (Tree.string s).IsSkipped := by
  refine isSkipped_of_scalar (fun c hc => hc ▸ by decide) fun c cs rest hwrites _ => ?_
  cases hwrites with
  | string hstring =>
    obtain @⟨body, hbody⟩ := hstring
    have hskip := skipString_of_unquotes (unquotes_of_writesText hbody) rest
    rw [Utf8.bytes_append, Utf8.bytes_cons_of_lt (by decide), List.append_assoc]
    exact hskip

theorem isSkipped_integer {l : Numeral} {i : Int} (hl : l.IsInteger i) :
    (Tree.number l).IsSkipped := by
  obtain ⟨hfraction, hexponent, t, ht, -⟩ := hl
  have hdigit : ∀ c d : Char, Text.isDigit c = true → d.toNat < 128 → Text.isDigit d = false →
      c.toUInt8 ≠ d.toUInt8 := by
    intro c d hc hd hother he
    rw [(Utf8.toUInt8_inj (Text.ascii_of_isDigit hc) hd).mp he, hother] at hc
    exact nomatch hc
  refine isSkipped_of_scalar (fun c hc => ?_) fun c cs rest hwrites hends => ?_
  · rcases hc with rfl | hc
    · rfl
    · rw [Bracket.opening?, if_neg (hdigit c _ hc (by decide) (by decide)),
        if_neg (hdigit c _ hc (by decide) (by decide))]
  · generalize hchars : c :: cs = chars at hwrites
    cases hwrites with
    | number hwell =>
      have hwhole : l.IsWhole t := ⟨hwell, hfraction, hexponent, ht⟩
      have hskip := skipNumber_whole hwhole hends
      rw [hwhole.chars_eq] at hchars
      cases hneg : l.negative with
      | true =>
        rw [hneg] at hchars
        obtain ⟨rfl, rfl⟩ := List.cons.inj hchars
        exact hskip
      | false =>
        rw [hneg] at hchars
        have hwhole' : c :: cs = l.whole := hchars
        have hc : Text.isDigit c = true := hwell.whole c (hwhole' ▸ List.mem_cons_self)
        have hascii := Text.ascii_of_isDigit hc
        rw [← hwhole', Utf8.bytes_cons_of_lt hascii, List.cons_append] at hskip
        rw [skipScalar, if_neg (hdigit c _ hc (by decide) (by decide)),
          if_neg (hdigit c _ hc (by decide) (by decide)),
          if_neg (hdigit c _ hc (by decide) (by decide)),
          if_neg (hdigit c _ hc (by decide) (by decide)),
          if_pos (by rwa [Text.isDigitByte_toUInt8 hascii])]
        exact hskip

end AlertService.Json
