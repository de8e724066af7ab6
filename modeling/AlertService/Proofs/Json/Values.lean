import AlertService.Json.Record
import AlertService.Proofs.Except
import AlertService.Proofs.Json.Numerals
import AlertService.Proofs.Uuid.Spelling

/-!
# What readers of values take

A reader of values comes with the meaning of the trees that it is for. It should take every text of
a tree with a meaning and give that, and it should take no other texts.

* `Reader.Takes`, `Reader.Only`: the two halves.
* For every reader: what it is for, and that it keeps to it.
-/

namespace AlertService.Json

open Utf8 (bytes)

namespace Reader

variable {α : Type}

/-- Every text of a tree that means a value is read as that value. -/
def Takes (read : Reader α) (means : Tree → α → Prop) : Prop :=
  ∀ ⦃gap cs : List Char⦄ ⦃t : Tree⦄ ⦃x : α⦄ ⦃rest : Bytes⦄, IsGap gap → Writes t cs → means t x →
    Ends rest → read (bytes (gap ++ cs) ++ rest) = .ok (x, rest)

/-- What is read as a value is the text of a tree that means it. -/
def Only (read : Reader α) (means : Tree → α → Prop) : Prop :=
  ∀ ⦃bs rest : Bytes⦄ ⦃x : α⦄, read bs = .ok (x, rest) → ∃ gap cs t,
    IsGap gap ∧ Writes t cs ∧ means t x ∧ bs = bytes (gap ++ cs) ++ rest

end Reader

/-! ## The first character -/

variable {gap cs : List Char} {t : Tree} {bs rest : Bytes}

theorem Tree.Begins.spec {c : Char} (h : t.Begins c) : c.toNat < 128 ∧ 32 < c.toNat ∧ c ≠ ']' := by
  have hdigit : Text.isDigit c = true → c.toNat < 128 ∧ 32 < c.toNat ∧ c ≠ ']' := by
    intro hc
    have hrange := Text.isDigit_iff.mp hc
    refine ⟨by omega, by omega, ?_⟩
    rintro rfl
    exact absurd hrange.2 (by decide)
  cases t with
  | null => exact h ▸ by decide
  | flag b => cases b <;> exact h ▸ by decide
  | number l =>
    rcases h with rfl | h
    · decide
    · exact hdigit h
  | string s => exact h ▸ by decide
  | list ts => exact h ▸ by decide
  | object ms => exact h ▸ by decide

theorem Tree.Begins.eq_null (h : t.Begins 'n') : t = .null := by
  cases t with
  | null => rfl
  | flag b => cases b <;> exact absurd (Eq.symm h) (by decide)
  | number l =>
    rcases h with h | h
    · exact absurd h (by decide)
    · exact absurd h (by decide)
  | string s => exact absurd (Eq.symm h) (by decide)
  | list ts => exact absurd (Eq.symm h) (by decide)
  | object ms => exact absurd (Eq.symm h) (by decide)

/-- What a reader finds after the blanks. -/
theorem Writes.skipSpaces_eq (h : Writes t cs) (hgap : IsGap gap) (rest : Bytes) :
    ∃ c more, t.Begins c ∧ cs = c :: more ∧ bytes cs ++ rest = c.toUInt8 :: (bytes more ++ rest) ∧
      skipSpaces (bytes (gap ++ cs) ++ rest) = c.toUInt8 :: (bytes more ++ rest) := by
  obtain ⟨c, more, rfl, hbegins⟩ := h.begins
  obtain ⟨hascii, hlt, -⟩ := hbegins.spec
  have hbytes : bytes (c :: more) ++ rest = c.toUInt8 :: (bytes more ++ rest) := by
    rw [Utf8.bytes_cons_of_lt hascii, List.cons_append]
  refine ⟨c, more, hbegins, rfl, hbytes, ?_⟩
  rw [Utf8.bytes_append, List.append_assoc, skipSpaces_gap hgap, hbytes]
  exact skipSpaces_of_not_space (not_space_of_lt hascii hlt) _

/-- Blanks in front of a text that begins with some. -/
theorem IsGap.append {gap' : List Char} (h : IsGap gap) (h' : IsGap gap') : IsGap (gap ++ gap') :=
  List.forall_mem_append.mpr ⟨h, h'⟩

/-! ## Words -/

theorem readWord_eq_ok {word : Bytes} : readWord word bs = .ok rest ↔ bs = word ++ rest := by
  induction word generalizing bs with
  | nil => simp [readWord, eq_comm]
  | cons w word ih =>
    cases bs with
    | nil => simp [readWord]
    | cons b bs =>
      rw [readWord, List.cons_append, List.cons.injEq]
      split_ifs with hb
      · rw [ih]
        simp [hb]
      · simp [hb]

/-- The letters after the first one of a word. -/
theorem readLetters_eq_ok {letters : String} :
    readLetters letters bs = .ok rest ↔ bs = bytes letters.toList ++ rest := by
  rw [readLetters, readWord_eq_ok, Utf8.encode_eq_bytes]

namespace Reader

variable {α : Type} {read : Reader α} {means : Tree → α → Prop}

/-! ## Strings -/

section checked

variable {check : String → Except Cause α} {expected : String}

theorem takes_checked :
    (checked check expected).Takes fun t x => ∃ s, t = .string s ∧ check s = .ok x := by
  rintro gap cs t x rest hgap hwrites ⟨s, rfl, hcheck⟩ -
  obtain ⟨c, more, hbegins, -, hbytes, hskip⟩ := hwrites.skipSpaces_eq hgap rest
  obtain rfl : c = '"' := hbegins
  cases hwrites with
  | string hstring =>
  obtain ⟨tail, htail, hread⟩ := readStringRest_of_quoted hstring rest
  rw [htail] at hbytes
  obtain rfl := (List.cons.inj hbytes).2
  simp only [checked, hskip, if_true, hread, bind, Except.bind, hcheck]

theorem only_checked :
    (checked check expected).Only fun t x => ∃ s, t = .string s ∧ check s = .ok x := by
  intro bs rest x h
  obtain ⟨gap, hgap, hbs⟩ := exists_gap bs
  unfold checked at h
  split at h
  · cases h
  · rename_i b r hskip
    split_ifs at h with hquote
    simp only [bind_eq_ok, Prod.exists] at h
    obtain ⟨s, tail, hread, h⟩ := h
    split at h
    · rename_i y hcheck
      cases h
      obtain ⟨name, hname, hbytes⟩ := quoted_of_readStringRest hread
      refine ⟨gap, name, .string s, hgap, .string hname, ⟨s, rfl, hcheck⟩, ?_⟩
      rw [hbs, hskip, hquote, hbytes, Utf8.bytes_append, List.append_assoc]
    · cases h

end checked

theorem takes_string : string.Takes fun t s => t = .string s :=
  fun _ _ _ s _ hgap hwrites hmeans => takes_checked hgap hwrites ⟨s, hmeans, rfl⟩

theorem only_string : string.Only fun t s => t = .string s := by
  intro bs rest s h
  obtain ⟨gap, cs, t, hgap, hwrites, ⟨s', ht, hs⟩, hbs⟩ := only_checked h
  obtain rfl := Except.ok.inj hs
  exact ⟨gap, cs, t, hgap, hwrites, ht, hbs⟩

/-- The string spells the identifier. -/
def MeansUuid (t : Tree) (u : Uuid) : Prop := ∃ s, t = .string s ∧ u.Spells s.toList

theorem takes_uuid : uuid.Takes MeansUuid := by
  rintro gap cs t u rest hgap hwrites ⟨s, ht, hspells⟩
  refine takes_checked hgap hwrites ⟨s, ht, ?_⟩
  rw [mapError_eq_ok]
  exact Uuid.parse_eq_ok.mpr hspells

theorem only_uuid : uuid.Only MeansUuid := by
  intro bs rest u h
  obtain ⟨gap, cs, t, hgap, hwrites, ⟨s, ht, hs⟩, hbs⟩ := only_checked h
  rw [mapError_eq_ok] at hs
  exact ⟨gap, cs, t, hgap, hwrites, ⟨s, ht, Uuid.parse_eq_ok.mp hs⟩, hbs⟩

/-- A choice may be written by its name. -/
theorem takes_choice {options : List (String × α)} : (choice options).Takes fun t x =>
    ∃ s, t = .string s ∧ options.lookup s = some x := by
  rintro gap cs t x rest hgap hwrites ⟨s, rfl, hlookup⟩ hends
  obtain ⟨c, more, hbegins, -, hbytes, hskip⟩ := hwrites.skipSpaces_eq hgap rest
  obtain rfl : c = '"' := hbegins
  simp only [choice, hskip, if_true]
  rw [← hbytes, ← List.nil_append cs]
  exact takes_checked isGap_nil hwrites ⟨s, rfl, by rw [hlookup]⟩ hends

/-! ## Booleans -/

theorem takes_flag : flag.Takes fun t b => t = .flag b := by
  rintro gap cs _ b rest hgap hwrites rfl -
  obtain ⟨c, more, hbegins, hcs, -, hskip⟩ := hwrites.skipSpaces_eq hgap rest
  obtain rfl : c = if b then 't' else 'f' := hbegins
  cases hwrites with
  | flag =>
  unfold flag
  rw [hskip]
  cases b with
  | true =>
    obtain rfl : "rue".toList = more := (List.cons.inj hcs).2
    show (if _ then _ else _) = _
    rw [if_pos (by decide)]
    exact map_eq_ok.mpr ⟨rest, readLetters_eq_ok.mpr rfl, rfl⟩
  | false =>
    obtain rfl : "alse".toList = more := (List.cons.inj hcs).2
    show (if _ then _ else if _ then _ else _) = _
    rw [if_neg (by decide), if_pos (by decide)]
    exact map_eq_ok.mpr ⟨rest, readLetters_eq_ok.mpr rfl, rfl⟩

theorem only_flag : flag.Only fun t b => t = .flag b := by
  intro bs rest x h
  obtain ⟨gap, hgap, hbs⟩ := exists_gap bs
  have hword : ∀ (b : Bool) (c : Char) (letters : String) (r : Bytes), c.toNat < 128 →
      (if b then "true" else "false").toList = c :: letters.toList →
      skipSpaces bs = c.toUInt8 :: r → readLetters letters r = .ok rest →
      ∃ gap cs t, IsGap gap ∧ Writes t cs ∧ t = .flag b ∧ bs = bytes (gap ++ cs) ++ rest := by
    intro b c letters r hascii hword hskip hread
    refine ⟨gap, _, .flag b, hgap, .flag, rfl, ?_⟩
    rw [hbs, hskip, readLetters_eq_ok.mp hread, hword, Utf8.bytes_append,
      Utf8.bytes_cons_of_lt hascii, List.append_assoc, List.cons_append]
  unfold flag at h
  split at h
  · cases h
  · rename_i b r hskip
    split_ifs at h with ht hf
    · obtain ⟨tail, hread, htail⟩ := map_eq_ok.mp h
      cases htail
      exact hword true 't' "rue" r (by decide) rfl (ht ▸ hskip) hread
    · obtain ⟨tail, hread, htail⟩ := map_eq_ok.mp h
      cases htail
      exact hword false 'f' "alse" r (by decide) rfl (hf ▸ hskip) hread

/-! ## Numbers -/

/-- The tree is the numeral of an integer. -/
def MeansInteger (t : Tree) (i : Int) : Prop := ∃ l, t = .number l ∧ l.IsInteger i

section number

/-- The check lets the integers pass that are values of the type. -/
structure Checks (check : Number → Except Cause α) (value : α → Int) : Prop where
  bound : ∀ x, (value x).natAbs < UInt64.size
  real : ∀ negative v x, check (.real negative v) ≠ .ok x
  whole : ∀ negative t x, t < UInt64.size → (check (wholeNumber negative t) = .ok x ↔
    negative = false ∧ value x = t ∨ negative = true ∧ 0 < t ∧ value x = -t)

variable {check : Number → Except Cause α} {expected : String} {value : α → Int}

theorem takes_number (hcheck : Checks check value) :
    (number check expected).Takes fun t x => MeansInteger t (value x) := by
  rintro gap cs _ x rest hgap hwrites ⟨l, rfl, hfraction, hexponent, n, hn, hsign⟩ hends
  have hskip : number check expected (bytes (gap ++ cs) ++ rest) =
      number check expected (bytes cs ++ rest) := by
    unfold number
    rw [Utf8.bytes_append, List.append_assoc, skipSpaces_gap hgap]
  have hlt : n < UInt64.size := by
    have := hcheck.bound x
    omega
  cases hwrites with
  | number hwell =>
    rw [hskip]
    exact number_whole ⟨hwell, hfraction, hexponent, hn⟩ hlt
      ((hcheck.whole l.negative n x hlt).mpr hsign) hends

theorem only_number (hcheck : Checks check value) :
    (number check expected).Only fun t x => MeansInteger t (value x) := by
  intro bs rest x h
  obtain ⟨gap, l, t, hgap, hwhole, hlt, hx, hbs⟩ :=
    whole_of_number (fun negative v => hcheck.real negative v x) h
  have hsign := (hcheck.whole l.negative t x hlt).mp hx
  exact ⟨gap, l.chars, .number l, hgap, .number hwhole.well,
    ⟨l, rfl, hwhole.fraction, hwhole.exponent, t, hwhole.value, hsign⟩, hbs⟩

end number

theorem checks_int64 : Checks (fun n =>
    match n with
    | .natural k => if k < signedBound then .ok (Int64.ofNat k) else .error (.outOfRange k "i64")
    | .negative k => .ok (Int64.ofInt (-k))
    | .real .. => .error (.wrongType n.found "i64")) Int64.toInt where
  bound x := by
    have hle := Int64.le_toInt x
    have hlt := Int64.toInt_lt x
    show x.toInt.natAbs < 18446744073709551616
    omega
  real negative v x := nofun
  whole negative t x hlt := by
    have hmin := Int64.le_toInt x
    have hmax := Int64.toInt_lt x
    cases negative with
    | false =>
      show (if t < 9223372036854775808 then _ else _) = _ ↔ _
      rw [ite_ok_eq_ok]
      simp only [Except.ok.injEq, true_and, Bool.false_eq_true, false_and, or_false]
      constructor
      · rintro ⟨ht, rfl⟩
        exact Int64.toInt_ofNat_of_lt ht
      · intro hx
        have ht : t < 9223372036854775808 := by omega
        refine ⟨ht, Int64.toInt_inj.mp ?_⟩
        rw [Int64.toInt_ofNat_of_lt ht, hx]
    | true =>
      simp only [Bool.true_eq_false, false_and, true_and, false_or]
      by_cases hreal : t = 0 ∨ 9223372036854775808 < t
      · have hnumber : wholeNumber true t = .real true ((Binary64.round t 1).getD .zero) :=
          if_pos hreal
        rw [hnumber]
        refine iff_of_false nofun ?_
        rintro ⟨hpos, hx⟩
        omega
      · have hnumber : wholeNumber true t = .negative t := if_neg hreal
        have hvalue : (Int64.ofInt (-t)).toInt = -t :=
          Int64.toInt_ofInt_of_le (by omega) (by omega)
        rw [hnumber]
        constructor
        · intro hx
          rw [← Except.ok.inj hx]
          exact ⟨by omega, hvalue⟩
        · rintro ⟨-, hx⟩
          exact congrArg Except.ok (Int64.toInt_inj.mp (hvalue.trans hx.symm))

theorem checks_uint64 : Checks (fun n =>
    match n with
    | .natural k => .ok (UInt64.ofNat k)
    | .negative k => .error (.outOfRange (-k) "usize")
    | .real .. => .error (.wrongType n.found "usize")) fun x : UInt64 => (x.toNat : Int) where
  bound x := x.toNat_lt
  real negative v x := nofun
  whole negative t x hlt := by
    cases negative with
    | false =>
      have hvalue : (UInt64.ofNat t).toNat = t := UInt64.toNat_ofNat_of_lt' hlt
      simp only [wholeNumber, Bool.false_eq_true, if_false, Except.ok.injEq, true_and, false_and,
        or_false, Int.natCast_inj]
      constructor
      · rintro rfl
        exact hvalue
      · intro hx
        exact UInt64.toNat_inj.mp (hvalue.trans hx.symm)
    | true =>
      refine iff_of_false ?_ ?_
      · simp only [wholeNumber, if_true]
        split_ifs <;> exact nofun
      · rintro (⟨⟨⟩, -⟩ | ⟨-, hpos, hx⟩)
        omega

theorem takes_int64 : int64.Takes fun t x => MeansInteger t x.toInt := takes_number checks_int64

theorem only_int64 : int64.Only fun t x => MeansInteger t x.toInt := only_number checks_int64

theorem takes_uint64 : uint64.Takes fun t x => MeansInteger t x.toNat := takes_number checks_uint64

/-! ## Optional values -/

/-- The tree is `null`, or it means the value. -/
inductive MeansOptional (means : Tree → α → Prop) : Tree → Option α → Prop
  | none : MeansOptional means .null none
  | some {t : Tree} {x : α} : means t x → MeansOptional means t (some x)

theorem takes_optional (h : read.Takes means) (hnull : ∀ x, ¬means .null x) :
    (optional read).Takes (MeansOptional means) := by
  intro gap cs t x rest hgap hwrites hmeans hends
  obtain ⟨c, more, hbegins, hcs, hbytes, hskip⟩ := hwrites.skipSpaces_eq hgap rest
  unfold optional
  rw [hskip]
  cases hmeans with
  | none =>
    obtain rfl : c = 'n' := hbegins
    cases hwrites with
    | null =>
      obtain rfl : "ull".toList = more := (List.cons.inj hcs).2
      show (if _ then _ else _) = _
      rw [if_pos rfl]
      exact map_eq_ok.mpr ⟨rest, readLetters_eq_ok.mpr rfl, rfl⟩
  | @some _ x hmeans =>
    have hne : c.toUInt8 ≠ 'n'.toUInt8 := by
      intro hc
      rw [Utf8.toUInt8_inj hbegins.spec.1 (by decide)] at hc
      rw [hc] at hbegins
      exact hnull x (hbegins.eq_null ▸ hmeans)
    have hread := h isGap_nil hwrites hmeans hends
    rw [List.nil_append, hbytes] at hread
    show (if _ then _ else _) = _
    rw [if_neg hne]
    exact map_eq_ok.mpr ⟨(x, rest), hread, rfl⟩

theorem only_optional (h : read.Only means) : (optional read).Only (MeansOptional means) := by
  intro bs rest x hread
  obtain ⟨gap, hgap, hbs⟩ := exists_gap bs
  have hsome : ∀ y, read (skipSpaces bs) = .ok (y, rest) → ∃ gap cs t, IsGap gap ∧ Writes t cs ∧
      MeansOptional means t (some y) ∧ bs = bytes (gap ++ cs) ++ rest := by
    intro y hy
    obtain ⟨gap', cs, t, hgap', hwrites, hmeans, hskip⟩ := h hy
    refine ⟨gap ++ gap', cs, t, hgap.append hgap', hwrites, .some hmeans, ?_⟩
    rw [hbs, hskip]
    simp only [Utf8.bytes_append, List.append_assoc]
  unfold optional at hread
  split at hread
  · rename_i hskip
    obtain ⟨⟨y, tail⟩, hy, htail⟩ := map_eq_ok.mp hread
    cases htail
    exact hsome y (hskip ▸ hy)
  · rename_i b r hskip
    split_ifs at hread with hnull
    · obtain ⟨tail, hletters, htail⟩ := map_eq_ok.mp hread
      cases htail
      refine ⟨gap, "null".toList, .null, hgap, .null, .none, ?_⟩
      rw [hbs, hskip, hnull, readLetters_eq_ok.mp hletters, Utf8.bytes_append, List.append_assoc]
      rfl
    · obtain ⟨⟨y, tail⟩, hy, htail⟩ := map_eq_ok.mp hread
      cases htail
      exact hsome y (hskip ▸ hy)

end Reader

end AlertService.Json
