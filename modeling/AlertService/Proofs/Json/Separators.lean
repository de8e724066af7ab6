import AlertService.Proofs.Json.Values

/-!
# From item to item

What stands between the items of a list and the members of an object, and after the last one. The
first item and the later ones differ in the comma only, so they are described together.

* `itemsFrom_cons`, `membersFrom_cons`: the text of the items that are left, one after the other.
* `readItemStart_of_leads`, `leads_of_readItemStart`, `readKey_of_leads`, `leads_of_readKey`: how
  readers go on.
-/

namespace AlertService.Json

open Utf8 (bytes)

variable {gap cs text : List Char} {bs rest : Bytes} {first found : Bool}

/-- The byte that comes after blanks. -/
theorem skipSpaces_eq_cons {c : Char} (h : isSpace c.toUInt8 = false) :
    skipSpaces bs = c.toUInt8 :: rest ↔ ∃ gap, IsGap gap ∧ bs = bytes gap ++ c.toUInt8 :: rest := by
  constructor
  · intro hskip
    obtain ⟨gap, hgap, hbs⟩ := exists_gap bs
    exact ⟨gap, hgap, hskip ▸ hbs⟩
  · rintro ⟨gap, hgap, rfl⟩
    rw [skipSpaces_gap hgap, skipSpaces_of_not_space h]

theorem readColon_eq_ok : readColon bs = .ok rest ↔
    ∃ gap, IsGap gap ∧ bs = bytes gap ++ ':'.toUInt8 :: rest := by
  rw [← skipSpaces_eq_cons (by decide)]
  unfold readColon
  split
  · rename_i hskip
    simp only [hskip, reduceCtorEq]
  · rename_i b r hskip
    rw [ite_ok_eq_ok, hskip, List.cons.injEq, Except.ok.injEq]

/-! ## What is between items -/

/-- What may stand in front of an item; a comma if it is not the first. -/
inductive Leads : Bool → List Char → Prop
  | first {gap : List Char} : IsGap gap → Leads true gap
  | later {gap gap' : List Char} : IsGap gap → IsGap gap' → Leads false (gap ++ ',' :: gap')

theorem Leads.append {lead gap : List Char} (h : Leads first lead) (hgap : IsGap gap) :
    Leads first (lead ++ gap) := by
  cases h with
  | first h => exact .first (h.append hgap)
  | later h h' =>
    rw [List.append_assoc, List.cons_append]
    exact .later h (h'.append hgap)

/-- The text of the items that are left. -/
def ItemsFrom (first : Bool) (ts : List Tree) (text : List Char) : Prop :=
  if first then WritesItems ts text else WritesMoreItems ts text

/-- The text of the members that are left. -/
def MembersFrom (first : Bool) (ms : List (String × Tree)) (text : List Char) : Prop :=
  if first then WritesMembers ms text else WritesMoreMembers ms text

theorem itemsFrom_nil : ItemsFrom first [] text ↔ IsGap text := by
  cases first with
  | true => exact ⟨fun | .none hgap => hgap, .none⟩
  | false => exact ⟨fun | .none hgap => hgap, .none⟩

theorem membersFrom_nil : MembersFrom first [] text ↔ IsGap text := by
  cases first with
  | true => exact ⟨fun | .none hgap => hgap, .none⟩
  | false => exact ⟨fun | .none hgap => hgap, .none⟩

theorem itemsFrom_cons {t : Tree} {ts : List Tree} : ItemsFrom first (t :: ts) text ↔
    ∃ lead cs more, Leads first lead ∧ Writes t cs ∧ ItemsFrom false ts more ∧
      text = lead ++ (cs ++ more) := by
  constructor
  · intro h
    cases first with
    | true =>
      obtain ⟨⟩ | ⟨hgap, hwrites, hmore⟩ : WritesItems _ _ := h
      exact ⟨_, _, _, .first hgap, hwrites, hmore, rfl⟩
    | false =>
      obtain ⟨⟩ | ⟨hgap, ⟨⟩ | ⟨hgap', hwrites, hmore⟩⟩ : WritesMoreItems _ _ := h
      exact ⟨_, _, _, .later hgap hgap', hwrites, hmore, by simp⟩
  · rintro ⟨lead, cs, more, hlead, hwrites, hmore, rfl⟩
    cases hlead with
    | first hgap => exact WritesItems.some hgap hwrites hmore
    | later hgap hgap' =>
      rw [List.append_assoc, List.cons_append]
      exact WritesMoreItems.some hgap (.some hgap' hwrites hmore)

theorem membersFrom_cons {key : String} {t : Tree} {ms : List (String × Tree)} :
    MembersFrom first ((key, t) :: ms) text ↔
      ∃ lead name before after cs more, Leads first lead ∧ WritesString key name ∧ IsGap before ∧
        IsGap after ∧ Writes t cs ∧ MembersFrom false ms more ∧
          text = lead ++ (name ++ (before ++ ':' :: (after ++ (cs ++ more)))) := by
  constructor
  · intro h
    cases first with
    | true =>
      obtain ⟨⟩ | ⟨hgap, hname, hbefore, hafter, hwrites, hmore⟩ : WritesMembers _ _ := h
      exact ⟨_, _, _, _, _, _, .first hgap, hname, hbefore, hafter, hwrites, hmore, rfl⟩
    | false =>
      obtain ⟨⟩ | ⟨hgap, ⟨⟩ | ⟨hgap', hname, hbefore, hafter, hwrites, hmore⟩⟩ :
        WritesMoreMembers _ _ := h
      exact ⟨_, _, _, _, _, _, .later hgap hgap', hname, hbefore, hafter, hwrites, hmore, by simp⟩
  · rintro ⟨lead, name, before, after, cs, more, hlead, hname, hbefore, hafter, hwrites, hmore, rfl⟩
    cases hlead with
    | first hgap => exact WritesMembers.some hgap hname hbefore hafter hwrites hmore
    | later hgap hgap' =>
      rw [List.append_assoc, List.cons_append]
      exact WritesMoreMembers.some hgap (.some hgap' hname hbefore hafter hwrites hmore)

theorem bytes_member (lead name before after cs more : List Char) (rest : Bytes) :
    bytes (lead ++ (name ++ (before ++ ':' :: (after ++ (cs ++ more))))) ++ rest =
      bytes (lead ++ name) ++
        (bytes before ++ ':'.toUInt8 :: (bytes (after ++ cs) ++ (bytes more ++ rest))) := by
  simp only [Utf8.bytes_append, List.append_assoc]
  rw [Utf8.bytes_cons_of_lt (by decide)]
  simp only [Utf8.bytes_append, List.append_assoc, List.cons_append]

/-- Every member takes some of the text. -/
theorem length_le_of_membersFrom {ms : List (String × Tree)} (h : MembersFrom first ms text) :
    ms.length ≤ (bytes text).length := by
  induction ms generalizing first text with
  | nil => exact Nat.zero_le _
  | cons m ms ih =>
    obtain ⟨lead, name, before, after, cs, more, -, ⟨-⟩, -, -, -, hmore, rfl⟩ := membersFrom_cons.mp h
    have hle := ih hmore
    simp only [Utf8.bytes_append, Utf8.bytes_cons, List.length_append, List.length_cons]
    have hquote : 0 < (String.utf8EncodeChar '"').length := by decide
    omega

/-! ## Where a value ends -/

theorem ends_cons {c : Char} (h : c ∈ [' ', '\n', '\t', '\r', ',', ']', '\x7d']) (rest : Bytes) :
    Ends (c.toUInt8 :: rest) := by
  intro b hb
  obtain rfl := Option.some.inj hb
  simp only [List.mem_cons, List.not_mem_nil, or_false] at h
  obtain rfl | rfl | rfl | rfl | rfl | rfl | rfl := h <;> decide

theorem ends_of_gap (hgap : IsGap gap) (h : Ends rest) : Ends (bytes gap ++ rest) := by
  cases gap with
  | nil => exact h
  | cons c gap =>
    have hc : c ∈ [' ', '\n', '\t', '\r'] := hgap c List.mem_cons_self
    rw [Utf8.bytes_cons_of_lt (ascii_of_gap hgap c List.mem_cons_self)]
    exact ends_cons (List.mem_append_left [',', ']', '\x7d'] hc) _

theorem Leads.ends {lead : List Char} (h : Leads false lead) (rest : Bytes) :
    Ends (bytes lead ++ rest) := by
  obtain ⟨⟩ | ⟨hgap, -⟩ := h
  rw [Utf8.bytes_append, Utf8.bytes_cons_of_lt (by decide), List.append_assoc]
  exact ends_of_gap hgap (ends_cons (by decide) _)

theorem ends_of_itemsFrom {ts : List Tree} (h : ItemsFrom false ts text) (rest : Bytes) :
    Ends (bytes text ++ ']'.toUInt8 :: rest) := by
  cases ts with
  | nil => exact ends_of_gap (itemsFrom_nil.mp h) (ends_cons (by decide) _)
  | cons t ts =>
    obtain ⟨lead, cs, more, hlead, -, -, rfl⟩ := itemsFrom_cons.mp h
    rw [Utf8.bytes_append, List.append_assoc]
    exact hlead.ends _

theorem ends_of_membersFrom {ms : List (String × Tree)} (h : MembersFrom false ms text)
    (rest : Bytes) : Ends (bytes text ++ '\x7d'.toUInt8 :: rest) := by
  cases ms with
  | nil => exact ends_of_gap (membersFrom_nil.mp h) (ends_cons (by decide) _)
  | cons m ms =>
    obtain ⟨lead, name, before, after, cs, more, hlead, -, -, -, -, -, rfl⟩ := membersFrom_cons.mp h
    rw [Utf8.bytes_append, List.append_assoc]
    exact hlead.ends _

/-! ## Reading on -/

theorem keyAt_eq_some {key : String} : readKey.keyAt bs = .ok (some key, rest) ↔
    ∃ name, WritesString key name ∧ bs = bytes name ++ rest := by
  constructor
  · intro h
    unfold readKey.keyAt at h
    split at h
    · cases h
    · split_ifs at h with hquote
      obtain ⟨⟨key, tail⟩, hread, htail⟩ := map_eq_ok.mp h
      cases htail
      rw [hquote]
      exact quoted_of_readStringRest hread
  · rintro ⟨name, hname, rfl⟩
    obtain ⟨tail, htail, hread⟩ := readStringRest_of_quoted hname rest
    rw [htail, readKey.keyAt, if_pos rfl]
    exact map_eq_ok.mpr ⟨(key, rest), hread, rfl⟩

theorem keyAt_ne_none : readKey.keyAt bs ≠ .ok (none, rest) := by
  intro h
  unfold readKey.keyAt at h
  split at h
  · cases h
  · split_ifs at h
    obtain ⟨⟨key, tail⟩, -, htail⟩ := map_eq_ok.mp h
    cases htail

theorem readKey_eq_none : readKey first bs = .ok (none, rest) ↔
    ∃ gap, IsGap gap ∧ bs = bytes gap ++ '\x7d'.toUInt8 :: rest := by
  rw [← skipSpaces_eq_cons (by decide)]
  constructor
  · intro h
    unfold readKey at h
    split at h
    · cases h
    · rename_i b r hskip
      by_cases hclose : b = Bracket.object.closing
      · rw [if_pos hclose] at h
        cases h
        rw [hskip, hclose]
        rfl
      · rw [if_neg hclose] at h
        split_ifs at h
        · exact absurd h keyAt_ne_none
        · split at h
          · cases h
          · rw [ite_error_eq_ok] at h
            exact absurd h.2 keyAt_ne_none
  · intro hskip
    unfold readKey
    rw [hskip]
    exact if_pos rfl

theorem readKey_of_leads {key : String} {lead name : List Char} (hlead : Leads first lead)
    (hname : WritesString key name) :
    readKey first (bytes (lead ++ name) ++ rest) = .ok (some key, rest) := by
  have hread := keyAt_eq_some.mpr ⟨name, hname, (rfl : bytes name ++ rest = _)⟩
  obtain ⟨tail, htail, -⟩ := readStringRest_of_quoted hname rest
  rw [htail] at hread
  have hspace : ∀ gap, IsGap gap →
      skipSpaces (bytes gap ++ (bytes name ++ rest)) = '"'.toUInt8 :: tail := by
    intro gap hgap
    exact (skipSpaces_eq_cons (by decide)).mpr ⟨gap, hgap, htail ▸ rfl⟩
  unfold readKey
  cases hlead with
  | first hgap =>
    rw [Utf8.bytes_append, List.append_assoc, hspace _ hgap]
    show (if _ then _ else if _ then _ else _) = _
    rw [if_neg (by decide), if_pos rfl]
    exact hread
  | @later gap gap' hgap hgap' =>
    have hcomma : skipSpaces (bytes ((gap ++ ',' :: gap') ++ name) ++ rest) =
        ','.toUInt8 :: (bytes gap' ++ (bytes name ++ rest)) := by
      refine (skipSpaces_eq_cons (by decide)).mpr ⟨gap, hgap, ?_⟩
      rw [List.append_assoc, List.cons_append, Utf8.bytes_append,
        Utf8.bytes_cons_of_lt (by decide), Utf8.bytes_append]
      simp
    rw [hcomma]
    show (if _ then _ else if _ then _ else if _ then _ else _) = _
    rw [if_neg (by decide), if_neg (by decide), if_pos rfl, hspace _ hgap']
    show (if _ then _ else _) = _
    rw [if_neg (by decide)]
    exact hread

theorem leads_of_readKey {key : String} (h : readKey first bs = .ok (some key, rest)) :
    ∃ lead name, Leads first lead ∧ WritesString key name ∧ bs = bytes (lead ++ name) ++ rest := by
  obtain ⟨gap, hgap, hbs⟩ := exists_gap bs
  unfold readKey at h
  split at h
  · cases h
  · rename_i b r hskip
    by_cases hclose : b = Bracket.object.closing
    · rw [if_pos hclose] at h
      cases h
    · rw [if_neg hclose] at h
      split_ifs at h with hfirst hcomma
      · obtain ⟨name, hname, hbytes⟩ := keyAt_eq_some.mp h
        refine ⟨gap, name, hfirst ▸ .first hgap, hname, ?_⟩
        rw [hbs, hskip, hbytes, Utf8.bytes_append, List.append_assoc]
      · split at h
        · cases h
        · rename_i c r' hskip'
          rw [ite_error_eq_ok] at h
          obtain ⟨gap', hgap', hr⟩ := exists_gap r
          obtain ⟨name, hname, hbytes⟩ := keyAt_eq_some.mp h.2
          have hlater : first = false := Bool.eq_false_iff.mpr hfirst
          refine ⟨gap ++ ',' :: gap', name, hlater ▸ .later hgap hgap', hname, ?_⟩
          rw [hbs, hskip, hcomma, hr, hskip', hbytes, List.append_assoc, List.cons_append,
            Utf8.bytes_append, Utf8.bytes_cons_of_lt (by decide), Utf8.bytes_append]
          simp

theorem readItemStart_of_leads {t : Tree} {lead : List Char} (hlead : Leads first lead)
    (hwrites : Writes t cs) :
    readItemStart first (bytes lead ++ (bytes cs ++ rest)) = .ok (true, bytes cs ++ rest) := by
  obtain ⟨c, more, hbegins, -, hbytes, -⟩ := hwrites.skipSpaces_eq isGap_nil rest
  obtain ⟨hascii, hlt, hne⟩ := hbegins.spec
  have hclose : c.toUInt8 ≠ Bracket.list.closing := fun hc =>
    hne ((Utf8.toUInt8_inj hascii (by decide)).mp hc)
  have hspace : ∀ gap, IsGap gap →
      skipSpaces (bytes gap ++ (bytes cs ++ rest)) = c.toUInt8 :: (bytes more ++ rest) := by
    intro gap hgap
    exact (skipSpaces_eq_cons (not_space_of_lt hascii hlt)).mpr ⟨gap, hgap, hbytes ▸ rfl⟩
  unfold readItemStart
  cases hlead with
  | first hgap =>
    rw [hspace _ hgap, hbytes]
    show (if _ then _ else if _ then _ else _) = _
    rw [if_neg hclose, if_pos rfl]
  | @later gap gap' hgap hgap' =>
    have hcomma : skipSpaces (bytes (gap ++ ',' :: gap') ++ (bytes cs ++ rest)) =
        ','.toUInt8 :: (bytes gap' ++ (bytes cs ++ rest)) := by
      refine (skipSpaces_eq_cons (by decide)).mpr ⟨gap, hgap, ?_⟩
      rw [Utf8.bytes_append, Utf8.bytes_cons_of_lt (by decide), List.append_assoc, List.cons_append]
    rw [hcomma]
    show (if _ then _ else if _ then _ else if _ then _ else _) = _
    rw [if_neg (by decide), if_neg (by decide), if_pos rfl, hspace _ hgap', hbytes]
    exact if_neg hclose

theorem leads_of_readItemStart (h : readItemStart first bs = .ok (true, rest)) :
    ∃ lead, Leads first lead ∧ bs = bytes lead ++ rest := by
  obtain ⟨gap, hgap, hbs⟩ := exists_gap bs
  unfold readItemStart at h
  split at h
  · cases h
  · rename_i b r hskip
    by_cases hclose : b = Bracket.list.closing
    · rw [if_pos hclose] at h
      cases h
    · rw [if_neg hclose] at h
      split_ifs at h with hfirst hcomma
      · cases h
        exact ⟨gap, hfirst ▸ .first hgap, hskip ▸ hbs⟩
      · split at h
        · cases h
        · rename_i c r' hskip'
          obtain ⟨-, h⟩ := ite_error_eq_ok.mp h
          cases h
          obtain ⟨gap', hgap', hr⟩ := exists_gap r
          have hlater : first = false := Bool.eq_false_iff.mpr hfirst
          refine ⟨gap ++ ',' :: gap', hlater ▸ .later hgap hgap', ?_⟩
          rw [hbs, hskip, hcomma, hr, hskip', Utf8.bytes_append,
            Utf8.bytes_cons_of_lt (by decide), List.append_assoc, List.cons_append]

theorem readItemStart_close (first : Bool) (hgap : IsGap gap) (rest : Bytes) :
    readItemStart first (bytes gap ++ ']'.toUInt8 :: rest) = .ok (false, ']'.toUInt8 :: rest) := by
  have hskip : skipSpaces (bytes gap ++ ']'.toUInt8 :: rest) = ']'.toUInt8 :: rest :=
    (skipSpaces_eq_cons (by decide)).mpr ⟨gap, hgap, rfl⟩
  unfold readItemStart
  rw [hskip]
  exact if_pos rfl

theorem close_of_readItemStart (h : readItemStart first bs = .ok (false, rest)) :
    ∃ gap r, IsGap gap ∧ rest = ']'.toUInt8 :: r ∧ bs = bytes gap ++ rest := by
  obtain ⟨gap, hgap, hbs⟩ := exists_gap bs
  unfold readItemStart at h
  split at h
  · cases h
  · rename_i b r hskip
    by_cases hclose : b = Bracket.list.closing
    · rw [if_pos hclose] at h
      cases h
      exact ⟨gap, r, hgap, hclose ▸ rfl, hskip ▸ hbs⟩
    · rw [if_neg hclose] at h
      split_ifs at h
      · cases h
      · split at h
        · cases h
        · cases (ite_error_eq_ok.mp h).2

theorem readListEnd_eq_ok : readListEnd bs = .ok rest ↔
    ∃ gap, IsGap gap ∧ bs = bytes gap ++ ']'.toUInt8 :: rest := by
  rw [← skipSpaces_eq_cons (by decide)]
  unfold readListEnd
  split
  · rename_i hskip
    simp only [hskip, reduceCtorEq]
  · rename_i b r hskip
    rw [hskip, List.cons.injEq]
    by_cases hclose : b = Bracket.list.closing
    · rw [if_pos hclose, Except.ok.injEq]
      exact (and_iff_right hclose).symm
    · rw [if_neg hclose]
      refine iff_of_false (fun h => ?_) fun h => hclose h.1
      split_ifs at h
      · split at h
        · cases h
        · split_ifs at h

end AlertService.Json
