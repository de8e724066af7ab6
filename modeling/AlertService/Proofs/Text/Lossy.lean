import AlertService.Proofs.Except
import AlertService.Proofs.Text.Utf8
import Mathlib.Tactic.SplitIfs

/-!
# Bytes read as text, whatever they are

The bytes of a text are read as that text. Where bytes are not those of any text, what is read
shows it by a replacement character.

* `IsCharacter`: the bytes of a code point.
* `takeChar_eq_ok`: a character is taken where its bytes stand.
* `lossy_eq`: without a replacement character, the text and the bytes tell each other.
-/

namespace AlertService.Utf8

variable {b : UInt8} {c : Char} {cs : List Char} {bs rest piece : Bytes} {n low high bits : Nat}
  {l : Lead}

/-! ## The bytes of a code point -/

/-- The byte `k` may come second after the byte `n`: not every one makes a code point that needs as
many bytes, is none of a pair of surrogates and is not too large. -/
def IsSecond (n k : Nat) : Prop :=
  0x80 ≤ k ∧ k ≤ 0xbf ∧ (n = 0xe0 → 0xa0 ≤ k) ∧ (n = 0xed → k ≤ 0x9f) ∧ (n = 0xf0 → 0x90 ≤ k) ∧
    (n = 0xf4 → k ≤ 0x8f)

/-- The bytes are those of the code point. -/
inductive IsCharacter : Bytes → Nat → Prop
  | one {b : UInt8} : b.toNat < 0x80 → IsCharacter [b] b.toNat
  | two {b k : UInt8} : 0xc2 ≤ b.toNat → b.toNat < 0xe0 → IsSecond b.toNat k.toNat →
      IsCharacter [b, k] ((b.toNat - 0xc0) * 64 + k.toNat % 64)
  | three {b k k' : UInt8} : 0xe0 ≤ b.toNat → b.toNat < 0xf0 → IsSecond b.toNat k.toNat →
      IsInner k' →
      IsCharacter [b, k, k'] (((b.toNat - 0xe0) * 64 + k.toNat % 64) * 64 + k'.toNat % 64)
  | four {b k k' k'' : UInt8} : 0xf0 ≤ b.toNat → b.toNat < 0xf5 → IsSecond b.toNat k.toNat →
      IsInner k' → IsInner k'' →
      IsCharacter [b, k, k', k'']
        ((((b.toNat - 0xf0) * 64 + k.toNat % 64) * 64 + k'.toNat % 64) * 64 + k''.toNat % 64)

theorem IsCharacter.isValidChar (h : IsCharacter piece n) : n.isValidChar := by
  unfold Nat.isValidChar
  cases h with
  | one hb => omega
  | two hb hb' hk =>
    unfold IsSecond at hk
    omega
  | three hb hb' hk hk' =>
    unfold IsSecond at hk
    omega
  | four hb hb' hk hk' hk'' =>
    unfold IsSecond at hk
    omega

theorem ofNat_eq (h : n = b.toNat) : UInt8.ofNat n = b := by
  rw [h, UInt8.ofNat_toNat]

/-- A code point has one sequence of bytes. -/
theorem IsCharacter.encodeChar (h : IsCharacter piece n) :
    String.utf8EncodeChar (Char.ofNat n) = piece := by
  have hval : (Char.ofNat n).val.toNat = n := toNat_ofNat h.isValidChar
  rw [String.utf8EncodeChar, hval]
  cases h with
  | one hb => rw [if_pos (by omega), UInt8.ofNat_toNat]
  | @two b k hb hb' hk =>
    unfold IsSecond at hk
    rw [if_neg (by omega), if_pos (by omega), ofNat_eq (b := b) (by omega),
      ofNat_eq (b := k) (by omega)]
  | @three b k k' hb hb' hk hk' =>
    unfold IsSecond at hk
    unfold IsInner at hk'
    rw [if_neg (by omega), if_neg (by omega), if_pos (by omega), ofNat_eq (b := b) (by omega),
      ofNat_eq (b := k) (by omega), ofNat_eq (b := k') (by omega)]
  | @four b k k' k'' hb hb' hk hk' hk'' =>
    unfold IsSecond at hk
    unfold IsInner at hk' hk''
    rw [if_neg (by omega), if_neg (by omega), if_neg (by omega), ofNat_eq (b := b) (by omega),
      ofNat_eq (b := k) (by omega), ofNat_eq (b := k') (by omega), ofNat_eq (b := k'') (by omega)]

theorem IsCharacter.congr {m : Nat} (h : IsCharacter piece n) (hn : n = m) : IsCharacter piece m :=
  hn ▸ h

theorem exists_isCharacter (hn : n.isValidChar) : ∃ piece, IsCharacter piece n := by
  unfold Nat.isValidChar at hn
  by_cases hone : n < 0x80
  · refine ⟨[UInt8.ofNat n], (IsCharacter.one ?_).congr ?_⟩ <;> simp only [UInt8.toNat_ofNat'] <;>
      omega
  by_cases htwo : n < 0x800
  · refine ⟨[UInt8.ofNat (n / 64 + 0xc0), UInt8.ofNat (n % 64 + 0x80)],
      (IsCharacter.two ?_ ?_ ?_).congr ?_⟩ <;> simp only [IsSecond, UInt8.toNat_ofNat'] <;> omega
  by_cases hthree : n < 0x10000
  · refine ⟨[UInt8.ofNat (n / 4096 + 0xe0), UInt8.ofNat (n / 64 % 64 + 0x80),
      UInt8.ofNat (n % 64 + 0x80)], (IsCharacter.three ?_ ?_ ?_ ?_).congr ?_⟩ <;>
      simp only [IsSecond, IsInner, UInt8.toNat_ofNat'] <;> omega
  · refine ⟨[UInt8.ofNat (n / 262144 + 0xf0), UInt8.ofNat (n / 4096 % 64 + 0x80),
      UInt8.ofNat (n / 64 % 64 + 0x80), UInt8.ofNat (n % 64 + 0x80)],
      (IsCharacter.four ?_ ?_ ?_ ?_ ?_).congr ?_⟩ <;>
      simp only [IsSecond, IsInner, UInt8.toNat_ofNat'] <;> omega

theorem isCharacter_encodeChar (c : Char) : IsCharacter (String.utf8EncodeChar c) c.toNat := by
  obtain ⟨piece, h⟩ := exists_isCharacter c.valid
  have hpiece := h.encodeChar
  rw [show c.val.toNat = c.toNat from rfl, Char.ofNat_toNat] at hpiece
  rw [hpiece]
  exact h

/-! ## Taking a character -/

/-- What a first byte of value `n` announces. -/
inductive Announces (n : Nat) : Lead → Prop
  | none {low high : Nat} : n < 0x80 → Announces n ⟨0, low, high, n⟩
  | one {low high : Nat} : 0xc2 ≤ n → n < 0xe0 → (∀ k, low ≤ k ∧ k ≤ high ↔ IsSecond n k) →
      Announces n ⟨1, low, high, n - 0xc0⟩
  | two {low high : Nat} : 0xe0 ≤ n → n < 0xf0 → (∀ k, low ≤ k ∧ k ≤ high ↔ IsSecond n k) →
      Announces n ⟨2, low, high, n - 0xe0⟩
  | three {low high : Nat} : 0xf0 ≤ n → n < 0xf5 → (∀ k, low ≤ k ∧ k ≤ high ↔ IsSecond n k) →
      Announces n ⟨3, low, high, n - 0xf0⟩

theorem announces_of_lead? (h : lead? b = some l) : Announces b.toNat l := by
  unfold lead? at h
  dsimp only at h
  generalize b.toNat = n at h ⊢
  have hsecond : ∀ k, IsSecond n k ↔ 0x80 ≤ k ∧ k ≤ 0xbf ∧ (n = 0xe0 → 0xa0 ≤ k) ∧
      (n = 0xed → k ≤ 0x9f) ∧ (n = 0xf0 → 0x90 ≤ k) ∧ (n = 0xf4 → k ≤ 0x8f) := fun k => Iff.rfl
  split_ifs at h with h1 h2 h3 h4 h5 h6 h7 h8 h9 <;> cases Option.some.inj h
  · exact .none h1
  · exact .one (by omega) h3 (by intro k; rw [hsecond]; omega)
  · subst h4
    exact .two (by omega) (by omega) (by intro k; rw [hsecond]; omega)
  · subst h5
    exact .two (by omega) (by omega) (by intro k; rw [hsecond]; omega)
  · exact .two (by omega) (by omega) (by intro k; rw [hsecond]; omega)
  · subst h7
    exact .three (by omega) (by omega) (by intro k; rw [hsecond]; omega)
  · exact .three (by omega) (by omega) (by intro k; rw [hsecond]; omega)
  · subst h9
    exact .three (by omega) (by omega) (by intro k; rw [hsecond]; omega)

theorem exists_lead? (h : b.toNat < 0x80 ∨ 0xc2 ≤ b.toNat ∧ b.toNat < 0xf5) :
    ∃ l, lead? b = some l := by
  unfold lead?
  dsimp only
  generalize b.toNat = n at h
  split_ifs <;> first | exact ⟨_, rfl⟩ | omega

theorem takeFollow_zero_eq_ok : takeFollow 0 low high bits bs = .ok (n, rest) ↔
    bits = n ∧ bs = rest := by
  rw [takeFollow, Except.ok.injEq, Prod.mk.injEq]

theorem takeFollow_succ_eq_ok {follow : Nat} :
    takeFollow (follow + 1) low high bits bs = .ok (n, rest) ↔
      ∃ k more, bs = k :: more ∧ (low ≤ k.toNat ∧ k.toNat ≤ high) ∧
        takeFollow follow 0x80 0xbf (bits * 64 + k.toNat % 64) more = .ok (n, rest) := by
  cases bs with
  | nil => simp [takeFollow]
  | cons k more =>
    rw [takeFollow, ite_ok_eq_ok]
    constructor
    · intro h
      exact ⟨k, more, rfl, h⟩
    · rintro ⟨k', more', hcons, h⟩
      cases hcons
      exact h

theorem exists_takeFollow_succ {follow : Nat} {k : UInt8} (hk : low ≤ k.toNat ∧ k.toNat ≤ high)
    (h : ∃ r, takeFollow follow 0x80 0xbf (bits * 64 + k.toNat % 64) bs = .ok r) :
    ∃ r, takeFollow (follow + 1) low high bits (k :: bs) = .ok r := by
  obtain ⟨r, hfollow⟩ := h
  refine ⟨r, ?_⟩
  rw [takeFollow, if_pos hk]
  exact hfollow

theorem isInner_iff {k : UInt8} : IsInner k ↔ 0x80 ≤ k.toNat ∧ k.toNat ≤ 0xbf := by
  unfold IsInner
  omega

theorem isCharacter_of_takeChar (h : takeChar b bs = .ok (c, rest)) :
    ∃ piece n, IsCharacter piece n ∧ b :: bs = piece ++ rest ∧ c = Char.ofNat n := by
  unfold takeChar at h
  cases hlead : lead? b with
  | none =>
    rw [hlead] at h
    exact nomatch h
  | some l =>
    simp only [hlead, map_eq_ok] at h
    obtain ⟨⟨n, more⟩, hfollow, hchar⟩ := h
    cases hchar
    cases announces_of_lead? hlead with
    | none hb =>
      obtain ⟨rfl, rfl⟩ := takeFollow_zero_eq_ok.mp hfollow
      exact ⟨_, _, .one hb, rfl, rfl⟩
    | one hb hb' hsecond =>
      obtain ⟨k, more, rfl, hk, hfollow⟩ := takeFollow_succ_eq_ok.mp hfollow
      obtain ⟨rfl, rfl⟩ := takeFollow_zero_eq_ok.mp hfollow
      exact ⟨_, _, .two hb hb' ((hsecond _).mp hk), rfl, rfl⟩
    | two hb hb' hsecond =>
      obtain ⟨k, more, rfl, hk, hfollow⟩ := takeFollow_succ_eq_ok.mp hfollow
      obtain ⟨k', more, rfl, hk', hfollow⟩ := takeFollow_succ_eq_ok.mp hfollow
      obtain ⟨rfl, rfl⟩ := takeFollow_zero_eq_ok.mp hfollow
      exact ⟨_, _, .three hb hb' ((hsecond _).mp hk) (isInner_iff.mpr hk'), rfl, rfl⟩
    | three hb hb' hsecond =>
      obtain ⟨k, more, rfl, hk, hfollow⟩ := takeFollow_succ_eq_ok.mp hfollow
      obtain ⟨k', more, rfl, hk', hfollow⟩ := takeFollow_succ_eq_ok.mp hfollow
      obtain ⟨k'', more, rfl, hk'', hfollow⟩ := takeFollow_succ_eq_ok.mp hfollow
      obtain ⟨rfl, rfl⟩ := takeFollow_zero_eq_ok.mp hfollow
      exact ⟨_, _, .four hb hb' ((hsecond _).mp hk) (isInner_iff.mpr hk') (isInner_iff.mpr hk''),
        rfl, rfl⟩

theorem exists_takeChar (h : IsCharacter piece n) (hbytes : b :: bs = piece ++ rest) :
    ∃ r, takeChar b bs = .ok r := by
  have hrange : b.toNat < 0x80 ∨ 0xc2 ≤ b.toNat ∧ b.toNat < 0xf5 := by
    cases h <;> cases hbytes <;> omega
  obtain ⟨l, hlead⟩ := exists_lead? hrange
  have hannounces := announces_of_lead? hlead
  suffices ∃ r, takeFollow l.follow l.low l.high l.bits bs = .ok r by
    obtain ⟨r, hfollow⟩ := this
    refine ⟨(Char.ofNat r.1, r.2), ?_⟩
    simp only [takeChar, hlead, map_eq_ok]
    exact ⟨r, hfollow, rfl⟩
  cases h with
  | one hb =>
    cases hbytes
    cases hannounces with
    | none _ => exact ⟨_, rfl⟩
    | one hb' _ _ | two hb' _ _ | three hb' _ _ => omega
  | two hb hb' hk =>
    cases hbytes
    cases hannounces with
    | one _ _ hsecond =>
      exact exists_takeFollow_succ ((hsecond _).mpr hk) ⟨_, rfl⟩
    | none hlt => omega
    | two hle _ _ | three hle _ _ => omega
  | three hb hb' hk hk' =>
    cases hbytes
    cases hannounces with
    | two _ _ hsecond =>
      apply exists_takeFollow_succ ((hsecond _).mpr hk)
      exact exists_takeFollow_succ (isInner_iff.mp hk') ⟨_, rfl⟩
    | none hlt => omega
    | one _ hlt _ => omega
    | three hle _ _ => omega
  | four hb hb' hk hk' hk'' =>
    cases hbytes
    cases hannounces with
    | three _ _ hsecond =>
      apply exists_takeFollow_succ ((hsecond _).mpr hk)
      apply exists_takeFollow_succ (isInner_iff.mp hk')
      exact exists_takeFollow_succ (isInner_iff.mp hk'') ⟨_, rfl⟩
    | none hlt => omega
    | one _ hlt _ | two _ hlt _ => omega

/-- A character is taken if and only if the bytes begin with its own. -/
theorem takeChar_eq_ok : takeChar b bs = .ok (c, rest) ↔
    b :: bs = String.utf8EncodeChar c ++ rest := by
  have hsound : ∀ {d : Char} {more : Bytes}, takeChar b bs = .ok (d, more) →
      b :: bs = String.utf8EncodeChar d ++ more := by
    intro d more h
    obtain ⟨piece, n, hpiece, hbytes, rfl⟩ := isCharacter_of_takeChar h
    rw [hpiece.encodeChar]
    exact hbytes
  constructor
  · exact hsound
  · intro hbytes
    obtain ⟨⟨d, more⟩, htake⟩ := exists_takeChar (isCharacter_encodeChar c) hbytes
    obtain ⟨rfl, rfl⟩ := encodeChar_append_inj ((hsound htake).symm.trans hbytes)
    exact htake

/-! ## Whole texts -/

theorem lossyLoop_of_ok (h : takeChar b bs = .ok (c, rest)) (acc : List Char) :
    lossyLoop acc (b :: bs) = lossyLoop (c :: acc) rest := by
  rw [lossyLoop]
  split <;> rename_i htake <;> cases h.symm.trans htake
  rfl

theorem lossyLoop_of_error (h : takeChar b bs = .error rest) (acc : List Char) :
    lossyLoop acc (b :: bs) = lossyLoop ('\ufffd' :: acc) rest := by
  rw [lossyLoop]
  split <;> rename_i htake <;> cases h.symm.trans htake
  rfl

/-- The bytes of a text are read as the text. -/
theorem lossyLoop_bytes (acc cs : List Char) : lossyLoop acc (bytes cs) = acc.reverse ++ cs := by
  induction cs generalizing acc with
  | nil => rw [bytes_nil, lossyLoop, List.append_nil]
  | cons c cs ih =>
    obtain ⟨b, more, hbytes⟩ := List.exists_cons_of_ne_nil (encodeChar_ne_nil c)
    have htake : takeChar b (more ++ bytes cs) = .ok (c, bytes cs) := by
      rw [takeChar_eq_ok, hbytes, List.cons_append]
    rw [bytes_cons, hbytes, List.cons_append, lossyLoop_of_ok htake, ih, List.reverse_cons,
      List.append_assoc]
    rfl

/-- What is read goes on from what has been read. -/
theorem exists_lossyLoop (acc : List Char) (bs : Bytes) :
    ∃ cs, lossyLoop acc bs = acc.reverse ++ cs ∧ ('\ufffd' ∉ cs → bs = bytes cs) := by
  induction hsize : bs.length using Nat.strongRecOn generalizing acc bs with
  | ind size ih =>
    cases bs with
    | nil => exact ⟨[], by rw [lossyLoop, List.append_nil], fun _ => rfl⟩
    | cons b bs =>
      rw [List.length_cons] at hsize
      cases htake : takeChar b bs with
      | error rest =>
        have hshort := length_takeChar_error htake
        obtain ⟨cs, hcs, -⟩ := ih rest.length (by omega) ('\ufffd' :: acc) rest rfl
        refine ⟨'\ufffd' :: cs, ?_, fun h => absurd List.mem_cons_self h⟩
        rw [lossyLoop_of_error htake, hcs, List.reverse_cons, List.append_assoc]
        rfl
      | ok r =>
        obtain ⟨c, rest⟩ := r
        have hshort : rest.length ≤ bs.length := length_takeChar_ok htake
        obtain ⟨cs, hcs, hbytes⟩ := ih rest.length (by omega) (c :: acc) rest rfl
        refine ⟨c :: cs, ?_, fun h => ?_⟩
        · rw [lossyLoop_of_ok htake, hcs, List.reverse_cons, List.append_assoc]
          rfl
        · rw [bytes_cons, ← hbytes fun hmem => h (List.mem_cons_of_mem c hmem)]
          exact takeChar_eq_ok.mp htake

/-- Without a replacement character in it, a text is read from its own bytes alone. -/
theorem lossy_eq (h : '\ufffd' ∉ cs) : lossy bs = String.ofList cs ↔ bs = bytes cs := by
  rw [lossy, String.ofList_inj]
  constructor
  · intro hread
    obtain ⟨cs', hcs', hbytes⟩ := exists_lossyLoop [] bs
    obtain rfl : cs' = cs := hcs'.symm.trans hread
    exact hbytes h
  · intro hbytes
    rw [hbytes]
    exact lossyLoop_bytes [] cs

end AlertService.Utf8
