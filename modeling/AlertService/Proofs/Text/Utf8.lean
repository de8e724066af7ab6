import AlertService.Proofs.Text.Split
import AlertService.Text.Utf8
import Mathlib.Data.List.Basic

/-!
# The bytes of characters

A text is written character by character. The bytes of one character tell where it begins and where
it ends: a character of ASCII has one byte, below 128, and every other one has a first byte from 192
on and then bytes between these bounds.

* `encodeChar_append_inj`: bytes are those of one text at most.
* `decode?_eq_some`: bytes that are the bytes of a text are read as that text.
-/

namespace AlertService.Utf8

/-- The bytes of a list of characters. -/
def bytes (cs : List Char) : Bytes := cs.flatMap String.utf8EncodeChar

@[simp] theorem bytes_nil : bytes [] = [] := rfl

@[simp] theorem bytes_append (cs ds : List Char) : bytes (cs ++ ds) = bytes cs ++ bytes ds :=
  List.flatMap_append

@[simp] theorem bytes_cons (c : Char) (cs : List Char) :
    bytes (c :: cs) = String.utf8EncodeChar c ++ bytes cs :=
  List.flatMap_cons

theorem encode_eq_bytes (s : String) : encode s = bytes s.toList := by
  rw [encode, String.toUTF8, ← String.utf8Encode_toList, List.utf8Encode, List.data_toByteArray]
  rfl

theorem encode_ofList (cs : List Char) : encode (String.ofList cs) = bytes cs := by
  rw [encode_eq_bytes, String.toList_ofList]

/-! ## Single characters -/

variable {c d : Char} {bs bs' : Bytes}

theorem encodeChar_of_lt (h : c.toNat < 128) : String.utf8EncodeChar c = [c.toUInt8] := by
  have hle : c.val.toNat ≤ 127 := Nat.le_of_lt_succ h
  rw [String.utf8EncodeChar, if_pos hle]
  rfl

theorem toNat_toUInt8 (h : c.toNat < 128) : c.toUInt8.toNat = c.toNat := by
  show c.val.toNat % 256 = c.val.toNat
  exact Nat.mod_eq_of_lt (Nat.lt_trans h (by decide))

theorem toUInt8_inj (hc : c.toNat < 128) (hd : d.toNat < 128) :
    c.toUInt8 = d.toUInt8 ↔ c = d := by
  refine ⟨fun h => ?_, fun h => h ▸ rfl⟩
  have hnat : c.toNat = d.toNat := by
    rw [← toNat_toUInt8 hc, ← toNat_toUInt8 hd, h]
  exact Char.toNat_inj.mp hnat

theorem toNat_ofNat {n : Nat} (h : n.isValidChar) : (Char.ofNat n).toNat = n := by
  rw [Char.ofNat, dif_pos h]
  rfl

theorem ofNat_toUInt8 (h : c.toNat < 128) : Char.ofNat c.toUInt8.toNat = c := by
  rw [toNat_toUInt8 h, Char.ofNat_toNat]

theorem toUInt8_ofNat (b : UInt8) : (Char.ofNat b.toNat).toUInt8 = b := by
  refine UInt8.toNat_inj.mp ?_
  have hvalid : b.toNat.isValidChar := Or.inl (Nat.lt_trans b.toNat_lt (by decide))
  show (Char.ofNat b.toNat).toNat % 256 = b.toNat
  rw [toNat_ofNat hvalid]
  exact Nat.mod_eq_of_lt b.toNat_lt

/-- A byte that goes on with a character. -/
def IsInner (b : UInt8) : Prop := 128 ≤ b.toNat ∧ b.toNat < 192

theorem encodeChar_of_le (h : 128 ≤ c.toNat) : ∃ b inner, String.utf8EncodeChar c = b :: inner ∧
    192 ≤ b.toNat ∧ ∀ k ∈ inner, IsInner k := by
  have hlow : ¬c.val.toNat ≤ 127 := by
    have : 128 ≤ c.val.toNat := h
    omega
  have hinner : ∀ n : Nat, IsInner (UInt8.ofNat (n % 64 + 128)) := by
    intro n
    have hlt : n % 64 < 64 := Nat.mod_lt n (by decide)
    rw [IsInner, UInt8.toNat_ofNat']
    omega
  have hfirst : ∀ n m : Nat, 192 ≤ m → n < 64 → n + m < 256 →
      192 ≤ (UInt8.ofNat (n + m)).toNat := by
    intro n m hm hn hnm
    rw [UInt8.toNat_ofNat']
    omega
  unfold String.utf8EncodeChar
  dsimp only
  rw [if_neg hlow]
  split
  · refine ⟨_, _, rfl, hfirst _ _ (by omega) (by omega) (by omega), ?_⟩
    exact List.forall_mem_singleton.mpr (hinner _)
  · split
    · refine ⟨_, _, rfl, hfirst _ _ (by omega) (by omega) (by omega), ?_⟩
      exact List.forall_mem_cons.mpr ⟨hinner _, List.forall_mem_singleton.mpr (hinner _)⟩
    · refine ⟨_, _, rfl, hfirst _ _ (by omega) (by omega) (by omega), ?_⟩
      simp only [List.forall_mem_cons]
      exact ⟨hinner _, hinner _, hinner _, fun _ hk => absurd hk List.not_mem_nil⟩

theorem encodeChar_ne_nil (c : Char) : String.utf8EncodeChar c ≠ [] := by
  by_cases h : c.toNat < 128
  · simp [encodeChar_of_lt h]
  · obtain ⟨b, inner, hbytes, -⟩ := encodeChar_of_le (Nat.le_of_not_lt h)
    simp [hbytes]

/-- Where a character ends is told by its own bytes. -/
theorem encodeChar_append_inj
    (h : String.utf8EncodeChar c ++ bs = String.utf8EncodeChar d ++ bs') : c = d ∧ bs = bs' := by
  have hread : ∀ (e : Char) (rest : Bytes),
      (String.utf8EncodeChar e ++ rest).toByteArray.utf8DecodeChar? 0 = some e := by
    intro e rest
    rw [List.toByteArray_append]
    exact ByteArray.utf8DecodeChar?_utf8EncodeChar_append
  have hc := hread c bs
  rw [h, hread d bs'] at hc
  obtain rfl := Option.some.inj hc
  exact ⟨rfl, List.append_cancel_left h⟩

theorem bytes_cons_of_lt (h : c.toNat < 128) (cs : List Char) :
    bytes (c :: cs) = c.toUInt8 :: bytes cs := by
  rw [bytes_cons, encodeChar_of_lt h]
  rfl

theorem bytes_ofNat_cons {b : UInt8} (h : (Char.ofNat b.toNat).toNat < 128) (cs : List Char) :
    bytes (Char.ofNat b.toNat :: cs) = b :: bytes cs := by
  rw [bytes_cons_of_lt h, toUInt8_ofNat]

/-- Characters of ASCII have one byte each. -/
theorem bytes_of_lt {cs : List Char} (h : ∀ c ∈ cs, c.toNat < 128) :
    bytes cs = cs.map Char.toUInt8 := by
  induction cs with
  | nil => rfl
  | cons c cs ih =>
    have htail := ih fun d hd => h d (List.mem_cons_of_mem c hd)
    rw [bytes_cons_of_lt (h c List.mem_cons_self), htail]
    rfl

/-- The byte of a character of ASCII stands for it wherever it is. -/
theorem ascii_not_mem_bytes {cs : List Char} (hc : c.toNat < 128) (h : c ∉ cs) :
    c.toUInt8 ∉ bytes cs := by
  intro hmem
  obtain ⟨d, hd, hbyte⟩ := List.mem_flatMap.mp hmem
  by_cases hascii : d.toNat < 128
  · rw [encodeChar_of_lt hascii, List.mem_singleton] at hbyte
    have hsame := (toUInt8_inj hc hascii).mp hbyte
    exact h (hsame ▸ hd)
  · obtain ⟨b, inner, hbytes, hfirst, hinner⟩ := encodeChar_of_le (Nat.le_of_not_lt hascii)
    have hsmall := toNat_toUInt8 hc
    rw [hbytes] at hbyte
    rcases List.mem_cons.mp hbyte with hb | hb
    · rw [hb] at hsmall
      omega
    · have hrange := (hinner _ hb).1
      omega

/-! ## Texts -/

theorem isEmpty_bytes (cs : List Char) : (bytes cs).isEmpty = cs.isEmpty := by
  cases cs with
  | nil => rfl
  | cons c cs => simp [encodeChar_ne_nil c]

theorem bytes_intercalate {separator : Char} (hseparator : separator.toNat < 128)
    (pieces : List (List Char)) : bytes ([separator].intercalate pieces) =
      [separator.toUInt8].intercalate (pieces.map bytes) := by
  induction pieces with
  | nil => rfl
  | cons piece pieces ih =>
    cases pieces with
    | nil => rw [List.intercalate_singleton, List.map_singleton, List.intercalate_singleton]
    | cons next pieces =>
      rw [List.intercalate_cons_cons, bytes_append, bytes_append, ih, bytes_cons_of_lt hseparator,
        bytes_nil, List.map_cons, List.map_cons, List.map_cons, List.intercalate_cons_cons]

/-- A text is split at a character of ASCII where its bytes are. -/
theorem splitOn_encode {separator : Char} (hseparator : separator.toNat < 128) (s : String) :
    Text.splitOn separator.toUInt8 (encode s) = (Text.splitOn separator s.toList).map bytes := by
  obtain ⟨hsome, hjoined, hapart⟩ := Text.splitOn_eq_iff.mp (rfl : Text.splitOn separator s.toList = _)
  refine Text.splitOn_eq_iff.mpr ⟨?_, ?_, ?_⟩
  · simpa using hsome
  · rw [encode_eq_bytes, ← bytes_intercalate hseparator, ← hjoined]
  · intro piece hpiece
    obtain ⟨cs, hcs, rfl⟩ := List.mem_map.mp hpiece
    exact ascii_not_mem_bytes hseparator (hapart cs hcs)

theorem decode?_eq_some {s : String} : decode? bs = some s ↔ bs = encode s := by
  unfold decode? String.fromUTF8?
  constructor
  · intro h
    split at h
    · rename_i hvalid
      obtain rfl := Option.some.inj h
      rfl
    · exact nomatch h
  · rintro rfl
    have hbytes : (⟨(encode s).toArray⟩ : ByteArray) = s.toByteArray := by
      refine ByteArray.ext ?_
      rw [encode, String.toUTF8, Array.toArray_toList]
    have hvalid : s.toByteArray.IsValidUTF8 := s.isValidUTF8
    simp only [hbytes, hvalid, dite_true]
    rfl

end AlertService.Utf8
