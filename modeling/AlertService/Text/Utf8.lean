/-!
# Bytes of text

Texts travel as UTF-8. Well-formed text is read and written by the standard library; this module
adds what happens to bytes that are not well-formed: `wellFormedRest` finds the place, and `lossy`
puts one replacement character for every maximal ill-formed piece.
-/

namespace AlertService

abbrev Bytes := List UInt8

namespace Utf8

/-- The bytes of a text. -/
def encode (s : String) : Bytes := s.toUTF8.data.toList

/-- The text whose bytes these are, if they are well-formed. -/
def decode? (bs : Bytes) : Option String := String.fromUTF8? ⟨bs.toArray⟩

/-- What a first byte announces: how many bytes follow it, the range of the next one, and the bits
of the code point it holds itself. -/
structure Lead where
  follow : Nat
  low : Nat
  high : Nat
  bits : Nat

/-- The announcement of a first byte; none for a byte that starts no character. -/
def lead? (b : UInt8) : Option Lead :=
  let n := b.toNat
  if n < 0x80 then some ⟨0, 0x80, 0xbf, n⟩
  else if n < 0xc2 then none
  else if n < 0xe0 then some ⟨1, 0x80, 0xbf, n - 0xc0⟩
  else if n = 0xe0 then some ⟨2, 0xa0, 0xbf, 0⟩
  else if n = 0xed then some ⟨2, 0x80, 0x9f, 0xd⟩
  else if n < 0xf0 then some ⟨2, 0x80, 0xbf, n - 0xe0⟩
  else if n = 0xf0 then some ⟨3, 0x90, 0xbf, 0⟩
  else if n < 0xf4 then some ⟨3, 0x80, 0xbf, n - 0xf0⟩
  else if n = 0xf4 then some ⟨3, 0x80, 0x8f, 4⟩
  else none

/-- Takes the announced bytes, or says where the first one that does not fit stands. -/
def takeFollow : (follow low high bits : Nat) → Bytes → Except Bytes (Nat × Bytes)
  | 0, _, _, bits, bs => .ok (bits, bs)
  | _ + 1, _, _, _, [] => .error []
  | n + 1, low, high, bits, b :: bs =>
    if low ≤ b.toNat ∧ b.toNat ≤ high then
      takeFollow n 0x80 0xbf (bits * 64 + b.toNat % 64) bs
    else .error (b :: bs)

/-- One character at the head of `b :: bs`, or the bytes after the ill-formed piece there. -/
def takeChar (b : UInt8) (bs : Bytes) : Except Bytes (Char × Bytes) :=
  match lead? b with
  | none => .error bs
  | some l => (takeFollow l.follow l.low l.high l.bits bs).map fun (n, rest) => (Char.ofNat n, rest)

theorem length_takeFollow (n low high bits : Nat) (bs : Bytes) :
    (∀ rest, takeFollow n low high bits bs = .error rest → rest.length ≤ bs.length) ∧
      (∀ r, takeFollow n low high bits bs = .ok r → r.2.length ≤ bs.length) := by
  induction n generalizing low high bits bs with
  | zero => constructor <;> intro _ h <;> simp only [takeFollow] at h <;> cases h; exact Nat.le_refl _
  | succ n ih =>
    cases bs with
    | nil => constructor <;> intro _ h <;> simp only [takeFollow] at h <;> cases h; exact Nat.le_refl _
    | cons b bs =>
      simp only [takeFollow]
      split
      · have := ih 0x80 0xbf (bits * 64 + b.toNat % 64) bs
        exact ⟨fun r h => Nat.le_succ_of_le (this.1 r h), fun r h => Nat.le_succ_of_le (this.2 r h)⟩
      · constructor <;> intro _ h <;> cases h; exact Nat.le_refl _

theorem length_takeChar_error {b : UInt8} {bs rest : Bytes} (h : takeChar b bs = .error rest) :
    rest.length ≤ bs.length := by
  unfold takeChar at h
  split at h
  · cases h; exact Nat.le_refl _
  · rename_i l _
    cases hf : takeFollow l.follow l.low l.high l.bits bs with
    | error r =>
      rw [hf] at h
      cases h
      exact (length_takeFollow ..).1 _ hf
    | ok r => rw [hf] at h; cases h

theorem length_takeChar_ok {b : UInt8} {bs : Bytes} {r : Char × Bytes}
    (h : takeChar b bs = .ok r) : r.2.length ≤ bs.length := by
  unfold takeChar at h
  split at h
  · cases h
  · rename_i l _
    cases hf : takeFollow l.follow l.low l.high l.bits bs with
    | error r => rw [hf] at h; cases h
    | ok p =>
      rw [hf] at h
      cases h
      exact (length_takeFollow ..).2 _ hf

/-- The bytes from the first ill-formed piece on; empty if there is none. -/
def wellFormedRest : Bytes → Bytes
  | [] => []
  | b :: bs =>
    match h : takeChar b bs with
    | .ok (_, rest) =>
      have : rest.length ≤ bs.length := length_takeChar_ok h
      wellFormedRest rest
    | .error _ => b :: bs
  termination_by bs => bs.length
  decreasing_by simp only [List.length_cons]; omega

/-- The characters read so far are in `acc`, last first. -/
def lossyLoop (acc : List Char) : Bytes → List Char
  | [] => acc.reverse
  | b :: bs =>
    match h : takeChar b bs with
    | .ok (c, rest) =>
      have : rest.length ≤ bs.length := length_takeChar_ok h
      lossyLoop (c :: acc) rest
    | .error rest =>
      have : rest.length ≤ bs.length := length_takeChar_error h
      lossyLoop ('\ufffd' :: acc) rest
  termination_by bs => bs.length
  decreasing_by all_goals simp only [List.length_cons]; omega

/-- The text of the bytes, with one replacement character for every ill-formed piece. -/
def lossy (bs : Bytes) : String := String.ofList (lossyLoop [] bs)

end Utf8

end AlertService
