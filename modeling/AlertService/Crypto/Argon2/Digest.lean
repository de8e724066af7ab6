import AlertService.Crypto.Argon2.Fill
import AlertService.Crypto.Blake2b

/-!
# Argon2

A digest that takes time and memory to compute. What is hashed decides the first two blocks of every
lane, the memory is filled from these, and the last blocks of all lanes decide the digest.
-/

namespace AlertService.Argon2

/-- The parts of a long digest after the first: half of each is part of the digest, and the last
part is all of it. -/
def extend : (halves : Nat) → (rest : Nat) → Bytes → Bytes
  | 0, rest, part => Blake2b.digest rest part
  | halves + 1, rest, part =>
    let next := Blake2b.digest 64 part
    next.take 32 ++ extend halves rest next

/-- A digest of any size. -/
def longDigest (size : Nat) (message : Bytes) : Bytes :=
  let message := Word.halfBytes size ++ message
  if size ≤ 64 then Blake2b.digest size message
  else
    let part := Blake2b.digest 64 message
    let halves := (size - 65) / 32
    part.take 32 ++ extend halves (size - 32 - 32 * halves) part

namespace Settings

variable (s : Settings)

/-- A text of bytes with its length in front. -/
def sized (bs : Bytes) : Bytes := Word.halfBytes bs.length ++ bs

/-- What everything else is computed of. No key is used. -/
def seed (size : Nat) (password salt : Bytes) : Bytes :=
  Blake2b.digest 64 <|
    [s.lanes, size, s.memory, s.passes, s.version.code, s.addressing.code].flatMap Word.halfBytes ++
      sized password ++ sized salt ++ sized [] ++ sized s.data

/-- The memory with the first two blocks of every lane. -/
def start (seed : Bytes) : Array Block :=
  let block (lane i : Nat) : Block :=
    .ofWords (Word.ofBytes (longDigest 1024 (seed ++ Word.halfBytes i ++ Word.halfBytes lane)))
  (List.range s.lanes).foldl
    (fun memory lane => (memory.setIfInBounds (lane * s.lane) (block lane 0)).setIfInBounds
      (lane * s.lane + 1) (block lane 1))
    (.replicate s.total .zero)

/-- The difference of the last blocks of all lanes. -/
def last (memory : Array Block) : Block :=
  (List.range s.lanes).foldl
    (fun b lane => b.xor (memory.getD (lane * s.lane + s.lane - 1) .zero)) .zero

/-- The digest of a password under a salt. -/
def digest (size : Nat) (password salt : Bytes) : Bytes :=
  longDigest size ((s.last (s.fill (s.start (s.seed size password salt)))).words.flatMap Word.bytes)

end Settings

end AlertService.Argon2
