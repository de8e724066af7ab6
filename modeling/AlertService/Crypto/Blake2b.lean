import AlertService.Crypto.Word

/-!
# BLAKE2b

The message is cut into blocks of sixteen words; every block changes the eight words of the state in
twelve rounds over a square of sixteen words. The digest is the beginning of the last state, and its
size is part of the first one.
-/

namespace AlertService.Blake2b

def constants : List UInt64 :=
  [0x6a09e667f3bcc908, 0xbb67ae8584caa73b, 0x3c6ef372fe94f82b, 0xa54ff53a5f1d36f1,
   0x510e527fade682d1, 0x9b05688c2b3e6c1f, 0x1f83d9abfb41bd6b, 0x5be0cd19137e2179]

/-- In which order each of the rounds takes the words of a block. -/
def orders : List (List Nat) :=
  let first := [0, 1, 2, 3, 4, 5, 6, 7, 8, 9, 10, 11, 12, 13, 14, 15]
  let second := [14, 10, 4, 8, 9, 15, 13, 6, 1, 12, 0, 2, 11, 7, 5, 3]
  [first, second,
   [11, 8, 12, 0, 5, 2, 15, 13, 10, 14, 3, 6, 7, 1, 9, 4],
   [7, 9, 3, 1, 13, 12, 11, 14, 2, 6, 5, 10, 4, 0, 15, 8],
   [9, 0, 5, 7, 2, 4, 10, 15, 14, 1, 11, 12, 6, 8, 3, 13],
   [2, 12, 6, 10, 0, 11, 8, 3, 4, 13, 7, 5, 15, 14, 1, 9],
   [12, 5, 1, 15, 14, 13, 4, 10, 0, 7, 6, 3, 9, 2, 8, 11],
   [13, 11, 7, 14, 12, 1, 3, 9, 5, 0, 15, 4, 8, 6, 2, 10],
   [6, 15, 14, 9, 11, 3, 0, 8, 12, 2, 13, 7, 1, 4, 10, 5],
   [10, 2, 8, 4, 7, 6, 1, 5, 15, 11, 9, 14, 3, 12, 13, 0],
   first, second]

/-- The state before the first block, for a digest of that many bytes. -/
def initial (size : Nat) : List UInt64 :=
  List.zipWith (· ^^^ ·) constants [UInt64.ofNat (0x01010000 + size), 0, 0, 0, 0, 0, 0, 0]

/-- What stands beside the state in the square: the constants, with the count of the bytes so far
and a mark on the last block. -/
def companion (count : Nat) (isLast : Bool) : List UInt64 :=
  List.zipWith (· ^^^ ·) constants
    [0, 0, 0, 0, UInt64.ofNat count, 0, if isLast then 0xffffffffffffffff else 0, 0]

/-- Puts one block into the state. -/
def compress (state block : List UInt64) (count : Nat) (isLast : Bool) : List UInt64 :=
  let step (s : Square) (order : List Nat) : Square :=
    Square.round (· + ·) (.ofWords (order.map fun i => block.getD i 0)) s
  let mixed := (orders.foldl step (.ofWords (state ++ companion count isLast))).words
  List.zipWith (· ^^^ ·) state (List.zipWith (· ^^^ ·) (mixed.take 8) (mixed.drop 8))

/-- Puts so many blocks and then the last one, filled up with zeros, into the state. -/
def absorb : (blocks count : Nat) → List UInt64 → Bytes → List UInt64
  | 0, count, state, rest =>
    let filled := rest ++ List.replicate (128 - rest.length) 0
    compress state (Word.ofBytes filled) (count + rest.length) true
  | blocks + 1, count, state, rest =>
    let state := compress state (Word.ofBytes (rest.take 128)) (count + 128) false
    absorb blocks (count + 128) state (rest.drop 128)

/-- The digest of a message, of at most sixty-four bytes. -/
def digest (size : Nat) (message : Bytes) : Bytes :=
  ((absorb ((message.length - 1) / 128) 0 (initial size) message).flatMap Word.bytes).take size

end AlertService.Blake2b
