import AlertService.Crypto.Argon2.Block

/-!
# The memory of Argon2

The memory is a number of lanes of blocks. Every lane is filled in four slices, and all of this as
often as there are passes. A block is compressed of the block before it and of another one, whose
place depends on the block before or on the position alone.
-/

namespace AlertService.Argon2

/-- Whether the places of the blocks that are taken up depend on what is hashed. -/
inductive Addressing where
  | dependent
  | independent
  | hybrid
deriving DecidableEq

def Addressing.code : Addressing → Nat
  | .dependent => 0
  | .independent => 1
  | .hybrid => 2

/-- In the older version a later pass overwrites what the pass before it wrote. -/
inductive Version where
  | older
  | newer
deriving DecidableEq

def Version.code : Version → Nat
  | .older => 16
  | .newer => 19

/-- How a digest is computed. The memory is counted in blocks, and `data` is hashed along. -/
structure Settings where
  addressing : Addressing
  version : Version
  memory : Nat
  passes : Nat
  lanes : Nat
  data : Bytes

namespace Settings

/-- The number of blocks of a lane that belong to one slice. -/
def segment (s : Settings) : Nat := s.memory / (4 * s.lanes)

/-- The number of blocks of a lane. -/
def lane (s : Settings) : Nat := 4 * s.segment

/-- The number of blocks of all lanes. -/
def total (s : Settings) : Nat := s.lanes * s.lane

end Settings

/-- Where a block is written: `index` counts within the segment. -/
structure Position where
  pass : Nat
  slice : Nat
  lane : Nat
  index : Nat

namespace Position

variable (s : Settings) (p : Position)

/-- The place of the block in the memory. -/
def place : Nat := p.lane * s.lane + (p.slice * s.segment + p.index)

/-- The place of the block before it in the lane, whose first block comes after the last. -/
def before : Nat :=
  p.lane * s.lane + (p.slice * s.segment + p.index + (s.lane - 1)) % s.lane

/-- Places do not depend on what is hashed. -/
def isIndependent : Bool :=
  match s.addressing with
  | .dependent => false
  | .independent => true
  | .hybrid => p.pass = 0 && p.slice < 2

/-- No other lane has blocks to take up yet. -/
def isFirst : Bool := p.pass = 0 && p.slice = 0

/-- How many blocks may be taken up: those of finished slices, and in the same lane those of the
segment; the block before is left out. -/
def area (isSame : Bool) : Nat :=
  let finished := if p.pass = 0 then p.slice * s.segment else 3 * s.segment
  if isSame then finished + p.index - 1
  else if p.index = 0 then finished - 1
  else finished

/-- The place of the block that a pseudo-random word tells to take up. -/
def taken (random : UInt64) : Nat :=
  let lane := if p.isFirst then p.lane else (random >>> 32).toNat % s.lanes
  let area := p.area s (lane = p.lane)
  let low := Word.low random
  let back := ((UInt64.ofNat area * ((low * low) >>> 32)) >>> 32).toNat
  let start := if p.pass = 0 ∨ p.slice = 3 then 0 else (p.slice + 1) * s.segment
  lane * s.lane + (start + (area - 1 - back)) % s.lane

/-- The pseudo-random words of a segment that depend on its position alone, 128 for each count. -/
def addresses (count : Nat) : List UInt64 :=
  let input := Block.ofWords <| [p.pass, p.lane, p.slice, s.total, s.passes, s.addressing.code,
    count + 1].map UInt64.ofNat
  (Block.zero.compress (Block.zero.compress input)).words

/-- All of the pseudo-random words of a segment that depend on its position alone. -/
def randoms : Array UInt64 :=
  if p.isIndependent s then ((List.range (s.segment / 128 + 1)).flatMap (p.addresses s)).toArray
  else #[]

/-- Writes a block. -/
def fill (randoms : Array UInt64) (memory : Array Block) : Array Block :=
  let previous := memory.getD (p.before s) .zero
  let random := if p.isIndependent s then randoms.getD p.index 0 else previous.r0.w0
  let block := previous.compress (memory.getD (p.taken s random) .zero)
  let block :=
    if p.pass = 0 ∨ s.version = .older then block
    else block.xor (memory.getD (p.place s) .zero)
  memory.setIfInBounds (p.place s) block

end Position

namespace Settings

variable (s : Settings)

/-- Writes the blocks of a segment. The first two blocks of a lane are there before. -/
def fillSegment (pass slice lane : Nat) (memory : Array Block) : Array Block :=
  let randoms := Position.randoms s ⟨pass, slice, lane, 0⟩
  let first := if pass = 0 ∧ slice = 0 then 2 else 0
  (List.range' first (s.segment - first)).foldl
    (fun memory index => Position.fill s ⟨pass, slice, lane, index⟩ randoms memory) memory

/-- Writes the blocks of a pass. -/
def fillPass (memory : Array Block) (pass : Nat) : Array Block :=
  (List.range 4).foldl (fun memory slice =>
    (List.range s.lanes).foldl (fun memory lane => s.fillSegment pass slice lane memory) memory)
    memory

/-- Writes all blocks. -/
def fill (memory : Array Block) : Array Block := (List.range s.passes).foldl s.fillPass memory

end Settings

end AlertService.Argon2
