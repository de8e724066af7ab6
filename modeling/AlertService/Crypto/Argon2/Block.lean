import AlertService.Crypto.Word

/-!
# Blocks of the memory of Argon2

A block is eight squares, one for each row. Two blocks are compressed into one by mixing the rows of
their difference, then its columns of pairs, and by taking the difference with what was mixed.
-/

namespace AlertService.Argon2

/-- An addition of words that also multiplies their low halves. -/
@[inline] def sum (a b : UInt64) : UInt64 := a + b + 2 * (Word.low a * Word.low b)

/-- Mixes a square without a message. -/
def mix (s : Square) : Square := Square.round sum .zero s

structure Block where
  r0 : Square
  r1 : Square
  r2 : Square
  r3 : Square
  r4 : Square
  r5 : Square
  r6 : Square
  r7 : Square

namespace Block

def zero : Block := ⟨.zero, .zero, .zero, .zero, .zero, .zero, .zero, .zero⟩

def xor (b c : Block) : Block :=
  ⟨b.r0.xor c.r0, b.r1.xor c.r1, b.r2.xor c.r2, b.r3.xor c.r3,
   b.r4.xor c.r4, b.r5.xor c.r5, b.r6.xor c.r6, b.r7.xor c.r7⟩

/-- Mixes every row. -/
def mixRows (b : Block) : Block :=
  ⟨mix b.r0, mix b.r1, mix b.r2, mix b.r3, mix b.r4, mix b.r5, mix b.r6, mix b.r7⟩

/-- Makes the columns of pairs of words the rows. -/
def turn (b : Block) : Block :=
  ⟨⟨b.r0.w0, b.r0.w1, b.r1.w0, b.r1.w1, b.r2.w0, b.r2.w1,
     b.r3.w0, b.r3.w1, b.r4.w0, b.r4.w1, b.r5.w0, b.r5.w1,
     b.r6.w0, b.r6.w1, b.r7.w0, b.r7.w1⟩,
   ⟨b.r0.w2, b.r0.w3, b.r1.w2, b.r1.w3, b.r2.w2, b.r2.w3,
     b.r3.w2, b.r3.w3, b.r4.w2, b.r4.w3, b.r5.w2, b.r5.w3,
     b.r6.w2, b.r6.w3, b.r7.w2, b.r7.w3⟩,
   ⟨b.r0.w4, b.r0.w5, b.r1.w4, b.r1.w5, b.r2.w4, b.r2.w5,
     b.r3.w4, b.r3.w5, b.r4.w4, b.r4.w5, b.r5.w4, b.r5.w5,
     b.r6.w4, b.r6.w5, b.r7.w4, b.r7.w5⟩,
   ⟨b.r0.w6, b.r0.w7, b.r1.w6, b.r1.w7, b.r2.w6, b.r2.w7,
     b.r3.w6, b.r3.w7, b.r4.w6, b.r4.w7, b.r5.w6, b.r5.w7,
     b.r6.w6, b.r6.w7, b.r7.w6, b.r7.w7⟩,
   ⟨b.r0.w8, b.r0.w9, b.r1.w8, b.r1.w9, b.r2.w8, b.r2.w9,
     b.r3.w8, b.r3.w9, b.r4.w8, b.r4.w9, b.r5.w8, b.r5.w9,
     b.r6.w8, b.r6.w9, b.r7.w8, b.r7.w9⟩,
   ⟨b.r0.w10, b.r0.w11, b.r1.w10, b.r1.w11, b.r2.w10, b.r2.w11,
     b.r3.w10, b.r3.w11, b.r4.w10, b.r4.w11, b.r5.w10, b.r5.w11,
     b.r6.w10, b.r6.w11, b.r7.w10, b.r7.w11⟩,
   ⟨b.r0.w12, b.r0.w13, b.r1.w12, b.r1.w13, b.r2.w12, b.r2.w13,
     b.r3.w12, b.r3.w13, b.r4.w12, b.r4.w13, b.r5.w12, b.r5.w13,
     b.r6.w12, b.r6.w13, b.r7.w12, b.r7.w13⟩,
   ⟨b.r0.w14, b.r0.w15, b.r1.w14, b.r1.w15, b.r2.w14, b.r2.w15,
     b.r3.w14, b.r3.w15, b.r4.w14, b.r4.w15, b.r5.w14, b.r5.w15,
     b.r6.w14, b.r6.w15, b.r7.w14, b.r7.w15⟩⟩

/-- The block made of two blocks. -/
def compress (b c : Block) : Block :=
  let d := b.xor c
  d.xor d.mixRows.turn.mixRows.turn

def words (b : Block) : List UInt64 :=
  [b.r0, b.r1, b.r2, b.r3, b.r4, b.r5, b.r6, b.r7].flatMap Square.words

/-- The block of 128 words. -/
def ofWords (ws : List UInt64) : Block :=
  let r (i : Nat) := Square.ofWords ((ws.drop (16 * i)).take 16)
  ⟨r 0, r 1, r 2, r 3, r 4, r 5, r 6, r 7⟩

end Block

end AlertService.Argon2
