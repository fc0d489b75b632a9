/-!
# SipHash-1-3

The keyed hash of a sequence of bytes that does one round per word of input and
three at the end, here with both halves of the key zero.  Eight bytes make a
word, the least significant first; the last word takes the bytes that are left
and, in its top byte, the length of the input.
-/

namespace Criteria.SipHash

/-- The four words that the hash works on. -/
structure State where
  v0 : UInt64
  v1 : UInt64
  v2 : UInt64
  v3 : UInt64
deriving DecidableEq, Repr

/-- Turns the bits of a word to the left. -/
def rotate (x : UInt64) (bits : UInt64) : UInt64 :=
  (x <<< bits) ||| (x >>> (64 - bits))

namespace State

/-- The state before any input, for a key of zeros. -/
def start : State :=
  ⟨0x736f6d6570736575, 0x646f72616e646f6d, 0x6c7967656e657261, 0x7465646279746573⟩

/-- One round of mixing. -/
def round (s : State) : State :=
  let a0 := s.v0 + s.v1
  let a1 := rotate s.v1 13 ^^^ a0
  let a2 := s.v2 + s.v3
  let a3 := rotate s.v3 16 ^^^ a2
  let b0 := rotate a0 32 + a3
  let b3 := rotate a3 21 ^^^ b0
  let b2 := a2 + a1
  let b1 := rotate a1 17 ^^^ b2
  ⟨b0, b1, rotate b2 32, b3⟩

/-- Takes in a word. -/
def absorb (s : State) (word : UInt64) : State :=
  let mixed := { s with v3 := s.v3 ^^^ word }.round
  { mixed with v0 := mixed.v0 ^^^ word }

/-- The hash that a state yields after all input. -/
def finish (s : State) : UInt64 :=
  let mixed := { s with v2 := s.v2 ^^^ 0xff }.round.round.round
  mixed.v0 ^^^ mixed.v1 ^^^ mixed.v2 ^^^ mixed.v3

end State

/-- The word of up to eight bytes, the least significant first. -/
def word : List UInt8 → UInt64
  | [] => 0
  | b :: rest => b.toUInt64 ||| (word rest <<< 8)

/-- Takes in bytes eight at a time; `length` is that of the whole input. -/
def absorbBytes (length : Nat) (s : State) : List UInt8 → State
  | b0 :: b1 :: b2 :: b3 :: b4 :: b5 :: b6 :: b7 :: rest =>
    absorbBytes length (s.absorb (word [b0, b1, b2, b3, b4, b5, b6, b7])) rest
  | rest => s.absorb (word rest ||| (UInt64.ofNat length <<< 56))

/-- The hash of a sequence of bytes. -/
def hash (bytes : List UInt8) : UInt64 :=
  (absorbBytes bytes.length .start bytes).finish

end Criteria.SipHash
