import Reassembly.Bytes

/-!
# The SHA-1 digest

The message is padded with a one bit, zeros and its length in bits to whole
blocks of sixteen words.  Each block is expanded to eighty words, which are
folded into a state of five words.
-/

set_option autoImplicit false

namespace Reassembly.Sha1

structure State where
  a : UInt32
  b : UInt32
  c : UInt32
  d : UInt32
  e : UInt32
  deriving DecidableEq, Repr

def initial : State :=
  ⟨0x67452301, 0xefcdab89, 0x98badcfe, 0x10325476, 0xc3d2e1f0⟩

def rotateLeft (word : UInt32) (count : UInt32) : UInt32 :=
  (word <<< count) ||| (word >>> (32 - count))

/-- Zero bytes that fill a message, its end mark and its length to whole blocks. -/
def zeroCount (length : Nat) : Nat :=
  (119 - length % 64) % 64

def lengthBytes (length : Nat) : Bytes :=
  Bytes.ofWord32 (UInt32.ofNat (8 * length / 4294967296)) ++
    Bytes.ofWord32 (UInt32.ofNat (8 * length))

def pad (message : Bytes) : Bytes :=
  message ++ [0x80] ++ List.replicate (zeroCount message.length) 0 ++
    lengthBytes message.length

def words : Bytes → List UInt32
  | a :: b :: c :: d :: rest => Bytes.word32 a b c d :: words rest
  | _ => []

def nextWord (newestFirst : List UInt32) : UInt32 :=
  rotateLeft (newestFirst.getD 2 0 ^^^ newestFirst.getD 7 0 ^^^
    newestFirst.getD 13 0 ^^^ newestFirst.getD 15 0) 1

def extend : Nat → List UInt32 → List UInt32
  | 0, newestFirst => newestFirst
  | count + 1, newestFirst => extend count (nextWord newestFirst :: newestFirst)

def schedule (block : List UInt32) : List UInt32 :=
  (extend 64 block.reverse).reverse

def mix (round : Nat) (b c d : UInt32) : UInt32 × UInt32 :=
  if round < 20 then ((b &&& c) ||| ((~~~b) &&& d), 0x5a827999)
  else if round < 40 then (b ^^^ c ^^^ d, 0x6ed9eba1)
  else if round < 60 then ((b &&& c) ||| (b &&& d) ||| (c &&& d), 0x8f1bbcdc)
  else (b ^^^ c ^^^ d, 0xca62c1d6)

def step (state : State) (input : UInt32 × Nat) : State :=
  let mixed := mix input.2 state.b state.c state.d
  ⟨rotateLeft state.a 5 + mixed.1 + state.e + mixed.2 + input.1,
    state.a, rotateLeft state.b 30, state.c, state.d⟩

def compress (state : State) (block : List UInt32) : State :=
  let result := (schedule block).zipIdx.foldl step state
  ⟨state.a + result.a, state.b + result.b, state.c + result.c,
    state.d + result.d, state.e + result.e⟩

def compressBlocks : Nat → State → List UInt32 → State
  | 0, state, _ => state
  | count + 1, state, input =>
      compressBlocks count (compress state (input.take 16)) (input.drop 16)

def State.bytes (state : State) : Bytes :=
  Bytes.ofWord32 state.a ++ Bytes.ofWord32 state.b ++ Bytes.ofWord32 state.c ++
    Bytes.ofWord32 state.d ++ Bytes.ofWord32 state.e

def digest (message : Bytes) : Bytes :=
  let padded := pad message
  (compressBlocks (padded.length / 64) initial (words padded)).bytes

end Reassembly.Sha1
