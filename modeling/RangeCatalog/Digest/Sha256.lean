/-! # SHA-256

The digest of a sequence of octets as FIPS 180-4 defines it: padding to whole blocks of 64 octets,
and one compression of 64 rounds for each block. Words are 32 bits wide and sums wrap.
-/

namespace RangeCatalog.Sha256

/-- The eight words that the compression carries from block to block. -/
structure State where
  a : UInt32
  b : UInt32
  c : UInt32
  d : UInt32
  e : UInt32
  f : UInt32
  g : UInt32
  h : UInt32
deriving DecidableEq

namespace State

def initial : State where
  a := 0x6a09e667
  b := 0xbb67ae85
  c := 0x3c6ef372
  d := 0xa54ff53a
  e := 0x510e527f
  f := 0x9b05688c
  g := 0x1f83d9ab
  h := 0x5be0cd19

/-- The sum word by word. -/
def add (x y : State) : State :=
  ⟨x.a + y.a, x.b + y.b, x.c + y.c, x.d + y.d, x.e + y.e, x.f + y.f, x.g + y.g, x.h + y.h⟩

def toList (state : State) : List UInt32 :=
  [state.a, state.b, state.c, state.d, state.e, state.f, state.g, state.h]

end State

def roundConstants : List UInt32 :=
  [0x428a2f98, 0x71374491, 0xb5c0fbcf, 0xe9b5dba5, 0x3956c25b, 0x59f111f1, 0x923f82a4, 0xab1c5ed5,
    0xd807aa98, 0x12835b01, 0x243185be, 0x550c7dc3, 0x72be5d74, 0x80deb1fe, 0x9bdc06a7, 0xc19bf174,
    0xe49b69c1, 0xefbe4786, 0x0fc19dc6, 0x240ca1cc, 0x2de92c6f, 0x4a7484aa, 0x5cb0a9dc, 0x76f988da,
    0x983e5152, 0xa831c66d, 0xb00327c8, 0xbf597fc7, 0xc6e00bf3, 0xd5a79147, 0x06ca6351, 0x14292967,
    0x27b70a85, 0x2e1b2138, 0x4d2c6dfc, 0x53380d13, 0x650a7354, 0x766a0abb, 0x81c2c92e, 0x92722c85,
    0xa2bfe8a1, 0xa81a664b, 0xc24b8b70, 0xc76c51a3, 0xd192e819, 0xd6990624, 0xf40e3585, 0x106aa070,
    0x19a4c116, 0x1e376c08, 0x2748774c, 0x34b0bcb5, 0x391c0cb3, 0x4ed8aa4a, 0x5b9cca4f, 0x682e6ff3,
    0x748f82ee, 0x78a5636f, 0x84c87814, 0x8cc70208, 0x90befffa, 0xa4506ceb, 0xbef9a3f7, 0xc67178f2]

def rotate (word : UInt32) (count : UInt32) : UInt32 :=
  (word >>> count) ||| (word <<< (32 - count))

def round (state : State) (term : UInt32) : State :=
  let sum1 := rotate state.e 6 ^^^ rotate state.e 11 ^^^ rotate state.e 25
  let choice := (state.e &&& state.f) ^^^ (~~~state.e &&& state.g)
  let temp1 := state.h + sum1 + choice + term
  let sum0 := rotate state.a 2 ^^^ rotate state.a 13 ^^^ rotate state.a 22
  let majority := (state.a &&& state.b) ^^^ (state.a &&& state.c) ^^^ (state.b &&& state.c)
  ⟨temp1 + (sum0 + majority), state.a, state.b, state.c, state.d + temp1, state.e, state.f, state.g⟩

/-- Appends one word to the schedule. -/
def extend (schedule : Array UInt32) : Array UInt32 :=
  let size := schedule.size
  let w15 := schedule.getD (size - 15) 0
  let w2 := schedule.getD (size - 2) 0
  let sigma0 := rotate w15 7 ^^^ rotate w15 18 ^^^ (w15 >>> 3)
  let sigma1 := rotate w2 17 ^^^ rotate w2 19 ^^^ (w2 >>> 10)
  schedule.push
    (schedule.getD (size - 16) 0 + sigma0 + schedule.getD (size - 7) 0 + sigma1)

/-- The 64 words of the schedule of a block of 16 words. -/
def schedule (block : List UInt32) : List UInt32 :=
  (Nat.repeat extend 48 block.toArray).toList

def compress (state : State) (block : List UInt32) : State :=
  state.add <| (List.zipWith (· + ·) roundConstants (schedule block)).foldl round state

/-- The octets of a number, the most significant first. -/
def bigEndian (count number : Nat) : List UInt8 :=
  (List.range count).map fun index => UInt8.ofNat (number / Nat.pow 256 (count - 1 - index))

/-- The message with a set bit, zeros and its length in bits, to whole blocks. -/
def pad (message : List UInt8) : List UInt8 :=
  message ++ 0x80 :: List.replicate ((119 - message.length % 64) % 64) 0 ++
    bigEndian 8 (8 * message.length)

/-- Octets as words, four to a word. -/
def words : List UInt8 → List UInt32
  | a :: b :: c :: d :: rest =>
    (a.toUInt32 <<< 24 ||| b.toUInt32 <<< 16 ||| c.toUInt32 <<< 8 ||| d.toUInt32) :: words rest
  | _ => []

/-- Takes all whole blocks of the words into the state. -/
def absorb (state : State) (message : List UInt32) : State :=
  if 16 ≤ message.length then absorb (compress state (message.take 16)) (message.drop 16)
  else state
termination_by message.length
decreasing_by simp only [List.length_drop]; omega

/-- The 32 octets of the digest. -/
def digest (message : List UInt8) : List UInt8 :=
  (absorb State.initial (words (pad message))).toList.flatMap fun word => bigEndian 4 word.toNat

end RangeCatalog.Sha256
