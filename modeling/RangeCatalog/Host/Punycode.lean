/-! # Punycode

The encoding of a part of a host name in ASCII: its ASCII characters, a hyphen, and for each other
character, in increasing order, the distance from the one before it in code point and place. Distances
are written in a variable number of digits of base 36, whose thresholds adapt to the distances seen.
-/

namespace RangeCatalog.Punycode

/-- The character of a digit: letters for 0 to 25, decimal digits for 26 to 35. -/
def digitChar (digit : Nat) : Char :=
  if digit < 26 then Char.ofNat ('a'.toNat + digit) else Char.ofNat ('0'.toNat + (digit - 26))

def digitValue? (c : Char) : Option Nat :=
  if 'a' ≤ c ∧ c ≤ 'z' then some (c.toNat - 'a'.toNat)
  else if '0' ≤ c ∧ c ≤ '9' then some (c.toNat - '0'.toNat + 26)
  else none

/-- The first code point that is not written as it is. -/
def firstCode : Nat := 0x80

def firstBias : Nat := 72

/-- The threshold of the digit at a position, where positions go up in steps of 36. -/
def threshold (position bias : Nat) : Nat :=
  max 1 (min 26 (position - bias))

theorem threshold_pos (position bias : Nat) : 1 ≤ threshold position bias :=
  Nat.le_max_left _ _

theorem threshold_le (position bias : Nat) : threshold position bias ≤ 26 := by
  unfold threshold
  omega

/-- Divides a distance until it is small, and counts the divisions in steps of 36. -/
def shrink (distance steps : Nat) : Nat × Nat :=
  if 455 < distance then shrink (distance / 35) (steps + 36) else (distance, steps)
termination_by distance
decreasing_by omega

/-- The bias after a distance, for a text of `count` characters. -/
def adapt (distance count : Nat) (isFirst : Bool) : Nat :=
  let damped := if isFirst then distance / 700 else distance / 2
  let (small, steps) := shrink (damped + damped / count) 0
  steps + 36 * small / (small + 38)

def encodeDistance (bias position distance : Nat) : List Char :=
  let limit := threshold position bias
  if distance < limit then [digitChar distance]
  else
    digitChar (limit + (distance - limit) % (36 - limit)) ::
      encodeDistance bias (position + 36) ((distance - limit) / (36 - limit))
termination_by distance
decreasing_by
  have := threshold_pos position bias
  have := Nat.div_le_self (distance - threshold position bias) (36 - threshold position bias)
  omega

/-- The encoder between two characters. -/
structure Encoder where
  written : List Char
  distance : Nat
  bias : Nat
  /-- How many characters are written. -/
  count : Nat
  isFirst : Bool

namespace Encoder

/-- Passes one character of the text while the characters `code` are being written. -/
def pass (code : Nat) (encoder : Encoder) (other : Nat) : Encoder :=
  if other < code then { encoder with distance := encoder.distance + 1 }
  else if other = code then
    { written := encoder.written ++ encodeDistance encoder.bias 36 encoder.distance
      distance := 0
      bias := adapt encoder.distance (encoder.count + 1) encoder.isFirst
      count := encoder.count + 1
      isFirst := false }
  else encoder

/-- Writes all characters `code`, when `last` is the first code point not yet written. -/
def write (codes : List Nat) (state : Encoder × Nat) (code : Nat) : Encoder × Nat :=
  let (encoder, last) := state
  let start := { encoder with distance := encoder.distance + (code - last) * (encoder.count + 1) }
  let done := codes.foldl (pass code) start
  ({ done with distance := done.distance + 1 }, code + 1)

end Encoder

def encode (codes : List Nat) : List Char :=
  let basic := codes.filter (· < firstCode)
  let others := ((codes.filter (firstCode ≤ ·)).mergeSort (· ≤ ·)).eraseReps
  let start := (basic.map Char.ofNat) ++ if basic.isEmpty then [] else ['-']
  (others.foldl (Encoder.write codes) (⟨start, 0, firstBias, basic.length, true⟩, firstCode)).1.written

/-- A distance and what follows it. -/
def decodeDistance (bias : Nat) :
    (position weight distance : Nat) → List Char → Option (Nat × List Char)
  | _, _, _, [] => none
  | position, weight, distance, c :: rest =>
    match digitValue? c with
    | none => none
    | some digit =>
      let limit := threshold position bias
      let distance := distance + digit * weight
      if digit < limit then some (distance, rest)
      else decodeDistance bias (position + 36) (weight * (36 - limit)) distance rest

theorem decodeDistance_length {bias position weight distance result : Nat} {chars rest : List Char}
    (read : decodeDistance bias position weight distance chars = some (result, rest)) :
    rest.length < chars.length := by
  induction chars generalizing position weight distance with
  | nil => simp [decodeDistance] at read
  | cons c tail ih =>
    unfold decodeDistance at read
    split at read
    · simp at read
    · simp only at read
      split at read
      · simp only [Option.some.injEq, Prod.mk.injEq] at read
        simp [read.2]
      · exact Nat.lt_succ_of_lt (ih read)

/-- Puts the characters of the distances into a text. `code` and `place` are the code point and the
place from which the next distance counts. -/
def insertAll (codes : List Nat) (code place bias : Nat) (isFirst : Bool) (chars : List Char) :
    Option (List Nat) :=
  if chars.isEmpty then some codes
  else match _read : decodeDistance bias 36 1 0 chars with
    | none => none
    | some (distance, rest) =>
      let count := codes.length + 1
      let next := code + (place + distance) / count
      let index := (place + distance) % count
      if next ≤ 0x10ffff then
        insertAll (codes.take index ++ next :: codes.drop index) next (index + 1)
          (adapt distance count isFirst) false rest
      else none
termination_by chars.length
decreasing_by exact decodeDistance_length _read

/-- The text before the last hyphen and the text after it. -/
def splitLastHyphen (chars : List Char) : List Char × List Char :=
  let after := (chars.reverse.takeWhile (· ≠ '-')).reverse
  (chars.take (chars.length - after.length - 1), after)

/-- The text of an encoding, which is in ASCII and has no upper-case letters. -/
def decode? (chars : List Char) : Option (List Nat) :=
  let (basic, digits) := splitLastHyphen chars
  insertAll (basic.map Char.toNat) firstCode 0 firstBias true digits

end RangeCatalog.Punycode
