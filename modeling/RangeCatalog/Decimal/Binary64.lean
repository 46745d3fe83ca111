/-! # Binary floating point

The finite numbers of the binary64 format as a sign, a significand and an exponent of two, rounding
of an exact quotient to the nearest of them, and the reading of a decimal literal.

A literal is read in two roundings: its leading digits, as far as they fit a 64-bit word, become the
nearest number, which is then multiplied or divided by the number nearest to a power of ten. The last
bit may therefore differ from the number nearest to the literal.
-/

namespace RangeCatalog

/-- A finite number: `significand * 2 ^ exponent` with a sign. Zero has a sign too. -/
structure Binary64 where
  negative : Bool
  significand : Nat
  exponent : Int
deriving DecidableEq, Repr

namespace Binary64

/-- The least exponent, which the subnormal numbers share. -/
def minExponent : Int := -1074

def maxExponent : Int := 971

/-- The least significand of the normal numbers. All significands are less than twice it. -/
def minSignificand : Nat := 0x10000000000000

def zero (negative : Bool) : Binary64 :=
  ⟨negative, 0, minExponent⟩

/-- The integer nearest to a quotient; a half goes to the even neighbour. -/
def roundQuotient (num den : Nat) : Nat :=
  let floor := num / den
  let twice := 2 * (num % den)
  if twice < den then floor
  else if den < twice then floor + 1
  else floor + floor % 2

/-- A quotient times a power of two, as a quotient. -/
def scale (num den : Nat) (exponent : Int) : Nat × Nat :=
  match exponent with
  | .ofNat count => (num * Nat.pow 2 count, den)
  | .negSucc count => (num, den * Nat.pow 2 (count + 1))

/-- The number nearest to a quotient, unless it lies beyond the greatest one. -/
def ofQuotient (negative : Bool) (num den : Nat) : Option Binary64 :=
  if num = 0 then some (zero negative)
  else
    let estimate : Int := (Nat.log2 num : Int) - (Nat.log2 den : Int)
    let (scaledNum, scaledDen) := scale num den (-estimate)
    let magnitude := if scaledNum < scaledDen then estimate - 1 else estimate
    let exponent := max (magnitude - 52) minExponent
    let (unitNum, unitDen) := scale num den (-exponent)
    let rounded := roundQuotient unitNum unitDen
    let (significand, exponent) :=
      if rounded = 2 * minSignificand then (minSignificand, exponent + 1) else (rounded, exponent)
    if maxExponent < exponent then none else some ⟨negative, significand, exponent⟩

def mul (a b : Binary64) : Option Binary64 :=
  let (num, den) := scale (a.significand * b.significand) 1 (a.exponent + b.exponent)
  ofQuotient (a.negative != b.negative) num den

def div (a b : Binary64) : Option Binary64 :=
  let (num, den) := scale a.significand b.significand (a.exponent - b.exponent)
  ofQuotient (a.negative != b.negative) num den

/-- The greatest power of ten with a finite number. -/
def maxPower : Nat := 308

/-- The number nearest to a power of ten. -/
def powerOfTen (power : Nat) : Binary64 :=
  (ofQuotient false (Nat.pow 10 power) 1).getD (zero false)

/-- Multiplies by a power of ten, in one step for each power up to `maxPower`. A number that is not
zero has no product with a greater power. -/
def shiftDecimal (number : Binary64) (exponent : Int) : Option Binary64 :=
  if number.significand = 0 then some number
  else match exponent with
    | .ofNat power => if power ≤ maxPower then mul number (powerOfTen power) else none
    | .negSucc power =>
      if power + 1 ≤ maxPower then div number (powerOfTen (power + 1))
      else match div number (powerOfTen maxPower) with
        | some smaller => shiftDecimal smaller (.negSucc power + maxPower)
        | none => none
termination_by exponent.natAbs
decreasing_by simp only [maxPower] at *; omega

def maxWord : Nat := 0xffffffffffffffff

/-- Appends digits to a number for as long as it fits a 64-bit word, and counts those left over. -/
def appendDigits (number : Nat) : List Nat → Nat × Nat
  | [] => (number, 0)
  | digit :: rest =>
    if number * 10 + digit ≤ maxWord then appendDigits (number * 10 + digit) rest
    else (number, rest.length + 1)

/-- The number of a decimal literal with the given digits before the point, digits after it, and
exponent of ten. -/
def ofDecimal (negative : Bool) (whole fraction : List Nat) (exponent : Int) : Option Binary64 := do
  let (leading, dropped) := appendDigits 0 whole
  let (digits, unread) := appendDigits leading fraction
  let read : Nat := fraction.length - unread
  let number ← shiftDecimal (← ofQuotient false digits 1) ((dropped : Int) - read + exponent)
  return { number with negative }

end Binary64

end RangeCatalog
