import RangeCatalog.Decimal.Binary64

/-! # Shortest decimals

The decimal with the fewest digits among those nearer to a number than to any other number of the
format, and among the decimals of that length the nearest one.
-/

namespace RangeCatalog

/-- A decimal `digits * 10 ^ exponent`. -/
structure Decimal where
  digits : Nat
  exponent : Int
deriving DecidableEq, Repr

namespace Decimal

/-- The same decimal without trailing zeros in its digits. -/
def strip (decimal : Decimal) : Decimal :=
  if 0 < decimal.digits ∧ decimal.digits % 10 = 0 then
    strip ⟨decimal.digits / 10, decimal.exponent + 1⟩
  else decimal
termination_by decimal.digits
decreasing_by omega

end Decimal

namespace Binary64

/-- A quotient times a power of ten, as a quotient. -/
def scaleDecimal (num den : Nat) (exponent : Int) : Nat × Nat :=
  match exponent with
  | .ofNat count => (num * Nat.pow 10 count, den)
  | .negSucc count => (num, den * Nat.pow 10 (count + 1))

/-- The exponent of ten of the leading digit of a quotient that is not zero, found upward from an
estimate that is at most `steps` too small. -/
def leadingExponent (num den : Nat) : (steps : Nat) → (estimate : Int) → Int
  | 0, estimate => estimate
  | steps + 1, estimate =>
    let (n, d) := scaleDecimal num den (-(estimate + 1))
    if n < d then estimate else leadingExponent num den steps (estimate + 1)

/-- The shortest decimal for the magnitude of a number that is not zero. -/
def shortest (number : Binary64) : Decimal :=
  -- In units of a quarter of the last place the number is `4 * significand`.
  let unit := number.exponent - 2
  let center := 4 * number.significand
  let low := if number.significand = minSignificand ∧ minExponent < number.exponent then center - 1 else center - 2
  let high := center + 2
  let closed := number.significand % 2 = 0
  let (num, den) := scale center 1 unit
  let (lowNum, lowDen) := scale low 1 unit
  let (highNum, highDen) := scale high 1 unit
  let logarithm : Int := (Nat.log2 num : Int) - (Nat.log2 den : Int)
  let lead := leadingExponent num den 4 ((logarithm - 1) * 30103 / 100000 - 1)
  let candidate (count : Nat) : Option Decimal :=
    let exponent := lead - count + 1
    let (n, d) := scaleDecimal num den (-exponent)
    let floor := n / d
    let within (digits : Nat) : Bool :=
      let (ln, ld) := scaleDecimal lowNum lowDen (-exponent)
      let (hn, hd) := scaleDecimal highNum highDen (-exponent)
      if closed then ln ≤ digits * ld ∧ digits * hd ≤ hn
      else ln < digits * ld ∧ digits * hd < hn
    let nearest := roundQuotient n d
    if within nearest then some ⟨nearest, exponent⟩
    else if within floor then some ⟨floor, exponent⟩
    else if within (floor + 1) then some ⟨floor + 1, exponent⟩
    else none
  ((List.range 17).findSome? fun index => candidate (index + 1)).getD ⟨number.significand, 0⟩ |>.strip

end Binary64

end RangeCatalog
