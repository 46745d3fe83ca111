/-! # Numerals

Digits of a radix up to sixteen, the run of digits at the start of a text, and the number that a run
denotes. Both cases of the letters `a` to `f` are digits; written numerals use lower case.
-/

namespace RangeCatalog

/-- The value of a digit, when the character is a digit below `radix`. -/
def digitValue? (radix : Nat) (c : Char) : Option Nat :=
  let value? :=
    if '0' ≤ c ∧ c ≤ '9' then some (c.toNat - '0'.toNat)
    else if 'a' ≤ c ∧ c ≤ 'f' then some (c.toNat - 'a'.toNat + 10)
    else if 'A' ≤ c ∧ c ≤ 'F' then some (c.toNat - 'A'.toNat + 10)
    else none
  value?.filter (· < radix)

/-- The leading digits of a text and what follows them. -/
def spanDigits (radix : Nat) : List Char → List Nat × List Char
  | [] => ([], [])
  | c :: rest =>
    match digitValue? radix c with
    | some digit => let (digits, tail) := spanDigits radix rest; (digit :: digits, tail)
    | none => ([], c :: rest)

theorem spanDigits_length (radix : Nat) (chars : List Char) :
    (spanDigits radix chars).1.length + (spanDigits radix chars).2.length = chars.length := by
  induction chars with
  | nil => rfl
  | cons c rest ih =>
    unfold spanDigits
    cases digitValue? radix c with
    | none => simp
    | some digit => simp only [List.length_cons]; omega

/-- The number that digits denote, the most significant first. -/
def numberOfDigits (radix : Nat) (digits : List Nat) : Nat :=
  digits.foldl (fun number digit => number * radix + digit) 0

def numberOfText? (radix : Nat) (chars : List Char) : Option Nat :=
  match spanDigits radix chars with
  | ([], _) => none
  | (digits, []) => some (numberOfDigits radix digits)
  | _ => none

def decimal (number : Nat) : String :=
  String.ofList (Nat.toDigits 10 number)

/-- The decimal numeral of a number with at least `width` digits. -/
def paddedDecimal (width number : Nat) : String :=
  let digits := Nat.toDigits 10 number
  String.ofList (List.replicate (width - digits.length) '0' ++ digits)

def hexadecimal (number : Nat) : String :=
  String.ofList (Nat.toDigits 16 number)

/-- The two lower-case hexadecimal digits of an octet. -/
def hexOctet (octet : UInt8) : List Char :=
  [Nat.digitChar (octet.toNat / 16), Nat.digitChar (octet.toNat % 16)]

/-- Reads pairs of hexadecimal digits as octets. -/
def octetsOfHex? : List Char → Option (List UInt8)
  | [] => some []
  | high :: low :: rest => do
    let h ← digitValue? 16 high
    let l ← digitValue? 16 low
    let octets ← octetsOfHex? rest
    return UInt8.ofNat (h * 16 + l) :: octets
  | [_] => none

end RangeCatalog
