import RangeCatalog.Json.Basic
import RangeCatalog.Text.Numeral

/-! # JSON tokens

The tokens of a JSON text. Only spaces, tabs, line feeds and carriage returns may stand between them.
A numeral without fraction and exponent is an integer when a signed or unsigned 64-bit word holds it;
minus zero and all other numerals are binary numbers.
-/

namespace RangeCatalog.Json

inductive Token where
  | openArray
  | closeArray
  | openObject
  | closeObject
  | comma
  | colon
  | text (value : String)
  /-- A number, a truth value or null. -/
  | scalar (value : Json)
deriving DecidableEq

namespace Token

/-- Whether a character may stand between tokens. -/
def isBlank (c : Char) : Bool :=
  c = ' ' || c = '\t' || c = '\n' || c = '\r'

/-- The number of four hexadecimal digits. -/
def readUnit : List Char → Option (Nat × List Char)
  | a :: b :: c :: d :: rest => do
    let digits ← [a, b, c, d].mapM (digitValue? 16)
    return (numberOfDigits 16 digits, rest)
  | _ => none

/-- A character written as one unit of sixteen bits, or as a pair of surrogates. -/
def readUnits (chars : List Char) : Option (Char × List Char) :=
  match readUnit chars with
  | none => none
  | some (unit, rest) =>
    if 0xd800 ≤ unit ∧ unit ≤ 0xdbff then
      match rest with
      | '\\' :: 'u' :: second =>
        match readUnit second with
        | some (low, tail) =>
          if 0xdc00 ≤ low ∧ low ≤ 0xdfff then
            some (Char.ofNat (0x10000 + (unit - 0xd800) * 1024 + (low - 0xdc00)), tail)
          else none
        | none => none
      | _ => none
    else if 0xdc00 ≤ unit ∧ unit ≤ 0xdfff then none
    else some (Char.ofNat unit, rest)

/-- The character that follows a backslash in a string. -/
def readEscape : List Char → Option (Char × List Char)
  | '"' :: rest => some ('"', rest)
  | '\\' :: rest => some ('\\', rest)
  | '/' :: rest => some ('/', rest)
  | 'b' :: rest => some (Char.ofNat 8, rest)
  | 'f' :: rest => some (Char.ofNat 12, rest)
  | 'n' :: rest => some ('\n', rest)
  | 'r' :: rest => some ('\r', rest)
  | 't' :: rest => some ('\t', rest)
  | 'u' :: rest => readUnits rest
  | _ => none

theorem readUnit_length {chars rest : List Char} {unit : Nat}
    (read : readUnit chars = some (unit, rest)) : rest.length < chars.length := by
  unfold readUnit at read
  split at read
  · simp only [Option.bind_eq_bind, Option.bind_eq_some_iff, Option.pure_def, Option.some.injEq,
      Prod.mk.injEq] at read
    obtain ⟨_, _, _, rfl⟩ := read
    simp only [List.length_cons]
    omega
  · simp at read

theorem readUnits_length {chars rest : List Char} {c : Char}
    (read : readUnits chars = some (c, rest)) : rest.length < chars.length := by
  unfold readUnits at read
  split at read
  · simp at read
  · rename_i first
    have shorter := readUnit_length first
    split at read
    · split at read
      · split at read
        · rename_i second
          have shorter' := readUnit_length second
          split at read
          · simp only [Option.some.injEq, Prod.mk.injEq] at read
            obtain ⟨_, rfl⟩ := read
            simp only [List.length_cons] at shorter
            omega
          · simp at read
        · simp at read
      · simp at read
    · split at read
      · simp at read
      · simp only [Option.some.injEq, Prod.mk.injEq] at read
        obtain ⟨_, rfl⟩ := read
        exact shorter

theorem readEscape_length {chars rest : List Char} {c : Char}
    (read : readEscape chars = some (c, rest)) : rest.length < chars.length := by
  unfold readEscape at read
  split at read
  case h_9 => exact Nat.lt_succ_of_lt (readUnits_length read)
  case h_10 => simp at read
  all_goals
    simp only [Option.some.injEq, Prod.mk.injEq] at read
    obtain ⟨_, rfl⟩ := read
    simp

/-- The characters of a string up to its closing quote. Control characters must be escaped. -/
def readString (chars : List Char) : Option (List Char × List Char) :=
  match chars with
  | [] => none
  | c :: rest =>
    if c = '"' then some ([], rest)
    else if c = '\\' then
      match _escaped : readEscape rest with
      | none => none
      | some (character, tail) =>
        (readString tail).map fun (body, after) => (character :: body, after)
    else if c.toNat < 32 then none
    else (readString rest).map fun (body, after) => (c :: body, after)
termination_by chars.length
decreasing_by
  · have := readEscape_length _escaped
    simp only [List.length_cons]
    omega
  · simp

theorem readString_length {chars body rest : List Char}
    (read : readString chars = some (body, rest)) : rest.length < chars.length := by
  fun_induction readString chars generalizing body with
  | case1 => simp at read
  | case2 tail =>
    simp only [Option.some.injEq, Prod.mk.injEq] at read
    simp [read.2]
  | case3 => simp at read
  | case4 tail character after escaped _ ih =>
    obtain ⟨⟨inner, final⟩, found, same⟩ := Option.map_eq_some_iff.mp read
    simp only [Prod.mk.injEq] at same
    have shorter := readEscape_length escaped
    have shorter' := ih (found.trans (by rw [same.2]))
    simp only [List.length_cons]
    omega
  | case5 => simp at read
  | case6 c tail _ _ _ ih =>
    obtain ⟨⟨inner, final⟩, found, same⟩ := Option.map_eq_some_iff.mp read
    simp only [Prod.mk.injEq] at same
    exact Nat.lt_succ_of_lt (ih (found.trans (by rw [same.2])))

/-- The digits after a point, when there is a point. -/
def readFraction : List Char → Option (Option (List Nat) × List Char)
  | '.' :: rest =>
    let (digits, tail) := spanDigits 10 rest
    if digits.isEmpty then none else some (some digits, tail)
  | chars => some (none, chars)

/-- Whether the number after the letter of an exponent is negative, and its numeral. -/
def readSign : List Char → Bool × List Char
  | '+' :: rest => (false, rest)
  | '-' :: rest => (true, rest)
  | chars => (false, chars)

def readPower (chars : List Char) : Option (Int × List Char) :=
  let (digits, tail) := spanDigits 10 (readSign chars).2
  if digits.isEmpty then none
  else
    let power : Int := numberOfDigits 10 digits
    some (if (readSign chars).1 then -power else power, tail)

def readExponent : List Char → Option (Option Int × List Char)
  | c :: rest =>
    if c = 'e' ∨ c = 'E' then (readPower rest).map fun (power, tail) => (some power, tail)
    else some (none, c :: rest)
  | [] => some (none, [])

def numberOf (negative : Bool) (whole : List Nat) (fraction : Option (List Nat))
    (exponent : Option Int) : Option Json :=
  let (magnitude, dropped) := Binary64.appendDigits 0 whole
  let isWord := if negative then 0 < magnitude ∧ magnitude ≤ 0x8000000000000000 else True
  if fraction.isNone ∧ exponent.isNone ∧ dropped = 0 ∧ isWord then
    some (.integer (if negative then -(magnitude : Int) else magnitude))
  else (Binary64.ofDecimal negative whole (fraction.getD []) (exponent.getD 0)).map .float

/-- A numeral without its sign. A leading zero stands alone. -/
def readNumeral (negative : Bool) (chars : List Char) : Option (Token × List Char) := do
  let (whole, rest) := spanDigits 10 chars
  if whole.isEmpty ∨ (whole.head? = some 0 ∧ 1 < whole.length) then none
  else
    let (fraction, rest) ← readFraction rest
    let (exponent, rest) ← readExponent rest
    let value ← numberOf negative whole fraction exponent
    return (scalar value, rest)

theorem readFraction_length {chars rest : List Char} {fraction : Option (List Nat)}
    (read : readFraction chars = some (fraction, rest)) : rest.length ≤ chars.length := by
  unfold readFraction at read
  split at read
  · rename_i after
    have total := spanDigits_length 10 after
    simp only at read
    split at read
    · simp at read
    · simp only [Option.some.injEq, Prod.mk.injEq] at read
      obtain ⟨_, rfl⟩ := read
      simp only [List.length_cons]
      omega
  · simp only [Option.some.injEq, Prod.mk.injEq] at read
    exact Nat.le_of_eq (congrArg List.length read.2.symm)

theorem readSign_length (chars : List Char) : (readSign chars).2.length ≤ chars.length := by
  unfold readSign
  split <;> simp

theorem readPower_length {chars rest : List Char} {power : Int}
    (read : readPower chars = some (power, rest)) : rest.length ≤ chars.length := by
  unfold readPower at read
  have total := spanDigits_length 10 (readSign chars).2
  have shorter := readSign_length chars
  simp only at read
  split at read
  · simp at read
  · simp only [Option.some.injEq, Prod.mk.injEq] at read
    obtain ⟨_, rfl⟩ := read
    omega

theorem readExponent_length {chars rest : List Char} {exponent : Option Int}
    (read : readExponent chars = some (exponent, rest)) : rest.length ≤ chars.length := by
  unfold readExponent at read
  split at read
  · split at read
    · obtain ⟨⟨power, tail⟩, found, same⟩ := Option.map_eq_some_iff.mp read
      simp only [Prod.mk.injEq] at same
      obtain ⟨_, rfl⟩ := same
      exact Nat.le_succ_of_le (readPower_length found)
    · simp only [Option.some.injEq, Prod.mk.injEq] at read
      exact Nat.le_of_eq (congrArg List.length read.2.symm)
  · simp only [Option.some.injEq, Prod.mk.injEq] at read
    exact Nat.le_of_eq (congrArg List.length read.2.symm)

theorem readNumeral_length {negative : Bool} {chars rest : List Char} {token : Token}
    (read : readNumeral negative chars = some (token, rest)) : rest.length < chars.length := by
  unfold readNumeral at read
  have total := spanDigits_length 10 chars
  simp only at read
  split at read
  · simp at read
  · rename_i present
    simp only [Option.bind_eq_bind, Option.bind_eq_some_iff, Option.pure_def, Option.some.injEq,
      Prod.mk.injEq] at read
    obtain ⟨⟨fraction, afterFraction⟩, hf, ⟨exponent, afterExponent⟩, he, value, hv, _, rfl⟩ := read
    have shorter := readFraction_length hf
    have shorter' := readExponent_length he
    simp only [List.isEmpty_iff, not_or] at present
    have := List.length_pos_iff.mpr present.1
    simp only at shorter' ⊢
    omega

/-- The token at the start of a text that does not start with a blank. -/
def read : List Char → Option (Token × List Char)
  | '[' :: rest => some (openArray, rest)
  | ']' :: rest => some (closeArray, rest)
  | '\x7b' :: rest => some (openObject, rest)
  | '\x7d' :: rest => some (closeObject, rest)
  | ',' :: rest => some (comma, rest)
  | ':' :: rest => some (colon, rest)
  | '"' :: rest => (readString rest).map fun (body, tail) => (text (String.ofList body), tail)
  | 'n' :: 'u' :: 'l' :: 'l' :: rest => some (scalar .null, rest)
  | 't' :: 'r' :: 'u' :: 'e' :: rest => some (scalar (.bool true), rest)
  | 'f' :: 'a' :: 'l' :: 's' :: 'e' :: rest => some (scalar (.bool false), rest)
  | '-' :: rest => readNumeral true rest
  | chars => readNumeral false chars

theorem read_length {chars rest : List Char} {token : Token}
    (found : read chars = some (token, rest)) : rest.length < chars.length := by
  unfold read at found
  split at found
  case h_7 =>
    obtain ⟨⟨body, tail⟩, inner, same⟩ := Option.map_eq_some_iff.mp found
    simp only [Prod.mk.injEq] at same
    obtain ⟨_, rfl⟩ := same
    exact Nat.lt_succ_of_lt (readString_length inner)
  case h_11 => exact Nat.lt_succ_of_lt (readNumeral_length found)
  case h_12 => exact readNumeral_length found
  all_goals
    simp only [Option.some.injEq, Prod.mk.injEq] at found
    obtain ⟨_, rfl⟩ := found
    simp only [List.length_cons]
    omega

def all? (chars : List Char) : Option (List Token) :=
  match chars with
  | [] => some []
  | c :: rest =>
    if isBlank c then all? rest
    else match _found : read (c :: rest) with
      | none => none
      | some (token, tail) => (all? tail).map (token :: ·)
termination_by chars.length
decreasing_by
  · simp
  · exact read_length _found

end Token

end RangeCatalog.Json
