import RangeCatalog.Network.Address
import RangeCatalog.Text.Numeral

/-! # Texts of addresses

The written form of an address, and the reader of the written forms. Two grammars are in use: the one
of an address that stands alone and the one of an address before a prefix length. They differ in two
points only, which are the fields of `AddressGrammar`.
-/

namespace RangeCatalog

/-- What a grammar of address texts leaves open. -/
structure AddressGrammar where
  /-- Whether an octet may have leading zeros. -/
  paddedOctets : Bool
  /-- The least number of groups that `::` stands for. -/
  gap : Nat
deriving DecidableEq, Repr

namespace AddressGrammar

/-- The grammar of an address that stands alone. -/
def bare : AddressGrammar := ⟨false, 1⟩

/-- The grammar of an address before a prefix length. -/
def prefixed : AddressGrammar := ⟨true, 0⟩

/-- One to `maxDigits` digits whose number is below `bound`. -/
def readNumber (radix maxDigits bound : Nat) (chars : List Char) : Option (Nat × List Char) :=
  let (digits, rest) := spanDigits radix chars
  let number := numberOfDigits radix digits
  if digits.isEmpty ∨ maxDigits < digits.length ∨ bound ≤ number then none else some (number, rest)

def readOctet (grammar : AddressGrammar) (chars : List Char) : Option (Nat × List Char) := do
  let (number, rest) ← readNumber 10 3 256 chars
  let length := chars.length - rest.length
  if grammar.paddedOctets ∨ length ≤ 1 ∨ chars.head? ≠ some '0' then some (number, rest) else none

/-- The text after the separator, which is absent before the first item. -/
def afterSeparator (separator : Char) (first : Bool) (chars : List Char) : Option (List Char) :=
  if first then some chars
  else match chars with
    | c :: rest => if c = separator then some rest else none
    | [] => none

/-- `count` octets with points between them, as one number. -/
def readOctets (grammar : AddressGrammar) (first : Bool) (number : Nat) :
    (count : Nat) → List Char → Option (Nat × List Char)
  | 0, chars => some (number, chars)
  | count + 1, chars => do
    let (octet, rest) ← readOctet grammar (← afterSeparator '.' first chars)
    readOctets grammar false (number * 256 + octet) count rest

def readDotted (grammar : AddressGrammar) (chars : List Char) : Option (Nat × List Char) :=
  readOctets grammar true 0 4 chars

/-- A run of groups of sixteen bits. -/
structure Groups where
  values : List Nat
  /-- Whether the last two groups were written as a dotted address. -/
  dotted : Bool
  rest : List Char

/-- As many groups as the text has, at most `limit`. A dotted address stands for two groups and ends
the run. -/
def readGroups (grammar : AddressGrammar) : (limit : Nat) → (first : Bool) → List Char → Groups
  | 0, _, chars => ⟨[], false, chars⟩
  | limit + 1, first, chars =>
    let body? := afterSeparator ':' first chars
    match body?.bind fun body => if 0 < limit then readDotted grammar body else none with
    | some (number, rest) => ⟨[number / 65536, number % 65536], true, rest⟩
    | none =>
      match body?.bind (readNumber 16 4 65536) with
      | none => ⟨[], false, chars⟩
      | some (group, rest) =>
        let tail := readGroups grammar limit false rest
        ⟨group :: tail.values, tail.dotted, tail.rest⟩

/-- The number that groups of sixteen bits denote. -/
def numberOfGroups (groups : List Nat) : Nat :=
  numberOfDigits 65536 groups

/-- Eight groups, or fewer with one `::` in place of the groups that are missing. -/
def readGrouped (grammar : AddressGrammar) (chars : List Char) : Option (Nat × List Char) :=
  let head := readGroups grammar 8 true chars
  if head.values.length = 8 then some (numberOfGroups head.values, head.rest)
  else if head.dotted then none
  else match head.rest with
    | ':' :: ':' :: rest =>
      let tail := readGroups grammar (8 - (head.values.length + grammar.gap)) true rest
      let zeros := List.replicate (8 - head.values.length - tail.values.length) 0
      some (numberOfGroups (head.values ++ zeros ++ tail.values), tail.rest)
    | _ => none

/-- An address of the given family at the start of the text. -/
def readAddress (grammar : AddressGrammar) (family : Family) (chars : List Char) :
    Option (Address × List Char) :=
  let number? := match family with
    | .v4 => readDotted grammar chars
    | .v6 => readGrouped grammar chars
  number?.map fun (number, rest) => (Address.ofNat family number, rest)

end AddressGrammar

namespace Address

def dottedText (value : Nat) : String :=
  decimal (value / 0x1000000 % 256) ++ "." ++ decimal (value / 0x10000 % 256) ++ "." ++
    decimal (value / 0x100 % 256) ++ "." ++ decimal (value % 256)

def groups (value : Nat) : List Nat :=
  (List.range 8).map fun index => value / Nat.pow 0x10000 (7 - index) % 0x10000

/-- The longest run of zeros in a list, the first of equal ones, as start and length. -/
def longestZeroRun (values : List Nat) : Nat × Nat :=
  let rec scan (index start length : Nat) (best : Nat × Nat) : List Nat → Nat × Nat
    | [] => best
    | value :: rest =>
      if value = 0 then
        let start := if length = 0 then index else start
        let best := if best.2 < length + 1 then (start, length + 1) else best
        scan (index + 1) start (length + 1) best rest
      else scan (index + 1) 0 0 best rest
  scan 0 0 0 (0, 0) values

def groupsText (values : List Nat) : String :=
  String.intercalate ":" (values.map hexadecimal)

/-- The text of a version 6 address: lower case, no leading zeros, the longest run of at least two
zero groups as `::`, and the last 32 bits dotted below `::ffff:0:0/96`. -/
def groupedText (value : Nat) : String :=
  if value / 0x100000000 = 0xffff then "::ffff:" ++ dottedText value
  else
    let values := groups value
    let (start, length) := longestZeroRun values
    if 2 ≤ length then
      groupsText (values.take start) ++ "::" ++ groupsText (values.drop (start + length))
    else groupsText values

/-- The canonical text of an address. -/
def text (address : Address) : String :=
  match address.family with
  | .v4 => dottedText address.value
  | .v6 => groupedText address.value

/-- Reads a text that is an address and nothing more. Version 4 is tried first. -/
def ofText? (text : String) : Option Address :=
  [Family.v4, Family.v6].findSome? fun family =>
    match AddressGrammar.bare.readAddress family text.toList with
    | some (address, []) => some address
    | _ => none

end Address

end RangeCatalog
