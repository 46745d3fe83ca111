import RangeCatalog.Host.Domain
import RangeCatalog.Network.AddressText
import RangeCatalog.Url.Percent

/-! # Hosts of URLs

The host of a URL with a special scheme is a domain name or an address, and a name whose last part is a
number must be a version 4 address. Addresses of version 4 may be written with one to four parts, each
in decimal, octal or hexadecimal. Other schemes keep the text of the host as it is.
-/

namespace RangeCatalog

inductive UrlError where
  | relativeWithoutBase
  | emptyHost
  | invalidPort
  | invalidV4
  | invalidV6
  | invalidDomain
  | invalidHostCharacter
deriving DecidableEq, Repr

namespace UrlError

def message : UrlError → String
  | relativeWithoutBase => "relative URL without a base"
  | emptyHost => "empty host"
  | invalidPort => "invalid port number"
  | invalidV4 => "invalid IPv4 address"
  | invalidV6 => "invalid IPv6 address"
  | invalidDomain => "invalid international domain name"
  | invalidHostCharacter => "invalid domain character"

end UrlError

namespace Url

inductive Host where
  /-- A name, or the text of a host of a scheme that is not special. -/
  | name (text : String)
  | v4 (value : Nat)
  | v6 (value : Nat)
deriving DecidableEq, Repr

namespace Host

/-- The text of a version 6 address, in groups throughout. -/
def groupedText (value : Nat) : String :=
  let values := Address.groups value
  let (start, length) := Address.longestZeroRun values
  if 2 ≤ length then
    Address.groupsText (values.take start) ++ "::" ++ Address.groupsText (values.drop (start + length))
  else Address.groupsText values

def text : Host → String
  | name text => text
  | v4 value => Address.dottedText value
  | v6 value => "[" ++ groupedText value ++ "]"

/-- The number of one part of a version 4 address: hexadecimal after `0x`, octal after another leading
zero, decimal otherwise. -/
def partNumber? (part : List Char) : Option Nat :=
  let number? (radix : Nat) (numeral : List Char) : Option Nat :=
    let (digits, rest) := spanDigits radix numeral
    if rest.isEmpty then some (numberOfDigits radix digits) else none
  match part with
  | [] => none
  | '0' :: 'x' :: rest => number? 16 rest
  | '0' :: 'X' :: rest => number? 16 rest
  | '0' :: c :: rest => number? 8 (c :: rest)
  | numeral => number? 10 numeral

/-- Whether a name must be read as a version 4 address. -/
def endsInNumber (chars : List Char) : Bool :=
  let parts := chars.splitOn '.'
  let last? := match parts.reverse with
    | [] :: last :: _ => some last
    | [[]] => none
    | last :: _ => some last
    | [] => none
  match last? with
  | none => false
  | some last => (!last.isEmpty && last.all Char.isDigit) || (partNumber? last).isSome

/-- Reads a version 4 address. The last part fills all octets that the others leave. -/
def readV4? (chars : List Char) : Option Nat := do
  let parts := chars.splitOn '.'
  let parts := if parts.getLast? = some [] then parts.dropLast else parts
  let numbers ← parts.mapM partNumber?
  let last ← numbers.getLast?
  let leading := numbers.dropLast
  if 3 < leading.length ∨ leading.any (255 < ·) ∨ Nat.pow 256 (4 - leading.length) ≤ last then none
  else some (numberOfDigits 256 leading * Nat.pow 256 (4 - leading.length) + last)

/-- A dotted address at the end of a version 6 address. No octet has a leading zero. -/
def readDotted? (chars : List Char) : Option Nat :=
  match AddressGrammar.bare.readDotted chars with
  | some (number, []) => some number
  | _ => none

/-- Groups of a version 6 address with colons between them, up to the end of the text or to a `::`,
whose rest is given back. At least one group must be there. -/
def readGroups? : (limit : Nat) → List Char → Option (List Nat × Option (List Char))
  | 0, _ => none
  | limit + 1, chars =>
    match if 0 < limit then readDotted? chars else none with
    | some number => some ([number / 65536, number % 65536], none)
    | none => do
      let (group, rest) ← AddressGrammar.readNumber 16 4 65536 chars
      match rest with
      | [] => some ([group], none)
      | ':' :: ':' :: tail => some ([group], some tail)
      | ':' :: tail => do
        let (groups, after) ← readGroups? limit tail
        return (group :: groups, after)
      | _ => none

/-- Reads a version 6 address. A `::` stands for at least one group. -/
def readV6? (chars : List Char) : Option Nat := do
  let (head, after) ← match chars with
    | ':' :: ':' :: rest => some ([], some rest)
    | _ => readGroups? 8 chars
  match after with
  | none => if head.length = 8 then some (numberOfDigits 65536 head) else none
  | some rest =>
    let tail ← if rest.isEmpty then some [] else
      match readGroups? (7 - head.length) rest with
      | some (tail, none) => some tail
      | _ => none
    if head.length + tail.length ≤ 7 then
      let zeros := List.replicate (8 - head.length - tail.length) 0
      some (numberOfDigits 65536 (head ++ zeros ++ tail))
    else none

def ofBrackets (chars : List Char) : Except UrlError Host :=
  if chars.getLast? = some ']' then
    match readV6? (chars.dropLast.drop 1) with
    | some value => .ok (v6 value)
    | none => .error .invalidV6
  else .error .invalidV6

def ofSpecial (chars : List Char) : Except UrlError Host :=
  if chars.head? = some '[' then ofBrackets chars
  else match RangeCatalog.Host.toAscii? (percentDecode chars) with
    | none => .error .invalidDomain
    | some "" => .error .emptyHost
    | some domain =>
      if endsInNumber domain.toList then
        match readV4? domain.toList with
        | some value => .ok (v4 value)
        | none => .error .invalidV4
      else .ok (name domain)

def ofOther (chars : List Char) : Except UrlError Host :=
  if chars.head? = some '[' then ofBrackets chars
  else if chars.any fun c => c.toNat = 0 || "\t\n\r #/:<>?@[\\]^|".toList.contains c then
    .error .invalidHostCharacter
  else .ok (name (String.ofList (percentEncode EncodeSet.controls chars)))

end Host

end Url

end RangeCatalog
