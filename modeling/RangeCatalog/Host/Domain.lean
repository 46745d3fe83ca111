import RangeCatalog.Host.Label
import RangeCatalog.Host.Punycode
import RangeCatalog.Unicode.MappingTable
import RangeCatalog.Unicode.ValidityTable

/-! # Domain names

The form of a host name in ASCII. Characters are mapped first, which folds case and replaces or drops
compatibility forms, and the result is normalized. Every character of a part must then stand for itself. A
part that is not in ASCII is encoded, and one that claims to be an encoding is decoded and held to the same
rules.
-/

namespace RangeCatalog.Host

open Unicode

def mappingRuns : List Run :=
  runsOfTable mappingTable

def validityRuns : List Run :=
  runsOfTable validityTable

/-- What stands for a code point in a host name, unless it may not occur. Letters of ASCII become lower
case. -/
def mapCode? (code : Nat) : Option (List Nat) :=
  if code < 0x80 then
    some [if 'A'.toNat ≤ code ∧ code ≤ 'Z'.toNat then code + 32 else code]
  else match findRun? mappingRuns code with
    | some run => some (run.target code)
    | none => if (findRun? validityRuns code).isSome then some [code] else none

/-- Whether a character of ASCII may not occur in a host name. -/
def isForbidden (code : Nat) : Bool :=
  code ≤ 0x20 || code == 0x7f || (code < 0x80 && "#%/:<>?@[\\]^|".toList.contains (Char.ofNat code))

/-- Whether a code point may stand in a part, which is what stands for itself. -/
def isSettled (code : Nat) : Bool :=
  mapCode? code == some [code]

def encodedMark : List Nat := "xn--".toList.map Char.toNat

/-- The text that an encoded part stands for, when it is properly encoded: not in ASCII, settled, and
normalized. -/
def decodePart? (part : List Nat) : Option (List Nat) := do
  let codes ← Punycode.decode? ((part.drop encodedMark.length).map Char.ofNat)
  if codes.all (· < 0x80) || ! codes.all isSettled || normalize codes != codes then none
  else some codes

/-- A part of a name: its text, and its form in ASCII. -/
structure Part where
  codes : List Nat
  ascii : List Char

/-- Reads a part that has been mapped and normalized. -/
def Part.ofCodes? (part : List Nat) : Option Part :=
  if ! part.all isSettled then none
  else if encodedMark.isPrefixOf part then
    if part.all (· < 0x80) then
      (decodePart? part).map fun codes => ⟨codes, part.map Char.ofNat⟩
    else none
  else if part.all (· < 0x80) then some ⟨part, part.map Char.ofNat⟩
  else some ⟨part, "xn--".toList ++ Punycode.encode part⟩

/-- The form of a host name in ASCII, given in UTF-8, unless it is no host name. -/
def toAscii? (octets : List UInt8) : Option String := do
  let text ← String.fromUTF8? octets.toByteArray
  let mapped := (← (text.toList.map Char.toNat).mapM mapCode?).flatten
  let codes := if mapped.all (· < 0x80) then mapped else normalize mapped
  if codes.any isForbidden then none
  else
    let parts ← (codes.splitOn '.'.toNat).mapM Part.ofCodes?
    let rightToLeft := parts.any fun part => part.codes.any Label.isRightToLeft
    if parts.all fun part => Label.allowed rightToLeft part.codes then
      some (String.intercalate "." (parts.map fun part => String.ofList part.ascii))
    else none

end RangeCatalog.Host
