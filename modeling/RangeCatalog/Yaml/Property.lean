import RangeCatalog.Text.Numeral
import RangeCatalog.Yaml.Text
import RangeCatalog.Yaml.Token

/-! # Anchors, tags and directives

The parts of a text that describe a node or a document. Octets of a tag may be written as a percent
sign and two hexadecimal digits, as long as they form whole characters.
-/

namespace RangeCatalog.Yaml

/-- Reads the name of an anchor or an alias, which something other than a name character must end. -/
def readAnchorName (spots : List Spot) : Option (String × List Spot) :=
  let name := charsWhile isNameChar spots
  let rest := spots.drop name.length
  let next := ahead 0 rest
  if name.isEmpty ∨ ¬(isGap next ∨ next ∈ "?:,]\x7d%@`".toList) then none
  else some (String.ofList name, rest)

/-- Reads a handle: an exclamation mark, and perhaps name characters and another one. -/
def readHandle (spots : List Spot) : Option (List Char × List Spot) :=
  if ahead 0 spots = '!' then
    let name := charsWhile isNameChar (spots.drop 1)
    let rest := spots.drop (1 + name.length)
    if ahead 0 rest = '!' then some ('!' :: name ++ ['!'], rest.drop 1) else some ('!' :: name, rest)
  else none

/-- Whether a character may stand in a tag. The last three are for whole tags only. -/
def isTagChar (whole : Bool) (c : Char) : Bool :=
  isNameChar c || ";/?:@&=+$.%!~*'()".toList.contains c || (whole && ",[]".toList.contains c)

/-- How many more octets follow the first one of a character. -/
def furtherOctets? (octet : Nat) : Option Nat :=
  if octet < 0x80 then some 0
  else if octet / 0x20 = 6 then some 1
  else if octet / 0x10 = 14 then some 2
  else if octet / 0x08 = 30 then some 3
  else none

/-- Reads a percent sign and two digits. -/
def readOctet (spots : List Spot) : Option Nat :=
  if ahead 0 spots = '%' then do
    let high ← digitValue? 16 (ahead 1 spots)
    let low ← digitValue? 16 (ahead 2 spots)
    return high * 16 + low
  else none

/-- Reads the text of a tag. Each octet that is written with a percent sign counts as the character of
its number. `further` is the number of octets that must follow. -/
def readTagText (whole : Bool) : (fuel further : Nat) → List Spot → Option (List Char × List Spot)
  | 0, _, _ => none
  | fuel + 1, further, spots =>
    if 0 < further ∨ ahead 0 spots = '%' then do
      let octet ← readOctet spots
      let further ←
        if further = 0 then furtherOctets? octet
        else if octet / 0x40 = 2 then some (further - 1) else none
      let (text, rest) ← readTagText whole fuel further (spots.drop 3)
      return (Char.ofNat octet :: text, rest)
    else if isTagChar whole (ahead 0 spots) then do
      let (text, rest) ← readTagText whole fuel 0 (spots.drop 1)
      return (ahead 0 spots :: text, rest)
    else some ([], spots)

def readTagRest (whole : Bool) (start : List Char) (spots : List Spot) :
    Option (List Char × List Spot) := do
  let (text, rest) ← readTagText whole (spots.length + 1) 0 spots
  if start.isEmpty ∧ text.isEmpty then none else some (start.drop 1 ++ text, rest)

/-- Reads a tag, which a gap must end, or a comma between brackets. -/
def readTag (inFlow : Bool) (spots : List Spot) : Option (Token × List Spot) := do
  let (handle, suffix, rest) ←
    if ahead 1 spots = '<' then do
      let (text, rest) ← readTagRest true [] (spots.drop 2)
      if ahead 0 rest = '>' then some (([] : List Char), text, rest.drop 1) else none
    else do
      let (handle, rest) ← readHandle spots
      if 1 < handle.length ∧ handle.getLast? = some '!' then
        let (text, rest) ← readTagRest false [] rest
        some (handle, text, rest)
      else
        let (text, rest) ← readTagRest false handle rest
        if text.isEmpty then some ([], ['!'], rest) else some (['!'], text, rest)
  let next := ahead 0 rest
  if isGap next ∨ (inFlow ∧ next = ',') then
    some (.tag (String.ofList handle) (String.ofList suffix), rest)
  else none

def maxVersionDigits : Nat := 9

def readVersionNumber (spots : List Spot) : Option (Nat × List Spot) :=
  let digits := (charsWhile Char.isDigit spots).filterMap (digitValue? 10)
  if digits.isEmpty ∨ maxVersionDigits < digits.length then none
  else some (numberOfDigits 10 digits, spots.drop digits.length)

def readVersion (spots : List Spot) : Option (Token × List Spot) := do
  let (major, rest) ← readVersionNumber (skipWhile isSpace spots)
  if ahead 0 rest = '.' then
    let (minor, rest) ← readVersionNumber (rest.drop 1)
    return (.version major minor, rest)
  else none

/-- Reads a handle and what it stands for. -/
def readTagHandle (spots : List Spot) : Option (Token × List Spot) := do
  let (handle, rest) ← readHandle (skipWhile isSpace spots)
  if handle ≠ ['!'] ∧ handle.getLast? ≠ some '!' then none
  else if isSpace (ahead 0 rest) then
    let (text, rest) ← readTagRest true [] (skipWhile isSpace rest)
    if isGap (ahead 0 rest) then
      return (.tagHandle (String.ofList handle) (String.ofList text), rest)
    else none
  else none

/-- Reads a directive after its percent sign, with its line. -/
def readDirective (spots : List Spot) : Option (Token × List Spot) := do
  let name := charsWhile isNameChar spots
  let rest := spots.drop name.length
  if ¬isGap (ahead 0 rest) then none
  let (token, rest) ←
    if name = "YAML".toList then readVersion rest
    else if name = "TAG".toList then readTagHandle rest
    else none
  return (token, ← skipLineEnd rest)

end RangeCatalog.Yaml
