import RangeCatalog.Decimal.Shortest
import RangeCatalog.Json.Basic
import RangeCatalog.Text.Numeral

/-! # Writing JSON

The compact form has no blanks. The pretty form puts each item and each field on a line of its own,
two spaces deeper than its container; an empty container stays on one line. Both write fields in the
order in which the value holds them.
-/

namespace RangeCatalog

/-- How a binary number is written: the digits of its shortest decimal, in full where the exponent of
the leading digit lies between -5 and 15, and with an exponent that has a sign elsewhere. A number
always shows a fraction or an exponent. -/
def Binary64.chars (number : Binary64) : List Char :=
  let sign := if number.negative then ['-'] else []
  if number.significand = 0 then sign ++ ['0', '.', '0']
  else
    let decimal := number.shortest
    let digits := Nat.toDigits 10 decimal.digits
    let lead : Int := decimal.exponent + digits.length - 1
    let body :=
      if -5 ≤ lead ∧ lead ≤ 15 then
        if lead < 0 then '0' :: '.' :: List.replicate (lead.natAbs - 1) '0' ++ digits
        else
          let whole := lead.toNat + 1
          let padded := digits ++ List.replicate (whole + 1 - digits.length) '0'
          padded.take whole ++ '.' :: padded.drop whole
      else
        let fraction := digits.drop 1
        let exponent := (if lead < 0 then '-' else '+') :: Nat.toDigits 10 lead.natAbs
        digits.take 1 ++ (if fraction.isEmpty then [] else '.' :: fraction) ++ 'e' :: exponent
    sign ++ body

namespace Json

/-- A character inside a string. Quotes, backslashes and control characters are escaped, all others
stand for themselves. -/
def escapeChar (c : Char) : List Char :=
  if c = '"' then ['\\', '"']
  else if c = '\\' then ['\\', '\\']
  else if c.toNat = 8 then ['\\', 'b']
  else if c.toNat = 12 then ['\\', 'f']
  else if c = '\n' then ['\\', 'n']
  else if c = '\r' then ['\\', 'r']
  else if c = '\t' then ['\\', 't']
  else if c.toNat < 32 then
    ['\\', 'u', '0', '0', Nat.digitChar (c.toNat / 16), Nat.digitChar (c.toNat % 16)]
  else [c]

def quoted (text : String) : List Char :=
  '"' :: text.toList.flatMap escapeChar ++ ['"']

def integerChars : Int → List Char
  | .ofNat number => Nat.toDigits 10 number
  | .negSucc number => '-' :: Nat.toDigits 10 (number + 1)

mutual

def compactChars : Json → List Char
  | null => ['n', 'u', 'l', 'l']
  | bool true => ['t', 'r', 'u', 'e']
  | bool false => ['f', 'a', 'l', 's', 'e']
  | integer value => integerChars value
  | float value => value.chars
  | string value => quoted value
  | array items => '[' :: compactItems items ++ [']']
  | object fields => '\x7b' :: compactFields fields ++ ['\x7d']

def compactItems : List Json → List Char
  | [] => []
  | [item] => compactChars item
  | item :: rest => compactChars item ++ ',' :: compactItems rest

def compactFields : List (String × Json) → List Char
  | [] => []
  | [(name, value)] => quoted name ++ ':' :: compactChars value
  | (name, value) :: rest => quoted name ++ ':' :: compactChars value ++ ',' :: compactFields rest

end

def compact (value : Json) : String :=
  String.ofList value.compactChars

def lineStart (depth : Nat) : List Char :=
  '\n' :: List.replicate (2 * depth) ' '

mutual

/-- The pretty form of a value inside containers of the given depth. -/
def prettyChars (depth : Nat) : Json → List Char
  | null => ['n', 'u', 'l', 'l']
  | bool true => ['t', 'r', 'u', 'e']
  | bool false => ['f', 'a', 'l', 's', 'e']
  | integer value => integerChars value
  | float value => value.chars
  | string value => quoted value
  | array [] => ['[', ']']
  | array (item :: rest) => '[' :: prettyItems (depth + 1) (item :: rest) ++ lineStart depth ++ [']']
  | object [] => ['\x7b', '\x7d']
  | object (field :: rest) =>
    '\x7b' :: prettyFields (depth + 1) (field :: rest) ++ lineStart depth ++ ['\x7d']

def prettyItems (depth : Nat) : List Json → List Char
  | [] => []
  | [item] => lineStart depth ++ prettyChars depth item
  | item :: rest => lineStart depth ++ prettyChars depth item ++ ',' :: prettyItems depth rest

def prettyFields (depth : Nat) : List (String × Json) → List Char
  | [] => []
  | [(name, value)] => lineStart depth ++ quoted name ++ ':' :: ' ' :: prettyChars depth value
  | (name, value) :: rest =>
    lineStart depth ++ quoted name ++ ':' :: ' ' :: prettyChars depth value ++
      ',' :: prettyFields depth rest

end

def pretty (value : Json) : String :=
  String.ofList (value.prettyChars 0)

end Json

end RangeCatalog
