import RangeCatalog.Unicode.HiddenTable
import RangeCatalog.Unicode.Table

/-! # Quoted texts

How messages show a text whose ends must be plain: between quotes, with quotes, backslashes and
characters that do not show escaped.
-/

namespace RangeCatalog

/-- The characters outside ASCII that are shown by number. -/
def hiddenRuns : List Unicode.Run :=
  Unicode.runsOfTable Unicode.hiddenTable

/-- Whether a character does not show by itself. -/
def isHidden (c : Char) : Bool :=
  c.toNat < 0x20 || c.toNat == 0x7f || (0x80 ≤ c.toNat && (Unicode.findRun? hiddenRuns c.toNat).isSome)

/-- A character between quotes. -/
def quotedChar (c : Char) : List Char :=
  if c.toNat = 0 then ['\\', '0']
  else if c = '\t' then ['\\', 't']
  else if c = '\r' then ['\\', 'r']
  else if c = '\n' then ['\\', 'n']
  else if c = '"' then ['\\', '"']
  else if c = '\\' then ['\\', '\\']
  else if isHidden c then '\\' :: 'u' :: '\x7b' :: Nat.toDigits 16 c.toNat ++ ['\x7d']
  else [c]

def quotedText (text : String) : String :=
  String.ofList ('"' :: text.toList.flatMap quotedChar ++ ['"'])

end RangeCatalog
