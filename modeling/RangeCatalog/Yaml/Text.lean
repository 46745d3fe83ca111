/-! # Texts with places

A YAML text as a list of characters, each with its line and its column. Line breaks of all kinds but
two become a line feed beforehand; the line and paragraph separators stand for themselves. Control
characters are not allowed in a text.
-/

namespace RangeCatalog.Yaml

/-- A character and its place. -/
structure Spot where
  char : Char
  index : Nat
  line : Nat
  column : Nat
deriving DecidableEq, Repr

/-- Whether a character may stand in a text. -/
def isAllowed (c : Char) : Bool :=
  let code := c.toNat
  code = 9 || code = 10 || code = 13 || (0x20 ≤ code && code ≤ 0x7e) || code = 0x85 ||
    (0xa0 ≤ code && code ≤ 0xfffd) || 0x10000 ≤ code

def isBreak (c : Char) : Bool :=
  c = '\n' || c = '\u2028' || c = '\u2029'

def isSpace (c : Char) : Bool :=
  c = ' ' || c = '\t'

/-- A text whose line breaks are line feeds, except for the two separators. -/
def unifyBreaks : List Char → List Char
  | [] => []
  | '\r' :: '\n' :: rest => '\n' :: unifyBreaks rest
  | c :: rest => (if c = '\r' ∨ c = '\u0085' then '\n' else c) :: unifyBreaks rest

/-- The characters of a text with their places. -/
def locate (index line column : Nat) : List Char → List Spot
  | [] => []
  | c :: rest =>
    ⟨c, index, line, column⟩ ::
      if isBreak c then locate (index + 1) (line + 1) 0 rest
      else locate (index + 1) line (column + 1) rest

/-- The spots of a text, when all its characters are allowed. -/
def spots? (text : String) : Option (List Spot) :=
  if text.toList.all isAllowed then some (locate 0 0 0 (unifyBreaks text.toList)) else none

/-- What stands for the end of a text, in which the character itself is not allowed. -/
def endMark : Char := '\x00'

/-- The character some places ahead, or the end mark. -/
def ahead (count : Nat) (spots : List Spot) : Char :=
  (spots[count]?.map Spot.char).getD endMark

/-- Whether a character is a space, a tab, a line break or the end. -/
def isGap (c : Char) : Bool :=
  isSpace c || isBreak c || c = endMark

/-- Whether a character ends a line or the text. -/
def isLineEnd (c : Char) : Bool :=
  isBreak c || c = endMark

/-- Whether a line starts with three equal marks and a gap, which starts or ends a document. -/
def startsWithMarker (mark : Char) (spots : List Spot) : Bool :=
  match spots with
  | spot :: _ => spot.column = 0 && (List.range 3).all (fun count => ahead count spots = mark) &&
      isGap (ahead 3 spots)
  | [] => false

/-- Whether a document starts or ends here. -/
def atMarker (spots : List Spot) : Bool :=
  startsWithMarker '-' spots || startsWithMarker '.' spots

def skipWhile (condition : Char → Bool) (spots : List Spot) : List Spot :=
  spots.dropWhile fun spot => condition spot.char

def charsWhile (condition : Char → Bool) (spots : List Spot) : List Char :=
  (spots.takeWhile fun spot => condition spot.char).map Spot.char

/-- The text after the spaces and the comment that may end a line, and after the line break. Nothing
else may stand on the rest of the line. -/
def skipLineEnd (spots : List Spot) : Option (List Spot) :=
  let rest := skipWhile isSpace spots
  let rest := if ahead 0 rest = '#' then skipWhile (! isLineEnd ·) rest else rest
  match rest with
  | [] => some []
  | spot :: tail => if isBreak spot.char then some tail else none

/-- Whether a character may stand in the name of an anchor, a directive or a tag handle. -/
def isNameChar (c : Char) : Bool :=
  c.isAlphanum || c = '_' || c = '-'

end RangeCatalog.Yaml
