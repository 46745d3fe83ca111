import RangeCatalog.Text.Numeral
import RangeCatalog.Yaml.Text

/-! # Scalars

The texts of plain, quoted and block scalars. Where a scalar goes on over several lines, a single line
break between two of its lines counts as a space, and further ones stay.
-/

namespace RangeCatalog.Yaml

/-- Spaces and line breaks inside a scalar. -/
structure Gap where
  /-- The spaces before the first line break. -/
  spaces : List Char := []
  /-- The first line break. One that is escaped does not count. -/
  first : Option Char := none
  /-- The line breaks after the first. -/
  further : List Char := []
  /-- Whether a new line has begun. -/
  broken : Bool := false
deriving DecidableEq, Repr

namespace Gap

/-- What a gap between two parts of a scalar stands for. -/
def text (gap : Gap) : List Char :=
  if gap.broken then
    if gap.first = some '\n' then if gap.further.isEmpty then [' '] else gap.further
    else gap.first.toList ++ gap.further
  else gap.spaces

def add (gap : Gap) (c : Char) : Gap :=
  if isSpace c then if gap.broken then gap else { gap with spaces := gap.spaces ++ [c] }
  else if gap.broken then { gap with further := gap.further ++ [c] }
  else { gap with first := some c, broken := true, spaces := [] }

/-- Reads a gap. On a new line no tab may stand before the given column. -/
def read (indent : Int) (gap : Gap) : List Spot → Option (Gap × List Spot)
  | [] => some (gap, [])
  | spot :: rest =>
    if isSpace spot.char || isBreak spot.char then
      if gap.broken ∧ spot.char = '\t' ∧ spot.column < indent then none
      else read indent (gap.add spot.char) rest
    else some (gap, spot :: rest)

end Gap

/-! ## Plain scalars -/

def isFlowIndicator (c : Char) : Bool :=
  c = ',' || c = '[' || c = ']' || c = '\x7b' || c = '\x7d'

/-- Reads the characters of a plain scalar up to a gap or an indicator. -/
def readPlainRun (inFlow : Bool) : List Spot → Option (List Char × List Spot)
  | [] => some ([], [])
  | spot :: rest =>
    let c := spot.char
    let next := ahead 0 rest
    if isGap c then some ([], spot :: rest)
    else if inFlow ∧ c = ':' ∧ (isFlowIndicator next ∨ next = '?') then none
    else if (c = ':' ∧ isGap next) ∨ (inFlow ∧ isFlowIndicator c) then some ([], spot :: rest)
    else do
      let (run, tail) ← readPlainRun inFlow rest
      return (c :: run, tail)

/-- Reads a plain scalar whose lines after the first reach the given column, where `text` and `gap` were
read before. The result says whether a new line began after the last character. -/
def readPlain (inFlow : Bool) (indent : Int) :
    (fuel : Nat) → (text : List Char) → (gap : Gap) → List Spot →
      Option (List Char × Bool × List Spot)
  | 0, _, _, _ => none
  | fuel + 1, text, gap, spots =>
    if atMarker spots ∨ ahead 0 spots = '#' then some (text, gap.broken, spots)
    else do
      let (run, rest) ← readPlainRun inFlow spots
      let text := if run.isEmpty then text else text ++ gap.text ++ run
      let gap := if run.isEmpty then gap else {}
      let next := ahead 0 rest
      if isSpace next || isBreak next then
        let (gap, rest) ← gap.read indent rest
        let tooShort : Bool := match rest with
          | spot :: _ => spot.column < indent
          | [] => false
        if tooShort && !inFlow then some (text, gap.broken, rest)
        else readPlain inFlow indent fuel text gap rest
      else some (text, gap.broken, rest)

/-! ## Quoted scalars -/

/-- The character that a letter after a backslash stands for. -/
def escaped? (c : Char) : Option Char :=
  [('0', '\x00'), ('a', '\x07'), ('b', '\x08'), ('t', '\t'), ('\t', '\t'), ('n', '\n'), ('v', '\x0b'),
    ('f', '\x0c'), ('r', '\r'), ('e', '\x1b'), (' ', ' '), ('"', '"'), ('/', '/'), ('\\', '\\'),
    ('N', '\u0085'), ('_', '\u00a0'), ('L', '\u2028'), ('P', '\u2029')].lookup c

/-- How many digits follow a letter after a backslash. -/
def escapeDigits? (c : Char) : Option Nat :=
  [('x', 2), ('u', 4), ('U', 8)].lookup c

/-- Reads what follows a backslash: the character, and how many characters stand for it. -/
def readEscape (spots : List Spot) : Option (Char × Nat) :=
  match escaped? (ahead 0 spots), escapeDigits? (ahead 0 spots) with
  | some c, _ => some (c, 1)
  | none, none => none
  | none, some count => do
    let digits ← ((spots.drop 1).take count).mapM fun spot => digitValue? 16 spot.char
    let code := numberOfDigits 16 digits
    if digits.length = count ∧ code.isValidChar then some (Char.ofNat code, count + 1) else none

/-- How a run of characters between quotes ends. -/
inductive RunEnd where
  | quote
  | gap
  /-- A line break after a backslash. -/
  | escapedBreak
deriving DecidableEq, Repr

/-- Reads the characters of a quoted scalar up to a gap or the quote. -/
def readQuotedRun (quote : Char) : (fuel : Nat) → List Spot → Option (List Char × RunEnd × List Spot)
  | 0, _ => none
  | fuel + 1, spots =>
    let c := ahead 0 spots
    let next := ahead 1 spots
    let continueWith (read : Char) (count : Nat) : Option (List Char × RunEnd × List Spot) := do
      let (run, runEnd, rest) ← readQuotedRun quote fuel (spots.drop count)
      return (read :: run, runEnd, rest)
    if isGap c then some ([], .gap, spots)
    else if c = quote ∧ quote = '\'' ∧ next = '\'' then continueWith '\'' 2
    else if c = quote then some ([], .quote, spots.drop 1)
    else if quote = '"' ∧ c = '\\' then
      if isBreak next then some ([], .escapedBreak, spots.drop 2)
      else do
        let (read, count) ← readEscape (spots.drop 1)
        continueWith read (count + 1)
    else continueWith c 1

/-- Reads a quoted scalar after its first quote, where `text` was read before. -/
def readQuoted (quote : Char) :
    (fuel : Nat) → (text : List Char) → List Spot → Option (List Char × List Spot)
  | 0, _, _ => none
  | fuel + 1, text, spots =>
    if atMarker spots ∨ spots.isEmpty then none
    else do
      let (run, runEnd, rest) ← readQuotedRun quote (spots.length + 1) spots
      let text := text ++ run
      if runEnd = .quote then some (text, rest)
      else if runEnd = .escapedBreak ∧ ahead 0 rest = quote then some (text, rest.drop 1)
      else
        let (gap, rest) ← Gap.read 0 { broken := runEnd = .escapedBreak } rest
        readQuoted quote fuel (text ++ gap.text) rest

/-! ## Block scalars -/

/-- What is done with the line breaks at the end of a block scalar. -/
inductive Chomping where
  | strip
  | clip
  | keep
deriving DecidableEq, Repr

/-- What the first line of a block scalar asks for. -/
structure BlockHeader where
  chomping : Chomping := .clip
  /-- By how many columns the text is deeper than what holds it. -/
  increment : Option Nat := none
deriving DecidableEq, Repr

/-- Reads the signs after the indicator of a block scalar, each at most once. -/
def readBlockHeader (spots : List Spot) : Option (BlockHeader × List Spot) :=
  let chomping? (c : Char) : Option Chomping :=
    if c = '+' then some .keep else if c = '-' then some .strip else none
  let digit? (c : Char) : Option Nat := digitValue? 10 c
  let signs : BlockHeader × List Spot :=
    match chomping? (ahead 0 spots), digit? (ahead 0 spots) with
    | some chomping, _ =>
      match digit? (ahead 1 spots) with
      | some digit => (⟨chomping, some digit⟩, spots.drop 2)
      | none => (⟨chomping, none⟩, spots.drop 1)
    | none, some digit =>
      match chomping? (ahead 1 spots) with
      | some chomping => (⟨chomping, some digit⟩, spots.drop 2)
      | none => (⟨.clip, some digit⟩, spots.drop 1)
    | none, none => ({}, spots)
  if signs.1.increment = some 0 then none else (skipLineEnd signs.2).map fun rest => (signs.1, rest)

/-- Reads the empty lines before a line of a block scalar: the line breaks, the text from the column of
the scalar on, and the greatest column that was seen. Without a column, all spaces are left out. No tab
may stand before the column. -/
def readEmptyLines (indent : Option Nat) (breaks : List Char) (deepest : Nat) :
    List Spot → Option (List Char × Nat × List Spot)
  | [] => some (breaks, deepest, [])
  | spot :: rest =>
    let inside : Bool := (indent.map fun column => decide (spot.column < column)).getD true
    let deepest := max deepest spot.column
    if inside && spot.char = ' ' then readEmptyLines indent breaks (max deepest (spot.column + 1)) rest
    else if inside && spot.char = '\t' then none
    else if isBreak spot.char then readEmptyLines indent (breaks ++ [spot.char]) deepest rest
    else some (breaks, deepest, spot :: rest)

/-- What a block scalar holds so far. -/
structure BlockText where
  text : List Char := []
  /-- The line break after the last line. -/
  last : List Char := []
  /-- The empty lines after that. -/
  empty : List Char
  /-- Whether the last line starts with a space or a tab. -/
  indented : Bool := false
deriving DecidableEq, Repr

/-- The text up to the start of a further line. Folding makes a space of a single line break between
lines that start with neither a space nor a tab. -/
def BlockText.joined (block : BlockText) (isFolded indented : Bool) : List Char :=
  if isFolded && block.last = ['\n'] && !block.indented && !indented then
    block.text ++ if block.empty.isEmpty then [' '] else block.empty
  else block.text ++ block.last ++ block.empty

/-- Reads the lines of a block scalar that start in its column. -/
def readBlockLines (isFolded : Bool) (indent : Nat) :
    (fuel : Nat) → BlockText → List Spot → Option (BlockText × List Spot)
  | 0, _, _ => none
  | fuel + 1, block, spots =>
    match spots with
    | [] => some (block, [])
    | spot :: _ =>
      if spot.column = indent then do
        let indented := isSpace spot.char
        let line := charsWhile (! isLineEnd ·) spots
        let rest := spots.drop line.length
        let last := (rest.take 1).map Spot.char
        let (empty, _, rest) ← readEmptyLines (some indent) [] 0 (rest.drop 1)
        let text := block.joined isFolded indented ++ line
        readBlockLines isFolded indent fuel ⟨text, last, empty, indented⟩ rest
      else some (block, spots)

/-- Reads a block scalar after its indicator, inside a collection at the given column. -/
def readBlock (isFolded : Bool) (outer : Int) (spots : List Spot) :
    Option (List Char × List Spot) := do
  let (header, rest) ← readBlockHeader spots
  let given := header.increment.map fun increment => (max outer 0).toNat + increment
  let (empty, deepest, rest) ← readEmptyLines given [] 0 rest
  let indent := given.getD (max deepest (max (outer + 1).toNat 1))
  let (block, rest) ← readBlockLines isFolded indent (rest.length + 1) { empty } rest
  let ending := match header.chomping with
    | .strip => []
    | .clip => block.last
    | .keep => block.last ++ block.empty
  return (block.text ++ ending, rest)

end RangeCatalog.Yaml
