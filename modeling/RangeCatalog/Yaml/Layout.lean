import RangeCatalog.Yaml.Property
import RangeCatalog.Yaml.Scalar

/-! # From text to tokens

Outside brackets, indentation opens and closes collections. A key of a mapping shows only at the colon
that follows it, on the same line and not far away. So each place where a key may start leaves an empty
slot among the tokens, and the colon fills the slot.
-/

namespace RangeCatalog.Yaml

/-- A token, or a place at which a key may start. -/
inductive Slot where
  | token (token : Token)
  | possibleKey (number : Nat)
deriving DecidableEq, Repr

/-- A place at which a key may start. -/
structure PossibleKey where
  number : Nat
  spot : Spot
  /-- Whether the text makes sense only if a key starts here. -/
  required : Bool
deriving DecidableEq, Repr

/-- How far the colon may be from the start of its key. -/
def maxKeyLength : Nat := 1024

/-- What has been read of a text. -/
structure Layout where
  /-- The column of the innermost block collection. -/
  indent : Int := -1
  /-- The columns of the block collections around it. -/
  outer : List Int := []
  /-- The last possible key of each level of brackets, the innermost first. -/
  keys : List (Option PossibleKey) := [none]
  /-- Whether a key may start here. -/
  keyAllowed : Bool := true
  /-- What was read, the last first. -/
  slots : List Slot := []
  nextNumber : Nat := 0
  /-- The tokens for the slots of keys. -/
  filled : List (Nat × List Token) := []

namespace Layout

def inFlow (layout : Layout) : Bool :=
  1 < layout.keys.length

def push (layout : Layout) (token : Token) : Layout :=
  { layout with slots := .token token :: layout.slots }

def allowKey (layout : Layout) (allowed : Bool) : Layout :=
  { layout with keyAllowed := allowed }

/-- Closes the block collections that are deeper than a column. -/
def closeTo (layout : Layout) (column : Int) : Layout :=
  if layout.inFlow then layout
  else
    let columns := layout.indent :: layout.outer
    let closed := columns.takeWhile (column < ·)
    let remaining := columns.drop closed.length
    { layout with
      indent := remaining.head?.getD (-1)
      outer := remaining.drop 1
      slots := closed.map (fun _ => .token .blockEnd) ++ layout.slots }

/-- Whether a token at a column opens a block collection. -/
def opensAt (layout : Layout) (column : Nat) : Bool :=
  !layout.inFlow && layout.indent < column

/-- The layout inside a new block collection at a column. -/
def enter (layout : Layout) (column : Nat) : Layout :=
  { layout with indent := column, outer := layout.indent :: layout.outer }

/-- Opens a block collection at a column, if it is deeper than the one around it. -/
def openAt (layout : Layout) (column : Nat) (token : Token) : Layout :=
  if layout.opensAt column then (layout.enter column).push token else layout

/-- Gives up the possible key of the innermost level. -/
def giveUpKey (layout : Layout) : Option Layout :=
  match layout.keys with
  | some key :: rest => if key.required then none else some { layout with keys := none :: rest }
  | _ => some layout

/-- Gives up the possible keys that are too far from a place to be followed by a colon there. -/
def giveUpFarKeys (layout : Layout) (spot : Spot) : Option Layout :=
  let isFar (key : PossibleKey) : Bool :=
    key.spot.line < spot.line || key.spot.index + maxKeyLength < spot.index
  let far := layout.keys.filterMap fun key? => key?.filter isFar
  if far.any PossibleKey.required then none
  else some { layout with keys := layout.keys.map fun key? => key?.filter (! isFar ·) }

/-- Notes that a key may start at a place, if one is allowed there. -/
def noteKey (layout : Layout) (spot : Spot) : Option Layout :=
  if layout.keyAllowed then do
    let required := !layout.inFlow && layout.indent = spot.column
    let layout ← layout.giveUpKey
    let key : PossibleKey := ⟨layout.nextNumber, spot, required⟩
    return { layout with
      keys := some key :: layout.keys.drop 1
      slots := .possibleKey layout.nextNumber :: layout.slots
      nextNumber := layout.nextNumber + 1 }
  else some layout

/-- Fills the slot of a key. The key may be the first of a block mapping. -/
def fillKey (layout : Layout) (key : PossibleKey) : Layout :=
  let opens := layout.opensAt key.spot.column
  let tokens := if opens then [Token.blockMappingStart, .key] else [.key]
  let layout := if opens then layout.enter key.spot.column else layout
  { layout with
    keys := none :: layout.keys.drop 1
    filled := (key.number, tokens) :: layout.filled }

def tokens (layout : Layout) : List Token :=
  layout.slots.reverse.flatMap fun
    | .token token => [token]
    | .possibleKey number => (layout.filled.lookup number).getD []

/-! ## Steps -/

/-- A character that does not count at the start of a line. -/
def byteOrderMark : Char := '\ufeff'

/-- Skips to the next token: spaces, comments and line breaks. A tab may not stand where a key may
start, unless inside brackets. After a line break a key may start, except inside brackets. -/
def skipToToken (inFlow : Bool) (inComment allowed : Bool) : List Spot → Bool × List Spot
  | [] => (allowed, [])
  | spot :: rest =>
    let c := spot.char
    if isBreak c then skipToToken inFlow false (allowed || !inFlow) rest
    else if inComment then skipToToken inFlow true allowed rest
    else if c = byteOrderMark && spot.column = 0 then skipToToken inFlow false allowed rest
    else if c = ' ' || (c = '\t' && (inFlow || !allowed)) then skipToToken inFlow false allowed rest
    else if c = '#' then skipToToken inFlow true allowed rest
    else (allowed, spot :: rest)

/-- A marker of a document or a directive, both of which close all block collections. -/
def atDocument (layout : Layout) : Option Layout := do
  (← (layout.closeTo (-1)).giveUpKey).allowKey false

def openFlow (layout : Layout) (spot : Spot) (token : Token) : Option Layout := do
  let layout ← layout.noteKey spot
  return ({ layout with keys := none :: layout.keys }.allowKey true).push token

def closeFlow (layout : Layout) (token : Token) : Option Layout := do
  let layout ← layout.giveUpKey
  let layout := if layout.inFlow then { layout with keys := layout.keys.drop 1 } else layout
  return (layout.allowKey false).push token

/-- The hyphen of a block sequence. Inside brackets it is left to the reader of nodes. -/
def blockEntry (layout : Layout) (spot : Spot) : Option Layout := do
  if !layout.inFlow && !layout.keyAllowed then none
  let layout ← (layout.openAt spot.column .blockSequenceStart).giveUpKey
  return (layout.allowKey true).push .blockEntry

/-- The question mark before a key of any kind. -/
def explicitKey (layout : Layout) (spot : Spot) : Option Layout := do
  if !layout.inFlow && !layout.keyAllowed then none
  let layout ← (layout.openAt spot.column .blockMappingStart).giveUpKey
  return (layout.allowKey (!layout.inFlow)).push .key

/-- The colon between a key and its value. -/
def mappingValue (layout : Layout) (spot : Spot) : Option Layout :=
  match layout.keys.head?.join with
  | some key => some (((layout.fillKey key).allowKey false).push .value)
  | none => do
    if !layout.inFlow && !layout.keyAllowed then none
    let layout := layout.openAt spot.column .blockMappingStart
    return (layout.allowKey (!layout.inFlow)).push .value

/-- Something that may be a key: the token and whether a key may start after it. -/
def keyLike (layout : Layout) (spot : Spot) (read : Option (Token × Bool × List Spot)) :
    Option (Layout × List Spot) := do
  let layout ← layout.noteKey spot
  let (token, allowed, rest) ← read
  return ((layout.allowKey allowed).push token, rest)

/-- Whether a plain scalar may start with a character before another one. -/
def startsPlain (inFlow : Bool) (c next : Char) : Bool :=
  !(isGap c || "-?:,[]\x7b\x7d#&*!|>'\"%@`".toList.contains c) ||
    (c = '-' && !isSpace next) || (!inFlow && (c = '?' || c = ':') && !isGap next)

def readQuotedToken (quote : Char) (style : Style) (spots : List Spot) :
    Option (Token × Bool × List Spot) := do
  let (text, rest) ← readQuoted quote (spots.length + 1) [] (spots.drop 1)
  return (.scalar (String.ofList text) style, false, rest)

def readPlainToken (layout : Layout) (spots : List Spot) : Option (Token × Bool × List Spot) := do
  let (text, broken, rest) ←
    readPlain layout.inFlow (layout.indent + 1) (spots.length + 1) [] {} spots
  return (.scalar (String.ofList text) .plain, broken, rest)

/-- Reads a block scalar. -/
def blockScalar (layout : Layout) (isFolded : Bool) (spots : List Spot) :
    Option (Layout × List Spot) := do
  let layout ← layout.giveUpKey
  let (text, rest) ← readBlock isFolded layout.indent (spots.drop 1)
  let style := if isFolded then Style.folded else .literal
  return ((layout.allowKey true).push (.scalar (String.ofList text) style), rest)

/-- Reads one token that starts at the first spot. -/
def readToken (layout : Layout) (spot : Spot) (spots : List Spot) : Option (Layout × List Spot) :=
  let c := spot.char
  let next := ahead 1 spots
  let rest := spots.drop 1
  let sign (result : Option Layout) : Option (Layout × List Spot) := result.map (·, rest)
  if spot.column = 0 ∧ c = '%' then do
    let layout ← layout.atDocument
    let (token, rest) ← readDirective rest
    return (layout.push token, rest)
  else if startsWithMarker '-' spots then
    layout.atDocument.map fun layout => (layout.push .documentStart, spots.drop 3)
  else if startsWithMarker '.' spots then
    layout.atDocument.map fun layout => (layout.push .documentEnd, spots.drop 3)
  else if c = '[' then sign (layout.openFlow spot .flowSequenceStart)
  else if c = '\x7b' then sign (layout.openFlow spot .flowMappingStart)
  else if c = ']' then sign (layout.closeFlow .flowSequenceEnd)
  else if c = '\x7d' then sign (layout.closeFlow .flowMappingEnd)
  else if c = ',' then
    sign (layout.giveUpKey.map fun layout => (layout.allowKey true).push .flowEntry)
  else if c = '-' ∧ isGap next then sign (layout.blockEntry spot)
  else if c = '?' ∧ (layout.inFlow ∨ isGap next) then sign (layout.explicitKey spot)
  else if c = ':' ∧ (layout.inFlow ∨ isGap next) then sign (layout.mappingValue spot)
  else if c = '*' then
    layout.keyLike spot ((readAnchorName rest).map fun (name, rest) => (.alias name, false, rest))
  else if c = '&' then
    layout.keyLike spot ((readAnchorName rest).map fun (name, rest) => (.anchor name, false, rest))
  else if c = '!' then
    layout.keyLike spot ((readTag layout.inFlow spots).map fun (token, rest) => (token, false, rest))
  else if c = '|' ∧ ¬layout.inFlow then layout.blockScalar false spots
  else if c = '>' ∧ ¬layout.inFlow then layout.blockScalar true spots
  else if c = '\'' then layout.keyLike spot (readQuotedToken c .singleQuoted spots)
  else if c = '"' then layout.keyLike spot (readQuotedToken c .doubleQuoted spots)
  else if startsPlain layout.inFlow c next then layout.keyLike spot (layout.readPlainToken spots)
  else none

def readAll : (fuel : Nat) → Layout → List Spot → Option Layout
  | 0, _, _ => none
  | fuel + 1, layout, spots =>
    let (allowed, spots) := skipToToken layout.inFlow false layout.keyAllowed spots
    match spots with
    | [] => layout.atDocument
    | spot :: _ => do
      let layout ← (layout.allowKey allowed).giveUpFarKeys spot
      let (layout, rest) ← (layout.closeTo spot.column).readToken spot spots
      readAll fuel layout rest

end Layout

def Token.all? (text : String) : Option (List Token) := do
  let spots ← spots? text
  return (← Layout.readAll (spots.length + 1) {} spots).tokens

end RangeCatalog.Yaml
