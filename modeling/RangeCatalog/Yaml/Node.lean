import RangeCatalog.Yaml.Layout

/-! # Nodes

The tree that tokens denote. Aliases stay in the tree as numbers, and the document says which node each
number stands for. A name that is given again passes to the later node.
-/

namespace RangeCatalog.Yaml

inductive Node where
  | scalar (text : String) (style : Style) (tag : Option String)
  | sequence (items : List Node)
  | mapping (entries : List (Node × Node))
  | alias (number : Nat)
deriving Inhabited, Repr

structure Document where
  /-- The node of the document, unless the text has no document at all. -/
  root : Option Node
  /-- The nodes for the numbers of aliases. The first entry of a number counts. -/
  targets : List (Nat × Node)
deriving Repr

/-- A node with the number of its name and its place among the named nodes. -/
structure Target where
  number : Nat
  place : Nat
  node : Node

/-- What is left to read of a document, and what was read about names. -/
structure Reading where
  tokens : List Token
  handles : List (String × String)
  /-- The numbers of names, each name once. -/
  names : List (String × Nat) := []
  /-- The number of nodes with names so far. -/
  places : Nat := 0
  targets : List Target := []

/-- A step of reading, which may fail. -/
abbrev Reader := StateT Reading Option

namespace Reader

def peek : Reader (Option Token) :=
  return (← get).tokens.head?

def skip : Reader Unit :=
  modify fun reading => { reading with tokens := reading.tokens.drop 1 }

/-- Passes over the next token if it is the given one, and says whether it was. -/
def accept (token : Token) : Reader Bool := do
  if (← peek) = some token then
    skip
    return true
  else return false

/-- Whether the next token is one of some tokens. -/
def nextIn (tokens : List Token) : Reader Bool := do
  match ← peek with
  | some token => return tokens.contains token
  | none => return false

/-- The empty scalar, which stands where a node is left out. -/
def emptyScalar : Node := .scalar "" .plain none

/-- The whole text of a tag. -/
def resolveTag (handle suffix : String) : Reader String := do
  if handle.isEmpty then return suffix
  else match (← get).handles.lookup handle with
    | some expansion => return expansion ++ suffix
    | none => failure

structure Properties where
  anchor : Option String := none
  tag : Option String := none

def readAnchor (properties : Properties) : Reader Properties := do
  match ← peek with
  | some (.anchor name) => skip; return { properties with anchor := some name }
  | _ => return properties

def readTag (properties : Properties) : Reader Properties := do
  match ← peek with
  | some (.tag handle suffix) =>
    skip
    return { properties with tag := some (← resolveTag handle suffix) }
  | _ => return properties

/-- Reads an anchor and a tag in either order, each at most once. -/
def readProperties : Reader Properties := do
  match ← peek with
  | some (.tag _ _) => readAnchor (← readTag {})
  | _ => readTag (← readAnchor {})

/-- Gives a name a number, which is the number of names before it. The result is the place of the
node, too. -/
def nameNode (name : String) : Reader (Nat × Nat) := do
  let reading ← get
  let number := reading.names.length
  let names := (name, number) :: reading.names.filter (·.1 ≠ name)
  set { reading with names, places := reading.places + 1 }
  return (number, reading.places)

/-- Reads the content of a node, and notes it under its name. -/
def withName (anchor : Option String) (read : Reader Node) : Reader Node := do
  match anchor with
  | none => read
  | some name =>
    let (number, place) ← nameNode name
    let node ← read
    modify fun reading => { reading with targets := ⟨number, place, node⟩ :: reading.targets }
    return node

def aliasNode (name : String) : Reader Node := do
  match (← get).names.lookup name with
  | some number => return .alias number
  | none => failure

mutual

/-- Reads a node. Block collections are read only where `inBlock` says so, and sequences whose hyphens
are not deeper than the key before them only where `flat` says so. -/
def readNode : (fuel : Nat) → (inBlock flat : Bool) → Reader Node
  | 0, _, _ => failure
  | fuel + 1, inBlock, flat => do
    match ← peek with
    | some (.alias name) => skip; aliasNode name
    | _ =>
      let properties ← readProperties
      let named := withName properties.anchor
      match ← peek with
      | some (.scalar text style) =>
        skip
        named (return .scalar text style properties.tag)
      | some .flowSequenceStart => skip; named (return .sequence (← readFlowItems fuel true))
      | some .flowMappingStart => skip; named (return .mapping (← readFlowEntries fuel true))
      | some .blockSequenceStart =>
        if inBlock then skip; named (return .sequence (← readBlockItems fuel)) else failure
      | some .blockMappingStart =>
        if inBlock then skip; named (return .mapping (← readBlockEntries fuel)) else failure
      | next =>
        if flat ∧ next = some .blockEntry then named (return .sequence (← readFlatItems fuel))
        else if properties.anchor.isSome ∨ properties.tag.isSome then
          named (return .scalar "" .plain properties.tag)
        else failure

/-- Reads a node, or the empty scalar before one of the given tokens. -/
def readNodeOr : (fuel : Nat) → (ends : List Token) → (inBlock flat : Bool) → Reader Node
  | 0, _, _, _ => failure
  | fuel + 1, ends, inBlock, flat => do
    if ← nextIn ends then return emptyScalar else readNode fuel inBlock flat

def readBlockItems : (fuel : Nat) → Reader (List Node)
  | 0 => failure
  | fuel + 1 => do
    if ← accept .blockEntry then
      let item ← readNodeOr fuel [.blockEntry, .blockEnd] true false
      return item :: (← readBlockItems fuel)
    else if ← accept .blockEnd then return []
    else failure

/-- Reads the items of a sequence whose end does not show. -/
def readFlatItems : (fuel : Nat) → Reader (List Node)
  | 0 => failure
  | fuel + 1 => do
    if ← accept .blockEntry then
      let item ← readNodeOr fuel [.blockEntry, .key, .value, .blockEnd] true false
      return item :: (← readFlatItems fuel)
    else return []

def readBlockEntries : (fuel : Nat) → Reader (List (Node × Node))
  | 0 => failure
  | fuel + 1 => do
    if ← accept .key then
      let key ← readNodeOr fuel [.key, .value, .blockEnd] true true
      let value ←
        if ← accept .value then readNodeOr fuel [.key, .value, .blockEnd] true true
        else pure emptyScalar
      return (key, value) :: (← readBlockEntries fuel)
    else if ← accept .blockEnd then return []
    else failure

def readFlowItems : (fuel : Nat) → (first : Bool) → Reader (List Node)
  | 0, _ => failure
  | fuel + 1, first => do
    if ← accept .flowSequenceEnd then return []
    if !first then
      if !(← accept .flowEntry) then failure
    if ← accept .flowSequenceEnd then return []
    let item ←
      if ← accept .key then readSingleEntry fuel else readNode fuel false false
    return item :: (← readFlowItems fuel false)

/-- Reads an item that is a mapping of one entry. When the key is left out, the token after it is
passed over. -/
def readSingleEntry : (fuel : Nat) → Reader Node
  | 0 => failure
  | fuel + 1 => do
    let key ←
      if ← nextIn [.value, .flowEntry, .flowSequenceEnd] then
        skip
        pure emptyScalar
      else readNode fuel false false
    let value ←
      if ← accept .value then readNodeOr fuel [.flowEntry, .flowSequenceEnd] false false
      else pure emptyScalar
    return .mapping [(key, value)]

def readFlowEntries : (fuel : Nat) → (first : Bool) → Reader (List (Node × Node))
  | 0, _ => failure
  | fuel + 1, first => do
    if ← accept .flowMappingEnd then return []
    if !first then
      if !(← accept .flowEntry) then failure
    if ← accept .flowMappingEnd then return []
    let entry ←
      if ← accept .key then do
        let key ← readNodeOr fuel [.value, .flowEntry, .flowMappingEnd] false false
        let value ←
          if ← accept .value then readNodeOr fuel [.flowEntry, .flowMappingEnd] false false
          else pure emptyScalar
        pure (key, value)
      else do
        let key ← readNode fuel false false
        pure (key, emptyScalar)
    return entry :: (← readFlowEntries fuel false)

end

/-! ## Documents -/

/-- The tag handles that every document has. -/
def defaultHandles : List (String × String) :=
  [("!", "!"), ("!!", "tag:yaml.org,2002:")]

/-- Reads the directives of a document. A version may be given once and must be 1.1 or 1.2, and each
handle may be given once. -/
def readDirectives : (fuel : Nat) → (hasVersion : Bool) → Reader Unit
  | 0, _ => failure
  | fuel + 1, hasVersion => do
    match ← peek with
    | some (.version major minor) =>
      if hasVersion ∨ major ≠ 1 ∨ (minor ≠ 1 ∧ minor ≠ 2) then failure
      skip
      readDirectives fuel true
    | some (.tagHandle handle expansion) =>
      if ((← get).handles.lookup handle).isSome then failure
      skip
      modify fun reading => { reading with handles := (handle, expansion) :: reading.handles }
      readDirectives fuel hasVersion
    | _ => modify fun reading => { reading with handles := reading.handles ++ defaultHandles }

/-- Whether the next token can have no part in the content of a document. -/
def atDocumentBorder : Reader Bool := do
  match ← peek with
  | none => return true
  | some .documentStart => return true
  | some .documentEnd => return true
  | some (.version _ _) => return true
  | some (.tagHandle _ _) => return true
  | some _ => return false

/-- Reads the node of a document, which a marker must precede when there are directives. -/
def readRoot (fuel : Nat) : Reader (Option Node) := do
  if (← peek).isNone then return none
  let starts ← atDocumentBorder
  if starts ∧ (← peek) ≠ some .documentEnd then
    readDirectives fuel false
    if !(← accept .documentStart) then failure
    if ← atDocumentBorder then return some emptyScalar
  else readDirectives fuel false
  return some (← readNode fuel true false)

/-- Passes over the markers of the end of a document. -/
def skipEnds : Reader Unit :=
  modify fun reading =>
    { reading with tokens := reading.tokens.dropWhile (· = .documentEnd) }

def readDocument (fuel : Nat) : Reader Document := do
  let root ← readRoot fuel
  skipEnds
  let reading ← get
  if !reading.tokens.isEmpty then failure
  let later (a b : Target) : Bool := b.place ≤ a.place
  let targets := reading.targets.mergeSort later
  return ⟨root, targets.map fun target => (target.number, target.node)⟩

end Reader

/-- The document of a text that holds at most one. -/
def Document.ofText? (text : String) : Option Document := do
  let tokens ← Token.all? text
  (Reader.readDocument (4 * tokens.length + 8)).run' ⟨tokens, [], [], 0, []⟩

end RangeCatalog.Yaml
