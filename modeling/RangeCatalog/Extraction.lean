import RangeCatalog.Calendar.Stamp
import RangeCatalog.Fetch.Payload
import RangeCatalog.Source
import RangeCatalog.Text.Blank

/-! # Extraction

The range texts of a payload in the order of the payload, and the time stamp beside them. Nothing is
dropped or converted: the first entry that does not have the shape of the layout fails the whole
payload, and the error says where it stands. A time stamp that cannot be read counts as absent.
-/

namespace RangeCatalog

/-- In what a payload differs from its layout. -/
inductive ShapeError where
  | missingArray (url field : String)
  | notAnObject (url path : String)
  | notOnePrefix (url path : String)
  | notAString (url path : String)
  | missingKey (setId : String)
deriving DecidableEq, Repr

def ShapeError.message : ShapeError → String
  | missingArray url field => url ++ " missing '" ++ field ++ "' array"
  | notAnObject url path => url ++ " " ++ path ++ " must be an object"
  | notOnePrefix url path =>
    url ++ " " ++ path ++ " must include exactly one of 'ipv4Prefix' or 'ipv6Prefix' as a string"
  | notAString url path => url ++ " " ++ path ++ " must be a string"
  | missingKey setId => "Source " ++ setId ++ " uses json_array_key but declares no payload key"

/-- What a payload yields. -/
structure Extraction where
  rangeTexts : List String
  stamp : Option Instant
deriving DecidableEq, Repr

namespace Extraction

/-- The place of an item in an array. -/
def itemPath (field : String) (index : Nat) : String :=
  field ++ "[" ++ decimal index ++ "]"

/-- The name of the array of the layout with objects. -/
def prefixesField : String := "prefixes"

/-- The text of an entry that must have exactly one of two fields, and a text in it. -/
def prefixText (url path : String) : Json → Except ShapeError String
  | .object fields =>
    match fields.lookup "ipv4Prefix", fields.lookup "ipv6Prefix" with
    | some (.string text), none => .ok text
    | none, some (.string text) => .ok text
    | _, _ => .error (.notOnePrefix url path)
  | _ => .error (.notAnObject url path)

def plainText (url path : String) : Json → Except ShapeError String
  | .string text => .ok text
  | _ => .error (.notAString url path)

/-- Reads the items of an array, each with its place, up to the first that is refused. -/
def readItems (field : String) (read : String → Json → Except ShapeError String) (index : Nat) :
    List Json → Except ShapeError (List String)
  | [] => .ok []
  | item :: rest => do
    let text ← read (itemPath field index) item
    return text :: (← readItems field read (index + 1) rest)

def readArray (payload : Payload) (url field : String)
    (read : String → Json → Except ShapeError String) : Except ShapeError (List String) :=
  match (payload.field? field).bind Json.items? with
  | none => .error (.missingArray url field)
  | some items => readItems field read 0 items

def stamp? (payload : Payload) : Option Instant :=
  ((payload.field? "creationTime").bind Json.text?).bind Stamp.ofText?

/-- Reads a payload with an array of objects. -/
def ofPrefixObjects (payload : Payload) (url : String) : Except ShapeError Extraction := do
  let rangeTexts ← readArray payload url prefixesField (prefixText url)
  return ⟨rangeTexts, stamp? payload⟩

/-- Reads a payload with an array of texts, which has no time stamp. -/
def ofTextArray (payload : Payload) (url key : String) : Except ShapeError Extraction := do
  let rangeTexts ← readArray payload url key (plainText url)
  return ⟨rangeTexts, none⟩

/-- Reads the payload of a source. -/
def ofPayload (payload : Payload) (source : Source) : Except ShapeError Extraction :=
  match source.layout with
  | .prefixObjects => ofPrefixObjects payload source.url
  | .textArray key =>
    if isBlankText key then .error (.missingKey source.setId) else ofTextArray payload source.url key

end Extraction

end RangeCatalog
