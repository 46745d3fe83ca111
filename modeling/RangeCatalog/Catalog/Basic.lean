import RangeCatalog.Json.Writer

/-! # Catalogs

The published document: one entry for each set, with the ranges in canonical order, and the day and the
second of the build. The rendered form is pretty JSON whose fields stand in a fixed order, ended by one
newline. The reader of JSON values accepts what the rendered form holds; it ignores fields that it does
not know, and takes an array of all fields in the same order for an object.
-/

namespace RangeCatalog

/-- The published result of one source. -/
structure Entry where
  id : String
  label : String
  provider : String
  sourceUrl : String
  sourceStamp : Option String
  sourceStampSeconds : Option Int
  ranges : List String
  version : String
deriving DecidableEq, Repr

/-- The published document. -/
structure Catalog where
  /-- The date of the build. -/
  version : String
  /-- The time of the build as a text. -/
  generatedAt : String
  generatedAtSeconds : Int
  entries : List Entry
deriving DecidableEq, Repr

def Json.ofOption (encode : α → Json) : Option α → Json
  | some value => encode value
  | none => .null

namespace Entry

/-- The names of the fields, in the order of writing. -/
def fieldNames : List String :=
  ["id", "label", "provider", "source_url", "source_timestamp", "source_timestamp_unix", "cidrs",
    "version"]

def fieldValues (entry : Entry) : List Json :=
  [.string entry.id, .string entry.label, .string entry.provider, .string entry.sourceUrl,
    .ofOption .string entry.sourceStamp, .ofOption .integer entry.sourceStampSeconds,
    .array (entry.ranges.map .string), .string entry.version]

def toJson (entry : Entry) : Json :=
  .object (fieldNames.zip entry.fieldValues)

end Entry

namespace Catalog

/-- The names of the fields, in the order of writing. -/
def fieldNames : List String :=
  ["catalog_version", "generated_at", "generated_at_unix", "sets"]

def fieldValues (catalog : Catalog) : List Json :=
  [.string catalog.version, .string catalog.generatedAt, .integer catalog.generatedAtSeconds,
    .array (catalog.entries.map Entry.toJson)]

def toJson (catalog : Catalog) : Json :=
  .object (fieldNames.zip catalog.fieldValues)

/-- The catalog as it is stored. -/
def render (catalog : Catalog) : String :=
  catalog.toJson.pretty ++ "\n"

end Catalog

namespace Json

/-- The values of named fields: those of an object, where a missing field counts as null, or all items
of an array that has one for each name. -/
def record? (names : List String) (value : Json) : Option (List Json) :=
  match value with
  | object _ => some (names.map fun name => (value.field? name).getD null)
  | array items => if items.length = names.length then some items else none
  | _ => none

/-- An integer that fits 64 bits with a sign. -/
def word? : Json → Option Int
  | integer value => if -0x8000000000000000 ≤ value ∧ value < 0x8000000000000000 then some value else none
  | _ => none

/-- A value where null stands for none. -/
def optional? (decode : Json → Option α) : Json → Option (Option α)
  | null => some none
  | value => (decode value).map some

def all? (decode : Json → Option α) : Json → Option (List α)
  | array items => items.mapM decode
  | _ => none

end Json

def Entry.ofJson? (value : Json) : Option Entry := do
  let [id, label, provider, sourceUrl, stamp, seconds, ranges, version] ← value.record? fieldNames
    | none
  return {
    id := ← id.text?
    label := ← label.text?
    provider := ← provider.text?
    sourceUrl := ← sourceUrl.text?
    sourceStamp := ← stamp.optional? Json.text?
    sourceStampSeconds := ← seconds.optional? Json.word?
    ranges := ← ranges.all? Json.text?
    version := ← version.text? }

def Catalog.ofJson? (value : Json) : Option Catalog := do
  let [version, generatedAt, seconds, entries] ← value.record? fieldNames
    | none
  return {
    version := ← version.text?
    generatedAt := ← generatedAt.text?
    generatedAtSeconds := ← seconds.word?
    entries := ← entries.all? Entry.ofJson? }

end RangeCatalog
