import RangeCatalog.Settings.Basic
import RangeCatalog.Yaml.Node

/-! # Reading settings

Settings are a mapping of known names to values in a YAML document. What is not given keeps its default,
names that are not known do not count, and a known name may be given once. A document or a mapping that
is left empty gives nothing.
-/

namespace RangeCatalog

namespace Yaml

/-- The integer of a text: digits, perhaps after a plus sign, or after `0x`, `0o` or `0b` digits of base
16, 8 or 2. Without such a start, digits after a leading zero are not an integer. -/
def wordOfText? (text : String) : Option Nat :=
  let unsigned := match text.toList with
    | '+' :: rest => rest
    | chars => chars
  let value? := match unsigned with
    | '0' :: 'x' :: digits => numberOfText? 16 digits
    | '0' :: 'o' :: digits => numberOfText? 8 digits
    | '0' :: 'b' :: digits => numberOfText? 2 digits
    | ['0'] => some 0
    | '0' :: _ => none
    | digits => numberOfText? 10 digits
  value?.filter (· ≤ 0xffffffffffffffff)

def integerTag : String := "tag:yaml.org,2002:int"

namespace Document

/-- The node that a node stands for. -/
def resolve? (document : Document) : Node → Option Node
  | .alias number => document.targets.lookup number
  | node => some node

def text? (document : Document) (node : Node) : Option String :=
  match document.resolve? node with
  | some (.scalar text _ _) => some text
  | _ => none

/-- The integer of a scalar. Only a plain scalar denotes one, or a literal scalar with the tag of
integers. -/
def word? (document : Document) (node : Node) : Option Nat :=
  match document.resolve? node with
  | some (.scalar text .plain _) => wordOfText? text
  | some (.scalar text .literal (some tag)) => if tag = integerTag then wordOfText? text else none
  | _ => none

def fields? (document : Document) (node : Node) : Option (List (String × Node)) :=
  match document.resolve? node with
  | some (.mapping entries) =>
    entries.mapM fun (key, value) => (document.text? key).map fun name => (name, value)
  | some (.scalar "" .plain _) => some []
  | _ => none

end Document

/-- Reads the field of a name, or takes a default when it is not given. -/
def fieldOr? (fields : List (String × Node)) (name : String) (default : α)
    (read : Node → Option α) : Option α :=
  match fields.filter (·.1 = name) with
  | [] => some default
  | [(_, value)] => read value
  | _ => none

end Yaml

open Yaml (fieldOr?)

def FetchSettings.ofNode? (document : Yaml.Document) (node : Yaml.Node) : Option FetchSettings := do
  let default : FetchSettings := {}
  let fields ← document.fields? node
  return {
    timeoutSeconds := ← fieldOr? fields "timeout_secs" default.timeoutSeconds document.word?
    maxPayloadSize := ← fieldOr? fields "max_payload_bytes" default.maxPayloadSize document.word? }

namespace Settings

def ofNode? (document : Yaml.Document) (node : Yaml.Node) : Option Settings := do
  let default : Settings := {}
  let fields ← document.fields? node
  return {
    output := ← fieldOr? fields "output" default.output fun node => (document.text? node).map Path.mk
    fetch := ← fieldOr? fields "fetch" default.fetch (FetchSettings.ofNode? document) }

def ofDocument? (document : Yaml.Document) : Option Settings :=
  match document.root with
  | none => some {}
  | some node => ofNode? document node

/-- The settings of a text, whose values are checked. -/
def ofText (text : String) : Except SettingsError Settings :=
  match (Yaml.Document.ofText? text).bind ofDocument? with
  | none => .error .malformed
  | some settings => do
    settings.check
    return settings

end Settings

end RangeCatalog
