import RangeCatalog.Fetch.Error
import RangeCatalog.Json.Reader

/-! # Payloads

The document that a source publishes: a JSON object, and nothing is known yet about its fields.
-/

namespace RangeCatalog

/-- The fields of a fetched object. -/
structure Payload where
  fields : List (String × Json)
deriving DecidableEq, Repr

namespace Payload

def toJson (payload : Payload) : Json :=
  .object payload.fields

def field? (payload : Payload) (name : String) : Option Json :=
  payload.toJson.field? name

/-- What errors say in place of the reader's own account of malformed JSON. -/
def malformed : String := "<json>"

/-- The payload that a JSON value is. -/
def ofJson (url : String) : Json → Except FetchError Payload
  | .object fields => .ok ⟨fields⟩
  | _ => .error (.notAnObject url)

def ofBody (url : String) (body : List UInt8) : Except FetchError Payload :=
  match Json.ofOctets? body with
  | none => .error (.invalidJson url malformed)
  | some value => ofJson url value

end Payload

end RangeCatalog
