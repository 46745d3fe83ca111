import RangeCatalog.Json.Token

/-! # Reading JSON

A text is one value with nothing but blanks around it. The reader takes one token at a time and keeps
the containers that are still open, innermost first. Containers nest at most `maxDepth` deep. The
fields of an object come out in increasing order of their names; of fields with one name the last one
counts.
-/

namespace RangeCatalog.Json

/-- How deep containers may nest. -/
def maxDepth : Nat := 127

/-- A container that is still open, with what it holds so far, the last first. -/
inductive Container where
  | array (items : List Json)
  /-- An object whose next value belongs to `name`. -/
  | field (name : String) (fields : List (String × Json))

/-- What has been read, and with it what may come next. -/
inductive Reading where
  /-- A value must come. -/
  | value (outer : List Container)
  /-- An array was opened. -/
  | arrayStart (outer : List Container)
  /-- An object was opened. -/
  | objectStart (outer : List Container)
  /-- A name must come. -/
  | name (fields : List (String × Json)) (outer : List Container)
  /-- A name was read. -/
  | named (name : String) (fields : List (String × Json)) (outer : List Container)
  /-- An item of an array was read. -/
  | items (items : List Json) (outer : List Container)
  /-- A field of an object was read. -/
  | fields (fields : List (String × Json)) (outer : List Container)
  /-- The whole value was read. -/
  | done (value : Json)

namespace Reading

/-- Puts a complete value into the innermost open container. -/
def complete (json : Json) : List Container → Reading
  | [] => done json
  | .array read :: outer => items (json :: read) outer
  | .field text read :: outer => fields ((text, json) :: read) outer

/-- Takes the first token of a value. -/
def start (outer : List Container) : Token → Option Reading
  | .scalar json => some (complete json outer)
  | .text text => some (complete (.string text) outer)
  | .openArray => if outer.length < maxDepth then some (arrayStart outer) else none
  | .openObject => if outer.length < maxDepth then some (objectStart outer) else none
  | _ => none

def step : Reading → Token → Option Reading
  | value outer, token => start outer token
  | arrayStart outer, .closeArray => some (complete (.array []) outer)
  | arrayStart outer, token => start (.array [] :: outer) token
  | objectStart outer, .closeObject => some (complete (.object []) outer)
  | objectStart outer, .text read => some (named read [] outer)
  | name read outer, .text text => some (named text read outer)
  | named text read outer, .colon => some (value (.field text read :: outer))
  | items read outer, .comma => some (value (.array read :: outer))
  | items read outer, .closeArray => some (complete (.array read.reverse) outer)
  | fields read outer, .comma => some (name read outer)
  | fields read outer, .closeObject => some (complete (ofFields read.reverse) outer)
  | _, _ => none

def result? : Reading → Option Json
  | done json => some json
  | _ => none

end Reading

def ofTokens? (tokens : List Token) : Option Json := do
  (← tokens.foldlM Reading.step (.value [])).result?

/-- The value that a text denotes. -/
def ofText? (text : String) : Option Json :=
  (Token.all? text.toList).bind ofTokens?

/-- The value that octets denote, which must be UTF-8. -/
def ofOctets? (octets : List UInt8) : Option Json :=
  (String.fromUTF8? octets.toByteArray).bind ofText?

end RangeCatalog.Json
