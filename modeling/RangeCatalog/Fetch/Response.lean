import RangeCatalog.Fetch.Allowance
import RangeCatalog.Fetch.Payload

/-! # Responses

One answer of a server, and what is made of it. The body arrives in pieces. Its size is checked twice:
when the server declares it, and against the pieces, since a declaration may be missing. A body that
ends before it is complete is lost.
-/

namespace RangeCatalog

structure Response where
  status : Nat
  headers : List (String × String)
  /-- The size of the body that the server declares. -/
  declared : Option Nat
  /-- The body, in the pieces in which it arrives. -/
  pieces : List (List UInt8)
  /-- Whether the server ends a body of undeclared size properly. -/
  ended : Bool
deriving DecidableEq, Repr

/-- What errors say in place of the transport's own account of a failure. -/
def FetchError.transportReason : String := "<network>"

namespace Response

/-- Whether the answer is one that ends a request. Interim answers do not, and a status has three
digits. -/
def isFinal (response : Response) : Bool :=
  response.status = 101 || (200 ≤ response.status && response.status ≤ 999)

def isSuccess (response : Response) : Bool :=
  200 ≤ response.status && response.status ≤ 299

def hasBody (response : Response) : Bool :=
  !(response.status < 200 || response.status = 204 || response.status = 304)

/-- Whether the status sends the client to another URL. -/
def isRedirect (response : Response) : Bool :=
  [301, 302, 303, 307, 308].contains response.status

/-- The first header of a name. The case of names does not count. -/
def header? (response : Response) (name : String) : Option String :=
  (response.headers.find? fun header => header.1.toLower = name.toLower).map Prod.snd

/-- The URL to which the answer to a request sends the client. -/
def target? (response : Response) (requested : Url) : Option Url :=
  if response.isRedirect then
    (response.header? "location").bind fun text => (requested.resolve text).toOption
  else none

/-- The first octets of a body, piece by piece. -/
def takeOctets : (count : Nat) → List (List UInt8) → List (List UInt8)
  | _, [] => []
  | count, piece :: rest => piece.take count :: takeOctets (count - piece.length) rest

/-- The pieces that belong to the body. Octets beyond a declared size do not. -/
def bodyPieces (response : Response) : List (List UInt8) :=
  if response.hasBody then
    match response.declared with
    | some size => takeOctets size response.pieces
    | none => response.pieces
  else []

/-- The declared size, where there is a body. -/
def bodySize? (response : Response) : Option Nat :=
  if response.hasBody then response.declared else some 0

/-- Whether the whole body arrives. -/
def isComplete (response : Response) : Bool :=
  match response.bodySize? with
  | some size => response.bodyPieces.flatten.length = size
  | none => response.ended

/-- Appends a piece, unless the body would outgrow the limit; then the size so far is the error. -/
def appendPiece (max : Nat) (body piece : List UInt8) : Except Nat (List UInt8) :=
  let size := body.length + piece.length
  if max < size then .error size else .ok (body ++ piece)

/-- Reads the body, which may have `max` octets. -/
def readBody (response : Response) (url : String) (max : Nat) : Except FetchError (List UInt8) := do
  if let some size := response.bodySize? then
    if max < size then throw (.tooLarge url size max)
  let body ← (response.bodyPieces.foldlM (appendPiece max) []).mapError (.tooLarge url · max)
  if response.isComplete then return body
  else throw (.network url FetchError.transportReason)

def payload (response : Response) (url : String) (max : Nat) : Except FetchError Payload := do
  if response.isSuccess then
    Payload.ofBody url (← response.readBody url max)
  else throw (.httpStatus url response.status)

end Response

end RangeCatalog
