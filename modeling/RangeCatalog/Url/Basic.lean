import RangeCatalog.Url.Host

/-! # URLs

A URL by its parts, and its normalized text. Some schemes are special: their URLs always have a host,
`file` apart, and a path, and they have default ports that the text leaves out.
-/

namespace RangeCatalog

namespace Url

/-- The part of a URL that says whom to contact. -/
structure Authority where
  username : String := ""
  password : String := ""
  host : Host
  portNumber : Option Nat := none
deriving DecidableEq, Repr

inductive Path where
  /-- A text without segments, which a scheme has after which no slash follows. -/
  | verbatim (text : String)
  | segments (list : List String)
deriving DecidableEq, Repr

end Url

/-- A URL, whose parts are encoded already. -/
structure Url where
  scheme : String
  authority : Option Url.Authority
  path : Url.Path
  query : Option String := none
  fragment : Option String := none
deriving DecidableEq, Repr

namespace Url

/-- The special schemes with their default port numbers. -/
def specialSchemes : List (String × Option Nat) :=
  [("http", some 80), ("https", some 443), ("ws", some 80), ("wss", some 443), ("ftp", some 21),
    ("file", none)]

def isSpecial (scheme : String) : Bool :=
  (specialSchemes.lookup scheme).isSome

/-- The port number that a scheme uses when none is given. -/
def defaultPort? (scheme : String) : Option Nat :=
  (specialSchemes.lookup scheme).join

namespace Authority

/-- User name and password before the host. -/
def credentials (authority : Authority) : String :=
  if authority.username.isEmpty && authority.password.isEmpty then ""
  else if authority.password.isEmpty then authority.username ++ "@"
  else authority.username ++ ":" ++ authority.password ++ "@"

def text (authority : Authority) : String :=
  let portText := (authority.portNumber.map fun number => ":" ++ decimal number).getD ""
  authority.credentials ++ authority.host.text ++ portText

end Authority

def Path.text : Path → String
  | .verbatim raw => raw
  | .segments list => String.join (list.map ("/" ++ ·))

def text (url : Url) : String :=
  let authority := (url.authority.map fun authority => "//" ++ authority.text).getD ""
  let guarded := match url.authority, url.path with
    | none, .segments ("" :: _ :: _) => "/."
    | _, _ => ""
  let query := (url.query.map ("?" ++ ·)).getD ""
  let fragment := (url.fragment.map ("#" ++ ·)).getD ""
  url.scheme ++ ":" ++ authority ++ guarded ++ url.path.text ++ query ++ fragment

/-- The text of the host. -/
def hostText (url : Url) : String :=
  (url.authority.map (·.host.text)).getD ""

/-- The URL that is requested: without credentials and without a fragment. -/
def request (url : Url) : Url :=
  { url with
    authority := url.authority.map fun authority => { authority with username := "", password := "" }
    fragment := none }

end Url

end RangeCatalog
