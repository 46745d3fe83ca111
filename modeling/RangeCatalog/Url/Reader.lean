import RangeCatalog.Url.Segments

/-! # Reading URLs

The URL that a text denotes, by itself or relative to another URL. Control characters and spaces at
the ends of a text do not count, and line breaks and tabs inside it count for drives of files only. In
special schemes a backslash stands for a slash.
-/

namespace RangeCatalog.Url

/-- A text without the control characters and spaces at its ends. -/
def trimEdges (chars : List Char) : List Char :=
  let isEdge (c : Char) : Bool := c.toNat ≤ 0x20
  ((chars.dropWhile isEdge).reverse.dropWhile isEdge).reverse

/-- The scheme of a text in lower case, and what follows its colon. -/
def readScheme (chars : List Char) : Option (String × List Char) :=
  let isPart (c : Char) : Bool := c.isAlphanum || c = '+' || c = '-' || c = '.'
  let before := chars.takeWhile (· ≠ ':')
  let name := withoutBreaks before
  match name, chars.drop before.length with
  | first :: _, ':' :: rest =>
    if first.isAlpha && name.all isPart then
      some (String.ofList (name.map Char.toLower), rest)
    else none
  | _, _ => none

/-- What follows a scheme, or a whole relative text, cut into its three parts. -/
structure Tail where
  /-- The part before query and fragment, with its line breaks and tabs. -/
  raw : List Char
  query : Option (List Char)
  fragment : Option (List Char)

namespace Tail

/-- Cuts a text at its first `#`, and what is before it at its first `?`. -/
def ofChars (chars : List Char) : Tail :=
  let upTo (mark : Char) (chars : List Char) : List Char × Option (List Char) :=
    let before := chars.takeWhile (· ≠ mark)
    (before, if before.length < chars.length then some (chars.drop (before.length + 1)) else none)
  let (rest, fragment) := upTo '#' chars
  let (raw, query) := upTo '?' rest
  ⟨raw, query.map withoutBreaks, fragment.map withoutBreaks⟩

/-- The part before query and fragment. -/
def body (tail : Tail) : List Char :=
  withoutBreaks tail.raw

def queryText (tail : Tail) (special : Bool) : Option String :=
  tail.query.map fun chars => String.ofList (percentEncode (EncodeSet.query special) chars)

def fragmentText (tail : Tail) : Option String :=
  tail.fragment.map fun chars => String.ofList (percentEncode EncodeSet.fragment chars)

def complete (tail : Tail) (scheme : String) (authority : Option Authority) (path : Path) : Url :=
  ⟨scheme, authority, path, tail.queryText (isSpecial scheme), tail.fragmentText⟩

end Tail

def readCredentials (chars : List Char) : String × String :=
  let name := chars.takeWhile (· ≠ ':')
  let encode (chars : List Char) : String := String.ofList (percentEncode EncodeSet.userInfo chars)
  (encode name, encode (chars.drop (name.length + 1)))

/-- The text before the last `@`, when there is one, and the text after it. -/
def splitCredentials (chars : List Char) : Option (List Char) × List Char :=
  let host := (chars.reverse.takeWhile (· ≠ '@')).reverse
  if host.length < chars.length then (some (chars.take (chars.length - host.length - 1)), host)
  else (none, chars)

/-- The text of a host and what follows it, which starts with a colon when it is not empty. Colons in
brackets belong to the host. -/
def splitHost (inBrackets : Bool) : List Char → List Char × List Char
  | [] => ([], [])
  | c :: rest =>
    if c = ':' ∧ ¬inBrackets then ([], c :: rest)
    else
      let (host, tail) := splitHost (if c = '[' then true else if c = ']' then false else inBrackets) rest
      (c :: host, tail)

/-- A port number, which fits sixteen bits. -/
def readPort (scheme : String) (chars : List Char) : Except UrlError (Option Nat) :=
  let (digits, rest) := spanDigits 10 chars
  if ¬rest.isEmpty ∨ 65535 < numberOfDigits 10 digits then .error .invalidPort
  else if digits.isEmpty ∨ defaultPort? scheme = some (numberOfDigits 10 digits) then .ok none
  else .ok (some (numberOfDigits 10 digits))

/-- Reads what follows two slashes: authority and path. -/
def readHierarchy (scheme : String) (tail : Tail) (chars : List Char) : Except UrlError Url := do
  let special := isSpecial scheme
  let authority := chars.takeWhile (! isSlash special ·)
  let path := chars.drop authority.length
  let (userInfo?, hostAndPort) := splitCredentials authority
  let hasMore := !path.isEmpty || tail.query.isSome || tail.fragment.isSome
  if userInfo? = some [] ∧ hostAndPort.isEmpty ∧ hasMore then throw .emptyHost
  let (username, password) := readCredentials (userInfo?.getD [])
  let (hostChars, portChars) := splitHost false hostAndPort
  if hostChars.isEmpty ∧ (special ∨ ¬portChars.isEmpty) then throw .emptyHost
  let host ← if special then Host.ofSpecial hostChars else Host.ofOther hostChars
  -- A backslash ends a port number in every scheme, and then belongs to the path.
  let portNumeral := (portChars.drop 1).takeWhile (· ≠ '\\')
  let path := (portChars.drop 1).drop portNumeral.length ++ path
  let portNumber ← readPort scheme portNumeral
  if hostChars.isEmpty ∧ ¬(username.isEmpty ∧ password.isEmpty) then throw .emptyHost
  let segments := match path with
    | [] => if special then [""] else []
    | c :: rest => readPath scheme [] (if isSlash special c then rest else c :: rest)
  return tail.complete scheme (some { username, password, host, portNumber }) (.segments segments)

/-- Reads what follows the scheme `file`. An absent host, the local host and a host before a drive are
left out. After an absent or local host the path begins with an empty segment, so that a drive is not at
its start. -/
def readFile (tail : Tail) : Except UrlError Url := do
  let isSlash := isSlash true
  let finish (host : Host) (chars : List Char) : Url :=
    let (segments, onDrive) := readFilePath chars
    tail.complete "file" (some { host := if onDrive then .name "" else host }) (.segments segments)
  let afterSlash? (chars : List Char) : Option (List Char) :=
    match chars.dropWhile isBreak with
    | c :: rest => if isSlash c then some rest else none
    | [] => none
  match afterSlash? tail.raw with
  | none => return finish (.name "") tail.raw
  | some afterFirst =>
    match afterSlash? afterFirst with
    | none => return finish (.name "") afterFirst
    | some rest =>
      let hostChars := rest.takeWhile (! isSlash ·)
      let path := rest.drop hostChars.length
      let hostChars := withoutBreaks hostChars
      if hostChars.isEmpty then return finish (.name "") path
      if isDrive (String.ofList hostChars) then return finish (.name "") rest
      let host ← Host.ofSpecial hostChars
      return if host = .name "localhost" then finish (.name "") path else finish host (path.drop 1)

/-- Reads what follows a scheme. -/
def readAfterScheme (scheme : String) (tail : Tail) : Except UrlError Url :=
  if scheme = "file" then readFile tail
  else if isSpecial scheme then
    readHierarchy scheme tail (tail.body.dropWhile (isSlash true))
  else match tail.body with
    | '/' :: '/' :: rest => readHierarchy scheme tail rest
    | '/' :: rest => .ok (tail.complete scheme none (.segments (readPath scheme [] rest)))
    | chars =>
      let text := String.ofList (percentEncode EncodeSet.controls chars)
      .ok (tail.complete scheme none (.verbatim text))

/-- The URL that a text denotes by itself. -/
def ofText (text : String) : Except UrlError Url :=
  match readScheme (trimEdges text.toList) with
  | none => .error .relativeWithoutBase
  | some (scheme, rest) => readAfterScheme scheme (Tail.ofChars rest)

def Path.toSegments : Path → List String
  | .verbatim _ => []
  | .segments list => list

/-- Resolves a text without a scheme against a URL with a special scheme. After two slashes the host
must follow at once. -/
def resolveTail (base : Url) (tail : Tail) : Except UrlError Url :=
  let isSlash := isSlash true
  match tail.body with
  | [] =>
    let query := if tail.query.isSome then tail.queryText true else base.query
    .ok { base with query, fragment := tail.fragmentText }
  | '/' :: '/' :: rest => readHierarchy base.scheme tail rest
  | a :: rest =>
    if isSlash a then
      if (rest.head?.map isSlash).getD false then
        readHierarchy base.scheme tail (rest.dropWhile isSlash)
      else .ok (tail.complete base.scheme base.authority (.segments (readPath base.scheme [] rest)))
    else
      let segments := readPath base.scheme base.path.toSegments.dropLast (a :: rest)
      .ok (tail.complete base.scheme base.authority (.segments segments))

/-- The URL that a text denotes relative to a URL with a special scheme other than `file`. -/
def resolve (base : Url) (text : String) : Except UrlError Url :=
  let chars := trimEdges text.toList
  match readScheme chars with
  | none => resolveTail base (Tail.ofChars chars)
  | some (scheme, rest) =>
    let tail := Tail.ofChars rest
    let slashes := (tail.body.takeWhile (isSlash true)).length
    if scheme = base.scheme ∧ slashes < 2 then resolveTail base tail
    else readAfterScheme scheme tail

end RangeCatalog.Url
