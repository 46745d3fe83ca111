import RangeCatalog.Url.Basic

/-! # Segments of paths

A path is read segment by segment. A segment of one point is left out, one of two points takes the
segment before it away, and a drive is never taken away. Line breaks and tabs do not count, except that
in the path of a file they part a drive from what follows it in its segment.
-/

namespace RangeCatalog.Url

/-- Whether a character is a line break or a tab. -/
def isBreak (c : Char) : Bool :=
  c = '\t' || c = '\n' || c = '\r'

/-- A text without the line breaks and tabs in it. -/
def withoutBreaks (chars : List Char) : List Char :=
  chars.filter (! isBreak ·)

def isSlash (special : Bool) (c : Char) : Bool :=
  c = '/' || (special && c = '\\')

def encodeSegment (chars : List Char) : String :=
  String.ofList (percentEncode EncodeSet.path (withoutBreaks chars))

/-- How many points a segment consists of, when they are one or two. -/
def points (segment : String) : Nat :=
  match String.ofList (segment.toList.map Char.toLower) with
  | "." => 1
  | "%2e" => 1
  | ".." => 2
  | ".%2e" => 2
  | "%2e." => 2
  | "%2e%2e" => 2
  | _ => 0

/-- Whether two characters name a drive: a letter and a colon or a bar. -/
def areDrive (letter mark : Char) : Bool :=
  letter.isAlpha && (mark = ':' || mark = '|')

/-- Whether a segment names a drive and nothing else. -/
def isDrive (segment : String) : Bool :=
  match segment.toList with
  | [letter, mark] => areDrive letter mark
  | _ => false

/-- Whether a segment is never taken away: a drive, alone or with a backslash after it. -/
def isFixed (segment : String) : Bool :=
  match segment.toList with
  | letter :: mark :: rest => areDrive letter mark && (rest.isEmpty || rest.head? = some '\\')
  | _ => false

/-- Parts a drive from what follows it in its segment, when a line break or a tab stands between. -/
def partDrive (chars : List Char) : Option (String × List Char) :=
  match chars.dropWhile isBreak with
  | letter :: afterLetter =>
    match afterLetter.dropWhile isBreak with
    | ':' :: mark :: rest =>
      if letter.isAlpha && isBreak mark && rest.any (! isBreak ·) then
        some (String.ofList [letter, ':'], rest)
      else none
    | _ => none
  | [] => none

/-- A path as far as it has been read. -/
structure Trail where
  /-- The segments, of which the last one comes first. -/
  segments : List String
  /-- Whether the first segment is a drive that stands for the host. -/
  onDrive : Bool

namespace Trail

def push (trail : Trail) (segment : String) : Trail :=
  { trail with segments := segment :: trail.segments }

/-- Takes the last segment away, unless it is fixed. -/
def ascend (trail : Trail) : Trail :=
  match trail.segments with
  | [] => trail
  | segment :: rest => if isFixed segment then trail else { trail with segments := rest }

/-- Appends a segment to the path of a file. A drive at its start is written with a colon. -/
def pushOfFile (trail : Trail) (chars : List Char) : Trail :=
  let segment := encodeSegment chars
  if ¬trail.segments.isEmpty then trail.push segment
  else match partDrive chars with
    | some (drive, rest) => (trail.push drive).push (encodeSegment rest)
    | none =>
      if isDrive segment then ⟨[String.ofList (segment.toList.take 1 ++ [':'])], true⟩
      else trail.push segment

/-- Reads the segments of a text. A path whose last segment is points ends with a slash. -/
def follow (isFile : Bool) (trail : Trail) : List (List Char) → Trail
  | [] => trail
  | chars :: rest =>
    let points := points (encodeSegment chars)
    if points = 0 then
      follow isFile (if isFile then trail.pushOfFile chars else trail.push (encodeSegment chars)) rest
    else
      let trail := if points = 2 then trail.ascend else trail
      if rest.isEmpty then trail.push "" else follow isFile trail rest

end Trail

/-- The path that a text denotes after the given segments. -/
def readPath (scheme : String) (base : List String) (chars : List Char) : List String :=
  let segments := chars.splitOnP (isSlash (isSpecial scheme))
  (Trail.follow false ⟨base.reverse, false⟩ segments).segments.reverse

/-- The path of a file that a text denotes, without the empty segments at its start, and whether it is on
a drive that stands for the host. -/
def readFilePath (chars : List Char) : List String × Bool :=
  let trail := Trail.follow true ⟨[], false⟩ (chars.splitOnP (isSlash true))
  match trail.segments.reverse.dropWhile String.isEmpty with
  | [] => ([""], trail.onDrive)
  | segments => (segments, trail.onDrive)

end RangeCatalog.Url
