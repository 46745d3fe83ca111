import RangeCatalog.Unicode.DirectionTable
import RangeCatalog.Unicode.JoiningTable
import RangeCatalog.Unicode.MarkTable
import RangeCatalog.Unicode.Normal

/-! # Parts of host names

What a part of a host name between two full stops must keep: it does not start with a mark, invisible
joiners stand only where they change how neighbours are written, and a name with a part that is
written from right to left has no part that mixes directions.
-/

namespace RangeCatalog.Host.Label

open Unicode

def marks : List Run :=
  runsOfTable markTable

def isMark (code : Nat) : Bool :=
  0x300 ≤ code && (findRun? marks code).isSome

def joiningRuns : List Run :=
  runsOfTable joiningTable

def joining (code : Nat) : Char :=
  ((findRun? joiningRuns code).bind (·.value.head?)).getD 'U'

/-- Whether a code point is a virama, which joins the letters around it. -/
def isVirama (code : Nat) : Bool :=
  combiningClass code == 9

/-- Whether the nearest code point that is not transparent to joining has one of the given types. -/
def meets (types : List Char) (codes : List Nat) : Bool :=
  match codes.dropWhile (joining · == 'T') with
  | [] => false
  | code :: _ => types.contains (joining code)

/-- Whether every joiner stands where it may. The first argument holds the code points before, the
last one first. -/
def joinersAllowed (before : List Nat) : List Nat → Bool
  | [] => true
  | code :: rest =>
    let afterVirama := (before.head?.map isVirama).getD false
    let allowed :=
      if code = 0x200c then afterVirama || (meets ['L', 'D'] before && meets ['R', 'D'] rest)
      else if code = 0x200d then afterVirama
      else true
    allowed && joinersAllowed (code :: before) rest

/-- The runs of code points that are not of the class `L`. -/
def directionRuns : List Run :=
  runsOfTable directionTable

def direction (code : Nat) : String :=
  ((findRun? directionRuns code).map fun run => String.ofList run.value).getD "L"

/-- Whether a code point makes a name one that is written from right to left. -/
def isRightToLeft (code : Nat) : Bool :=
  0x80 ≤ code && ["R", "AL", "AN"].contains (direction code)

/-- Whether a part keeps one direction: its first code point decides which, only classes of that
direction occur, it ends in a letter or a number of that direction, and one that is written from right
to left has one kind of numbers. -/
def keepsDirection (codes : List Nat) : Bool :=
  let classes := codes.map direction
  let last := ((classes.reverse.dropWhile (· == "NSM")).head?).getD ""
  match classes.head? with
  | none => true
  | some first =>
    if ["R", "AL"].contains first then
      classes.all ["R", "AL", "AN", "EN", "ES", "CS", "ET", "ON", "BN", "NSM"].contains &&
        ["R", "AL", "EN", "AN"].contains last && !(classes.contains "EN" && classes.contains "AN")
    else if first == "L" then
      classes.all ["L", "EN", "ES", "CS", "ET", "ON", "BN", "NSM"].contains &&
        ["L", "EN"].contains last
    else false

def allowed (rightToLeft : Bool) (codes : List Nat) : Bool :=
  !((codes.head?.map isMark).getD false) && joinersAllowed [] codes &&
    (!rightToLeft || keepsDirection codes)

end RangeCatalog.Host.Label
