/-! # Paths

The text of a path, cut at its slashes. Pieces that are empty or a single point do not count, except
the first: an empty first piece makes the path absolute, and a point at the start is kept. The parent
and the lock file of a path are formed on its text, so that the pieces that stay are written as before.
-/

namespace RangeCatalog

/-- The text of a path. -/
structure Path where
  text : String
deriving DecidableEq, Repr

namespace Path

def pieces (path : Path) : List String :=
  (path.text.toList.splitOn '/').map String.ofList

def ofPieces : List String → Path
  | [""] => ⟨"/"⟩
  | pieces => ⟨String.intercalate "/" pieces⟩

/-- Whether a piece does not count. -/
def isIdle (piece : String) : Bool :=
  piece = "" || piece = "."

/-- The pieces without idle ones at the end. The first piece stays. -/
def trimEnd : List String → List String
  | [] => []
  | first :: rest => first :: (rest.reverse.dropWhile isIdle).reverse

/-- One step from a directory. -/
inductive Step where
  | root
  | here
  | up
  | name (text : String)
deriving DecidableEq, Repr

/-- The step of a piece that counts. -/
def stepOfPiece (piece : String) : Step :=
  if piece = ".." then .up else if piece = "." then .here else .name piece

/-- The steps of a path. Two paths with the same steps are one path. -/
def steps (path : Path) : List Step :=
  match path.pieces with
  | [] => []
  | first :: rest =>
    let start := if first ≠ "" then [stepOfPiece first] else if rest.isEmpty then [] else [.root]
    start ++ (rest.filter (! isIdle ·)).map stepOfPiece

/-- Whether two texts are the same path. -/
def same (a b : Path) : Bool :=
  a.steps = b.steps

/-- The path without its last step, unless it has none or is the root. -/
def parent? (path : Path) : Option Path :=
  match trimEnd path.pieces with
  | [] => none
  | [first] => if first = "" then none else some ⟨""⟩
  | pieces => some (ofPieces (trimEnd pieces.dropLast))

/-- The name at the end of a path. -/
def fileName? (path : Path) : Option String :=
  match path.steps.getLast? with
  | some (.name text) => some text
  | _ => none

/-- The path of a name in a directory. -/
def join (directory : Path) (name : String) : Path :=
  if directory.text.isEmpty || directory.text.toList.getLast? = some '/' then ⟨directory.text ++ name⟩
  else ⟨directory.text ++ "/" ++ name⟩

/-- The path with another name at its end. Where there is no name, the new one is appended. -/
def withFileName (path : Path) (name : String) : Path :=
  if path.fileName?.isSome then (path.parent?.getD ⟨""⟩).join name else path.join name

/-- The file that is locked while the path is written: its name with `.lock` appended. -/
def lockFile (path : Path) : Path :=
  path.withFileName (path.fileName?.getD "catalog" ++ ".lock")

/-- The directory that must be there before the path is written. -/
def directory? (path : Path) : Option Path :=
  path.parent?.filter fun parent => !parent.text.isEmpty

/-- The path and the paths above it, at most `count` of them. -/
def upward : (count : Nat) → Path → List Path
  | 0, _ => []
  | count + 1, path =>
    match path.parent? with
    | none => [path]
    | some parent => path :: upward count parent

/-- The path and all paths above it, the nearest first. -/
def ancestors (path : Path) : List Path :=
  path.upward (path.pieces.length + 1)

end Path

end RangeCatalog
