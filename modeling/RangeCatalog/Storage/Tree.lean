import RangeCatalog.Storage.Basic

/-! # File trees

Directories and files by their place under a root, which is the working directory too. A path is
followed piece by piece, and every piece but the last must lead through a directory. Each file has a
number of its own. A file that is replaced gets a new number, and locks are held on numbers, so that a
lock does not pass to the file that takes the place of the locked one.
-/

namespace RangeCatalog

/-- What stands at a place of a tree. -/
inductive Node where
  | directory
  | file (number : Nat) (octets : List UInt8)
deriving DecidableEq, Repr

/-- A place in a tree: the names from the root on. -/
abbrev Place := List String

structure Tree where
  nodes : List (Place × Node) := []
  /-- The number of the next file. -/
  nextNumber : Nat := 0
  /-- The numbers of the locked files. -/
  locked : List Nat := []
deriving DecidableEq, Repr

namespace Tree

/-- What stands at a place. The root is always a directory. -/
def node? (tree : Tree) (place : Place) : Option Node :=
  if place.isEmpty then some .directory else tree.nodes.lookup place

def withNode (tree : Tree) (place : Place) (node : Node) : Tree :=
  { tree with nodes := (place, node) :: tree.nodes.filter (·.1 ≠ place) }

def withNewFile (tree : Tree) (place : Place) (octets : List UInt8) : Tree :=
  { tree.withNode place (.file tree.nextNumber octets) with nextNumber := tree.nextNumber + 1 }

def requireDirectory (tree : Tree) (place : Place) : Except StorageError Unit :=
  match tree.node? place with
  | some .directory => .ok ()
  | some (.file _ _) => .error .notADirectory
  | none => .error .notFound

def maxNameSize : Nat := 255

def maxPathSize : Nat := 4095

/-- Follows pieces of a path from a place. -/
def follow (tree : Tree) (place : Place) : List String → Except StorageError Place
  | [] => .ok place
  | piece :: rest => do
    tree.requireDirectory place
    if Path.isIdle piece then tree.follow place rest
    else if piece = ".." then tree.follow place.dropLast rest
    else if maxNameSize < piece.utf8ByteSize then throw .nameTooLong
    else tree.follow (place ++ [piece]) rest

/-- The place to which a path leads, whether or not anything stands there. -/
def place (tree : Tree) (path : Path) : Except StorageError Place :=
  if path.text.isEmpty then .error .notFound
  else if path.text.toList.any (·.toNat = 0) then .error .invalidName
  else if maxPathSize < path.text.utf8ByteSize then .error .nameTooLong
  else tree.follow [] path.pieces

/-- What stands where a path leads. -/
def find (tree : Tree) (path : Path) : Except StorageError Node := do
  match tree.node? (← tree.place path) with
  | some node => return node
  | none => throw .notFound

def isDirectory (tree : Tree) (path : Path) : Bool :=
  match tree.find path with
  | .ok .directory => true
  | _ => false

def readResult (tree : Tree) (path : Path) : Except StorageError (List UInt8) := do
  match ← tree.find path with
  | .file _ octets => return octets
  | .directory => throw .isADirectory

/-- The text of a path without slashes at its end. -/
def withoutSlashes (path : Path) : Path :=
  ⟨String.ofList (path.text.toList.reverse.dropWhile (· = '/')).reverse⟩

def createDirectory (tree : Tree) (path : Path) : Except StorageError Tree := do
  if path.text.toList.all (· = '/') && !path.text.isEmpty then throw .alreadyExists
  let bare := withoutSlashes path
  let place ← tree.place bare
  if (tree.node? place).isSome then throw .alreadyExists
  return tree.withNode place .directory

/-- Makes the first of some directories after the others, which are the ones above it. A directory
above is made only when it is missing. -/
def createUpward (tree : Tree) : List Path → Except StorageError Unit × Tree
  | [] => (.ok (), tree)
  | path :: above =>
    if path.text.isEmpty then (.ok (), tree)
    else match tree.createDirectory path with
      | .ok tree => (.ok (), tree)
      | .error .notFound =>
        if above.isEmpty then (.error .notFound, tree)
        else match tree.createUpward above with
          | (.error error, tree) => (.error error, tree)
          | (.ok (), tree) =>
            match tree.createDirectory path with
            | .ok tree => (.ok (), tree)
            | .error error => (if tree.isDirectory path then .ok () else .error error, tree)
      | .error error => (if tree.isDirectory path then .ok () else .error error, tree)

/-- Where the new content of a path goes. Only a name at the end of a path can be given a file. -/
def target (tree : Tree) (path : Path) : Except StorageError Place := do
  tree.requireDirectory (← tree.place (path.directory?.getD ⟨"."⟩))
  let bare := withoutSlashes path
  if bare.text.isEmpty && !path.text.isEmpty then throw .busy
  let place ← tree.place bare
  let last := bare.pieces.getLast?
  if last = some "." ∨ last = some ".." then throw .busy
  if bare ≠ path then throw .notADirectory
  if tree.node? place = some .directory then throw .isADirectory
  return place

def replaceResult (tree : Tree) (path : Path) (octets : List UInt8) :
    Except StorageError Unit × Tree :=
  match tree.target path with
  | .ok place => (.ok (), tree.withNewFile place octets)
  | .error error => (.error error, tree)

instance : Storage Tree where
  holds path tree := ((tree.find path).isOk, tree)
  read path tree := (tree.readResult path, tree)
  createDirectories path tree := tree.createUpward path.ancestors
  replace path octets tree := tree.replaceResult path octets

/-- Opens a file for writing, and makes it when it is missing. The result is its number. -/
def openFile (tree : Tree) (path : Path) : Except StorageError Nat × Tree :=
  match tree.place path with
  | .error error => (.error error, tree)
  | .ok place =>
    match tree.node? place with
    | some (.file number _) => (.ok number, tree)
    | some .directory => (.error .isADirectory, tree)
    | none => (.ok tree.nextNumber, tree.withNewFile place [])

/-- Locks a file by its number, unless it is locked already. -/
def lock? (tree : Tree) (number : Nat) : Option Tree :=
  if number ∈ tree.locked then none else some { tree with locked := number :: tree.locked }

def unlock (tree : Tree) (number : Nat) : Tree :=
  { tree with locked := tree.locked.filter (· ≠ number) }

instance : Locking Tree where
  makeDirectories path tree := tree.createUpward path.ancestors
  openFile path tree := tree.openFile path
  lock number tree :=
    match tree.lock? number with
    | some tree => (true, tree)
    | none => (false, tree)
  unlock number tree := tree.unlock number

def content? (tree : Tree) (path : Path) : Option (List UInt8) :=
  (tree.readResult path).toOption

/-- The tree after a file was written from outside, in place when it is there, with the directories
above it made. -/
def put (tree : Tree) (path : Path) (octets : List UInt8) : Tree :=
  let tree := (tree.createUpward (path.ancestors.drop 1)).2
  match tree.place path with
  | .error _ => tree
  | .ok place =>
    match tree.node? place with
    | some .directory => tree
    | some (.file number _) => tree.withNode place (.file number octets)
    | none => tree.withNewFile place octets

/-- The tree after a file was removed from outside. -/
def remove (tree : Tree) (path : Path) : Tree :=
  match tree.place path with
  | .ok place => { tree with nodes := tree.nodes.filter fun entry =>
      !(entry.1 = place && entry.2 ≠ .directory) }
  | .error _ => tree

/-- The files, each as its path from the root. -/
def filePaths (tree : Tree) : List String :=
  tree.nodes.filterMap fun (place, node) =>
    match node with
    | .file _ _ => some (String.intercalate "/" place)
    | .directory => none

end Tree

end RangeCatalog
