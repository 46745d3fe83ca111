import RangeCatalog.Storage.Basic

/-! # Storages in memory

Files by path, the directories that are known, the operations that are made to fail, and a record of
all calls. A write needs its directory to be known already.
-/

namespace RangeCatalog

inductive StorageCall where
  | holds (path : Path)
  | read (path : Path)
  | createDirectories (path : Path)
  | replace (path : Path)
deriving DecidableEq, Repr

/-- Which operations fail. -/
structure Faults where
  read : Bool := false
  createDirectories : Bool := false
  replace : Bool := false
deriving DecidableEq, Repr

/-- A storage in memory. -/
structure Memory where
  files : List (Path × List UInt8) := []
  directories : List Path := []
  faults : Faults := {}
  calls : List StorageCall := []
deriving DecidableEq, Repr

namespace Memory

def content? (memory : Memory) (path : Path) : Option (List UInt8) :=
  (memory.files.find? (·.1.same path)).map Prod.snd

/-- Whether a directory is known. -/
def knows (memory : Memory) (path : Path) : Bool :=
  memory.directories.any (·.same path)

/-- Files with the content of one set. A file that is there keeps the text of its path. -/
def setContent (path : Path) (octets : List UInt8) :
    List (Path × List UInt8) → List (Path × List UInt8)
  | [] => [(path, octets)]
  | (other, present) :: rest =>
    if other.same path then (other, octets) :: rest
    else (other, present) :: setContent path octets rest

/-- The memory with the content of one file set. -/
def withContent (memory : Memory) (path : Path) (octets : List UInt8) : Memory :=
  { memory with files := setContent path octets memory.files }

def withDirectories (memory : Memory) (paths : List Path) : Memory :=
  { memory with directories := paths ++ memory.directories }

def record (memory : Memory) (call : StorageCall) : Memory :=
  { memory with calls := memory.calls ++ [call] }

def readResult (memory : Memory) (path : Path) : Except StorageError (List UInt8) :=
  if memory.faults.read then .error .permissionDenied
  else match memory.content? path with
    | some octets => .ok octets
    | none => .error .notFound

def replaceResult (memory : Memory) (path : Path) (octets : List UInt8) :
    Except StorageError Unit × Memory :=
  if memory.faults.replace then (.error .permissionDenied, memory)
  else match path.directory? with
    | none => (.ok (), memory.withContent path octets)
    | some directory =>
      if memory.knows directory then (.ok (), memory.withContent path octets)
      else (.error .notFound, memory)

instance : Storage Memory where
  holds path memory :=
    ((memory.content? path).isSome || memory.knows path, memory.record (.holds path))
  read path memory := (memory.readResult path, memory.record (.read path))
  createDirectories path memory :=
    let memory := memory.record (.createDirectories path)
    if memory.faults.createDirectories then (.error .permissionDenied, memory)
    else (.ok (), memory.withDirectories path.ancestors)
  replace path octets memory := (memory.record (.replace path)).replaceResult path octets

/-- The memory after a file was put there from outside, with the directories above it. -/
def put (memory : Memory) (path : Path) (octets : List UInt8) : Memory :=
  (memory.withContent path octets).withDirectories (path.ancestors.drop 1)

/-- The memory after a file was removed from outside. -/
def remove (memory : Memory) (path : Path) : Memory :=
  { memory with files := memory.files.filter fun file => !file.1.same path }

end Memory

end RangeCatalog
