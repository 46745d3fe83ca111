import RangeCatalog.Storage.Tree

/-! # Disks

A file tree on a device where any step may fail, for reasons that the tree does not show: no permission, no
room, a fault of the device. A file is replaced by way of a draft: a new file beside it, under a name that
is free, is given the content, and then takes the name of the file. A draft that does not come so far is
thrown away.
-/

namespace RangeCatalog

/-- A file that is written in order to replace another. -/
structure Draft where
  place : Place
  number : Nat
deriving DecidableEq, Repr

namespace Tree

def withoutNode (tree : Tree) (place : Place) : Tree :=
  { tree with nodes := tree.nodes.filter (·.1 ≠ place) }

/-- Where a draft in a directory goes: under the first of some names that is free there. -/
def draftPlace (tree : Tree) (directory : Path) (names : List String) :
    Except StorageError Place := do
  let above ← tree.place directory
  tree.requireDirectory above
  match names.find? fun name => (tree.node? (above ++ [name])).isNone with
  | some name => return above ++ [name]
  | none => throw .alreadyExists

/-- Makes an empty draft in a directory. -/
def openDraft (tree : Tree) (directory : Path) (names : List String) :
    Except StorageError Draft × Tree :=
  match tree.draftPlace directory names with
  | .error error => (.error error, tree)
  | .ok place => (.ok ⟨place, tree.nextNumber⟩, tree.withNewFile place [])

def fillDraft (tree : Tree) (draft : Draft) (octets : List UInt8) : Tree :=
  tree.withNode draft.place (.file draft.number octets)

/-- Gives a draft the name of the file that it replaces. -/
def placeDraft (tree : Tree) (draft : Draft) (path : Path) : Except StorageError Unit × Tree :=
  match tree.target path, tree.node? draft.place with
  | .error error, _ => (.error error, tree)
  | .ok _, none => (.error .notFound, tree)
  | .ok place, some node => (.ok (), (tree.withoutNode draft.place).withNode place node)

end Tree

/-- How a step fails. -/
structure Fault where
  error : StorageError
  /-- How much of the work was done by then. -/
  progress : Nat := 0
deriving DecidableEq, Repr

/-- A file tree on a device. -/
structure Disk where
  tree : Tree
  /-- Which steps fail, counted from the first one. -/
  faults : Nat → Option Fault := fun _ => none
  /-- How many steps were taken. -/
  taken : Nat := 0
  /-- The names that a draft may have, in the order in which they are tried. -/
  draftNames : List String := [".tmp"]

namespace Disk

/-- Takes a step, which does all of its work or fails after a part of it. -/
def step (work : Tree → Except StorageError α × Tree) (part : Nat → Tree → Tree) :
    StateM Disk (Except StorageError α) := fun disk =>
  match disk.faults disk.taken with
  | some fault =>
    (.error fault.error, { disk with tree := part fault.progress disk.tree, taken := disk.taken + 1 })
  | none =>
    let (result, tree) := work disk.tree
    (result, { disk with tree, taken := disk.taken + 1 })

/-- A step that leaves the tree as it is when it fails. -/
def stepOrNothing (work : Tree → Except StorageError α × Tree) : StateM Disk (Except StorageError α) :=
  step work fun _ tree => tree

/-- Makes the draft of a file in the directory of its path. -/
def openDraft (path : Path) : StateM Disk (Except StorageError Draft) := fun disk =>
  stepOrNothing (·.openDraft (path.directory?.getD ⟨"."⟩) disk.draftNames) disk

def fillDraft (draft : Draft) (octets : List UInt8) : StateM Disk (Except StorageError Unit) :=
  step (fun tree => (.ok (), tree.fillDraft draft octets))
    fun progress tree => tree.fillDraft draft (octets.take progress)

/-- Waits until everything that was written is stored. -/
def synchronize : StateM Disk (Except StorageError Unit) :=
  stepOrNothing fun tree => (.ok (), tree)

/-- Gives a draft the name of the file that it replaces. -/
def placeDraft (draft : Draft) (path : Path) : StateM Disk (Except StorageError Unit) :=
  stepOrNothing (·.placeDraft draft path)

/-- Writes a draft and lets it become the file at a path. -/
def settle (draft : Draft) (path : Path) (octets : List UInt8) :
    StateM Disk (Except StorageError Unit) := do
  match ← fillDraft draft octets with
  | .error error => return .error error
  | .ok () =>
    match ← synchronize with
    | .error error => return .error error
    | .ok () => placeDraft draft path

def discard (draft : Draft) (disk : Disk) : Disk :=
  { disk with tree := disk.tree.withoutNode draft.place }

/-- Replaces a file by way of a draft. -/
def replace (path : Path) (octets : List UInt8) : StateM Disk (Except StorageError Unit) := do
  match ← openDraft path with
  | .error error => return .error error
  | .ok draft =>
    match ← settle draft path octets with
    | .ok () => return .ok ()
    | .error error =>
      modify (discard draft)
      return .error error

/-- Makes a directory and those above it, of which some may be there when this fails. -/
def createDirectories (path : Path) : StateM Disk (Except StorageError Unit) :=
  step (·.createUpward path.ancestors)
    fun progress tree => (tree.createUpward (path.ancestors.drop (progress + 1))).2

instance : Storage Disk where
  holds path := do return (← stepOrNothing fun tree => (tree.find path, tree)).isOk
  read path := stepOrNothing fun tree => (tree.readResult path, tree)
  createDirectories := createDirectories
  replace := replace

/-- Locks a file of the tree. -/
def lockFile (number : Nat) (tree : Tree) : Except StorageError Unit × Tree :=
  match tree.lock? number with
  | some tree => (.ok (), tree)
  | none => (.error .busy, tree)

instance : Locking Disk where
  makeDirectories := createDirectories
  openFile path := stepOrNothing (·.openFile path)
  lock number := do return (← stepOrNothing (lockFile number)).isOk
  unlock number disk := { disk with tree := disk.tree.unlock number }

end Disk

end RangeCatalog
