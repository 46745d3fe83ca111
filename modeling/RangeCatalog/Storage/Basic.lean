import RangeCatalog.Storage.Path

/-! # Storages

What the program asks of a place that keeps files. Each operation may change the storage, and each may
fail. A file is replaced as a whole or not at all. Locks have operations of their own, and a file that is
opened to be locked keeps its content.
-/

namespace RangeCatalog

/-- Why an operation on files fails. -/
inductive StorageError where
  | notFound
  | permissionDenied
  | alreadyExists
  | notADirectory
  | isADirectory
  | busy
  | nameTooLong
  | invalidName
  | notText
deriving DecidableEq, Repr

namespace StorageError

def message : StorageError → String
  | notFound => "No such file or directory (os error 2)"
  | permissionDenied => "Permission denied (os error 13)"
  | alreadyExists => "File exists (os error 17)"
  | notADirectory => "Not a directory (os error 20)"
  | isADirectory => "Is a directory (os error 21)"
  | busy => "Device or resource busy (os error 16)"
  | nameTooLong => "File name too long (os error 36)"
  | invalidName => "file name contained an unexpected NUL byte"
  | notText => "stream did not contain valid UTF-8"

end StorageError

/-- A place that keeps files. -/
class Storage (σ : Type) where
  /-- Whether a path leads to a file or a directory. -/
  holds : Path → StateM σ Bool
  /-- The content of a file. -/
  read : Path → StateM σ (Except StorageError (List UInt8))
  /-- Makes a directory and the directories above it. -/
  createDirectories : Path → StateM σ (Except StorageError Unit)
  /-- Gives a file a new content, all at once. -/
  replace : Path → List UInt8 → StateM σ (Except StorageError Unit)

/-- A place whose files can be locked by their numbers. Who locks a file also makes the directory that it
needs. -/
class Locking (σ : Type) where
  /-- Makes a directory and the directories above it. -/
  makeDirectories : Path → StateM σ (Except StorageError Unit)
  /-- Opens a file for writing, and makes it when it is missing. The result is its number. -/
  openFile : Path → StateM σ (Except StorageError Nat)
  /-- Locks a file, unless it is locked already. The result is whether it was. -/
  lock : Nat → StateM σ Bool
  /-- Gives a lock back. -/
  unlock : Nat → σ → σ

namespace Storage

variable {σ : Type} [Storage σ]

def decodeText (octets : List UInt8) : Except StorageError String :=
  match String.fromUTF8? octets.toByteArray with
  | some text => .ok text
  | none => .error .notText

def readText (path : Path) : StateM σ (Except StorageError String) := do
  return (← read path).bind decodeText

end Storage

end RangeCatalog
