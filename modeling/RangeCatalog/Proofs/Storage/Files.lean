import RangeCatalog.Storage.Basic

/-! # Files of storages

What becomes of the files of a storage, whether its operations succeed or fail, and even if they fail at
one time and succeed at another. Paths lead to files; a file is the same whichever path leads to it. Only
a replacement that succeeds changes a file, and then no other one.
-/

namespace RangeCatalog

namespace Storage

/-- The files of a storage. -/
class Files (σ : Type) where
  /-- The places where a file may be. -/
  File : Type
  /-- The content of a file that is there. -/
  octets? : σ → File → Option (List UInt8)
  /-- The file to which a path leads, whether or not it is there. -/
  file? : σ → Path → Option File

export Files (File octets? file?)

variable {σ : Type} [Files σ]

/-- Whether no file was touched: each has the content that it had, if it was there, and is led to by the
paths that led to it. -/
structure Untouched (before after : σ) : Prop where
  octets : ∀ file, octets? after file = octets? before file
  leads : ∀ path file, file? before path = some file → file? after path = some file

/-- Whether one file was given a content, and no other file was touched. -/
structure Given (file : File σ) (octets : List UInt8) (before after : σ) : Prop where
  octets : octets? after file = some octets
  others : ∀ other, other ≠ file → octets? after other = octets? before other
  leads : ∀ path file, file? before path = some file → file? after path = some file

/-- The content of the file to which a path leads. -/
def octetsAt? (state : σ) (path : Path) : Option (List UInt8) :=
  (file? state path).bind (octets? state)

namespace Untouched

variable {before middle after : σ} {path : Path} {octets : List UInt8}

theorem refl (state : σ) : Untouched state state :=
  ⟨fun _ => rfl, fun _ _ leads => leads⟩

theorem trans (first : Untouched before middle) (second : Untouched middle after) :
    Untouched before after :=
  ⟨fun file => (second.octets file).trans (first.octets file),
    fun path file leads => second.leads path file (first.leads path file leads)⟩

theorem octetsAt (same : Untouched before after) (found : octetsAt? before path = some octets) :
    octetsAt? after path = some octets := by
  obtain ⟨file, leads, content⟩ := Option.bind_eq_some_iff.mp found
  exact Option.bind_eq_some_iff.mpr ⟨file, same.leads path file leads, (same.octets file).trans content⟩

end Untouched

namespace Given

variable {before middle after other : σ} {file : File σ} {octets : List UInt8}

theorem after_untouched (same : Untouched before middle) (given : Given file octets middle after) :
    Given file octets before after :=
  ⟨given.octets, fun other differs => (given.others other differs).trans (same.octets other),
    fun path file leads => given.leads path file (same.leads path file leads)⟩

theorem then_untouched (given : Given file octets before middle) (same : Untouched middle after) :
    Given file octets before after :=
  ⟨(same.octets file).trans given.octets,
    fun other differs => (same.octets other).trans (given.others other differs),
    fun path file leads => same.leads path file (given.leads path file leads)⟩

/-- There is one way to give a file a content. -/
theorem octets_eq (given : Given file octets before after) (again : Given file octets before other)
    (place : File σ) : octets? after place = octets? other place := by
  by_cases same : place = file
  · rw [same, given.octets, again.octets]
  · rw [given.others place same, again.others place same]

end Given

end Storage

open Storage

/-- A storage that touches no file but the one that it was asked to replace. Any operation may fail at any
time. -/
class SoundStorage (σ : Type) [Storage σ] [Files σ] : Prop where
  untouched_holds : ∀ (state : σ) path, Untouched state (holds path state).2
  untouched_read : ∀ (state : σ) path, Untouched state (read path state).2
  untouched_createDirectories : ∀ (state : σ) path, Untouched state (createDirectories path state).2
  /-- A replacement that fails changes nothing. -/
  untouched_replace : ∀ (state : σ) path octets error,
    (replace path octets state).1 = .error error → Untouched state (replace path octets state).2
  /-- A replacement that succeeds gives the file its content. -/
  given_replace : ∀ (state : σ) path octets, (replace path octets state).1 = .ok () →
    ∃ file, file? state path = some file ∧ Given file octets state (replace path octets state).2
  /-- What is read is the content. -/
  octetsAt_of_read : ∀ (state : σ) path octets, (read path state).1 = .ok octets →
    octetsAt? state path = some octets

/-- A storage in which opening a file to lock it touches no file, but may make an empty one, and locks are
no matter of files. -/
class SoundLocking (σ : Type) [Locking σ] [Files σ] : Prop where
  untouched_makeDirectories : ∀ (state : σ) path,
    Untouched state (Locking.makeDirectories path state).2
  untouched_or_made : ∀ (state : σ) path, Untouched state (Locking.openFile path state).2 ∨
    ∃ file, file? state path = some file ∧ octets? state file = none ∧
      Given file [] state (Locking.openFile path state).2
  untouched_lock : ∀ (state : σ) number, Untouched state (Locking.lock number state).2
  untouched_unlock : ∀ (state : σ) number, Untouched state (Locking.unlock number state)

end RangeCatalog
