import RangeCatalog.Proofs.Text.Octets
import RangeCatalog.Storage.Basic

/-! # Laws of storages

What catalogs rely on wherever their files are kept. Looking changes nothing that can be observed, a file
that is there is held, and a file has the content that it was given. A path that was given a content once
can be given another.
-/

namespace RangeCatalog

/-- The state passes from the first computation to the next. -/
theorem bind_apply {σ α β : Type} (first : StateM σ α) (next : α → StateM σ β) (state : σ) :
    (first >>= next) state = next (first state).1 (first state).2 := rfl

namespace Storage

/-- The contents of the files of a storage, which are there whether or not reading them fails. -/
class Contents (σ : Type) where
  /-- The content of a file. -/
  content? : σ → Path → Option (List UInt8)

export Contents (content?)

variable {σ : Type} [Storage σ]

/-- Whether a path can be given any content at once, since its directory is there. -/
structure Accepts (state : σ) (path : Path) : Prop where
  directory : ∀ directory, path.directory? = some directory → (holds directory state).1 = true
  replace : ∀ octets, (replace path octets state).1 = .ok ()

/-- Whether a text is found at a path. -/
structure Shows (state : σ) (path : Path) (text : String) : Prop where
  held : (holds path state).1 = true
  read : (read path state).1 = .ok text.toUTF8.toList

variable [Contents σ]

/-- Whether two states have the same files and answer alike. -/
structure Alike (before after : σ) : Prop where
  content : ∀ path, content? after path = content? before path
  holds : ∀ path, (holds path after).1 = (holds path before).1
  read : ∀ path, (read path after).1 = (read path before).1
  replace : ∀ path octets, (replace path octets after).1 = (replace path octets before).1

/-- Whether the file at a path is as it was left: it has the same content, reading it does not fail, and
it can be replaced if it could be then. -/
structure Kept (path : Path) (left later : σ) : Prop where
  content : content? later path = content? left path
  read : ∃ octets, (read path later).1 = .ok octets
  accepts : Accepts left path → Accepts later path

namespace Alike

variable {before middle after : σ} {path : Path}

theorem refl (state : σ) : Alike state state :=
  ⟨fun _ => rfl, fun _ => rfl, fun _ => rfl, fun _ _ => rfl⟩

theorem trans (first : Alike before middle) (second : Alike middle after) : Alike before after :=
  ⟨fun path => (second.content path).trans (first.content path),
    fun path => (second.holds path).trans (first.holds path),
    fun path => (second.read path).trans (first.read path),
    fun path octets => (second.replace path octets).trans (first.replace path octets)⟩

theorem accepts (alike : Alike before after) (accepts : Accepts before path) : Accepts after path := by
  refine ⟨?_, ?_⟩
  · intro directory known
    rw [alike.holds]
    exact accepts.directory directory known
  · intro octets
    rw [alike.replace]
    exact accepts.replace octets

theorem shows (alike : Alike before after) {text : String} (found : Shows before path text) :
    Shows after path text :=
  ⟨(alike.holds path).trans found.held, (alike.read path).trans found.read⟩

end Alike

end Storage

/-- A storage that keeps its promises. Any operation may fail; the promises are about what was answered. -/
class LawfulStorage (σ : Type) [Storage σ] [Storage.Contents σ] : Prop where
  alike_holds : ∀ (state : σ) path, Storage.Alike state (Storage.holds path state).2
  alike_read : ∀ (state : σ) path, Storage.Alike state (Storage.read path state).2
  /-- A path that leads to a file is held. -/
  holds_of_content : ∀ (state : σ) path octets, Storage.content? state path = some octets →
    (Storage.holds path state).1 = true
  /-- What is read is the content. -/
  content_of_read : ∀ (state : σ) path octets, (Storage.read path state).1 = .ok octets →
    Storage.content? state path = some octets
  /-- What replaced a file is its content. -/
  content_replace : ∀ (state : σ) path octets, (Storage.replace path octets state).1 = .ok () →
    Storage.content? (Storage.replace path octets state).2 path = some octets
  /-- A file that was replaced lies in a directory, and can be replaced once more. -/
  accepts_replace : ∀ (state : σ) path octets, (Storage.replace path octets state).1 = .ok () →
    Storage.Accepts (Storage.replace path octets state).2 path

namespace Storage

variable {σ : Type} [Storage σ]

theorem decodeText_toUTF8 (text : String) : decodeText text.toUTF8.toList = .ok text := by
  rw [decodeText, fromUTF8?_toUTF8]

theorem toUTF8_of_decodeText {octets : List UInt8} {text : String}
    (decoded : decodeText octets = .ok text) : text.toUTF8.toList = octets := by
  rw [decodeText] at decoded
  split at decoded
  · cases decoded
    exact toUTF8_of_fromUTF8? ‹_›
  · contradiction

theorem Shows.readText {path : Path} {state : σ} {text : String} (found : Shows state path text) :
    (readText path state).1 = .ok text := by
  have bound : (Storage.readText path state).1 = (Storage.read path state).1.bind decodeText := rfl
  rw [bound, found.read, Except.bind, decodeText_toUTF8]

variable [Contents σ] [LawfulStorage σ]

/-- A text that was left at a path is found there for as long as it is kept. -/
theorem Kept.shows {path : Path} {left later : σ} {text : String} (kept : Kept path left later)
    (content : content? left path = some text.toUTF8.toList) : Shows later path text := by
  have present := kept.content.trans content
  obtain ⟨octets, read⟩ := kept.read
  have same := (LawfulStorage.content_of_read later path octets read).symm.trans present
  refine ⟨LawfulStorage.holds_of_content later path _ present, ?_⟩
  rw [read, Option.some.inj same]

end Storage

end RangeCatalog
