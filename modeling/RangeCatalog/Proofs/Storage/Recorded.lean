import RangeCatalog.Proofs.Storage.Files
import RangeCatalog.Proofs.Storage.Lawful
import RangeCatalog.Storage.Recorded

/-! # Calls on storages

Which calls a computation makes, and what its calls keep. What is kept by looking at a path is a relation
between states that every computation keeps that does nothing else; that no file is touched is one such
relation, and that no other calls were recorded is another.
-/

namespace RangeCatalog

/-- Whether a call only looks at a path. -/
def StorageCall.LooksAt (path : Path) (call : StorageCall) : Prop :=
  call = .holds path ∨ call = .read path

namespace Recorded

open Storage

variable {σ : Type}

/-- Whether all calls between two states are of some kind. -/
def Called (kind : StorageCall → Prop) (before after : Recorded σ) : Prop :=
  ∃ calls, after.calls = before.calls ++ calls ∧ ∀ call ∈ calls, kind call

namespace Called

variable {kind other : StorageCall → Prop} {before middle after : Recorded σ}

theorem of_calls (same : after.calls = before.calls) : Called kind before after :=
  ⟨[], same.trans (List.append_nil _).symm, by simp⟩

theorem refl (state : Recorded σ) : Called kind state state :=
  of_calls rfl

theorem single {call : StorageCall} (recorded : after.calls = before.calls ++ [call])
    (known : kind call) : Called kind before after := by
  refine ⟨[call], recorded, ?_⟩
  intro other member
  rw [List.mem_singleton.mp member]
  exact known

theorem trans (first : Called kind before middle) (second : Called kind middle after) :
    Called kind before after := by
  obtain ⟨earlier, recorded, known⟩ := first
  obtain ⟨later, recordedLater, knownLater⟩ := second
  refine ⟨earlier ++ later, ?_, ?_⟩
  · rw [recordedLater, recorded, List.append_assoc]
  · intro call member
    exact (List.mem_append.mp member).elim (known call) (knownLater call)

theorem imp (called : Called kind before after) (weaker : ∀ call, kind call → other call) :
    Called other before after := by
  obtain ⟨calls, recorded, known⟩ := called
  exact ⟨calls, recorded, fun call member => weaker call (known call member)⟩

end Called

/-! ## Files -/

variable [Files σ]

/-- The files of a recorded storage are those of its store. -/
instance : Files (Recorded σ) where
  File := File σ
  octets? state file := octets? state.store file
  file? state path := file? state.store path

private theorem untouched_of_store {before after : Recorded σ} (same : Untouched before.store after.store) :
    Untouched before after :=
  ⟨same.octets, same.leads⟩

private theorem given_of_store {before after : Recorded σ} {file : File σ} {octets : List UInt8}
    (given : Given file octets before.store after.store) :
    Given (σ := Recorded σ) file octets before after :=
  ⟨given.octets, given.others, given.leads⟩

instance [Storage σ] [SoundStorage σ] : SoundStorage (Recorded σ) where
  untouched_holds state path := untouched_of_store (SoundStorage.untouched_holds state.store path)
  untouched_read state path := untouched_of_store (SoundStorage.untouched_read state.store path)
  untouched_createDirectories state path :=
    untouched_of_store (SoundStorage.untouched_createDirectories state.store path)
  untouched_replace state path octets error failed :=
    untouched_of_store (SoundStorage.untouched_replace state.store path octets error failed)
  given_replace state path octets replaced := by
    obtain ⟨file, leads, given⟩ := SoundStorage.given_replace state.store path octets replaced
    exact ⟨file, leads, given_of_store given⟩
  octetsAt_of_read state path octets read :=
    SoundStorage.octetsAt_of_read state.store path octets read

instance [Locking σ] [SoundLocking σ] : SoundLocking (Recorded σ) where
  untouched_makeDirectories state path :=
    untouched_of_store (SoundLocking.untouched_makeDirectories state.store path)
  untouched_or_made state path := by
    rcases SoundLocking.untouched_or_made state.store path with same | ⟨file, leads, absent, given⟩
    · exact .inl (untouched_of_store same)
    · exact .inr ⟨file, leads, absent, given_of_store given⟩
  untouched_lock state number := untouched_of_store (SoundLocking.untouched_lock state.store number)
  untouched_unlock state number := untouched_of_store (SoundLocking.untouched_unlock state.store number)

end Recorded

namespace Storage

/-! ## Looking -/

variable {σ : Type} [Storage σ]

/-- Whether a text is found when a path is asked for and then read. -/
structure Finds (state : σ) (path : Path) (text : String) : Prop where
  held : (holds path state).1 = true
  read : (readText path (holds path state).2).1 = .ok text

/-- Whether a path is held, and reading it does not fail. -/
structure Readable (state : σ) (path : Path) : Prop where
  held : (holds path state).1 = true
  read : ∃ octets, (read path (holds path state).2).1 = .ok octets

/-- The text of the file at a path is found there if it can be read. -/
theorem Readable.finds [Files σ] [SoundStorage σ] {state : σ} {path : Path} {text : String}
    (readable : Readable state path) (content : octetsAt? state path = some text.toUTF8.toList) :
    Finds state path text := by
  obtain ⟨held, octets, read⟩ := readable
  have present := (SoundStorage.untouched_holds state path).octetsAt content
  have same : octets = text.toUTF8.toList :=
    Option.some.inj ((SoundStorage.octetsAt_of_read _ path octets read).symm.trans present)
  have bound : (readText path (holds path state).2).1 =
      (Storage.read path (holds path state).2).1.bind decodeText := rfl
  refine ⟨held, ?_⟩
  rw [bound, read, same, Except.bind, decodeText_toUTF8]

/-- A text that is found at a path is the content of the file there. -/
theorem Finds.octetsAt? [Files σ] [SoundStorage σ] {state : σ} {path : Path} {text : String}
    (found : Finds state path text) {file : File σ} (leads : file? state path = some file) :
    Storage.octetsAt? state path = some text.toUTF8.toList := by
  have same := SoundStorage.untouched_holds state path
  have bound : (readText path (holds path state).2).1 =
      (Storage.read path (holds path state).2).1.bind decodeText := rfl
  have text := found.read
  rw [bound] at text
  cases read : (Storage.read path (holds path state).2).1 with
  | error error =>
    rw [read] at text
    contradiction
  | ok octets =>
    rw [read] at text
    have content := SoundStorage.octetsAt_of_read _ path octets read
    rw [Storage.octetsAt?, same.leads path file leads, Option.bind_some, same.octets] at content
    rw [Storage.octetsAt?, leads, Option.bind_some, content, toUTF8_of_decodeText text]

/-- A relation from the state before some calls to the state after them, which looking at a path keeps. -/
structure KeptByLooking (path : Path) (related : σ → σ → Prop) : Prop where
  refl : ∀ state, related state state
  trans : ∀ {before middle after}, related before middle → related middle after → related before after
  holds : ∀ state, related state (holds path state).2
  read : ∀ state, related state (read path state).2

theorem kept_untouched [Files σ] [SoundStorage σ] (path : Path) :
    KeptByLooking path (Untouched (σ := σ)) :=
  ⟨.refl, .trans, (SoundStorage.untouched_holds · path), (SoundStorage.untouched_read · path)⟩

theorem kept_called (path : Path) :
    KeptByLooking (σ := Recorded σ) path (Recorded.Called (StorageCall.LooksAt path)) :=
  ⟨.refl, .trans, fun _ => .single rfl (.inl rfl), fun _ => .single rfl (.inr rfl)⟩

namespace KeptByLooking

variable {path : Path} {related : σ → σ → Prop}

/-- A computation that first asks whether the path is held. -/
theorem after_holds (kept : KeptByLooking path related) {α : Type} {next : Bool → StateM σ α}
    (goesOn : ∀ answer state, related state (next answer state).2) (state : σ) :
    related state ((Storage.holds path >>= next) state).2 :=
  kept.trans (kept.holds state) (goesOn _ _)

/-- A computation that first reads the text at the path. -/
theorem after_readText (kept : KeptByLooking path related) {α : Type}
    {next : Except StorageError String → StateM σ α}
    (goesOn : ∀ answer state, related state (next answer state).2) (state : σ) :
    related state ((Storage.readText path >>= next) state).2 :=
  kept.trans (kept.read state) (goesOn _ _)

end KeptByLooking

end Storage

end RangeCatalog
