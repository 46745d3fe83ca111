import RangeCatalog.Proofs.Storage.Files
import RangeCatalog.Proofs.Storage.Lawful
import RangeCatalog.Proofs.Storage.Recorded
import RangeCatalog.Storage.Memory

/-! # The laws of storages in memory

Looking at a memory adds to the record of calls only. A file that is put at a path is found there, and
the files at other paths stay as they are.
-/

namespace RangeCatalog.Memory

instance : Storage.Contents Memory := ⟨content?⟩

variable {memory : Memory} {path : Path} {octets : List UInt8}

/-- Whether a replacement succeeds does not depend on the content. -/
theorem replaceResult_fst (memory : Memory) (path : Path) (octets : List UInt8) :
    (memory.replaceResult path octets).1 =
      if memory.faults.replace then .error .permissionDenied
      else match path.directory? with
        | none => .ok ()
        | some directory => if memory.knows directory then .ok () else .error .notFound := by
  rw [replaceResult]
  cases memory.faults.replace with
  | true => rfl
  | false =>
    cases path.directory? with
    | none => rfl
    | some directory =>
      simp only [Bool.false_eq_true, if_false]
      split <;> rfl

private theorem replaceResult_snd (replaced : (memory.replaceResult path octets).1 = .ok ()) :
    (memory.replaceResult path octets).2 = memory.withContent path octets := by
  rw [replaceResult] at replaced ⊢
  cases faulty : memory.faults.replace with
  | true => simp [faulty] at replaced
  | false =>
    simp only [faulty, Bool.false_eq_true, if_false] at replaced ⊢
    cases above : path.directory? with
    | none => rfl
    | some directory =>
      simp only [above] at replaced ⊢
      cases known : memory.knows directory with
      | true => rfl
      | false => simp [known] at replaced

/-- The directory of a path that was replaced is known. -/
theorem knows_of_replaceResult (replaced : (memory.replaceResult path octets).1 = .ok ())
    {directory : Path} (above : path.directory? = some directory) : memory.knows directory = true := by
  rw [replaceResult_fst, above] at replaced
  cases known : memory.knows directory with
  | true => rfl
  | false =>
    simp only [known] at replaced
    split at replaced <;> contradiction

/-- The files of a memory are told apart by the steps of their paths. -/
instance : Storage.Files Memory where
  File := List Path.Step
  octets? memory steps := (memory.files.find? fun file => file.1.steps = steps).map Prod.snd
  file? _ path := some path.steps

private theorem octets?_withContent (memory : Memory) (path : Path) (octets : List UInt8)
    (steps : List Path.Step) :
    Storage.octets? (memory.withContent path octets) steps =
      if steps = path.steps then some octets else Storage.octets? memory steps := by
  simp only [Storage.octets?, withContent]
  induction memory.files with
  | nil =>
    simp only [setContent, List.find?_cons, List.find?_nil]
    by_cases here : steps = path.steps
    · simp [here]
    · simp [here, Ne.symm here]
  | cons file files ih =>
    obtain ⟨other, present⟩ := file
    rw [setContent]
    by_cases same : other.steps = path.steps
    · rw [if_pos (show other.same path = true from decide_eq_true same)]
      by_cases here : steps = path.steps
      · simp [here, same]
      · simp [here, same, Ne.symm here]
    · rw [if_neg (show ¬other.same path = true from fun held => same (of_decide_eq_true held))]
      by_cases before : other.steps = steps
      · simp [before, before ▸ same]
      · simpa [before] using ih

private theorem content?_withContent (memory : Memory) (path : Path) (octets : List UInt8) :
    (memory.withContent path octets).content? path = some octets := by
  have found := octets?_withContent memory path octets path.steps
  rwa [if_pos rfl] at found

private theorem alike_record (memory : Memory) (call : StorageCall) :
    Storage.Alike memory (memory.record call) := by
  refine ⟨fun _ => rfl, fun _ => rfl, fun _ => rfl, ?_⟩
  intro path octets
  have again : (Storage.replace path octets (memory.record call)).1 =
      (((memory.record call).record (.replace path)).replaceResult path octets).1 := rfl
  rw [again, replaceResult_fst]
  exact (replaceResult_fst (memory.record (.replace path)) path octets).symm

private theorem content?_of_readResult (read : memory.readResult path = .ok octets) :
    memory.content? path = some octets := by
  rw [readResult] at read
  split at read
  · contradiction
  · split at read
    · rename_i present found
      rw [found, Except.ok.inj read]
    · contradiction

instance : LawfulStorage Memory where
  alike_holds memory path := memory.alike_record (.holds path)
  alike_read memory path := memory.alike_record (.read path)
  holds_of_content memory path octets present := by
    have found : memory.content? path = some octets := present
    have held : (Storage.holds path memory).1 =
        ((memory.content? path).isSome || memory.knows path) := rfl
    rw [held, found, Option.isSome_some, Bool.true_or]
  content_of_read memory path octets read := content?_of_readResult read
  content_replace memory path octets replaced := by
    have after : (Storage.replace path octets memory).2 =
        (memory.record (.replace path)).withContent path octets := replaceResult_snd replaced
    rw [after]
    exact content?_withContent _ path octets
  accepts_replace memory path octets replaced := by
    have after : (Storage.replace path octets memory).2 =
        (memory.record (.replace path)).withContent path octets := replaceResult_snd replaced
    rw [after]
    refine ⟨?_, ?_⟩
    · intro directory above
      exact (Bool.or_eq_true _ _).mpr (.inr (knows_of_replaceResult replaced above))
    · intro other
      have first := replaceResult_fst (memory.record (.replace path)) path octets
      have next := replaceResult_fst
        (((memory.record (.replace path)).withContent path octets).record (.replace path)) path other
      exact next.trans (first.symm.trans replaced)

private theorem replaceResult_eq_error {error : StorageError}
    (failed : (memory.replaceResult path octets).1 = .error error) :
    (memory.replaceResult path octets).2 = memory := by
  rw [replaceResult] at failed ⊢
  cases faulty : memory.faults.replace with
  | true => rfl
  | false =>
    simp only [faulty, Bool.false_eq_true, if_false] at failed ⊢
    cases above : path.directory? with
    | none => simp [above] at failed
    | some directory =>
      simp only [above] at failed ⊢
      cases known : memory.knows directory with
      | true => simp [known] at failed
      | false => rfl

/-- Files that are listed as before are not touched. -/
theorem untouched_of_files {after : Memory} (same : after.files = memory.files) :
    Storage.Untouched memory after := by
  refine ⟨?_, fun _ _ leads => leads⟩
  intro steps
  simp only [Storage.octets?, same]

instance : SoundStorage Memory where
  untouched_holds memory path := untouched_of_files rfl
  untouched_read memory path := untouched_of_files rfl
  untouched_createDirectories memory path := by
    refine untouched_of_files ?_
    simp only [Storage.createDirectories]
    split <;> rfl
  untouched_replace memory path octets error failed := by
    have after : (Storage.replace path octets memory).2 = memory.record (.replace path) :=
      replaceResult_eq_error failed
    rw [after]
    exact untouched_of_files rfl
  given_replace memory path octets replaced := by
    have after : (Storage.replace path octets memory).2 =
        (memory.record (.replace path)).withContent path octets := replaceResult_snd replaced
    rw [after]
    refine ⟨path.steps, rfl, ?_, ?_, fun _ _ leads => leads⟩
    · rw [octets?_withContent, if_pos rfl]
    · intro other differs
      rw [octets?_withContent, if_neg differs]
      rfl
  octetsAt_of_read memory path octets read := content?_of_readResult read

/-- Reading does not fail unless it is made to. -/
theorem read_of_content {state : Memory} (sound : state.faults.read = false)
    (present : state.content? path = some octets) :
    (Storage.read path state).1 = .ok octets := by
  have bound : (Storage.read path state).1 = state.readResult path := rfl
  rw [bound, readResult, sound, present]
  rfl

/-- Looking at a path does not change what is found there. -/
theorem kept_finds (path : Path) (text : String) :
    Storage.KeptByLooking path fun before after : Recorded Memory =>
      Storage.Finds before path text → Storage.Finds after path text :=
  ⟨fun _ found => found, fun first second found => second (first found),
    fun _ found => ⟨found.held, found.read⟩, fun _ found => ⟨found.held, found.read⟩⟩

end RangeCatalog.Memory
