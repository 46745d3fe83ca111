import RangeCatalog.Lock
import RangeCatalog.Proofs.Outcome
import RangeCatalog.Proofs.Storage.Recorded

/-! # Files and locks

Taking the lock of an output may make the lock file, which is empty then. A lock file that is there, and
every other file, is left as it is, whether the lock is had or not.
-/

namespace RangeCatalog

open Storage

variable {σ : Type} [Locking σ] {output : Path}

/-- Whether no file was touched, or only the lock file of an output was made. -/
def Storage.SameButLock [Files σ] (output : Path) (before after : σ) : Prop :=
  Untouched before after ∨ ∃ file, file? after output.lockFile = some file ∧
    octets? before file = none ∧ Given file [] before after

/-- Whether one file was given a content, and no other file was touched but that the lock file of an output
may have been made. -/
structure Storage.GivenButLock [Files σ] (output : Path) (file : File σ) (octets : List UInt8)
    (before after : σ) : Prop where
  octets : octets? after file = some octets
  others : ∀ other, other ≠ file → octets? after other = octets? before other ∨
    file? after output.lockFile = some other ∧ octets? before other = none ∧
      octets? after other = some []

namespace Storage.SameButLock

variable [Files σ] {before middle after : σ}

omit [Locking σ]

theorem after_untouched (same : Untouched before middle) (locked : SameButLock output middle after) :
    SameButLock output before after := by
  rcases locked with untouched | ⟨file, leads, absent, made⟩
  · exact .inl (same.trans untouched)
  · exact .inr ⟨file, leads, (same.octets file).symm.trans absent, made.after_untouched same⟩

theorem then_untouched (locked : SameButLock output before middle) (same : Untouched middle after) :
    SameButLock output before after := by
  rcases locked with untouched | ⟨file, leads, absent, made⟩
  · exact .inl (untouched.trans same)
  · exact .inr ⟨file, same.leads _ _ leads, absent, made.then_untouched same⟩

theorem then_given (locked : SameButLock output before middle) {file : File σ} {octets : List UInt8}
    (given : Given file octets middle after) : GivenButLock output file octets before after := by
  refine ⟨given.octets, ?_⟩
  intro other differs
  rw [given.others other differs]
  rcases locked with untouched | ⟨lockFile, leads, absent, made⟩
  · exact .inl (untouched.octets other)
  · by_cases same : other = lockFile
    · subst same
      exact .inr ⟨given.leads _ _ leads, absent, made.octets⟩
    · exact .inl (made.others other same)

end Storage.SameButLock

namespace Lock

theorem untouched_prepareDirectory [Files σ] [SoundLocking σ] (path : Path) (state : σ) :
    Untouched state (prepareDirectory path state).2 := by
  rw [prepareDirectory]
  cases path.directory? with
  | none => exact .refl state
  | some directory => exact SoundLocking.untouched_makeDirectories state directory

/-- Opening a lock file fails at its directory, or comes to the file itself. -/
theorem openFile_snd (output : Path) (state : σ) :
    (openFile output state).2 = (prepareDirectory output.lockFile state).2 ∨
    (openFile output state).2 =
      (Locking.openFile output.lockFile (prepareDirectory output.lockFile state).2).2 := by
  rw [openFile, bind_apply]
  generalize prepareDirectory output.lockFile state = outcome
  obtain ⟨result, middle⟩ := outcome
  cases result with
  | error failure => exact .inl rfl
  | ok done => exact .inr rfl

/-- Where a lock file needs no directory, it is only opened. -/
theorem openFile_of_bare (bare : output.lockFile.directory? = none) (state : σ) :
    openFile output state =
      ((Locking.openFile output.lockFile state).1.mapError (.lockFile output.lockFile),
        (Locking.openFile output.lockFile state).2) := by
  rw [openFile, prepareDirectory, bare]
  rfl

/-- Taking a lock fails at its file, or comes to locking it. -/
theorem acquire_snd (output : Path) (state : σ) :
    (acquire output state).2 = (openFile output state).2 ∨
    ∃ number, (acquire output state).2 = (Locking.lock number (openFile output state).2).2 := by
  rw [acquire, bind_apply]
  generalize openFile output state = outcome
  obtain ⟨result, middle⟩ := outcome
  cases result with
  | error failure => exact .inl rfl
  | ok number =>
    refine .inr ⟨number, ?_⟩
    simp only [bind_apply]
    split <;> rfl

theorem sameButLock_acquire [Files σ] [SoundLocking σ] (output : Path) (state : σ) :
    SameButLock output state (acquire output state).2 := by
  have prepared := untouched_prepareDirectory output.lockFile state
  have opened : SameButLock output state (openFile output state).2 := by
    rcases openFile_snd output state with after | after <;> rw [after]
    · exact .inl prepared
    · refine SameButLock.after_untouched prepared ?_
      rcases SoundLocking.untouched_or_made (prepareDirectory output.lockFile state).2 output.lockFile
        with same | ⟨file, leads, absent, made⟩
      · exact .inl same
      · exact .inr ⟨file, made.leads _ _ leads, absent, made⟩
  rcases acquire_snd output state with after | ⟨number, after⟩ <;> rw [after]
  · exact opened
  · exact opened.then_untouched (SoundLocking.untouched_lock _ number)

/-- Taking a lock makes no call on a storage. -/
theorem calls_acquire (output : Path) (state : Recorded σ) :
    (acquire output state).2.calls = state.calls := by
  have prepared : (prepareDirectory output.lockFile state).2.calls = state.calls := by
    rw [prepareDirectory]
    cases output.lockFile.directory? <;> rfl
  have opens (middle : Recorded σ) :
      (Locking.openFile output.lockFile middle).2.calls = middle.calls := rfl
  have locks (number : Nat) (middle : Recorded σ) :
      (Locking.lock number middle).2.calls = middle.calls := rfl
  rcases acquire_snd output state with after | ⟨number, after⟩ <;>
    rcases openFile_snd output state with before | before <;>
    simp only [after, before, opens, locks, prepared]

/-! ## Failures -/

variable {state : σ} {failure : Failure}

private theorem failure_of_prepareDirectory {path : Path}
    (failed : (prepareDirectory path state).1 = .error failure) :
    ∃ directory error, failure = .directory directory error := by
  rw [prepareDirectory] at failed
  cases above : path.directory? with
  | none =>
    rw [above] at failed
    contradiction
  | some directory =>
    simp only [above, bind_apply] at failed
    obtain ⟨error, _, rfl⟩ := mapError_eq_error_iff.mp failed
    exact ⟨directory, error, rfl⟩

private theorem failure_of_openFile (failed : (openFile output state).1 = .error failure) :
    (∃ directory error, failure = .directory directory error) ∨
      ∃ error, failure = .lockFile output.lockFile error := by
  rw [openFile, bind_apply] at failed
  cases prepared : (prepareDirectory output.lockFile state).1 with
  | error failure =>
    rw [prepared] at failed
    cases failed
    exact .inl (failure_of_prepareDirectory prepared)
  | ok done =>
    simp only [prepared, bind_apply] at failed
    obtain ⟨error, _, rfl⟩ := mapError_eq_error_iff.mp failed
    exact .inr ⟨error, rfl⟩

/-- Taking a lock fails at a directory or at the lock file, or because the lock is held. -/
theorem failure_of_acquire (failed : (acquire output state).1 = .error failure) :
    (∃ directory error, failure = .directory directory error) ∨
      (∃ error, failure = .lockFile output.lockFile error) ∨ failure = .locked output output.lockFile := by
  rw [acquire, bind_apply] at failed
  cases opened : (openFile output state).1 with
  | error failure =>
    rw [opened] at failed
    cases failed
    exact (failure_of_openFile opened).imp_right .inl
  | ok number =>
    simp only [opened, bind_apply] at failed
    split at failed
    · contradiction
    · cases failed
      exact .inr (.inr rfl)

end Lock

end RangeCatalog
