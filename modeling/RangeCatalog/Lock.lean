import RangeCatalog.Failure

/-! # Locks on outputs

While a command updates an output it holds a lock on a file beside it. The file stays when the lock is
given back, so that all commands lock the same file.
-/

namespace RangeCatalog

/-- A lock that is held. -/
structure Lock where
  /-- The lock file. -/
  path : Path
  /-- The number of the lock file. -/
  number : Nat
deriving DecidableEq, Repr

namespace Lock

variable {σ : Type} [Locking σ]

/-- Makes the directory of a lock file, whether or not it is missing. -/
def prepareDirectory (path : Path) : StateM σ (Except Failure Unit) := do
  match path.directory? with
  | none => return .ok ()
  | some directory => return (← Locking.makeDirectories directory).mapError (.directory directory)

/-- Opens the lock file of an output, which is made together with its directory when it is missing. -/
def openFile (output : Path) : StateM σ (Except Failure Nat) := do
  match ← prepareDirectory output.lockFile with
  | .error failure => return .error failure
  | .ok () => return (← Locking.openFile output.lockFile).mapError (.lockFile output.lockFile)

/-- Takes the lock of an output, or fails at once when it is held. -/
def acquire (output : Path) : StateM σ (Except Failure Lock) := do
  match ← openFile output with
  | .error failure => return .error failure
  | .ok number =>
    if ← Locking.lock number then return .ok ⟨output.lockFile, number⟩
    else return .error (.locked output output.lockFile)

def release (lock : Lock) (state : σ) : σ :=
  Locking.unlock lock.number state

end Lock

end RangeCatalog
