import RangeCatalog.Storage.Memory

/-! # Recorded storages

A storage beside a record of the calls that were made on it. Calls are recorded whether they succeed or
fail. What is done for the sake of a lock goes past the storage, and is not recorded.
-/

namespace RangeCatalog

/-- A storage with the calls that were made on it, the last one at the end. -/
structure Recorded (σ : Type) where
  store : σ
  calls : List StorageCall := []

namespace Recorded

variable {σ α : Type}

/-- Carries out an operation on the store alone. -/
def onStore (operation : StateM σ α) : StateM (Recorded σ) α := fun state =>
  let (result, store) := operation state.store
  (result, { state with store })

def calling (call : StorageCall) (operation : StateM σ α) : StateM (Recorded σ) α := fun state =>
  let (result, store) := operation state.store
  (result, ⟨store, state.calls ++ [call]⟩)

instance [Storage σ] : Storage (Recorded σ) where
  holds path := calling (.holds path) (Storage.holds path)
  read path := calling (.read path) (Storage.read path)
  createDirectories path := calling (.createDirectories path) (Storage.createDirectories path)
  replace path octets := calling (.replace path) (Storage.replace path octets)

instance [Locking σ] : Locking (Recorded σ) where
  makeDirectories path := onStore (Locking.makeDirectories path)
  openFile path := onStore (Locking.openFile path)
  lock number := onStore (Locking.lock number)
  unlock number state := { state with store := Locking.unlock number state.store }

end Recorded

end RangeCatalog
