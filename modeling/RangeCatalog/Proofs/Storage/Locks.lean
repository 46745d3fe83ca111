import RangeCatalog.Proofs.Storage.Disk
import RangeCatalog.Proofs.Storage.LockFile

/-! # Exclusive locks

Locks are held on the numbers of files. A file keeps its number until another one is put in its place, and what
locks a path is never put in the place of its lock file. So that all who open one lock file lock the same
number, and of these only one at a time has the lock. Looking, making directories, opening lock files and
replacing the file itself take no lock away; only who gives a lock back does.
-/

namespace RangeCatalog

namespace Storage

/-- The numbers of the files of a storage, and the locks on them. -/
class Locks (σ : Type) where
  /-- The number of the file to which a path leads, when it is there. -/
  number? : σ → Path → Option Nat
  /-- Whether a file is locked. -/
  Locked : σ → Nat → Prop

export Locks (number? Locked)

/-- Whether the file at a path keeps its number if it was there, and all locks are kept. -/
structure KeepsLock {σ : Type} [Locks σ] (path : Path) (before after : σ) : Prop where
  number : ∀ number, number? before path = some number → number? after path = some number
  locked : ∀ number, Locked before number → Locked after number

/-- Whether a path that led to a file leads to it still, and the file has the content that it had. -/
def KeepsFile {σ : Type} [Files σ] (path : Path) (before after : σ) : Prop :=
  ∀ file, file? before path = some file →
    file? after path = some file ∧ octets? after file = octets? before file

namespace KeepsLock

variable {σ : Type} [Locks σ] {path : Path} {before middle after : σ}

theorem refl (state : σ) : KeepsLock path state state :=
  ⟨fun _ found => found, fun _ locked => locked⟩

theorem trans (first : KeepsLock path before middle) (second : KeepsLock path middle after) :
    KeepsLock path before after :=
  ⟨fun number found => second.number number (first.number number found),
    fun number locked => second.locked number (first.locked number locked)⟩

end KeepsLock

namespace KeepsFile

variable {σ : Type} [Files σ] {path : Path} {before middle after : σ}

theorem trans (first : KeepsFile path before middle) (second : KeepsFile path middle after) :
    KeepsFile path before after := by
  intro file leads
  obtain ⟨leadsOn, content⟩ := first file leads
  obtain ⟨leadsLater, contentLater⟩ := second file leadsOn
  exact ⟨leadsLater, contentLater.trans content⟩

theorem octetsAt? (keeps : KeepsFile path before after) {file : File σ}
    (leads : file? before path = some file) : octetsAt? after path = octetsAt? before path := by
  obtain ⟨leadsLater, content⟩ := keeps file leads
  rw [Storage.octetsAt?, Storage.octetsAt?, leads, leadsLater]
  exact content

end KeepsFile

theorem Untouched.keepsFile {σ : Type} [Files σ] {before after : σ} (same : Untouched before after)
    (path : Path) : KeepsFile path before after :=
  fun file leads => ⟨same.leads path file leads, same.octets file⟩

end Storage

open Storage

/-- A storage whose locks are exclusive, and last until they are given back. -/
class ExclusiveLocking (σ : Type) [Storage σ] [Locking σ] [Files σ] [Locks σ] : Prop where
  keepsLock_holds : ∀ (state : σ) path other, KeepsLock other state (holds path state).2
  keepsLock_read : ∀ (state : σ) path other, KeepsLock other state (read path state).2
  keepsLock_createDirectories : ∀ (state : σ) path other,
    KeepsLock other state (createDirectories path state).2
  keepsLock_makeDirectories : ∀ (state : σ) path other,
    KeepsLock other state (Locking.makeDirectories path state).2
  keepsLock_openFile : ∀ (state : σ) path other,
    KeepsLock other state (Locking.openFile path state).2
  keepsLock_lock : ∀ (state : σ) number other, KeepsLock other state (Locking.lock number state).2
  /-- What is put at a path does not take the place of its lock file. -/
  keepsLock_replace : ∀ (state : σ) path octets,
    KeepsLock path.lockFile state (replace path octets state).2
  /-- Giving a lock back changes no number. -/
  number_of_unlock : ∀ (state : σ) number path found, number? state path = some found →
    number? (Locking.unlock number state) path = some found
  /-- The number that is opened is that of the file at the path. -/
  number_of_openFile : ∀ (state : σ) path number,
    (Locking.openFile path state).1 = .ok number →
      number? (Locking.openFile path state).2 path = some number
  /-- A file that is there is opened as it is. -/
  untouched_openFile : ∀ (state : σ) path number, number? state path = some number →
    Untouched state (Locking.openFile path state).2
  /-- Only a file that is not locked can be locked. -/
  locked_of_lock : ∀ (state : σ) number, (Locking.lock number state).1 = true →
    ¬Locked state number ∧ Locked (Locking.lock number state).2 number
  /-- Wherever the lock file of a path is there, the path leads to a file if it can be given one at all. -/
  leads_of_lockFile : ∀ (state later : σ) path octets number, (replace path octets later).1 = .ok () →
    number? state path.lockFile = some number → ∃ file, file? state path = some file

/-! ## File trees -/

namespace Tree

variable {tree later : Tree} {path : Path} {number : Nat}

instance : Locks Tree where
  number? tree path :=
    match tree.find path with
    | .ok (.file number _) => some number
    | _ => none
  Locked tree number := number ∈ tree.locked

private theorem number?_eq_some_iff :
    number? tree path = some number ↔
      ∃ place octets, tree.place path = .ok place ∧ tree.node? place = some (.file number octets) := by
  have found : number? tree path = some number ↔ ∃ octets, tree.find path = .ok (.file number octets) := by
    simp only [number?]
    split
    · rename_i present octets found
      simp [found, eq_comm]
    · rename_i other
      simp only [reduceCtorEq, false_iff, not_exists]
      exact fun octets found => other number octets found
  simp only [found, find_eq_ok_iff]
  exact ⟨fun ⟨octets, place, placed⟩ => ⟨place, octets, placed⟩,
    fun ⟨place, octets, placed⟩ => ⟨octets, place, placed⟩⟩

/-- Files keep their numbers where what stands in a tree stands in a later one. -/
theorem number?_of_nodes
    (nodes : ∀ place node, tree.node? place = some node → later.node? place = some node)
    (found : number? tree path = some number) : number? later path = some number := by
  obtain ⟨place, octets, placed, node⟩ := number?_eq_some_iff.mp found
  have keeps : tree.KeepsDirectories later := fun place => nodes place .directory
  exact number?_eq_some_iff.mpr ⟨place, octets, keeps.place placed, nodes place _ node⟩

/-- Whether whatever stands in a tree stands in another one, and whatever is locked is locked there. -/
structure Extends (tree later : Tree) : Prop where
  nodes : ∀ place node, tree.node? place = some node → later.node? place = some node
  locked : tree.locked ⊆ later.locked

namespace Extends

theorem refl (tree : Tree) : Extends tree tree :=
  ⟨fun _ _ found => found, fun _ locked => locked⟩

theorem trans {first middle last : Tree} (before : Extends first middle) (after : Extends middle last) :
    Extends first last :=
  ⟨fun place node found => after.nodes place node (before.nodes place node found),
    fun _ locked => after.locked (before.locked locked)⟩

private theorem keepsLock (grown : Extends tree later) (path : Path) : KeepsLock path tree later :=
  ⟨fun _ found => number?_of_nodes grown.nodes found, grown.locked⟩

end Extends

/-- What is put where nothing stood takes no place. -/
theorem extends_withNode {place : Place} (vacant : tree.node? place = none) (node : Node) :
    Extends tree (tree.withNode place node) := by
  refine ⟨?_, fun _ locked => locked⟩
  intro other present found
  rw [node?_withNode tree (named_of_vacant vacant), if_neg]
  · exact found
  · rintro rfl
    rw [vacant] at found
    contradiction

private theorem extends_createUpward (tree : Tree) (paths : List Path) :
    Extends tree (tree.createUpward paths).2 := by
  refine createUpward_related .refl .trans ?_ tree paths
  intro tree later path made
  obtain ⟨place, vacant, rfl⟩ := createDirectory_eq_ok made
  exact extends_withNode vacant .directory

private theorem extends_withNewFile {place : Place} (vacant : tree.node? place = none) (octets : List UInt8) :
    Extends tree (tree.withNewFile place octets) :=
  ⟨(extends_withNode vacant (.file tree.nextNumber octets)).nodes,
    (extends_withNode vacant (.file tree.nextNumber octets)).locked⟩

private theorem extends_openFile (tree : Tree) (path : Path) : Extends tree (tree.openFile path).2 := by
  rw [openFile]
  split
  · exact .refl tree
  · split
    · exact .refl tree
    · exact .refl tree
    · rename_i vacant
      exact extends_withNewFile vacant []

/-- The file that is opened is there then, under its number. -/
theorem number_of_openFile (opened : (tree.openFile path).1 = .ok number) :
    number? (tree.openFile path).2 path = some number := by
  have keeps := extends_openFile tree path
  rw [openFile] at opened keeps ⊢
  cases placed : tree.place path with
  | error error => simp [placed] at opened
  | ok place =>
    simp only [placed] at opened keeps ⊢
    cases found : tree.node? place with
    | none =>
      simp only [found] at opened keeps ⊢
      cases opened
      have free : tree.node? place ≠ some .directory := by simp [found]
      have directories := keepsDirectories_withNewFile free []
      exact number?_eq_some_iff.mpr
        ⟨place, [], directories.place placed, node?_withNewFile free []⟩
    | some node =>
      cases node with
      | directory => simp [found] at opened
      | file present octets =>
        simp only [found] at opened ⊢
        cases opened
        exact number?_eq_some_iff.mpr ⟨place, octets, placed, found⟩

/-- A file that is there is opened as it is. -/
theorem openFile_of_number (found : number? tree path = some number) :
    tree.openFile path = (.ok number, tree) := by
  obtain ⟨place, octets, placed, node⟩ := number?_eq_some_iff.mp found
  simp only [openFile, placed, node]

/-- The lock file of a path keeps its place when everything but the file at the path stays where it is. -/
theorem keepsLock_of_target {place : Place} (target : tree.target path = .ok place)
    (directories : tree.KeepsDirectories later)
    (others : ∀ other, other ≠ place → later.node? other = tree.node? other)
    (locked : later.locked = tree.locked) : KeepsLock path.lockFile tree later := by
  refine ⟨?_, fun number held => ?_⟩
  · intro number found
    obtain ⟨lockPlace, octets, placed, node⟩ := number?_eq_some_iff.mp found
    exact number?_eq_some_iff.mpr ⟨lockPlace, octets, directories.place placed,
      (others lockPlace (ne_of_target target placed)).trans node⟩
  · have same : number ∈ later.locked := locked ▸ held
    exact same

private theorem leads_of_lockFile {place : Place} (target : later.target path = .ok place)
    (found : number? tree path.lockFile = some number) : ∃ file, file? tree path = some file := by
  obtain ⟨lockPlace, _, placed, _⟩ := number?_eq_some_iff.mp found
  obtain ⟨usable, above, name, ends⟩ := ends_of_target target
  obtain ⟨there, leads, _⟩ := exists_place_of_lockFile usable ends placed
  exact ⟨there, toOption_eq_some_iff.mpr leads⟩

/-- A lock is had exactly when the file was free, and no other lock is given up. -/
theorem lock_cases (tree : Tree) (number : Nat) :
    (number ∉ tree.locked ∧ Locking.lock number tree =
      (true, { tree with locked := number :: tree.locked })) ∨
    (number ∈ tree.locked ∧ Locking.lock number tree = (false, tree)) := by
  simp only [Locking.lock, lock?]
  by_cases locked : number ∈ tree.locked
  · exact .inr ⟨locked, by rw [if_pos locked]⟩
  · exact .inl ⟨locked, by rw [if_neg locked]⟩

instance : ExclusiveLocking Tree where
  keepsLock_holds tree path other := .refl tree
  keepsLock_read tree path other := .refl tree
  keepsLock_createDirectories tree path other := (tree.extends_createUpward path.ancestors).keepsLock other
  keepsLock_makeDirectories tree path other := (tree.extends_createUpward path.ancestors).keepsLock other
  keepsLock_openFile tree path other := (tree.extends_openFile path).keepsLock other
  keepsLock_lock tree number other := by
    rcases lock_cases tree number with ⟨_, had⟩ | ⟨_, failed⟩
    · rw [had]
      have extended : Extends tree { tree with locked := number :: tree.locked } :=
        ⟨fun _ _ found => found, fun _ locked => List.mem_cons_of_mem _ locked⟩
      exact extended.keepsLock other
    · rw [failed]
      exact .refl tree
  keepsLock_replace tree path octets := by
    have bound : Storage.replace path octets tree = tree.replaceResult path octets := rfl
    rw [bound, replaceResult]
    cases target : tree.target path with
    | error error => exact .refl tree
    | ok place =>
      obtain ⟨_, _, _, _, _, free⟩ := target_eq_ok_iff.mp target
      refine keepsLock_of_target target (keepsDirectories_withNewFile free octets) ?_ rfl
      intro other differs
      exact (node?_withNode tree (ne_nil_of_node?_ne free) _ other).trans (if_neg differs)
  number_of_unlock tree number path found present := by
    have nodes (place : Place) (node : Node) (here : tree.node? place = some node) :
        (tree.unlock number).node? place = some node := here
    exact number?_of_nodes nodes present
  number_of_openFile tree path number opened := number_of_openFile opened
  untouched_openFile tree path number found := by
    have bound : Locking.openFile path tree = tree.openFile path := rfl
    rw [bound, openFile_of_number found]
    exact .refl tree
  locked_of_lock tree number locked := by
    rcases lock_cases tree number with ⟨free, had⟩ | ⟨_, failed⟩
    · rw [had]
      exact ⟨free, List.mem_cons_self⟩
    · rw [failed] at locked
      contradiction
  leads_of_lockFile tree later path octets number replaced found := by
    obtain ⟨place, target, _⟩ := replaceResult_eq_ok replaced
    exact leads_of_lockFile target found

end Tree

/-! ## Disks -/

namespace Disk

variable {disk : Disk} {α : Type} {work : Tree → Except StorageError α × Tree}
  {part : Nat → Tree → Tree}

instance : Locks Disk where
  number? disk path := number? disk.tree path
  Locked disk number := Locked disk.tree number

private theorem keepsLock_of_tree {path : Path} {later : Disk} (keeps : KeepsLock path disk.tree later.tree) :
    KeepsLock path disk later :=
  ⟨keeps.number, keeps.locked⟩

/-- A step takes no lock away when neither its work nor a part of it does. -/
theorem keepsLock_step {path : Path} (whole : ∀ tree, KeepsLock path tree (work tree).2)
    (parts : ∀ progress tree, KeepsLock path tree (part progress tree)) (disk : Disk) :
    KeepsLock path disk (step work part disk).2 := by
  rcases step_cases disk work part with ⟨_, tree⟩ | ⟨fault, _, tree⟩
  · exact keepsLock_of_tree (tree ▸ whole disk.tree)
  · exact keepsLock_of_tree (tree ▸ parts fault.progress disk.tree)

private theorem keepsLock_stepOrNothing {path : Path} (whole : ∀ tree, KeepsLock path tree (work tree).2)
    (disk : Disk) : KeepsLock path disk (stepOrNothing work disk).2 :=
  keepsLock_step whole (fun _ tree => .refl tree) disk

/-! ### Replacing -/

/-- Whether a computation leaves the locks as they are. -/
def LeavesLocks (computation : StateM Disk α) : Prop :=
  ∀ disk : Disk, (computation disk).2.tree.locked = disk.tree.locked

private theorem LeavesLocks.bind {β : Type} {first : StateM Disk α} {next : α → StateM Disk β}
    (leaves : LeavesLocks first) (goesOn : ∀ value, LeavesLocks (next value)) :
    LeavesLocks (first >>= next) :=
  fun disk => (goesOn _ _).trans (leaves disk)

private theorem leavesLocks_step (whole : ∀ tree, (work tree).2.locked = tree.locked)
    (parts : ∀ progress tree, (part progress tree).locked = tree.locked) :
    LeavesLocks (step work part) := by
  intro disk
  rcases step_cases disk work part with ⟨_, tree⟩ | ⟨fault, _, tree⟩
  · rw [tree, whole]
  · rw [tree, parts]

private theorem leavesLocks_openDraft (path : Path) : LeavesLocks (openDraft path) := by
  intro disk
  refine leavesLocks_step ?_ (fun _ _ => rfl) disk
  intro tree
  rw [Tree.openDraft]
  split <;> rfl

private theorem leavesLocks_placeDraft (draft : Draft) (path : Path) : LeavesLocks (placeDraft draft path) := by
  refine leavesLocks_step ?_ (fun _ _ => rfl)
  intro tree
  rw [Tree.placeDraft]
  split <;> rfl

private theorem leavesLocks_settle (draft : Draft) (path : Path) (octets : List UInt8) :
    LeavesLocks (settle draft path octets) := by
  refine LeavesLocks.bind (leavesLocks_step (fun _ => rfl) fun _ _ => rfl) ?_
  rintro (_ | _)
  · exact fun _ => rfl
  · refine LeavesLocks.bind (leavesLocks_step (fun _ => rfl) fun _ _ => rfl) ?_
    rintro (_ | _)
    · exact fun _ => rfl
    · exact leavesLocks_placeDraft draft path

private theorem leavesLocks_replace (path : Path) (octets : List UInt8) : LeavesLocks (replace path octets) := by
  refine LeavesLocks.bind (leavesLocks_openDraft path) ?_
  rintro (_ | draft)
  · exact fun _ => rfl
  · refine LeavesLocks.bind (leavesLocks_settle draft path octets) ?_
    rintro (_ | _)
    · exact fun _ => rfl
    · exact fun _ => rfl

/-- What a replacement puts at a path does not take the place of its lock file. -/
theorem keepsLock_replace (disk : Disk) (path : Path) (octets : List UInt8) :
    KeepsLock path.lockFile disk (replace path octets disk).2 := by
  have locked := leavesLocks_replace path octets disk
  refine keepsLock_of_tree ?_
  rcases replaced_or_same disk path octets with ⟨_, place, target, replaced⟩ | ⟨_, _, same⟩
  · obtain ⟨_, _, _, _, _, free⟩ := Tree.target_eq_ok_iff.mp target
    exact Tree.keepsLock_of_target target (replaced.keepsDirectories free) replaced.others locked
  · have grown : Tree.Extends disk.tree (replace path octets disk).2.tree :=
      ⟨fun place node found => (same place).trans found, locked ▸ List.Subset.refl _⟩
    exact grown.keepsLock path.lockFile

/-! ### Locking -/

private theorem lockFile_cases (tree : Tree) (number : Nat) :
    (number ∉ tree.locked ∧
      lockFile number tree = (.ok (), { tree with locked := number :: tree.locked })) ∨
    lockFile number tree = (.error .busy, tree) := by
  rw [lockFile, Tree.lock?]
  by_cases locked : number ∈ tree.locked
  · exact .inr (by rw [if_pos locked])
  · exact .inl ⟨locked, by rw [if_neg locked]⟩

private theorem extends_lockFile (tree : Tree) (number : Nat) : Tree.Extends tree (lockFile number tree).2 := by
  rcases lockFile_cases tree number with ⟨_, had⟩ | failed
  · rw [had]
    exact ⟨fun _ _ found => found, fun _ locked => List.mem_cons_of_mem _ locked⟩
  · rw [failed]
    exact .refl tree

private theorem locked_of_lock {number : Nat} (had : (Locking.lock number disk).1 = true) :
    number ∉ disk.tree.locked ∧ number ∈ (Locking.lock number disk).2.tree.locked := by
  have bound : (Locking.lock number disk).1 = (stepOrNothing (lockFile number) disk).1.isOk := rfl
  have later : (Locking.lock number disk).2 = (stepOrNothing (lockFile number) disk).2 := rfl
  cases result : (stepOrNothing (lockFile number) disk).1 with
  | error error =>
    rw [bound, result] at had
    contradiction
  | ok done =>
    obtain ⟨same, tree⟩ := step_eq_ok result
    rw [later, stepOrNothing, tree]
    rcases lockFile_cases disk.tree number with ⟨free, had⟩ | failed
    · rw [had]
      exact ⟨free, List.mem_cons_self⟩
    · rw [failed] at same
      contradiction

instance : ExclusiveLocking Disk where
  keepsLock_holds disk path other := by
    have bound : (Storage.holds path disk).2 =
        (stepOrNothing (fun tree => (tree.find path, tree)) disk).2 := rfl
    rw [bound]
    exact keepsLock_stepOrNothing (fun tree => .refl tree) disk
  keepsLock_read disk path other := keepsLock_stepOrNothing (fun tree => .refl tree) disk
  keepsLock_createDirectories disk path other :=
    keepsLock_step (ExclusiveLocking.keepsLock_createDirectories · path other)
      (fun progress tree => (tree.extends_createUpward (path.ancestors.drop (progress + 1))).keepsLock other)
      disk
  keepsLock_makeDirectories disk path other :=
    keepsLock_step (ExclusiveLocking.keepsLock_createDirectories · path other)
      (fun progress tree => (tree.extends_createUpward (path.ancestors.drop (progress + 1))).keepsLock other)
      disk
  keepsLock_openFile disk path other :=
    keepsLock_stepOrNothing (ExclusiveLocking.keepsLock_openFile · path other) disk
  keepsLock_lock disk number other := by
    have bound : (Locking.lock number disk).2 = (stepOrNothing (lockFile number) disk).2 := rfl
    rw [bound]
    exact keepsLock_stepOrNothing (fun tree => (extends_lockFile tree number).keepsLock other) disk
  keepsLock_replace := keepsLock_replace
  number_of_unlock disk number path found present :=
    ExclusiveLocking.number_of_unlock disk.tree number path found present
  number_of_openFile disk path number opened := by
    obtain ⟨whole, tree⟩ := step_eq_ok opened
    have found := Tree.number_of_openFile whole
    rw [← tree] at found
    exact found
  untouched_openFile disk path number found := by
    have work : disk.tree.openFile path = (.ok number, disk.tree) := Tree.openFile_of_number found
    have bound : Locking.openFile path disk = step (·.openFile path) (fun _ tree => tree) disk := rfl
    rw [bound]
    rcases step_cases disk (·.openFile path) (fun _ tree => tree) with ⟨_, tree⟩ | ⟨_, _, tree⟩
    · rw [work] at tree
      exact untouched_of_tree (tree ▸ .refl disk.tree)
    · exact untouched_of_tree (tree ▸ .refl disk.tree)
  locked_of_lock disk number had := locked_of_lock had
  leads_of_lockFile disk later path octets number replaced found := by
    rcases replaced_or_same later path octets with ⟨_, place, target, _⟩ | ⟨_, failed, _⟩
    · exact Tree.leads_of_lockFile target found
    · have both := failed.symm.trans replaced
      contradiction

end Disk

end RangeCatalog
