import RangeCatalog.Proofs.Storage.Tree
import RangeCatalog.Storage.Disk

/-! # Replacing files on disks

Whichever steps of a replacement fail, the files are those from before, and when none fails only the file
at the path is another one. While a draft is there the tree is the one from before, apart from the draft;
this is kept by the steps, and throwing the draft away or giving it its name ends it. Where no step fails,
a replacement comes to what the tree does in one step.
-/

namespace RangeCatalog

namespace Tree

variable {tree before later : Tree} {path : Path} {draft : Draft} {octets : List UInt8}

private theorem node?_withoutNode (tree : Tree) {place : Place} (named : place ≠ []) (other : Place) :
    (tree.withoutNode place).node? other = if other = place then none else tree.node? other := by
  by_cases same : other = place
  · have absent : (tree.nodes.filter (·.1 ≠ place)).lookup place = none := by
      rw [List.lookup_eq_none_iff]
      intro entry member
      have differs := of_decide_eq_true (List.mem_filter.mp member).2
      exact bne_iff_ne.mpr (Ne.symm differs)
    have below : place.isEmpty = false := by simpa using named
    simp only [same, node?, withoutNode, below, Bool.false_eq_true, if_false, if_true]
    exact absent
  · rw [if_neg same]
    simp only [node?, withoutNode, lookup_filter_ne _ same]

/-- Whether a tree is another one with a file of the given content put at a place. -/
structure Replaced (place : Place) (octets : List UInt8) (before after : Tree) : Prop where
  placed : ∃ number, after.node? place = some (.file number octets)
  others : ∀ other, other ≠ place → after.node? other = before.node? other

namespace Replaced

variable {place : Place} {after : Tree}

/-- A file takes no directory away where there was none. -/
theorem keepsDirectories (replaced : Replaced place octets before after)
    (free : before.node? place ≠ some .directory) : before.KeepsDirectories after := by
  intro other directory
  have differs : other ≠ place := by
    rintro rfl
    exact free directory
  rw [replaced.others other differs, directory]

private theorem given (replaced : Replaced place octets before after)
    (free : before.node? place ≠ some .directory) : Storage.Given place octets before after := by
  obtain ⟨number, placed⟩ := replaced.placed
  exact ⟨octets?_of_node? placed, fun other differs => octets?_of_same (replaced.others other differs),
    fun _ _ leads => (replaced.keepsDirectories free).leads leads⟩

end Replaced

/-- Whether a tree is another one with a draft in it, where nothing stood before. -/
structure Drafted (draft : Draft) (content : List UInt8) (before tree : Tree) : Prop where
  vacant : before.node? draft.place = none
  drafted : tree.node? draft.place = some (.file draft.number content)
  others : ∀ place, place ≠ draft.place → tree.node? place = before.node? place

namespace Drafted

variable {content : List UInt8}

private theorem named (drafted : Drafted draft content before tree) : draft.place ≠ [] := by
  intro root
  have vacant := drafted.vacant
  rw [root] at vacant
  contradiction

private theorem fillDraft (drafted : Drafted draft content before tree) (octets : List UInt8) :
    Drafted draft octets before (tree.fillDraft draft octets) := by
  have node := node?_withNode tree drafted.named (.file draft.number octets)
  refine ⟨drafted.vacant, ?_, ?_⟩
  · exact (node draft.place).trans (if_pos rfl)
  · intro place differs
    exact ((node place).trans (if_neg differs)).trans (drafted.others place differs)

/-- Without the draft, the tree is the one from before. -/
theorem node?_withoutDraft (drafted : Drafted draft content before tree) (place : Place) :
    (tree.withoutNode draft.place).node? place = before.node? place := by
  rw [node?_withoutNode tree drafted.named]
  split
  · rename_i same
    rw [same, drafted.vacant]
  · rename_i differs
    exact drafted.others place differs

/-- The draft is no directory, and it took the place of none. -/
theorem node?_eq_directory_iff (drafted : Drafted draft content before tree) (place : Place) :
    tree.node? place = some .directory ↔ before.node? place = some .directory := by
  by_cases same : place = draft.place
  · simp [same, drafted.drafted, drafted.vacant]
  · rw [drafted.others place same]

/-- The same paths can be given a file, and the files go to the same places. -/
theorem target_eq_ok_iff (drafted : Drafted draft content before tree) {place : Place} :
    tree.target path = .ok place ↔ before.target path = .ok place := by
  have there : tree.KeepsDirectories before :=
    fun place directory => (drafted.node?_eq_directory_iff place).mp directory
  have back : before.KeepsDirectories tree :=
    fun place directory => (drafted.node?_eq_directory_iff place).mpr directory
  simp only [Tree.target_eq_ok_iff, ne_eq, drafted.node?_eq_directory_iff]
  constructor
  · rintro ⟨⟨above, known, here⟩, bare, point, up, placed, free⟩
    exact ⟨⟨above, there.place known, here⟩, bare, point, up, there.place placed, free⟩
  · rintro ⟨⟨above, known, here⟩, bare, point, up, placed, free⟩
    exact ⟨⟨above, back.place known, here⟩, bare, point, up, back.place placed, free⟩

/-- A draft that takes the name of a file takes its place, and nothing else changes. -/
theorem replaced_placeDraft (drafted : Drafted draft content before tree)
    (placed : (tree.placeDraft draft path).1 = .ok ()) :
    ∃ place, before.target path = .ok place ∧
      Replaced place content before (tree.placeDraft draft path).2 := by
  rw [placeDraft] at placed ⊢
  simp only [drafted.drafted] at placed ⊢
  cases found : tree.target path with
  | error error => simp [found] at placed
  | ok place =>
    have target := drafted.target_eq_ok_iff.mp found
    obtain ⟨_, _, _, _, _, free⟩ := Tree.target_eq_ok_iff.mp target
    have node (other : Place) :
        ((tree.withoutNode draft.place).withNode place (.file draft.number content)).node? other =
          if other = place then some (.file draft.number content) else before.node? other := by
      rw [node?_withNode _ (ne_nil_of_node?_ne free), drafted.node?_withoutDraft]
    exact ⟨place, target, ⟨draft.number, (node place).trans (if_pos rfl)⟩,
      fun other differs => (node other).trans (if_neg differs)⟩

/-- Nothing stands in the way of a draft where a file may be put. -/
theorem placeDraft_of_target (drafted : Drafted draft content before tree) {place : Place}
    (found : before.target path = .ok place) : (tree.placeDraft draft path).1 = .ok () := by
  simp only [placeDraft, drafted.target_eq_ok_iff.mpr found, drafted.drafted]

end Drafted

/-- A draft goes where nothing stands. -/
theorem vacant_of_draftPlace {directory : Path} {names : List String} {place : Place}
    (found : tree.draftPlace directory names = .ok place) :
    tree.node? place = none ∧ place ≠ [] := by
  simp only [draftPlace, bind_eq_ok_iff] at found
  obtain ⟨above, _, _, _, found⟩ := found
  cases free : names.find? fun name => (tree.node? (above ++ [name])).isNone with
  | none => simp [free, throw, throwThe, MonadExceptOf.throw] at found
  | some name =>
    simp only [free, pure, Except.pure, Except.ok.injEq] at found
    have vacant := List.find?_some free
    rw [← found]
    exact ⟨Option.isNone_iff_eq_none.mp vacant, by simp⟩

private theorem drafted_of_openDraft {directory : Path} {names : List String}
    (opened : (tree.openDraft directory names).1 = .ok draft) :
    Drafted draft [] tree (tree.openDraft directory names).2 := by
  rw [openDraft] at opened ⊢
  cases found : tree.draftPlace directory names with
  | error error => simp [found] at opened
  | ok place =>
    simp only [found, Except.ok.injEq] at opened ⊢
    rw [← opened]
    obtain ⟨vacant, named⟩ := vacant_of_draftPlace found
    have node := node?_withNode tree named (.file tree.nextNumber [])
    exact ⟨vacant, (node place).trans (if_pos rfl),
      fun other differs => (node other).trans (if_neg differs)⟩

private theorem exists_openDraft {directory : Path} {names : List String} {above : Place}
    (known : tree.place directory = .ok above) (here : tree.node? above = some .directory)
    {name : String} (listed : name ∈ names) (free : tree.node? (above ++ [name]) = none) :
    ∃ draft, (tree.openDraft directory names).1 = .ok draft := by
  have some : (names.find? fun name => (tree.node? (above ++ [name])).isNone).isSome :=
    List.find?_isSome.mpr ⟨name, listed, Option.isNone_iff_eq_none.mpr free⟩
  obtain ⟨first, found⟩ := Option.isSome_iff_exists.mp some
  have place : tree.draftPlace directory names = .ok (above ++ [first]) := by
    rw [draftPlace, known, bind_eq_ok_iff]
    refine ⟨above, rfl, bind_eq_ok_iff.mpr ⟨(), requireDirectory_eq_ok_iff.mpr here, ?_⟩⟩
    rw [found]
    rfl
  rw [openDraft, place]
  exact ⟨_, rfl⟩

private theorem openDraft_eq_error {directory : Path} {names : List String} {error : StorageError}
    (failed : (tree.openDraft directory names).1 = .error error) :
    (tree.openDraft directory names).2 = tree := by
  rw [openDraft] at failed ⊢
  cases found : tree.draftPlace directory names with
  | error error => rfl
  | ok place => simp [found] at failed

private theorem placeDraft_eq_error {error : StorageError}
    (failed : (tree.placeDraft draft path).1 = .error error) :
    (tree.placeDraft draft path).2 = tree := by
  rw [placeDraft] at failed ⊢
  cases found : tree.target path with
  | error error => rfl
  | ok place =>
    cases present : tree.node? draft.place with
    | none => rfl
    | some node => simp [found, present] at failed

end Tree

namespace Disk

variable {disk : Disk} {α : Type}

/-- The files of a disk are those of its tree. -/
instance : Storage.Files Disk where
  File := Place
  octets? disk place := Storage.octets? disk.tree place
  file? disk path := Storage.file? disk.tree path

theorem untouched_of_tree {later : Disk} (same : Storage.Untouched disk.tree later.tree) :
    Storage.Untouched disk later :=
  ⟨same.octets, same.leads⟩

/-! ## Steps -/

variable {work : Tree → Except StorageError α × Tree} {part : Nat → Tree → Tree}

/-- A step either does its work or fails after a part of it. -/
theorem step_cases (disk : Disk) (work : Tree → Except StorageError α × Tree)
    (part : Nat → Tree → Tree) :
    ((step work part disk).1 = (work disk.tree).1 ∧ (step work part disk).2.tree = (work disk.tree).2) ∨
    ∃ fault : Fault, (step work part disk).1 = .error fault.error ∧
      (step work part disk).2.tree = part fault.progress disk.tree := by
  rw [step]
  cases disk.faults disk.taken with
  | none => exact .inl ⟨rfl, rfl⟩
  | some fault => exact .inr ⟨fault, rfl, rfl⟩

theorem step_eq_ok {value : α} (done : (step work part disk).1 = .ok value) :
    (work disk.tree).1 = .ok value ∧ (step work part disk).2.tree = (work disk.tree).2 := by
  rcases step_cases disk work part with ⟨result, tree⟩ | ⟨fault, failed, _⟩
  · exact ⟨result.symm.trans done, tree⟩
  · rw [failed] at done
    contradiction

/-! ## Replacing -/

variable {before : Tree} {draft : Draft} {content octets : List UInt8} {path : Path}

/-- What may come of a draft: it has become the file at a path, or it is still there after a failure. -/
def Settled (draft : Draft) (path : Path) (octets : List UInt8) (before : Tree) :
    Except StorageError Unit × Disk → Prop
  | (.ok (), after) =>
    ∃ place, before.target path = .ok place ∧ Tree.Replaced place octets before after.tree
  | (.error _, after) => ∃ written, Tree.Drafted draft written before after.tree

private theorem drafted_fillDraft (drafted : Tree.Drafted draft content before disk.tree)
    (octets : List UInt8) :
    ∃ written, Tree.Drafted draft written before (fillDraft draft octets disk).2.tree := by
  rcases step_cases disk (fun tree => (.ok (), tree.fillDraft draft octets))
    (fun progress tree => tree.fillDraft draft (octets.take progress)) with ⟨_, tree⟩ | ⟨fault, _, tree⟩
  · exact ⟨octets, tree ▸ drafted.fillDraft octets⟩
  · exact ⟨octets.take fault.progress, tree ▸ drafted.fillDraft (octets.take fault.progress)⟩

private theorem drafted_of_filled (drafted : Tree.Drafted draft content before disk.tree)
    (octets : List UInt8) (filled : (fillDraft draft octets disk).1 = .ok ()) :
    Tree.Drafted draft octets before (fillDraft draft octets disk).2.tree := by
  have tree : (fillDraft draft octets disk).2.tree = disk.tree.fillDraft draft octets :=
    (step_eq_ok filled).2
  rw [tree]
  exact drafted.fillDraft octets

private theorem drafted_synchronize (drafted : Tree.Drafted draft content before disk.tree) :
    Tree.Drafted draft content before (synchronize disk).2.tree := by
  rcases step_cases disk (fun tree => (.ok (), tree)) (fun _ tree => tree) with
    ⟨_, tree⟩ | ⟨_, _, tree⟩
  · exact tree ▸ drafted
  · exact tree ▸ drafted

private theorem settled_placeDraft (drafted : Tree.Drafted draft octets before disk.tree) (path : Path) :
    Settled draft path octets before (placeDraft draft path disk) := by
  have cases := step_cases disk (·.placeDraft draft path) (fun _ tree => tree)
  have bound : placeDraft draft path disk = step (·.placeDraft draft path) (fun _ tree => tree) disk := rfl
  rw [bound]
  generalize step (·.placeDraft draft path) (fun _ tree => tree) disk = outcome at cases ⊢
  obtain ⟨result, after⟩ := outcome
  rcases cases with ⟨same, tree⟩ | ⟨fault, failed, tree⟩
  · cases result with
    | ok done =>
      obtain ⟨place, target, replaced⟩ := drafted.replaced_placeDraft same.symm
      exact ⟨place, target, tree ▸ replaced⟩
    | error error =>
      have unchanged := Tree.placeDraft_eq_error same.symm
      exact ⟨octets, (tree.trans unchanged) ▸ drafted⟩
  · obtain rfl : result = .error fault.error := failed
    exact ⟨octets, tree ▸ drafted⟩

private theorem settled_settle (drafted : Tree.Drafted draft content before disk.tree) (path : Path)
    (octets : List UInt8) :
    Settled draft path octets before (settle draft path octets disk) := by
  have partly := drafted_fillDraft drafted octets
  have wholly := drafted_of_filled drafted octets
  rw [settle, bind_apply]
  generalize fillDraft draft octets disk = filled at partly wholly ⊢
  obtain ⟨result, after⟩ := filled
  cases result with
  | error error => exact partly
  | ok done =>
    have stored := drafted_synchronize (wholly rfl)
    simp only [bind_apply]
    generalize synchronize after = synchronized at stored ⊢
    obtain ⟨result, after⟩ := synchronized
    cases result with
    | error error => exact ⟨octets, stored⟩
    | ok done => exact settled_placeDraft stored path

private theorem openDraft_cases (disk : Disk) (path : Path) :
    (∃ draft, (openDraft path disk).1 = .ok draft ∧
      Tree.Drafted draft [] disk.tree (openDraft path disk).2.tree) ∨
    ∃ error, (openDraft path disk).1 = .error error ∧ (openDraft path disk).2.tree = disk.tree := by
  have cases := step_cases disk (·.openDraft (path.directory?.getD ⟨"."⟩) disk.draftNames)
    (fun _ tree => tree)
  have bound : openDraft path disk =
    step (·.openDraft (path.directory?.getD ⟨"."⟩) disk.draftNames) (fun _ tree => tree) disk := rfl
  rw [bound]
  rcases cases with ⟨same, tree⟩ | ⟨fault, failed, tree⟩
  · rw [same, tree]
    cases opened : (disk.tree.openDraft (path.directory?.getD ⟨"."⟩) disk.draftNames).1 with
    | ok draft => exact .inl ⟨draft, rfl, Tree.drafted_of_openDraft opened⟩
    | error error => exact .inr ⟨error, rfl, Tree.openDraft_eq_error opened⟩
  · exact .inr ⟨fault.error, failed, tree⟩

/-- A replacement that succeeds puts a file at the path and changes nothing else; one that fails changes
nothing. -/
theorem replaced_or_same (disk : Disk) (path : Path) (octets : List UInt8) :
    ((replace path octets disk).1 = .ok () ∧ ∃ place, disk.tree.target path = .ok place ∧
      Tree.Replaced place octets disk.tree (replace path octets disk).2.tree) ∨
    ∃ error, (replace path octets disk).1 = .error error ∧
      ∀ place, (replace path octets disk).2.tree.node? place = disk.tree.node? place := by
  have opened := openDraft_cases disk path
  rw [replace, bind_apply]
  rcases opened with ⟨draft, made, drafted⟩ | ⟨error, failed, tree⟩
  · have settled := settled_settle drafted path octets
    simp only [made, bind_apply]
    generalize settle draft path octets (openDraft path disk).2 = outcome at settled ⊢
    obtain ⟨result, after⟩ := outcome
    cases result with
    | ok done => exact .inl ⟨rfl, settled⟩
    | error error =>
      -- The draft that is left over is thrown away.
      obtain ⟨written, drafted⟩ := settled
      exact .inr ⟨error, rfl, drafted.node?_withoutDraft⟩
  · simp only [failed]
    exact .inr ⟨error, rfl, fun place => by rw [← tree]; rfl⟩

/-- A replacement that fails touches no file, and one that succeeds gives the file its content. -/
theorem replace_cases (disk : Disk) (path : Path) (octets : List UInt8) :
    ((replace path octets disk).1 = .ok () ∧ ∃ place, disk.tree.target path = .ok place ∧
      Storage.Given place octets disk.tree (replace path octets disk).2.tree) ∨
    ∃ error, (replace path octets disk).1 = .error error ∧
      Storage.Untouched disk.tree (replace path octets disk).2.tree := by
  rcases replaced_or_same disk path octets with ⟨done, place, target, replaced⟩ | ⟨error, failed, same⟩
  · obtain ⟨_, _, _, _, _, free⟩ := Tree.target_eq_ok_iff.mp target
    exact .inl ⟨done, place, target, replaced.given free⟩
  · exact .inr ⟨error, failed, Tree.untouched_of_nodes same⟩

/-! ## Replacing at once

The tree replaces a file in one step. This is what becomes of a replacement by way of a draft.
-/

/-- A replacement that succeeds leaves the files that the tree leaves when it replaces the file at once. -/
theorem replace_like_tree (replaced : (replace path octets disk).1 = .ok ()) :
    (disk.tree.replaceResult path octets).1 = .ok () ∧
      ∀ place, Storage.octets? (replace path octets disk).2.tree place =
        Storage.octets? (disk.tree.replaceResult path octets).2 place := by
  rcases replace_cases disk path octets with ⟨_, place, target, given⟩ | ⟨_, failed, _⟩
  · obtain ⟨_, _, _, _, _, free⟩ := Tree.target_eq_ok_iff.mp target
    rw [Tree.replaceResult, target]
    exact ⟨rfl, given.octets_eq (Tree.given_withNewFile free octets)⟩
  · have both := failed.symm.trans replaced
    contradiction

/-- A step that does not fail does its work. -/
theorem step_of_faultless (work : Tree → Except StorageError α × Tree) (part : Nat → Tree → Tree)
    (faultless : ∀ number, disk.faults number = none) :
    (step work part disk).1 = (work disk.tree).1 ∧
      ∀ number, (step work part disk).2.faults number = none := by
  rw [step, faultless]
  exact ⟨rfl, faultless⟩

private theorem settle_of_faultless (faultless : ∀ number, disk.faults number = none)
    (drafted : Tree.Drafted draft content before disk.tree) {place : Place}
    (found : before.target path = .ok place) (octets : List UInt8) :
    (settle draft path octets disk).1 = .ok () := by
  obtain ⟨filled, sound⟩ : (fillDraft draft octets disk).1 = .ok () ∧
      ∀ number, (fillDraft draft octets disk).2.faults number = none :=
    step_of_faultless _ _ faultless
  have whole := drafted_of_filled drafted octets filled
  rw [settle, bind_apply, filled]
  generalize (fillDraft draft octets disk).2 = after at sound whole ⊢
  obtain ⟨synchronized, soundLater⟩ : (synchronize after).1 = .ok () ∧
      ∀ number, (synchronize after).2.faults number = none := step_of_faultless _ _ sound
  have stored := drafted_synchronize whole
  simp only [bind_apply, synchronized]
  generalize (synchronize after).2 = later at soundLater stored ⊢
  have placed : (placeDraft draft path later).1 = (later.tree.placeDraft draft path).1 :=
    (step_of_faultless _ _ soundLater).1
  exact placed.trans (stored.placeDraft_of_target found)

/-- Where no step fails, and a draft can be named, a replacement succeeds exactly when the tree can replace
the file at once. -/
theorem replace_eq_ok_iff (faultless : ∀ number, disk.faults number = none)
    (nameable : ∀ above, disk.tree.node? above = some .directory →
      ∃ name ∈ disk.draftNames, disk.tree.node? (above ++ [name]) = none) :
    (replace path octets disk).1 = .ok () ↔ (disk.tree.replaceResult path octets).1 = .ok () := by
  refine ⟨fun replaced => (replace_like_tree replaced).1, ?_⟩
  intro replaced
  obtain ⟨place, target, _⟩ := Tree.replaceResult_eq_ok replaced
  obtain ⟨⟨above, known, here⟩, _⟩ := Tree.target_eq_ok_iff.mp target
  obtain ⟨name, listed, free⟩ := nameable above here
  obtain ⟨draft, made⟩ := Tree.exists_openDraft known here listed free
  obtain ⟨same, sound⟩ : (openDraft path disk).1 = (disk.tree.openDraft _ disk.draftNames).1 ∧
      ∀ number, (openDraft path disk).2.faults number = none := step_of_faultless _ _ faultless
  have opened := same.trans made
  rcases openDraft_cases disk path with ⟨_, present, drafted⟩ | ⟨_, failed, _⟩
  · cases present.symm.trans opened
    have settled := settle_of_faultless sound drafted target octets
    rw [replace, bind_apply, opened]
    simp only [bind_apply, settled]
    rfl
  · have both := failed.symm.trans opened
    contradiction

/-- A replacement fails for the reason for which its draft cannot be filled. -/
theorem replace_of_fault {disk after : Disk} {path : Path} {fault : Fault}
    (opened : (openDraft path disk).1 = .ok draft) (same : (openDraft path disk).2 = after)
    (faulty : after.faults after.taken = some fault) (octets : List UInt8) :
    (replace path octets disk).1 = .error fault.error := by
  have failed : (fillDraft draft octets after).1 = .error fault.error := by
    rw [fillDraft, step, faulty]
  rw [replace, bind_apply, opened, same]
  simp only [bind_apply, settle, failed]
  rfl

/-! ## Files -/

/-- A step touches no file when neither its work nor a part of it does. -/
theorem untouched_step (whole : ∀ tree, Storage.Untouched tree (work tree).2)
    (parts : ∀ progress tree, Storage.Untouched tree (part progress tree)) (disk : Disk) :
    Storage.Untouched disk (step work part disk).2 := by
  rcases step_cases disk work part with ⟨_, tree⟩ | ⟨fault, _, tree⟩
  · exact untouched_of_tree (tree ▸ whole disk.tree)
  · exact untouched_of_tree (tree ▸ parts fault.progress disk.tree)

private theorem untouched_stepOrNothing (whole : ∀ tree, Storage.Untouched tree (work tree).2) (disk : Disk) :
    Storage.Untouched disk (stepOrNothing work disk).2 :=
  untouched_step whole (fun _ tree => .refl tree) disk

instance : SoundStorage Disk where
  untouched_holds disk path := by
    have bound : (Storage.holds path disk).2 =
        (stepOrNothing (fun tree => (tree.find path, tree)) disk).2 := rfl
    rw [bound]
    exact untouched_stepOrNothing (fun tree => .refl tree) disk
  untouched_read disk path := untouched_stepOrNothing (fun tree => .refl tree) disk
  untouched_createDirectories disk path := by
    refine untouched_step ?_ ?_ disk
    · exact fun tree => tree.untouched_createUpward path.ancestors
    · exact fun progress tree => tree.untouched_createUpward (path.ancestors.drop (progress + 1))
  untouched_replace disk path octets error failed := by
    rcases replace_cases disk path octets with ⟨replaced, _⟩ | ⟨_, _, same⟩
    · have both := replaced.symm.trans failed
      contradiction
    · exact untouched_of_tree same
  given_replace disk path octets replaced := by
    rcases replace_cases disk path octets with ⟨_, place, target, given⟩ | ⟨_, failed, _⟩
    · obtain ⟨_, _, _, _, leads, _⟩ := Tree.target_eq_ok_iff.mp target
      exact ⟨place, toOption_eq_some_iff.mpr leads, given.octets, given.others, given.leads⟩
    · have both := failed.symm.trans replaced
      contradiction
  octetsAt_of_read disk path octets read :=
    SoundStorage.octetsAt_of_read disk.tree path octets (step_eq_ok read).1

instance : SoundLocking Disk where
  untouched_makeDirectories disk path := SoundStorage.untouched_createDirectories disk path
  untouched_or_made disk path := by
    have bound : Locking.openFile path disk = step (·.openFile path) (fun _ tree => tree) disk := rfl
    rw [bound]
    rcases step_cases disk (·.openFile path) (fun _ tree => tree) with ⟨_, tree⟩ | ⟨_, _, tree⟩
    · rcases SoundLocking.untouched_or_made disk.tree path with same | ⟨place, leads, absent, given⟩
      · exact .inl (untouched_of_tree (tree ▸ same))
      · have after := tree ▸ given
        exact .inr ⟨place, leads, absent, after.octets, after.others, after.leads⟩
    · exact .inl (untouched_of_tree (tree ▸ .refl disk.tree))
  untouched_lock disk number := by
    have bound : (Locking.lock number disk).2 = (stepOrNothing (lockFile number) disk).2 := rfl
    rw [bound]
    refine untouched_stepOrNothing ?_ disk
    intro tree
    rw [lockFile, Tree.lock?]
    by_cases locked : number ∈ tree.locked
    · rw [if_pos locked]
      exact .refl tree
    · rw [if_neg locked]
      exact Tree.untouched_of_nodes fun _ => rfl
  untouched_unlock disk number := untouched_of_tree (SoundLocking.untouched_unlock disk.tree number)

end Disk

end RangeCatalog
