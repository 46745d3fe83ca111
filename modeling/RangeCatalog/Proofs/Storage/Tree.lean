import Mathlib.Tactic.SplitIfs
import RangeCatalog.Proofs.Keyed
import RangeCatalog.Proofs.Outcome
import RangeCatalog.Proofs.Storage.Files
import RangeCatalog.Proofs.Storage.Lawful
import RangeCatalog.Storage.Tree

/-! # The laws of file trees

A path leads to the same place for as long as the directories on the way stay directories. A file that is
replaced was no directory, so that no path loses its way, and the new content is found where it was put.
Making a directory and locking a file touch no file.
-/

namespace RangeCatalog.Tree

variable {tree later : Tree} {path : Path}

/-! ## Places -/

theorem node?_withNode (tree : Tree) {place : Place} (named : place ≠ []) (node : Node) (other : Place) :
    (tree.withNode place node).node? other = if other = place then some node else tree.node? other := by
  have below : place.isEmpty = false := by simpa using named
  simp only [node?, withNode, List.lookup_cons]
  by_cases same : other = place
  · rw [if_pos same, same, below, if_neg (by simp), beq_self_eq_true]
  · rw [if_neg same, beq_false_of_ne same, lookup_filter_ne _ same]

/-- Whether all directories of a tree are directories of another one. -/
def KeepsDirectories (tree later : Tree) : Prop :=
  ∀ place, tree.node? place = some .directory → later.node? place = some .directory

theorem requireDirectory_eq_ok_iff {place : Place} :
    tree.requireDirectory place = .ok () ↔ tree.node? place = some .directory := by
  rw [requireDirectory]
  split <;> simp_all

/-- Pieces lead to the same place. -/
theorem KeepsDirectories.follow (keeps : tree.KeepsDirectories later) {start place : Place}
    {pieces : List String} (found : tree.follow start pieces = .ok place) :
    later.follow start pieces = .ok place := by
  induction pieces generalizing start with
  | nil => exact found
  | cons piece rest ih =>
    rw [Tree.follow, bind_eq_ok_iff] at found ⊢
    obtain ⟨⟨⟩, here, found⟩ := found
    refine ⟨(), ?_, ?_⟩
    · exact requireDirectory_eq_ok_iff.mpr (keeps start (requireDirectory_eq_ok_iff.mp here))
    · split_ifs at found ⊢ with idle up long
      · exact ih found
      · exact ih found
      · exact ih found

theorem KeepsDirectories.place (keeps : tree.KeepsDirectories later) {place : Place}
    (found : tree.place path = .ok place) : later.place path = .ok place := by
  rw [Tree.place] at found ⊢
  split_ifs at found ⊢ with empty invalid long
  exact keeps.follow found

/-! ## Files -/

theorem find_eq_ok_iff {node : Node} :
    tree.find path = .ok node ↔ ∃ place, tree.place path = .ok place ∧ tree.node? place = some node := by
  simp only [find, bind_eq_ok_iff]
  refine exists_congr fun place => and_congr_right fun _ => ?_
  cases tree.node? place with
  | none => simp [throw, throwThe, MonadExceptOf.throw]
  | some other => simp [pure, Except.pure]

theorem readResult_eq_ok_iff {octets : List UInt8} :
    tree.readResult path = .ok octets ↔ ∃ number, tree.find path = .ok (.file number octets) := by
  simp only [readResult, bind_eq_ok_iff]
  constructor
  · rintro ⟨node, found, read⟩
    cases node with
    | directory => contradiction
    | file number present =>
      cases read
      exact ⟨number, found⟩
  · rintro ⟨number, found⟩
    exact ⟨_, found, rfl⟩

/-- What it takes to replace a file: a directory above it, a plain name, and no directory in its place. -/
theorem target_eq_ok_iff {place : Place} :
    tree.target path = .ok place ↔
      (∃ above, tree.place (path.directory?.getD ⟨"."⟩) = .ok above ∧
        tree.node? above = some .directory) ∧
      withoutSlashes path = path ∧ path.pieces.getLast? ≠ some "." ∧
      path.pieces.getLast? ≠ some ".." ∧ tree.place path = .ok place ∧
      tree.node? place ≠ some .directory := by
  simp only [target, bind_eq_ok_iff, ite_throw_eq_ok_iff]
  constructor
  · rintro ⟨above, placed, ⟨⟩, here, _, other, found, name, bare, free, ⟨⟩⟩
    obtain ⟨here', up⟩ := not_or.mp name
    rw [not_not.mp bare] at found here' up
    exact ⟨⟨above, placed, requireDirectory_eq_ok_iff.mp here⟩, not_not.mp bare, here', up, found, free⟩
  · rintro ⟨⟨above, placed, here⟩, bare, point, up, found, free⟩
    rw [bare]
    refine ⟨above, placed, (), requireDirectory_eq_ok_iff.mpr here, ?_, place, found, ?_, ?_, free, rfl⟩
    · cases path.text.isEmpty <;> simp
    · exact not_or.mpr ⟨point, up⟩
    · exact not_not.mpr rfl

/-! ## Replacing -/

variable {place : Place} {octets : List UInt8}

theorem ne_nil_of_node?_ne (free : tree.node? place ≠ some .directory) : place ≠ [] := by
  rintro rfl
  exact free rfl

/-- A new file takes no directory away where there was none. -/
theorem keepsDirectories_withNewFile (free : tree.node? place ≠ some .directory)
    (octets : List UInt8) : tree.KeepsDirectories (tree.withNewFile place octets) := by
  intro other directory
  have differs : other ≠ place := by
    rintro rfl
    exact free directory
  have unchanged : (tree.withNewFile place octets).node? other = tree.node? other := by
    have named := node?_withNode tree (ne_nil_of_node?_ne free) (.file tree.nextNumber octets) other
    rw [if_neg differs] at named
    exact named
  rw [unchanged, directory]

theorem node?_withNewFile (free : tree.node? place ≠ some .directory) (octets : List UInt8) :
    (tree.withNewFile place octets).node? place = some (.file tree.nextNumber octets) := by
  have named := node?_withNode tree (ne_nil_of_node?_ne free) (.file tree.nextNumber octets) place
  rw [if_pos rfl] at named
  exact named

theorem replaceResult_eq_ok (replaced : (tree.replaceResult path octets).1 = .ok ()) :
    ∃ place, tree.target path = .ok place ∧
      (tree.replaceResult path octets).2 = tree.withNewFile place octets := by
  rw [replaceResult] at replaced ⊢
  cases found : tree.target path with
  | error error => simp [found] at replaced
  | ok place => exact ⟨place, rfl, rfl⟩

/-- Where a file was put, it is found. -/
theorem readResult_withNewFile (found : tree.target path = .ok place) (octets : List UInt8) :
    (tree.withNewFile place octets).readResult path = .ok octets := by
  obtain ⟨_, _, _, _, placed, free⟩ := target_eq_ok_iff.mp found
  have keeps := keepsDirectories_withNewFile free octets
  refine readResult_eq_ok_iff.mpr ⟨tree.nextNumber, find_eq_ok_iff.mpr ⟨place, ?_, ?_⟩⟩
  · exact keeps.place placed
  · exact node?_withNewFile free octets

/-- Where a file was put, another can be put. -/
theorem target_withNewFile (found : tree.target path = .ok place) (octets : List UInt8) :
    (tree.withNewFile place octets).target path = .ok place := by
  obtain ⟨⟨above, known, here⟩, bare, point, up, placed, free⟩ := target_eq_ok_iff.mp found
  have keeps := keepsDirectories_withNewFile free octets
  refine target_eq_ok_iff.mpr ⟨⟨above, ?_, ?_⟩, bare, point, up, ?_, ?_⟩
  · exact keeps.place known
  · exact keeps above here
  · exact keeps.place placed
  · rw [node?_withNewFile free octets]
    simp

private theorem holds_eq_true {node : Node} (found : tree.find path = .ok node) :
    (Storage.holds path tree).1 = true := by
  have held : (Storage.holds path tree).1 = (tree.find path).isOk := rfl
  rw [held, found]
  rfl

theorem accepts_of_target (found : tree.target path = .ok place) : Storage.Accepts tree path := by
  refine ⟨?_, ?_⟩
  · intro directory above
    obtain ⟨⟨parent, placed, here⟩, _⟩ := target_eq_ok_iff.mp found
    rw [above, Option.getD_some] at placed
    exact holds_eq_true (find_eq_ok_iff.mpr ⟨parent, placed, here⟩)
  · intro octets
    have bound : (Storage.replace path octets tree).1 = (tree.replaceResult path octets).1 := rfl
    rw [bound, replaceResult, found]

instance : Storage.Contents Tree := ⟨content?⟩

theorem content?_eq_some_iff : tree.content? path = some octets ↔ tree.readResult path = .ok octets :=
  toOption_eq_some_iff

instance : LawfulStorage Tree where
  alike_holds tree path := .refl tree
  alike_read tree path := .refl tree
  holds_of_content tree path octets present := by
    obtain ⟨number, found⟩ := readResult_eq_ok_iff.mp (content?_eq_some_iff.mp present)
    exact holds_eq_true found
  content_of_read tree path octets read := content?_eq_some_iff.mpr read
  content_replace tree path octets replaced := by
    obtain ⟨place, found, after⟩ := replaceResult_eq_ok replaced
    have later : (Storage.replace path octets tree).2 = tree.withNewFile place octets := after
    rw [later]
    exact content?_eq_some_iff.mpr (readResult_withNewFile found octets)
  accepts_replace tree path octets replaced := by
    obtain ⟨place, found, after⟩ := replaceResult_eq_ok replaced
    have later : (Storage.replace path octets tree).2 = tree.withNewFile place octets := after
    rw [later]
    exact accepts_of_target (target_withNewFile found octets)

/-! ## Files -/

/-- The files of a tree are told apart by their places. -/
instance : Storage.Files Tree where
  File := Place
  octets? tree place :=
    match tree.node? place with
    | some (.file _ octets) => some octets
    | _ => none
  file? tree path := (tree.place path).toOption

theorem octets?_of_node? {number : Nat} (found : tree.node? place = some (.file number octets)) :
    Storage.octets? tree place = some octets := by
  simp only [Storage.octets?, found]

theorem octets?_of_same (same : later.node? place = tree.node? place) :
    Storage.octets? later place = Storage.octets? tree place := by
  simp only [Storage.octets?, same]

theorem KeepsDirectories.leads (keeps : tree.KeepsDirectories later) {place : Place}
    (leads : Storage.file? tree path = some place) : Storage.file? later path = some place :=
  toOption_eq_some_iff.mpr (keeps.place (toOption_eq_some_iff.mp leads))

/-- Files are not touched where the nodes stay the same. -/
theorem untouched_of_nodes (same : ∀ place, later.node? place = tree.node? place) :
    Storage.Untouched tree later := by
  have keeps : tree.KeepsDirectories later := fun place directory => (same place).trans directory
  exact ⟨fun place => octets?_of_same (same place), fun _ _ leads => keeps.leads leads⟩

theorem given_withNewFile (free : tree.node? place ≠ some .directory) (octets : List UInt8) :
    Storage.Given place octets tree (tree.withNewFile place octets) := by
  refine ⟨octets?_of_node? (node?_withNewFile free octets), ?_, ?_⟩
  · intro other differs
    have unchanged := node?_withNode tree (ne_nil_of_node?_ne free) (.file tree.nextNumber octets) other
    rw [if_neg differs] at unchanged
    exact octets?_of_same unchanged
  · exact fun _ _ leads => (keepsDirectories_withNewFile free octets).leads leads

/-- A directory is made where nothing stood. -/
theorem createDirectory_eq_ok (made : tree.createDirectory path = .ok later) :
    ∃ place, tree.node? place = none ∧ later = tree.withNode place .directory := by
  simp only [createDirectory, ite_throw_eq_ok_iff, bind_eq_ok_iff] at made
  obtain ⟨_, place, _, vacant, ⟨⟩⟩ := made
  exact ⟨place, by simpa using vacant, rfl⟩

theorem named_of_vacant (vacant : tree.node? place = none) : place ≠ [] := by
  rintro rfl
  contradiction

private theorem untouched_createDirectory (made : tree.createDirectory path = .ok later) :
    Storage.Untouched tree later := by
  obtain ⟨place, vacant, rfl⟩ := createDirectory_eq_ok made
  have node (other : Place) := node?_withNode tree (named_of_vacant vacant) .directory other
  have keeps : tree.KeepsDirectories (tree.withNode place .directory) := by
    intro other directory
    rw [node other]
    split
    · rfl
    · exact directory
  refine ⟨?_, fun _ _ leads => keeps.leads leads⟩
  intro other
  by_cases same : other = place
  · simp only [Storage.octets?, node other, if_pos same]
    rw [same, vacant]
  · exact octets?_of_same ((node other).trans (if_neg same))

/-- Whichever of the directories above are made, and wherever this fails, a relation holds that one directory
after the other keeps. -/
theorem createUpward_related {Related : Tree → Tree → Prop} (refl : ∀ tree, Related tree tree)
    (trans : ∀ {first middle last}, Related first middle → Related middle last → Related first last)
    (made : ∀ {tree later path}, tree.createDirectory path = .ok later → Related tree later)
    (tree : Tree) (paths : List Path) : Related tree (tree.createUpward paths).2 := by
  induction paths with
  | nil => exact refl tree
  | cons path above ih =>
    rw [createUpward]
    split
    · exact refl tree
    · split
      · rename_i later done
        exact made done
      · split
        · exact refl tree
        · split
          · rename_i failed
            rw [failed] at ih
            exact ih
          · rename_i middle done
            rw [done] at ih
            split
            · rename_i later last
              exact trans ih (made last)
            · exact ih
      · exact refl tree

theorem untouched_createUpward (tree : Tree) (paths : List Path) :
    Storage.Untouched tree (tree.createUpward paths).2 :=
  createUpward_related .refl .trans untouched_createDirectory tree paths

instance : SoundStorage Tree where
  untouched_holds tree path := .refl tree
  untouched_read tree path := .refl tree
  untouched_createDirectories tree path := tree.untouched_createUpward path.ancestors
  untouched_replace tree path octets error failed := by
    have bound : Storage.replace path octets tree = tree.replaceResult path octets := rfl
    rw [bound, replaceResult] at failed ⊢
    cases found : tree.target path with
    | error error => exact .refl tree
    | ok place => simp [found] at failed
  given_replace tree path octets replaced := by
    obtain ⟨place, found, after⟩ := replaceResult_eq_ok replaced
    have later : (Storage.replace path octets tree).2 = tree.withNewFile place octets := after
    obtain ⟨_, _, _, _, placed, free⟩ := target_eq_ok_iff.mp found
    rw [later]
    exact ⟨place, toOption_eq_some_iff.mpr placed, given_withNewFile free octets⟩
  octetsAt_of_read tree path octets read := by
    obtain ⟨number, found⟩ := readResult_eq_ok_iff.mp read
    obtain ⟨place, placed, node⟩ := find_eq_ok_iff.mp found
    exact Option.bind_eq_some_iff.mpr
      ⟨place, toOption_eq_some_iff.mpr placed, octets?_of_node? node⟩

instance : SoundLocking Tree where
  untouched_makeDirectories tree path := SoundStorage.untouched_createDirectories tree path
  untouched_or_made tree path := by
    have bound : Locking.openFile path tree = tree.openFile path := rfl
    rw [bound, openFile]
    cases placed : tree.place path with
    | error error => exact .inl (.refl tree)
    | ok place =>
      cases found : tree.node? place with
      | none =>
        have free : tree.node? place ≠ some .directory := by simp [found]
        refine .inr ⟨place, toOption_eq_some_iff.mpr placed, ?_, ?_⟩
        · simp only [Storage.octets?, found]
        · simp only [found]
          exact given_withNewFile free []
      | some node =>
        cases node with
        | directory => simp only [found]; exact .inl (.refl tree)
        | file number octets => simp only [found]; exact .inl (.refl tree)
  untouched_lock tree number := by
    have bound : Locking.lock number tree =
        match tree.lock? number with
        | some tree => (true, tree)
        | none => (false, tree) := rfl
    rw [bound, lock?]
    by_cases locked : number ∈ tree.locked
    · rw [if_pos locked]
      exact .refl tree
    · rw [if_neg locked]
      exact untouched_of_nodes fun _ => rfl
  untouched_unlock tree number := untouched_of_nodes fun _ => rfl

/-- Reading a file never fails. -/
theorem read_of_content {state : Tree} (present : state.content? path = some octets) :
    (Storage.read path state).1 = .ok octets :=
  content?_eq_some_iff.mp present

end RangeCatalog.Tree
