import RangeCatalog.Proofs.Storage.LockPath
import RangeCatalog.Proofs.Storage.Tree

/-! # Where lock files are

The lock file of a path stands beside the file of the path, under a longer name. The pieces that its path does
without do not change the directory. So that what is put at the path is never put in the place of its lock file,
and where the lock file is there the path leads somewhere too.
-/

namespace RangeCatalog

namespace Tree

open RangeCatalog.Path

variable {tree later : Tree} {path : Path} {above : List String} {name : String}

/-! ## Places -/

private theorem follow_append (tree : Tree) (start : Place) (pieces rest : List String) :
    tree.follow start (pieces ++ rest) = (tree.follow start pieces).bind (tree.follow · rest) := by
  induction pieces generalizing start with
  | nil => rfl
  | cons piece pieces ih =>
    simp only [List.cons_append, follow, bind, Except.bind]
    cases tree.requireDirectory start with
    | error error => rfl
    | ok done =>
      simp only [ih]
      split_ifs <;> rfl

/-- Pieces that do not count lead nowhere else. -/
theorem follow_idle {start place : Place} {idle : List String}
    (idles : ∀ piece ∈ idle, isIdle piece = true) (found : tree.follow start idle = .ok place) :
    place = start := by
  induction idle with
  | nil => exact (Except.ok.inj found).symm
  | cons piece rest ih =>
    obtain ⟨counts, later⟩ := List.forall_mem_cons.mp idles
    rw [follow, if_pos counts, bind_eq_ok_iff] at found
    obtain ⟨_, _, found⟩ := found
    exact ih later found

private theorem follow_idle_of_directory {start : Place} {idle : List String}
    (idles : ∀ piece ∈ idle, isIdle piece = true) (here : tree.node? start = some .directory) :
    tree.follow start idle = .ok start := by
  induction idle with
  | nil => rfl
  | cons piece rest ih =>
    obtain ⟨counts, later⟩ := List.forall_mem_cons.mp idles
    rw [follow, if_pos counts, bind_eq_ok_iff]
    exact ⟨(), requireDirectory_eq_ok_iff.mpr here, ih later⟩

/-- To a directory lead the pieces that are left too. -/
theorem follow_trimEnd_iff {directory : Place} (here : tree.node? directory = some .directory) :
    tree.follow [] (trimEnd above) = .ok directory ↔ tree.follow [] above = .ok directory := by
  obtain ⟨idle, whole, idles⟩ := exists_idle above
  have parts : tree.follow [] above = (tree.follow [] (trimEnd above)).bind (tree.follow · idle) := by
    conv_lhs => rw [whole]
    exact tree.follow_append [] (trimEnd above) idle
  rw [parts]
  constructor
  · intro found
    rw [found]
    exact follow_idle_of_directory idles here
  · intro found
    obtain ⟨start, led, rest⟩ := bind_eq_ok_iff.mp found
    rw [follow_idle idles rest]
    exact led

/-- Whether a path is one that the system accepts. -/
structure Usable (path : Path) : Prop where
  nonempty : path.text.isEmpty = false
  valid : path.text.toList.any (·.toNat = 0) = false
  short : path.text.utf8ByteSize ≤ maxPathSize

theorem place_eq_ok_iff {place : Place} :
    tree.place path = .ok place ↔ Usable path ∧ tree.follow [] path.pieces = .ok place := by
  rw [Tree.place]
  constructor
  · intro found
    split_ifs at found with empty invalid long
    exact ⟨⟨by simpa using empty, by simpa using invalid, Nat.le_of_not_lt long⟩, found⟩
  · rintro ⟨⟨nonempty, valid, short⟩, found⟩
    rw [if_neg (by simp [nonempty]), if_neg (by simp [valid]), if_neg (Nat.not_lt_of_le short)]
    exact found

private theorem follow_name {directory place : Place} (counts : isIdle name = false) (notUp : name ≠ "..") :
    tree.follow directory [name] = .ok place ↔
      tree.node? directory = some .directory ∧ name.utf8ByteSize ≤ maxNameSize ∧
        place = directory ++ [name] := by
  rw [follow, bind_eq_ok_iff, if_neg (by simp [counts]), if_neg notUp]
  constructor
  · rintro ⟨⟨⟩, here, found⟩
    split_ifs at found with long
    exact ⟨requireDirectory_eq_ok_iff.mp here, Nat.le_of_not_lt long, (Except.ok.inj found).symm⟩
  · rintro ⟨here, short, rfl⟩
    refine ⟨(), requireDirectory_eq_ok_iff.mpr here, ?_⟩
    rw [if_neg (Nat.not_lt_of_le short)]
    rfl

/-- A path that ends with a name leads into the directory before it. -/
theorem place_of_ends (ends : EndsWith path above name) {place : Place} :
    tree.place path = .ok place ↔ Usable path ∧ name.utf8ByteSize ≤ maxNameSize ∧
      ∃ directory, tree.follow [] above = .ok directory ∧ tree.node? directory = some .directory ∧
        place = directory ++ [name] := by
  rw [place_eq_ok_iff, ends.pieces, follow_append]
  refine and_congr_right fun _ => ?_
  constructor
  · intro found
    obtain ⟨directory, led, named⟩ := bind_eq_ok_iff.mp found
    obtain ⟨here, short, same⟩ := (follow_name ends.counts ends.notUp).mp named
    exact ⟨short, directory, led, here, same⟩
  · rintro ⟨short, directory, led, here, same⟩
    rw [led]
    exact (follow_name ends.counts ends.notUp).mpr ⟨here, short, same⟩

private theorem getLast?_of_bare (bare : withoutSlashes path = path) :
    path.text.toList.getLast? ≠ some '/' := by
  intro slash
  obtain ⟨before, text⟩ := List.getLast?_eq_some_iff.mp slash
  have shorter : path.text.toList = (path.text.toList.reverse.dropWhile (· = '/')).reverse := by
    have same := congrArg (·.text.toList) bare
    simp only [withoutSlashes, String.toList_ofList] at same
    exact same.symm
  have size := congrArg List.length shorter
  have dropped := (List.dropWhile_sublist (fun c : Char => decide (c = '/')) (l := before.reverse)).length_le
  rw [List.length_reverse, text, List.reverse_append, List.reverse_singleton, List.singleton_append,
    List.dropWhile_cons_of_pos (by simp), List.length_append, List.length_singleton] at size
  rw [List.length_reverse] at dropped
  omega

/-- A path that can be given a file is one that the system accepts, and ends with a name. -/
theorem ends_of_target {place : Place} (found : tree.target path = .ok place) :
    Usable path ∧ ∃ above name, EndsWith path above name := by
  obtain ⟨_, bare, point, up, placed, _⟩ := target_eq_ok_iff.mp found
  obtain ⟨usable, _⟩ := place_eq_ok_iff.mp placed
  refine ⟨usable, ?_⟩
  obtain ⟨above, name, whole⟩ := (List.eq_nil_or_concat' path.pieces).resolve_left path.pieces_ne_nil
  have last : path.pieces.getLast? = some name := by
    rw [whole, List.getLast?_concat]
  have filled : name ≠ "" := by
    rintro rfl
    have text := path.text_eq
    rw [whole] at text
    cases above with
    | nil =>
      have empty := usable.nonempty
      rw [text] at empty
      contradiction
    | cons first rest =>
      refine getLast?_of_bare bare ?_
      rw [text, String.intercalate_append_of_ne_nil (by simp) (by simp), String.intercalate_singleton,
        String.append_empty, String.toList_append, List.getLast?_append_of_ne_nil _ (by decide)]
      rfl
  refine ⟨above, name, whole, ?_, ?_⟩
  · have point : name ≠ "." := by
      rintro rfl
      exact point last
    simp [isIdle, filled, point]
  · rintro rfl
    exact up last

/-! ## Lock files -/

/-- The lock file of a path stands in the directory before the name of the path, under a longer name. -/
theorem place_lockFile (ends : EndsWith path above name) {place : Place}
    (locked : tree.place path.lockFile = .ok place) :
    name.utf8ByteSize ≤ maxNameSize ∧ ∃ directory, tree.follow [] above = .ok directory ∧
      tree.node? directory = some .directory ∧ place = directory ++ [name ++ ".lock"] := by
  have longer := size_lockName name
  obtain ⟨_, short, directory, led, here, same⟩ := (place_of_ends ends.isNamed.endsWith_lockFile).mp locked
  exact ⟨by omega, directory, (follow_trimEnd_iff here).mp led, here, same⟩

/-- Where the lock file is, the path leads to another place in the same directory. -/
theorem exists_place_of_lockFile (usable : Usable path) (ends : EndsWith path above name)
    {lockPlace : Place} (locked : tree.place path.lockFile = .ok lockPlace) :
    ∃ place, tree.place path = .ok place ∧ place ≠ lockPlace := by
  obtain ⟨short, directory, led, here, rfl⟩ := place_lockFile ends locked
  refine ⟨directory ++ [name], (place_of_ends ends).mpr ⟨usable, short, directory, led, here, rfl⟩, ?_⟩
  intro same
  have names := List.append_cancel_left same
  exact lockName_ne name (List.singleton_inj.mp names).symm

/-- What can be put at a path is not put in the place of its lock file. -/
theorem ne_of_target {place lockPlace : Place} (found : tree.target path = .ok place)
    (locked : tree.place path.lockFile = .ok lockPlace) : lockPlace ≠ place := by
  obtain ⟨usable, above, name, ends⟩ := ends_of_target found
  obtain ⟨_, _, _, _, placed, _⟩ := target_eq_ok_iff.mp found
  obtain ⟨other, led, differs⟩ := exists_place_of_lockFile usable ends locked
  rw [led] at placed
  rw [← Except.ok.inj placed]
  exact differs.symm

end Tree

end RangeCatalog
