import Mathlib.Data.List.Basic
import RangeCatalog.Storage.Path

/-! # Paths of lock files

The lock file of an output is formed on the text of its path: pieces that do not count are dropped at the end of
the directory, and `.lock` is appended to the name. Since pieces that do not count take no step, all spellings of
an output have one lock file, no other output has it, and it stands beside the output under a longer name.
-/

namespace RangeCatalog

namespace Path

/-! ## Pieces -/

/-- A text without slashes in it, as a piece is. -/
def Single (piece : String) : Prop :=
  '/' ∉ piece.toList

private theorem pieces_intercalate {pieces : List String} (nonempty : pieces ≠ [])
    (single : ∀ piece ∈ pieces, Single piece) :
    (⟨String.intercalate "/" pieces⟩ : Path).pieces = pieces := by
  have lists : List.splitOn '/' (['/'].intercalate (pieces.map String.toList)) =
      pieces.map String.toList := by
    refine List.splitOn_intercalate '/' ?_ (by simpa using nonempty)
    intro chars member
    obtain ⟨piece, among, rfl⟩ := List.mem_map.mp member
    exact single piece among
  rw [Path.pieces, String.toList_intercalate]
  rw [show "/".toList = ['/'] from rfl, lists]
  simp [Function.comp_def]

/-- A path is the text of its pieces. -/
theorem text_eq (path : Path) : path.text = String.intercalate "/" path.pieces := by
  rw [← String.toList_inj, String.toList_intercalate, Path.pieces]
  simp only [List.map_map, Function.comp_def, String.toList_ofList, List.map_id']
  exact (List.intercalate_splitOn '/').symm

private theorem single_of_mem_splitOn {chars piece : List Char} (member : piece ∈ chars.splitOn '/') :
    '/' ∉ piece := by
  induction chars generalizing piece with
  | nil =>
    rw [List.splitOn_nil, List.mem_singleton] at member
    simp [member]
  | cons c rest ih =>
    rw [List.splitOn_cons_eq_if_modifyHead] at member
    split at member
    · rcases List.mem_cons.mp member with rfl | later
      · simp
      · exact ih later
    · rename_i other
      cases pieces : rest.splitOn '/' with
      | nil => exact absurd pieces (List.splitOn_ne_nil '/' rest)
      | cons first pieces' =>
        rw [pieces] at ih member
        rcases List.mem_cons.mp member with rfl | later
        · rw [List.mem_cons, not_or]
          exact ⟨fun same => other (by simp [← same]), ih List.mem_cons_self⟩
        · exact ih (List.mem_cons_of_mem _ later)

private theorem single_of_mem_pieces {path : Path} {piece : String} (member : piece ∈ path.pieces) :
    Single piece := by
  rw [Path.pieces] at member
  obtain ⟨chars, among, rfl⟩ := List.mem_map.mp member
  rw [Single, String.toList_ofList]
  exact single_of_mem_splitOn among

theorem pieces_ne_nil (path : Path) : path.pieces ≠ [] := by
  rw [Path.pieces]
  simp [List.splitOn_ne_nil]

variable {path other : Path} {above : List String} {name piece : String}

/-! ## Pieces that count -/

private theorem trimEnd_ne_nil (nonempty : above ≠ []) : trimEnd above ≠ [] := by
  cases above with
  | nil => exact absurd rfl nonempty
  | cons first rest => simp [trimEnd]

private theorem mem_of_mem_trimEnd (member : piece ∈ trimEnd above) : piece ∈ above := by
  cases above with
  | nil => exact member
  | cons first rest =>
    rcases List.mem_cons.mp member with rfl | later
    · exact List.mem_cons_self
    · have kept := (List.dropWhile_sublist isIdle).mem (List.mem_reverse.mp later)
      exact List.mem_cons_of_mem _ (List.mem_reverse.mp kept)

/-- What does not count was dropped at the end. -/
theorem exists_idle (above : List String) :
    ∃ idle, above = trimEnd above ++ idle ∧ ∀ piece ∈ idle, isIdle piece = true := by
  cases above with
  | nil => exact ⟨[], rfl, by simp⟩
  | cons first rest =>
    refine ⟨(rest.reverse.takeWhile isIdle).reverse, ?_, ?_⟩
    · rw [trimEnd, List.cons_append, ← List.reverse_append, List.takeWhile_append_dropWhile,
        List.reverse_reverse]
    · intro piece member
      exact List.all_eq_true.mp List.all_takeWhile piece (List.mem_reverse.mp member)

/-- What is left is the first piece alone, or ends with a piece that counts. -/
theorem trimEnd_cons_cases (first : String) (rest : List String) :
    trimEnd (first :: rest) = [first] ∨
      ∃ front last, trimEnd (first :: rest) = first :: front ++ [last] ∧ isIdle last = false := by
  rw [trimEnd]
  cases kept : rest.reverse.dropWhile isIdle with
  | nil => exact .inl rfl
  | cons last more =>
    have counts := List.head_dropWhile_not isIdle (l := rest.reverse) (by simp [kept])
    simp only [kept, List.head_cons] at counts
    exact .inr ⟨more.reverse, last, by simp, counts⟩

private theorem ne_empty_of_counts (counts : isIdle piece = false) : piece ≠ "" := by
  rintro rfl
  exact absurd counts (by decide)

/-- What is left is a single empty piece, or ends with one that is not empty. -/
theorem trimEnd_cases (nonempty : above ≠ []) :
    trimEnd above = [""] ∨ ∃ front last, trimEnd above = front ++ [last] ∧ last ≠ "" := by
  cases above with
  | nil => exact absurd rfl nonempty
  | cons first rest =>
    rcases trimEnd_cons_cases first rest with alone | ⟨front, last, ends, counts⟩
    · by_cases empty : first = ""
      · exact .inl (by rw [alone, empty])
      · exact .inr ⟨[], first, alone, empty⟩
    · exact .inr ⟨first :: front, last, ends, ne_empty_of_counts counts⟩

private theorem trimEnd_concat_of_counts (counts : isIdle name = false) :
    trimEnd (above ++ [name]) = above ++ [name] := by
  cases above with
  | nil => rfl
  | cons first rest => simp [trimEnd, counts]

private theorem trimEnd_trimEnd (above : List String) : trimEnd (trimEnd above) = trimEnd above := by
  cases above with
  | nil => rfl
  | cons first rest =>
    rcases trimEnd_cons_cases first rest with alone | ⟨front, last, ends, counts⟩
    · rw [alone]
      rfl
    · rw [ends, trimEnd_concat_of_counts counts]

/-! ## Steps -/

/-- The steps of pieces, the first of which is the root when it is empty. -/
def stepsOfPieces : List String → List Step
  | [] => []
  | first :: rest =>
    (if first = "" then .root else stepOfPiece first) :: (rest.filter (! isIdle ·)).map stepOfPiece

theorem steps_eq (filled : path.pieces ≠ [""]) : path.steps = stepsOfPieces path.pieces := by
  rw [steps]
  cases pieces : path.pieces with
  | nil => rfl
  | cons first rest =>
    by_cases empty : first = ""
    · subst empty
      cases rest with
      | nil => exact absurd pieces filled
      | cons second rest => rfl
    · simp [stepsOfPieces, empty]

private theorem stepsOfPieces_append (nonempty : above ≠ []) (more : List String) :
    stepsOfPieces (above ++ more) = stepsOfPieces above ++ (more.filter (! isIdle ·)).map stepOfPiece := by
  cases above with
  | nil => exact absurd rfl nonempty
  | cons first rest => simp [stepsOfPieces]

/-- Pieces that do not count take no step. -/
theorem stepsOfPieces_trimEnd (above : List String) : stepsOfPieces (trimEnd above) = stepsOfPieces above := by
  by_cases nothing : above = []
  · rw [nothing]
    rfl
  · obtain ⟨idle, whole, idles⟩ := exists_idle above
    have none : idle.filter (! isIdle ·) = [] := by
      rw [List.filter_eq_nil_iff]
      intro piece member
      simp [idles piece member]
    conv_rhs => rw [whole, stepsOfPieces_append (trimEnd_ne_nil nothing), none, List.map_nil, List.append_nil]

private theorem stepOfPiece_eq_name_iff :
    stepOfPiece piece = .name name ↔ piece = name ∧ piece ≠ ".." ∧ piece ≠ "." := by
  rw [stepOfPiece]
  split_ifs <;> simp_all

/-! ## Names at the end -/

/-- Whether a path is that of a name, before which the given pieces stand. Pieces behind it do not count. -/
structure IsNamed (path : Path) (above : List String) (name : String) : Prop where
  trimmed : trimEnd path.pieces = above ++ [name]
  counts : isIdle name = false
  notUp : name ≠ ".."

/-- Whether a path ends with a name: what stands before it, and the name. -/
structure EndsWith (path : Path) (above : List String) (name : String) : Prop where
  pieces : path.pieces = above ++ [name]
  counts : isIdle name = false
  notUp : name ≠ ".."

theorem EndsWith.isNamed (ends : EndsWith path above name) : IsNamed path above name :=
  ⟨by rw [ends.pieces, trimEnd_concat_of_counts ends.counts], ends.counts, ends.notUp⟩

namespace IsNamed

private theorem steps_eq (named : IsNamed path above name) : path.steps = stepsOfPieces above ++ [.name name] := by
  have filled := ne_empty_of_counts named.counts
  have notHere : name ≠ "." := by
    rintro rfl
    exact absurd named.counts (by decide)
  have step : stepOfPiece name = .name name := stepOfPiece_eq_name_iff.mpr ⟨rfl, named.notUp, notHere⟩
  have present : path.pieces ≠ [""] := by
    intro root
    have trimmed := named.trimmed
    rw [root] at trimmed
    have last := congrArg List.getLast? trimmed
    rw [List.getLast?_concat] at last
    exact filled (Option.some.inj last).symm
  rw [Path.steps_eq present, ← stepsOfPieces_trimEnd, named.trimmed]
  by_cases nothing : above = []
  · subst nothing
    simp [stepsOfPieces, filled, step]
  · rw [stepsOfPieces_append nothing]
    simp [named.counts, step]

theorem fileName?_eq (named : IsNamed path above name) : path.fileName? = some name := by
  rw [fileName?, named.steps_eq, List.getLast?_concat]

theorem parent?_eq (named : IsNamed path above name) :
    path.parent? = some (if above = [] then ⟨""⟩ else ofPieces (trimEnd above)) := by
  have filled := ne_empty_of_counts named.counts
  rw [parent?, named.trimmed]
  cases above with
  | nil => simp [filled]
  | cons first rest =>
    cases rest with
    | nil => rfl
    | cons second rest =>
      simp only [List.cons_append, reduceCtorEq, if_false]
      rw [← List.cons_append, ← List.cons_append, List.dropLast_concat]

private theorem single (named : IsNamed path above name) : ∀ piece ∈ above ++ [name], Single piece :=
  fun _ member => single_of_mem_pieces (mem_of_mem_trimEnd (named.trimmed ▸ member))

end IsNamed

private theorem getLast?_steps (named : path.fileName? = some name) : path.steps.getLast? = some (.name name) := by
  rw [fileName?] at named
  split at named
  · rename_i text last
    rw [last, Option.some.inj named]
  · contradiction

/-- A path whose last step is a name is that of the name. -/
theorem exists_isNamed (named : path.fileName? = some name) : ∃ above, IsNamed path above name := by
  have last := getLast?_steps named
  have present : path.pieces ≠ [""] := by
    intro root
    rw [steps, root] at last
    contradiction
  obtain ⟨first, rest, whole⟩ := List.exists_cons_of_ne_nil path.pieces_ne_nil
  rw [steps_eq present, ← stepsOfPieces_trimEnd, whole] at last
  rcases trimEnd_cons_cases first rest with alone | ⟨front, piece, ends, counts⟩
  -- The first piece stays even where it is the root or a point, but no other step ends with a name.
  · rw [alone, stepsOfPieces, List.filter_nil, List.map_nil, List.getLast?_singleton, Option.some.injEq] at last
    split_ifs at last with empty
    obtain ⟨rfl, notUp, notHere⟩ := stepOfPiece_eq_name_iff.mp last
    refine ⟨[], by rw [whole, alone]; rfl, ?_, notUp⟩
    simp [isIdle, empty, notHere]
  · have only : [piece].filter (! isIdle ·) = [piece] := by simp [counts]
    rw [ends, stepsOfPieces_append (by simp), only, List.map_singleton, List.getLast?_concat,
      Option.some.injEq] at last
    obtain ⟨rfl, notUp, _⟩ := stepOfPiece_eq_name_iff.mp last
    exact ⟨first :: front, by rw [whole, ends], counts, notUp⟩

/-! ## Joining -/

/-- A text that ends with a piece that is not empty does not end with a slash. -/
theorem getLast?_intercalate {front : List String} {last : String} (filled : last ≠ "")
    (single : Single last) :
    (String.intercalate "/" (front ++ [last])).toList ≠ [] ∧
      (String.intercalate "/" (front ++ [last])).toList.getLast? ≠ some '/' := by
  have ends : ∃ before, (String.intercalate "/" (front ++ [last])).toList = before ++ last.toList := by
    cases front with
    | nil => exact ⟨[], by simp⟩
    | cons first rest =>
      rw [String.intercalate_append_of_ne_nil (by simp) (by simp), String.intercalate_singleton,
        String.toList_append]
      exact ⟨_, rfl⟩
  obtain ⟨before, text⟩ := ends
  have chars : last.toList ≠ [] := fun none => filled (String.toList_eq_nil_iff.mp none)
  rw [text, List.getLast?_append_of_ne_nil _ chars]
  refine ⟨by simp [chars], ?_⟩
  intro slash
  exact single (List.mem_of_getLast? slash)

private theorem ofPieces_of_ne (noRoot : above ≠ [""]) : ofPieces above = ⟨String.intercalate "/" above⟩ := by
  rw [ofPieces]
  exact noRoot

private theorem join_ofPieces (nonempty : above ≠ []) (single : ∀ piece ∈ above, Single piece) (name : String) :
    (ofPieces (trimEnd above)).join name = ⟨String.intercalate "/" (trimEnd above ++ [name])⟩ := by
  rcases trimEnd_cases nonempty with root | ⟨front, last, ends, filled⟩
  · rw [root]
    simp [ofPieces, join, String.intercalate_cons_cons]
  · have lastSingle : Single last := single last (mem_of_mem_trimEnd (by simp [ends]))
    have noRoot : trimEnd above ≠ [""] := by
      intro root
      have only : (front ++ [last]).getLast? = some "" := by rw [← ends, root]; rfl
      rw [List.getLast?_concat] at only
      exact filled (Option.some.inj only)
    obtain ⟨present, noSlash⟩ := getLast?_intercalate filled lastSingle
    rw [← ends] at present noSlash
    have goesOn : ¬(((String.intercalate "/" (trimEnd above)).isEmpty ||
        (String.intercalate "/" (trimEnd above)).toList.getLast? = some '/') = true) := by
      rw [Bool.or_eq_true, decide_eq_true_eq, not_or, String.isEmpty_iff]
      exact ⟨fun empty => present (by rw [empty]; rfl), noSlash⟩
    rw [ofPieces_of_ne noRoot, join, if_neg goesOn,
      String.intercalate_append_of_ne_nil (trimEnd_ne_nil nonempty) (by simp), String.intercalate_singleton]

private theorem steps_ofPieces (nonempty : above ≠ []) (single : ∀ piece ∈ above, Single piece) :
    (ofPieces above).steps = stepsOfPieces above := by
  by_cases root : above = [""]
  · subst root
    decide
  · have pieces : (ofPieces above).pieces = above := by
      rw [ofPieces_of_ne root, pieces_intercalate nonempty single]
    rw [steps_eq (pieces.symm ▸ root), pieces]

/-- The parent of a path takes the steps before the name. -/
theorem IsNamed.exists_parent (named : IsNamed path above name) :
    ∃ parent, path.parent? = some parent ∧ parent.steps = stepsOfPieces above := by
  refine ⟨_, named.parent?_eq, ?_⟩
  by_cases nothing : above = []
  · rw [if_pos nothing, nothing]
    rfl
  · have single : ∀ piece ∈ trimEnd above, Single piece := fun piece member =>
      named.single piece (List.mem_append_left _ (mem_of_mem_trimEnd member))
    rw [if_neg nothing, steps_ofPieces (trimEnd_ne_nil nothing) single, stepsOfPieces_trimEnd]

/-! ## Lock files -/

theorem size_lockName (name : String) : (name ++ ".lock").utf8ByteSize = name.utf8ByteSize + 5 := by
  rw [String.utf8ByteSize_append]
  rfl

theorem lockName_ne (name : String) : name ++ ".lock" ≠ name := by
  intro same
  have longer := size_lockName name
  rw [same] at longer
  omega

/-- The pieces of a lock file: those of the directory that are left, and a longer name. -/
theorem IsNamed.pieces_lockFile (named : IsNamed path above name) :
    path.lockFile.pieces = trimEnd above ++ [name ++ ".lock"] := by
  have whole := named.single
  rw [List.forall_mem_append, List.forall_mem_singleton] at whole
  obtain ⟨aboveSingle, nameSingle⟩ := whole
  have single : ∀ piece ∈ trimEnd above ++ [name ++ ".lock"], Single piece := by
    rw [List.forall_mem_append, List.forall_mem_singleton]
    refine ⟨fun piece member => aboveSingle piece (mem_of_mem_trimEnd member), ?_⟩
    rw [Single, String.toList_append, List.mem_append, not_or]
    exact ⟨nameSingle, by decide⟩
  have text : path.lockFile = ⟨String.intercalate "/" (trimEnd above ++ [name ++ ".lock"])⟩ := by
    have present : path.fileName?.isSome = true := by rw [named.fileName?_eq]; rfl
    rw [lockFile, withFileName, if_pos present, named.parent?_eq, named.fileName?_eq, Option.getD_some,
      Option.getD_some]
    by_cases nothing : above = []
    · subst nothing
      rfl
    · rw [if_neg nothing, join_ofPieces nothing aboveSingle]
  rw [text, pieces_intercalate (by simp) single]

/-- A lock file ends with a longer name, behind the pieces of the directory. -/
theorem IsNamed.endsWith_lockFile (named : IsNamed path above name) :
    EndsWith path.lockFile (trimEnd above) (name ++ ".lock") := by
  have longer := size_lockName name
  have different (short : String) (size : short.utf8ByteSize ≤ 2) : name ++ ".lock" ≠ short := by
    intro same
    rw [same] at longer
    omega
  refine ⟨named.pieces_lockFile, ?_, different ".." (by decide)⟩
  simp [isIdle, different "" (by decide), different "." (by decide)]

namespace IsNamed

private theorem steps_lockFile (named : IsNamed path above name) :
    path.lockFile.steps = stepsOfPieces above ++ [.name (name ++ ".lock")] := by
  rw [named.endsWith_lockFile.isNamed.steps_eq, stepsOfPieces_trimEnd]

/-- A lock file has the same parent, also as a text. -/
theorem parent?_lockFile (named : IsNamed path above name) : path.lockFile.parent? = path.parent? := by
  rw [named.endsWith_lockFile.isNamed.parent?_eq, named.parent?_eq, trimEnd_trimEnd]
  by_cases nothing : above = []
  · subst nothing
    rfl
  · rw [if_neg nothing, if_neg (trimEnd_ne_nil nothing)]

end IsNamed

theorem same_iff : path.same other = true ↔ path.steps = other.steps :=
  decide_eq_true_iff

/-- Two outputs are one path exactly when their lock files are. -/
theorem same_lockFile_iff {otherName : String} (named : path.fileName? = some name)
    (otherNamed : other.fileName? = some otherName) :
    path.lockFile.same other.lockFile = true ↔ path.same other = true := by
  obtain ⟨above, named⟩ := exists_isNamed named
  obtain ⟨otherAbove, otherNamed⟩ := exists_isNamed otherNamed
  rw [same_iff, same_iff, named.steps_lockFile, otherNamed.steps_lockFile, named.steps_eq, otherNamed.steps_eq]
  simp only [List.append_singleton_inj, Step.name.injEq, String.append_left_inj]

/-- The lock file of a path is beside it, under its name with `.lock` appended. -/
theorem lockFile_beside (named : path.fileName? = some name) :
    path.lockFile.fileName? = some (name ++ ".lock") ∧
    (∃ parent, path.parent? = some parent ∧ path.lockFile.parent? = some parent ∧
      path.steps = parent.steps ++ [.name name] ∧
      path.lockFile.steps = parent.steps ++ [.name (name ++ ".lock")]) := by
  obtain ⟨above, named⟩ := exists_isNamed named
  obtain ⟨parent, found, steps⟩ := named.exists_parent
  refine ⟨named.endsWith_lockFile.isNamed.fileName?_eq, parent, found, named.parent?_lockFile.trans found, ?_, ?_⟩
  · rw [steps, named.steps_eq]
  · rw [steps, named.steps_lockFile]

private theorem not_same_lockFile (named : path.fileName? = some name) : path.lockFile.same path = false := by
  obtain ⟨_, parent, _, _, steps, lockSteps⟩ := lockFile_beside named
  rw [Bool.eq_false_iff, ne_eq, same_iff, steps, lockSteps, List.append_singleton_inj, Step.name.injEq]
  exact fun same => lockName_ne name same.2

/-- Each output has a lock file of its own, however its path is spelled. It stands in the directory of the output,
under the name of the output with `.lock` appended, and is not the output. -/
theorem one_lockFile_per_output :
    (∀ (path other : Path) (name otherName : String), path.fileName? = some name →
      other.fileName? = some otherName →
      (path.lockFile.same other.lockFile = true ↔ path.same other = true)) ∧
    (∀ (path : Path) (name : String), path.fileName? = some name →
      path.lockFile.fileName? = some (name ++ ".lock") ∧
      (∃ parent, path.parent? = some parent ∧ path.lockFile.parent? = some parent ∧
        path.steps = parent.steps ++ [.name name] ∧
        path.lockFile.steps = parent.steps ++ [.name (name ++ ".lock")]) ∧
      path.lockFile.same path = false) := by
  refine ⟨?_, ?_⟩
  · intro path other name otherName named otherNamed
    exact same_lockFile_iff named otherNamed
  · intro path name named
    obtain ⟨lockName, beside⟩ := lockFile_beside named
    exact ⟨lockName, beside, not_same_lockFile named⟩

/-- An output, spelled with pieces that do not count. -/
def strewnOutput : Path :=
  ⟨"data//catalog.json/."⟩

/-- The same output, spelled otherwise. -/
def pointedOutput : Path :=
  ⟨"data/./catalog.json"⟩

/-- An output of the same name in another directory. -/
def bareOutput : Path :=
  ⟨"catalog.json"⟩

/-- Two spellings of an output have one lock file, and an output of the same name elsewhere has another one. -/
theorem one_lockFile_per_output_respelled :
    (strewnOutput.fileName? = some "catalog.json" ∧ pointedOutput.fileName? = some "catalog.json" ∧
      bareOutput.fileName? = some "catalog.json") ∧
    strewnOutput.lockFile.same pointedOutput.lockFile = true ∧
    ¬pointedOutput.lockFile.same bareOutput.lockFile = true ∧
    strewnOutput.lockFile.fileName? = some "catalog.json.lock" ∧
    (∃ parent, strewnOutput.parent? = some parent ∧ strewnOutput.lockFile.parent? = some parent ∧
      strewnOutput.steps = parent.steps ++ [.name "catalog.json"] ∧
      strewnOutput.lockFile.steps = parent.steps ++ [.name "catalog.json.lock"]) ∧
    strewnOutput.lockFile.same strewnOutput = false := by
  obtain ⟨shared, beside⟩ := one_lockFile_per_output
  have strewn : strewnOutput.fileName? = some "catalog.json" := by decide
  have pointed : pointedOutput.fileName? = some "catalog.json" := by decide
  have bare : bareOutput.fileName? = some "catalog.json" := by decide
  obtain ⟨lockName, parents, differs⟩ := beside _ _ strewn
  refine ⟨⟨strewn, pointed, bare⟩, (shared _ _ _ _ strewn pointed).mpr (by decide), ?_, lockName, parents,
    differs⟩
  intro same
  have outputs := (shared _ _ _ _ pointed bare).mp same
  exact absurd outputs (by decide)

end Path

end RangeCatalog
