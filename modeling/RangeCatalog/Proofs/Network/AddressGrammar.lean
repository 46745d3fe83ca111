import Mathlib.Data.List.Forall2
import Mathlib.Tactic.SplitIfs
import RangeCatalog.Network.AddressText
import RangeCatalog.Proofs.Outcome
import RangeCatalog.Proofs.Text.Numeral

/-! # The texts of a grammar

Which texts a grammar has for an address, said without a reader: numerals, four octets with points between them,
and runs of groups with at most one gap. The readers find such a text at the start of what they are given, and
they find each of them that is not followed by something that could go on with it.
-/

namespace RangeCatalog

namespace AddressGrammar

variable {grammar : AddressGrammar}

/-! ## Numerals and octets -/

/-- A text of one to `most` digits for a number below `bound`. -/
structure Numeral (radix most bound : Nat) (text : List Char) (number : Nat) : Prop where
  digits : ∃ digits, DigitText radix text digits ∧ numberOfDigits radix digits = number
  present : text ≠ []
  short : text.length ≤ most
  inside : number < bound

theorem Numeral.not_mem {radix most bound number : Nat} {text : List Char}
    (numeral : Numeral radix most bound text number) {c : Char} (other : digitValue? radix c = none) :
    c ∉ text := by
  obtain ⟨_, spelled, _⟩ := numeral.digits
  exact spelled.not_mem other

theorem readNumber_eq_some_iff {radix most bound number : Nat} {chars rest : List Char} :
    readNumber radix most bound chars = some (number, rest) ↔
      ∃ text, chars = text ++ rest ∧ Numeral radix most bound text number ∧ EndsDigits radix rest := by
  constructor
  · intro read
    obtain ⟨text, same, spelled, ends⟩ := spanDigits_eq_iff.mp (rfl : spanDigits radix chars = (_, _))
    have length := spelled.length_eq
    simp only [readNumber] at read
    split_ifs at read with refused
    obtain ⟨rfl, rfl⟩ := Prod.mk.inj (Option.some.inj read)
    rw [not_or, not_or, List.isEmpty_iff, ← List.length_eq_zero_iff] at refused
    obtain ⟨present, short, inside⟩ := refused
    refine ⟨text, same, ⟨⟨_, spelled, rfl⟩, ?_, by omega, by omega⟩, ends⟩
    rintro rfl
    exact present length.symm
  · rintro ⟨text, rfl, ⟨⟨digits, spelled, rfl⟩, present, short, inside⟩, ends⟩
    have length := spelled.length_eq
    have accepted : ¬(digits.isEmpty = true ∨ most < digits.length ∨ bound ≤ numberOfDigits radix digits) := by
      rw [not_or, not_or, List.isEmpty_iff, ← List.length_eq_zero_iff, ← length, List.length_eq_zero_iff]
      exact ⟨present, by omega, by omega⟩
    simp only [readNumber, spanDigits_eq_iff.mpr ⟨text, rfl, spelled, ends⟩, if_neg accepted]

theorem Numeral.readNumber {radix most bound number : Nat} {text : List Char}
    (numeral : Numeral radix most bound text number) : readNumber radix most bound text = some (number, []) :=
  readNumber_eq_some_iff.mpr ⟨text, (List.append_nil text).symm, numeral, endsDigits_nil radix⟩

theorem Numeral.number_eq {radix most bound first second : Nat} {text : List Char}
    (numeral : Numeral radix most bound text first) (other : Numeral radix most bound text second) :
    first = second := by
  have same := numeral.readNumber.symm.trans other.readNumber
  exact congrArg Prod.fst (Option.some.inj same)

private theorem readNumber_of_endsDigits {radix most bound : Nat} {rest : List Char}
    (ends : EndsDigits radix rest) : readNumber radix most bound rest = none := by
  simp [readNumber, spanDigits_of_endsDigits ends]

/-- Whether a numeral has a zero before its other digits. -/
def Padded (text : List Char) : Prop :=
  1 < text.length ∧ text.head? = some '0'

instance (text : List Char) : Decidable (Padded text) :=
  inferInstanceAs (Decidable (_ ∧ _))

/-- A text of an octet. -/
structure Octet (grammar : AddressGrammar) (text : List Char) (number : Nat) : Prop
    extends Numeral 10 3 256 text number where
  padded : Padded text → grammar.paddedOctets = true

theorem readOctet_eq_some_iff {number : Nat} {chars rest : List Char} :
    readOctet grammar chars = some (number, rest) ↔
      ∃ text, chars = text ++ rest ∧ Octet grammar text number ∧ EndsDigits 10 rest := by
  have condition {text : List Char} (present : text ≠ []) :
      (grammar.paddedOctets = true ∨ (text ++ rest).length - rest.length ≤ 1 ∨
        (text ++ rest).head? ≠ some '0') ↔ (Padded text → grammar.paddedOctets = true) := by
    have length : (text ++ rest).length - rest.length = text.length := by simp
    rw [length, List.head?_append_of_ne_nil _ present, Padded, imp_iff_not_or, not_and_or, Nat.not_lt, or_comm]
  simp only [readOctet, Option.bind_eq_bind, Option.bind_eq_some_iff]
  constructor
  · rintro ⟨⟨found, after⟩, read, kept⟩
    obtain ⟨text, rfl, numeral, ends⟩ := readNumber_eq_some_iff.mp read
    split_ifs at kept with allowed
    obtain ⟨rfl, rfl⟩ := Prod.mk.inj (Option.some.inj kept)
    exact ⟨text, rfl, ⟨numeral, (condition numeral.present).mp allowed⟩, ends⟩
  · rintro ⟨text, rfl, ⟨numeral, allowed⟩, ends⟩
    refine ⟨(number, rest), readNumber_eq_some_iff.mpr ⟨text, rfl, numeral, ends⟩, ?_⟩
    rw [if_pos ((condition numeral.present).mpr allowed)]

/-! ## Dotted addresses -/

theorem afterSeparator_eq_some_iff {separator : Char} {chars body : List Char} :
    afterSeparator separator false chars = some body ↔ chars = separator :: body := by
  cases chars with
  | nil => simp [afterSeparator]
  | cons c rest => simp [afterSeparator]

/-- A text of four octets with points between them. -/
def Dotted (grammar : AddressGrammar) (text : List Char) (number : Nat) : Prop :=
  ∃ octets numbers, octets.length = 4 ∧ text = ['.'].intercalate octets ∧
    List.Forall₂ (Octet grammar) octets numbers ∧ numberOfDigits 256 numbers = number

private theorem readOctets_succ_iff {first : Bool} {start count : Nat} {chars : List Char}
    {result : Nat × List Char} :
    readOctets grammar first start (count + 1) chars = some result ↔
      ∃ text octet rest, afterSeparator '.' first chars = some (text ++ rest) ∧ Octet grammar text octet ∧
        EndsDigits 10 rest ∧ readOctets grammar false (start * 256 + octet) count rest = some result := by
  simp only [readOctets, Option.bind_eq_bind, Option.bind_eq_some_iff]
  constructor
  · rintro ⟨body, separated, ⟨octet, rest⟩, read, others⟩
    obtain ⟨text, rfl, spelled, ends⟩ := readOctet_eq_some_iff.mp read
    exact ⟨text, octet, rest, separated, spelled, ends, others⟩
  · rintro ⟨text, octet, rest, separated, spelled, ends, others⟩
    exact ⟨_, separated, (octet, rest), readOctet_eq_some_iff.mpr ⟨text, rfl, spelled, ends⟩, others⟩

theorem readOctets_eq_some_iff {first : Bool} {start count number : Nat} {chars rest : List Char} :
    readOctets grammar first start (count + 1) chars = some (number, rest) ↔
      ∃ octets numbers, octets.length = count + 1 ∧
        afterSeparator '.' first chars = some (['.'].intercalate octets ++ rest) ∧
        List.Forall₂ (Octet grammar) octets numbers ∧
        numbers.foldl (fun number octet => number * 256 + octet) start = number ∧ EndsDigits 10 rest := by
  induction count generalizing first start chars with
  | zero =>
    rw [readOctets_succ_iff]
    constructor
    · rintro ⟨text, octet, rest, separated, spelled, ends, done⟩
      cases done
      refine ⟨[text], [octet], rfl, ?_, .cons spelled .nil, rfl, ends⟩
      rw [List.intercalate_singleton]
      exact separated
    · rintro ⟨octets, numbers, one, separated, spelled, rfl, ends⟩
      obtain ⟨text, rfl⟩ := List.length_eq_one_iff.mp one
      obtain ⟨octet, _, first, none, rfl⟩ := List.forall₂_cons_left_iff.mp spelled
      cases none
      rw [List.intercalate_singleton] at separated
      exact ⟨text, octet, rest, separated, first, ends, rfl⟩
  | succ count ih =>
    rw [readOctets_succ_iff]
    constructor
    · rintro ⟨text, octet, after, separated, spelled, _, others⟩
      obtain ⟨octets, numbers, length, following, others, total, ended⟩ := ih.mp others
      have some : octets ≠ [] := List.ne_nil_of_length_eq_add_one length
      rw [afterSeparator_eq_some_iff.mp following] at separated
      refine ⟨text :: octets, octet :: numbers, congrArg (· + 1) length, ?_, .cons spelled others, total, ended⟩
      rw [List.intercalate_cons_of_ne_nil some, separated]
      simp
    · rintro ⟨octets, numbers, length, separated, spelled, total, ends⟩
      obtain ⟨text, octets, rfl⟩ := List.exists_cons_of_ne_nil (List.ne_nil_of_length_eq_add_one length)
      obtain ⟨octet, numbers, first, others, rfl⟩ := List.forall₂_cons_left_iff.mp spelled
      have rest_length : octets.length = count + 1 := Nat.succ.inj length
      have some : octets ≠ [] := List.ne_nil_of_length_eq_add_one rest_length
      refine ⟨text, octet, '.' :: (['.'].intercalate octets ++ rest), ?_, first, ?_, ih.mpr ?_⟩
      · rw [separated, List.intercalate_cons_of_ne_nil some]
        simp
      · simp [digitValue?]
      · exact ⟨octets, numbers, rest_length, afterSeparator_eq_some_iff.mpr rfl, others, total, ends⟩

theorem readDotted_eq_some_iff {number : Nat} {chars rest : List Char} :
    readDotted grammar chars = some (number, rest) ↔
      ∃ text, chars = text ++ rest ∧ Dotted grammar text number ∧ EndsDigits 10 rest := by
  rw [readDotted, readOctets_eq_some_iff]
  constructor
  · rintro ⟨octets, numbers, four, same, spelled, total, ends⟩
    exact ⟨_, Option.some.inj same, ⟨octets, numbers, four, rfl, spelled, total⟩, ends⟩
  · rintro ⟨_, rfl, ⟨octets, numbers, four, rfl, spelled, total⟩, ends⟩
    exact ⟨octets, numbers, four, rfl, spelled, total, ends⟩

/-! ## Where a text ends -/

/-- A text after a group: neither another digit of the group nor a point. -/
def EndsGroup (rest : List Char) : Prop :=
  ∀ c ∈ rest.head?, digitValue? 16 c = none ∧ c ≠ '.'

@[simp]
private theorem endsGroup_nil : EndsGroup [] := by
  simp [EndsGroup]

@[simp]
private theorem endsGroup_cons (c : Char) (rest : List Char) :
    EndsGroup (c :: rest) ↔ digitValue? 16 c = none ∧ c ≠ '.' := by
  simp [EndsGroup]

private theorem EndsGroup.endsDigits {radix : Nat} (known : radix ≤ 16) {rest : List Char}
    (ends : EndsGroup rest) : EndsDigits radix rest :=
  fun c member => digitValue?_eq_none known (ends c member).1

/-- A text after a run of groups: not even a separator with another group behind it follows. -/
structure EndsGroups (rest : List Char) : Prop where
  group : EndsGroup rest
  separator : ∀ body, rest = ':' :: body → EndsGroup body

theorem endsGroups_nil : EndsGroups [] where
  group := endsGroup_nil
  separator body same := by contradiction

private theorem endsGroups_gap (rest : List Char) : EndsGroups (':' :: ':' :: rest) where
  group := by simp [digitValue?]
  separator body same := by
    rw [List.cons.injEq] at same
    rw [← same.2, endsGroup_cons]
    exact ⟨by decide, by decide⟩

theorem endsGroups_slash (rest : List Char) : EndsGroups ('/' :: rest) where
  group := by simp [digitValue?]
  separator body same := by simp at same

/-! ## Runs of groups -/

/-- Groups with colons between them, of which the last two may be written as a dotted address. -/
inductive Run (grammar : AddressGrammar) : List Char → List Nat → Bool → Prop where
  | dotted {text : List Char} {number : Nat} (spelled : Dotted grammar text number) :
      Run grammar text [number / 65536, number % 65536] true
  | last {text : List Char} {group : Nat} (numeral : Numeral 16 4 65536 text group) :
      Run grammar text [group] false
  | more {text tail : List Char} {group : Nat} {values : List Nat} {dotted : Bool}
      (numeral : Numeral 16 4 65536 text group) (others : Run grammar tail values dotted) :
      Run grammar (text ++ ':' :: tail) (group :: values) dotted

/-- A run of groups, or nothing. -/
def Part (grammar : AddressGrammar) (text : List Char) (values : List Nat) (dotted : Bool) : Prop :=
  text = [] ∧ values = [] ∧ dotted = false ∨ Run grammar text values dotted

/-- What is read is a run at the start of the text, or nothing at all. -/
theorem readGroups_found (limit : Nat) (first : Bool) (chars : List Char) :
    readGroups grammar limit first chars = ⟨[], false, chars⟩ ∨
      ∃ text values dotted rest, readGroups grammar limit first chars = ⟨values, dotted, rest⟩ ∧
        afterSeparator ':' first chars = some (text ++ rest) ∧ Run grammar text values dotted ∧
        values.length ≤ limit := by
  induction limit generalizing first chars with
  | zero => exact .inl rfl
  | succ limit ih =>
    rw [readGroups]
    cases separated : afterSeparator ':' first chars with
    | none => exact .inl rfl
    | some body =>
      simp only [Option.bind_some]
      cases whole : (if 0 < limit then readDotted grammar body else none) with
      | some found =>
        obtain ⟨number, rest⟩ := found
        split_ifs at whole with room
        obtain ⟨text, rfl, spelled, _⟩ := readDotted_eq_some_iff.mp whole
        exact .inr ⟨text, _, true, rest, rfl, rfl, .dotted spelled, Nat.succ_le_succ room⟩
      | none =>
        cases read : readNumber 16 4 65536 body with
        | none => exact .inl rfl
        | some found =>
          obtain ⟨group, rest⟩ := found
          obtain ⟨text, rfl, numeral, _⟩ := readNumber_eq_some_iff.mp read
          rcases ih false rest with nothing | ⟨tail, values, dotted, after, others, following, run, short⟩
          · refine .inr ⟨text, [group], false, rest, ?_, rfl, .last numeral, Nat.succ_le_succ (Nat.zero_le _)⟩
            simp only [nothing]
          · obtain rfl := afterSeparator_eq_some_iff.mp following
            refine .inr ⟨text ++ ':' :: tail, group :: values, dotted, after, ?_, by simp, .more numeral run,
              Nat.succ_le_succ short⟩
            simp only [others]

private theorem readGroups_part (grammar : AddressGrammar) (limit : Nat) (chars : List Char) :
    ∃ text values dotted rest, readGroups grammar limit true chars = ⟨values, dotted, rest⟩ ∧
      chars = text ++ rest ∧ Part grammar text values dotted ∧ values.length ≤ limit := by
  rcases readGroups_found limit true chars with nothing | ⟨text, values, dotted, rest, found, same, run, short⟩
  · exact ⟨[], [], false, chars, nothing, rfl, .inl ⟨rfl, rfl, rfl⟩, Nat.zero_le _⟩
  · exact ⟨text, values, dotted, rest, found, Option.some.inj same, .inr run, short⟩

/-- A group is no dotted address, since no point follows it. -/
theorem readDotted_of_endsGroup {text rest : List Char} (plain : '.' ∉ text) (ends : EndsGroup rest) :
    readDotted grammar (text ++ rest) = none := by
  rw [Option.eq_none_iff_forall_ne_some]
  rintro ⟨number, after⟩ read
  obtain ⟨_, same, ⟨octets, numbers, four, rfl, spelled, _⟩, _⟩ := readDotted_eq_some_iff.mp read
  obtain ⟨first, octets, rfl⟩ := List.exists_cons_of_ne_nil (List.ne_nil_of_length_eq_add_one four)
  obtain ⟨_, _, octet, _, rfl⟩ := List.forall₂_cons_left_iff.mp spelled
  obtain ⟨_, digits, _⟩ := octet.digits
  have some : octets ≠ [] := List.ne_nil_of_length_eq_add_one (Nat.succ.inj four)
  rw [List.intercalate_cons_of_ne_nil some, List.append_assoc, List.append_assoc, List.singleton_append] at same
  rcases List.append_eq_append_iff.mp same with ⟨middle, rfl, later⟩ | ⟨middle, rfl, later⟩
  · -- The digits of the first octet reach the end of the group.
    cases middle with
    | nil =>
      rw [later, List.nil_append, endsGroup_cons] at ends
      exact ends.2 rfl
    | cons c middle =>
      rw [later, List.cons_append, endsGroup_cons] at ends
      exact digits.not_mem (digitValue?_eq_none (by decide) ends.1) (by simp)
  · -- They stop before it, and a point stands in the group.
    cases middle with
    | nil =>
      rw [List.nil_append] at later
      rw [← later, endsGroup_cons] at ends
      exact ends.2 rfl
    | cons c middle =>
      obtain ⟨rfl, _⟩ := List.cons.inj later
      exact plain (by simp)

private theorem readGroups_end {limit : Nat} {first : Bool} {chars : List Char}
    (ends : ∀ body, afterSeparator ':' first chars = some body → EndsGroup body) :
    readGroups grammar limit first chars = ⟨[], false, chars⟩ := by
  cases limit with
  | zero => rfl
  | succ limit =>
    rw [readGroups]
    cases separated : afterSeparator ':' first chars with
    | none => rfl
    | some body =>
      have notDotted : readDotted grammar body = none :=
        readDotted_of_endsGroup List.not_mem_nil (ends body separated)
      have noGroup : readNumber 16 4 65536 body = none :=
        readNumber_of_endsDigits ((ends body separated).endsDigits (by decide))
      simp only [Option.bind_some, notDotted, ite_self, noGroup]

private theorem readGroups_group {limit group : Nat} {text : List Char}
    (numeral : Numeral 16 4 65536 text group) {first : Bool} {chars rest : List Char} (ends : EndsGroup rest)
    (separated : afterSeparator ':' first chars = some (text ++ rest)) :
    readGroups grammar (limit + 1) first chars =
      ⟨group :: (readGroups grammar limit false rest).values,
        (readGroups grammar limit false rest).dotted, (readGroups grammar limit false rest).rest⟩ := by
  have notDotted : readDotted grammar (text ++ rest) = none :=
    readDotted_of_endsGroup (numeral.not_mem (by decide)) ends
  have found : readNumber 16 4 65536 (text ++ rest) = some (group, rest) :=
    readNumber_eq_some_iff.mpr ⟨text, rfl, numeral, ends.endsDigits (Nat.le_refl 16)⟩
  rw [readGroups]
  simp only [separated, Option.bind_some, notDotted, ite_self, found]

private theorem exists_pred {values : List Nat} {group limit : Nat} (room : (group :: values).length ≤ limit) :
    ∃ less, limit = less + 1 ∧ values.length ≤ less := by
  rw [List.length_cons] at room
  exact ⟨limit - 1, by omega, by omega⟩

/-- A run is read as far as it goes. -/
theorem readGroups_of_run {text rest : List Char} {values : List Nat} {dotted : Bool}
    (run : Run grammar text values dotted) (ends : EndsGroups rest) {limit : Nat} (room : values.length ≤ limit)
    {first : Bool} {chars : List Char} (separated : afterSeparator ':' first chars = some (text ++ rest)) :
    readGroups grammar limit first chars = ⟨values, dotted, rest⟩ := by
  induction run generalizing limit first chars with
  | @dotted text number spelled =>
    have read : readDotted grammar (text ++ rest) = some (number, rest) :=
      readDotted_eq_some_iff.mpr ⟨text, rfl, spelled, ends.group.endsDigits (by decide)⟩
    obtain ⟨limit, rfl, two⟩ := exists_pred room
    have more : 0 < limit := two
    rw [readGroups]
    simp only [separated, Option.bind_some, more, if_true, read]
  | last numeral =>
    have after (limit : Nat) : readGroups grammar limit false rest = ⟨[], false, rest⟩ :=
      readGroups_end fun body following => ends.separator body (afterSeparator_eq_some_iff.mp following)
    obtain ⟨limit, rfl, _⟩ := exists_pred room
    rw [readGroups_group numeral ends.group separated, after]
  | @more text tail group values dotted numeral others ih =>
    have colon : EndsGroup (':' :: (tail ++ rest)) := by simp [digitValue?]
    obtain ⟨limit, rfl, short⟩ := exists_pred room
    rw [List.append_assoc, List.cons_append] at separated
    rw [readGroups_group numeral colon separated, ih short rfl]

private theorem readGroups_of_part {text rest : List Char} {values : List Nat} {dotted : Bool}
    (part : Part grammar text values dotted) (ends : EndsGroups rest) {limit : Nat}
    (room : values.length ≤ limit) :
    readGroups grammar limit true (text ++ rest) = ⟨values, dotted, rest⟩ := by
  rcases part with ⟨rfl, rfl, rfl⟩ | run
  · apply readGroups_end
    rintro _ ⟨⟩
    exact ends.group
  · exact readGroups_of_run run ends room rfl

/-! ## Version 6 -/

/-- A text of eight groups, or of fewer with a gap between two parts. -/
inductive Grouped (grammar : AddressGrammar) : List Char → Nat → Prop where
  | whole {text : List Char} {values : List Nat} {dotted : Bool} (run : Run grammar text values dotted)
      (eight : values.length = 8) : Grouped grammar text (numberOfGroups values)
  | gap {head tail : List Char} {values others : List Nat} {dotted : Bool}
      (before : Part grammar head values false) (behind : Part grammar tail others dotted)
      (missing : values.length < 8) (room : values.length + others.length + grammar.gap ≤ 8) :
      Grouped grammar (head ++ ':' :: ':' :: tail)
        (numberOfGroups (values ++ List.replicate (8 - values.length - others.length) 0 ++ others))

private theorem exists_grouped_of_readGrouped (narrow : grammar.gap ≤ 1) {chars rest : List Char} {number : Nat}
    (read : readGrouped grammar chars = some (number, rest)) :
    ∃ text, chars = text ++ rest ∧ Grouped grammar text number := by
  obtain ⟨head, values, dotted, after, found, rfl, before, most⟩ := readGroups_part grammar 8 chars
  simp only [readGrouped, found] at read
  split_ifs at read with eight mapped
  · obtain ⟨rfl, rfl⟩ := Prod.mk.inj (Option.some.inj read)
    rcases before with ⟨_, rfl, _⟩ | run
    · contradiction
    · exact ⟨head, rfl, .whole run eight⟩
  · rw [Bool.not_eq_true] at mapped
    subst mapped
    split at read
    · rename_i behind
      obtain ⟨tail, others, dotted, last, foundTail, rfl, behind, short⟩ :=
        readGroups_part grammar (8 - (values.length + grammar.gap)) behind
      simp only [foundTail, Option.some.injEq, Prod.mk.injEq] at read
      obtain ⟨rfl, rfl⟩ := read
      exact ⟨head ++ ':' :: ':' :: tail, by simp, .gap before behind (by omega) (by omega)⟩
    · contradiction

private theorem readGrouped_of_grouped {text rest : List Char} {number : Nat}
    (spelled : Grouped grammar text number) (ends : EndsGroups rest) :
    readGrouped grammar (text ++ rest) = some (number, rest) := by
  cases spelled with
  | whole run eight =>
    have found := readGroups_of_part (.inr run) ends (Nat.le_of_eq eight)
    simp only [readGrouped, found, if_pos eight]
  | @gap head tail values others dotted before behind missing room =>
    have found := readGroups_of_part before (endsGroups_gap (tail ++ rest)) (Nat.le_of_lt missing)
    have foundTail : readGroups grammar (8 - (values.length + grammar.gap)) true (tail ++ rest) =
        ⟨others, dotted, rest⟩ := readGroups_of_part behind ends (by omega)
    rw [List.append_assoc, List.cons_append, List.cons_append]
    simp only [readGrouped, found, if_neg (Nat.ne_of_lt missing), Bool.false_eq_true, if_false, foundTail]

/-! ## Addresses -/

/-- The texts that a grammar has for the numbers of a family. -/
def Denotes (grammar : AddressGrammar) : Family → List Char → Nat → Prop
  | .v4 => Dotted grammar
  | .v6 => Grouped grammar

/-- The texts that a grammar has for an address. -/
def Spells (grammar : AddressGrammar) (text : List Char) (address : Address) : Prop :=
  ∃ number, Denotes grammar address.family text number ∧ Address.ofNat address.family number = address

/-- What is read as an address is a text of the grammar. -/
theorem exists_spells_of_readAddress (narrow : grammar.gap ≤ 1) {family : Family} {chars rest : List Char}
    {address : Address} (read : grammar.readAddress family chars = some (address, rest)) :
    ∃ text, chars = text ++ rest ∧ address.family = family ∧ grammar.Spells text address := by
  obtain ⟨⟨number, after⟩, found, same⟩ := Option.map_eq_some_iff.mp read
  obtain ⟨rfl, rfl⟩ := Prod.mk.inj same
  cases family with
  | v4 =>
    obtain ⟨text, rfl, spelled, _⟩ := readDotted_eq_some_iff.mp found
    exact ⟨text, rfl, rfl, number, spelled, rfl⟩
  | v6 =>
    obtain ⟨text, rfl, spelled⟩ := exists_grouped_of_readGrouped narrow found
    exact ⟨text, rfl, rfl, number, spelled, rfl⟩

/-- A text of the grammar is read as its address, up to where it ends. -/
theorem readAddress_of_spells {text rest : List Char} {address : Address}
    (spelled : grammar.Spells text address) (ends : EndsGroups rest) :
    grammar.readAddress address.family (text ++ rest) = some (address, rest) := by
  obtain ⟨number, denoted, same⟩ := spelled
  refine Option.map_eq_some_iff.mpr ⟨(number, rest), ?_, by simp only [same]⟩
  cases family : address.family with
  | v4 =>
    rw [family] at denoted
    exact readDotted_eq_some_iff.mpr ⟨text, rfl, denoted, ends.group.endsDigits (by decide)⟩
  | v6 =>
    rw [family] at denoted
    exact readGrouped_of_grouped denoted ends

/-! ## What a text consists of -/

private theorem mem_intercalate {separator c : Char} {pieces : List (List Char)}
    (member : c ∈ [separator].intercalate pieces) : c = separator ∨ ∃ piece ∈ pieces, c ∈ piece := by
  induction pieces with
  | nil => simp at member
  | cons piece others ih =>
    by_cases some : others = []
    · subst some
      rw [List.intercalate_singleton] at member
      exact .inr ⟨piece, List.mem_cons_self, member⟩
    · rw [List.intercalate_cons_of_ne_nil some, List.append_assoc, List.singleton_append, List.mem_append,
        List.mem_cons] at member
      rcases member with here | rfl | later
      · exact .inr ⟨piece, List.mem_cons_self, here⟩
      · exact .inl rfl
      · rcases ih later with same | ⟨other, among, inside⟩
        · exact .inl same
        · exact .inr ⟨other, List.mem_cons_of_mem _ among, inside⟩

theorem Dotted.not_mem {text : List Char} {number : Nat} (spelled : Dotted grammar text number) {c : Char}
    (noDigit : digitValue? 10 c = none) (noPoint : c ≠ '.') : c ∉ text := by
  obtain ⟨octets, numbers, _, rfl, all, _⟩ := spelled
  intro member
  rcases mem_intercalate member with rfl | ⟨octet, among, inside⟩
  · contradiction
  · obtain ⟨_, _, isOctet⟩ := exists_of_mem_right all.flip among
    exact isOctet.not_mem noDigit inside

private theorem Run.not_mem {text : List Char} {values : List Nat} {dotted : Bool}
    (run : Run grammar text values dotted) {c : Char} (noDigit : digitValue? 16 c = none) (noPoint : c ≠ '.')
    (noColon : c ≠ ':') : c ∉ text := by
  induction run with
  | dotted spelled => exact spelled.not_mem (digitValue?_eq_none (by decide) noDigit) noPoint
  | last numeral => exact numeral.not_mem noDigit
  | more numeral _ ih =>
    rw [List.mem_append, List.mem_cons, not_or, not_or]
    exact ⟨numeral.not_mem noDigit, noColon, ih⟩

private theorem Part.not_mem {text : List Char} {values : List Nat} {dotted : Bool}
    (part : Part grammar text values dotted) {c : Char} (noDigit : digitValue? 16 c = none) (noPoint : c ≠ '.')
    (noColon : c ≠ ':') : c ∉ text := by
  rcases part with ⟨rfl, _, _⟩ | run
  · exact List.not_mem_nil
  · exact run.not_mem noDigit noPoint noColon

/-- Addresses are written with digits, points and colons. -/
theorem Spells.not_mem {text : List Char} {address : Address} (spelled : grammar.Spells text address) {c : Char}
    (noDigit : digitValue? 16 c = none) (noPoint : c ≠ '.') (noColon : c ≠ ':') : c ∉ text := by
  obtain ⟨number, denoted, _⟩ := spelled
  cases family : address.family with
  | v4 =>
    rw [family] at denoted
    exact Dotted.not_mem denoted (digitValue?_eq_none (by decide) noDigit) noPoint
  | v6 =>
    rw [family] at denoted
    cases denoted with
    | whole run _ => exact run.not_mem noDigit noPoint noColon
    | gap before behind _ _ =>
      simp only [List.mem_append, List.mem_cons, not_or]
      exact ⟨before.not_mem noDigit noPoint noColon, noColon, noColon, behind.not_mem noDigit noPoint noColon⟩

private theorem Grouped.mem_colon {text : List Char} {number : Nat} (spelled : Grouped grammar text number) :
    ':' ∈ text := by
  cases spelled with
  | whole run eight =>
    cases run with
    | dotted => simp at eight
    | last => simp at eight
    | more => simp
  | gap => simp

/-- No text is an address of both families, not even in two grammars. -/
theorem Spells.family_eq {other : AddressGrammar} {text : List Char} {first second : Address}
    (spelled : grammar.Spells text first) (spelledOther : other.Spells text second) :
    first.family = second.family := by
  have apart {grammar other : AddressGrammar} {number number' : Nat} (dotted : Dotted grammar text number)
      (grouped : Grouped other text number') : False :=
    dotted.not_mem (by decide) (by decide) grouped.mem_colon
  obtain ⟨number, denoted, _⟩ := spelled
  obtain ⟨number', denoted', _⟩ := spelledOther
  cases family : first.family with
  | v4 =>
    cases family' : second.family with
    | v4 => rfl
    | v6 =>
      rw [family] at denoted
      rw [family'] at denoted'
      exact (apart denoted denoted').elim
  | v6 =>
    cases family' : second.family with
    | v4 =>
      rw [family] at denoted
      rw [family'] at denoted'
      exact (apart denoted' denoted).elim
    | v6 => rfl

end AddressGrammar

end RangeCatalog
