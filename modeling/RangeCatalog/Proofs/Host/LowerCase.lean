import Mathlib
import RangeCatalog.Host.Domain
import RangeCatalog.Proofs.Outcome

/-! # Lower case of host names

The form of a host name in ASCII has no upper-case letters. A part in ASCII has none because each of its
characters stands for itself, and a part that is encoded because the characters that it keeps do so too and
distances are written with lower-case digits.
-/

namespace RangeCatalog

/-- Whether a text has no upper-case letters of ASCII. -/
def LowerCase (chars : List Char) : Prop :=
  ∀ c ∈ chars, c.isUpper = false

namespace LowerCase

variable {chars more : List Char} {codes : List Nat}

theorem append (first : LowerCase chars) (second : LowerCase more) : LowerCase (chars ++ more) := by
  intro c member
  rcases List.mem_append.mp member with before | after
  · exact first c before
  · exact second c after

theorem intercalate {separator : String} {texts : List String} (plain : LowerCase separator.toList)
    (each : ∀ text ∈ texts, LowerCase text.toList) : LowerCase (String.intercalate separator texts).toList := by
  rw [String.toList_intercalate]
  induction texts with
  | nil => exact nofun
  | cons first rest ih =>
    have later : ∀ text ∈ rest, LowerCase text.toList := fun text member => each text (List.mem_cons_of_mem _ member)
    cases rest with
    | nil => simpa using each first List.mem_cons_self
    | cons second others =>
      rw [List.map_cons, List.map_cons, List.intercalate_cons_cons]
      have begun : LowerCase (first.toList ++ separator.toList) := (each first List.mem_cons_self).append plain
      exact begun.append (ih later)

/-- A code point of ASCII that stands for itself is no upper-case letter. -/
theorem map_ofNat (ascii : ∀ code ∈ codes, code < 0x80) (settled : ∀ code ∈ codes, Host.isSettled code = true) :
    LowerCase (codes.map Char.ofNat) := by
  have each : ∀ code < 0x80, Host.isSettled code = true → (Char.ofNat code).isUpper = false := by decide
  intro c member
  obtain ⟨code, among, rfl⟩ := List.mem_map.mp member
  exact each code (ascii code among) (settled code among)

theorem map_toLower (chars : List Char) : LowerCase (chars.map Char.toLower) := by
  intro c member
  obtain ⟨original, _, rfl⟩ := List.mem_map.mp member
  exact original.isUpper_toLower_eq_false

/-- Nothing happens to a text in lower case when it is put in lower case. -/
theorem toLower_eq {text : String} (lower : LowerCase text.toList) : text.toLower = text := by
  have same : ∀ c ∈ text.toList, c.toLower = c := by
    intro c member
    apply Char.toLower_eq_of_not_isUpper
    simp [lower c member]
  have mapped : text.toLower.toList = text.toList.map Char.toLower := String.toList_map
  rw [← String.toList_inj, mapped, List.map_congr_left same, List.map_id']

end LowerCase

/-! ## Encodings -/

namespace Punycode

variable {codes : List Nat} {encoder : Encoder}

private theorem isUpper_digitChar {digit : Nat} (small : digit < 36) : (digitChar digit).isUpper = false := by
  have each : ∀ digit < 36, (digitChar digit).isUpper = false := by decide
  exact each digit small

private theorem lowerCase_encodeDistance (bias position distance : Nat) :
    LowerCase (encodeDistance bias position distance) := by
  fun_induction encodeDistance bias position distance with
  | case1 position distance limit last =>
    have bound := threshold_le position bias
    intro c member
    rw [List.mem_singleton.mp member]
    exact isUpper_digitChar (by omega)
  | case2 position distance limit more ih =>
    have bound := threshold_le position bias
    have rest := Nat.mod_lt (distance - limit) (show 0 < 36 - limit by omega)
    intro c member
    rcases List.mem_cons.mp member with rfl | later
    · exact isUpper_digitChar (by omega)
    · exact ih c later

private theorem Encoder.lowerCase_pass {code other : Nat} (lower : LowerCase encoder.written) :
    LowerCase (encoder.pass code other).written := by
  rw [pass]
  split_ifs
  · exact lower
  · exact lower.append (lowerCase_encodeDistance _ _ _)
  · exact lower

private theorem Encoder.lowerCase_foldl_pass {code : Nat} (lower : LowerCase encoder.written) :
    LowerCase (codes.foldl (pass code) encoder).written := by
  induction codes generalizing encoder with
  | nil => exact lower
  | cons other rest ih => exact ih (lowerCase_pass lower)

private theorem Encoder.lowerCase_foldl_write {others : List Nat} {state : Encoder × Nat}
    (lower : LowerCase state.1.written) : LowerCase (others.foldl (write codes) state).1.written := by
  induction others generalizing state with
  | nil => exact lower
  | cons code rest ih => exact ih (lowerCase_foldl_pass (by exact lower))

/-- The encoding of settled characters is in lower case. -/
theorem lowerCase_encode (settled : ∀ code ∈ codes, Host.isSettled code = true) : LowerCase (encode codes) := by
  apply Encoder.lowerCase_foldl_write
  apply LowerCase.append
  · apply LowerCase.map_ofNat
    · intro code member
      exact of_decide_eq_true (List.mem_filter.mp member).2
    · intro code member
      exact settled code (List.mem_of_mem_filter member)
  · split
    · exact nofun
    · simp [LowerCase]

end Punycode

/-! ## Names -/

namespace Host

open Unicode

private theorem lowerCase_ofCodes? {codes : List Nat} {part : Part} (read : Part.ofCodes? codes = some part) :
    LowerCase part.ascii := by
  rw [Part.ofCodes?] at read
  split at read
  · contradiction
  · rename_i accepted
    have settled : ∀ code ∈ codes, isSettled code = true := by simpa using accepted
    have asItIs (ascii : codes.all (· < 0x80) = true) : LowerCase (codes.map Char.ofNat) := by
      apply LowerCase.map_ofNat
      · simpa using ascii
      · exact settled
    have mark : LowerCase "xn--".toList := by simp [LowerCase]
    split at read
    · split at read
      · rename_i ascii
        obtain ⟨decoded, _, rfl⟩ := Option.map_eq_some_iff.mp read
        exact asItIs ascii
      · contradiction
    · split at read
      · rename_i ascii
        obtain rfl := Option.some.inj read
        exact asItIs ascii
      · obtain rfl := Option.some.inj read
        exact mark.append (Punycode.lowerCase_encode settled)

/-- The form of a name in ASCII is in lower case. -/
theorem lowerCase_toAscii? {octets : List UInt8} {name : String} (read : toAscii? octets = some name) :
    LowerCase name.toList := by
  simp only [toAscii?, bind, Option.bind_eq_some_iff] at read
  obtain ⟨text, _, mapped, _, read⟩ := read
  generalize (if mapped.flatten.all (· < 0x80) then mapped.flatten else normalize mapped.flatten) = codes at read
  split at read
  · contradiction
  · obtain ⟨parts, reading, read⟩ := Option.bind_eq_some_iff.mp read
    split at read
    · obtain rfl := Option.some.inj read
      apply LowerCase.intercalate
      · simp [LowerCase]
      · intro text member
        obtain ⟨part, among, rfl⟩ := List.mem_map.mp member
        obtain ⟨piece, _, read⟩ := exists_of_mem_mapM reading among
        rw [String.toList_ofList]
        exact lowerCase_ofCodes? read
    · contradiction

end Host

end RangeCatalog
