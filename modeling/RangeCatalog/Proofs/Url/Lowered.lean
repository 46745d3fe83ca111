import RangeCatalog.Proofs.Host.LowerCase
import RangeCatalog.Proofs.Text.Numeral
import RangeCatalog.Url.Reader

/-! # Case of schemes and hosts

However a URL is spelled, its scheme has no upper-case letters once it is read, and neither has its host when
the scheme is special, which is never empty then but in URLs of files. To compare them without regard to case
is to compare them. References keep this, as they replace a host by one that is read or leave it.
-/

namespace RangeCatalog

/-! ## Addresses -/

theorem lowerCase_toDigits {radix : Nat} (base : 1 < radix) (bound : radix ≤ 16) (number : Nat) :
    LowerCase (Nat.toDigits radix number) := by
  have each : ∀ digit < 16, (Nat.digitChar digit).isUpper = false := by decide
  intro c member
  rw [toDigits_eq_map_digitsOf base] at member
  obtain ⟨digit, among, rfl⟩ := List.mem_map.mp member
  have small := lt_of_mem_digitsOf base among
  exact each digit (by omega)

theorem lowerCase_decimal (number : Nat) : LowerCase (decimal number).toList := by
  rw [decimal, String.toList_ofList]
  exact lowerCase_toDigits (by decide) (by decide) number

private theorem lowerCase_dottedText (value : Nat) : LowerCase (Address.dottedText value).toList := by
  have point : LowerCase ".".toList := by simp [LowerCase]
  simp only [Address.dottedText, String.toList_append]
  exact (((((((lowerCase_decimal _).append point).append (lowerCase_decimal _)).append point).append
    (lowerCase_decimal _)).append point).append (lowerCase_decimal _))

private theorem lowerCase_groupsText (values : List Nat) : LowerCase (Address.groupsText values).toList := by
  apply LowerCase.intercalate (by simp [LowerCase])
  intro text member
  obtain ⟨value, _, rfl⟩ := List.mem_map.mp member
  rw [hexadecimal, String.toList_ofList]
  exact lowerCase_toDigits (by decide) (by decide) value

namespace Url

/-! ## Hosts -/

private theorem Host.lowerCase_groupedText (value : Nat) : LowerCase (Host.groupedText value).toList := by
  have gap : LowerCase "::".toList := by simp [LowerCase]
  simp only [groupedText]
  split
  · rw [String.toList_append, String.toList_append]
    exact ((lowerCase_groupsText _).append gap).append (lowerCase_groupsText _)
  · exact lowerCase_groupsText _

private theorem Host.lowerCase_of_ofBrackets {chars : List Char} {host : Host}
    (read : ofBrackets chars = .ok host) : LowerCase host.text.toList ∧ host.text ≠ "" := by
  have marks : LowerCase "[".toList ∧ LowerCase "]".toList := by simp [LowerCase]
  rw [ofBrackets] at read
  split_ifs at read
  split at read
  · obtain rfl := Except.ok.inj read
    refine ⟨?_, by simp [Host.text]⟩
    rw [Host.text, String.toList_append, String.toList_append]
    exact (marks.1.append (lowerCase_groupedText _)).append marks.2
  · contradiction

/-- The host of a special scheme is in lower case, and there is one. -/
theorem Host.lowerCase_of_ofSpecial {chars : List Char} {host : Host} (read : ofSpecial chars = .ok host) :
    LowerCase host.text.toList ∧ host.text ≠ "" := by
  rw [ofSpecial] at read
  split at read
  · exact lowerCase_of_ofBrackets read
  · split at read
    · contradiction
    · contradiction
    · rename_i domain present found
      split at read
      · split at read
        · obtain rfl := Except.ok.inj read
          exact ⟨lowerCase_dottedText _, by simp [Host.text, Address.dottedText]⟩
        · contradiction
      · obtain rfl := Except.ok.inj read
        exact ⟨RangeCatalog.Host.lowerCase_toAscii? found, fun empty => present (empty ▸ rfl)⟩

/-! ## URLs -/

/-- Whether a URL is in lower case where case does not count, and has a host where it must. -/
structure Lowered (url : Url) : Prop where
  scheme : LowerCase url.scheme.toList
  host : isSpecial url.scheme = true → LowerCase url.hostText.toList
  present : isSpecial url.scheme = true → url.scheme ≠ "file" → url.hostText ≠ ""

variable {url base : Url} {scheme text : String} {tail : Tail} {chars : List Char}

private theorem lowered_of_readHierarchy (lower : LowerCase scheme.toList)
    (read : readHierarchy scheme tail chars = .ok url) : url.Lowered := by
  simp only [readHierarchy, ite_throw_eq_ok_iff] at read
  obtain ⟨_, _, read⟩ := read
  split at read
  · simp only [bind_eq_ok_iff, ite_throw_eq_ok_iff] at read
    obtain ⟨host, found, portNumber, _, _, ⟨⟩⟩ := read
    obtain ⟨lowerHost, present⟩ := Host.lowerCase_of_ofSpecial found
    exact ⟨lower, fun _ => lowerHost, fun _ _ => present⟩
  · rename_i other
    simp only [bind_eq_ok_iff, ite_throw_eq_ok_iff] at read
    obtain ⟨host, _, portNumber, _, _, ⟨⟩⟩ := read
    exact ⟨lower, fun special => absurd special other, fun special => absurd special other⟩

private theorem lowered_file (tail : Tail) {host : Host} (segments : List String)
    (lower : LowerCase host.text.toList) :
    (tail.complete "file" (some { host }) (.segments segments)).Lowered :=
  ⟨by simp [LowerCase, Tail.complete], fun _ => lower, fun _ other => absurd rfl other⟩

private theorem lowered_of_readFile (read : readFile tail = .ok url) : url.Lowered := by
  -- A host is read in the last case only, and a drive stands for none.
  have absent : LowerCase (Host.name "").text.toList := nofun
  have named {host : Host} (lower : LowerCase host.text.toList) (onDrive : Bool) :
      LowerCase (if onDrive then Host.name "" else host).text.toList := by
    cases onDrive
    · exact lower
    · exact absent
  rw [readFile] at read
  dsimp only at read
  split at read
  · cases read
    exact lowered_file tail _ (named absent _)
  · split at read
    · cases read
      exact lowered_file tail _ (named absent _)
    · split at read
      · cases read
        exact lowered_file tail _ (named absent _)
      · split at read
        · cases read
          exact lowered_file tail _ (named absent _)
        · obtain ⟨host, found, built⟩ := bind_eq_ok_iff.mp read
          have whole := Except.ok.inj built
          split at whole
          · rw [← whole]
            exact lowered_file tail _ (named absent _)
          · rw [← whole]
            exact lowered_file tail _ (named (Host.lowerCase_of_ofSpecial found).1 _)

private theorem lowered_of_readAfterScheme (lower : LowerCase scheme.toList)
    (read : readAfterScheme scheme tail = .ok url) : url.Lowered := by
  rw [readAfterScheme] at read
  split_ifs at read with isFile special
  · exact lowered_of_readFile read
  · exact lowered_of_readHierarchy lower read
  · have other (url : Url) (same : url.scheme = scheme) : url.Lowered := by
      subst same
      exact ⟨lower, fun holds => absurd holds special, fun holds => absurd holds special⟩
    split at read
    · exact lowered_of_readHierarchy lower read
    · rw [← Except.ok.inj read]
      exact other _ rfl
    · rw [← Except.ok.inj read]
      exact other _ rfl

private theorem lowerCase_of_readScheme {rest : List Char} (read : readScheme chars = some (scheme, rest)) :
    LowerCase scheme.toList := by
  rw [readScheme] at read
  split at read
  · split at read
    · obtain ⟨rfl, _⟩ := Prod.mk.inj (Option.some.inj read)
      rw [String.toList_ofList]
      exact LowerCase.map_toLower _
    · contradiction
  · contradiction

/-- URLs are lowered when they are read. -/
theorem lowered_of_ofText (read : ofText text = .ok url) : url.Lowered := by
  rw [ofText] at read
  split at read
  · contradiction
  · rename_i scheme rest found
    exact lowered_of_readAfterScheme (lowerCase_of_readScheme found) read

theorem lowered_of_resolveTail (lowered : base.Lowered) (read : resolveTail base tail = .ok url) :
    url.Lowered := by
  have same (path : Path) : (tail.complete base.scheme base.authority path).Lowered :=
    ⟨lowered.scheme, lowered.host, lowered.present⟩
  rw [resolveTail] at read
  dsimp only at read
  split at read
  · rw [← Except.ok.inj read]
    exact ⟨lowered.scheme, lowered.host, lowered.present⟩
  · exact lowered_of_readHierarchy lowered.scheme read
  · split at read
    · split at read
      · exact lowered_of_readHierarchy lowered.scheme read
      · rw [← Except.ok.inj read]
        exact same _
    · rw [← Except.ok.inj read]
      exact same _

/-- What a text denotes relative to a lowered URL is lowered. -/
theorem lowered_of_resolve (lowered : base.Lowered) (read : base.resolve text = .ok url) : url.Lowered := by
  rw [resolve] at read
  dsimp only at read
  split at read
  · exact lowered_of_resolveTail lowered read
  · rename_i scheme rest found
    split at read
    · exact lowered_of_resolveTail lowered read
    · exact lowered_of_readAfterScheme (lowerCase_of_readScheme found) read

end Url

end RangeCatalog
