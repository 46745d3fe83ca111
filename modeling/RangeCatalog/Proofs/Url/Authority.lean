import RangeCatalog.Proofs.Outcome
import RangeCatalog.Proofs.Text.Numeral
import RangeCatalog.Url.Reader

/-! # Authorities of URLs

Where the parts of a URL with a host end. User name and password are encoded, so that none of the
characters that end an authority, and no `@`, stands in them, and the path consists of segments, so that
it starts with a slash. This holds of every URL that is read from a text with an authority.
-/

namespace RangeCatalog.Url

/-- Whether a character ends an authority. -/
def endsAuthority (c : Char) : Bool :=
  c = '/' || c = '?' || c = '#'

/-- Whether a character ends an authority or the credentials in it. -/
def isDelimiter (c : Char) : Bool :=
  endsAuthority c || c = '@'

private theorem mem_of_isDelimiter {c : Char} (delimits : isDelimiter c = true) : c ∈ "/?#@".toList := by
  simp only [isDelimiter, endsAuthority, Bool.or_eq_true, decide_eq_true_eq] at delimits
  rcases delimits with ((rfl | rfl) | rfl) | rfl <;> decide

/-- A character of a class that none of the delimiters is in is no delimiter. -/
theorem isDelimiter_of_class {inClass : Char → Bool} (outside : "/?#@".toList.any inClass = false)
    {c : Char} (member : inClass c = true) : isDelimiter c = false := by
  by_contra delimits
  have listed := mem_of_isDelimiter (eq_true_of_ne_false delimits)
  exact List.any_eq_false.mp outside c listed member

/-! ## Encoded texts -/

private theorem mem_percentOctet {octet : UInt8} {c : Char} (member : c ∈ percentOctet octet) :
    c ∈ "%0123456789ABCDEF".toList := by
  have upper : ("0123456789abcdef".toList.all
      fun digit => decide (digit.toUpper ∈ "%0123456789ABCDEF".toList)) = true := by decide
  rcases List.mem_cons.mp member with rfl | encoded
  · decide
  · obtain ⟨digit, written, rfl⟩ := List.mem_map.mp encoded
    exact of_decide_eq_true (List.all_eq_true.mp upper digit (mem_hexOctet written))

/-- A character of an encoded text is one that need not be encoded, or one of the encoding. -/
theorem mem_percentEncode {set : EncodeSet} {chars : List Char} {c : Char}
    (member : c ∈ percentEncode set chars) : set c = false ∨ c ∈ "%0123456789ABCDEF".toList := by
  obtain ⟨original, _, written⟩ := List.mem_flatMap.mp member
  split at written
  · rename_i plain
    rw [List.mem_singleton.mp written]
    exact .inl (by simpa using (Bool.and_eq_true_iff.mp plain).2)
  · obtain ⟨octet, _, encoded⟩ := List.mem_flatMap.mp written
    exact .inr (mem_percentOctet encoded)

private theorem isDelimiter_of_percentEncode {chars : List Char} {c : Char}
    (member : c ∈ percentEncode EncodeSet.userInfo chars) : isDelimiter c = false := by
  have encoding : "%0123456789ABCDEF".toList.any isDelimiter = false := by decide
  have escaped : "/?#@".toList.any (! EncodeSet.userInfo ·) = false := by decide
  rcases mem_percentEncode member with kept | encoded
  · exact isDelimiter_of_class escaped (by rw [kept]; rfl)
  · exact Bool.eq_false_iff.mpr (List.any_eq_false.mp encoding c encoded)

/-- No character of the credentials ends them or the authority. -/
theorem isDelimiter_of_readCredentials {chars : List Char} {c : Char}
    (member : c ∈ (readCredentials chars).1.toList ++ (readCredentials chars).2.toList) :
    isDelimiter c = false := by
  simp only [readCredentials, String.toList_ofList, List.mem_append] at member
  rcases member with name | password
  · exact isDelimiter_of_percentEncode name
  · exact isDelimiter_of_percentEncode password

/-! ## Read URLs -/

/-- Whether the authority of a URL can be told from what follows it in the text. -/
structure Delimited (url : Url) : Prop where
  credentials : ∀ authority ∈ url.authority,
    ∀ c ∈ authority.username.toList ++ authority.password.toList, isDelimiter c = false
  path : ∃ list, url.path = .segments list

variable {url : Url} {scheme : String} {tail : Tail} {chars : List Char}

/-- What is completed with segments and read credentials is delimited. -/
theorem delimited_complete (userInfo : List Char) (host : Host) (portNumber : Option Nat)
    (segments : List String) :
    (tail.complete scheme
      (some ⟨(readCredentials userInfo).1, (readCredentials userInfo).2, host, portNumber⟩)
      (.segments segments)).Delimited := by
  refine ⟨?_, segments, rfl⟩
  rintro authority ⟨⟩ c member
  exact isDelimiter_of_readCredentials member

private theorem delimited_of_readHierarchy (read : readHierarchy scheme tail chars = .ok url) :
    url.scheme = scheme ∧ url.Delimited := by
  simp only [readHierarchy, ite_throw_eq_ok_iff] at read
  obtain ⟨_, _, read⟩ := read
  -- The host is read in another way for special schemes, and all else is the same.
  split at read
  · simp only [bind_eq_ok_iff, ite_throw_eq_ok_iff] at read
    obtain ⟨host, _, portNumber, _, _, ⟨⟩⟩ := read
    exact ⟨rfl, delimited_complete _ host portNumber _⟩
  · simp only [bind_eq_ok_iff, ite_throw_eq_ok_iff] at read
    obtain ⟨host, _, portNumber, _, _, ⟨⟩⟩ := read
    exact ⟨rfl, delimited_complete _ host portNumber _⟩

/-- What is completed with segments and without credentials is delimited. -/
theorem delimited_file (tail : Tail) (host : Host) (segments : List String) :
    (tail.complete "file" (some { host }) (.segments segments)).scheme = "file" ∧
      (tail.complete "file" (some { host }) (.segments segments)).Delimited := by
  refine ⟨rfl, ?_, segments, rfl⟩
  rintro authority ⟨⟩ c member
  exact absurd member List.not_mem_nil

private theorem delimited_of_readFile (read : readFile tail = .ok url) : url.scheme = "file" ∧ url.Delimited := by
  rw [readFile] at read
  dsimp only at read
  split at read
  · cases read
    exact delimited_file tail _ _
  · split at read
    · cases read
      exact delimited_file tail _ _
    · split at read
      · cases read
        exact delimited_file tail _ _
      · split at read
        · cases read
          exact delimited_file tail _ _
        · obtain ⟨host, _, found⟩ := bind_eq_ok_iff.mp read
          have built := Except.ok.inj found
          split at built
          · rw [← built]
            exact delimited_file tail _ _
          · rw [← built]
            exact delimited_file tail _ _

/-- A URL that is read has the scheme of the text, and is delimited when the scheme is special. -/
theorem delimited_of_readAfterScheme (read : readAfterScheme scheme tail = .ok url) :
    url.scheme = scheme ∧ (isSpecial scheme = true → url.Delimited) := by
  rw [readAfterScheme] at read
  split_ifs at read with isFile special
  · obtain ⟨same, delimited⟩ := delimited_of_readFile read
    exact ⟨same.trans isFile.symm, fun _ => delimited⟩
  · obtain ⟨same, delimited⟩ := delimited_of_readHierarchy read
    exact ⟨same, fun _ => delimited⟩
  · refine ⟨?_, fun holds => absurd holds special⟩
    split at read
    · exact (delimited_of_readHierarchy read).1
    · rw [← Except.ok.inj read]
      rfl
    · rw [← Except.ok.inj read]
      rfl

/-- URLs with special schemes are delimited. -/
theorem delimited_of_ofText {text : String} (read : ofText text = .ok url)
    (special : isSpecial url.scheme = true) : url.Delimited := by
  rw [ofText] at read
  split at read
  · contradiction
  · obtain ⟨same, delimited⟩ := delimited_of_readAfterScheme read
    exact delimited (same ▸ special)

end RangeCatalog.Url
