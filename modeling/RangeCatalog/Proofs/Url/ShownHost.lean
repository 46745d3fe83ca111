import RangeCatalog.Proofs.Url.Authority

/-! # Hosts that texts show

The host of a URL as its text shows it to a reader who knows no more than where a host stands: after the
scheme and two slashes, up to the first slash, question mark or number sign, behind the last `@`, and
without a port number. For a URL that is delimited and whose host has none of these characters this is the
host, whatever its credentials, its port number and its path are.
-/

namespace RangeCatalog.Url

/-- What stands behind the last `@`. -/
def afterCredentials (chars : List Char) : List Char :=
  (chars.reverse.takeWhile (· ≠ '@')).reverse

/-- A text without a colon and digits at its end. -/
def withoutPort (chars : List Char) : List Char :=
  match chars.reverse.dropWhile Char.isDigit with
  | ':' :: host => host.reverse
  | _ => chars

/-- What stands where a host should be in what follows a scheme and two slashes. -/
def shownHost (chars : List Char) : List Char :=
  withoutPort (afterCredentials (chars.takeWhile (! endsAuthority ·)))

/-- Whether a text starts as that of a secure URL and then shows a host. -/
def Shows (text host : String) : Prop :=
  ∃ rest, text.toList = "https://".toList ++ rest ∧ shownHost rest = host.toList

/-! ## Ends of authorities -/

/-- Whether a text is one before which an authority ends. -/
def FollowsAuthority (chars : List Char) : Prop :=
  ∀ c ∈ chars.head?, endsAuthority c = true

namespace FollowsAuthority

private theorem nil : FollowsAuthority [] := nofun

private theorem append {chars more : List Char} (first : FollowsAuthority chars) (second : FollowsAuthority more) :
    FollowsAuthority (chars ++ more) := by
  cases chars with
  | nil => exact second
  | cons c rest => exact first

private theorem takeWhile_eq_nil {chars : List Char} (follows : FollowsAuthority chars) :
    chars.takeWhile (! endsAuthority ·) = [] := by
  cases chars with
  | nil => rfl
  | cons c rest => rw [List.takeWhile_cons_of_neg (by simp [follows c rfl])]

end FollowsAuthority

private theorem followsAuthority_segments (list : List String) :
    FollowsAuthority (Path.segments list).text.toList := by
  cases list with
  | nil => exact FollowsAuthority.nil
  | cons segment rest =>
    rw [Path.text, List.map_cons, String.join_cons, String.toList_append, String.toList_append]
    rintro c ⟨⟩
    rfl

/-- A part that starts with a mark, when it is there. -/
theorem followsAuthority_part (part : Option String) {mark : String} {c : Char} (marked : mark.toList = [c])
    (ends : endsAuthority c = true) :
    FollowsAuthority ((part.map (mark ++ ·)).getD "").toList := by
  cases part with
  | none => exact FollowsAuthority.nil
  | some text =>
    rw [Option.map_some, Option.getD_some, String.toList_append, marked]
    rintro other ⟨⟩
    exact ends

variable {url : Url} {authority : Authority}

/-- The text of a delimited URL around its authority. -/
theorem Delimited.exists_toList_text (delimited : url.Delimited) (given : url.authority = some authority) :
    ∃ rest, url.text.toList = url.scheme.toList ++ "://".toList ++ (authority.text.toList ++ rest) ∧
      FollowsAuthority rest := by
  obtain ⟨list, segments⟩ := delimited.path
  refine ⟨url.path.text.toList ++ ((url.query.map ("?" ++ ·)).getD "").toList ++
    ((url.fragment.map ("#" ++ ·)).getD "").toList, ?_, ?_⟩
  · rw [text, given]
    simp [String.toList_append, List.append_assoc]
  · have path := followsAuthority_segments list
    rw [segments]
    exact (path.append (followsAuthority_part url.query rfl rfl)).append
      (followsAuthority_part url.fragment rfl rfl)

/-! ## Parts of authorities -/

/-- A host without a character that ends an authority, a host or the credentials before it. -/
def PlainHost (host : List Char) : Prop :=
  ∀ c ∈ host, isDelimiter c = false ∧ c ≠ ':'

/-- A port as it stands behind a host. -/
def IsPort (port : List Char) : Prop :=
  port = [] ∨ ∃ number, port = ':' :: Nat.toDigits 10 number

private theorem IsPort.isDelimiter {port : List Char} (isPort : IsPort port) {c : Char} (member : c ∈ port) :
    isDelimiter c = false := by
  rcases isPort with rfl | ⟨number, rfl⟩
  · exact absurd member List.not_mem_nil
  · rcases List.mem_cons.mp member with rfl | digit
    · rfl
    · have isDigit := Nat.isDigit_of_mem_toDigits (by decide) (by decide) digit
      exact isDelimiter_of_class (by decide) isDigit

/-- The port behind a plain host is taken away, and nothing else. -/
theorem withoutPort_append {host port : List Char} (plain : PlainHost host) (isPort : IsPort port) :
    withoutPort (host ++ port) = host := by
  rcases isPort with rfl | ⟨number, rfl⟩
  · rw [List.append_nil, withoutPort]
    split
    · rename_i rest colon
      have member : ':' ∈ host.reverse := by
        apply (List.dropWhile_sublist Char.isDigit).subset
        rw [colon]
        exact List.mem_cons_self
      exact absurd rfl (plain ':' (List.mem_reverse.mp member)).2
    · rfl
  · have digits : ∀ c ∈ (Nat.toDigits 10 number).reverse, c.isDigit = true := by
      intro c member
      exact Nat.isDigit_of_mem_toDigits (by decide) (by decide) (List.mem_reverse.mp member)
    have dropped : (host ++ ':' :: Nat.toDigits 10 number).reverse.dropWhile Char.isDigit =
        ':' :: host.reverse := by
      rw [List.reverse_append, List.reverse_cons, List.append_assoc, List.dropWhile_append_of_pos digits]
      rfl
    rw [withoutPort, dropped]
    exact List.reverse_reverse host

/-- What ends in an `@` is taken away up to there, when no other one follows. -/
theorem afterCredentials_append {credentials rest : List Char}
    (ends : credentials = [] ∨ ∃ userInfo, credentials = userInfo ++ ['@']) (plain : '@' ∉ rest) :
    afterCredentials (credentials ++ rest) = rest := by
  have kept : ∀ c ∈ rest.reverse, decide (c ≠ '@') = true := by
    intro c member
    refine decide_eq_true ?_
    rintro rfl
    exact plain (List.mem_reverse.mp member)
  have stops : credentials.reverse.takeWhile (· ≠ '@') = [] := by
    rcases ends with rfl | ⟨userInfo, rfl⟩
    · rfl
    · rw [List.reverse_append]
      rfl
  rw [afterCredentials, List.reverse_append, List.takeWhile_append_of_pos kept, stops, List.append_nil,
    List.reverse_reverse]

namespace Authority

private theorem credentials_ends (authority : Authority) :
    authority.credentials.toList = [] ∨ ∃ userInfo, authority.credentials.toList = userInfo ++ ['@'] := by
  rw [credentials]
  split_ifs
  · exact .inl rfl
  · exact .inr ⟨_, String.toList_append⟩
  · exact .inr ⟨_, String.toList_append⟩

/-- No character of the credentials ends the authority. -/
theorem endsAuthority_of_credentials {authority : Authority}
    (plain : ∀ c ∈ authority.username.toList ++ authority.password.toList, isDelimiter c = false)
    {c : Char} (member : c ∈ authority.credentials.toList) : endsAuthority c = false := by
  have inner {c : Char} (within : c ∈ authority.username.toList ++ authority.password.toList) :
      endsAuthority c = false := (Bool.or_eq_false_iff.mp (plain c within)).1
  rw [credentials] at member
  split_ifs at member
  · exact absurd member List.not_mem_nil
  · rw [String.toList_append] at member
    rcases List.mem_append.mp member with name | mark
    · exact inner (List.mem_append_left _ name)
    · rw [List.mem_singleton.mp mark]
      rfl
  · simp only [String.toList_append] at member
    rcases List.mem_append.mp member with whole | mark
    · rcases List.mem_append.mp whole with named | password
      · rcases List.mem_append.mp named with name | colon
        · exact inner (List.mem_append_left _ name)
        · rw [List.mem_singleton.mp colon]
          rfl
      · exact inner (List.mem_append_right _ password)
    · rw [List.mem_singleton.mp mark]
      rfl

private theorem exists_toList_text (authority : Authority) :
    ∃ port, authority.text.toList =
        authority.credentials.toList ++ (authority.host.text.toList ++ port) ∧ IsPort port := by
  refine ⟨((authority.portNumber.map fun number => ":" ++ decimal number).getD "").toList, ?_, ?_⟩
  · rw [text, String.toList_append, String.toList_append, List.append_assoc]
  · cases authority.portNumber with
    | none => exact .inl rfl
    | some number =>
      have digits : (decimal number).toList = Nat.toDigits 10 number := String.toList_ofList
      refine .inr ⟨number, ?_⟩
      rw [Option.map_some, Option.getD_some, String.toList_append, digits]
      rfl

end Authority

/-! ## Texts of URLs -/

/-- The text of a delimited URL shows its host, when the host is plain. -/
theorem Delimited.shownHost_text (delimited : url.Delimited) (given : url.authority = some authority)
    (plain : PlainHost authority.host.text.toList) :
    ∃ rest, url.text.toList = url.scheme.toList ++ "://".toList ++ rest ∧
      shownHost rest = authority.host.text.toList := by
  obtain ⟨after, whole, follows⟩ := delimited.exists_toList_text given
  obtain ⟨port, parts, isPort⟩ := authority.exists_toList_text
  have inner : ∀ c ∈ authority.text.toList, (! endsAuthority c) = true := by
    intro c member
    rw [parts] at member
    have ends : endsAuthority c = false := by
      rcases List.mem_append.mp member with credentials | hostAndPort
      · exact Authority.endsAuthority_of_credentials (delimited.credentials authority given) credentials
      · rcases List.mem_append.mp hostAndPort with host | number
        · exact (Bool.or_eq_false_iff.mp (plain c host).1).1
        · exact (Bool.or_eq_false_iff.mp (isPort.isDelimiter number)).1
    rw [ends]
    rfl
  have noMark : '@' ∉ authority.host.text.toList ++ port := by
    intro member
    rcases List.mem_append.mp member with host | number
    · exact absurd (plain '@' host).1 (by decide)
    · exact absurd (isPort.isDelimiter number) (by decide)
  refine ⟨_, whole, ?_⟩
  rw [shownHost, List.takeWhile_append_of_pos inner, follows.takeWhile_eq_nil, List.append_nil, parts,
    afterCredentials_append authority.credentials_ends noMark, withoutPort_append plain isPort]

end RangeCatalog.Url
