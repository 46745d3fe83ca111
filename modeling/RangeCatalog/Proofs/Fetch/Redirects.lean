import Mathlib.Data.List.Chain
import RangeCatalog.Fetch.Client
import RangeCatalog.Proofs.Url.Lowered

/-! # Chains of requests

How far servers can lead the client. They may redirect wherever they like, in circles too. What the client
has requested at any time is a chain in which each URL was named by the answer to the one before, all of
them may be contacted, and there is a bound on their number. The chain is carried along as an invariant of
the hops.
-/

namespace RangeCatalog

/-- Whether a URL is one that may be contacted. -/
structure Url.Permitted (url : Url) : Prop where
  scheme : url.scheme = "https"
  host : url.hostText = "openai.com" ∨ url.hostText = "api.github.com"

namespace Url

variable {text : String} {url : Url}

theorem permitted_iff : url.Permitted ↔ url.scheme = "https" ∧ url.hostText ∈ Source.allowedHosts := by
  have hosts : url.hostText ∈ Source.allowedHosts ↔
      url.hostText = "openai.com" ∨ url.hostText = "api.github.com" := by
    simp [Source.allowedHosts]
  rw [hosts]
  exact ⟨fun permitted => ⟨permitted.scheme, permitted.host⟩, fun ⟨scheme, host⟩ => ⟨scheme, host⟩⟩

/-- A URL that may be contacted is in lower case where case does not count. -/
theorem Permitted.lowered (permitted : url.Permitted) : url.Lowered := by
  have hosts : ∀ host ∈ Source.allowedHosts, LowerCase host.toList ∧ host ≠ "" := by
    simp [Source.allowedHosts, LowerCase]
  obtain ⟨secure, listed⟩ := permitted_iff.mp permitted
  obtain ⟨lower, present⟩ := hosts url.hostText listed
  refine ⟨?_, fun _ => lower, fun _ _ => present⟩
  rw [secure]
  simp [LowerCase]

/-- Where case does not count, a URL in lower case is checked for what it is. -/
theorem Lowered.allowance_eq (lowered : url.Lowered) :
    url.allowance =
      if url.scheme ≠ "https" then .error (.disallowedScheme url.text)
      else if url.hostText ∈ Source.allowedHosts then .ok ()
      else .error (.disallowedHost url.hostText) := by
  have scheme : url.scheme.toLower = url.scheme := lowered.scheme.toLower_eq
  by_cases secure : url.scheme = "https"
  · have special : isSpecial url.scheme = true := secure ▸ rfl
    have host : url.hostText.toLower = url.hostText := (lowered.host special).toLower_eq
    have present : url.hostText ≠ "" := lowered.present special (secure ▸ by decide)
    simp only [allowance, scheme, host, String.isEmpty_eq_false_iff.mpr present, Bool.false_eq_true, if_false]
  · simp only [allowance, scheme, ne_eq, secure, not_false_eq_true, if_true]

theorem Lowered.allowance_eq_ok_iff (lowered : url.Lowered) : url.allowance = .ok () ↔ url.Permitted := by
  rw [lowered.allowance_eq, permitted_iff]
  split_ifs with other listed
  · simp [other]
  · simp [not_not.mp other, listed]
  · simp [listed]

theorem Lowered.isAllowed_iff (lowered : url.Lowered) : url.isAllowed = true ↔ url.Permitted :=
  url.allowance_eq_ok_iff.symm.trans lowered.allowance_eq_ok_iff

theorem ofAllowedText_eq_ok_iff : ofAllowedText text = .ok url ↔ ofText text = .ok url ∧ url.Permitted := by
  rw [ofAllowedText]
  cases read : ofText text with
  | error error => simp
  | ok found =>
    simp only [bind_eq_ok_iff, pure, Except.pure, Except.ok.injEq]
    constructor
    · rintro ⟨_, allowed, rfl⟩
      exact ⟨rfl, (lowered_of_ofText read).allowance_eq_ok_iff.mp allowed⟩
    · rintro ⟨rfl, permitted⟩
      exact ⟨(), permitted.lowered.allowance_eq_ok_iff.mpr permitted, rfl⟩

end Url

namespace Client

variable {network : Network} {start url target : Url} {earlier urls : List Url}

/-- Whether the answer to a URL redirects to another one. -/
def Redirects (network : Network) (url target : Url) : Prop :=
  ∃ response, answer? network url = some response ∧ response.target? url = some target

/-- Whether the servers lead from a URL through some others, all of which may be contacted. -/
structure Leads (network : Network) (start : Url) (urls : List Url) : Prop where
  starts : urls.head? = some start
  linked : urls.IsChain (Redirects network)
  permitted : ∀ url ∈ urls, url.Permitted

theorem leads_singleton (permitted : start.Permitted) : Leads network start [start] := by
  refine ⟨rfl, List.isChain_singleton start, ?_⟩
  intro url member
  rw [List.mem_singleton.mp member]
  exact permitted

/-- One more hop to a URL that may be contacted. -/
theorem Leads.append (leads : Leads network start (earlier ++ [url]))
    (redirects : Redirects network url target) (permitted : target.Permitted) :
    Leads network start (earlier ++ [url] ++ [target]) := by
  refine ⟨?_, ?_, ?_⟩
  · rw [List.head?_append, leads.starts, Option.some_or]
  · refine leads.linked.append (List.isChain_singleton target) ?_
    intro last found next first
    rw [List.getLast?_concat, Option.mem_some_iff] at found
    rw [List.head?_cons, Option.mem_some_iff] at first
    subst found first
    exact redirects
  · intro other member
    rcases List.mem_append.mp member with before | last
    · exact leads.permitted other before
    · rw [List.mem_singleton.mp last]
      exact permitted

/-- What the servers lead to first. -/
theorem Leads.left {before after : List Url} (leads : Leads network start (before ++ after))
    (nonempty : before ≠ []) : Leads network start before := by
  refine ⟨?_, leads.linked.left_of_append, ?_⟩
  · rw [← leads.starts, List.head?_append_of_ne_nil before nonempty]
  · intro other member
    exact leads.permitted other (List.mem_append_left _ member)

/-- Of two neighbours in a chain the first redirects to the second. -/
theorem Leads.redirects {after : List Url}
    (leads : Leads network start (earlier ++ [url] ++ target :: after)) :
    Redirects network url target := by
  have linked := leads.linked
  rw [List.append_assoc, List.singleton_append, List.isChain_append_cons_cons] at linked
  exact linked.2.1

/-- From URLs that may be contacted a redirect leads to a URL in lower case. -/
theorem Leads.lowered_target? (leads : Leads network start (earlier ++ [url])) {response : Response}
    (named : response.target? url = some target) : target.Lowered := by
  have permitted := leads.permitted url (List.mem_append_right _ (List.mem_singleton_self url))
  rw [Response.target?] at named
  split at named
  · obtain ⟨location, _, resolved⟩ := Option.bind_eq_some_iff.mp named
    exact Url.lowered_of_resolve permitted.lowered (toOption_eq_some_iff.mp resolved)
  · contradiction

/-! ## Hops -/

/-- The verdict decides what becomes of a redirect. -/
theorem chase_of_redirect {response : Response} (answered : answer? network url = some response)
    (named : response.target? url = some target) :
    chase network earlier url =
      match verdict (earlier ++ [url]) target with
      | .follow => chase network (earlier ++ [url]) target
      | .stop => ⟨earlier ++ [url], .answered response⟩
      | .refuse => ⟨earlier ++ [url], .tooManyRedirects⟩ := by
  rw [chase]
  simp only [answered, named]
  split <;> simp_all

/-- An answer that does not redirect ends the chain. -/
theorem chase_of_final {response : Response} (answered : answer? network url = some response)
    (final : response.target? url = none) :
    chase network earlier url = ⟨earlier ++ [url], .answered response⟩ := by
  rw [chase]
  simp only [answered, final]

/-- Wherever the servers lead from a chain that is sound, what has been requested in the end is sound. -/
theorem leads_chase (leads : Leads network start (earlier ++ [url]))
    (bounded : (earlier ++ [url]).length ≤ chainLimit) :
    Leads network start (chase network earlier url).requested ∧
      (chase network earlier url).requested.length ≤ chainLimit := by
  induction earlier, url using chase.induct network with
  | case1 earlier url unanswered =>
    rw [chase]
    simp only [unanswered]
    exact ⟨leads, bounded⟩
  | case2 earlier url response answered final =>
    rw [chase_of_final answered final]
    exact ⟨leads, bounded⟩
  | case3 earlier url requested response answered target named follows ih =>
    obtain ⟨room, allowed⟩ := verdict_eq_follow_iff.mp follows
    rw [chase_of_redirect answered named, follows]
    have permitted := (leads.lowered_target? named).isAllowed_iff.mp allowed
    refine ih (leads.append ⟨response, answered, named⟩ permitted) ?_
    rw [List.length_append, List.length_singleton]
    exact room
  | case4 earlier url requested response answered target named stops =>
    rw [chase_of_redirect answered named, stops]
    exact ⟨leads, bounded⟩
  | case5 earlier url requested response answered target named refuses =>
    rw [chase_of_redirect answered named, refuses]
    exact ⟨leads, bounded⟩

/-- The client goes where the servers lead it, for as long as it follows redirects at all. -/
theorem chase_of_leads (leads : Leads network start (earlier ++ [url]))
    (bounded : (earlier ++ [url]).length ≤ chainLimit) :
    chase network [] start = chase network earlier url := by
  induction earlier using List.reverseRecOn generalizing url with
  | nil =>
    obtain rfl : url = start := Option.some.inj leads.starts
    rfl
  | append_singleton before previous ih =>
    obtain ⟨response, answered, named⟩ := leads.redirects
    have shorter : (before ++ [previous]).length < chainLimit := by
      rw [List.length_append, List.length_singleton] at bounded
      exact bounded
    have whole : Leads network start (before ++ [previous]) := leads.left (by simp)
    have permitted := leads.permitted url (List.mem_append_right _ (List.mem_singleton_self url))
    have follows : verdict (before ++ [previous]) url = .follow :=
      verdict_eq_follow_iff.mpr ⟨shorter, permitted.lowered.isAllowed_iff.mpr permitted⟩
    rw [ih whole (Nat.le_of_lt shorter), chase_of_redirect answered named, follows]

/-! ## Fetches -/

variable {max : Nat} {text : String}

private theorem fetch_of_refused (refused : ¬∃ url, Url.ofText text = .ok url ∧ url.Permitted) :
    (fetch network max text).requests = [] := by
  rw [fetch]
  cases found : Url.ofAllowedText text with
  | error error => rfl
  | ok url => exact absurd ⟨url, Url.ofAllowedText_eq_ok_iff.mp found⟩ refused

theorem fetch_of_permitted (read : Url.ofText text = .ok start) (permitted : start.Permitted) :
    fetch network max text =
      ⟨(chase network [] start).requested.map Request.ofUrl,
        (chase network [] start).outcome.payload text max⟩ := by
  rw [fetch, Url.ofAllowedText_eq_ok_iff.mpr ⟨read, permitted⟩]

/-- What is requested for a text is a sound chain that starts at its URL. -/
theorem leads_of_permitted (read : Url.ofText text = .ok start) (permitted : start.Permitted) :
    ∃ urls, (fetch network max text).requests = urls.map Request.ofUrl ∧
      Leads network start urls ∧ urls.length ≤ chainLimit := by
  have begins : Leads network start ([] ++ [start]) := leads_singleton permitted
  have sound := leads_chase begins (show 1 ≤ chainLimit by decide)
  exact ⟨_, congrArg Exchange.requests (fetch_of_permitted read permitted), sound⟩

theorem status_of_target? {response : Response} (named : response.target? url = some target) :
    response.status ∈ [301, 302, 303, 307, 308] := by
  rw [Response.target?] at named
  split at named
  · rename_i redirects
    exact List.contains_iff_mem.mp redirects
  · contradiction

/-- An answer that redirects is no success, and yields its status. -/
theorem payload_of_target? {response : Response} (named : response.target? url = some target) :
    response.payload text max = .error (.httpStatus text response.status) := by
  have status := status_of_target? named
  simp only [List.mem_cons, List.not_mem_nil, or_false] at status
  have failed : response.isSuccess = false := by
    rcases status with status | status | status | status | status <;>
      simp [Response.isSuccess, status]
  rw [Response.payload, failed]
  rfl

/-- Where the servers lead to a URL whose answer redirects to one that may not be contacted, the fetch
ends with the status of that answer. -/
theorem fetch_of_forbidden (read : Url.ofText text = .ok start)
    (leads : Leads network start (earlier ++ [url])) (room : (earlier ++ [url]).length < chainLimit)
    {response : Response} (answered : answer? network url = some response)
    (named : response.target? url = some target) (forbidden : ¬target.Permitted) :
    fetch network max text =
      ⟨(earlier ++ [url]).map Request.ofUrl, .error (.httpStatus text response.status)⟩ := by
  have permitted : start.Permitted := leads.permitted start (List.mem_of_head? leads.starts)
  have stops : verdict (earlier ++ [url]) target = .stop := by
    rw [verdict, if_neg (Nat.not_le_of_lt room), if_neg]
    exact fun allowed => forbidden ((leads.lowered_target? named).isAllowed_iff.mp allowed)
  have chain : chase network [] start = ⟨earlier ++ [url], .answered response⟩ := by
    rw [chase_of_leads leads (Nat.le_of_lt room), chase_of_redirect answered named, stops]
  rw [fetch_of_permitted read permitted, chain, Outcome.payload, payload_of_target? named]

/-- Whatever the servers answer, a fetch requests only URLs that may be contacted, and no more than the
limit; nothing is requested when the first URL may not be contacted. Where the servers lead through fewer
URLs than the limit to one whose answer redirects to a forbidden URL, exactly these are requested and the
fetch fails with the status of that answer. -/
theorem fetch_stays_permitted (network : Network) (max : Nat) (text : String) :
    (∀ request ∈ (fetch network max text).requests,
      ∃ url : Url, request = Request.ofUrl url ∧ url.Permitted) ∧
    ((¬∃ url, Url.ofText text = .ok url ∧ url.Permitted) →
      (fetch network max text).requests = []) ∧
    (fetch network max text).requests.length ≤ chainLimit ∧
    ∀ (start : Url) (urls : List Url) (last : Url) (response : Response) (target : Url),
      Url.ofText text = .ok start → Leads network start urls → urls.getLast? = some last →
      urls.length < chainLimit → answer? network last = some response → response.target? last = some target →
      ¬target.Permitted →
        (fetch network max text).requests = urls.map Request.ofUrl ∧ target ∉ urls ∧
        (fetch network max text).result = .error (.httpStatus text response.status) ∧
        response.status ∈ [301, 302, 303, 307, 308] := by
  have sound : ∃ urls : List Url, (fetch network max text).requests = urls.map Request.ofUrl ∧
      (∀ url ∈ urls, url.Permitted) ∧ urls.length ≤ chainLimit := by
    by_cases begins : ∃ url, Url.ofText text = .ok url ∧ url.Permitted
    · obtain ⟨start, read, permitted⟩ := begins
      obtain ⟨urls, requested, leads, bounded⟩ := leads_of_permitted read permitted
      exact ⟨urls, requested, leads.permitted, bounded⟩
    · exact ⟨[], fetch_of_refused begins, by simp, Nat.zero_le _⟩
  obtain ⟨requested, same, permitted, bounded⟩ := sound
  refine ⟨?_, fetch_of_refused, ?_, ?_⟩
  · intro request member
    rw [same] at member
    obtain ⟨url, among, rfl⟩ := List.mem_map.mp member
    exact ⟨url, rfl, permitted url among⟩
  · rw [same, List.length_map]
    exact bounded
  · intro start urls last response target read leads ends room answered named forbidden
    obtain ⟨earlier, rfl⟩ := List.getLast?_eq_some_iff.mp ends
    rw [fetch_of_forbidden read leads room answered named forbidden]
    refine ⟨rfl, ?_, rfl, status_of_target? named⟩
    exact fun member => forbidden (leads.permitted target member)

/-- An answer that sends the client to another place. -/
def movedTo (status : Nat) (location : String) : Response :=
  { status, headers := [("location", location)], declared := some 0, pieces := [], ended := true }

theorem target?_movedTo {status : Nat} (redirects : status ∈ [301, 302, 303, 307, 308])
    (location : String) (url : Url) :
    (movedTo status location).target? url = (url.resolve location).toOption := by
  have named : (movedTo status location).header? "location" = some location := by
    simp only [Response.header?, movedTo, List.find?_cons, decide_true, Option.map_some]
  have sends : (movedTo status location).isRedirect = true := List.contains_iff_mem.mpr redirects
  rw [Response.target?, if_pos sends, named, Option.bind_some]

/-- Servers that move a document twice, the second time to a URL that is not secure. -/
def movingNetwork : Network := fun url =>
  if url = "https://openai.com/gptbot.json" then some (movedTo 302 "/moved.json")
  else if url = "https://openai.com/moved.json" then some (movedTo 301 "http://openai.com/gptbot.json")
  else none

/-- The URL of a document on one of the hosts that may be contacted. -/
def documentUrl (scheme username name : String) : Url :=
  { scheme, authority := some { username, host := .name "openai.com" }, path := .segments [name] }

/-- Both secure URLs are requested, the one that is not secure is not, and the second answer decides. -/
theorem fetch_stays_permitted_moved :
    Url.ofText "https://me@openai.com/gptbot.json" = .ok (documentUrl "https" "me" "gptbot.json") ∧
    Leads movingNetwork (documentUrl "https" "me" "gptbot.json")
      [documentUrl "https" "me" "gptbot.json", documentUrl "https" "me" "moved.json"] ∧
    ¬(documentUrl "http" "" "gptbot.json").Permitted ∧
    (fetch movingNetwork 100 "https://me@openai.com/gptbot.json").requests =
      [documentUrl "https" "" "gptbot.json", documentUrl "https" "" "moved.json"].map Request.ofUrl ∧
    (fetch movingNetwork 100 "https://me@openai.com/gptbot.json").result =
      .error (.httpStatus "https://me@openai.com/gptbot.json" 301) := by
  have read : Url.ofText "https://me@openai.com/gptbot.json" =
      .ok (documentUrl "https" "me" "gptbot.json") := by decide +kernel
  have first : answer? movingNetwork (documentUrl "https" "me" "gptbot.json") =
      some (movedTo 302 "/moved.json") := by decide +kernel
  have second : answer? movingNetwork (documentUrl "https" "me" "moved.json") =
      some (movedTo 301 "http://openai.com/gptbot.json") := by decide +kernel
  have onward : (movedTo 302 "/moved.json").target? (documentUrl "https" "me" "gptbot.json") =
      some (documentUrl "https" "me" "moved.json") := by
    rw [target?_movedTo (by decide)]
    decide +kernel
  have away : (movedTo 301 "http://openai.com/gptbot.json").target?
      (documentUrl "https" "me" "moved.json") = some (documentUrl "http" "" "gptbot.json") := by
    rw [target?_movedTo (by decide)]
    decide +kernel
  have forbidden : ¬(documentUrl "http" "" "gptbot.json").Permitted :=
    fun permitted => absurd permitted.scheme (by decide)
  have leads : Leads movingNetwork (documentUrl "https" "me" "gptbot.json")
      [documentUrl "https" "me" "gptbot.json", documentUrl "https" "me" "moved.json"] := by
    have begins : Leads movingNetwork (documentUrl "https" "me" "gptbot.json")
        ([] ++ [documentUrl "https" "me" "gptbot.json"]) := leads_singleton ⟨rfl, .inl rfl⟩
    exact begins.append ⟨_, first, onward⟩ ⟨rfl, .inl rfl⟩
  obtain ⟨_, _, _, stops⟩ :=
    fetch_stays_permitted movingNetwork 100 "https://me@openai.com/gptbot.json"
  obtain ⟨requested, _, result, _⟩ :=
    stops _ _ _ _ _ read leads rfl (by decide) second away forbidden
  exact ⟨read, leads, forbidden, requested, result⟩

end Client

end RangeCatalog
