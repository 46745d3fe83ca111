import RangeCatalog.Proofs.Fetch.Body
import RangeCatalog.Proofs.Fetch.Redirects

/-! # How far redirects are followed

The limit counts requests, and the first one is among them. A chain of at most `chainLimit` URLs is
requested whole and its document is the result. Of a longer chain just as many URLs are requested, and the
fetch fails. So one redirect fewer is followed than the limit has requests.
-/

namespace RangeCatalog.Client

variable {network : Network} {start url last : Url} {earlier urls : List Url} {max : Nat}
  {text : String} {response : Response} {payload : Payload}

/-! ## Ends of chains -/

/-- An answer that delivers a document does not redirect. -/
theorem target?_of_delivers (delivers : response.Delivers max payload) :
    response.target? url = none := by
  cases named : response.target? url with
  | none => rfl
  | some target =>
    have status := status_of_target? named
    have success := delivers.success
    simp only [List.mem_cons, List.not_mem_nil, or_false] at status
    omega

/-- A chain within the limit is requested whole. -/
theorem chase_of_short (leads : Leads network start urls) (short : urls.length ≤ chainLimit)
    (ends : urls.getLast? = some last) (answered : answer? network last = some response)
    (final : response.target? last = none) :
    chase network [] start = ⟨urls, .answered response⟩ := by
  obtain ⟨earlier, rfl⟩ := List.getLast?_eq_some_iff.mp ends
  rw [chase_of_leads leads short, chase_of_final answered final]

/-- Of a chain beyond the limit only the first URLs are requested. -/
theorem chase_of_long (leads : Leads network start urls) (long : chainLimit < urls.length) :
    chase network [] start = ⟨urls.take chainLimit, .tooManyRedirects⟩ := by
  have size : (urls.take chainLimit).length = chainLimit := List.length_take_of_le (Nat.le_of_lt long)
  obtain ⟨earlier, url, first⟩ : ∃ earlier url, urls.take chainLimit = earlier ++ [url] := by
    rcases List.eq_nil_or_concat' (urls.take chainLimit) with none | found
    · rw [none] at size
      contradiction
    · exact found
  obtain ⟨target, after, second⟩ : ∃ target after, urls.drop chainLimit = target :: after := by
    apply List.exists_cons_of_length_pos
    rw [List.length_drop]
    omega
  have whole : urls = earlier ++ [url] ++ target :: after := by
    rw [← first, ← second, List.take_append_drop]
  have full : (earlier ++ [url]).length = chainLimit := first ▸ size
  have refuses : verdict (earlier ++ [url]) target = .refuse := if_pos (Nat.le_of_eq full.symm)
  rw [first]
  rw [whole] at leads
  obtain ⟨response, answered, named⟩ := leads.redirects
  rw [chase_of_leads (leads.left (by simp)) (Nat.le_of_eq full), chase_of_redirect answered named, refuses]

/-! ## Fetches -/

theorem fetch_of_short (read : Url.ofText text = .ok start) (leads : Leads network start urls)
    (short : urls.length ≤ chainLimit) (ends : urls.getLast? = some last)
    (answered : answer? network last = some response) (delivers : response.Delivers max payload) :
    fetch network max text = ⟨urls.map Request.ofUrl, .ok payload⟩ := by
  have permitted : start.Permitted := leads.permitted start (List.mem_of_head? leads.starts)
  have chain := chase_of_short leads short ends answered (target?_of_delivers delivers)
  rw [fetch_of_permitted read permitted, chain, Outcome.payload,
    Response.payload_eq_ok_iff.mpr delivers]

private theorem fetch_of_long (read : Url.ofText text = .ok start) (leads : Leads network start urls)
    (long : chainLimit < urls.length) :
    fetch network max text = ⟨(urls.take chainLimit).map Request.ofUrl,
      .error (.network text FetchError.transportReason)⟩ := by
  have permitted : start.Permitted := leads.permitted start (List.mem_of_head? leads.starts)
  rw [fetch_of_permitted read permitted, chase_of_long leads long]
  rfl

/-- Where the servers lead through any number of redirects to a document, the fetch yields it after
requesting the whole chain, if there are fewer redirects than `chainLimit`. Otherwise it requests the first
`chainLimit` URLs and fails. -/
theorem limit_counts_requests (network : Network) (max : Nat) (text : String) (start last : Url)
    (urls : List Url) (redirects : Nat) (response : Response) (payload : Payload)
    (read : Url.ofText text = .ok start) (leads : Leads network start urls)
    (counted : urls.length = redirects + 1) (ends : urls.getLast? = some last)
    (answered : answer? network last = some response) (delivers : response.Delivers max payload) :
    (redirects < chainLimit →
      fetch network max text = ⟨urls.map Request.ofUrl, .ok payload⟩) ∧
    (chainLimit ≤ redirects →
      fetch network max text = ⟨(urls.take chainLimit).map Request.ofUrl,
        .error (.network text FetchError.transportReason)⟩) := by
  constructor
  · intro few
    exact fetch_of_short read leads (by omega) ends answered delivers
  · intro many
    exact fetch_of_long read leads (by omega)

/-! ## A chain of five redirects -/

/-- An answer with the given body, which arrives one octet at a time. -/
def served (body : List UInt8) : Response :=
  { status := 200, headers := [], declared := some body.length, pieces := body.map ([·]), ended := true }

/-- Servers that move a document five times, each time with another status. -/
def relayNetwork : Network := fun url =>
  if url = "https://openai.com/0" then some (movedTo 301 "/1")
  else if url = "https://openai.com/1" then some (movedTo 302 "/2")
  else if url = "https://openai.com/2" then some (movedTo 303 "/3")
  else if url = "https://openai.com/3" then some (movedTo 307 "/4")
  else if url = "https://openai.com/4" then some (movedTo 308 "/5")
  else if url = "https://openai.com/5" then some (served [0x7b, 0x7d])
  else none

/-- The places of the document, in order. -/
def relayUrl (place : Nat) : Url :=
  documentUrl "https" "" (decimal place)

private theorem redirects_relay (place : Nat) (moved : place < 5) :
    Redirects relayNetwork (relayUrl place) (relayUrl (place + 1)) := by
  have link (status : Nat) (location : String) (redirects : status ∈ [301, 302, 303, 307, 308])
      (answered : answer? relayNetwork (relayUrl place) = some (movedTo status location))
      (resolved : ((relayUrl place).resolve location).toOption = some (relayUrl (place + 1))) :
      Redirects relayNetwork (relayUrl place) (relayUrl (place + 1)) :=
    ⟨_, answered, (target?_movedTo redirects location _).trans resolved⟩
  rcases place with _ | _ | _ | _ | _ | place
  · exact link 301 "/1" (by decide) (by decide +kernel) (by decide +kernel)
  · exact link 302 "/2" (by decide) (by decide +kernel) (by decide +kernel)
  · exact link 303 "/3" (by decide) (by decide +kernel) (by decide +kernel)
  · exact link 307 "/4" (by decide) (by decide +kernel) (by decide +kernel)
  · exact link 308 "/5" (by decide) (by decide +kernel) (by decide +kernel)
  · omega

private theorem permitted_relay (place : Nat) : (relayUrl place).Permitted :=
  ⟨rfl, .inl rfl⟩

/-- The places from some place on. -/
def relayUrls (first count : Nat) : List Url :=
  (List.range' first count).map relayUrl

private theorem leads_relay (first moves : Nat) (moved : first + moves ≤ 5) :
    Leads relayNetwork (relayUrl first) (relayUrls first (moves + 1)) := by
  induction moves with
  | zero => exact leads_singleton (permitted_relay first)
  | succ moves ih =>
    have before := ih (by omega)
    simp only [relayUrls, List.range'_1_concat, List.map_append, List.map_cons, List.map_nil] at before ⊢
    exact before.append (redirects_relay (first + moves) (by omega)) (permitted_relay _)

private theorem answer?_relay : answer? relayNetwork (relayUrl 5) = some (served [0x7b, 0x7d]) := by
  decide +kernel

private theorem delivers_served : (served [0x7b, 0x7d]).Delivers 100 ⟨[]⟩ := by
  refine ⟨by decide, by decide, by decide, by decide +kernel⟩

/-- From the second place on there are four redirects, and the fetch follows them all. -/
theorem limit_counts_requests_relayed :
    Url.ofText "https://openai.com/1" = .ok (relayUrl 1) ∧
    Leads relayNetwork (relayUrl 1) (relayUrls 1 5) ∧ (relayUrls 1 5).length = 4 + 1 ∧
    (relayUrls 1 5).getLast? = some (relayUrl 5) ∧
    answer? relayNetwork (relayUrl 5) = some (served [0x7b, 0x7d]) ∧
    (served [0x7b, 0x7d]).Delivers 100 ⟨[]⟩ ∧
    fetch relayNetwork 100 "https://openai.com/1" = ⟨(relayUrls 1 5).map Request.ofUrl, .ok ⟨[]⟩⟩ := by
  have read : Url.ofText "https://openai.com/1" = .ok (relayUrl 1) := by decide +kernel
  have leads := leads_relay 1 4 (by decide)
  have whole := limit_counts_requests relayNetwork 100 "https://openai.com/1" (relayUrl 1) (relayUrl 5)
    (relayUrls 1 5) 4 _ _ read leads rfl rfl answer?_relay delivers_served
  exact ⟨read, leads, rfl, rfl, answer?_relay, delivers_served, whole.1 (by decide)⟩

/-- From the first place on there are as many redirects as the limit has requests. The fetch fails, although
the last place delivers a document. -/
theorem fifth_redirect_refused :
    Url.ofText "https://openai.com/0" = .ok (relayUrl 0) ∧
    Leads relayNetwork (relayUrl 0) (relayUrls 0 6) ∧ (relayUrls 0 6).length = chainLimit + 1 ∧
    (relayUrls 0 6).getLast? = some (relayUrl 5) ∧
    answer? relayNetwork (relayUrl 5) = some (served [0x7b, 0x7d]) ∧
    (served [0x7b, 0x7d]).Delivers 100 ⟨[]⟩ ∧
    fetch relayNetwork 100 "https://openai.com/0" = ⟨(relayUrls 0 5).map Request.ofUrl,
      .error (.network "https://openai.com/0" FetchError.transportReason)⟩ := by
  have read : Url.ofText "https://openai.com/0" = .ok (relayUrl 0) := by decide +kernel
  have leads := leads_relay 0 5 (by decide)
  exact ⟨read, leads, rfl, rfl, answer?_relay, delivers_served, fetch_of_long read leads (by decide)⟩

end RangeCatalog.Client
