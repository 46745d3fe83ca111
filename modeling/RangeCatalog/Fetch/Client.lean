import RangeCatalog.Fetch.Response
import RangeCatalog.Program

/-! # The client

Requests a document and follows redirects. Before each hop the verdict on it is asked for, from the URLs
that were requested so far and the one to which the redirect points. A redirect to a URL that may not be
contacted is not followed, and the answer that redirects is then the final one. After `chainLimit`
requests no redirect is followed any more, and the fetch fails.
-/

namespace RangeCatalog

/-- The answers of all servers: for the text of a requested URL an answer, or none when the connection
closes without one. -/
abbrev Network := String → Option Response

/-- One request as it is sent. -/
structure Request where
  method : String
  url : String
  accept : String
  agent : String
deriving DecidableEq, Repr

namespace Request

/-- The request for a document. Credentials and the fragment of the URL are not part of it. -/
def ofUrl (url : Url) : Request :=
  { method := "GET"
    url := url.request.text
    accept := "application/json"
    agent := programName ++ "/" ++ programVersion }

end Request

namespace Client

/-- The number of requests after which no redirect is followed. -/
def chainLimit : Nat := 5

inductive Outcome where
  | answered (response : Response)
  /-- No answer arrived. -/
  | unanswered
  | tooManyRedirects
deriving DecidableEq, Repr

/-- The URLs that were requested, in order, and how the chain ended. -/
structure Chain where
  requested : List Url
  outcome : Outcome
deriving DecidableEq, Repr

/-- The final answer of a server to one request. -/
def answer? (network : Network) (url : Url) : Option Response :=
  (network (Request.ofUrl url).url).filter Response.isFinal

inductive Verdict where
  | follow
  /-- The answer that redirects is the final one. -/
  | stop
  /-- The fetch fails. -/
  | refuse
deriving DecidableEq, Repr

/-- What becomes of a redirect to a URL after some URLs were requested. -/
def verdict (requested : List Url) (target : Url) : Verdict :=
  if chainLimit ≤ requested.length then .refuse
  else if target.isAllowed then .follow
  else .stop

theorem verdict_eq_follow_iff {requested : List Url} {target : Url} :
    verdict requested target = .follow ↔
      requested.length < chainLimit ∧ target.isAllowed = true := by
  rw [verdict]
  by_cases full : chainLimit ≤ requested.length
  · simp [full, Nat.not_lt_of_le full]
  · by_cases allowed : target.isAllowed = true <;> simp [full, allowed, Nat.lt_of_not_le full]

/-- Each redirect that is followed leaves fewer to follow. -/
theorem room_of_follow {earlier : List Url} {url target : Url}
    (follows : verdict (earlier ++ [url]) target = .follow) :
    chainLimit - (earlier ++ [url]).length < chainLimit - earlier.length := by
  have room := (verdict_eq_follow_iff.mp follows).1
  rw [List.length_append, List.length_singleton] at room ⊢
  omega

/-- Requests a URL after some others, and follows redirects for as long as the verdict says so. -/
def chase (network : Network) (earlier : List Url) (url : Url) : Chain :=
  let requested := earlier ++ [url]
  match answer? network url with
  | none => ⟨requested, .unanswered⟩
  | some response =>
    match response.target? url with
    | none => ⟨requested, .answered response⟩
    | some target =>
      match _ : verdict requested target with
      | .follow => chase network requested target
      | .stop => ⟨requested, .answered response⟩
      | .refuse => ⟨requested, .tooManyRedirects⟩
termination_by chainLimit - earlier.length
decreasing_by exact room_of_follow ‹_›

/-- What a fetch sent and what it yields. -/
structure Exchange where
  requests : List Request
  result : Except FetchError Payload

/-- The payload at the end of a chain. Errors name the URL with which the chain began. -/
def Outcome.payload (url : String) (max : Nat) : Outcome → Except FetchError Payload
  | answered response => response.payload url max
  | unanswered => .error (.network url FetchError.transportReason)
  | tooManyRedirects => .error (.network url FetchError.transportReason)

/-- Fetches the document of a URL whose body has at most `max` octets. A URL that may not be contacted
is refused before anything is sent. -/
def fetch (network : Network) (max : Nat) (text : String) : Exchange :=
  match Url.ofAllowedText text with
  | .error error => ⟨[], .error error⟩
  | .ok url =>
    let chain := chase network [] url
    ⟨chain.requested.map Request.ofUrl, chain.outcome.payload text max⟩

/-- The requests that are sent when some URLs are fetched one after the other. -/
def requestsFor (network : Network) (max : Nat) (urls : List String) : List Request :=
  urls.flatMap fun url => (fetch network max url).requests

end Client

end RangeCatalog
