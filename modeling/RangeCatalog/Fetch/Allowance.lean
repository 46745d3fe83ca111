import RangeCatalog.Fetch.Error
import RangeCatalog.Source
import RangeCatalog.Url.Reader

/-! # Allowed URLs

Only the hosts of the catalog's sources are contacted, and only by https. The decision is made on the
URL as it is read, so that no spelling of a URL gets around it, and without regard to the case of letters.
-/

namespace RangeCatalog

/-- Whether a URL may be contacted, and why not. -/
def Url.allowance (url : Url) : Except FetchError Unit :=
  let host := url.hostText.toLower
  if url.scheme.toLower ≠ "https" then .error (.disallowedScheme url.text)
  else if host ∈ Source.allowedHosts then .ok ()
  else .error (.disallowedHost (if host.isEmpty then "(empty)" else host))

def Url.isAllowed (url : Url) : Bool :=
  url.allowance.isOk

theorem Url.allowance_eq_ok_iff (url : Url) : url.allowance = .ok () ↔ url.isAllowed = true := by
  rw [isAllowed]
  cases url.allowance with
  | error error => simp [Except.isOk, Except.toBool]
  | ok done => simp [Except.isOk, Except.toBool]

/-- The URL that a text denotes, when it may be contacted. -/
def Url.ofAllowedText (text : String) : Except FetchError Url :=
  match Url.ofText text with
  | .error error => .error (.invalidUrl text error.message)
  | .ok url => do
    url.allowance
    return url

end RangeCatalog
