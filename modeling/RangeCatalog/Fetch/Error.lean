import RangeCatalog.Text.Numeral

/-! # Failed fetches

Why a URL yields no document. Each error names the URL that was asked for, also when another URL was
contacted in its place.
-/

namespace RangeCatalog

inductive FetchError where
  | invalidUrl (url reason : String)
  | disallowedScheme (url : String)
  | disallowedHost (host : String)
  | network (url reason : String)
  | httpStatus (url : String) (status : Nat)
  | tooLarge (url : String) (size max : Nat)
  | invalidJson (url reason : String)
  | notAnObject (url : String)
deriving DecidableEq, Repr

def FetchError.message : FetchError → String
  | invalidUrl url reason => "Invalid source URL '" ++ url ++ "': " ++ reason
  | disallowedScheme url => "Source must use https: " ++ url
  | disallowedHost host => "Source host is not allowlisted: " ++ host
  | network url reason => "Network error fetching " ++ url ++ ": " ++ reason
  | httpStatus url status => "Unexpected HTTP status " ++ decimal status ++ " from " ++ url
  | tooLarge url size max =>
    "Response from " ++ url ++ " too large: " ++ decimal size ++ " bytes (max: " ++ decimal max ++
      " bytes)"
  | invalidJson url reason => "Invalid JSON from " ++ url ++ ": " ++ reason
  | notAnObject url => "Expected top-level object from " ++ url

end RangeCatalog
