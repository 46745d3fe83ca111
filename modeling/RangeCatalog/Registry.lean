import RangeCatalog.Fetch.Allowance
import RangeCatalog.Text.Blank

/-! # Registry rules

What a list of sources must satisfy before anything is fetched: ids that are not blank and not
repeated, URLs that may be contacted, and a key wherever the layout needs one. The first source that
breaks a rule decides the error.
-/

namespace RangeCatalog

inductive RegistryError where
  | blankId (url : String)
  | duplicateId (setId : String)
  | refusedUrl (setId : String) (error : FetchError)
  | missingKey (setId : String)
deriving DecidableEq, Repr

def RegistryError.message : RegistryError → String
  | blankId url => "source with URL " ++ url ++ " has an empty set id"
  | duplicateId setId => "duplicate set id '" ++ setId ++ "'"
  | refusedUrl setId error => setId ++ ": " ++ error.message
  | missingKey setId => setId ++ " uses json_array_key without a payload key"

namespace Registry

/-- Checks one source, given the ids before it. -/
def checkSource (seen : List String) (source : Source) : Except RegistryError Unit :=
  if isBlankText source.setId then .error (.blankId source.url)
  else if source.setId ∈ seen then .error (.duplicateId source.setId)
  else match Url.ofAllowedText source.url with
    | .error error => .error (.refusedUrl source.setId error)
    | .ok _ =>
      if (source.layout.key?.map isBlankText).getD false then .error (.missingKey source.setId)
      else .ok ()

/-- Checks sources in order, given the ids before them. -/
def checkFrom (seen : List String) : List Source → Except RegistryError Unit
  | [] => .ok ()
  | source :: rest => do
    checkSource seen source
    checkFrom (source.setId :: seen) rest

def check (sources : List Source) : Except RegistryError Unit :=
  checkFrom [] sources

end Registry

end RangeCatalog
