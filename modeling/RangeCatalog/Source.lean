/-! # Sources

Which documents are fetched, and how each of them lists its ranges. Adding a source is a change of this
module: the list of sources, and the list of hosts when its host is new.
-/

namespace RangeCatalog

inductive Layout where
  /-- An array of objects under a fixed name, each with one range, and a time stamp beside it. -/
  | prefixObjects
  /-- An array of texts under the given name. -/
  | textArray (key : String)
deriving DecidableEq, Repr

namespace Layout

def name : Layout → String
  | prefixObjects => "openai_prefixes"
  | textArray _ => "json_array_key"

/-- The name of the array, when the source chooses it. -/
def key? : Layout → Option String
  | prefixObjects => none
  | textArray key => some key

end Layout

/-- A document that lists the ranges of one set. -/
structure Source where
  setId : String
  label : String
  provider : String
  url : String
  layout : Layout
deriving DecidableEq, Repr

namespace Source

/-- The hosts that may be contacted, in lower case. -/
def allowedHosts : List String :=
  ["openai.com", "api.github.com"]

/-- The sources of the catalog, in the order of its sets. -/
def builtIn : List Source :=
  [{ setId := "openai_gptbot"
     label := "OpenAI GPTBot"
     provider := "openai"
     url := "https://openai.com/gptbot.json"
     layout := .prefixObjects },
   { setId := "openai_oai_searchbot"
     label := "OpenAI OAI-SearchBot"
     provider := "openai"
     url := "https://openai.com/searchbot.json"
     layout := .prefixObjects },
   { setId := "openai_chatgpt_user"
     label := "OpenAI ChatGPT-User"
     provider := "openai"
     url := "https://openai.com/chatgpt-user.json"
     layout := .prefixObjects },
   { setId := "github_copilot"
     label := "GitHub Copilot"
     provider := "github"
     url := "https://api.github.com/meta"
     layout := .textArray "copilot" }]

end Source

end RangeCatalog
