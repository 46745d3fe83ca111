import RangeCatalog.CommandLine.Basic
import RangeCatalog.Command.Listing

/-! # Usage

What is printed in place of an invocation: the commands and options, the version, or the reason why a line
is refused.
-/

namespace RangeCatalog.CommandLine

def Verb.summary : Verb → String
  | update => "Fetch all sources, validate, and write the catalog"
  | check => "Rebuild the catalog in memory and fail if the file on disk is stale"
  | sources => "List the trusted sources"
  | version => "Show version"

def Switch.summary : Switch → String
  | config => "Config file path"
  | quiet => "Quiet mode (errors only)"
  | verbose => "Verbose mode (debug output)"
  | help => "Print help"
  | version => "Print version"
  | output => "Catalog path (overrides config)"
  | allowLarge => "Allow set growth beyond the anti-poisoning thresholds"

def Switch.spelling (switch : Switch) : String :=
  let short := match switch.letter? with
    | some letter => "-" ++ String.singleton letter ++ ", "
    | none => "    "
  short ++ "--" ++ switch.word ++ if switch.takesValue then " <PATH>" else ""

/-- The name under which the program or one of its commands shows itself. -/
def shownName : Option Verb → String
  | none => programName
  | some verb => programName ++ "-" ++ verb.word

def versionText (verb : Option Verb) : String :=
  textOfLines [shownName verb ++ " " ++ programVersion]

def usage : String :=
  textOfLines <|
    ["Usage: " ++ programName ++ " [OPTIONS] <COMMAND>", "", "Commands:"] ++
    Verb.all.map (fun verb => "  " ++ Listing.padded 8 verb.word ++ " " ++ verb.summary) ++
    ["", "Options:"] ++
    Switch.all.map (fun switch => "  " ++ Listing.padded 24 switch.spelling ++ " " ++ switch.summary)

def Refusal.reason : Refusal → String
  | helpAsked => "help is asked for"
  | versionAsked _ => "the version is asked for"
  | nothingAsked => "no command is given"
  | noVerb => "no command is given"
  | unknownVerb => "there is no such command"
  | unknownArgument => "there is no such option, and no further argument is expected"
  | noValue => "a value is missing"
  | repeated => "an option is given twice"
  | needlessValue => "an option takes no value"

/-- What is printed, and how the program ends. -/
structure Ending where
  code : UInt8
  output : String
  remarks : String
deriving DecidableEq, Repr

/-- How the program ends when a line is not an invocation. -/
def Refusal.ending : Refusal → Ending
  | helpAsked => ⟨0, usage, ""⟩
  | versionAsked verb => ⟨0, versionText verb, ""⟩
  | nothingAsked => ⟨2, "", usage⟩
  | refusal => ⟨2, "", "error: " ++ refusal.reason ++ "\n\n" ++ usage⟩

end RangeCatalog.CommandLine
