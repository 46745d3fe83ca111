import RangeCatalog.Command.Basic
import RangeCatalog.Settings.Basic

/-! # Command lines

The words of a command line: the names of commands and of options, what an invocation asks for, and why
a line is not one. Asking for help or for the version is no invocation either.
-/

namespace RangeCatalog.CommandLine

inductive Verb where
  | update
  | check
  | sources
  | version
deriving DecidableEq, Repr

namespace Verb

/-- The commands in the order in which they are listed. -/
def all : List Verb := [update, check, sources, version]

def word : Verb → String
  | update => "update"
  | check => "check"
  | sources => "sources"
  | version => "version"

def ofWord? (word : String) : Option Verb :=
  all.find? (·.word = word)

end Verb

/-- The word that asks for help on a command. -/
def helpWord : String := "help"

inductive Switch where
  | config
  | quiet
  | verbose
  | help
  | version
  | output
  | allowLarge
deriving DecidableEq, Repr

namespace Switch

/-- The options in the order in which they are listed. -/
def all : List Switch := [config, quiet, verbose, help, version, output, allowLarge]

def word : Switch → String
  | config => "config"
  | quiet => "quiet"
  | verbose => "verbose"
  | help => "help"
  | version => "version"
  | output => "output"
  | allowLarge => "allow-large-delta"

/-- The letter for an option after one hyphen. -/
def letter? : Switch → Option Char
  | config => some 'c'
  | quiet => some 'q'
  | verbose => some 'v'
  | help => some 'h'
  | version => some 'V'
  | output => none
  | allowLarge => none

def takesValue : Switch → Bool
  | config => true
  | output => true
  | _ => false

/-- Whether an option may stand after the word for a command, or before any such word. -/
def fits (verb : Option Verb) : Switch → Bool
  | output => verb = some .update || verb = some .check
  | allowLarge => verb = some .update || verb = some .check
  | _ => true

def ofWord? (verb : Option Verb) (word : String) : Option Switch :=
  all.find? fun switch => switch.fits verb && switch.word = word

def ofLetter? (verb : Option Verb) (letter : Char) : Option Switch :=
  all.find? fun switch => switch.fits verb && switch.letter? = some letter

end Switch

/-- Why a command line is not an invocation. -/
inductive Refusal where
  | helpAsked
  /-- The version is asked for, of the program or of a command. -/
  | versionAsked (verb : Option Verb)
  /-- The line is empty. -/
  | nothingAsked
  | noVerb
  | unknownVerb
  | unknownArgument
  /-- A value is missing or empty. -/
  | noValue
  /-- An option is given twice. -/
  | repeated
  /-- A value is given to an option that takes none. -/
  | needlessValue
deriving DecidableEq, Repr

/-- What a command line asks for. -/
structure Invocation where
  command : Command
  settings : Path
  quiet : Bool
  verbose : Bool
deriving DecidableEq, Repr

end RangeCatalog.CommandLine
