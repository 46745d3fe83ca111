import RangeCatalog.CommandLine.Basic

/-! # Reading command lines

Arguments are read from left to right. Options that fit all commands may stand before the word for a
command or after it. The value of an option is attached to it, or is the next argument. A value that is
the next argument is checked when the next option is read or at the end of the line, and before the word
for a command only after all that follows that word.
-/

namespace RangeCatalog.CommandLine

/-- An option that was read, but not checked yet. -/
structure Pending where
  switch : Switch
  /-- The value, unless it is still to come. -/
  value : Option String
deriving DecidableEq, Repr

/-- What was given before the word for a command, or after it. -/
structure Given where
  /-- The options that were checked, each with its value. -/
  checked : List (Switch × String) := []
  pending : Option Pending := none
deriving DecidableEq, Repr

/-- The outcome of a step of reading. -/
abbrev Read (α : Type) := Except Refusal α

namespace Given

def add (given : Given) (switch : Switch) (value : String) : Read Given :=
  if given.checked.any (·.1 = switch) then .error .repeated
  else if switch.takesValue && value.isEmpty then .error .noValue
  else .ok { given with checked := (switch, value) :: given.checked }

/-- Checks the option that is pending. -/
def settle (given : Given) : Read Given :=
  match given.pending with
  | none => .ok given
  | some ⟨_, none⟩ => .error .noValue
  | some ⟨switch, some value⟩ => { given with pending := none }.add switch value

/-- The option whose value is still to come. -/
def awaited? (given : Given) : Option Switch :=
  match given.pending with
  | some ⟨switch, none⟩ => some switch
  | _ => none

def addFlag (given : Given) (verb : Option Verb) (switch : Switch) : Read Given := do
  let given ← given.settle
  match switch with
  | .help => .error .helpAsked
  | .version => .error (.versionAsked verb)
  | switch => given.add switch ""

/-- Reads an option that takes a value, which may be attached. -/
def addValued (given : Given) (switch : Switch) (attached : Option String) : Read Given := do
  let given ← given.settle
  match attached with
  | some value => given.add switch value
  | none => return { given with pending := some ⟨switch, none⟩ }

def value? (given : Given) (switch : Switch) : Option String :=
  given.checked.lookup switch

def has (given : Given) (switch : Switch) : Bool :=
  given.checked.any (·.1 = switch)

end Given

def splitEquals (text : String) : String × Option String :=
  let chars := text.toList
  let name := String.ofList (chars.takeWhile (· ≠ '='))
  match chars.dropWhile (· ≠ '=') with
  | [] => (name, none)
  | _ :: value => (name, some (String.ofList value))

/-- Reads an option after its two hyphens. -/
def readLong (verb : Option Verb) (given : Given) (text : String) : Read Given :=
  let (name, attached) := splitEquals text
  match Switch.ofWord? verb name with
  | none => .error .unknownArgument
  | some switch =>
    if switch.takesValue then given.addValued switch attached
    else if attached.isSome then .error .needlessValue
    else given.addFlag verb switch

/-- Reads options by their letters. What follows the letter of an option that takes a value is the value,
perhaps after an equals sign. -/
def readShort (verb : Option Verb) (given : Given) : List Char → Read Given
  | [] => .ok given
  | letter :: rest =>
    match Switch.ofLetter? verb letter with
    | none => .error .unknownArgument
    | some switch =>
      if switch.takesValue then
        given.addValued switch <| match rest with
          | [] => none
          | '=' :: value => some (String.ofList value)
          | value => some (String.ofList value)
      else do
        let given ← given.addFlag verb switch
        readShort verb given rest

/-- Reads the argument after two hyphens alone. No option and no command may follow them. -/
def readAfterHyphens (verb : Option Verb) : List String → Read Unit
  | [] => .ok ()
  | argument :: _ =>
    let isVerb := (Verb.ofWord? argument).isSome || argument = helpWord
    if verb.isSome || isVerb then .error .unknownArgument else .error .unknownVerb

/-- Reads what follows the word for help: at most one word for a command. -/
def readHelp : List String → Refusal
  | [] => .helpAsked
  | [topic] =>
    if (Verb.ofWord? topic).isSome ∨ topic = helpWord then .helpAsked else .unknownVerb
  | _ => .unknownVerb

/-- Reads arguments up to the word for a command, or to the end after such a word. The result is what was
given, and the command with the arguments after it. -/
def readLevel (verb : Option Verb) (given : Given) :
    List String → Read (Given × Option (Verb × List String))
  | [] => .ok (given, none)
  | argument :: rest =>
    let found := if verb.isNone ∧ given.awaited?.isNone then Verb.ofWord? argument else none
    match found, argument.toList with
    | some next, _ => .ok (given, some (next, rest))
    | none, ['-', '-'] => do
      readAfterHyphens verb rest
      return (given, none)
    | none, '-' :: '-' :: text => do
      let given ← readLong verb given (String.ofList text)
      readLevel verb given rest
    | none, '-' :: letter :: letters => do
      let given ← readShort verb given (letter :: letters)
      readLevel verb given rest
    | none, _ =>
      match given.awaited? with
      | some switch => readLevel verb { given with pending := some ⟨switch, some argument⟩ } rest
      | none =>
        if verb.isSome then .error .unknownArgument
        else if argument = helpWord then .error (readHelp rest)
        else .error .unknownVerb

/-- The invocation that was given before and after the word for a command. What was given after it comes
first. -/
def invocation (verb : Verb) (before after : Given) : Invocation :=
  let target : Target :=
    { output := (after.value? .output).map Path.mk
      allowLarge := after.has .allowLarge }
  { command := match verb with
      | .update => .update target
      | .check => .check target
      | .sources => .sources
      | .version => .version
    settings := (((after.value? .config).orElse fun _ => before.value? .config).map Path.mk).getD
      Settings.defaultPath
    quiet := before.has .quiet || after.has .quiet
    verbose := before.has .verbose || after.has .verbose }

/-- The invocation of the arguments after the name of the program. -/
def read (arguments : List String) : Read Invocation := do
  let (before, found) ← readLevel none {} arguments
  match found with
  | some (verb, rest) =>
    let (after, _) ← readLevel (some verb) {} rest
    let after ← after.settle
    let before ← before.settle
    return invocation verb before after
  | none =>
    let before ← before.settle
    if before.checked.isEmpty then .error .nothingAsked else .error .noVerb

end RangeCatalog.CommandLine
