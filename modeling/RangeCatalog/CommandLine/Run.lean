import RangeCatalog.Command.Check
import RangeCatalog.Command.Update
import RangeCatalog.CommandLine.Reader
import RangeCatalog.CommandLine.Usage
import RangeCatalog.Storage.Tree

/-! # Running a command line

A line is read, the command that it asks for is carried out on a file tree, and the report of the command
decides what is printed and how the program ends.
-/

namespace RangeCatalog

def Command.run (command : Command) (settingsPath : Path) (environment : Environment) :
    StateM Tree Report :=
  match command with
  | update target => Update.run settingsPath target environment
  | check target => Check.run settingsPath target environment
  | sources => return { output := Listing.table Source.builtIn }
  | version => return { output := CommandLine.versionText none }

namespace CommandLine

def endingOf (report : Report) : Ending :=
  match report.failure with
  | none => ⟨0, report.output, report.remarks⟩
  | some failure => ⟨1, report.output, report.remarks ++ failure.report⟩

/-- Runs the program with the arguments after its name. -/
def runIn (environment : Environment) (arguments : List String) : StateM Tree Ending := do
  match read arguments with
  | .error refusal => return refusal.ending
  | .ok invocation =>
    return endingOf (← invocation.command.run invocation.settings environment)

/-- Runs the program where a client can be made. -/
def run (arguments : List String) (surroundings : Surroundings) : StateM Tree Ending :=
  runIn surroundings arguments

end CommandLine

end RangeCatalog
