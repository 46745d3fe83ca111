import RangeCatalog.Catalog.Stored
import RangeCatalog.Command.Basic
import RangeCatalog.Settings.Stored

/-! # Checks

A check makes a client, builds the catalog as an update would, and fails when the stored one differs from it.
It writes nothing and takes no lock.
-/

namespace RangeCatalog.Check

variable {σ : Type} [Storage σ]

def reportOf (output : Path) (requests : List Request) : Except Failure (List Difference) → Report
  | .error failure => .failed failure requests
  | .ok [] => { requests, output := textOfLines ["OK: " ++ output.text ++ " is up to date"] }
  | .ok differences =>
    { requests
      remarks := textOfLines (differences.map fun difference => "  " ++ difference.message)
      failure := some (.stale output) }

/-- Checks an output, with a bound on the size of payloads. -/
def runOn (output : Path) (allowLarge : Bool) (max : Nat) (environment : Environment) :
    StateM σ Report := do
  match environment.clientFault with
  | some reason => return .failed (.client reason) []
  | none =>
    let network := environment.network
    let fetched ← Catalog.verify (fun url => (Client.fetch network max url).result) output
      environment.now allowLarge
    return reportOf output (Client.requestsFor network max fetched.urls) fetched.result

def run (settingsPath : Path) (target : Target) (environment : Environment) : StateM σ Report := do
  match ← Settings.load settingsPath with
  | .error failure => return .failed (.settings settingsPath failure) []
  | .ok settings =>
    runOn (target.output.getD settings.output) target.allowLarge settings.fetch.maxPayloadSize
      environment

end RangeCatalog.Check
