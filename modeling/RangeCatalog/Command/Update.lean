import RangeCatalog.Catalog.Stored
import RangeCatalog.Command.Basic
import RangeCatalog.Lock
import RangeCatalog.Settings.Stored

/-! # Updates

An update takes the lock of its output, makes a client, builds the catalog against the one that is there, puts
the new one in its place, and gives the lock back, whether it succeeded or not.
-/

namespace RangeCatalog.Update

variable {σ : Type} [Storage σ] [Locking σ]

def entryLine (entry : Entry) : String :=
  "- " ++ entry.id ++ ": " ++ decimal entry.ranges.length ++ " CIDRs (version=" ++ entry.version ++ ")"

def summary (output : Path) (catalog : Catalog) : String :=
  textOfLines (("Wrote managed IP range catalog: " ++ output.text) :: catalog.entries.map entryLine)

/-- Updates an output whose lock is held, with a bound on the size of payloads. -/
def runLocked (output : Path) (allowLarge : Bool) (max : Nat) (environment : Environment) :
    StateM σ Report := do
  match environment.clientFault with
  | some reason => return .failed (.client reason) []
  | none =>
    let network := environment.network
    let fetched ← Catalog.refresh (fun url => (Client.fetch network max url).result) output
      environment.now allowLarge
    let requests := Client.requestsFor network max fetched.urls
    match fetched.result with
    | .error failure => return .failed failure requests
    | .ok catalog => return { requests, output := summary output catalog }

/-- Updates an output under its lock. -/
def runOn (output : Path) (allowLarge : Bool) (max : Nat) (environment : Environment) :
    StateM σ Report := do
  match ← Lock.acquire output with
  | .error failure => return .failed failure []
  | .ok lock =>
    let report ← runLocked output allowLarge max environment
    modify lock.release
    return report

def run (settingsPath : Path) (target : Target) (environment : Environment) : StateM σ Report := do
  match ← Settings.load settingsPath with
  | .error failure => return .failed (.settings settingsPath failure) []
  | .ok settings =>
    runOn (target.output.getD settings.output) target.allowLarge settings.fetch.maxPayloadSize
      environment

end RangeCatalog.Update
