import RangeCatalog.Failure
import RangeCatalog.Settings.Reader

/-! # Stored settings

The settings in a file. Where there is no file, the defaults hold; a file that is there must be good.
-/

namespace RangeCatalog

def Settings.load {σ : Type} [Storage σ] (path : Path) :
    StateM σ (Except SettingsFailure Settings) := do
  if ← Storage.holds path then
    match ← Storage.readText path with
    | .error error => return .error (.unreadable path error)
    | .ok text => return (Settings.ofText text).mapError (.refused path)
  else return .ok {}

end RangeCatalog
