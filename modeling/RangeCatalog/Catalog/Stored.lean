import RangeCatalog.Catalog.Difference
import RangeCatalog.Failure

/-! # Stored catalogs

The catalog at a path: what is read there as a baseline, and how a new one takes its place. A baseline
that cannot be read counts as none.
-/

namespace RangeCatalog

variable {σ : Type} [Storage σ]

def Baseline.load (path : Path) : StateM σ Baseline := do
  if ← Storage.holds path then
    match ← Storage.readText path with
    | .ok text => return ((Json.ofText? text).map ofJson).getD empty
    | .error _ => return empty
  else return empty

/-- Makes the directory of a path when it is missing. -/
def Path.prepareDirectory (path : Path) : StateM σ (Except Failure Unit) := do
  match path.directory? with
  | none => return .ok ()
  | some directory =>
    if ← Storage.holds directory then return .ok ()
    else return (← Storage.createDirectories directory).mapError (.directory directory)

/-- Puts the catalog at a path. The directory of the path is made when it is missing. -/
def Catalog.write (catalog : Catalog) (path : Path) : StateM σ (Except Failure Unit) := do
  match ← path.prepareDirectory with
  | .error failure => return .error failure
  | .ok () => return (← Storage.replace path catalog.render.toUTF8.toList).mapError (.write path)

structure Fetched (α : Type) where
  urls : List String
  result : Except Failure α

/-- Builds the catalog of the built-in sources against the baseline at a path. -/
def Catalog.rebuild (fetch : Fetcher) (path : Path) (now : Instant) (allowLarge : Bool) :
    StateM σ Build := do
  let baseline ← Baseline.load path
  return Build.run Source.builtIn fetch { baseline, now, allowLarge }

/-- Builds the catalog and puts it at a path. Nothing is written unless all of it is valid. -/
def Catalog.refresh (fetch : Fetcher) (path : Path) (now : Instant) (allowLarge : Bool) :
    StateM σ (Fetched Catalog) := do
  let build ← Catalog.rebuild fetch path now allowLarge
  match build.result with
  | .error error => return ⟨build.fetched, .error (.update error)⟩
  | .ok catalog =>
    let written ← catalog.write path
    return ⟨build.fetched, written.map fun _ => catalog⟩

def Json.load (path : Path) : StateM σ (Except Failure Json) := do
  if ← Storage.holds path then
    match ← Storage.readText path with
    | .error error => return .error (.unreadable path error)
    | .ok text =>
      match Json.ofText? text with
      | none => return .error (.malformed path)
      | some value => return .ok value
  else return .error (.missing path)

/-- Builds the catalog and compares it with the document at a path. Nothing is written. -/
def Catalog.verify (fetch : Fetcher) (path : Path) (now : Instant) (allowLarge : Bool) :
    StateM σ (Fetched (List Difference)) := do
  let build ← Catalog.rebuild fetch path now allowLarge
  match build.result with
  | .error error => return ⟨build.fetched, .error (.check error)⟩
  | .ok catalog =>
    let stored ← Json.load path
    return ⟨build.fetched, stored.map catalog.differencesFrom⟩

end RangeCatalog
