import RangeCatalog.Catalog.Baseline
import RangeCatalog.Catalog.Basic
import RangeCatalog.Extraction
import RangeCatalog.Growth
import RangeCatalog.Label
import RangeCatalog.Network.RangeSet
import RangeCatalog.Registry

/-! # Builds

A build fetches the sources one after the other, in their order, and makes an entry of each payload.
The first failure ends it, and nothing of the catalog is kept. The clock, the baseline and the answers
to fetches are given, so that a build is a function of them.
-/

namespace RangeCatalog

inductive CatalogError where
  | transport (setId : String) (error : FetchError)
  | shape (error : ShapeError)
  | ranges (setId : String) (error : RangeError)
  | growth (violation : Growth.Violation)
  | registry (error : RegistryError)
deriving DecidableEq, Repr

namespace CatalogError

/-- The sentence of the cause, when it has one of its own. -/
def cause? : CatalogError → Option String
  | transport _ error => some error.message
  | shape error => some error.message
  | ranges _ error => some error.message
  | growth violation => some violation.message
  | registry _ => none

def message : CatalogError → String
  | transport setId error => "Transport error for " ++ setId ++ ": " ++ error.message
  | shape error => "Schema error: " ++ error.message
  | ranges setId error => "CIDR error in " ++ setId ++ ": " ++ error.message
  | growth violation => "Growth guard violation: " ++ violation.message
  | registry error => "Invalid source registry: " ++ error.message

end CatalogError

/-- The answers to fetches: for each URL a payload or an error. -/
abbrev Fetcher := String → Except FetchError Payload

/-- What a build depends on besides its sources. -/
structure BuildContext where
  baseline : Baseline
  now : Instant
  /-- Whether growth beyond the bounds is accepted. -/
  allowLarge : Bool

namespace Entry

/-- The entry of a source whose payload yields the given ranges and time stamp on a date. -/
def ofRanges (source : Source) (ranges : RangeSet) (stamp : Option Instant) (date : String) : Entry :=
  let stampText := stamp.map Instant.text
  { id := source.setId
    label := source.label
    provider := source.provider
    sourceUrl := source.url
    sourceStamp := stampText
    sourceStampSeconds := stamp.map Instant.seconds
    ranges := ranges.texts
    version := Label.ofContent date ranges.texts stampText }

def ofPayload (source : Source) (payload : Payload) (baseline : Baseline) (date : String)
    (allowLarge : Bool) : Except CatalogError Entry := do
  let extraction ← (Extraction.ofPayload payload source).mapError .shape
  let ranges ← (RangeSet.ofTexts extraction.rangeTexts).mapError (.ranges source.setId)
  (Growth.check source.setId (baseline.get? source.setId) ranges.size allowLarge).mapError .growth
  return ofRanges source ranges extraction.stamp date

/-- The entry of a source, whose payload is fetched. -/
def ofSource (fetch : Fetcher) (context : BuildContext) (source : Source) :
    Except CatalogError Entry := do
  let payload ← (fetch source.url).mapError (.transport source.setId)
  ofPayload source payload context.baseline context.now.dateText context.allowLarge

end Entry

/-- The outcome of a build, with the URLs that it fetched in order. -/
structure Build where
  fetched : List String
  result : Except CatalogError Catalog

namespace Build

/-- The entries of sources in order, with the URLs that were fetched for them. -/
def entries (fetch : Fetcher) (context : BuildContext) :
    List Source → List String × Except CatalogError (List Entry)
  | [] => ([], .ok [])
  | source :: rest =>
    match Entry.ofSource fetch context source with
    | .error error => ([source.url], .error error)
    | .ok entry =>
      let (fetched, result) := entries fetch context rest
      (source.url :: fetched, result.map (entry :: ·))

/-- The catalog of some entries at the time of the build. -/
def catalog (now : Instant) (entries : List Entry) : Catalog :=
  { version := now.dateText
    generatedAt := now.text
    generatedAtSeconds := now.seconds
    entries }

/-- Builds a catalog. Sources that break a rule of the registry are not fetched. -/
def run (sources : List Source) (fetch : Fetcher) (context : BuildContext) : Build :=
  match Registry.check sources with
  | .error error => ⟨[], .error (.registry error)⟩
  | .ok () =>
    let (fetched, result) := entries fetch context sources
    ⟨fetched, result.map (catalog context.now)⟩

end Build

end RangeCatalog
