import RangeCatalog.Json.Basic

/-! # Baselines

How many ranges each set had in the last catalog. The document may be any JSON: entries that are not
objects with a text as `id` and an array as `cidrs` are passed over, and of entries with one id the
last one counts.
-/

namespace RangeCatalog

/-- The number of ranges of each known set. -/
structure Baseline where
  counts : List (String × Nat)
deriving DecidableEq, Repr

namespace Baseline

def empty : Baseline := ⟨[]⟩

def get? (baseline : Baseline) (id : String) : Option Nat :=
  baseline.counts.lookup id

def size (baseline : Baseline) : Nat :=
  baseline.counts.length

/-- The baseline with the number of one set replaced or added. -/
def insert (baseline : Baseline) (id : String) (count : Nat) : Baseline :=
  ⟨(id, count) :: baseline.counts.filter (·.1 ≠ id)⟩

/-- The baseline of some counts, of which later ones replace earlier ones. -/
def ofCounts (counts : List (String × Nat)) : Baseline :=
  counts.foldl (fun baseline entry => baseline.insert entry.1 entry.2) empty

/-- The id and the number of ranges of an entry of a document. -/
def countOf? (item : Json) : Option (String × Nat) := do
  let id ← (← item.field? "id").text?
  let ranges ← (← item.field? "cidrs").items?
  return (id, ranges.length)

/-- The counts of a document. A document without an array of sets has none. -/
def ofJson (document : Json) : Baseline :=
  ofCounts ((((document.field? "sets").bind Json.items?).getD []).filterMap countOf?)

end Baseline

end RangeCatalog
