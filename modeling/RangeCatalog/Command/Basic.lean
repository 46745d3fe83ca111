import RangeCatalog.Failure
import RangeCatalog.Fetch.Client

/-! # Commands

What the program can be asked to do, and what a command leaves behind for people: what it prints, what it
sent, and why it failed if it did.
-/

namespace RangeCatalog

structure Target where
  /-- The path of the catalog, in place of the one in the settings. -/
  output : Option Path := none
  /-- Whether growth beyond the bounds is accepted. -/
  allowLarge : Bool := false
deriving DecidableEq, Repr

inductive Command where
  | update (target : Target)
  | check (target : Target)
  | sources
  | version
deriving DecidableEq, Repr

def Command.target? : Command → Option Target
  | update target => some target
  | check target => some target
  | _ => none

/-- What a command meets besides files: the answers of servers, and the time. -/
structure Surroundings where
  network : Network
  now : Instant

/-- Surroundings in which a command may be left without a client for its requests. -/
structure Environment extends Surroundings where
  /-- Why no client can be made, if none can. -/
  clientFault : Option String := none

instance : Coe Surroundings Environment :=
  ⟨fun surroundings => { surroundings with }⟩

/-- What a command leaves behind. -/
structure Report where
  requests : List Request := []
  /-- The text of the results. -/
  output : String := ""
  /-- The text of the remarks. -/
  remarks : String := ""
  failure : Option Failure := none
deriving Repr

/-- The report of a command that printed nothing. -/
def Report.failed (failure : Failure) (requests : List Request) : Report :=
  { requests, failure := some failure }

def textOfLines (lines : List String) : String :=
  String.join (lines.map (· ++ "\n"))

end RangeCatalog
