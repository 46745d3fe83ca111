import RangeCatalog.Text.Numeral

/-! # Growth guard

A set may grow between two builds only while it keeps two bounds: a multiple of its last size plus
some slack, and its last size plus a fixed number. The first alone is too strict for small sets, the
second alone too generous for large ones. Counts are 64-bit words, and sums and products stop at the
greatest word instead of wrapping.
-/

namespace RangeCatalog.Growth

def maxCount : Nat := 0xffffffffffffffff

/-- By how much a set may multiply. -/
def factor : Nat := 4

/-- What is added to the multiple. -/
def slack : Nat := 64

/-- The greatest number of ranges that a set may gain. -/
def maxGain : Nat := 2048

/-- A number brought down to the greatest count. -/
def saturate (number : Nat) : Nat :=
  min number maxCount

/-- The bound that the last size gives by multiplication. -/
def ratioBound (baseline : Nat) : Nat :=
  saturate (saturate (baseline * factor) + slack)

/-- A set that grew beyond its bounds. -/
structure Violation where
  setId : String
  baseline : Nat
  count : Nat
deriving DecidableEq, Repr

def Violation.message (violation : Violation) : String :=
  violation.setId ++ " growth guard tripped: baseline=" ++ decimal violation.baseline ++ ", new=" ++
    decimal violation.count ++
    ", rerun with --allow-large-delta after manual source verification"

def withinBounds (baseline count : Nat) : Bool :=
  count ≤ ratioBound baseline && count - baseline ≤ maxGain

/-- Checks the new size of a set against its last size. Without a last size, or with zero, there is
nothing to compare with; a set that does not grow passes, and so does any growth that is allowed. -/
def check (setId : String) (baseline : Option Nat) (count : Nat) (allowLarge : Bool) :
    Except Violation Unit :=
  match baseline with
  | none => .ok ()
  | some last =>
    if last = 0 ∨ count ≤ last ∨ withinBounds last count ∨ allowLarge then .ok ()
    else .error ⟨setId, last, count⟩

end RangeCatalog.Growth
