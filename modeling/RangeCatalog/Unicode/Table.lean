import RangeCatalog.Text.Numeral

/-! # Property tables

The written form of a table of code points. A table is a sequence of words with blanks between them.
A word starts with a code point, with two of them that a hyphen joins, or with two that a tilde joins;
the tilde leaves out every other code point of the run. After an equals sign follows the value of all
code points of the run, after a `>` the code point that the first one is mapped to, in which case the
others keep their distance. Code points are hexadecimal.
-/

namespace RangeCatalog.Unicode

/-- A run of code points of a table. -/
structure Run where
  first : Nat
  last : Nat
  step : Nat
  /-- Whether the value is a code point that moves along with the run. -/
  moving : Bool
  value : List Char
deriving Repr

namespace Run

def covers (run : Run) (code : Nat) : Bool :=
  run.first ≤ code && code ≤ run.last && (code - run.first) % run.step == 0

/-- The number of a hexadecimal numeral at the start of a text. -/
def readCode (chars : List Char) : Nat × List Char :=
  let (digits, rest) := spanDigits 16 chars
  (numberOfDigits 16 digits, rest)

def ofWord (word : List Char) : Run :=
  let (first, rest) := readCode word
  let (last, step, rest) := match rest with
    | '-' :: tail => let (last, rest) := readCode tail; (last, 1, rest)
    | '~' :: tail => let (last, rest) := readCode tail; (last, 2, rest)
    | _ => (first, 1, rest)
  ⟨first, last, step, rest.head? == some '>', rest.drop 1⟩

/-- Code points with points between them. -/
def codes (value : List Char) : List Nat :=
  ((value.splitOn '.').filter (! ·.isEmpty)).map fun numeral => (readCode numeral).1

/-- What a code point of the run is mapped to. -/
def target (run : Run) (code : Nat) : List Nat :=
  if run.moving then [(readCode run.value).1 + (code - run.first)] else codes run.value

end Run

/-- The runs of a written table. -/
def runsOfTable (table : String) : List Run :=
  ((table.toList.splitOnP fun c => c == ' ' || c == '\n').filter (! ·.isEmpty)).map Run.ofWord

def findRun? (runs : List Run) (code : Nat) : Option Run :=
  runs.find? (·.covers code)

end RangeCatalog.Unicode
