import RangeCatalog.Unicode.CombiningClassTable
import RangeCatalog.Unicode.CompositionTable
import RangeCatalog.Unicode.Table

/-! # Normalization form C

Texts that differ only in how their characters are composed have one normal form. Each character is
taken apart, marks that follow one another are put into the order of their combining classes, and what
can be composed is composed again. Texts are lists of code points here.
-/

namespace RangeCatalog.Unicode

/-- The combining classes by runs of code points. -/
def combiningClasses : List (Run × Nat) :=
  (runsOfTable combiningClassTable).map fun run => (run, (Run.readCode run.value).1)

def combiningClass (code : Nat) : Nat :=
  if code < 0x300 then 0
  else ((combiningClasses.find? fun (run, _) => run.covers code).map (·.2)).getD 0

/-- The composed code points with their two parts. -/
def compositions : List (Nat × Nat × Nat) :=
  (runsOfTable compositionTable).filterMap fun run =>
    match Run.codes run.value with
    | [a, b] => some (run.first, a, b)
    | _ => none

namespace Hangul

/-- The first syllable and the first code points of the leading, vowel and trailing parts. The
trailing part that is absent counts as the first one. -/
def syllables : Nat := 0xac00

@[inherit_doc syllables]
def leads : Nat := 0x1100

@[inherit_doc syllables]
def vowels : Nat := 0x1161

@[inherit_doc syllables]
def trails : Nat := 0x11a7

/-- The parts of a syllable. -/
def decompose? (code : Nat) : Option (List Nat) :=
  if syllables ≤ code ∧ code < syllables + 19 * 21 * 28 then
    let index := code - syllables
    let pair := [leads + index / (21 * 28), vowels + index / 28 % 21]
    some (if index % 28 = 0 then pair else pair ++ [trails + index % 28])
  else none

/-- The syllable of a leading part and a vowel, or of such a syllable and a trailing part. -/
def compose? (a b : Nat) : Option Nat :=
  if leads ≤ a ∧ a < leads + 19 ∧ vowels ≤ b ∧ b < vowels + 21 then
    some (syllables + ((a - leads) * 21 + (b - vowels)) * 28)
  else if syllables ≤ a ∧ a < syllables + 19 * 21 * 28 ∧ (a - syllables) % 28 = 0 ∧
      trails < b ∧ b < trails + 28 then
    some (a + (b - trails))
  else none

end Hangul

/-- How often the first part of a composed character may be composed itself. -/
def maxNesting : Nat := 8

/-- The parts of a character. -/
def decompose : (nesting : Nat) → (code : Nat) → List Nat
  | 0, code => [code]
  | nesting + 1, code =>
    if code < 0x80 then [code]
    else match Hangul.decompose? code with
      | some parts => parts
      | none =>
        match compositions.find? (·.1 == code) with
        | some (_, a, b) => decompose nesting a ++ [b]
        | none => [code]

/-- Puts marks that follow one another into the order of their classes. The first argument holds the
marks since the last character of class zero. -/
def reorder (marks : List (Nat × Nat)) : List (Nat × Nat) → List (Nat × Nat)
  | [] => marks.mergeSort fun a b => a.2 ≤ b.2
  | (code, 0) :: rest => marks.mergeSort (fun a b => a.2 ≤ b.2) ++ (code, 0) :: reorder [] rest
  | mark :: rest => reorder (marks ++ [mark]) rest

/-- The character that two parts make. -/
def compose? (a b : Nat) : Option Nat :=
  (Hangul.compose? a b).orElse fun _ =>
    (compositions.find? fun (_, first, second) => first == a && second == b).map (·.1)

/-- What has been composed: the finished part, and the last character of class zero with the marks
that stand after it. -/
structure Composition where
  finished : List Nat
  starter : Option Nat
  marks : List Nat
  lastClass : Nat

namespace Composition

def toList (composition : Composition) : List Nat :=
  composition.finished ++ composition.starter.toList ++ composition.marks

/-- Takes a code point and its class. It composes with the last character of class zero unless a mark
between them has the same class or a greater one. -/
def step (composition : Composition) (item : Nat × Nat) : Composition :=
  let (code, order) := item
  let open? := composition.marks.isEmpty || composition.lastClass < order
  match (if open? then composition.starter.bind (compose? · code) else none) with
  | some composed => { composition with starter := some composed }
  | none =>
    if order = 0 then ⟨composition.toList, some code, [], 0⟩
    else { composition with marks := composition.marks ++ [code], lastClass := order }

end Composition

/-- The normal form of a text. -/
def normalize (codes : List Nat) : List Nat :=
  let parts := codes.flatMap (decompose maxNesting)
  let ordered := reorder [] (parts.map fun code => (code, combiningClass code))
  (ordered.foldl Composition.step ⟨[], none, [], 0⟩).toList

end RangeCatalog.Unicode
