import RangeCatalog.Network.AddressText

/-! # Address blocks

A block is what one entry of a published list denotes: all addresses that share a prefix. Reading is
strict. It never masks host bits away and it refuses blocks so broad that one source could claim a
large share of the address space. Blocks are ordered by version, address and prefix length.
-/

namespace RangeCatalog

/-- An address with a prefix length, before any check. -/
structure PrefixedAddress where
  address : Address
  length : Nat
  length_le : length ≤ address.family.width
deriving DecidableEq

namespace PrefixedAddress

def size (block : PrefixedAddress) : Nat :=
  Nat.pow 2 (block.address.family.width - block.length)

/-- The bits of the address below its prefix. -/
def hostBits (block : PrefixedAddress) : Nat :=
  block.address.value % block.size

/-- The longest numeral of a prefix length. -/
def lengthDigits : Family → Nat
  | .v4 => 2
  | .v6 => 3

/-- Reads an address, a slash and a prefix length. -/
def readFamily (family : Family) (chars : List Char) : Option PrefixedAddress := do
  let (address, rest) ← AddressGrammar.prefixed.readAddress family chars
  match rest with
  | '/' :: numeral =>
    let (length, tail) ←
      AddressGrammar.readNumber 10 (lengthDigits family) (family.width + 1) numeral
    if length_le : length ≤ address.family.width ∧ tail = [] then
      some ⟨address, length, length_le.1⟩
    else none
  | _ => none

/-- Reads a text as an address with its prefix length. Without a slash the address stands for
itself alone. -/
def ofText? (text : String) : Option PrefixedAddress :=
  let chars := text.toList
  if '/' ∈ chars then [Family.v4, Family.v6].findSome? (readFamily · chars)
  else (Address.ofText? text).map fun address => ⟨address, address.family.width, Nat.le_refl _⟩

end PrefixedAddress

/-- Why a list of range texts is refused. -/
inductive RangeError where
  | empty
  | invalid (text : String)
  | hostBitsSet (text : String)
  | tooBroad (text : String) (family : Family)
  | noRanges
  | tooMany (count : Nat)
deriving DecidableEq, Repr

/-- An accepted block: no bit below its prefix is set, and the prefix is long enough. -/
structure Block where
  family : Family
  network : Nat
  length : Nat
  network_lt : network < Nat.pow 2 family.width
  length_le : length ≤ family.width
  length_ge : family.minPrefix ≤ length
  aligned : network % Nat.pow 2 (family.width - length) = 0

namespace Block

/-- The family, the network and the prefix length make up a block. -/
theorem eq_of_fields {a b : Block} (family : a.family = b.family) (network : a.network = b.network)
    (length : a.length = b.length) : a = b := by
  rcases a with ⟨_, _, _, _, _, _, _⟩
  rcases b with ⟨_, _, _, _, _, _, _⟩
  simp only at family network length
  subst family network length
  rfl

instance : DecidableEq Block := fun a b =>
  decidable_of_iff (a.family = b.family ∧ a.network = b.network ∧ a.length = b.length)
    ⟨fun same => eq_of_fields same.1 same.2.1 same.2.2, fun same => same ▸ ⟨rfl, rfl, rfl⟩⟩

def version (block : Block) : Nat :=
  block.family.version

def firstAddress (block : Block) : Address :=
  ⟨block.family, block.network, block.network_lt⟩

def size (block : Block) : Nat :=
  Nat.pow 2 (block.family.width - block.length)

def lastAddress (block : Block) : Address :=
  Address.ofNat block.family (block.network + (block.size - 1))

def contains (block : Block) (address : Address) : Prop :=
  address.family = block.family ∧ block.network ≤ address.value ∧
    address.value < block.network + block.size

instance (block : Block) (address : Address) : Decidable (block.contains address) :=
  inferInstanceAs (Decidable (_ ∧ _ ∧ _))

/-- The canonical text: the first address, a slash and the prefix length. -/
def text (block : Block) : String :=
  block.firstAddress.text ++ "/" ++ decimal block.length

/-- Accepts a prefixed address that keeps the rules of a block. The host bits are looked at before
the breadth. The given text is what an error shows. -/
def ofPrefixed (text : String) (range : PrefixedAddress) : Except RangeError Block :=
  if aligned : range.hostBits = 0 then
    if length_ge : range.address.family.minPrefix ≤ range.length then
      .ok ⟨range.address.family, range.address.value, range.length, range.address.value_lt,
        range.length_le, length_ge, aligned⟩
    else .error (.tooBroad text range.address.family)
  else .error (.hostBitsSet text)

/-- Reads one range text. Blanks around it do not count, and errors show the text without them. -/
def ofText (value : String) : Except RangeError Block :=
  let text := trim value
  if text.isEmpty then .error .empty
  else match PrefixedAddress.ofText? text with
    | none => .error (.invalid text)
    | some range => ofPrefixed text range

/-- The canonical order: version, then network address, then prefix length. -/
def order : Block → Block → Ordering :=
  compareLex (compareOn version) (compareLex (compareOn network) (compareOn length))

instance : Std.TransCmp order :=
  inferInstanceAs (Std.TransCmp (compareLex (compareOn version) _))

/-- Whether `a` does not come after `b` in the canonical order. -/
def before (a b : Block) : Bool :=
  (order a b).isLE

theorem order_eq_iff {a b : Block} : order a b = .eq ↔ a = b := by
  constructor
  · intro same
    simp only [order, compareLex_eq_eq, compareOn, Std.compare_eq_iff_eq] at same
    exact eq_of_fields (Family.version_injective same.1) same.2.1 same.2.2
  · rintro rfl
    exact Std.ReflCmp.compare_self

end Block

end RangeCatalog
