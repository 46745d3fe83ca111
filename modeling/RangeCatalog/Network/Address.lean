import RangeCatalog.Text.Blank

/-! # Network addresses

An address is a number below two to the width of its family. Addresses of both families share one
type, so that every later rule is stated once.
-/

namespace RangeCatalog

inductive Family where
  | v4
  | v6
deriving DecidableEq, Repr

namespace Family

def width : Family → Nat
  | v4 => 32
  | v6 => 128

def version : Family → Nat
  | v4 => 4
  | v6 => 6

/-- The shortest prefix that is accepted, which keeps one source from claiming a large share of the
address space. -/
def minPrefix : Family → Nat
  | v4 => 8
  | v6 => 24

theorem version_injective {a b : Family} (same : a.version = b.version) : a = b := by
  cases a <;> cases b <;> simp_all [version]

end Family

structure Address where
  family : Family
  value : Nat
  value_lt : value < Nat.pow 2 family.width
deriving DecidableEq

namespace Address

/-- The address of a family with the given number, counted modulo the size of its space. -/
def ofNat (family : Family) (value : Nat) : Address where
  family := family
  value := value % Nat.pow 2 family.width
  value_lt := Nat.mod_lt _ (Nat.two_pow_pos _)

theorem ofNat_value (address : Address) : ofNat address.family address.value = address := by
  rcases address with ⟨family, value, value_lt⟩
  simp only [ofNat, Nat.mod_eq_of_lt value_lt]

end Address

end RangeCatalog
