import RangeCatalog.Decimal.Binary64

/-! # JSON values

A number is an integer or a finite binary number, and the two never compare equal. The fields of an
object are a list of pairs. A value that was read keeps them in increasing order of their names, each
name once; a value that is to be written keeps them in the order of writing.
-/

namespace RangeCatalog

inductive Json where
  | null
  | bool (value : Bool)
  | integer (value : Int)
  | float (value : Binary64)
  | string (value : String)
  | array (items : List Json)
  | object (fields : List (String × Json))
deriving Inhabited, Repr

namespace Json

mutual

def same : Json → Json → Bool
  | null, null => true
  | bool a, bool b => a == b
  | integer a, integer b => a == b
  | float a, float b => decide (a = b)
  | string a, string b => a == b
  | array a, array b => sameItems a b
  | object a, object b => sameFields a b
  | _, _ => false

def sameItems : List Json → List Json → Bool
  | [], [] => true
  | a :: as, b :: bs => same a b && sameItems as bs
  | _, _ => false

def sameFields : List (String × Json) → List (String × Json) → Bool
  | [], [] => true
  | (m, a) :: as, (n, b) :: bs => m == n && same a b && sameFields as bs
  | _, _ => false

end

mutual

theorem eq_of_same {a b : Json} (h : same a b = true) : a = b := by
  cases a <;> cases b <;> simp only [same, beq_iff_eq, decide_eq_true_eq, Bool.false_eq_true] at h
  case null.null => rfl
  case bool.bool => rw [h]
  case integer.integer => rw [h]
  case float.float => rw [h]
  case string.string => rw [h]
  case array.array => rw [eq_of_sameItems h]
  case object.object => rw [eq_of_sameFields h]

theorem eq_of_sameItems {as bs : List Json} (h : sameItems as bs = true) : as = bs := by
  cases as with
  | nil => cases bs with
    | nil => rfl
    | cons b bs => simp [sameItems] at h
  | cons a as => cases bs with
    | nil => simp [sameItems] at h
    | cons b bs =>
      rw [sameItems, Bool.and_eq_true] at h
      rw [eq_of_same h.1, eq_of_sameItems h.2]

theorem eq_of_sameFields {as bs : List (String × Json)} (h : sameFields as bs = true) : as = bs := by
  cases as with
  | nil => cases bs with
    | nil => rfl
    | cons b bs => simp [sameFields] at h
  | cons a as => cases bs with
    | nil => simp [sameFields] at h
    | cons b bs =>
      obtain ⟨m, a⟩ := a
      obtain ⟨n, b⟩ := b
      rw [sameFields, Bool.and_eq_true, Bool.and_eq_true, beq_iff_eq] at h
      rw [h.1.1, eq_of_same h.1.2, eq_of_sameFields h.2]

end

mutual

theorem same_refl : (a : Json) → same a a = true
  | null => rfl
  | bool _ => by simp [same]
  | integer _ => by simp [same]
  | float _ => by simp [same]
  | string _ => by simp [same]
  | array items => by rw [same]; exact sameItems_refl items
  | object fields => by rw [same]; exact sameFields_refl fields

theorem sameItems_refl : (items : List Json) → sameItems items items = true
  | [] => rfl
  | a :: as => by rw [sameItems, same_refl a, sameItems_refl as]; rfl

theorem sameFields_refl : (fields : List (String × Json)) → sameFields fields fields = true
  | [] => rfl
  | (_, a) :: as => by simp [sameFields, same_refl a, sameFields_refl as]

end

instance : DecidableEq Json := fun a b =>
  decidable_of_iff (same a b = true) ⟨eq_of_same, fun h => h ▸ same_refl a⟩

/-- The fields of an object with one field set, which replaces a field of the same name. Fields in
increasing order of names stay so. -/
def setField (name : String) (value : Json) : List (String × Json) → List (String × Json)
  | [] => [(name, value)]
  | (other, present) :: rest =>
    if name = other then (name, value) :: rest
    else if name < other then (name, value) :: (other, present) :: rest
    else (other, present) :: setField name value rest

/-- The object with some fields. Of fields with one name the last one counts. -/
def ofFields (fields : List (String × Json)) : Json :=
  object (fields.foldl (fun sorted field => setField field.1 field.2 sorted) [])

/-- A field of an object. Other values have no fields. -/
def field? (name : String) : Json → Option Json
  | object fields => fields.lookup name
  | _ => none

def items? : Json → Option (List Json)
  | array items => some items
  | _ => none

def text? : Json → Option String
  | string text => some text
  | _ => none

def isObject : Json → Bool
  | object _ => true
  | _ => false

end Json

end RangeCatalog
