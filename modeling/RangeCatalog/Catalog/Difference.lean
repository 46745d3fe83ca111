import RangeCatalog.Catalog.Basic

/-! # Differences between catalogs

A stored document is compared with a catalog by its checked fields alone, and without regard to the
order of its sets. Both are brought into a checked form: the version, and the sets with exactly the
checked fields, sorted by id. A stored document may be any JSON.
-/

namespace RangeCatalog

/-- One way in which a stored document differs from a catalog. -/
inductive Difference where
  /-- The versions differ; both are shown as JSON. -/
  | version (stored rebuilt : String)
  | missing (id : String)
  | unexpected (id : String)
  | changed (id : String)
  /-- The lists of sets differ, but no single set does. -/
  | layout
deriving DecidableEq, Repr

def Difference.message : Difference → String
  | version stored rebuilt => "catalog_version " ++ stored ++ " != " ++ rebuilt
  | missing id => "set " ++ id ++ " missing from current file"
  | unexpected id => "set " ++ id ++ " no longer produced"
  | changed id => "set " ++ id ++ " changed"
  | layout => "set list layout differs"

/-- What of a document is compared. -/
structure CheckedForm where
  version : Json
  sets : List Json
deriving DecidableEq, Repr

namespace CheckedForm

/-- The key by which sets are sorted: a text itself, nothing for null and for a missing id, and the
compact form of any other value. -/
def sortKey (set : Json) : String :=
  match set.field? "id" with
  | some (.string id) => id
  | some .null => ""
  | none => ""
  | some other => other.compact

/-- A set with exactly the checked fields. Missing ones are null. -/
def checkedSet (set : Json) : Json :=
  .ofFields (Entry.fieldNames.map fun name => (name, (set.field? name).getD .null))

/-- The checked form of a document. Entries that are not objects do not count. -/
def ofJson (document : Json) : CheckedForm :=
  let items := ((document.field? "sets").bind Json.items?).getD []
  let sets := (items.filter Json.isObject).map checkedSet
  { version := (document.field? "catalog_version").getD .null
    sets := sets.mergeSort fun a b => sortKey a ≤ sortKey b }

def toJson (form : CheckedForm) : Json :=
  .ofFields [("catalog_version", form.version), ("sets", .array form.sets)]

/-- The sets by their keys in increasing order. Of sets with one key the last one counts. -/
def byKey (form : CheckedForm) : List (String × Json) :=
  form.sets.foldl (fun sorted set => Json.setField (sortKey set) set sorted) []

def versionDifference (stored rebuilt : CheckedForm) : List Difference :=
  if stored.version = rebuilt.version then []
  else [.version stored.version.compact rebuilt.version.compact]

/-- The differences of single sets: those that the stored form lacks or has otherwise, then those that
it has in addition, each in increasing order of keys. -/
def setDifferences (stored rebuilt : CheckedForm) : List Difference :=
  let ofRebuilt (id : String) (set : Json) : Option Difference :=
    match stored.byKey.lookup id with
    | none => some (.missing id)
    | some present => if present = set then none else some (.changed id)
  let ofStored (id : String) : Option Difference :=
    if (rebuilt.byKey.lookup id).isSome then none else some (.unexpected id)
  rebuilt.byKey.filterMap (fun (id, set) => ofRebuilt id set) ++
    stored.byKey.filterMap (fun (id, _) => ofStored id)

def differences (stored rebuilt : CheckedForm) : List Difference :=
  if stored = rebuilt then []
  else
    let found := versionDifference stored rebuilt ++ setDifferences stored rebuilt
    if found.isEmpty then [.layout] else found

end CheckedForm

/-- The differences between a stored document and a catalog. -/
def Catalog.differencesFrom (catalog : Catalog) (stored : Json) : List Difference :=
  (CheckedForm.ofJson stored).differences (CheckedForm.ofJson catalog.toJson)

end RangeCatalog
