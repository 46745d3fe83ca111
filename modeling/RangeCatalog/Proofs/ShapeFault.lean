import RangeCatalog.Proofs.Extraction

/-! # Which item is blamed

Reading a payload keeps the text of every item at the place of the item, or it names the first item that does
not have the shape of the layout: the path tells its place, and the kind of the error depends on that item
alone. No other field of the payload has a part in this, not even the time stamp.
-/

namespace RangeCatalog

namespace Layout

/-- Whether an item has the shape of the layout. -/
def Fits (layout : Layout) (item : Json) : Prop :=
  ∃ text, layout.ItemText item text

/-- What is reported of an item that does not have the shape of the layout. -/
def fault (layout : Layout) (url path : String) (item : Json) : ShapeError :=
  match layout with
  | prefixObjects => if item.isObject then .notOnePrefix url path else .notAnObject url path
  | textArray _ => .notAString url path

/-- The first of some items that does not have the shape of the layout. -/
structure FirstUnfit (layout : Layout) (items : List Json) (place : Nat) (item : Json) : Prop where
  here : items[place]? = some item
  unfit : ¬layout.Fits item
  before : ∀ earlier < place, ∀ other, items[earlier]? = some other → layout.Fits other

/-- The reading of an item. -/
def readItem (layout : Layout) (url path : String) (item : Json) : Except ShapeError String :=
  match layout with
  | prefixObjects => Extraction.prefixText url path item
  | textArray _ => Extraction.plainText url path item

variable {layout : Layout} {url path : String} {item : Json}

/-! ## One item -/

theorem readItem_eq_ok_iff {text : String} :
    layout.readItem url path item = .ok text ↔ layout.ItemText item text := by
  cases layout with
  | prefixObjects => exact Extraction.prefixText_eq_ok_iff
  | textArray key => exact Extraction.plainText_eq_ok_iff key

/-- An item is refused for what it is, wherever it stands. -/
theorem fault_of_readItem {error : ShapeError} (refused : layout.readItem url path item = .error error) :
    error = layout.fault url path item := by
  cases layout with
  | prefixObjects =>
    cases item with
    | object fields =>
      simp only [readItem, Extraction.prefixText] at refused
      split at refused
      · contradiction
      · contradiction
      · exact (Except.error.inj refused).symm
    | _ => exact (Except.error.inj refused).symm
  | textArray key =>
    cases item with
    | string text => contradiction
    | _ => exact (Except.error.inj refused).symm

theorem readItem_eq_error_iff {error : ShapeError} :
    layout.readItem url path item = .error error ↔ ¬layout.Fits item ∧ error = layout.fault url path item := by
  cases read : layout.readItem url path item with
  | ok text =>
    have fits : layout.Fits item := ⟨text, readItem_eq_ok_iff.mp read⟩
    simp [fits]
  | error cause =>
    have unfit : ¬layout.Fits item := by
      rintro ⟨text, shaped⟩
      rw [readItem_eq_ok_iff.mpr shaped] at read
      contradiction
    rw [Except.error.injEq, ← fault_of_readItem read]
    simp [unfit, eq_comm]

/-! ## All items -/

/-- The first item is blamed, or the first one of the others after an item that fits. -/
theorem firstUnfit_cons_iff {first : Json} {rest : List Json} {place : Nat} :
    layout.FirstUnfit (first :: rest) place item ↔
      place = 0 ∧ first = item ∧ ¬layout.Fits item ∨
        ∃ later, place = later + 1 ∧ layout.Fits first ∧ layout.FirstUnfit rest later item := by
  constructor
  · rintro ⟨here, unfit, before⟩
    cases place with
    | zero => exact .inl ⟨rfl, Option.some.inj here, unfit⟩
    | succ later =>
      refine .inr ⟨later, rfl, before 0 (Nat.succ_pos _) first rfl, here, unfit, ?_⟩
      intro earlier less other found
      exact before (earlier + 1) (Nat.succ_lt_succ less) other found
  · rintro (⟨rfl, rfl, unfit⟩ | ⟨later, rfl, fits, here, unfit, before⟩)
    · exact ⟨rfl, unfit, fun _ less => absurd less (Nat.not_lt_zero _)⟩
    · refine ⟨here, unfit, ?_⟩
      intro earlier less other found
      cases earlier with
      | zero => exact Option.some.inj found ▸ fits
      | succ earlier => exact before earlier (Nat.lt_of_succ_lt_succ less) other found

end Layout

namespace Extraction

variable {layout : Layout} {url : String} {payload : Payload}

theorem readItems_eq_error_iff {field : String} {index : Nat} {items : List Json} {error : ShapeError} :
    readItems field (layout.readItem url) index items = .error error ↔
      ∃ place item, layout.FirstUnfit items place item ∧
        error = layout.fault url (itemPath field (index + place)) item := by
  induction items generalizing index with
  | nil =>
    simp only [readItems, reduceCtorEq, false_iff, not_exists, not_and]
    rintro place item ⟨here, _, _⟩
    simp at here
  | cons first rest ih =>
    simp only [readItems, bind_eq_error_iff, Layout.readItem_eq_error_iff, Layout.readItem_eq_ok_iff, ih,
      Layout.firstUnfit_cons_iff, pure, Except.pure, reduceCtorEq, and_false, exists_false, or_false]
    constructor
    · rintro (⟨unfit, rfl⟩ | ⟨text, shaped, place, item, unfit, rfl⟩)
      · exact ⟨0, first, .inl ⟨rfl, rfl, unfit⟩, rfl⟩
      · exact ⟨place + 1, item, .inr ⟨place, rfl, ⟨text, shaped⟩, unfit⟩, by rw [Nat.add_assoc, Nat.add_comm 1]⟩
    · rintro ⟨place, item, ⟨rfl, rfl, unfit⟩ | ⟨later, rfl, ⟨text, shaped⟩, unfit⟩, rfl⟩
      · exact .inl ⟨unfit, rfl⟩
      · exact .inr ⟨text, shaped, later, item, unfit, by rw [Nat.add_assoc, Nat.add_comm 1]⟩

/-- Reads a payload in a layout. The name of an array of texts is taken as it is. -/
def inLayout (payload : Payload) (url : String) : Layout → Except ShapeError Extraction
  | .prefixObjects => ofPrefixObjects payload url
  | .textArray key => ofTextArray payload url key

private theorem inLayout_eq (payload : Payload) (url : String) (layout : Layout) :
    inLayout payload url layout =
      (readArray payload url layout.arrayName (layout.readItem url)).map (⟨·, layout.stamp? payload⟩) := by
  cases layout <;> rfl

private theorem readArray_of_items {field : String} {read : String → Json → Except ShapeError String}
    {items : List Json} (present : payload.field? field = some (.array items)) :
    readArray payload url field read = readItems field read 0 items := by
  rw [readArray, present]
  rfl

private theorem readArray_of_no_array {field : String} {read : String → Json → Except ShapeError String}
    (missing : ∀ items, payload.field? field ≠ some (.array items)) :
    readArray payload url field read = .error (.missingArray url field) := by
  have none : (payload.field? field).bind Json.items? = .none := by
    cases present : payload.field? field with
    | none => rfl
    | some value =>
      cases value with
      | array items => exact absurd present (missing items)
      | _ => rfl
  rw [readArray, none]

theorem inLayout_eq_ok_iff {items : List Json} (present : payload.field? layout.arrayName = some (.array items))
    {extraction : Extraction} :
    inLayout payload url layout = .ok extraction ↔
      List.Forall₂ layout.ItemText items extraction.rangeTexts ∧ extraction.stamp = layout.stamp? payload := by
  have reads (path : String) (item : Json) (text : String) :
      layout.readItem url path item = .ok text ↔ layout.ItemText item text := Layout.readItem_eq_ok_iff
  rw [inLayout_eq, readArray_of_items present]
  simp only [map_eq_ok_iff, readItems_eq_ok_iff reads]
  constructor
  · rintro ⟨texts, listed, rfl⟩
    exact ⟨listed, rfl⟩
  · rintro ⟨listed, stamp⟩
    exact ⟨extraction.rangeTexts, listed, by rw [← stamp]⟩

theorem inLayout_eq_error_iff {items : List Json}
    (present : payload.field? layout.arrayName = some (.array items)) {error : ShapeError} :
    inLayout payload url layout = .error error ↔
      ∃ place item, layout.FirstUnfit items place item ∧
        error = layout.fault url (itemPath layout.arrayName place) item := by
  rw [inLayout_eq, readArray_of_items present, map_eq_error_iff, readItems_eq_error_iff]
  simp only [Nat.zero_add]

/-- Where the declared array is there, reading succeeds exactly when every item has the shape of the layout, and
then it yields the text of each item at the place of the item. It fails exactly when there is a first item
without the shape, and the error names the URL, the place of that item, and what is wrong with that item alone.
Where the array is not there, the error names it. Nothing but the array decides, so that no time stamp is an
error. -/
theorem lossless_or_first_fault (payload : Payload) (url : String) (layout : Layout) :
    (∀ items, payload.field? layout.arrayName = some (.array items) →
      ((∃ extraction, inLayout payload url layout = .ok extraction) ↔ ∀ item ∈ items, layout.Fits item) ∧
      (∀ extraction, inLayout payload url layout = .ok extraction →
        extraction.stamp = layout.stamp? payload ∧ extraction.rangeTexts.length = items.length ∧
          ∀ (place : Nat) (item : Json), items[place]? = some item →
            ∃ text, extraction.rangeTexts[place]? = some text ∧ layout.ItemText item text) ∧
      ∀ error, inLayout payload url layout = .error error ↔
        ∃ place item, layout.FirstUnfit items place item ∧
          error = layout.fault url (layout.arrayName ++ "[" ++ decimal place ++ "]") item) ∧
    ((∀ items, payload.field? layout.arrayName ≠ some (.array items)) →
      inLayout payload url layout = .error (.missingArray url layout.arrayName)) ∧
    ∀ other : Payload, other.field? layout.arrayName = payload.field? layout.arrayName →
      (inLayout other url layout).map rangeTexts = (inLayout payload url layout).map rangeTexts := by
  refine ⟨?_, ?_, ?_⟩
  · intro items present
    refine ⟨?_, ?_, fun error => inLayout_eq_error_iff present⟩
    · simp only [inLayout_eq_ok_iff present]
      constructor
      · rintro ⟨extraction, listed, _⟩ item member
        obtain ⟨text, _, shaped⟩ := exists_of_mem_right listed.flip member
        exact ⟨text, shaped⟩
      · intro each
        obtain ⟨texts, listed⟩ := exists_forall₂ each
        exact ⟨⟨texts, layout.stamp? payload⟩, listed, rfl⟩
    · intro extraction read
      obtain ⟨listed, stamp⟩ := (inLayout_eq_ok_iff present).mp read
      exact ⟨stamp, listed.length_eq.symm, fun place item here => exists_getElem?_right listed here⟩
  · intro missing
    rw [inLayout_eq, readArray_of_no_array missing]
    rfl
  · intro other same
    have read : readArray other url layout.arrayName (layout.readItem url) =
        readArray payload url layout.arrayName (layout.readItem url) := by
      rw [readArray, readArray, same]
    rw [inLayout_eq, inLayout_eq, read]
    cases readArray payload url layout.arrayName (layout.readItem url) <;> rfl

/-- An item of the layout with objects that has one text. -/
def goodItem : Json :=
  .object [("ipv4Prefix", .string "192.0.2.0/24")]

/-- An item with both fields, of which one holds no text. -/
def doubleItem : Json :=
  .object [("ipv4Prefix", .string "192.0.2.0/24"), ("ipv6Prefix", .null)]

/-- A document of the layout with objects, and a time stamp that is no text. -/
def listing (items : List Json) : Payload :=
  ⟨[("creationTime", .integer 17), ("prefixes", .array items)]⟩

private theorem fits_goodItem : Layout.prefixObjects.Fits goodItem :=
  ⟨"192.0.2.0/24", _, rfl, .inl ⟨rfl, rfl⟩⟩

private theorem firstUnfit_doubleItem :
    Layout.prefixObjects.FirstUnfit [goodItem, doubleItem, .string "192.0.2.0/24"] 1 doubleItem := by
  refine ⟨rfl, ?_, ?_⟩
  · rintro ⟨text, fields, same, shaped⟩
    cases same
    rcases shaped with ⟨_, none⟩ | ⟨none, _⟩ <;> contradiction
  · intro earlier less other here
    obtain rfl : earlier = 0 := Nat.lt_one_iff.mp less
    cases here
    exact fits_goodItem

/-- The second of three items is blamed, although the third has not the shape either. The first item alone is
read, and without the array its name is blamed. -/
theorem lossless_or_first_fault_second :
    inLayout (listing [goodItem, doubleItem, .string "192.0.2.0/24"]) "https://openai.com/gptbot.json"
        .prefixObjects =
      .error (.notOnePrefix "https://openai.com/gptbot.json" "prefixes[1]") ∧
    (∃ extraction,
      inLayout (listing [goodItem]) "https://openai.com/gptbot.json" .prefixObjects = .ok extraction ∧
        extraction.rangeTexts.length = 1 ∧
        ∃ text, extraction.rangeTexts[0]? = some text ∧ Layout.prefixObjects.ItemText goodItem text) ∧
    inLayout (listing [goodItem]) "https://openai.com/gptbot.json" (.textArray "copilot") =
      .error (.missingArray "https://openai.com/gptbot.json" "copilot") := by
  obtain ⟨three, _⟩ := lossless_or_first_fault (listing [goodItem, doubleItem, .string "192.0.2.0/24"])
    "https://openai.com/gptbot.json" .prefixObjects
  obtain ⟨one, _⟩ := lossless_or_first_fault (listing [goodItem]) "https://openai.com/gptbot.json" .prefixObjects
  obtain ⟨_, unnamed, _⟩ := lossless_or_first_fault (listing [goodItem]) "https://openai.com/gptbot.json"
    (.textArray "copilot")
  obtain ⟨_, _, blames⟩ := three _ rfl
  obtain ⟨reads, keeps, _⟩ := one _ rfl
  obtain ⟨extraction, read⟩ := reads.mpr (List.forall_mem_singleton.mpr fits_goodItem)
  obtain ⟨_, length, texts⟩ := keeps extraction read
  refine ⟨(blames _).mpr ⟨1, _, firstUnfit_doubleItem, rfl⟩, ⟨extraction, read, length, texts 0 _ rfl⟩, ?_⟩
  exact unnamed fun items present => by contradiction

end Extraction

end RangeCatalog
