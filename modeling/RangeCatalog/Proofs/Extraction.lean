import RangeCatalog.Extraction
import RangeCatalog.Proofs.Outcome

/-! # What payloads declare

A payload declares some range texts when the array of its layout is there and every item of it has the
shape of the layout. Extraction yields exactly the declared texts, and fails for every other payload.
-/

namespace RangeCatalog

namespace Layout

/-- The name of the array that lists the ranges. -/
def arrayName : Layout → String
  | prefixObjects => "prefixes"
  | textArray key => key

/-- The text of an item that has the shape of the layout: the one of two fields that is there, or the
item itself. -/
def ItemText (layout : Layout) (item : Json) (text : String) : Prop :=
  match layout with
  | prefixObjects => ∃ fields, item = .object fields ∧
      (fields.lookup "ipv4Prefix" = some (.string text) ∧ fields.lookup "ipv6Prefix" = none ∨
        fields.lookup "ipv4Prefix" = none ∧ fields.lookup "ipv6Prefix" = some (.string text))
  | textArray _ => item = .string text

/-- A layout whose array, where the source names it, has a name. -/
def Keyed (layout : Layout) : Prop :=
  ∀ key, layout = textArray key → isBlankText key = false

/-- The time stamp beside the array, which only one layout has. -/
def stamp? (payload : Payload) : Layout → Option Instant
  | prefixObjects => Extraction.stamp? payload
  | textArray _ => none

end Layout

/-- Whether the items of the declared array are well-shaped and hold the given texts, in order. -/
def Payload.Declares (payload : Payload) (layout : Layout) (texts : List String) : Prop :=
  ∃ items, payload.field? layout.arrayName = some (.array items) ∧
    List.Forall₂ layout.ItemText items texts

namespace Extraction

theorem prefixText_eq_ok_iff {url path text : String} {item : Json} :
    prefixText url path item = .ok text ↔ Layout.prefixObjects.ItemText item text := by
  cases item with
  | object fields =>
    simp only [Layout.ItemText, Json.object.injEq, exists_eq_left', prefixText]
    split
    · rename_i found first second
      rw [first, second]
      simp
    · rename_i found first second
      rw [first, second]
      simp
    · rename_i notFirst notSecond
      constructor
      · simp
      · rintro (⟨first, second⟩ | ⟨first, second⟩)
        · exact absurd second (notFirst text first)
        · exact absurd second (notSecond text first)
  | _ => simp [Layout.ItemText, prefixText]

theorem plainText_eq_ok_iff {url path text : String} {item : Json} (key : String) :
    plainText url path item = .ok text ↔ (Layout.textArray key).ItemText item text := by
  cases item <;> simp [Layout.ItemText, plainText]

/-- Reading an array yields a text for each item, wherever the item stands. -/
theorem readItems_eq_ok_iff {field : String} {read : String → Json → Except ShapeError String}
    {Shaped : Json → String → Prop}
    (reads : ∀ path item text, read path item = .ok text ↔ Shaped item text) {index : Nat}
    {items : List Json} {texts : List String} :
    readItems field read index items = .ok texts ↔ List.Forall₂ Shaped items texts := by
  induction items generalizing index texts with
  | nil => simp [readItems, eq_comm]
  | cons item rest ih =>
    rw [readItems, List.forall₂_cons_left_iff]
    simp only [bind_eq_ok_iff, reads, ih, pure, Except.pure, Except.ok.injEq]
    constructor
    · rintro ⟨text, first, others, tail, rfl⟩
      exact ⟨text, others, first, tail, rfl⟩
    · rintro ⟨text, others, first, tail, rfl⟩
      exact ⟨text, first, others, tail, rfl⟩

theorem readArray_eq_ok_iff {payload : Payload} {url : String} {layout : Layout}
    {read : String → Json → Except ShapeError String}
    (reads : ∀ path item text, read path item = .ok text ↔ layout.ItemText item text)
    {texts : List String} :
    readArray payload url layout.arrayName read = .ok texts ↔ payload.Declares layout texts := by
  have items (value : Json) (items : List Json) :
      value.items? = some items ↔ value = .array items := by
    cases value <;> simp [Json.items?]
  rw [readArray, Payload.Declares]
  split
  · rename_i missing
    simp only [reduceCtorEq, false_iff, not_exists, not_and]
    intro found present
    simp [present, Json.items?] at missing
  · rename_i found present
    obtain ⟨value, field, listed⟩ := Option.bind_eq_some_iff.mp present
    rw [items] at listed
    subst listed
    simp [field, readItems_eq_ok_iff reads]

/-- Extraction yields the declared texts in order and the time stamp beside them, and nothing else. -/
theorem ofPayload_eq_ok_iff {payload : Payload} {source : Source} {extraction : Extraction} :
    ofPayload payload source = .ok extraction ↔
      source.layout.Keyed ∧ payload.Declares source.layout extraction.rangeTexts ∧
        extraction.stamp = source.layout.stamp? payload := by
  obtain ⟨texts, stamp⟩ := extraction
  cases layout : source.layout with
  | prefixObjects =>
    have read : readArray payload source.url prefixesField (prefixText source.url) = .ok texts ↔
        payload.Declares .prefixObjects texts :=
      readArray_eq_ok_iff fun _ _ _ => prefixText_eq_ok_iff
    simp only [ofPayload, layout, ofPrefixObjects, bind_eq_ok_iff, pure, Except.pure, Except.ok.injEq,
      Extraction.mk.injEq, Layout.Keyed, reduceCtorEq, false_implies, implies_true, true_and,
      Layout.stamp?]
    constructor
    · rintro ⟨found, listed, rfl, rfl⟩
      exact ⟨read.mp listed, rfl⟩
    · rintro ⟨declared, rfl⟩
      exact ⟨texts, read.mpr declared, rfl, rfl⟩
  | textArray key =>
    have read : readArray payload source.url key (plainText source.url) = .ok texts ↔
        payload.Declares (.textArray key) texts :=
      readArray_eq_ok_iff fun _ _ _ => plainText_eq_ok_iff key
    simp only [ofPayload, layout, ofTextArray, Layout.Keyed, Layout.textArray.injEq, forall_eq',
      Layout.stamp?]
    by_cases blank : isBlankText key = true
    · simp [blank]
    · rw [if_neg blank]
      simp only [bind_eq_ok_iff, pure, Except.pure, Except.ok.injEq, Extraction.mk.injEq]
      constructor
      · rintro ⟨found, listed, rfl, rfl⟩
        exact ⟨by simpa using blank, read.mp listed, rfl⟩
      · rintro ⟨_, declared, rfl⟩
        exact ⟨texts, read.mpr declared, rfl, rfl⟩

/-! ### Missing keys -/

private theorem readItems_eq_error {field : String} {read : String → Json → Except ShapeError String}
    {index : Nat} {items : List Json} {error : ShapeError}
    (refused : readItems field read index items = .error error) :
    ∃ path item, read path item = .error error := by
  induction items generalizing index with
  | nil => contradiction
  | cons item rest ih =>
    rw [readItems, bind_eq_error_iff] at refused
    rcases refused with first | ⟨text, _, later⟩
    · exact ⟨_, _, first⟩
    · rcases bind_eq_error_iff.mp later with others | ⟨_, _, made⟩
      · exact ih others
      · contradiction

private theorem readArray_eq_error {payload : Payload} {url field : String}
    {read : String → Json → Except ShapeError String} {error : ShapeError}
    (refused : readArray payload url field read = .error error) :
    error = .missingArray url field ∨ ∃ path item, read path item = .error error := by
  rw [readArray] at refused
  split at refused
  · exact .inl (Except.error.inj refused).symm
  · exact .inr (readItems_eq_error refused)

/-- The reading of an item never reports a missing key. -/
theorem prefixText_ne_missingKey (url path setId : String) (item : Json) :
    prefixText url path item ≠ .error (.missingKey setId) := by
  unfold prefixText
  split
  · split <;> simp
  · simp

@[inherit_doc prefixText_ne_missingKey]
private theorem plainText_ne_missingKey (url path setId : String) (item : Json) :
    plainText url path item ≠ .error (.missingKey setId) := by
  unfold plainText
  split <;> simp

private theorem readArray_ne_missingKey {read : String → Json → Except ShapeError String} {setId : String}
    (reads : ∀ path item, read path item ≠ .error (.missingKey setId)) (payload : Payload)
    (url field : String) : readArray payload url field read ≠ .error (.missingKey setId) := by
  intro refused
  rcases readArray_eq_error refused with other | ⟨path, item, here⟩
  · contradiction
  · exact reads path item here

/-- A missing key is reported where the layout has none, and nowhere else. -/
theorem ofPayload_eq_missingKey_iff {payload : Payload} {source : Source} {setId : String} :
    ofPayload payload source = .error (.missingKey setId) ↔
      ¬source.layout.Keyed ∧ setId = source.setId := by
  cases layout : source.layout with
  | prefixObjects =>
    have read := readArray_ne_missingKey (prefixText_ne_missingKey source.url · setId) payload source.url
      prefixesField
    simp [ofPayload, layout, ofPrefixObjects, bind_eq_error_iff, read, Layout.Keyed, pure, Except.pure]
  | textArray key =>
    have read := readArray_ne_missingKey (plainText_ne_missingKey source.url · setId) payload source.url
      key
    simp only [ofPayload, layout, ofTextArray, Layout.Keyed, Layout.textArray.injEq, forall_eq']
    cases blank : isBlankText key with
    | true => simp [eq_comm]
    | false => simp [bind_eq_error_iff, read, pure, Except.pure]

end Extraction

/-! ## Payloads that look alike -/

/-- Whether two items look alike to a layout. -/
def Layout.LookAlike (layout : Layout) (item other : Json) : Prop :=
  match layout with
  | prefixObjects => item.isObject = other.isObject ∧
      item.field? "ipv4Prefix" = other.field? "ipv4Prefix" ∧
      item.field? "ipv6Prefix" = other.field? "ipv6Prefix"
  | textArray _ => item.text? = other.text?

/-- Whether two payloads agree in all that a layout reads: the declared array, where its items look alike in
pairs, and the time stamp. -/
structure Payload.Agrees (layout : Layout) (payload other : Payload) : Prop where
  items : Option.Rel (List.Forall₂ layout.LookAlike)
    ((payload.field? layout.arrayName).bind Json.items?) ((other.field? layout.arrayName).bind Json.items?)
  stamp : layout.stamp? payload = layout.stamp? other

namespace Extraction

private theorem prefixText_congr {item other : Json} (alike : Layout.prefixObjects.LookAlike item other)
    (url path : String) : prefixText url path item = prefixText url path other := by
  obtain ⟨object, first, second⟩ := alike
  cases item <;> cases other <;> simp_all [prefixText, Json.isObject, Json.field?]

private theorem plainText_congr {key : String} {item other : Json}
    (alike : (Layout.textArray key).LookAlike item other) (url path : String) :
    plainText url path item = plainText url path other := by
  have same : item.text? = other.text? := alike
  cases item <;> cases other <;> simp_all [plainText, Json.text?]

/-- Items that look alike are read alike, up to the same first refusal. -/
theorem readItems_congr {layout : Layout} {field : String}
    {read : String → Json → Except ShapeError String}
    (reads : ∀ path item other, layout.LookAlike item other → read path item = read path other)
    {items others : List Json} (alike : List.Forall₂ layout.LookAlike items others) (index : Nat) :
    readItems field read index items = readItems field read index others := by
  induction alike generalizing index with
  | nil => rfl
  | cons first _ ih => rw [readItems, readItems, reads _ _ _ first, ih]

private theorem readArray_congr {layout : Layout} {payload other : Payload}
    {read : String → Json → Except ShapeError String}
    (reads : ∀ path item other, layout.LookAlike item other → read path item = read path other)
    (agrees : payload.Agrees layout other) (url : String) :
    readArray payload url layout.arrayName read = readArray other url layout.arrayName read := by
  have items := agrees.items
  simp only [readArray]
  generalize (payload.field? layout.arrayName).bind Json.items? = listed at items ⊢
  generalize (other.field? layout.arrayName).bind Json.items? = others at items ⊢
  cases items with
  | none => rfl
  | some alike => exact readItems_congr reads alike 0

/-- Extraction does not depend on anything else in a payload. -/
theorem ofPayload_congr {source : Source} {payload other : Payload}
    (agrees : payload.Agrees source.layout other) : ofPayload payload source = ofPayload other source := by
  cases layout : source.layout with
  | prefixObjects =>
    rw [layout] at agrees
    have stamp : stamp? payload = stamp? other := agrees.stamp
    have read := readArray_congr (fun path _ _ alike => prefixText_congr alike source.url path) agrees
      source.url
    simp only [Layout.arrayName] at read
    simp only [ofPayload, layout, ofPrefixObjects, prefixesField, read, stamp]
  | textArray key =>
    rw [layout] at agrees
    have read := readArray_congr (fun path _ _ alike => plainText_congr alike source.url path) agrees
      source.url
    simp only [Layout.arrayName] at read
    simp only [ofPayload, layout, ofTextArray, read]

end Extraction

end RangeCatalog
