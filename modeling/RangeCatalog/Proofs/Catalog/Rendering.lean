import RangeCatalog.Proofs.Catalog.Document

/-! # Rendered catalogs

What the text of a catalog stands for. Reading it gives the document of the catalog, whose fields are in
increasing order of their names, and decoding that document gives the catalog itself. The texts of a catalog
may hold any characters, and its numbers are signed 64-bit words.
-/

namespace RangeCatalog

/-! ## Decoding -/

namespace Json

/-- An integer that a signed 64-bit word holds. -/
def IsSigned (value : Int) : Prop :=
  -0x8000000000000000 ≤ value ∧ value < 0x8000000000000000

private theorem IsSigned.isWord {value : Int} (signed : IsSigned value) : IsWord value := by
  obtain ⟨least, greatest⟩ := signed
  exact ⟨least, by omega⟩

private theorem IsSigned.word? {value : Int} (signed : IsSigned value) : word? (.integer value) = some value :=
  if_pos signed

/-- What each item is decoded to is what the array is decoded to. -/
theorem all?_map {α : Type} {decode : Json → Option α} {encode : α → Json} {values : List α}
    (each : ∀ value ∈ values, decode (encode value) = some value) :
    (array (values.map encode)).all? decode = some values := by
  rw [all?]
  induction values with
  | nil => rfl
  | cons value rest ih =>
    have first := each value List.mem_cons_self
    have others := ih fun other member => each other (List.mem_cons_of_mem _ member)
    rw [List.map_cons, List.mapM_cons, first, others]
    rfl

private theorem optional?_ofOption {α : Type} {decode : Json → Option α} {encode : α → Json} {value : Option α}
    (present : ∀ known, value = some known →
      decode (encode known) = some known ∧ encode known ≠ .null) :
    (ofOption encode value).optional? decode = some value := by
  cases value with
  | none => rfl
  | some known =>
    obtain ⟨decoded, some⟩ := present known rfl
    rw [ofOption, optional?, decoded]
    · rfl
    · exact some

end Json

/-! ## Entries -/

namespace Entry

/-- The entry as a document, in which the fields are in increasing order of their names. -/
def document (entry : Entry) : Json :=
  .object
    [("cidrs", .array (entry.ranges.map .string)),
      ("id", .string entry.id),
      ("label", .string entry.label),
      ("provider", .string entry.provider),
      ("source_timestamp", .ofOption .string entry.sourceStamp),
      ("source_timestamp_unix", .ofOption .integer entry.sourceStampSeconds),
      ("source_url", .string entry.sourceUrl),
      ("version", .string entry.version)]

theorem canonical_toJson (entry : Entry) : Json.canonical entry.toJson = entry.document := by
  have values : (fieldNames.zip entry.fieldValues).map (fun field => (field.1, field.2.canonical)) =
      fieldNames.zip entry.fieldValues := by
    have same : ∀ field ∈ fieldNames.zip entry.fieldValues,
        (field.1, field.2.canonical) = field := by
      intro field member
      rw [canonical_of_mem_fieldValues (List.of_mem_zip member).2]
    exact (List.map_congr_left same).trans (List.map_id' _)
  have sorted : Json.ofFields (fieldNames.zip entry.fieldValues) = entry.document := by
    simp (disch := decide) only [Json.ofFields, fieldNames, fieldValues, document, List.zip_cons_cons,
      List.zip_nil_left, List.foldl_cons, List.foldl_nil, Json.setField_nil, Json.setField_before,
      Json.setField_after]
  rw [toJson, Json.canonical, Json.canonicalFields_eq_map, values, sorted]

private theorem ofJson?_document {entry : Entry}
    (signed : ∀ seconds, entry.sourceStampSeconds = some seconds → Json.IsSigned seconds) :
    ofJson? entry.document = some entry := by
  have stamp : (Json.ofOption .string entry.sourceStamp).optional? Json.text? = some entry.sourceStamp :=
    Json.optional?_ofOption fun _ _ => ⟨rfl, by simp⟩
  have seconds : (Json.ofOption .integer entry.sourceStampSeconds).optional? Json.word? =
      some entry.sourceStampSeconds :=
    Json.optional?_ofOption fun known same => ⟨(signed known same).word?, by simp⟩
  have ranges : (Json.array (entry.ranges.map .string)).all? Json.text? = some entry.ranges :=
    Json.all?_map fun _ _ => rfl
  have values : entry.document.record? fieldNames = some entry.fieldValues := rfl
  rw [ofJson?, values]
  simp [fieldValues, stamp, seconds, ranges, Json.text?]

end Entry

/-! ## Catalogs -/

namespace Catalog

variable {catalog : Catalog}

/-- The catalog as a document, in which the fields are in increasing order of their names. -/
def document (catalog : Catalog) : Json :=
  .object
    [("catalog_version", .string catalog.version),
      ("generated_at", .string catalog.generatedAt),
      ("generated_at_unix", .integer catalog.generatedAtSeconds),
      ("sets", .array (catalog.entries.map Entry.document))]

/-- A catalog whose seconds are signed words. -/
structure Signed (catalog : Catalog) : Prop where
  generated : Json.IsSigned catalog.generatedAtSeconds
  stamps : ∀ entry ∈ catalog.entries, ∀ seconds,
    entry.sourceStampSeconds = some seconds → Json.IsSigned seconds

private theorem Signed.timed (signed : catalog.Signed) : catalog.Timed := by
  constructor
  · exact signed.generated.isWord
  · intro entry member seconds stamped
    exact (signed.stamps entry member seconds stamped).isWord

theorem canonical_toJson (catalog : Catalog) : Json.canonical catalog.toJson = catalog.document := by
  have entries : Json.canonicalItems (catalog.entries.map Entry.toJson) =
      catalog.entries.map Entry.document := by
    rw [Json.canonicalItems_eq_map, List.map_map]
    exact List.map_congr_left fun entry _ => entry.canonical_toJson
  simp (disch := decide) only [toJson, document, fieldNames, fieldValues, List.zip_cons_cons,
    List.zip_nil_left, Json.canonical, Json.canonicalFields, entries, Json.ofFields, List.foldl_cons,
    List.foldl_nil, Json.setField_nil, Json.setField_after]

/-- Reading the text of a catalog gives its document. -/
theorem Signed.ofText?_render (signed : catalog.Signed) :
    Json.ofText? catalog.render = some catalog.document := by
  rw [signed.timed.ofText?_render, canonical_toJson]

private theorem Signed.ofJson?_document (signed : catalog.Signed) :
    ofJson? catalog.document = some catalog := by
  have entries : (Json.array (catalog.entries.map Entry.document)).all? Entry.ofJson? =
      some catalog.entries :=
    Json.all?_map fun entry member => Entry.ofJson?_document (signed.stamps entry member)
  have values : catalog.document.record? fieldNames =
      some [.string catalog.version, .string catalog.generatedAt, .integer catalog.generatedAtSeconds,
        .array (catalog.entries.map Entry.document)] := rfl
  rw [ofJson?, values]
  simp [signed.generated.word?, entries, Json.text?]

/-- Catalogs with one text are equal. -/
theorem Signed.eq_of_render {other : Catalog} (signed : catalog.Signed) (otherSigned : other.Signed)
    (same : other.render = catalog.render) : other = catalog := by
  have documents : some other.document = some catalog.document := by
    rw [← otherSigned.ofText?_render, same, signed.ofText?_render]
  have catalogs : some other = some catalog := by
    rw [← otherSigned.ofJson?_document, Option.some.inj documents, signed.ofJson?_document]
  exact Option.some.inj catalogs

/-- The text of a catalog ends with the brace of its object and one newline. -/
theorem exists_toList_render (catalog : Catalog) :
    ∃ inner, catalog.render.toList = '\x7b' :: inner ++ ['\x7d', '\n'] := by
  refine ⟨Json.prettyFields 1 (fieldNames.zip catalog.fieldValues) ++ Json.lineStart 0, ?_⟩
  have newline : "\n".toList = ['\n'] := by simp
  have body : catalog.toJson.prettyChars 0 =
      '\x7b' :: Json.prettyFields 1 (fieldNames.zip catalog.fieldValues) ++ Json.lineStart 0 ++
        ['\x7d'] := rfl
  rw [render, String.toList_append, Json.pretty, String.toList_ofList, newline, body]
  simp

/-- The last of the entries with an id. -/
def lastEntry? (catalog : Catalog) (id : String) : Option Entry :=
  catalog.entries.reverse.find? fun entry => entry.id = id

/-- The baseline of a document has, for each id, the count of the last entry with it. -/
theorem get?_ofJson_document (catalog : Catalog) (id : String) :
    (Baseline.ofJson catalog.document).get? id =
      (catalog.lastEntry? id).map fun entry => entry.ranges.length := by
  have general (entries : List Entry) :
      (entries.map fun entry => (entry.id, entry.ranges.length)).lookup id =
        (entries.find? fun entry => entry.id = id).map fun entry => entry.ranges.length := by
    induction entries with
    | nil => rfl
    | cons entry rest ih =>
      rw [List.map_cons, List.lookup_cons, List.find?_cons, ih]
      by_cases same : entry.id = id
      · simp [same]
      · simp [same, beq_false_of_ne (Ne.symm same)]
  rw [← canonical_toJson, Baseline.ofJson_canonical, Baseline.get?_ofCounts, ← List.map_reverse, general,
    lastEntry?]

private theorem differencesFrom_document (catalog : Catalog) : catalog.differencesFrom catalog.document = [] := by
  rw [← canonical_toJson]
  exact differencesFrom_canonical rfl rfl

/-- The text of a catalog is read as its document. The document does not differ from the catalog, counts its
ranges and is decoded to it. So two catalogs never share a text. -/
theorem render_read_back (catalog : Catalog) (signed : catalog.Signed) :
    Json.ofText? catalog.render = some catalog.document ∧
    catalog.differencesFrom catalog.document = [] ∧
    (∀ id, (Baseline.ofJson catalog.document).get? id =
      (catalog.lastEntry? id).map fun entry => entry.ranges.length) ∧
    ofJson? catalog.document = some catalog ∧
    (∃ inner, catalog.render.toList = '\x7b' :: inner ++ ['\x7d', '\n']) ∧
    ∀ other : Catalog, other.Signed → other.render = catalog.render → other = catalog := by
  refine ⟨signed.ofText?_render, ?_, ?_, signed.ofJson?_document, ?_, ?_⟩
  · exact catalog.differencesFrom_document
  · exact catalog.get?_ofJson_document
  · exact catalog.exists_toList_render
  · intro other otherSigned same
    exact signed.eq_of_render otherSigned same

/-- A catalog with the least second and the greatest one, with an id that is repeated, with a list that is
empty, and with texts that need escapes. -/
def strained : Catalog :=
  { version := "\"\\/\n\x00\x1fé😀"
    generatedAt := ""
    generatedAtSeconds := -0x8000000000000000
    entries :=
      [{ id := "twice", label := "\t", provider := "\r", sourceUrl := " ", sourceStamp := none
         sourceStampSeconds := some 0x7fffffffffffffff, ranges := ["192.0.2.0/24", "\x7f"], version := "1" },
       { id := "twice", label := "", provider := "", sourceUrl := "", sourceStamp := some "\u2028"
         sourceStampSeconds := none, ranges := [], version := "2" }] }

/-- It is read back, and its baseline has the count of the later entry. -/
theorem render_read_back_strained :
    strained.Signed ∧ Json.ofText? strained.render = some strained.document ∧
    (Baseline.ofJson strained.document).get? "twice" = some 0 ∧
    ofJson? strained.document = some strained := by
  have signed : strained.Signed := by
    refine ⟨⟨by decide, by decide⟩, ?_⟩
    intro entry member seconds stamped
    simp only [strained, List.mem_cons, List.not_mem_nil, or_false] at member
    rcases member with rfl | rfl
    · obtain rfl : 0x7fffffffffffffff = seconds := Option.some.inj stamped
      exact ⟨by decide, by decide⟩
    · contradiction
  obtain ⟨read, _, counted, decoded, _⟩ := render_read_back strained signed
  exact ⟨signed, read, counted "twice", decoded⟩

end Catalog

end RangeCatalog
