import RangeCatalog.Json.Reader
import RangeCatalog.Proofs.Json.TokenText

/-! # Reading written values

A value is written as a sequence of tokens, and these tokens lead the reader back to the value. What
comes back has its fields in increasing order of their names, each name once. Binary numbers, integers
beyond the 64-bit words and containers that nest too deep do not come back.
-/

namespace RangeCatalog.Json

/-- A value that comes back: it holds no binary number, its integers are words, and at most `room`
containers are nested in it. -/
inductive Faithful : (room : Nat) → Json → Prop where
  | null {room : Nat} : Faithful room .null
  | bool {room : Nat} (value : Bool) : Faithful room (.bool value)
  | integer {room : Nat} {value : Int} (word : IsWord value) : Faithful room (.integer value)
  | string {room : Nat} (value : String) : Faithful room (.string value)
  | array {room : Nat} {items : List Json} (each : ∀ item ∈ items, Faithful room item) :
      Faithful (room + 1) (.array items)
  | object {room : Nat} {fields : List (String × Json)}
      (each : ∀ field ∈ fields, Faithful room field.2) : Faithful (room + 1) (.object fields)

mutual

/-- The value as it is read back. -/
def canonical : Json → Json
  | array items => array (canonicalItems items)
  | object fields => ofFields (canonicalFields fields)
  | value => value

/-- Items as they are read back. -/
def canonicalItems : List Json → List Json
  | [] => []
  | item :: rest => canonical item :: canonicalItems rest

/-- Fields as they are read back, in the order of writing. -/
def canonicalFields : List (String × Json) → List (String × Json)
  | [] => []
  | (name, value) :: rest => (name, canonical value) :: canonicalFields rest

end

theorem canonicalItems_eq_map (items : List Json) : canonicalItems items = items.map canonical := by
  induction items with
  | nil => rfl
  | cons item rest ih => rw [canonicalItems, ih, List.map_cons]

theorem canonicalFields_eq_map (fields : List (String × Json)) :
    canonicalFields fields = fields.map fun field => (field.1, field.2.canonical) := by
  induction fields with
  | nil => rfl
  | cons field rest ih => rw [canonicalFields, ih, List.map_cons]

mutual

/-- The tokens of a value. -/
def tokens : Json → List Token
  | string value => [.text value]
  | array items => .openArray :: (itemTokens items ++ [.closeArray])
  | object fields => .openObject :: (fieldTokens fields ++ [.closeObject])
  | value => [.scalar value]

/-- The tokens of items with commas between them. -/
def itemTokens : List Json → List Token
  | [] => []
  | [item] => tokens item
  | item :: rest => tokens item ++ .comma :: itemTokens rest

/-- The tokens of fields with commas between them. -/
def fieldTokens : List (String × Json) → List Token
  | [] => []
  | [(name, value)] => .text name :: .colon :: tokens value
  | (name, value) :: rest => .text name :: .colon :: (tokens value ++ .comma :: fieldTokens rest)

end

/-! ## From characters to tokens -/

/-- Whether a written form is read as some tokens wherever no numeral goes on after it. -/
def Scans (chars : List Char) (tokens : List Token) : Prop :=
  ∀ rest, Token.EndsNumeral rest →
    Token.all? (chars ++ rest) = (Token.all? rest).map (tokens ++ ·)

namespace Scans

private theorem append {first second : List Char} {tokens others : List Token} (scans : Scans first tokens)
    (after : Scans second others) (breaks : ∀ rest, Token.EndsNumeral (second ++ rest)) :
    Scans (first ++ second) (tokens ++ others) := by
  intro rest ends
  rw [List.append_assoc, scans _ (breaks rest), after rest ends, Option.map_map]
  simp only [Function.comp_def, List.append_assoc]

private theorem cons {c : Char} {chars : List Char} {token : Token} {tokens : List Token}
    (read : ∀ rest, Token.read (c :: rest) = some (token, rest)) (after : Scans chars tokens) :
    Scans (c :: chars) (token :: tokens) := by
  intro rest ends
  rw [List.cons_append, Token.all?_of_read (read _), after rest ends, Option.map_map]
  rfl

private theorem lineStart_append (depth : Nat) {chars : List Char} {tokens : List Token}
    (after : Scans chars tokens) : Scans (lineStart depth ++ chars) tokens := by
  intro rest ends
  rw [List.append_assoc, Token.all?_lineStart, after rest ends]

private theorem space_cons {chars : List Char} {tokens : List Token} (after : Scans chars tokens) :
    Scans (' ' :: chars) tokens := by
  intro rest ends
  rw [List.cons_append, Token.all?_blank (by decide), after rest ends]

/-- A written form that is one token. -/
theorem of_read {chars : List Char} {token : Token}
    (read : ∀ rest, Token.EndsNumeral rest → Token.read (chars ++ rest) = some (token, rest)) :
    Scans chars [token] := by
  intro rest ends
  exact Token.all?_of_read (read rest ends)

private theorem quoted (value : String) : Scans (quoted value) [.text value] := by
  intro rest ends
  exact Token.all?_quoted value rest

private theorem quoted_append (value : String) {chars : List Char} {tokens : List Token}
    (after : Scans chars tokens) : Scans (Json.quoted value ++ chars) (.text value :: tokens) := by
  intro rest ends
  rw [List.append_assoc, Token.all?_quoted, after rest ends, Option.map_map]
  rfl

end Scans

private theorem scans_prettyItems {items : List Json} (depth : Nat)
    (each : ∀ item ∈ items, Scans (prettyChars depth item) item.tokens) :
    Scans (prettyItems depth items) (itemTokens items) := by
  induction items with
  | nil =>
    intro rest ends
    simp [prettyItems, itemTokens]
  | cons item more ih =>
    have first := each item List.mem_cons_self
    have others := ih fun other member => each other (List.mem_cons_of_mem _ member)
    cases more with
    | nil =>
      rw [prettyItems, itemTokens]
      exact first.lineStart_append depth
    | cons next more =>
      have comma : Scans (',' :: prettyItems depth (next :: more))
          (.comma :: itemTokens (next :: more)) := others.cons fun _ => rfl
      rw [prettyItems, itemTokens, List.append_assoc]
      · exact (first.append comma fun _ => Token.endsNumeral_cons _ (by decide)).lineStart_append depth
      all_goals simp

private theorem scans_prettyFields {fields : List (String × Json)} (depth : Nat)
    (each : ∀ field ∈ fields, Scans (prettyChars depth field.2) field.2.tokens) :
    Scans (prettyFields depth fields) (fieldTokens fields) := by
  induction fields with
  | nil =>
    intro rest ends
    simp [prettyFields, fieldTokens]
  | cons field more ih =>
    obtain ⟨name, value⟩ := field
    have first : Scans (prettyChars depth value) value.tokens := each _ List.mem_cons_self
    have others := ih fun other member => each other (List.mem_cons_of_mem _ member)
    have colon {chars : List Char} {tokens : List Token} (after : Scans chars tokens) :
        Scans (lineStart depth ++ (Json.quoted name ++ ':' :: ' ' :: chars))
          (.text name :: .colon :: tokens) :=
      ((after.space_cons.cons fun _ => rfl).quoted_append name).lineStart_append depth
    cases more with
    | nil =>
      rw [prettyFields, fieldTokens, List.append_assoc]
      exact colon first
    | cons next more =>
      have comma : Scans (',' :: prettyFields depth (next :: more))
          (.comma :: fieldTokens (next :: more)) := others.cons fun _ => rfl
      have both := first.append comma fun _ => Token.endsNumeral_cons _ (by decide)
      rw [prettyFields, fieldTokens]
      · simpa only [List.append_assoc, List.cons_append] using colon both
      all_goals simp

/-- The pretty form of a value is read as its tokens, at every depth. -/
theorem Faithful.scans {room : Nat} {value : Json} (faithful : Faithful room value) (depth : Nat) :
    Scans (prettyChars depth value) value.tokens := by
  induction faithful generalizing depth with
  | null => exact .of_read fun _ _ => rfl
  | bool value => cases value <;> exact .of_read fun _ _ => rfl
  | integer word => exact .of_read fun _ ends => Token.read_integerChars word ends
  | string value => exact .quoted value
  | @array room items each ih =>
    cases items with
    | nil => exact .cons (fun _ => rfl) (.of_read fun _ _ => rfl)
    | cons item rest =>
      have inner := scans_prettyItems (depth + 1) fun other member => ih other member (depth + 1)
      have close : Scans (lineStart depth ++ [']']) [.closeArray] :=
        .lineStart_append depth (.of_read fun _ _ => rfl)
      have body := inner.append close fun _ => Token.endsNumeral_cons _ (by decide)
      rw [prettyChars, tokens, List.append_assoc]
      exact body.cons fun _ => rfl
  | @object room fields each ih =>
    cases fields with
    | nil => exact .cons (fun _ => rfl) (.of_read fun _ _ => rfl)
    | cons field rest =>
      have inner := scans_prettyFields (depth + 1) fun other member => ih other member (depth + 1)
      have close : Scans (lineStart depth ++ ['\x7d']) [.closeObject] :=
        .lineStart_append depth (.of_read fun _ _ => rfl)
      have body := inner.append close fun _ => Token.endsNumeral_cons _ (by decide)
      rw [prettyChars, tokens, List.append_assoc]
      exact body.cons fun _ => rfl

private theorem Faithful.all?_pretty {room : Nat} {value : Json} (faithful : Faithful room value) :
    Token.all? (value.pretty ++ "\n").toList = some value.tokens := by
  have nothing : Token.all? ['\n'] = some [] := by
    rw [Token.all?_blank (by decide), Token.all?]
  have newline : "\n".toList = ['\n'] := by simp
  rw [String.toList_append, pretty, String.toList_ofList, newline,
    faithful.scans 0 _ (Token.endsNumeral_cons [] (by decide)), nothing, Option.map_some,
    List.append_nil]

/-! ## From tokens to the value -/

namespace Reading

private theorem foldlM_cons {state next : Reading} {token : Token} (moved : state.step token = some next)
    (tokens : List Token) : (token :: tokens).foldlM step state = tokens.foldlM step next := by
  rw [List.foldlM_cons, moved]
  rfl

private theorem foldlM_append {state middle : Reading} {tokens : List Token}
    (moved : tokens.foldlM step state = some middle) (more : List Token) :
    (tokens ++ more).foldlM step state = more.foldlM step middle := by
  rw [List.foldlM_append, moved]
  rfl

/-- A state in which a value may start inside some containers. -/
def Awaits (state : Reading) (outer : List Container) : Prop :=
  ∀ token, token ≠ .closeArray → state.step token = start outer token

private theorem awaits_value (outer : List Container) : Awaits (.value outer) outer :=
  fun _ _ => rfl

private theorem awaits_arrayStart (outer : List Container) : Awaits (.arrayStart outer) (.array [] :: outer) := by
  intro token other
  cases token with
  | closeArray => exact absurd rfl other
  | _ => rfl

/-- A state in which a name may come, after some fields of an object. -/
def AwaitsName (state : Reading) (read : List (String × Json)) (outer : List Container) : Prop :=
  ∀ name, state.step (.text name) = some (.named name read outer)

/-- Whether tokens lead to a complete value wherever one may start and `room` containers may nest. -/
def Yields (room : Nat) (tokens : List Token) (value : Json) : Prop :=
  ∀ state outer, Awaits state outer → outer.length + room ≤ maxDepth →
    tokens.foldlM step state = some (complete value outer)

/-- A value that is one token. -/
theorem yields_singleton {room : Nat} {token : Token} {value : Json} (other : token ≠ .closeArray)
    (starts : ∀ outer, start outer token = some (complete value outer)) :
    Yields room [token] value := by
  intro state outer awaits _
  rw [foldlM_cons ((awaits token other).trans (starts outer))]
  rfl

variable {room : Nat} {state : Reading} {outer : List Container}

private theorem foldlM_itemTokens {items : List Json} (nonempty : items ≠ [])
    (each : ∀ item ∈ items, Yields room item.tokens item.canonical) {read : List Json}
    (awaits : Awaits state (.array read :: outer)) (space : outer.length + 1 + room ≤ maxDepth) :
    (itemTokens items).foldlM step state =
      some (.items ((items.map canonical).reverse ++ read) outer) := by
  induction items generalizing state read with
  | nil => exact absurd rfl nonempty
  | cons item more ih =>
    have first := each item List.mem_cons_self state (.array read :: outer) awaits space
    cases more with
    | nil => exact first
    | cons next more =>
      have others := ih (by simp) (fun other member => each other (List.mem_cons_of_mem _ member))
        (awaits_value (.array (item.canonical :: read) :: outer))
      have comma : (complete item.canonical (.array read :: outer)).step .comma =
        some (.value (.array (item.canonical :: read) :: outer)) := rfl
      rw [itemTokens, foldlM_append first, foldlM_cons comma, others]
      · simp
      · simp

private theorem foldlM_fieldTokens {fields : List (String × Json)} (nonempty : fields ≠ [])
    (each : ∀ field ∈ fields, Yields room field.2.tokens field.2.canonical)
    {read : List (String × Json)} (awaits : AwaitsName state read outer)
    (space : outer.length + 1 + room ≤ maxDepth) :
    (fieldTokens fields).foldlM step state =
      some (.fields ((fields.map fun field => (field.1, field.2.canonical)).reverse ++ read) outer) := by
  induction fields generalizing state read with
  | nil => exact absurd rfl nonempty
  | cons field more ih =>
    obtain ⟨name, value⟩ := field
    have colon : (named name read outer).step .colon = some (.value (.field name read :: outer)) := rfl
    have first := each (name, value) List.mem_cons_self _ _ (awaits_value (.field name read :: outer))
      space
    cases more with
    | nil =>
      rw [fieldTokens, foldlM_cons (awaits name), foldlM_cons colon, first]
      rfl
    | cons next more =>
      have comma : (complete value.canonical (.field name read :: outer)).step .comma =
        some (.name ((name, value.canonical) :: read) outer) := rfl
      have others := ih (by simp) (fun other member => each other (List.mem_cons_of_mem _ member))
        (fun _ => rfl : AwaitsName (.name ((name, value.canonical) :: read) outer) _ outer)
      rw [fieldTokens, foldlM_cons (awaits name), foldlM_cons colon, foldlM_append first,
        foldlM_cons comma, others]
      · simp
      · simp

end Reading

/-- The tokens of a value lead to what is read back of it, inside containers that leave room. -/
theorem Faithful.yields {room : Nat} {value : Json} (faithful : Faithful room value) :
    Reading.Yields room value.tokens value.canonical := by
  induction faithful with
  | null => exact Reading.yields_singleton (by simp) fun _ => rfl
  | bool value => exact Reading.yields_singleton (by simp) fun _ => rfl
  | integer word => exact Reading.yields_singleton (by simp) fun _ => rfl
  | string value => exact Reading.yields_singleton (by simp) fun _ => rfl
  | @array room items each ih =>
    intro state outer awaits space
    have opened : state.step .openArray = some (.arrayStart outer) := by
      rw [awaits .openArray (by simp)]
      exact if_pos (by omega)
    rw [tokens, canonical, canonicalItems_eq_map, Reading.foldlM_cons opened]
    cases items with
    | nil => rfl
    | cons item rest =>
      have inner := Reading.foldlM_itemTokens (by simp) ih (Reading.awaits_arrayStart outer) (by omega)
      have close (read : List Json) : (Reading.items (read.reverse ++ []) outer).step .closeArray =
          some (.complete (.array read) outer) := by
        simp [Reading.step]
      rw [Reading.foldlM_append inner, Reading.foldlM_cons (close _)]
      rfl
  | @object room fields each ih =>
    intro state outer awaits space
    have opened : state.step .openObject = some (.objectStart outer) := by
      rw [awaits .openObject (by simp)]
      exact if_pos (by omega)
    rw [tokens, canonical, canonicalFields_eq_map, Reading.foldlM_cons opened]
    cases fields with
    | nil => rfl
    | cons field rest =>
      have name : Reading.AwaitsName (.objectStart outer) [] outer := fun _ => rfl
      have inner := Reading.foldlM_fieldTokens (by simp) ih name (by omega)
      have close (read : List (String × Json)) :
          (Reading.fields (read.reverse ++ []) outer).step .closeObject =
            some (.complete (ofFields read) outer) := by
        simp [Reading.step]
      rw [Reading.foldlM_append inner, Reading.foldlM_cons (close _)]
      rfl

/-- What is written as a line of its own is read back, in canonical form. -/
theorem Faithful.ofText?_pretty {value : Json} (faithful : Faithful maxDepth value) :
    ofText? (value.pretty ++ "\n") = some value.canonical := by
  have read : value.tokens.foldlM Reading.step (.value []) = some (.done value.canonical) :=
    faithful.yields _ _ (Reading.awaits_value []) (by simp)
  rw [ofText?, faithful.all?_pretty, Option.bind_some, ofTokens?, read]
  rfl

end RangeCatalog.Json
