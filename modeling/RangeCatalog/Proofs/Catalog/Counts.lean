import Mathlib.Data.Finset.Card
import RangeCatalog.Proofs.Catalog.Document

/-! # Counts of a baseline

What a baseline knows of a document, which may be any JSON. Items that are malformed are passed over
wherever they stand, so that a malformed item never hides an earlier one. Of the items that list ranges
under one id the last one counts.
-/

namespace RangeCatalog

/-- Whether an item lists ranges under an id. Only objects have fields. -/
structure Json.ListsRanges (item : Json) (id : String) (ranges : List Json) : Prop where
  id : item.field? "id" = some (.string id)
  ranges : item.field? "cidrs" = some (.array ranges)

/-- Whether an item lists no ranges under any id. -/
def Json.Malformed (item : Json) : Prop :=
  ∀ id ranges, ¬item.ListsRanges id ranges

/-- Whether some ranges are those that the last item of a list of sets with an id lists. -/
def Json.LastLists (document : Json) (id : String) (ranges : List Json) : Prop :=
  ∃ before item after, document.field? "sets" = some (.array (before ++ item :: after)) ∧
    item.ListsRanges id ranges ∧ ∀ later ∈ after, ∀ others, ¬later.ListsRanges id others

/-- Whether the second list of items is the first one with malformed items put in anywhere. -/
inductive Json.Padded : List Json → List Json → Prop where
  | nil : Padded [] []
  | keep {items others : List Json} (item : Json) (rest : Padded items others) :
    Padded (item :: items) (item :: others)
  | insert {items others : List Json} (item : Json) (malformed : item.Malformed)
    (rest : Padded items others) : Padded items (item :: others)

namespace Baseline

/-! ## Single items -/

theorem countOf?_eq_some_iff {item : Json} {id : String} {count : Nat} :
    countOf? item = some (id, count) ↔ ∃ ranges, item.ListsRanges id ranges ∧ ranges.length = count := by
  have text {value : Json} {text : String} : value.text? = some text ↔ value = .string text := by
    cases value <;> simp [Json.text?]
  have items {value : Json} {items : List Json} : value.items? = some items ↔ value = .array items := by
    cases value <;> simp [Json.items?]
  simp only [countOf?, Option.bind_eq_bind, Option.bind_eq_some_iff, Option.pure_def, Option.some.injEq,
    Prod.mk.injEq, text, items]
  constructor
  · rintro ⟨_, named, _, rfl, _, listed, ranges, rfl, rfl, size⟩
    exact ⟨ranges, ⟨named, listed⟩, size⟩
  · rintro ⟨ranges, lists, size⟩
    exact ⟨_, lists.id, id, rfl, _, lists.ranges, ranges, rfl, rfl, size⟩

theorem countOf?_eq_none_iff {item : Json} : countOf? item = none ↔ item.Malformed := by
  rw [Option.eq_none_iff_forall_ne_some]
  constructor
  · intro none id ranges lists
    exact none (id, ranges.length) (countOf?_eq_some_iff.mpr ⟨ranges, lists, rfl⟩)
  · rintro malformed ⟨id, count⟩ counted
    obtain ⟨ranges, lists, _⟩ := countOf?_eq_some_iff.mp counted
    exact malformed id ranges lists

/-! ## Lists of items -/

/-- Malformed items are passed over wherever they stand. -/
theorem filterMap_countOf?_of_padded {items others : List Json} (padded : Json.Padded items others) :
    others.filterMap countOf? = items.filterMap countOf? := by
  induction padded with
  | nil => rfl
  | keep item _ ih => rw [List.filterMap_cons, List.filterMap_cons, ih]
  | insert item malformed _ ih =>
    rw [List.filterMap_cons_none (countOf?_eq_none_iff.mpr malformed), ih]

/-- The last count under an id is found. -/
theorem get?_ofCounts_eq_some_iff {counts : List (String × Nat)} {id : String} {count : Nat} :
    (ofCounts counts).get? id = some count ↔
      ∃ before after, counts = before ++ (id, count) :: after ∧ ∀ later ∈ after, later.1 ≠ id := by
  rw [get?_ofCounts, List.lookup_eq_some_iff]
  constructor
  · rintro ⟨after, before, reversed, others⟩
    refine ⟨before.reverse, after.reverse, ?_, ?_⟩
    · rw [← List.reverse_reverse counts, reversed]
      simp
    · intro later member
      exact fun same => absurd (others later (List.mem_reverse.mp member)) (by simp [same])
  · rintro ⟨before, after, rfl, others⟩
    refine ⟨after.reverse, before.reverse, by simp, ?_⟩
    intro later member
    exact bne_iff_ne.mpr (others later (List.mem_reverse.mp member)).symm

/-- Counted is the last item that lists ranges under an id. -/
theorem get?_filterMap_eq_some_iff {items : List Json} {id : String} {count : Nat} :
    (ofCounts (items.filterMap countOf?)).get? id = some count ↔
      ∃ before item after ranges, items = before ++ item :: after ∧ item.ListsRanges id ranges ∧
        ranges.length = count ∧ ∀ later ∈ after, ∀ others, ¬later.ListsRanges id others := by
  rw [get?_ofCounts_eq_some_iff]
  constructor
  · rintro ⟨before, after, counted, others⟩
    obtain ⟨left, right, rfl, _, counted⟩ := List.filterMap_eq_append_iff.mp counted
    obtain ⟨passed, item, rest, rfl, malformed, here, rfl⟩ := List.filterMap_eq_cons_iff.mp counted
    obtain ⟨ranges, lists, size⟩ := countOf?_eq_some_iff.mp here
    refine ⟨left ++ passed, item, rest, ranges, (List.append_assoc ..).symm, lists, size, ?_⟩
    intro later member otherRanges otherLists
    have found := List.mem_filterMap.mpr
      ⟨later, member, countOf?_eq_some_iff.mpr ⟨otherRanges, otherLists, rfl⟩⟩
    exact others _ found rfl
  · rintro ⟨before, item, after, ranges, rfl, lists, size, others⟩
    refine ⟨before.filterMap countOf?, after.filterMap countOf?, ?_, ?_⟩
    · rw [List.filterMap_append, List.filterMap_cons_some (countOf?_eq_some_iff.mpr ⟨ranges, lists, size⟩)]
    · rintro ⟨name, number⟩ member rfl
      obtain ⟨later, among, counted⟩ := List.mem_filterMap.mp member
      obtain ⟨otherRanges, otherLists, _⟩ := countOf?_eq_some_iff.mp counted
      exact others later among otherRanges otherLists

/-! ## Known ids -/

/-- The ids that a baseline knows, each one once. -/
def ids (baseline : Baseline) : List String :=
  baseline.counts.map Prod.fst

private theorem mem_ids_insert {baseline : Baseline} {id other : String} {count : Nat} :
    other ∈ (baseline.insert id count).ids ↔ other = id ∨ other ∈ baseline.ids := by
  simp only [ids, insert, List.map_cons, List.mem_cons, List.mem_map, List.mem_filter]
  by_cases same : other = id
  · simp [same]
  · simp only [same, false_or]
    constructor
    · rintro ⟨entry, ⟨member, _⟩, named⟩
      exact ⟨entry, member, named⟩
    · rintro ⟨entry, member, named⟩
      exact ⟨entry, ⟨member, by simpa [named] using same⟩, named⟩

private theorem nodup_ids_insert {baseline : Baseline} (distinct : baseline.ids.Nodup) (id : String)
    (count : Nat) : (baseline.insert id count).ids.Nodup := by
  rw [ids, insert, List.map_cons, List.nodup_cons]
  refine ⟨?_, distinct.sublist (List.filter_sublist.map Prod.fst)⟩
  intro member
  obtain ⟨entry, among, named⟩ := List.mem_map.mp member
  simp [named] at among

/-- A baseline knows the ids that are counted, each one once. -/
theorem ids_ofCounts (counts : List (String × Nat)) :
    (ofCounts counts).ids.Nodup ∧ ∀ id, id ∈ (ofCounts counts).ids ↔ id ∈ counts.map Prod.fst := by
  have general (known : Baseline) (distinct : known.ids.Nodup) :
      let all := counts.foldl (fun baseline entry => baseline.insert entry.1 entry.2) known
      all.ids.Nodup ∧ ∀ id, id ∈ all.ids ↔ id ∈ counts.map Prod.fst ∨ id ∈ known.ids := by
    induction counts generalizing known with
    | nil => simp [distinct]
    | cons entry rest ih =>
      obtain ⟨once, members⟩ := ih (known.insert entry.1 entry.2) (nodup_ids_insert distinct _ _)
      refine ⟨once, ?_⟩
      intro id
      rw [List.foldl_cons, members, mem_ids_insert, List.map_cons, List.mem_cons]
      tauto
  obtain ⟨once, members⟩ := general empty List.nodup_nil
  exact ⟨once, fun id => (members id).trans (by simp [ids, empty])⟩

/-! ## Documents -/

private theorem ofJson_of_items {document : Json} {items : List Json}
    (listed : document.field? "sets" = some (.array items)) :
    ofJson document = ofCounts (items.filterMap countOf?) := by
  rw [ofJson, listed]
  rfl

/-- A document without a list of sets has no counts. -/
theorem ofJson_of_no_items {document : Json}
    (unlisted : ∀ items, document.field? "sets" ≠ some (.array items)) : ofJson document = empty := by
  have none : (document.field? "sets").bind Json.items? = none := by
    rw [Option.bind_eq_none_iff]
    intro value listed
    cases value with
    | array items => exact absurd listed (unlisted items)
    | _ => rfl
  rw [ofJson, none]
  rfl

theorem get?_ofJson_eq_some_iff {document : Json} {id : String} {count : Nat} :
    (ofJson document).get? id = some count ↔
      ∃ ranges, document.LastLists id ranges ∧ ranges.length = count := by
  by_cases listed : ∃ items, document.field? "sets" = some (.array items)
  · obtain ⟨items, listed⟩ := listed
    rw [ofJson_of_items listed, get?_filterMap_eq_some_iff]
    constructor
    · rintro ⟨before, item, after, ranges, rfl, lists, size, others⟩
      exact ⟨ranges, ⟨before, item, after, listed, lists, others⟩, size⟩
    · rintro ⟨ranges, ⟨before, item, after, same, lists, others⟩, size⟩
      rw [listed, Option.some.injEq, Json.array.injEq] at same
      exact ⟨before, item, after, ranges, same, lists, size, others⟩
  · rw [ofJson_of_no_items fun items found => listed ⟨items, found⟩]
    constructor
    · intro found
      contradiction
    · rintro ⟨_, ⟨before, item, after, found, _⟩, _⟩
      exact absurd ⟨_, found⟩ listed

private theorem mem_ids_ofJson_iff {document : Json} {id : String} :
    id ∈ (ofJson document).ids ↔ ∃ items, document.field? "sets" = some (.array items) ∧
      ∃ item ∈ items, ∃ ranges, item.ListsRanges id ranges := by
  by_cases listed : ∃ items, document.field? "sets" = some (.array items)
  · obtain ⟨items, listed⟩ := listed
    rw [ofJson_of_items listed, (ids_ofCounts _).2]
    constructor
    · intro member
      obtain ⟨⟨name, count⟩, counted, rfl⟩ := List.mem_map.mp member
      obtain ⟨item, among, here⟩ := List.mem_filterMap.mp counted
      obtain ⟨ranges, lists, _⟩ := countOf?_eq_some_iff.mp here
      exact ⟨items, listed, item, among, ranges, lists⟩
    · rintro ⟨others, same, item, among, ranges, lists⟩
      rw [listed, Option.some.injEq, Json.array.injEq] at same
      subst same
      have counted := countOf?_eq_some_iff.mpr ⟨ranges, lists, rfl⟩
      exact List.mem_map_of_mem (List.mem_filterMap.mpr ⟨item, among, counted⟩)
  · rw [ofJson_of_no_items fun items found => listed ⟨items, found⟩]
    constructor
    · intro member
      contradiction
    · rintro ⟨items, found, _⟩
      exact absurd ⟨items, found⟩ listed

private theorem nodup_ids_ofJson (document : Json) : (ofJson document).ids.Nodup :=
  (ids_ofCounts _).1

/-- For any document and id, the baseline has the number of ranges that the last item with the id lists
which is not malformed, and nothing when there is no such item. Malformed items put in anywhere change
nothing. The size is the number of ids under which some item lists ranges. -/
theorem last_listed_counts (document : Json) :
    (∀ id count, (ofJson document).get? id = some count ↔
      ∃ ranges, document.LastLists id ranges ∧ ranges.length = count) ∧
    (∀ other items others, document.field? "sets" = some (.array items) →
      other.field? "sets" = some (.array others) → Json.Padded items others →
        ofJson other = ofJson document) ∧
    ∃ known : Finset String,
      (∀ id, id ∈ known ↔ ∃ items, document.field? "sets" = some (.array items) ∧
        ∃ item ∈ items, ∃ ranges, item.ListsRanges id ranges) ∧
      (ofJson document).size = known.card := by
  refine ⟨fun _ _ => get?_ofJson_eq_some_iff, ?_, (ofJson document).ids.toFinset, ?_, ?_⟩
  · intro other items others listed otherListed padded
    rw [ofJson_of_items listed, ofJson_of_items otherListed, filterMap_countOf?_of_padded padded]
  · intro id
    rw [List.mem_toFinset, mem_ids_ofJson_iff]
  · rw [List.toFinset_card_of_nodup (nodup_ids_ofJson document), ids, List.length_map, size]

/-- A malformed item of the same id hides nothing, neither before nor after the one that counts. -/
theorem last_listed_counts_between_malformed :
    let item (fields : List (String × Json)) : Json := .object (("id", .string "a") :: fields)
    let document (items : List Json) : Json := .object [("sets", .array items)]
    let first := item [("cidrs", .array [.null])]
    let last := item [("cidrs", .array [])]
    let malformed := item [("cidrs", .string "10.0.0.0/8")]
    (document [first, last]).field? "sets" = some (.array [first, last]) ∧
      (document [first, last, malformed]).field? "sets" = some (.array [first, last, malformed]) ∧
      Json.Padded [first, last] [first, last, malformed] ∧
      ofJson (document [first, last, malformed]) = ofJson (document [first, last]) ∧
      (ofJson (document [first, last])).get? "a" = some 0 := by
  intro item document first last malformed
  have unlisted : malformed.Malformed := countOf?_eq_none_iff.mp rfl
  have padded : Json.Padded [first, last] [first, last, malformed] :=
    .keep first (.keep last (.insert malformed unlisted .nil))
  have lists : last.ListsRanges "a" [] := ⟨rfl, rfl⟩
  obtain ⟨counted, same, _⟩ := last_listed_counts (document [first, last])
  refine ⟨rfl, rfl, padded, same _ _ _ rfl rfl padded, (counted "a" 0).mpr ⟨[], ?_, rfl⟩⟩
  exact ⟨[first], last, [], rfl, lists, fun _ => nofun⟩

end Baseline

end RangeCatalog
