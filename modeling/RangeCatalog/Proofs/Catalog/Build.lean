import RangeCatalog.Proofs.Catalog.Entry

/-! # Builds

A build succeeds when the registry keeps its rules and every source yields an entry. What the stages
guarantee of one entry then holds of all entries of the catalog, and the ids differ because the registry
refuses repeated ones.
-/

namespace RangeCatalog

/-! ## Registry -/

namespace Registry

private theorem checkSource_fresh {seen : List String} {source : Source}
    (accepted : checkSource seen source = .ok ()) : source.setId ∉ seen := by
  intro known
  simp only [checkSource] at accepted
  split_ifs at accepted

theorem checkFrom_cons_iff {seen : List String} {source : Source} {rest : List Source} :
    checkFrom seen (source :: rest) = .ok () ↔
      checkSource seen source = .ok () ∧ checkFrom (source.setId :: seen) rest = .ok () := by
  rw [checkFrom, bind_eq_ok_iff]
  constructor
  · rintro ⟨⟨⟩, first, others⟩
    exact ⟨first, others⟩
  · rintro ⟨first, others⟩
    exact ⟨(), first, others⟩

private theorem checkFrom_distinct {seen : List String} {sources : List Source}
    (accepted : checkFrom seen sources = .ok ()) :
    (sources.map Source.setId).Nodup ∧ ∀ source ∈ sources, source.setId ∉ seen := by
  induction sources generalizing seen with
  | nil => simp
  | cons source rest ih =>
    obtain ⟨first, others⟩ := checkFrom_cons_iff.mp accepted
    obtain ⟨distinct, fresh⟩ := ih others
    refine ⟨?_, ?_⟩
    · rw [List.map_cons, List.nodup_cons]
      refine ⟨?_, distinct⟩
      intro repeated
      obtain ⟨other, member, same⟩ := List.mem_map.mp repeated
      exact fresh other member (same ▸ List.mem_cons_self)
    · intro other member
      rcases List.mem_cons.mp member with rfl | later
      · exact checkSource_fresh first
      · exact fun known => fresh other later (List.mem_cons_of_mem _ known)

theorem check_distinct {sources : List Source} (accepted : check sources = .ok ()) :
    (sources.map Source.setId).Nodup :=
  (checkFrom_distinct accepted).1

/-- The sources of the catalog keep the rules. -/
theorem check_builtIn : check Source.builtIn = .ok () := by decide +kernel

end Registry

/-! ## Entries -/

namespace Build

variable {sources : List Source} {fetch : Fetcher} {context : BuildContext}

theorem ofSource_eq_ok_iff {source : Source} {entry : Entry} :
    Entry.ofSource fetch context source = .ok entry ↔
      ∃ payload, fetch source.url = .ok payload ∧
        Entry.ofPayload source payload context.baseline context.now.dateText context.allowLarge =
          .ok entry := by
  simp only [Entry.ofSource, bind_eq_ok_iff, mapError_eq_ok_iff]

theorem entries_eq_ok_iff {made : List Entry} :
    (entries fetch context sources).2 = .ok made ↔
      List.Forall₂ (fun source entry => Entry.ofSource fetch context source = .ok entry)
        sources made := by
  induction sources generalizing made with
  | nil => simp [entries, eq_comm]
  | cons source rest ih =>
    rw [entries, List.forall₂_cons_left_iff]
    cases outcome : Entry.ofSource fetch context source with
    | error error => simp
    | ok entry =>
      simp only [map_eq_ok_iff, ih, Except.ok.injEq]
      constructor
      · rintro ⟨others, tail, rfl⟩
        exact ⟨entry, others, rfl, tail, rfl⟩
      · rintro ⟨_, others, rfl, tail, rfl⟩
        exact ⟨others, tail, rfl⟩

/-- A build succeeds when the registry is accepted and each source yields its entry. -/
theorem run_eq_ok_iff {made : Catalog} :
    (run sources fetch context).result = .ok made ↔
      Registry.check sources = .ok () ∧ ∃ listed,
        List.Forall₂ (fun source entry => Entry.ofSource fetch context source = .ok entry)
          sources listed ∧ catalog context.now listed = made := by
  rw [run]
  cases checked : Registry.check sources with
  | error error => simp
  | ok done => simp only [map_eq_ok_iff, entries_eq_ok_iff, true_and]

/-- Sources yield their entries again on the same day against the counts of these entries. -/
theorem yields_again {again : BuildContext} (day : again.now.dateText = context.now.dateText)
    {listed : List Entry}
    (yields : List.Forall₂ (fun source entry => Entry.ofSource fetch context source = .ok entry)
      sources listed)
    (counted : ∀ entry ∈ listed, again.baseline.get? entry.id = some entry.ranges.length) :
    List.Forall₂ (fun source entry => Entry.ofSource fetch again source = .ok entry)
      sources listed := by
  induction yields with
  | nil => exact .nil
  | @cons source entry _ _ yielded _ ih =>
    obtain ⟨payload, fetched, made⟩ := ofSource_eq_ok_iff.mp yielded
    have first := Entry.ofPayload_again made (counted entry List.mem_cons_self) again.allowLarge
    rw [← day] at first
    refine .cons (ofSource_eq_ok_iff.mpr ⟨payload, fetched, first⟩) (ih ?_)
    intro other member
    exact counted other (List.mem_cons_of_mem _ member)

/-- No source stands in the way of another: a catalog is built where each source yields an entry. -/
theorem exists_run (accepted : Registry.check sources = .ok ())
    (each : ∀ source ∈ sources, ∃ entry, Entry.ofSource fetch context source = .ok entry) :
    ∃ made, (run sources fetch context).result = .ok made := by
  obtain ⟨listed, yields⟩ := exists_forall₂ each
  exact ⟨_, run_eq_ok_iff.mpr ⟨accepted, listed, yields, rfl⟩⟩

/-- A catalog consists of its entries and of the time of its build. -/
theorem catalog_of_run {made : Catalog} (built : (run sources fetch context).result = .ok made) :
    catalog context.now made.entries = made := by
  obtain ⟨_, listed, _, rfl⟩ := run_eq_ok_iff.mp built
  rfl

/-- A catalog is built again on its day against its own counts, whatever was needed to build it. -/
theorem run_again {made : Catalog} (built : (run sources fetch context).result = .ok made)
    {again : BuildContext} (day : again.now.dateText = context.now.dateText)
    (counted : ∀ entry ∈ made.entries, again.baseline.get? entry.id = some entry.ranges.length) :
    (run sources fetch again).result = .ok (catalog again.now made.entries) := by
  obtain ⟨accepted, listed, yields, rfl⟩ := run_eq_ok_iff.mp built
  exact run_eq_ok_iff.mpr ⟨accepted, listed, yields_again day yields counted, rfl⟩

end Build

/-! ## Trust -/

/-- What a catalog of the given date guarantees of the entry of a source. -/
structure Entry.Trusted (date : String) (context : BuildContext) (source : Source) (entry : Entry) :
    Prop where
  id : entry.id = source.setId
  label : entry.label = source.label
  provider : entry.provider = source.provider
  sourceUrl : entry.sourceUrl = source.url
  some : 1 ≤ entry.ranges.length
  bounded : entry.ranges.length ≤ 4096
  /-- The ranges are canonical texts of narrow aligned blocks in strictly increasing order. -/
  canonical : ∃ blocks : List Block, RangeSet.Denote entry.ranges blocks ∧
    blocks.map Block.text = entry.ranges ∧ blocks.Pairwise Block.Precedes ∧
    ∀ block ∈ blocks, block.network % Nat.pow 2 (block.family.width - block.length) = 0 ∧
      (block.version = 4 ∧ 8 ≤ block.length ∨ block.version = 6 ∧ 24 ≤ block.length)
  stamps : entry.sourceStamp.isSome = entry.sourceStampSeconds.isSome
  version : entry.version = Label.ofContent date entry.ranges entry.sourceStamp
  growth : context.allowLarge = false → ∀ last, context.baseline.get? source.setId = .some last →
    1 ≤ last → entry.ranges.length ≤ min (4 * last + 64) (last + 2048)

namespace Entry

private theorem narrow (block : Block) :
    block.version = 4 ∧ 8 ≤ block.length ∨ block.version = 6 ∧ 24 ≤ block.length := by
  have long := block.length_ge
  rcases block with ⟨_ | _, _, _, _, _, _, _⟩
  · exact .inl ⟨rfl, long⟩
  · exact .inr ⟨rfl, long⟩

private theorem trusted_of_ofPayload {source : Source} {payload : Payload} {context : BuildContext}
    {date : String} {entry : Entry}
    (made : ofPayload source payload context.baseline date context.allowLarge = .ok entry) :
    Trusted date context source entry := by
  obtain ⟨extraction, ranges, _, _, admitted, rfl⟩ := ofPayload_eq_ok_iff.mp made
  have size := length_ranges_ofRanges source ranges extraction.stamp date
  refine ⟨rfl, rfl, rfl, rfl, ?_, ?_, ?_, ?_, rfl, ?_⟩
  · rw [size]
    exact List.length_pos_iff.mpr ranges.nonempty
  · rw [size]
    exact ranges.bounded
  · refine ⟨ranges.blocks, RangeSet.denote_texts ranges.blocks, rfl, ?_, ?_⟩
    · exact ranges.increasing.imp Block.order_eq_lt_iff.mp
    · exact fun block _ => ⟨block.aligned, narrow block⟩
  · simp only [ofRanges, Option.isSome_map]
  · intro strict last known positive
    rw [size]
    rcases check_size_iff.mp admitted with allowed | bounds
    · rw [strict] at allowed
      contradiction
    · rcases bounds last known with zero | within
      · omega
      · exact within

end Entry

namespace Build

variable {sources : List Source} {fetch : Fetcher} {context : BuildContext} {made : Catalog}

theorem trusted_of_run (built : (run sources fetch context).result = .ok made) :
    List.Forall₂ (Entry.Trusted made.version context) sources made.entries := by
  obtain ⟨_, listed, yields, rfl⟩ := run_eq_ok_iff.mp built
  refine yields.imp ?_
  intro source entry yielded
  obtain ⟨payload, _, fromPayload⟩ := ofSource_eq_ok_iff.mp yielded
  exact Entry.trusted_of_ofPayload fromPayload

/-- The ids of the entries are those of the sources. -/
theorem ids_of_run (built : (run sources fetch context).result = .ok made) :
    made.entries.map Entry.id = sources.map Source.setId := by
  have same : List.Forall₂ (fun source entry => source.setId = Entry.id entry) sources made.entries :=
    (trusted_of_run built).imp fun _ _ entry => entry.id.symm
  rw [eq_comm, ← List.forall₂_eq_eq_eq, List.forall₂_map_left_iff, List.forall₂_map_right_iff]
  exact same

/-- The ids of the entries differ, since those of the sources do. -/
theorem distinct_of_run (built : (run sources fetch context).result = .ok made) :
    (made.entries.map Entry.id).Nodup := by
  obtain ⟨accepted, _⟩ := run_eq_ok_iff.mp built
  rw [ids_of_run built]
  exact Registry.check_distinct accepted

end Build

/-- Whatever the documents, the baseline and the time are, the entries of a catalog that is built are
those of its sources, in order, with different ids, and each of them can be trusted. -/
theorem Build.entries_trusted (sources : List Source) (fetch : Fetcher) (context : BuildContext)
    (made : Catalog) (built : (run sources fetch context).result = .ok made) :
    List.Forall₂ (Entry.Trusted made.version context) sources made.entries ∧
      (made.entries.map Entry.id).Nodup := by
  refine ⟨?_, ?_⟩
  · exact trusted_of_run built
  · exact distinct_of_run built

/-- A build of one source, whose document repeats a block, has one entry that can be trusted. -/
theorem Build.entries_trusted_respelled :
    ∃ made, (run [Entry.copilot] (fun _ => .ok Entry.respelledPayload)
        ⟨Entry.oneBlock, Instant.ofSeconds 1748766600, false⟩).result = .ok made ∧
      List.Forall₂
        (Entry.Trusted made.version ⟨Entry.oneBlock, Instant.ofSeconds 1748766600, false⟩)
        [Entry.copilot] made.entries ∧
      (made.entries.map Entry.id).Nodup := by
  have accepted : Registry.check [Entry.copilot] = .ok () := by decide +kernel
  have each : ∀ source ∈ [Entry.copilot], ∃ entry,
      Entry.ofSource (fun _ => .ok Entry.respelledPayload)
        ⟨Entry.oneBlock, Instant.ofSeconds 1748766600, false⟩ source = .ok entry := by
    intro source member
    rw [List.mem_singleton.mp member]
    obtain ⟨entry, made⟩ := Entry.exists_ofPayload_iff.mpr
      ⟨Entry.keyed_copilot, _, _, Entry.declares_respelled, RangeSet.denote_respelled,
        Entry.admissible_respelled⟩
    exact ⟨entry, ofSource_eq_ok_iff.mpr ⟨_, rfl, made⟩⟩
  obtain ⟨_, built⟩ := exists_run accepted each
  exact ⟨_, built, entries_trusted _ _ _ _ built⟩

end RangeCatalog
