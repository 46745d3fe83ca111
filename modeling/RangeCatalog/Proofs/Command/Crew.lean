import RangeCatalog.Proofs.Command.Stages
import RangeCatalog.Proofs.Fetch.Limit
import RangeCatalog.Proofs.Registry

/-! # Updates side by side

Any number of updates of one output, which have their turns in any order, and between which others may do
anything that leaves the lock file in its place, the locks that are held, and the output. At most one of
them has the lock at a time. It keeps the lock from before its baseline is loaded until after its catalog
is written, and so what it replaces is what it compared its sets with.
-/

namespace RangeCatalog

open Storage

namespace Update

/-- Some updates, each at a stage of its own, over one storage. -/
structure Crew (ι σ : Type) where
  state : σ
  stages : ι → Stage

namespace Crew

variable {ι σ : Type} [DecidableEq ι] [Storage σ] [Locking σ]

/-- The crew with a member at another stage, and with another state. -/
def put (crew : Crew ι σ) (member : ι) (following : Stage × σ) : Crew ι σ :=
  ⟨following.2, Function.update crew.stages member following.1⟩

/-- The crew after a member had its turn. -/
def turn (output : Path) (jobs : ι → Job) (member : ι) (crew : Crew ι σ) : Crew ι σ :=
  crew.put member ((crew.stages member).step output (jobs member) crew.state)

/-- What may happen next: a member has its turn, or something is done elsewhere. -/
inductive Step [Files σ] [Locks σ] (output : Path) (jobs : ι → Job) : Crew ι σ → Crew ι σ → Prop where
  | turn (crew : Crew ι σ) (member : ι) : Step output jobs crew (crew.turn output jobs member)
  /-- The lock file stays in its place, locks that members hold are kept, and so is the output. -/
  | elsewhere (crew : Crew ι σ) (state : σ)
      (lockFile : ∀ number, number? crew.state output.lockFile = some number →
        number? state output.lockFile = some number)
      (locks : ∀ member lock, (crew.stages member).lock? = some lock → Locked crew.state lock.number →
        Locked state lock.number)
      (file : KeepsFile output crew.state state) : Step output jobs crew ⟨state, crew.stages⟩

/-- Whether a crew may come to be after another one. -/
def Reaches [Files σ] [Locks σ] (output : Path) (jobs : ι → Job) : Crew ι σ → Crew ι σ → Prop :=
  Relation.ReflTransGen (Step output jobs)

/-- What holds of a crew at all times: who has opened the lock file has opened the one that is there, the
locks that are held are locks of the storage, and only one member holds any. -/
structure Orderly [Locks σ] (output : Path) (crew : Crew ι σ) : Prop where
  opened : ∀ member number, (crew.stages member).opened? = some number →
    number? crew.state output.lockFile = some number
  locked : ∀ member lock, (crew.stages member).lock? = some lock → Locked crew.state lock.number
  alone : ∀ member other lock otherLock, (crew.stages member).lock? = some lock →
    (crew.stages other).lock? = some otherLock → member = other

variable {output : Path} {jobs : ι → Job} {start crew next : Crew ι σ} {member other : ι}

omit [Storage σ] [Locking σ] in
theorem put_self (crew : Crew ι σ) (member : ι) (following : Stage × σ) :
    (crew.put member following).stages member = following.1 :=
  Function.update_self ..

omit [Storage σ] [Locking σ] in
theorem put_other (differs : other ≠ member) (crew : Crew ι σ) (following : Stage × σ) :
    (crew.put member following).stages other = crew.stages other :=
  Function.update_of_ne differs ..

/-! ## Locks -/

namespace Orderly

variable [Locks σ]

omit [DecidableEq ι] [Storage σ] [Locking σ] in
/-- Before anyone has begun nothing is held. -/
theorem of_opening (fresh : ∀ member, start.stages member = .opening) : start.Orderly output := by
  refine ⟨?_, ?_, ?_⟩
  · intro member number opened
    rw [fresh member] at opened
    contradiction
  · intro member lock held
    rw [fresh member] at held
    contradiction
  · intro member other lock otherLock held
    rw [fresh member] at held
    contradiction

omit [DecidableEq ι] [Storage σ] [Locking σ] in
/-- While the lock file is free, no member has a lock. -/
theorem lock?_of_free (orderly : crew.Orderly output) {number : Nat}
    (found : number? crew.state output.lockFile = some number) (free : ¬Locked crew.state number)
    (member : ι) : (crew.stages member).lock? = none := by
  cases held : (crew.stages member).lock? with
  | none => rfl
  | some lock =>
    have opened := orderly.opened member lock.number (Stage.opened?_of_lock? held)
    obtain rfl : lock.number = number := Option.some.inj (opened.symm.trans found)
    exact absurd (orderly.locked member lock held) free

omit [Storage σ] [Locking σ] in
/-- A member comes to another stage, while the lock file stays and others keep what they hold. -/
theorem put (orderly : crew.Orderly output) {stage : Stage} {state : σ}
    (number : ∀ number, number? crew.state output.lockFile = some number →
      number? state output.lockFile = some number)
    (opened : ∀ number, stage.opened? = some number → number? state output.lockFile = some number)
    (locked : ∀ lock, stage.lock? = some lock → Locked state lock.number)
    (others : ∀ other lock, other ≠ member → (crew.stages other).lock? = some lock →
      Locked state lock.number ∧ stage.lock? = none) :
    (crew.put member (stage, state)).Orderly output := by
  refine ⟨?_, ?_, ?_⟩
  · intro other present
    by_cases same : other = member
    · rw [same, put_self]
      exact opened present
    · rw [put_other same]
      exact fun there => number present (orderly.opened other present there)
  · intro other lock
    by_cases same : other = member
    · rw [same, put_self]
      exact locked lock
    · rw [put_other same]
      exact fun held => (others other lock same held).1
  · intro first second lock otherLock
    by_cases same : first = member <;> by_cases again : second = member
    · exact fun _ _ => same.trans again.symm
    · rw [same, put_self, put_other again]
      intro held heldToo
      rw [(others second otherLock again heldToo).2] at held
      contradiction
    · rw [again, put_self, put_other same]
      intro held heldToo
      rw [(others first lock same held).2] at heldToo
      contradiction
    · rw [put_other same, put_other again]
      exact orderly.alone first second lock otherLock

variable [Files σ] [ExclusiveLocking σ]

omit [Storage σ] [Locking σ] [Files σ] [ExclusiveLocking σ] in
/-- A turn in which no lock is taken or given back. -/
theorem of_kept (orderly : crew.Orderly output) {stage : Stage} {state : σ}
    (lock : stage.lock? = (crew.stages member).lock?)
    (number : ∀ number, stage.opened? = some number →
      (crew.stages member).opened? = some number ∨ number? state output.lockFile = some number)
    (kept : KeepsLock output.lockFile crew.state state) :
    (crew.put member (stage, state)).Orderly output := by
  refine orderly.put kept.number ?_ ?_ ?_
  · intro present opened
    rcases number present opened with before | now
    · exact kept.number present (orderly.opened member present before)
    · exact now
  · intro present held
    exact kept.locked _ (orderly.locked member present (lock.symm.trans held))
  · intro other present differs heldThere
    refine ⟨kept.locked _ (orderly.locked other present heldThere), ?_⟩
    rw [lock]
    cases mine : (crew.stages member).lock? with
    | none => rfl
    | some own => exact absurd (orderly.alone member other own present mine heldThere).symm differs

omit [Storage σ] [Locking σ] [Files σ] [ExclusiveLocking σ] in
/-- A turn in which the lock is taken. Another member with a lock would have locked the same file, which was
free. -/
theorem of_taken (orderly : crew.Orderly output) {state : σ} {number : Nat}
    (asks : crew.stages member = .asking number) (free : ¬Locked crew.state number)
    (locked : Locked state number) (kept : KeepsLock output.lockFile crew.state state) :
    (crew.put member (.loading ⟨output.lockFile, number⟩, state)).Orderly output := by
  have found := orderly.opened member number (congrArg Stage.opened? asks)
  refine orderly.put kept.number ?_ ?_ ?_
  · rintro _ ⟨⟩
    exact kept.number number found
  · rintro _ ⟨⟩
    exact locked
  · intro other present _ held
    rw [orderly.lock?_of_free found free other] at held
    contradiction

/-- A turn in which the lock is given back. -/
theorem of_given (orderly : crew.Orderly output) {lock : Lock} {report : Report}
    (releases : crew.stages member = .releasing lock report) :
    (crew.put member (.finished report, lock.release crew.state)).Orderly output := by
  refine orderly.put ?_ nofun nofun ?_
  · exact ExclusiveLocking.number_of_unlock crew.state lock.number output.lockFile
  · intro other present differs held
    have own : (crew.stages member).lock? = some lock := congrArg Stage.lock? releases
    exact absurd (orderly.alone member other lock present own held).symm differs

/-- No turn brings disorder. -/
theorem turn (orderly : crew.Orderly output) (jobs : ι → Job) (member : ι) :
    (crew.turn output jobs member).Orderly output := by
  have passes := Stage.passes_step output (jobs member) (crew.stages member) crew.state
  rw [Crew.turn]
  generalize (crew.stages member).step output (jobs member) crew.state = following at passes ⊢
  obtain ⟨next, after⟩ := following
  generalize present : crew.stages member = stage at passes
  cases passes with
  | keeps lock number kept => exact orderly.of_kept (present ▸ lock) (present ▸ number) kept
  | takes free locked kept => exact orderly.of_taken present free locked kept
  | @gives lock report released =>
    obtain rfl : after = lock.release crew.state := released
    exact orderly.of_given present

private theorem step (orderly : crew.Orderly output) (taken : Step output jobs crew next) :
    next.Orderly output := by
  cases taken with
  | turn member => exact orderly.turn jobs member
  | elsewhere state lockFile locks file =>
    refine ⟨?_, ?_, orderly.alone⟩
    · exact fun member number opened => lockFile number (orderly.opened member number opened)
    · exact fun member lock held => locks member lock held (orderly.locked member lock held)

/-- Whatever order the turns have, the crew is orderly at all times. -/
theorem reaches (orderly : start.Orderly output) (reached : Reaches output jobs start crew) :
    crew.Orderly output := by
  induction reached with
  | refl => exact orderly
  | tail _ taken ih => exact ih.step taken

end Orderly

/-! ## Baselines -/

variable [Files σ] [Locks σ]

/-- Whether a member loaded its baseline at one time, and the output has been kept since then. -/
structure LoadedAt (output : Path) (jobs : ι → Job) (start : Crew ι σ) (member : ι)
    (moment crew : Crew ι σ) : Prop where
  reached : Reaches output jobs start moment
  loads : ∃ lock, moment.stages member = .loading lock
  since : Reaches output jobs (moment.turn output jobs member) crew
  kept : KeepsFile output moment.state crew.state

/-- Whether a member loaded a baseline of some kind from the output as it still is. -/
def Based (output : Path) (jobs : ι → Job) (start : Crew ι σ) (member : ι) (kind : Baseline → Prop)
    (crew : Crew ι σ) : Prop :=
  ∃ moment, LoadedAt output jobs start member moment crew ∧ kind (Baseline.load output moment.state).1

/-- Whether all that is built and written comes from baselines of the output as it still is. -/
structure Grounded (output : Path) (jobs : ι → Job) (start crew : Crew ι σ) : Prop where
  building : ∀ member lock baseline, crew.stages member = .building lock baseline →
    Based output jobs start member (· = baseline) crew
  writing : ∀ member lock fetched catalog, crew.stages member = .writing lock fetched catalog →
    Based output jobs start member (fun baseline => (jobs member).build baseline = ⟨fetched, .ok catalog⟩)
      crew

private theorem Based.step {kind : Baseline → Prop} (based : Based output jobs start member kind crew)
    (taken : Step output jobs crew next) (kept : KeepsFile output crew.state next.state) :
    Based output jobs start member kind next := by
  obtain ⟨moment, loaded, known⟩ := based
  exact ⟨moment, ⟨loaded.reached, loaded.loads, loaded.since.tail taken, loaded.kept.trans kept⟩, known⟩

private theorem Grounded.of_opening (fresh : ∀ member, start.stages member = .opening) :
    Grounded output jobs start start := by
  refine ⟨?_, ?_⟩
  · intro member lock baseline builds
    rw [fresh member] at builds
    contradiction
  · intro member lock fetched catalog writes
    rw [fresh member] at writes
    contradiction

variable [SoundStorage σ] [SoundLocking σ] [ExclusiveLocking σ]

/-- While a member has the lock, only a turn in which someone writes changes the output. -/
theorem Orderly.kept_turn (orderly : crew.Orderly output) {lock : Lock}
    (held : (crew.stages member).lock? = some lock) (jobs : ι → Job) {mover : ι}
    (reads : ∀ lock fetched catalog, crew.stages mover ≠ .writing lock fetched catalog) :
    KeepsFile output crew.state (crew.turn output jobs mover).state :=
  have found := orderly.opened member lock.number (Stage.opened?_of_lock? held)
  (Stage.untouched_step found reads).keepsFile output

/-- While a member has the lock, the turns of others leave the output as it is. -/
theorem Orderly.kept_turn_other (orderly : crew.Orderly output) {lock : Lock}
    (held : (crew.stages member).lock? = some lock) (jobs : ι → Job) {mover : ι}
    (differs : member ≠ mover) : KeepsFile output crew.state (crew.turn output jobs mover).state := by
  refine orderly.kept_turn held jobs ?_
  intro present fetched catalog writes
  have heldToo : (crew.stages mover).lock? = some present := congrArg Stage.lock? writes
  exact differs (orderly.alone member mover lock present held heldToo)

namespace Grounded

/-- Who has a baseline has the lock. Either the others have their turns, or it has its own and does not
write yet. -/
theorem turn (grounded : Grounded output jobs start crew) (orderly : crew.Orderly output)
    (reached : Reaches output jobs start crew) (mover : ι) :
    Grounded output jobs start (crew.turn output jobs mover) := by
  have taken : Step output jobs crew (crew.turn output jobs mover) := .turn crew mover
  refine ⟨?_, ?_⟩
  · intro member lock baseline builds
    by_cases same : member = mover
    · subst same
      rw [Crew.turn, put_self] at builds
      obtain ⟨loads, loaded⟩ := Stage.loading_of_step builds
      have kept : KeepsFile output crew.state (crew.turn output jobs member).state :=
        orderly.kept_turn (congrArg Stage.lock? loads) jobs (by rw [loads]; exact nofun)
      exact ⟨crew, ⟨reached, ⟨lock, loads⟩, .refl, kept⟩, loaded⟩
    · rw [Crew.turn, put_other same] at builds
      exact (grounded.building member lock baseline builds).step taken
        (orderly.kept_turn_other (congrArg Stage.lock? builds) jobs same)
  · intro member lock fetched catalog writes
    by_cases same : member = mover
    · subst same
      rw [Crew.turn, put_self] at writes
      obtain ⟨baseline, builds, built⟩ := Stage.building_of_step writes
      have kept : KeepsFile output crew.state (crew.turn output jobs member).state :=
        orderly.kept_turn (congrArg Stage.lock? builds) jobs (by rw [builds]; exact nofun)
      obtain ⟨moment, loaded, rfl⟩ := (grounded.building member lock baseline builds).step taken kept
      exact ⟨moment, loaded, built⟩
    · rw [Crew.turn, put_other same] at writes
      exact (grounded.writing member lock fetched catalog writes).step taken
        (orderly.kept_turn_other (congrArg Stage.lock? writes) jobs same)

private theorem step (grounded : Grounded output jobs start crew) (orderly : crew.Orderly output)
    (reached : Reaches output jobs start crew) (taken : Step output jobs crew next) :
    Grounded output jobs start next := by
  cases taken with
  | turn mover => exact grounded.turn orderly reached mover
  | elsewhere state lockFile locks file =>
    have taken : Step output jobs crew ⟨state, crew.stages⟩ := .elsewhere crew state lockFile locks file
    exact ⟨fun member lock baseline builds =>
        (grounded.building member lock baseline builds).step taken file,
      fun member lock fetched catalog writes =>
        (grounded.writing member lock fetched catalog writes).step taken file⟩

/-- Whatever order the turns have, all is grounded at all times. -/
theorem reaches (fresh : ∀ member, start.stages member = .opening)
    (reached : Reaches output jobs start crew) : Grounded output jobs start crew := by
  induction reached with
  | refl => exact .of_opening fresh
  | tail reached taken ih => exact ih.step ((Orderly.of_opening fresh).reaches reached) reached taken

end Grounded

omit [SoundLocking σ] in
/-- The output that is replaced has the content from which the baseline was loaded. -/
theorem LoadedAt.replaces {moment : Crew ι σ} (loaded : LoadedAt output jobs start member moment crew)
    (orderly : moment.Orderly output) {catalog : Catalog}
    (written : (catalog.write output crew.state).1 = .ok ()) :
    octetsAt? crew.state output = octetsAt? moment.state output ∧
      ((∃ text, octetsAt? crew.state output = some text.toUTF8.toList ∧
          (Baseline.load output moment.state).1 = ((Json.ofText? text).map Baseline.ofJson).getD .empty) ∨
        (∀ text, ¬Finds moment.state output text) ∧ (Baseline.load output moment.state).1 = .empty) := by
  obtain ⟨lock, loads⟩ := loaded.loads
  have number := orderly.opened member lock.number (congrArg Stage.opened? loads)
  obtain ⟨replaced, _⟩ := Catalog.replaced_of_write written
  -- The directory of the lock file is that of the output, so that the output has its place since then.
  obtain ⟨file, leads⟩ := ExclusiveLocking.leads_of_lockFile moment.state _ output _ _ replaced number
  have same := loaded.kept.octetsAt? leads
  refine ⟨same, ?_⟩
  by_cases found : ∃ text, Finds moment.state output text
  · obtain ⟨text, found⟩ := found
    exact .inl ⟨text, same.trans (found.octetsAt? leads), Baseline.load_of_finds found⟩
  · have nothing := not_exists.mp found
    exact .inr ⟨nothing, Baseline.load_of_nothing nothing⟩

omit [SoundLocking σ] in
/-- Before an update begins it loads its settings, which is of no matter to the others. -/
theorem step_settings (output settingsPath : Path) (jobs : ι → Job) (crew : Crew ι σ) :
    Step output jobs crew ⟨(Settings.load settingsPath crew.state).2, crew.stages⟩ := by
  have kept := Settings.kept_load (keepsLock_of_looking settingsPath output.lockFile) crew.state
  have same := Settings.kept_load (kept_untouched settingsPath) crew.state
  exact .elsewhere crew _ kept.number (fun _ lock _ => kept.locked lock.number) (same.keepsFile output)

/-- Updates of one output that go through their stages in any order lose none of each other's work. To load
its settings and go through the stages is the whole run of an update. At all times only one update holds the
lock. Who writes built its catalog against a baseline that was loaded under the lock, and the content that
is replaced is the one from which that baseline was loaded. -/
theorem no_lost_update (output : Path) (jobs : ι → Job) (start crew : Crew ι σ)
    (fresh : ∀ member, start.stages member = .opening) (reached : Reaches output jobs start crew) :
    (∀ settingsPath target surroundings settings (state : σ),
      (Settings.load settingsPath state).1 = .ok settings →
      target.output.getD settings.output = output →
      Stage.advance output ⟨target.allowLarge, settings.fetch.maxPayloadSize, surroundings⟩ 6 .opening
          (Settings.load settingsPath state).2 =
        (.finished (run settingsPath target surroundings state).1,
          (run settingsPath target surroundings state).2)) ∧
    (∀ settingsPath, Step output jobs crew ⟨(Settings.load settingsPath crew.state).2, crew.stages⟩) ∧
    crew.Orderly output ∧
    ∀ member lock fetched catalog, crew.stages member = .writing lock fetched catalog →
      ∃ moment, LoadedAt output jobs start member moment crew ∧
        (jobs member).build (Baseline.load output moment.state).1 = ⟨fetched, .ok catalog⟩ ∧
        ((catalog.write output crew.state).1 = .ok () →
          octetsAt? crew.state output = octetsAt? moment.state output ∧
          ((∃ text, octetsAt? crew.state output = some text.toUTF8.toList ∧
              (Baseline.load output moment.state).1 =
                ((Json.ofText? text).map Baseline.ofJson).getD .empty) ∨
            (∀ text, ¬Finds moment.state output text) ∧
              (Baseline.load output moment.state).1 = .empty)) := by
  have began : start.Orderly output := .of_opening fresh
  refine ⟨?_, (step_settings output · jobs crew), began.reaches reached, ?_⟩
  · rintro settingsPath target surroundings settings state loaded rfl
    exact Stage.advance_eq_run loaded
  · intro member lock fetched catalog writes
    obtain ⟨moment, loaded, built⟩ := (Grounded.reaches fresh reached).writing member lock fetched
      catalog writes
    exact ⟨moment, loaded, built, loaded.replaces (began.reaches loaded.reached)⟩

/-! ### Two updates -/

/-- The sample document as it is read back. -/
def servedPayload : Payload :=
  ⟨Catalog.samplePayload.fields.reverse⟩

private theorem faithful_samplePayload (room : Nat) : Json.Faithful (room + 4) Catalog.samplePayload.toJson := by
  refine .object ?_
  intro field member
  simp only [Catalog.samplePayload, List.mem_cons, List.not_mem_nil, or_false] at member
  rcases member with rfl | rfl
  · refine .array ?_
    intro item listed
    obtain ⟨text, _, rfl⟩ := List.mem_map.mp listed
    refine .object ?_
    intro field member
    rw [List.mem_singleton.mp member]
    exact .string text
  · refine .array ?_
    intro item listed
    obtain ⟨text, _, rfl⟩ := List.mem_map.mp listed
    exact .string text

/-- An answer with the sample document. -/
def sampleAnswer : Response :=
  { status := 200
    headers := []
    declared := none
    pieces := [(Catalog.samplePayload.toJson.pretty ++ "\n").toUTF8.toList]
    ended := true }

private theorem delivers_sampleAnswer : sampleAnswer.Delivers sampleAnswer.body.length servedPayload := by
  have body : sampleAnswer.body = (Catalog.samplePayload.toJson.pretty ++ "\n").toUTF8.toList :=
    List.append_nil _
  refine ⟨by decide, rfl, Nat.le_refl _, ?_⟩
  rw [body, Json.ofOctets?, fromUTF8?_toUTF8, Option.bind_some, (faithful_samplePayload _).ofText?_pretty]
  rfl

/-- An update for which all servers have the sample document, and growth is accepted. -/
def sampleJob : Job :=
  ⟨true, sampleAnswer.body.length,
    { network := fun _ => some sampleAnswer, now := Instant.ofSeconds 1748766600 }⟩

private theorem fetch_sampleJob {source : Source} (member : source ∈ Source.builtIn) :
    sampleJob.fetch source.url = .ok servedPayload := by
  have sound := (Registry.check_eq_ok_iff.mp Registry.check_builtIn).sound source member
  obtain ⟨url, allowed⟩ := sound.allowed
  obtain ⟨read, permitted⟩ := Url.ofAllowedText_eq_ok_iff.mp allowed
  have short : [url].length ≤ Client.chainLimit := Nat.le_add_left 1 4
  exact congrArg Client.Exchange.result
    (Client.fetch_of_short read (Client.leads_singleton permitted) short rfl rfl delivers_sampleAnswer)

private theorem exists_build_sampleJob (baseline : Baseline) :
    ∃ fetched catalog, sampleJob.build baseline = ⟨fetched, .ok catalog⟩ := by
  obtain ⟨catalog, built⟩ := Catalog.exists_run_of_sample servedPayload rfl rfl
    (fun _ => fetch_sampleJob) baseline sampleJob.surroundings.now
  have made : (sampleJob.build baseline).result = .ok catalog := built
  generalize sampleJob.build baseline = build at made ⊢
  obtain ⟨fetched, result⟩ := build
  exact ⟨fetched, catalog, congrArg _ made⟩

/-- A catalog that knows one set. -/
def sampleText : String :=
  "\x7b\"sets\":[\x7b\"id\":\"github_copilot\",\"cidrs\":[\"192.0.2.0/24\"]\x7d]\x7d"

/-- The path of that catalog. -/
def samplePath : Path :=
  ⟨"catalog.json"⟩

/-- A tree with that catalog, at which two updates begin. -/
def sampleStart : Crew Bool Tree :=
  ⟨({} : Tree).put samplePath sampleText.toUTF8.toList, fun _ => .opening⟩

/-- The tree after the lock file was opened. -/
def openedTree : Tree :=
  (Lock.openFile samplePath sampleStart.state).2

/-- The tree after the lock file was locked. -/
def lockedTree : Tree :=
  (Locking.lock 1 openedTree).2

private theorem openFile_sampleStart : Lock.openFile samplePath sampleStart.state = (.ok 1, openedTree) := by
  have opened : (Lock.openFile samplePath sampleStart.state).1 = .ok 1 := by decide +kernel
  exact Prod.ext opened rfl

/-- The lock file is opened again as it is. -/
theorem openFile_openedTree : Lock.openFile samplePath openedTree = (.ok 1, openedTree) := by
  have bare : samplePath.lockFile.directory? = none := by decide +kernel
  have found : number? openedTree samplePath.lockFile = some 1 :=
    Lock.number_of_openFile (congrArg Prod.fst openFile_sampleStart)
  have again : Locking.openFile samplePath.lockFile openedTree = (.ok 1, openedTree) :=
    Tree.openFile_of_number found
  rw [Lock.openFile_of_bare bare, again]
  rfl

private theorem lock_openedTree : Locking.lock 1 openedTree = (true, lockedTree) := by
  have locked : (Locking.lock 1 openedTree).1 = true := by decide +kernel
  exact Prod.ext locked rfl

private theorem lock_lockedTree : Locking.lock 1 lockedTree = (false, lockedTree) := by
  rcases Tree.lock_cases lockedTree 1 with ⟨free, _⟩ | ⟨_, failed⟩
  · exact absurd (by decide +kernel) free
  · exact failed

omit [SoundStorage σ] [SoundLocking σ] [ExclusiveLocking σ] in
private theorem Reaches.then_turn {stage following : Stage} {stages : ι → Stage} {before after : σ}
    (reached : Reaches output jobs start ⟨before, stages⟩) (member : ι) (present : stages member = stage)
    (goesOn : stage.step output (jobs member) before = (following, after)) :
    Reaches output jobs start ⟨after, Function.update stages member following⟩ := by
  have taken : Step output jobs ⟨before, stages⟩ (Crew.turn output jobs member ⟨before, stages⟩) :=
    .turn _ member
  have turned : Crew.turn output jobs member ⟨before, stages⟩ =
      Crew.put ⟨before, stages⟩ member ((stages member).step output (jobs member) before) := rfl
  rw [turned, present, goesOn] at taken
  exact reached.tail taken

/-- Of two updates that begin at once the first takes the lock and the second fails, and then the first
comes to write. -/
theorem exists_writing_sample :
    ∃ crew lock fetched catalog, Reaches samplePath (fun _ => sampleJob) sampleStart crew ∧
      crew.stages true = .finished (.failed (.locked samplePath samplePath.lockFile) []) ∧
      crew.stages false = .writing lock fetched catalog ∧
      (catalog.write samplePath crew.state).1 = .ok () := by
  have opens : Stage.step samplePath sampleJob .opening sampleStart.state = (.asking 1, openedTree) := by
    rw [Stage.step_opening, openFile_sampleStart]
  have opensToo : Stage.step samplePath sampleJob .opening openedTree = (.asking 1, openedTree) := by
    rw [Stage.step_opening, openFile_openedTree]
  have locks : Stage.step samplePath sampleJob (.asking 1) openedTree =
      (.loading ⟨samplePath.lockFile, 1⟩, lockedTree) := by
    rw [Stage.step_asking, lock_openedTree, if_pos rfl]
  have fails : Stage.step samplePath sampleJob (.asking 1) lockedTree =
      (.finished (.failed (.locked samplePath samplePath.lockFile) []), lockedTree) := by
    rw [Stage.step_asking, lock_lockedTree, if_neg (by decide)]
  obtain ⟨fetched, catalog, built⟩ := exists_build_sampleJob (Baseline.load samplePath lockedTree).1
  have builds : Stage.step samplePath sampleJob
      (.building ⟨samplePath.lockFile, 1⟩ (Baseline.load samplePath lockedTree).1)
      (Baseline.load samplePath lockedTree).2 =
        (.writing ⟨samplePath.lockFile, 1⟩ fetched catalog, (Baseline.load samplePath lockedTree).2) := by
    rw [Stage.step_building, built]
    rfl
  have begun : Reaches samplePath (fun _ => sampleJob) sampleStart sampleStart := .refl
  have asked := (begun.then_turn false rfl opens).then_turn true rfl opensToo
  have answered := (asked.then_turn false rfl locks).then_turn true rfl fails
  have reached := (answered.then_turn false rfl (Stage.step_loading_of_client rfl _)).then_turn false rfl builds
  have target : lockedTree.target samplePath = .ok ["catalog.json"] := by decide +kernel
  have alike := Baseline.kept_load (kept_alike samplePath) lockedTree
  have written := Catalog.write_of_accepts (alike.accepts (Tree.accepts_of_target target)) catalog
  exact ⟨_, _, fetched, catalog, reached, rfl, rfl, written⟩

/-- When the first of two updates comes to write, it replaces the content from which it loaded its
baseline, although the second one came between. -/
theorem no_lost_update_two :
    ∃ crew lock fetched catalog moment,
      (∀ member, sampleStart.stages member = .opening) ∧
      Reaches samplePath (fun _ => sampleJob) sampleStart crew ∧
      crew.stages true = .finished (.failed (.locked samplePath samplePath.lockFile) []) ∧
      crew.stages false = .writing lock fetched catalog ∧
      (catalog.write samplePath crew.state).1 = .ok () ∧
      LoadedAt samplePath (fun _ => sampleJob) sampleStart false moment crew ∧
      octetsAt? crew.state samplePath = octetsAt? moment.state samplePath := by
  obtain ⟨crew, lock, fetched, catalog, reached, failed, writes, written⟩ := exists_writing_sample
  obtain ⟨_, _, _, replaces⟩ := no_lost_update samplePath _ sampleStart crew (fun _ => rfl) reached
  obtain ⟨moment, loaded, _, same⟩ := replaces false lock fetched catalog writes
  exact ⟨crew, lock, fetched, catalog, moment, fun _ => rfl, reached, failed, writes, written, loaded,
    (same written).1⟩

end Crew

end Update

end RangeCatalog
