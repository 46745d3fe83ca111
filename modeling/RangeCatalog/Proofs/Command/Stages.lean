import RangeCatalog.Proofs.Command.Update
import RangeCatalog.Proofs.Storage.Locks

/-! # Updates in stages

An update of an output goes through stages: it opens its lock file, asks for the lock, loads the baseline,
builds, writes, and gives the lock back. Between two stages others may have their turn. Taken one after
the other the stages are the whole update. Each takes a lock or gives it back or leaves all locks, and only
the writing changes a file that is there.
-/

namespace RangeCatalog

open Storage

/-! ## Kept locks -/

section

variable {σ : Type} [Storage σ] [Locking σ] [Files σ] [Locks σ] [ExclusiveLocking σ] {output : Path}
  {state : σ}

theorem Storage.keepsLock_of_looking (path other : Path) :
    KeptByLooking path (KeepsLock (σ := σ) other) :=
  ⟨.refl, .trans, (ExclusiveLocking.keepsLock_holds · path other),
    (ExclusiveLocking.keepsLock_read · path other)⟩

/-- A catalog that is written at an output takes no lock of it away. -/
theorem Catalog.keepsLock_write (catalog : Catalog) (output : Path) (state : σ) :
    KeepsLock output.lockFile state (catalog.write output state).2 := by
  have prepared : KeepsLock output.lockFile state (output.prepareDirectory state).2 :=
    Path.kept_prepareDirectory .refl .trans
      (fun directory state => ExclusiveLocking.keepsLock_holds state directory _)
      (fun directory state => ExclusiveLocking.keepsLock_createDirectories state directory _) state
  rw [write, bind_apply]
  cases (output.prepareDirectory state).1 with
  | error failure => exact prepared
  | ok done => exact prepared.trans (ExclusiveLocking.keepsLock_replace _ output _)

namespace Lock

private theorem keepsLock_prepareDirectory (path other : Path) (state : σ) :
    KeepsLock other state (prepareDirectory path state).2 := by
  rw [prepareDirectory]
  cases path.directory? with
  | none => exact .refl state
  | some directory => exact ExclusiveLocking.keepsLock_makeDirectories state directory other

private theorem keepsLock_openFile (output other : Path) (state : σ) :
    KeepsLock other state (openFile output state).2 := by
  have prepared := keepsLock_prepareDirectory output.lockFile other state
  rcases openFile_snd output state with after | after <;> rw [after]
  · exact prepared
  · exact prepared.trans (ExclusiveLocking.keepsLock_openFile _ output.lockFile other)

/-- The lock file that was opened is there, under its number. -/
theorem number_of_openFile {number : Nat} (opened : (openFile output state).1 = .ok number) :
    number? (openFile output state).2 output.lockFile = some number := by
  rw [openFile, bind_apply] at opened ⊢
  cases prepared : (prepareDirectory output.lockFile state).1 with
  | error failure =>
    rw [prepared] at opened
    contradiction
  | ok done =>
    simp only [prepared, bind_apply] at opened ⊢
    exact ExclusiveLocking.number_of_openFile _ _ _ (mapError_eq_ok_iff.mp opened)

/-- A lock file that is there is opened as it is. -/
theorem untouched_openFile [SoundLocking σ] {number : Nat}
    (found : number? state output.lockFile = some number) :
    Untouched state (openFile output state).2 := by
  have prepared := untouched_prepareDirectory output.lockFile state
  rcases openFile_snd output state with after | after <;> rw [after]
  · exact prepared
  · have kept := (keepsLock_prepareDirectory output.lockFile output.lockFile state).number number found
    exact prepared.trans (ExclusiveLocking.untouched_openFile _ _ _ kept)

end Lock

end

namespace Update

/-- What an update of an output is asked, and what it meets. -/
structure Job where
  allowLarge : Bool
  /-- The bound on the size of payloads. -/
  max : Nat
  surroundings : Environment

namespace Job

/-- What is fetched for the sources. -/
def fetch (job : Job) : Fetcher :=
  fun url => (Client.fetch job.surroundings.network job.max url).result

/-- The build against a baseline. -/
def build (job : Job) (baseline : Baseline) : Build :=
  Build.run Source.builtIn job.fetch ⟨baseline, job.surroundings.now, job.allowLarge⟩

/-- The requests that are sent for the URLs that were fetched. -/
def requests (job : Job) (urls : List String) : List Request :=
  Client.requestsFor job.surroundings.network job.max urls

/-- What is left behind when the catalog was written, or was not. -/
def report (job : Job) (output : Path) (fetched : List String) (catalog : Catalog) :
    Except Failure Unit → Report
  | .error failure => .failed failure (job.requests fetched)
  | .ok () => { requests := job.requests fetched, output := summary output catalog }

end Job

/-- How far an update has come, with what it will need. -/
inductive Stage where
  /-- The lock file is to be opened. -/
  | opening
  /-- The file with a number is to be locked. -/
  | asking (number : Nat)
  | loading (lock : Lock)
  | building (lock : Lock) (baseline : Baseline)
  | writing (lock : Lock) (fetched : List String) (catalog : Catalog)
  /-- The lock is to be given back. -/
  | releasing (lock : Lock) (report : Report)
  | finished (report : Report)

namespace Stage

/-- The lock that an update holds at a stage. -/
def lock? : Stage → Option Lock
  | loading lock => some lock
  | building lock _ => some lock
  | writing lock _ _ => some lock
  | releasing lock _ => some lock
  | _ => none

/-- The number of the lock file that an update has open at a stage. -/
def opened? : Stage → Option Nat
  | asking number => some number
  | stage => stage.lock?.map Lock.number

/-- The stage after a build. -/
def ofBuild (job : Job) (lock : Lock) (build : Build) : Stage :=
  match build.result with
  | .error error => releasing lock (.failed (.update error) (job.requests build.fetched))
  | .ok catalog => writing lock build.fetched catalog

private theorem lock?_ofBuild (job : Job) (lock : Lock) (build : Build) :
    (ofBuild job lock build).lock? = some lock := by
  rw [ofBuild]
  split <;> rfl

theorem opened?_of_lock? {stage : Stage} {lock : Lock} (held : stage.lock? = some lock) :
    stage.opened? = some lock.number := by
  cases stage with
  | opening => contradiction
  | asking number => contradiction
  | finished report => contradiction
  | _ => exact congrArg (Option.map Lock.number) held

variable {σ : Type} [Storage σ] [Locking σ]

/-- What an update does at a stage, and the stage that follows. -/
def step (output : Path) (job : Job) : Stage → StateM σ Stage
  | opening => do
    match ← Lock.openFile output with
    | .error failure => return finished (.failed failure [])
    | .ok number => return asking number
  | asking number => do
    if ← Locking.lock number then return loading ⟨output.lockFile, number⟩
    else return finished (.failed (.locked output output.lockFile) [])
  | loading lock => do
    match job.surroundings.clientFault with
    | some reason => return releasing lock (.failed (.client reason) [])
    | none => return building lock (← Baseline.load output)
  | building lock baseline => return ofBuild job lock (job.build baseline)
  | writing lock fetched catalog => do
    return releasing lock (job.report output fetched catalog (← catalog.write output))
  | releasing lock report => do
    modify lock.release
    return finished report
  | finished report => return finished report

/-- What an update does at some stages, one after the other. -/
def advance (output : Path) (job : Job) : Nat → Stage → StateM σ Stage
  | 0, stage => return stage
  | count + 1, stage => do advance output job count (← stage.step output job)

/-! ## Single stages -/

variable {output : Path} {job : Job} {state : σ}

theorem step_opening :
    step output job opening state =
      (match (Lock.openFile output state).1 with
        | .error failure => finished (.failed failure [])
        | .ok number => asking number,
      (Lock.openFile output state).2) := by
  rw [step, bind_apply]
  cases (Lock.openFile output state).1 <;> rfl

theorem step_asking (number : Nat) :
    step output job (asking number) state =
      (if (Locking.lock number state).1 then loading ⟨output.lockFile, number⟩
        else finished (.failed (.locked output output.lockFile) []),
      (Locking.lock number state).2) := by
  rw [step, bind_apply]
  cases (Locking.lock number state).1 <;> rfl

/-- Without a client the lock is given back at once. -/
theorem step_loading_of_fault {reason : String} (fault : job.surroundings.clientFault = some reason)
    (lock : Lock) :
    step output job (loading lock) state = (releasing lock (.failed (.client reason) []), state) := by
  rw [step, fault]
  rfl

theorem step_loading_of_client (client : job.surroundings.clientFault = none) (lock : Lock) :
    step output job (loading lock) state =
      (building lock (Baseline.load output state).1, (Baseline.load output state).2) := by
  rw [step, client]
  rfl

theorem step_building (lock : Lock) (baseline : Baseline) :
    step output job (building lock baseline) state = (ofBuild job lock (job.build baseline), state) := rfl

private theorem step_writing (lock : Lock) (fetched : List String) (catalog : Catalog) :
    step output job (writing lock fetched catalog) state =
      (releasing lock (job.report output fetched catalog (catalog.write output state).1),
        (catalog.write output state).2) := rfl

/-! ## Whole updates -/

private theorem advance_succ (count : Nat) (stage : Stage) :
    advance output job (count + 1) stage state =
      advance output job count (stage.step output job state).1 (stage.step output job state).2 := rfl

private theorem advance_finished (report : Report) (count : Nat) :
    advance output job count (finished report) state = (finished report, state) := by
  induction count with
  | zero => rfl
  | succ count ih => exact ih

/-- After two stages an update has its lock, or it has failed to take it. -/
theorem advance_opening (count : Nat) :
    advance output job (count + 2) opening state =
      advance output job count
        (match (Lock.acquire output state).1 with
          | .error failure => finished (.failed failure [])
          | .ok lock => loading lock)
        (Lock.acquire output state).2 := by
  rw [advance_succ, step_opening, Lock.acquire, bind_apply]
  cases (Lock.openFile output state).1 with
  | error failure => exact (advance_finished _ _).trans (advance_finished _ _).symm
  | ok number =>
    simp only [bind_apply]
    rw [advance_succ, step_asking]
    cases (Locking.lock number (Lock.openFile output state).2).1 <;> rfl

/-- After a build an update comes to its end in two stages. -/
theorem advance_ofBuild (lock : Lock) (build : Build) :
    advance output job 2 (ofBuild job lock build) state =
      match build.result with
      | .error error =>
        (finished (.failed (.update error) (job.requests build.fetched)), lock.release state)
      | .ok catalog =>
        (finished (job.report output build.fetched catalog (catalog.write output state).1),
          lock.release (catalog.write output state).2) := by
  rw [ofBuild]
  cases build.result <;> rfl

/-- With a client, what an update does under its lock and giving it back is done in four stages. -/
theorem advance_loading (client : job.surroundings.clientFault = none) (lock : Lock) :
    advance output job 4 (loading lock) state =
      (finished (runLocked output job.allowLarge job.max job.surroundings state).1,
        lock.release (runLocked output job.allowLarge job.max job.surroundings state).2) := by
  have rebuilt : Catalog.rebuild (fun url => (Client.fetch job.surroundings.network job.max url).result)
      output job.surroundings.now job.allowLarge state =
        (job.build (Baseline.load output state).1, (Baseline.load output state).2) := rfl
  rw [advance_succ, step_loading_of_client client, advance_succ, step_building, advance_ofBuild, runLocked,
    client]
  simp only [bind_apply, Catalog.refresh, rebuilt]
  -- The build stays a variable: its registry is closed, and comparing terms would evaluate it.
  generalize job.build (Baseline.load output state).1 = build
  generalize (Baseline.load output state).2 = later
  cases build.result with
  | error error => rfl
  | ok catalog =>
    simp only [bind_apply]
    cases (catalog.write output later).1 <;> rfl

/-- The stages, one after the other, are the whole update. -/
theorem advance_eq_runOn (output : Path) (job : Job) (state : σ) :
    advance output job 6 opening state =
      (finished (runOn output job.allowLarge job.max job.surroundings state).1,
        (runOn output job.allowLarge job.max job.surroundings state).2) := by
  cases acquired : (Lock.acquire output state).1 with
  | error failure =>
    rw [advance_opening, acquired, runOn_of_unlocked acquired, advance_finished]
  | ok lock =>
    rw [advance_opening, acquired, runOn_of_locked acquired]
    cases client : job.surroundings.clientFault with
    | some reason =>
      rw [runLocked_of_fault client, advance_succ, step_loading_of_fault client, advance_succ]
      exact advance_finished _ _
    | none => exact advance_loading client lock

/-- The stages, after the settings were loaded, are the whole run. -/
theorem advance_eq_run {settingsPath : Path} {target : Target} {surroundings : Environment}
    {settings : Settings} (loaded : (Settings.load settingsPath state).1 = .ok settings) :
    advance (target.output.getD settings.output)
        ⟨target.allowLarge, settings.fetch.maxPayloadSize, surroundings⟩ 6 opening
        (Settings.load settingsPath state).2 =
      (finished (run settingsPath target surroundings state).1,
        (run settingsPath target surroundings state).2) := by
  rw [run_of_settings loaded]
  exact advance_eq_runOn _ _ _

/-! ## Locks -/

/-- What becomes of the lock of an output when an update goes from one stage to the next. -/
inductive Passes [Locks σ] (output : Path) (before after : σ) : Stage → Stage → Prop where
  /-- No lock is taken or given back. A lock file that is opened is the one that is there. -/
  | keeps {stage next : Stage} (lock : next.lock? = stage.lock?)
      (number : ∀ number, next.opened? = some number →
        stage.opened? = some number ∨ number? after output.lockFile = some number)
      (kept : KeepsLock output.lockFile before after) : Passes output before after stage next
  | takes {number : Nat} (free : ¬Locked before number) (locked : Locked after number)
      (kept : KeepsLock output.lockFile before after) :
      Passes output before after (asking number) (loading ⟨output.lockFile, number⟩)
  | gives {lock : Lock} {report : Report} (released : after = lock.release before) :
      Passes output before after (releasing lock report) (finished report)

section

variable [Files σ] [Locks σ] [ExclusiveLocking σ]

theorem passes_step (output : Path) (job : Job) (stage : Stage) (state : σ) :
    Passes output state (stage.step output job state).2 stage (stage.step output job state).1 := by
  cases stage with
  | opening =>
    rw [step_opening]
    dsimp only
    have kept := Lock.keepsLock_openFile output output.lockFile state
    cases opened : (Lock.openFile output state).1 with
    | error failure => exact .keeps rfl nofun kept
    | ok number =>
      have there := Lock.number_of_openFile opened
      exact .keeps rfl (fun _ same => .inr (there.trans same)) kept
  | asking number =>
    rw [step_asking]
    dsimp only
    have kept := ExclusiveLocking.keepsLock_lock state number output.lockFile
    cases had : (Locking.lock number state).1 with
    | false => exact .keeps rfl nofun kept
    | true =>
      obtain ⟨free, locked⟩ := ExclusiveLocking.locked_of_lock state number had
      exact .takes free locked kept
  | loading lock =>
    cases client : job.surroundings.clientFault with
    | some reason =>
      rw [step_loading_of_fault client]
      exact .keeps rfl (fun _ => .inl) (.refl state)
    | none =>
      rw [step_loading_of_client client]
      have kept := Baseline.kept_load (keepsLock_of_looking output output.lockFile) state
      exact .keeps rfl (fun _ => .inl) kept
  | building lock baseline =>
    rw [step_building]
    dsimp only
    have same := lock?_ofBuild job lock (job.build baseline)
    refine .keeps same ?_ (.refl state)
    intro number opened
    rw [opened?_of_lock? same] at opened
    exact .inl opened
  | writing lock fetched catalog =>
    rw [step_writing]
    exact .keeps rfl (fun _ => .inl) (Catalog.keepsLock_write catalog output state)
  | releasing lock report => exact .gives rfl
  | finished report => exact .keeps rfl (fun _ => .inl) (.refl state)

/-! ## Files -/

/-- While the lock file is there, no file is touched but by writing. -/
theorem untouched_step [SoundStorage σ] [SoundLocking σ] {number : Nat} {stage : Stage}
    (found : number? state output.lockFile = some number)
    (reads : ∀ lock fetched catalog, stage ≠ writing lock fetched catalog) :
    Untouched state (stage.step output job state).2 := by
  cases stage with
  | opening =>
    rw [step_opening]
    dsimp only
    exact Lock.untouched_openFile found
  | asking number =>
    rw [step_asking]
    dsimp only
    exact SoundLocking.untouched_lock state number
  | loading lock =>
    cases client : job.surroundings.clientFault with
    | some reason =>
      rw [step_loading_of_fault client]
      exact .refl state
    | none =>
      rw [step_loading_of_client client]
      exact Baseline.kept_load (kept_untouched output) state
  | building lock baseline => exact .refl state
  | writing lock fetched catalog => exact absurd rfl (reads lock fetched catalog)
  | releasing lock report => exact SoundLocking.untouched_unlock state lock.number
  | finished report => exact .refl state

end

/-! ## Earlier stages -/

/-- A baseline was loaded in the stage before the build. -/
theorem loading_of_step {stage : Stage} {lock : Lock} {baseline : Baseline}
    (next : (stage.step output job state).1 = building lock baseline) :
    stage = loading lock ∧ (Baseline.load output state).1 = baseline := by
  cases stage with
  | loading present =>
    cases client : job.surroundings.clientFault with
    | some reason =>
      rw [step_loading_of_fault client] at next
      contradiction
    | none =>
      rw [step_loading_of_client client] at next
      cases next
      exact ⟨rfl, rfl⟩
  | opening =>
    rw [step_opening] at next
    dsimp only at next
    split at next <;> cases next
  | asking number =>
    rw [step_asking] at next
    dsimp only at next
    split at next <;> cases next
  | building present loaded =>
    rw [step_building] at next
    dsimp only [ofBuild] at next
    split at next <;> cases next
  | _ => contradiction

/-- A catalog was built in the stage before it is written. -/
theorem building_of_step {stage : Stage} {lock : Lock} {fetched : List String} {catalog : Catalog}
    (next : (stage.step output job state).1 = writing lock fetched catalog) :
    ∃ baseline, stage = building lock baseline ∧ job.build baseline = ⟨fetched, .ok catalog⟩ := by
  cases stage with
  | building present baseline =>
    rw [step_building, ofBuild] at next
    cases made : job.build baseline with
    | mk urls result =>
      cases result with
      | error error =>
        rw [made] at next
        contradiction
      | ok built =>
        rw [made] at next
        cases next
        exact ⟨baseline, rfl, made⟩
  | loading present =>
    cases client : job.surroundings.clientFault with
    | some reason =>
      rw [step_loading_of_fault client] at next
      contradiction
    | none =>
      rw [step_loading_of_client client] at next
      contradiction
  | opening =>
    rw [step_opening] at next
    dsimp only at next
    split at next <;> cases next
  | asking number =>
    rw [step_asking] at next
    dsimp only at next
    split at next <;> cases next
  | _ => contradiction

end Stage

end Update

end RangeCatalog
