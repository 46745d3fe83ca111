import RangeCatalog.Command.Update
import RangeCatalog.Proofs.Catalog.Refresh
import RangeCatalog.Proofs.Catalog.Writing
import RangeCatalog.Proofs.Lock
import RangeCatalog.Proofs.Storage.Disk

/-! # Updates write all or nothing

A refresh, and the update around it, leaves the file at the output as it was, or whole with the new
catalog. This holds for any storage that keeps its promises about files, wherever its operations fail.
Besides that, an update may only make its lock file, with the directory that this needs.
-/

namespace RangeCatalog

open Storage

variable {σ : Type}

/-- What becomes of files, and which calls are made, when a catalog is refreshed at a path. -/
structure Catalog.WholeOrNothing [Files σ] (path : Path) (result : Except Failure Catalog)
    (before after : Recorded σ) : Prop where
  /-- No file is touched by a refresh that fails. -/
  failed : ∀ failure, result = .error failure → Untouched before after
  /-- The storage is not asked for a directory or a replacement when it is the build that fails. -/
  unbuilt : ∀ error, result = .error (.update error) →
    Recorded.Called (StorageCall.LooksAt path) before after
  /-- The one file at the path holds the catalog of a refresh that succeeds. -/
  written : ∀ catalog, result = .ok catalog →
    (∃ file, file? after path = some file ∧ Given file catalog.render.toUTF8.toList before after) ∧
      Recorded.ReplacedLast path before after

/-- What becomes of files, and which calls are made, when an output is updated. An update that comes so
far refreshes the output in the state in which it took the lock. -/
structure Update.WholeOrNothing [Files σ] (settingsPath output : Path)
    (refresh : Recorded σ → Except Failure Catalog) (report : Report) (before after : Recorded σ) :
    Prop where
  /-- No file but the lock file is made, and none is changed, by an update that fails. -/
  failed : ∀ failure, report.failure = some failure → SameButLock output before after
  /-- The storage is not asked for a directory or a replacement when it is the build that fails. -/
  unbuilt : ∀ error, report.failure = some (.update error) →
    Recorded.Called (fun call => call.LooksAt settingsPath ∨ call.LooksAt output) before after
  /-- The file at the output holds the catalog of an update that succeeds. No other file is changed, and
  none is made but the lock file. -/
  written : report.failure = none → ∃ locked catalog, SameButLock output before locked ∧
    refresh locked = .ok catalog ∧ report.output = summary output catalog ∧
    (∃ file, file? after output = some file ∧
      GivenButLock output file catalog.render.toUTF8.toList before after) ∧
    Recorded.ReplacedLast output before after

variable [Storage σ]

/-! ## Refreshing -/

private theorem Catalog.refresh_wholeOrNothing [Files σ] [SoundStorage σ] (fetch : Fetcher) (path : Path)
    (now : Instant) (allowLarge : Bool) (state : Recorded σ) :
    WholeOrNothing path (refresh fetch path now allowLarge state).1.result state
      (refresh fetch path now allowLarge state).2 := by
  have cases := refresh_cases fetch path now allowLarge state
  refine ⟨?_, ?_, ?_⟩
  · intro failure failed
    rcases cases with ⟨catalog, refreshed, _⟩ | ⟨_, _, same⟩
    · have both := refreshed.symm.trans failed
      contradiction
    · exact same
  · exact fun error failed => called_refresh failed
  · intro catalog refreshed
    rcases cases with ⟨made, same, written⟩ | ⟨_, failed, _⟩
    · cases same.symm.trans refreshed
      exact ⟨written, replacedLast_refresh refreshed⟩
    · have both := failed.symm.trans refreshed
      contradiction

/-! ## Updating -/

namespace Update

variable [Locking σ]

/-- The refresh of an output that is made under its lock. -/
def refreshOn (output : Path) (allowLarge : Bool) (max : Nat) (surroundings : Environment) :
    StateM σ (Fetched Catalog) :=
  Catalog.refresh (fun url => (Client.fetch surroundings.network max url).result) output surroundings.now
    allowLarge

variable {output : Path} {allowLarge : Bool} {max : Nat} {surroundings : Environment} {state : σ}

/-- An update that does not take its lock does nothing else. -/
theorem runOn_of_unlocked {failure : Failure}
    (failed : (Lock.acquire output state).1 = .error failure) :
    runOn output allowLarge max surroundings state =
      (.failed failure [], (Lock.acquire output state).2) := by
  rw [runOn, bind_apply, failed]
  rfl

/-- An update that takes its lock gives it back at its end, whatever came of it. -/
theorem runOn_of_locked {lock : Lock} (acquired : (Lock.acquire output state).1 = .ok lock) :
    runOn output allowLarge max surroundings state =
      ((runLocked output allowLarge max surroundings (Lock.acquire output state).2).1,
        lock.release (runLocked output allowLarge max surroundings (Lock.acquire output state).2).2) := by
  rw [runOn, bind_apply, acquired]
  rfl

omit [Locking σ] in
/-- Without a client nothing is done under the lock. -/
theorem runLocked_of_fault {reason : String} (fault : surroundings.clientFault = some reason) :
    runLocked output allowLarge max surroundings state = (.failed (.client reason) [], state) := by
  rw [runLocked, fault]
  rfl

omit [Locking σ] in
/-- With a client the output is refreshed under the lock. -/
theorem runLocked_of_client (client : surroundings.clientFault = none) (output : Path) (allowLarge : Bool)
    (max : Nat) (state : σ) :
    (runLocked output allowLarge max surroundings state).2 =
      (refreshOn output allowLarge max surroundings state).2 ∧
    (∀ failure, (refreshOn output allowLarge max surroundings state).1.result = .error failure →
      (runLocked output allowLarge max surroundings state).1.failure = some failure) ∧
    ∀ catalog, (refreshOn output allowLarge max surroundings state).1.result = .ok catalog →
      (runLocked output allowLarge max surroundings state).1.failure = none ∧
      (runLocked output allowLarge max surroundings state).1.output = summary output catalog := by
  rw [runLocked, client]
  simp only [bind_apply, refreshOn]
  generalize Catalog.refresh _ output surroundings.now allowLarge state = refreshed
  obtain ⟨⟨urls, result⟩, after⟩ := refreshed
  cases result with
  | error failure => exact ⟨rfl, fun _ failed => by cases failed; rfl, nofun⟩
  | ok catalog => exact ⟨rfl, nofun, fun _ made => by cases made; exact ⟨rfl, rfl⟩⟩

omit [Storage σ] in
/-- What a refresh under a lock does is done once the lock is given back. -/
theorem wholeOrNothing_of_locked [Files σ] [SoundLocking σ] {settingsPath : Path}
    {before locked after : Recorded σ} {refresh : Recorded σ → Except Failure Catalog} {report : Report}
    (lock : Lock) (prepared : SameButLock output before locked)
    (looked : Recorded.Called (StorageCall.LooksAt settingsPath) before locked)
    (whole : Catalog.WholeOrNothing output (refresh locked) locked after)
    (fails : ∀ failure, refresh locked = .error failure → report.failure = some failure)
    (makes : ∀ catalog, refresh locked = .ok catalog →
      report.failure = none ∧ report.output = summary output catalog) :
    WholeOrNothing settingsPath output refresh report before (lock.release after) := by
  have released : Untouched after (lock.release after) :=
    SoundLocking.untouched_unlock after lock.number
  have sameCalls : (lock.release after).calls = after.calls := rfl
  cases result : refresh locked with
  | error failure =>
    have failed := fails failure result
    refine ⟨?_, ?_, ?_⟩
    · exact fun _ _ => (prepared.then_untouched (whole.failed failure result)).then_untouched released
    · intro error unbuilt
      obtain rfl : failure = .update error := Option.some.inj (failed.symm.trans unbuilt)
      have looks : Recorded.Called (fun call => call.LooksAt settingsPath ∨ call.LooksAt output)
          before after :=
        (looked.imp fun _ => .inl).trans ((whole.unbuilt error result).imp fun _ => .inr)
      exact looks.trans (.of_calls sameCalls)
    · intro succeeded
      have both := failed.symm.trans succeeded
      contradiction
  | ok catalog =>
    obtain ⟨succeeded, printed⟩ := makes catalog result
    refine ⟨?_, ?_, ?_⟩
    · intro failure failed
      have both := succeeded.symm.trans failed
      contradiction
    · intro error failed
      have both := succeeded.symm.trans failed
      contradiction
    · intro _
      obtain ⟨⟨file, leads, given⟩, replaced⟩ := whole.written catalog result
      have looks := looked.imp fun _ looks => looks.not_isReplacement
      refine ⟨locked, catalog, prepared, result, printed, ⟨file, released.leads _ _ leads, ?_⟩, ?_⟩
      · exact prepared.then_given (given.then_untouched released)
      · exact (replaced.after_called looks).then_calls sameCalls

/-- What becomes of files and calls in an update, when only the settings were looked at before. -/
theorem runOn_wholeOrNothing [Files σ] [SoundStorage σ] [SoundLocking σ] {settingsPath : Path}
    {before middle : Recorded σ} (same : Untouched before middle)
    (looked : Recorded.Called (StorageCall.LooksAt settingsPath) before middle) :
    WholeOrNothing settingsPath output
      (fun locked => (refreshOn output allowLarge max surroundings locked).1.result)
      (runOn output allowLarge max surroundings middle).1 before
      (runOn output allowLarge max surroundings middle).2 := by
  have prepared : SameButLock output before (Lock.acquire output middle).2 :=
    .after_untouched same (Lock.sameButLock_acquire output middle)
  cases acquired : (Lock.acquire output middle).1 with
  | error failure =>
    rw [runOn_of_unlocked acquired]
    refine ⟨fun _ _ => prepared, ?_, nofun⟩
    intro error failed
    rcases Lock.failure_of_acquire acquired with ⟨_, _, rfl⟩ | ⟨_, rfl⟩ | rfl <;> cases failed
  | ok lock =>
    rw [runOn_of_locked acquired]
    cases client : surroundings.clientFault with
    | some reason =>
      rw [runLocked_of_fault client]
      exact ⟨fun _ _ => prepared.then_untouched (SoundLocking.untouched_unlock _ lock.number), nofun, nofun⟩
    | none =>
      obtain ⟨after, fails, makes⟩ := runLocked_of_client client output allowLarge max
        (Lock.acquire output middle).2
      rw [after]
      refine wholeOrNothing_of_locked lock prepared ?_ ?_ fails makes
      · exact looked.trans (.of_calls (Lock.calls_acquire output middle))
      · exact Catalog.refresh_wholeOrNothing _ output surroundings.now allowLarge _

/-! ## Settings -/

variable {settingsPath : Path} {target : Target}

/-- An update without settings does nothing else. -/
theorem run_of_no_settings {failure : SettingsFailure}
    (failed : (Settings.load settingsPath state).1 = .error failure) :
    run settingsPath target surroundings state =
      (.failed (.settings settingsPath failure) [], (Settings.load settingsPath state).2) := by
  rw [run, bind_apply, failed]
  rfl

theorem run_of_settings {settings : Settings}
    (loaded : (Settings.load settingsPath state).1 = .ok settings) :
    run settingsPath target surroundings state =
      runOn (target.output.getD settings.output) target.allowLarge settings.fetch.maxPayloadSize
        surroundings (Settings.load settingsPath state).2 := by
  rw [run, bind_apply, loaded]

/-- Refreshes and updates write all or nothing, whatever the state of the storage is and whichever of its
operations fail. An update whose settings cannot be used touches no file. -/
theorem writes_all_or_nothing [Files σ] [SoundStorage σ] [SoundLocking σ] (state : Recorded σ) :
    (∀ fetch path now allowLarge,
      Catalog.WholeOrNothing path (Catalog.refresh fetch path now allowLarge state).1.result state
        (Catalog.refresh fetch path now allowLarge state).2) ∧
    ∀ settingsPath target surroundings,
      (∃ failure, (Settings.load settingsPath state).1 = .error failure ∧
        (run settingsPath target surroundings state).1 = .failed (.settings settingsPath failure) [] ∧
        Untouched state (run settingsPath target surroundings state).2 ∧
        Recorded.Called (StorageCall.LooksAt settingsPath) state
          (run settingsPath target surroundings state).2) ∨
      ∃ settings, (Settings.load settingsPath state).1 = .ok settings ∧
        WholeOrNothing settingsPath (target.output.getD settings.output)
          (fun locked => (refreshOn (target.output.getD settings.output) target.allowLarge
            settings.fetch.maxPayloadSize surroundings locked).1.result)
          (run settingsPath target surroundings state).1 state
          (run settingsPath target surroundings state).2 := by
  refine ⟨fun fetch path now allowLarge => Catalog.refresh_wholeOrNothing fetch path now allowLarge state,
    ?_⟩
  intro settingsPath target surroundings
  have same := Settings.kept_load (kept_untouched settingsPath) state
  have looked := Settings.kept_load (kept_called settingsPath) state
  cases loaded : (Settings.load settingsPath state).1 with
  | error failure =>
    rw [run_of_no_settings loaded]
    exact .inl ⟨failure, rfl, rfl, same, looked⟩
  | ok settings =>
    rw [run_of_settings loaded]
    exact .inr ⟨settings, rfl, runOn_wholeOrNothing same looked⟩

/-- A disk with a file at the output, on which a draft fails when five of its octets are there. -/
def wornDisk : Recorded Disk :=
  ⟨{ tree := ({} : Tree).put ⟨"catalog.json"⟩ [10]
     faults := fun step => if step = 3 then some ⟨.permissionDenied, 5⟩ else none }, []⟩

private theorem write_worn (catalog : Catalog) :
    (catalog.write ⟨"catalog.json"⟩ (Baseline.load ⟨"catalog.json"⟩ wornDisk).2).1 =
      .error (.write ⟨"catalog.json"⟩ .permissionDenied) := by
  have bare : (⟨"catalog.json"⟩ : Path).directory? = none := by decide +kernel
  have held : (holds ⟨"catalog.json"⟩ wornDisk).1 = true := by decide +kernel
  have opened : (Disk.openDraft ⟨"catalog.json"⟩
      (read ⟨"catalog.json"⟩ (holds ⟨"catalog.json"⟩ wornDisk).2).2.store).1 = .ok ⟨[".tmp"], 1⟩ := by
    decide +kernel
  have faulty : (wornDisk.store.faults 3) = some ⟨.permissionDenied, 5⟩ := rfl
  have replaced := Disk.replace_of_fault opened rfl faulty catalog.render.toUTF8.toList
  rw [Catalog.write_of_bare bare, Baseline.load_snd, if_pos held]
  exact mapError_eq_error_iff.mpr ⟨_, replaced, rfl⟩

/-- An empty disk on which nothing fails. -/
def freshDisk : Recorded Disk :=
  ⟨{ tree := {} }, []⟩

private theorem write_fresh (catalog : Catalog) :
    (catalog.write ⟨"catalog.json"⟩ (Baseline.load ⟨"catalog.json"⟩ freshDisk).2).1 = .ok () := by
  have bare : (⟨"catalog.json"⟩ : Path).directory? = none := by decide +kernel
  have absent : (holds ⟨"catalog.json"⟩ freshDisk).1 = false := by decide +kernel
  have target : ({} : Tree).target ⟨"catalog.json"⟩ = .ok ["catalog.json"] := by decide +kernel
  have nameable (above : Place) (_ : ({} : Tree).node? above = some .directory) :
      ∃ name ∈ [".tmp"], ({} : Tree).node? (above ++ [name]) = none :=
    ⟨".tmp", List.mem_singleton_self _, by simp [Tree.node?]⟩
  have replaced : (Disk.replace ⟨"catalog.json"⟩ catalog.render.toUTF8.toList
      (holds ⟨"catalog.json"⟩ freshDisk).2.store).1 = .ok () := by
    refine (Disk.replace_eq_ok_iff (fun _ => rfl) nameable).mpr ?_
    have atOnce : (({} : Tree).replaceResult ⟨"catalog.json"⟩ catalog.render.toUTF8.toList).1 = .ok () := by
      rw [Tree.replaceResult, target]
    exact atOnce
  rw [Catalog.write_of_bare bare, Baseline.load_snd, absent]
  exact mapError_eq_ok_iff.mpr replaced

/-- A refresh on the worn disk cannot write its catalog and leaves the old file. On the fresh one the file
holds the catalog. -/
theorem writes_all_or_nothing_on_disks :
    ((Catalog.refresh (fun _ => .ok Catalog.samplePayload) ⟨"catalog.json"⟩
        (Instant.ofSeconds 1748766600) true wornDisk).1.result =
          .error (.write ⟨"catalog.json"⟩ .permissionDenied) ∧
      octetsAt? (Catalog.refresh (fun _ => .ok Catalog.samplePayload) ⟨"catalog.json"⟩
        (Instant.ofSeconds 1748766600) true wornDisk).2 ⟨"catalog.json"⟩ = some [10]) ∧
    ∃ catalog, (Catalog.refresh (fun _ => .ok Catalog.samplePayload) ⟨"catalog.json"⟩
        (Instant.ofSeconds 1748766600) true freshDisk).1.result = .ok catalog ∧
      octetsAt? (Catalog.refresh (fun _ => .ok Catalog.samplePayload) ⟨"catalog.json"⟩
        (Instant.ofSeconds 1748766600) true freshDisk).2 ⟨"catalog.json"⟩ =
          some catalog.render.toUTF8.toList := by
  obtain ⟨refreshesWorn, _⟩ := writes_all_or_nothing wornDisk
  obtain ⟨refreshesFresh, _⟩ := writes_all_or_nothing freshDisk
  constructor
  · obtain ⟨catalog, failed⟩ := Catalog.refresh_sample ⟨"catalog.json"⟩ (Instant.ofSeconds 1748766600)
      wornDisk
    rw [write_worn] at failed
    have same := (refreshesWorn _ _ _ _).failed _ failed
    have old : octetsAt? wornDisk ⟨"catalog.json"⟩ = some [10] := by decide +kernel
    exact ⟨failed, same.octetsAt old⟩
  · obtain ⟨catalog, refreshed⟩ := Catalog.refresh_sample ⟨"catalog.json"⟩
      (Instant.ofSeconds 1748766600) freshDisk
    rw [write_fresh] at refreshed
    obtain ⟨⟨file, leads, given⟩, _⟩ := (refreshesFresh _ _ _ _).written catalog refreshed
    exact ⟨catalog, refreshed, Option.bind_eq_some_iff.mpr ⟨file, leads, given.octets⟩⟩

end Update

end RangeCatalog
