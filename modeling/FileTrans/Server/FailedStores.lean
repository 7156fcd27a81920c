import FileTrans.Server.LocalBackend
import FileTrans.Server.StaleReads

/-!
# What a failing store leaves behind

`local_storage_backend::store` opens the file of the object itself, which
truncates it, and then writes piece by piece.  A write that fails leaves what
reached the disk under the key, and what was there before is gone;
`change_tier` stores an object over itself in this way.

A store can also fail after it made directories.  A key may lead through such
a directory and back out of it, and then it can name something that it did not
name before.
-/

namespace FileTrans.Server

open FileTrans.Core
open FileTrans.Storage

namespace LocalBackend

/-- What `retrieve` makes of what is at the path of the key. -/
def retrieved (reading : DiskAnswers) (key : Bytes) : Option (Node Bytes) → Result Bytes
  | none => failureAt .fileNotFound "File not found: " key
  | some .directory => failureAt .fileReadError "Failed to get file size: " key
  | some (.file content) =>
      if ¬ reading.sizes then failureAt .fileReadError "Failed to get file size: " key
      else if ¬ reading.opens then
        failureAt .fileAccessDenied "Failed to open file for reading: " key
      else if ¬ reading.reads then failureAt .fileReadError "Failed to read file: " key
      else .ok content

/-- Where a store of these data fails, it leaves the object alone.  If the stream opens and a
write fails, the object was already what then reaches the disk.  If it does not open, the
directories that were made do not make a new key name something. -/
def KeepsObject (backend : LocalBackend) (answers : DiskAnswers) (key data : Bytes)
    (options : StoreOptions) : Prop :=
  backend.MayWrite key options → (backend.parentsMade answers key).complete = true →
    ((backend.parentsMade answers key).disk.openOutput answers (backend.fullPathFor key) ≠ none →
      Interrupted answers.failingWrite data.length →
      backend.disk.file? (backend.fullPathFor key) = some (answers.onDisk data)) ∧
    ((backend.parentsMade answers key).disk.openOutput answers (backend.fullPathFor key) = none →
      backend.disk.exist (backend.fullPathFor key) = false →
      (backend.parentsMade answers key).disk.exist (backend.fullPathFor key) = false)

section

variable {backend : LocalBackend} {answers : DiskAnswers} {key data : Bytes}
  {options : StoreOptions}

theorem retrieve_result (backend : LocalBackend) (reading : DiskAnswers) (key : Bytes) :
    (backend.retrieve reading key).result =
      retrieved reading key (backend.disk.node? (backend.fullPathFor key)) := by
  rw [retrieve, Disk.exist, Disk.fileSize, Disk.file?]
  rcases backend.disk.node? (backend.fullPathFor key) with _ | content | _
  · rfl
  · cases sizes : reading.sizes with
    | false => simp [retrieved, sizes]
    | true =>
        cases opens : reading.opens with
        | false => simp [retrieved, sizes, opens, Node.content?]
        | true => cases reads : reading.reads <;>
            simp [retrieved, sizes, opens, reads, Node.content?]
  · simp [retrieved, Node.content?]

theorem retrieved_eq_ok {reading : DiskAnswers} {there : Option (Node Bytes)}
    (success : retrieved reading key there = .ok data) : there = some (.file data) := by
  rcases there with _ | content | _
  · cases success
  · rw [retrieved] at success
    split at success
    · cases success
    split at success
    · cases success
    split at success
    · cases success
    · rw [Except.ok.inj success]
  · cases success

theorem retrieved_inj {first second : Option (Node Bytes)} :
    (∀ reading, retrieved reading key first = retrieved reading key second) ↔ first = second := by
  constructor
  · intro alike
    have same := alike .success
    rcases first with _ | content | _ <;> rcases second with _ | other | _ <;>
      simp_all [retrieved, DiskAnswers.success, failureAt]
  · rintro rfl reading
    rfl

theorem exist_eq_false_iff {disk : Disk} {path : Path} :
    disk.exist path = false ↔ disk.node? path = none := by
  rw [Disk.exist, Option.isSome_eq_false_iff, Option.isNone_iff_eq_none]

theorem file?_eq_some_iff {disk : Disk} {path : Path} {content : Bytes} :
    disk.file? path = some content ↔ disk.node? path = some (.file content) := by
  rw [Disk.file?]
  rcases disk.node? path with _ | found | _ <;> simp [Node.content?]

theorem node?_parentsMade (still : backend.disk.exist (backend.fullPathFor key) = false →
      (backend.parentsMade answers key).disk.exist (backend.fullPathFor key) = false) :
    (backend.parentsMade answers key).disk.node? (backend.fullPathFor key) =
      backend.disk.node? (backend.fullPathFor key) := by
  cases there : backend.disk.node? (backend.fullPathFor key) with
  | none => exact exist_eq_false_iff.mp (still (exist_eq_false_iff.mpr there))
  | some node => exact Disk.node?_makeParents there

theorem node?_store_iff (backend : LocalBackend) (answers : DiskAnswers) (key data : Bytes)
    (options : StoreOptions) :
    (∀ failure, (backend.store answers key data options).result = .error failure →
      (backend.store answers key data options).disk.node? (backend.fullPathFor key) =
        backend.disk.node? (backend.fullPathFor key)) ↔
    backend.KeepsObject answers key data options := by
  rw [KeepsObject]
  have ends := storeEnds_store backend answers key data options
  generalize backend.store answers key data options = outcome at ends
  cases ends with
  | refused kept => exact ⟨fun _ may => absurd may kept, fun _ _ _ => rfl⟩
  | noDirectories may incomplete =>
      obtain ⟨before, after⟩ := Disk.node?_eq_none_of_incomplete incomplete
      refine ⟨fun _ _ complete => ?_, fun _ _ _ => after.trans before.symm⟩
      rw [incomplete] at complete
      cases complete
  | notOpened may complete closed =>
      constructor
      · intro same _ _
        refine ⟨fun opened => absurd closed opened, fun _ absent => ?_⟩
        rw [exist_eq_false_iff] at absent ⊢
        rw [same _ rfl, absent]
      · intro keeps _ _
        exact node?_parentsMade ((keeps may complete).2 closed)
  | interrupted place may complete opened fails =>
      have written := Disk.node?_putFile opened (answers.onDisk data)
      constructor
      · intro same _ _
        refine ⟨fun _ _ => ?_, fun closed => ?_⟩
        · rw [file?_eq_some_iff, ← same _ rfl, written]
        · rw [opened] at closed
          cases closed
      · intro keeps _ _
        have before := (keeps may complete).1 (opened ▸ Option.some_ne_none place) fails
        rw [written, file?_eq_some_iff.mp before]
  | written place may complete opened passes =>
      constructor
      · intro _ _ _
        refine ⟨fun _ fails => absurd fails passes, fun closed => ?_⟩
        rw [opened] at closed
        cases closed
      · intro _ failure failed
        cases failed

end

end LocalBackend

namespace LocalManager

/-- The bytes of an object, as a retrieval gives them where nothing fails. -/
def retrievable (manager : LocalManager) (key : Bytes) : Option Bytes :=
  (manager.retrieve key ⟨.success, none⟩).1.toOption

/-- Where the primary backend fails to store the bytes over the object, they stay.  If the
stream opens and a write fails, what then reaches the disk is all of them.  If it does not open, no
other file comes to light in front of the object in the secondary backend. -/
def KeepsData (manager : LocalManager) (key data : Bytes) (answers : DiskAnswers) : Prop :=
  let backend := manager.primaryBackend
  let made := backend.parentsMade answers key
  made.complete = true →
    (made.disk.openOutput answers (backend.fullPathFor key) ≠ none →
      LocalBackend.Interrupted answers.failingWrite data.length →
      manager.retrievable key = some (answers.onDisk data)) ∧
    (made.disk.openOutput answers (backend.fullPathFor key) = none →
      backend.disk.exist (backend.fullPathFor key) = false →
      ∀ content ∈ made.disk.file? (backend.fullPathFor key), content = data)

/-- Where a change of the tier fails, the bytes that it read stay. -/
def KeepsBytes (manager : LocalManager) (key : Bytes) (reads writes : LocalAnswers) : Prop :=
  ∀ data, (manager.retrieve key reads).1 = .ok data → manager.KeepsData key data writes.primary

section

variable {manager : LocalManager} {key : Bytes} {answers : LocalAnswers}

/-- The object in the secondary backend, if reads fall back on it. -/
def fallbackObject (manager : LocalManager) (key : Bytes) : Option Bytes :=
  manager.fallback.bind fun secondary => secondary.objects key

theorem retrievable_eq (started : manager.initialized = true) (key : Bytes) :
    manager.retrievable key =
      (manager.primaryBackend.disk.file? (manager.primaryBackend.fullPathFor key)).or
        (manager.fallbackObject key) := by
  rw [retrievable, retrieve, if_neg (not_not.mpr started), LocalBackend.retrieve_result,
    Disk.file?, fallbackObject]
  rcases manager.primaryBackend.disk.node? (manager.primaryBackend.fullPathFor key)
    with _ | content | _
  case some.file => rfl
  -- Without a file the retrieval turns to the secondary backend.
  all_goals
    rcases manager.fallback with _ | secondary
    · rfl
    · rw [Option.map_some]
      cases found : secondary.objects key with
      | none =>
          have answer : secondary.retrieve none key =
              .error ⟨.fileNotFound, Text.ascii "File not found: " ++ key⟩ := by
            simp only [StorageBackend.retrieve, found]
          rw [answer]
          exact found.symm
      | some data =>
          have answer : secondary.retrieve none key = .ok data := by
            simp only [StorageBackend.retrieve, found]
          rw [answer]
          exact found.symm

theorem retrieve_ok {data : Bytes} (success : (manager.retrieve key answers).1 = .ok data) :
    manager.initialized = true ∧
      (manager.primaryBackend.disk.file? (manager.primaryBackend.fullPathFor key) = some data ∨
        manager.fallbackObject key = some data) := by
  rw [retrieve] at success
  split at success
  · cases success
  rename_i started
  refine ⟨not_not.mp started, ?_⟩
  rw [LocalBackend.retrieve_result] at success
  split at success
  · rename_i found retrieved
    obtain rfl : found = data := Except.ok.inj success
    exact .inl (LocalBackend.file?_eq_some_iff.mpr (LocalBackend.retrieved_eq_ok retrieved))
  · right
    split at success
    · rename_i found retrieved
      obtain rfl : found = data := Except.ok.inj success
      obtain ⟨secondary, second, retrieved⟩ := Option.map_eq_some_iff.mp retrieved
      rw [fallbackObject, second, Option.bind_some]
      exact (StorageBackend.retrieve_ok_iff.mp retrieved).2
    · cases success

theorem retrieve_state (manager : LocalManager) (key : Bytes) (answers : LocalAnswers) :
    ∃ stats, (manager.retrieve key answers).2 = { manager with stats } ∧
      stats.localFileCount = manager.stats.localFileCount ∧
      stats.localBytes = manager.stats.localBytes := by
  rw [retrieve]
  split
  · exact ⟨manager.stats, rfl, rfl, rfl⟩
  · split
    · exact ⟨_, rfl, rfl, rfl⟩
    · split <;> exact ⟨_, rfl, rfl, rfl⟩

theorem retrieve_of_not_initialized (stopped : manager.initialized = false) :
    (manager.retrieve key answers).1 = StorageManager.notInitialized := by
  rw [retrieve, if_pos (by simp [stopped])]

theorem retrievable_congr {other : LocalManager} (config : other.config = manager.config)
    (primary : other.primaryBackend = manager.primaryBackend)
    (secondary : other.secondaryBackend = manager.secondaryBackend)
    (initialized : other.initialized = manager.initialized) :
    other.retrievable key = manager.retrievable key := by
  cases started : manager.initialized with
  | false =>
      rw [retrievable, retrievable, retrieve_of_not_initialized started,
        retrieve_of_not_initialized (initialized.trans started)]
  | true =>
      rw [retrievable_eq started, retrievable_eq (initialized.trans started), primary,
        fallbackObject, fallbackObject, fallback, fallback, config, secondary]

theorem file?_of_absent {disk : Disk} {path : Path} (absent : disk.exist path = false) :
    disk.file? path = none := by
  rw [Disk.file?, LocalBackend.exist_eq_false_iff.mp absent, Option.bind_none]

theorem retrievable_storeWith_iff (started : manager.initialized = true)
    (write : LocalBackend → LocalOutcome StoreResult)
    (replicate : StorageBackend → Result StoreResult × StorageBackend) :
    (∀ failure, (manager.storeWith write replicate).1 = .error failure →
      (manager.storeWith write replicate).2.retrievable key = manager.retrievable key) ↔
    ∀ failure, (write manager.primaryBackend).result = .error failure →
      ((write manager.primaryBackend).disk.file? (manager.primaryBackend.fullPathFor key)).or
          (manager.fallbackObject key) =
        (manager.primaryBackend.disk.file? (manager.primaryBackend.fullPathFor key)).or
          (manager.fallbackObject key) := by
  rw [storeWith, if_neg (not_not.mpr started), retrievable_eq started]
  dsimp only
  cases ended : (write manager.primaryBackend).result with
  | error failure =>
      have after := @retrievable_eq { manager.setDisk (write manager.primaryBackend).disk
        with stats := manager.stats.recordError } started key
      dsimp only
      rw [after]
      constructor
      · exact fun same _ _ => same failure rfl
      · exact fun same _ _ => same failure rfl
  | ok result =>
      constructor
      · intro _ failure failed
        cases failed
      · intro _ failure failed
        dsimp only at failed
        split at failed <;> cases failed

theorem retrievable_store_iff {data : Bytes} {options : StoreOptions}
    (started : manager.initialized = true) (overwrite : options.overwrite = true)
    (object : manager.primaryBackend.disk.file? (manager.primaryBackend.fullPathFor key) =
        some data ∨ manager.fallbackObject key = some data) :
    (∀ failure, (manager.store key data options answers).1 = .error failure →
      (manager.store key data options answers).2.retrievable key = manager.retrievable key) ↔
    manager.KeepsData key data answers.primary := by
  rw [store, retrievable_storeWith_iff started, KeepsData, retrievable_eq started]
  have ends := LocalBackend.storeEnds_store manager.primaryBackend answers.primary key data options
  generalize manager.primaryBackend.store answers.primary key data options = outcome at ends ⊢
  cases ends with
  | refused kept => exact absurd (fun _ => overwrite) kept
  | noDirectories may incomplete =>
      obtain ⟨before, after⟩ := Disk.node?_eq_none_of_incomplete incomplete
      constructor
      · intro _ complete
        rw [incomplete] at complete
        cases complete
      · intro _ _ _
        rw [Disk.file?, Disk.file?, before, after]
  | notOpened may complete closed =>
      constructor
      · intro same _
        refine ⟨fun opened => absurd closed opened, fun _ absent content found => ?_⟩
        rw [file?_of_absent absent] at object
        have second := object.resolve_left (Option.some_ne_none data).symm
        have alike := same _ rfl
        rw [file?_of_absent absent, second, Option.mem_def.mp found] at alike
        exact Option.some.inj alike
      · intro keeps _ _
        cases there :
          manager.primaryBackend.disk.exist (manager.primaryBackend.fullPathFor key) with
        | true =>
            have same : (manager.primaryBackend.parentsMade answers.primary key).disk.node?
                (manager.primaryBackend.fullPathFor key) =
                manager.primaryBackend.disk.node? (manager.primaryBackend.fullPathFor key) := by
              refine LocalBackend.node?_parentsMade fun absent => ?_
              rw [there] at absent
              cases absent
            rw [Disk.file?, Disk.file?, same]
        | false =>
            rw [file?_of_absent there] at object ⊢
            have second := object.resolve_left (Option.some_ne_none data).symm
            cases found : (manager.primaryBackend.parentsMade answers.primary key).disk.file?
                (manager.primaryBackend.fullPathFor key) with
            | none => rfl
            | some content =>
                rw [(keeps complete).2 closed there content found, second]
                rfl
  | interrupted place may complete opened fails =>
      have written := LocalBackend.file?_eq_some_iff.mpr
        (Disk.node?_putFile opened (answers.primary.onDisk data))
      constructor
      · intro same _
        refine ⟨fun _ _ => ?_, fun closed => ?_⟩
        · rw [← same _ rfl, written, Option.some_or]
        · rw [opened] at closed
          cases closed
      · intro keeps _ _
        have before := (keeps complete).1 (opened ▸ Option.some_ne_none place) fails
        rw [before, written, Option.some_or]
  | written place may complete opened passes =>
      constructor
      · intro _ _
        refine ⟨fun _ fails => absurd fails passes, fun closed => ?_⟩
        rw [opened] at closed
        cases closed
      · intro _ failure failed
        cases failed

theorem retrievable_changeTier_iff (manager : LocalManager) (key : Bytes)
    (targetTier : StorageTier) (reads writes : LocalAnswers) :
    (∀ failure, (manager.changeTier key targetTier reads writes).1 = .error failure →
      (manager.changeTier key targetTier reads writes).2.retrievable key =
        manager.retrievable key) ↔
    manager.KeepsBytes key reads writes := by
  cases started : manager.initialized with
  | false =>
      rw [changeTier, if_pos (by simp [started])]
      refine ⟨fun _ data success => ?_, fun _ _ _ => rfl⟩
      rw [retrieve_of_not_initialized started] at success
      cases success
  | true =>
      obtain ⟨stats, read_eq, -⟩ := retrieve_state manager key reads
      have read_alike : ({ manager with stats } : LocalManager).retrievable key =
          manager.retrievable key := retrievable_congr rfl rfl rfl rfl
      rw [changeTier, if_neg (not_not.mpr started), KeepsBytes]
      cases ended : (manager.retrieve key reads).1 with
      | error failure =>
          have both : manager.retrieve key reads = (.error failure, { manager with stats }) :=
            Prod.ext ended read_eq
          rw [both]
          refine ⟨fun _ data success => ?_, fun _ _ _ => read_alike⟩
          cases success
      | ok data =>
          have both : manager.retrieve key reads = (.ok data, { manager with stats }) :=
            Prod.ext ended read_eq
          have stored := @retrievable_store_iff { manager with stats } key writes data
            (StorageManager.tierOptions targetTier) started rfl (retrieve_ok ended).2
          have keeps_iff : KeepsData { manager with stats } key data writes.primary ↔
              manager.KeepsData key data writes.primary := by
            rw [KeepsData, KeepsData, read_alike]
          have only : (∀ other, Except.ok (ε := Error) data = .ok other →
              manager.KeepsData key other writes.primary) ↔
              manager.KeepsData key data writes.primary := by
            constructor
            · exact fun keeps => keeps data rfl
            · rintro keeps other same
              exact Except.ok.inj same ▸ keeps
          rw [both, only, ← keeps_iff, ← stored, read_alike]
          dsimp only
          generalize store { manager with stats } key data (StorageManager.tierOptions targetTier)
            writes = outcome
          obtain ⟨failure | result, after⟩ := outcome
          · exact ⟨fun same _ _ => same failure rfl, fun same _ _ => same failure rfl⟩
          · constructor
            · intro _ failure failed
              cases failed
            · intro _ failure failed
              cases failed

end

end LocalManager

/-- A store of the local backend that fails leaves what `retrieve` gives for the key, and a
change of the tier that fails the bytes of the object, exactly if they keep them. -/
theorem failed_store_keeps_object_iff (backend : LocalBackend) (answers : DiskAnswers)
    (key data : Bytes) (options : StoreOptions) (manager : LocalManager)
    (targetTier : StorageTier) (reads writes : LocalAnswers) :
    ((∀ failure, (backend.store answers key data options).result = .error failure →
        ∀ reading, (LocalBackend.retrieve
            { backend with disk := (backend.store answers key data options).disk }
            reading key).result =
          (backend.retrieve reading key).result) ↔
      backend.KeepsObject answers key data options) ∧
    ((∀ failure, (manager.changeTier key targetTier reads writes).1 = .error failure →
        (manager.changeTier key targetTier reads writes).2.retrievable key =
          manager.retrievable key) ↔
      manager.KeepsBytes key reads writes) := by
  refine ⟨?_, manager.retrievable_changeTier_iff key targetTier reads writes⟩
  rw [← LocalBackend.node?_store_iff]
  refine forall₂_congr fun failure failed => ?_
  simp only [LocalBackend.retrieve_result]
  exact LocalBackend.retrieved_inj

namespace FailedStoreSample

/-- A backend in `/s` with the object `k`. -/
def backend (content : Bytes) : LocalBackend where
  basePath := Text.ascii "/s"
  disk := ⟨[], (Collections.Table.empty.insert ⟨[Text.ascii "s"], .directory⟩).insert
    ⟨[Text.ascii "s", Text.ascii "k"], .file content⟩⟩

def manager (content : Bytes) : LocalManager where
  config := ⟨false, false, false⟩
  primaryBackend := backend content
  secondaryBackend := none
  initialized := true
  stats := .fresh

def diskFull : DiskAnswers :=
  { DiskAnswers.success with failingWrite := some 0, reached := some 0 }

def replacing : StoreOptions :=
  { StoreOptions.default with overwrite := true }

theorem store_diskFull (content : Bytes) {data : Bytes} {options : StoreOptions}
    (overwrite : options.overwrite = true) (some_data : 0 < data.length) :
    (backend content).store diskFull (Text.ascii "k") data options =
      ⟨failureAt .fileWriteError "Failed to write data to file: " (Text.ascii "/s/k"),
        (backend []).disk, [Text.ascii "/s/k"]⟩ := by
  have stops : LocalBackend.writeLoop diskFull.failingWrite data.length 0 0 = false :=
    LocalBackend.writeLoop_eq_false_iff.mpr ⟨0, rfl, by simpa using some_data⟩
  have empty : diskFull.onDisk data = [] := rfl
  simp only [LocalBackend.store, stops, empty, overwrite]
  rfl

theorem changeTier_diskFull {content : Bytes} (some_data : 0 < content.length) :
    ((manager content).changeTier (Text.ascii "k") .cold ⟨.success, none⟩ ⟨diskFull, none⟩).1 =
        failureAt .fileWriteError "Failed to write data to file: " (Text.ascii "/s/k") ∧
      ((manager content).changeTier (Text.ascii "k") .cold ⟨.success, none⟩
        ⟨diskFull, none⟩).2.retrievable (Text.ascii "k") = some [] := by
  have stored : (backend content).store diskFull (Text.ascii "k") content
      (StorageManager.tierOptions .cold) = _ := store_diskFull content rfl some_data
  obtain ⟨stats, after, -⟩ := LocalManager.retrieve_state (manager content) (Text.ascii "k")
    ⟨.success, none⟩
  have read : (manager content).retrieve (Text.ascii "k") ⟨.success, none⟩ =
      (.ok content, { manager content with stats }) := Prod.ext rfl after
  have changed : ({ manager content with stats } : LocalManager).store (Text.ascii "k") content
      (StorageManager.tierOptions .cold) ⟨diskFull, none⟩ =
        (failureAt .fileWriteError "Failed to write data to file: " (Text.ascii "/s/k"),
          { manager [] with stats := stats.recordError }) := by
    simp only [LocalManager.store, LocalManager.storeWith, manager, stored]
    rfl
  have started : ¬ ¬ (manager content).initialized = true := not_not.mpr rfl
  rw [LocalManager.changeTier, if_neg started, read]
  dsimp only
  rw [changed]
  exact ⟨rfl, rfl⟩

end FailedStoreSample

open FailedStoreSample in
/-- On a full disk a store over an object of 10000 bytes, more than a stream holds back, and a
change of its tier leave an empty file. -/
theorem full_disk_empties_object :
    let old : Bytes := List.replicate 10000 0x6f
    ((backend old).store diskFull (Text.ascii "k") (List.replicate 10000 0x6e) replacing).result =
      failureAt .fileWriteError "Failed to write data to file: " (Text.ascii "/s/k") ∧
    ((backend old).retrieve .success (Text.ascii "k")).result = .ok old ∧
    (LocalBackend.retrieve { backend old with
        disk := ((backend old).store diskFull (Text.ascii "k") (List.replicate 10000 0x6e)
          replacing).disk }
      .success (Text.ascii "k")).result = .ok [] ∧
    ((manager old).changeTier (Text.ascii "k") .cold ⟨.success, none⟩ ⟨diskFull, none⟩).1 =
      failureAt .fileWriteError "Failed to write data to file: " (Text.ascii "/s/k") ∧
    (manager old).retrievable (Text.ascii "k") = some old ∧
    ((manager old).changeTier (Text.ascii "k") .cold ⟨.success, none⟩
      ⟨diskFull, none⟩).2.retrievable (Text.ascii "k") = some [] := by
  intro old
  have some_data (byte : UInt8) : 0 < (List.replicate 10000 byte).length := by
    rw [List.length_replicate]
    decide
  obtain ⟨fails, emptied⟩ := changeTier_diskFull (some_data 0x6f)
  rw [store_diskFull old rfl (some_data 0x6e)]
  exact ⟨rfl, rfl, rfl, fails, rfl, emptied⟩

end FileTrans.Server
