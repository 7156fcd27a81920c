import FileTrans.Concurrency.Locks

/-!
# The locks of the client

Each operation of the client as the sequence of mutexes that it acquires and
releases, on each of its paths.  The order of the mutexes is implicit in the
source: a batch is locked before the maps, the statistics before the maps, a
map before its contexts, and `finalize_download` locks the statistics under a
context.
-/

namespace FileTrans.Client

open FileTrans.Concurrency

/-- The mutexes of a client and of its contexts. -/
inductive Mutex
  | stats
  | upload
  | download
  | batch
  | uploadContext (handle : UInt64)
  | downloadContext (handle : UInt64)
  deriving DecidableEq

/-- Where a handle is found. -/
inductive Location
  | upload
  | download
  | missing
  deriving DecidableEq

/-- How `finalize_download` ends. -/
inductive Finalization
  | notFound
  | failed
  | succeeded
  deriving DecidableEq

/-- How `process_download_chunk` ends; the last chunk is followed by a
finalization of the context that was found. -/
inductive ChunkOutcome
  | notFound
  | returns
  | last (succeeds : Bool)
  deriving DecidableEq

/-- An operation, with the path that it takes. -/
inductive Operation
  | processDownloadChunk (handle : UInt64) (outcome : ChunkOutcome)
  | finalizeDownload (handle : UInt64) (outcome : Finalization)
  | cancelTransfer (handle : UInt64) (location : Location)
  | pauseTransfer (handle : UInt64) (location : Location)
  | resumeTransfer (handle : UInt64) (location : Location)
  | getTransferStatus (handle : UInt64) (location : Location)
  | getStatistics
  | getBatchProgress (transfers : List (UInt64 × Location))
  deriving DecidableEq

/-! ## What each operation acquires and releases -/

/-- The scope that looks a download up. -/
def findDownload : List (Instruction Mutex) :=
  lockGuard .download []

/-- `finalize_download`. -/
def finalizeDownloadLocks (handle : UInt64) : Finalization → List (Instruction Mutex)
  | .notFound => findDownload
  | .failed => findDownload ++ lockGuard (.downloadContext handle) []
  | .succeeded => findDownload ++ lockGuard (.downloadContext handle) (lockGuard .stats [])

/-- `process_download_chunk`, which finalizes under the mutex of the context. -/
def processDownloadChunkLocks (handle : UInt64) : ChunkOutcome → List (Instruction Mutex)
  | .notFound => findDownload
  | .returns => findDownload ++ lockGuard (.downloadContext handle) []
  | .last succeeds => findDownload ++ lockGuard (.downloadContext handle)
      (finalizeDownloadLocks handle (if succeeds then .succeeded else .failed))

/-- What the calls share that look a handle up among the uploads, then among the
downloads, and lock the context under the mutex of the map: `pause_transfer`,
`resume_transfer`, `get_transfer_status` and `get_transfer_progress`. -/
def locateLocks (handle : UInt64) : Location → List (Instruction Mutex)
  | .upload => lockGuard .upload (lockGuard (.uploadContext handle) [])
  | .download =>
      lockGuard .upload [] ++ lockGuard .download (lockGuard (.downloadContext handle) [])
  | .missing => lockGuard .upload [] ++ lockGuard .download []

/-- `cancel_download` of a download that exists. -/
def cancelDownloadLocks (handle : UInt64) : List (Instruction Mutex) :=
  findDownload ++ lockGuard (.downloadContext handle) []

/-- `cancel_transfer`.  For a download the guard of the map is destroyed by hand
before `cancel_download`, and once more when its scope ends. -/
def cancelTransferLocks (handle : UInt64) : Location → List (Instruction Mutex)
  | .upload => locateLocks handle .upload
  | .download =>
      lockGuard .upload [] ++ [.acquire .download, .release .download] ++
        cancelDownloadLocks handle ++ [.release .download]
  | .missing => locateLocks handle .missing

/-- `get_statistics`. -/
def getStatisticsLocks : List (Instruction Mutex) :=
  lockGuard .stats (lockGuard .upload [] ++ lockGuard .download [])

/-- `get_batch_progress`, which asks for the progress of every transfer of the
batch under the mutex of the batches. -/
def getBatchProgressLocks (transfers : List (UInt64 × Location)) : List (Instruction Mutex) :=
  lockGuard .batch (transfers.flatMap fun transfer => locateLocks transfer.1 transfer.2)

def Operation.locks : Operation → List (Instruction Mutex)
  | processDownloadChunk handle outcome => processDownloadChunkLocks handle outcome
  | finalizeDownload handle outcome => finalizeDownloadLocks handle outcome
  | cancelTransfer handle location => cancelTransferLocks handle location
  | pauseTransfer handle location => locateLocks handle location
  | resumeTransfer handle location => locateLocks handle location
  | getTransferStatus handle location => locateLocks handle location
  | getStatistics => getStatisticsLocks
  | getBatchProgress transfers => getBatchProgressLocks transfers

/-- The program of a thread that calls the operations one after the other. -/
def program (operations : List Operation) : List (Instruction Mutex) :=
  operations.flatMap Operation.locks

/-! ## What each operation demands -/

/-- The operation locks the context of a download under the mutex of the
downloads. -/
inductive LocksUnderDownload : Operation → UInt64 → Prop
  | pauseTransfer (handle) : LocksUnderDownload (.pauseTransfer handle .download) handle
  | resumeTransfer (handle) : LocksUnderDownload (.resumeTransfer handle .download) handle
  | getTransferStatus (handle) : LocksUnderDownload (.getTransferStatus handle .download) handle
  | getBatchProgress (handle transfers) (mem : (handle, Location.download) ∈ transfers) :
      LocksUnderDownload (.getBatchProgress transfers) handle

/-- The operation neither processes the last chunk of a download nor cancels a
download through `cancel_transfer`. -/
def Operation.Sound : Operation → Prop
  | processDownloadChunk _ (.last _) => False
  | cancelTransfer _ .download => False
  | _ => True

/-- The order in which mutexes are acquired, but for the statistics under a
context. -/
def Mutex.rank : Mutex → Nat
  | batch => 0
  | stats => 0
  | upload => 1
  | download => 1
  | uploadContext _ => 2
  | downloadContext _ => 2

/-- What an operation demands while it holds a mutex. -/
inductive Operation.Demands : Operation → Mutex → Mutex → Prop
  | statistics (handle) :
      Demands (.finalizeDownload handle .succeeded) (.downloadContext handle) .stats
  | uploads : Demands .getStatistics .stats .upload
  | downloads : Demands .getStatistics .stats .download
  | uploadContext (operation handle) : Demands operation .upload (.uploadContext handle)
  | downloadContext (operation handle) (locks : LocksUnderDownload operation handle) :
      Demands operation .download (.downloadContext handle)
  | batch (transfers wanted) (later : 0 < wanted.rank) :
      Demands (.getBatchProgress transfers) .batch wanted

section

variable {handle : UInt64} {location : Location} {held : Finset Mutex} {kept wanted : Mutex}

theorem follows_bare {mutex : Mutex} (free : mutex ∉ held) :
    Follows held (lockGuard mutex []) held :=
  .lockGuard free rfl

theorem demands_bare {mutex : Mutex} (demands : Demands held (lockGuard mutex []) kept wanted) :
    kept ∈ held ∧ wanted = mutex := by
  rcases demands with now | never
  · exact now
  · exact absurd never id

theorem follows_locateLocks (outer : held ⊆ {.batch}) :
    Follows held (locateLocks handle location) held := by
  have absent : ∀ mutex, mutex ≠ Mutex.batch → mutex ∉ held := fun mutex distinct mem =>
    distinct (Finset.mem_singleton.mp (outer mem))
  have bare : ∀ mutex, mutex ≠ Mutex.batch → Follows held (lockGuard mutex []) held :=
    fun mutex distinct => follows_bare (absent mutex distinct)
  cases location with
  | upload => exact .lockGuard (absent _ (by decide)) (follows_bare (by simp [absent]))
  | download =>
      exact (bare _ (by decide)).append
        (.lockGuard (absent _ (by decide)) (follows_bare (by simp [absent])))
  | missing => exact (bare _ (by decide)).append (bare _ (by decide))

theorem demands_locateLocks (outer : held ⊆ {.batch})
    (demands : Demands held (locateLocks handle location) kept wanted) :
    (kept ∈ held ∧ 0 < wanted.rank) ∨
      (location = .upload ∧ kept = .upload ∧ wanted = .uploadContext handle) ∨
      (location = .download ∧ kept = .download ∧ wanted = .downloadContext handle) := by
  have absent : ∀ mutex, mutex ≠ Mutex.batch → mutex ∉ held := fun mutex distinct mem =>
    distinct (Finset.mem_singleton.mp (outer mem))
  have bare : Follows held (lockGuard .upload []) held := follows_bare (absent _ (by decide))
  cases location with
  | upload =>
      rcases Demands.of_lockGuard (follows_bare (by simp [absent])) demands with ⟨mem, rfl⟩ | inside
      · exact Or.inl ⟨mem, Nat.one_pos⟩
      · obtain ⟨mem, rfl⟩ := demands_bare inside
        rcases Finset.mem_insert.mp mem with rfl | mem
        · exact Or.inr (Or.inl ⟨rfl, rfl, rfl⟩)
        · exact Or.inl ⟨mem, Nat.two_pos⟩
  | download =>
      rcases Demands.of_append bare demands with first | second
      · obtain ⟨mem, rfl⟩ := demands_bare first
        exact Or.inl ⟨mem, Nat.one_pos⟩
      rcases Demands.of_lockGuard (follows_bare (by simp [absent])) second with ⟨mem, rfl⟩ | inside
      · exact Or.inl ⟨mem, Nat.one_pos⟩
      · obtain ⟨mem, rfl⟩ := demands_bare inside
        rcases Finset.mem_insert.mp mem with rfl | mem
        · exact Or.inr (Or.inr ⟨rfl, rfl, rfl⟩)
        · exact Or.inl ⟨mem, Nat.two_pos⟩
  | missing =>
      rcases Demands.of_append bare demands with first | second
      · obtain ⟨mem, rfl⟩ := demands_bare first
        exact Or.inl ⟨mem, Nat.one_pos⟩
      · obtain ⟨mem, rfl⟩ := demands_bare second
        exact Or.inl ⟨mem, Nat.one_pos⟩

variable {operation : Operation}

theorem operation_demands_of_locateLocks
    (locks : location = .download → LocksUnderDownload operation handle)
    (demands : Demands ∅ (locateLocks handle location) kept wanted) :
    operation.Demands kept wanted := by
  rcases demands_locateLocks (Finset.empty_subset _) demands with
    ⟨mem, _⟩ | ⟨_, rfl, rfl⟩ | ⟨located, rfl, rfl⟩
  · exact absurd mem (Finset.notMem_empty _)
  · exact .uploadContext operation handle
  · exact .downloadContext operation handle (locks located)

theorem Operation.Sound.follows (sound : operation.Sound) : Follows ∅ operation.locks ∅ := by
  have find : Follows ∅ findDownload ∅ := follows_bare (Finset.notMem_empty _)
  have locate : ∀ handle location, Follows ∅ (locateLocks handle location) ∅ :=
    fun _ _ => follows_locateLocks (Finset.empty_subset _)
  cases operation with
  | processDownloadChunk handle outcome =>
      cases outcome with
      | notFound => exact find
      | returns => exact find.append (follows_bare (Finset.notMem_empty _))
      | last succeeds => exact absurd sound id
  | finalizeDownload handle outcome =>
      cases outcome with
      | notFound => exact find
      | failed => exact find.append (follows_bare (Finset.notMem_empty _))
      | succeeded =>
          exact find.append (.lockGuard (Finset.notMem_empty _) (follows_bare (by simp)))
  | cancelTransfer handle location =>
      cases location with
      | upload => exact locate handle .upload
      | download => exact absurd sound id
      | missing => exact locate handle .missing
  | pauseTransfer handle location => exact locate handle location
  | resumeTransfer handle location => exact locate handle location
  | getTransferStatus handle location => exact locate handle location
  | getStatistics =>
      exact .lockGuard (Finset.notMem_empty _)
        ((follows_bare (by decide)).append (follows_bare (by decide)))
  | getBatchProgress transfers =>
      exact .lockGuard (Finset.notMem_empty _)
        (follows_flatMap fun transfer _ => follows_locateLocks (by simp))

theorem Operation.Sound.demands (sound : operation.Sound)
    (demands : Concurrency.Demands ∅ operation.locks kept wanted) :
    operation.Demands kept wanted := by
  have nothing : ∀ {mutex : Mutex}, ¬ Concurrency.Demands ∅ (lockGuard mutex []) kept wanted :=
    fun found => Finset.notMem_empty _ (demands_bare found).1
  have find : Follows ∅ findDownload ∅ := follows_bare (Finset.notMem_empty _)
  cases operation with
  | processDownloadChunk handle outcome =>
      cases outcome with
      | notFound => exact absurd demands nothing
      | returns =>
          rcases Concurrency.Demands.of_append find demands with found | found <;>
            exact absurd found nothing
      | last succeeds => exact absurd sound id
  | finalizeDownload handle outcome =>
      cases outcome with
      | notFound => exact absurd demands nothing
      | failed =>
          rcases Concurrency.Demands.of_append find demands with found | found <;>
            exact absurd found nothing
      | succeeded =>
          rcases Concurrency.Demands.of_append find demands with found | found
          · exact absurd found nothing
          rcases Concurrency.Demands.of_lockGuard (follows_bare (by simp)) found with
            ⟨mem, _⟩ | inside
          · exact absurd mem (Finset.notMem_empty _)
          · obtain ⟨mem, rfl⟩ := demands_bare inside
            obtain rfl := Finset.mem_singleton.mp mem
            exact .statistics handle
  | cancelTransfer handle location =>
      cases location with
      | upload =>
          have lookup : Concurrency.Demands ∅ (locateLocks handle .upload) kept wanted := demands
          exact operation_demands_of_locateLocks (fun same => by contradiction) lookup
      | download => exact absurd sound id
      | missing =>
          have lookup : Concurrency.Demands ∅ (locateLocks handle .missing) kept wanted := demands
          exact operation_demands_of_locateLocks (fun same => by contradiction) lookup
  | pauseTransfer handle location =>
      exact operation_demands_of_locateLocks (fun same => same ▸ .pauseTransfer handle) demands
  | resumeTransfer handle location =>
      exact operation_demands_of_locateLocks (fun same => same ▸ .resumeTransfer handle) demands
  | getTransferStatus handle location =>
      exact operation_demands_of_locateLocks (fun same => same ▸ .getTransferStatus handle) demands
  | getStatistics =>
      rcases Concurrency.Demands.of_lockGuard
        ((follows_bare (by decide)).append (follows_bare (by decide))) demands with
        ⟨mem, _⟩ | inside
      · exact absurd mem (Finset.notMem_empty _)
      rcases Concurrency.Demands.of_append (follows_bare (by decide)) inside with found | found
      · obtain ⟨mem, rfl⟩ := demands_bare found
        obtain rfl := Finset.mem_singleton.mp mem
        exact .uploads
      · obtain ⟨mem, rfl⟩ := demands_bare found
        obtain rfl := Finset.mem_singleton.mp mem
        exact .downloads
  | getBatchProgress transfers =>
      have every : ∀ transfer ∈ transfers, Follows (insert .batch ∅)
          (locateLocks transfer.1 transfer.2) (insert .batch ∅) :=
        fun transfer _ => follows_locateLocks (by simp)
      rcases Concurrency.Demands.of_lockGuard (follows_flatMap every) demands with
        ⟨mem, _⟩ | inside
      · exact absurd mem (Finset.notMem_empty _)
      obtain ⟨⟨handle, location⟩, mem, found⟩ := Concurrency.Demands.of_flatMap every inside
      rcases demands_locateLocks (by simp) found with ⟨kept_mem, later⟩ | ⟨_, rfl, rfl⟩ |
        ⟨rfl, rfl, rfl⟩
      · obtain rfl := Finset.mem_singleton.mp kept_mem
        exact .batch transfers wanted later
      · exact .uploadContext _ handle
      · exact .downloadContext _ handle (.getBatchProgress handle transfers mem)

end

/-! ## Threads that cannot block each other -/

section

variable {Thread : Type} [DecidableEq Thread] {operations : Thread → List Operation}

/-- The threads call sound operations only, and no three of them complete a
download, read the statistics, and lock the context of that download under the
mutex of the downloads. -/
structure Compatible (operations : Thread → List Operation) : Prop where
  sound : ∀ thread, ∀ operation ∈ operations thread, operation.Sound
  noTriangle : ∀ handle first second third, first ≠ second → second ≠ third → third ≠ first →
    .finalizeDownload handle .succeeded ∈ operations first →
    .getStatistics ∈ operations second →
    ∀ operation ∈ operations third, ¬ LocksUnderDownload operation handle

theorem Compatible.not_deadlocked (compatible : Compatible operations)
    {state : LockState Thread Mutex}
    (reachable : LockState.Reachable (fun thread => program (operations thread)) state) :
    ¬ state.Deadlocked := by
  intro deadlocked
  have follows : ∀ thread, ∀ operation ∈ operations thread, Follows ∅ operation.locks ∅ :=
    fun thread operation mem => (compatible.sound thread operation mem).follows
  have demanded : ∀ {thread : Thread} {kept wanted : Mutex}, state.owner kept = some thread →
      state.Wants thread wanted →
        ∃ operation ∈ operations thread, operation.Demands kept wanted := by
    intro thread kept wanted owned wants
    have demands := reachable.demands (fun thread => follows_flatMap (follows thread)) owned wants
    obtain ⟨operation, mem, found⟩ := Demands.of_flatMap (follows thread) demands
    exact ⟨operation, mem, (compatible.sound thread operation mem).demands found⟩
  -- Only the statistics are acquired against the order, under a context.
  obtain ⟨start, kept, wanted, cycle, owned, wants, descends⟩ :=
    deadlocked.exists_descent Mutex.rank
  have wantsStats : state.Wants start .stats := by
    obtain ⟨operation, _, demands⟩ := demanded owned wants
    cases demands with
    | statistics handle => exact wants
    | uploads => contradiction
    | downloads => contradiction
    | uploadContext => contradiction
    | downloadContext => contradiction
    | batch transfers _ later => exact absurd (later.trans_le descends) (lt_irrefl 0)
  obtain ⟨second, ⟨_, wants, ownsStats⟩, secondCycle⟩ := cycle.next
  obtain rfl := wantsStats.unique wants
  obtain ⟨third, ⟨map, wantsMap, ownsMap⟩, thirdCycle⟩ := secondCycle.next
  obtain ⟨fourth, ⟨context, wantsContext, ownsContext⟩, fourthCycle⟩ := thirdCycle.next
  obtain ⟨_, ⟨last, wantsLast, _⟩, _⟩ := fourthCycle.next
  obtain ⟨reads, readsMem, readsDemands⟩ := demanded ownsStats wantsMap
  obtain ⟨locks, locksMem, locksDemands⟩ := demanded ownsMap wantsContext
  obtain ⟨finalizes, finalizesMem, finalizesDemands⟩ := demanded ownsContext wantsLast
  cases readsDemands with
  | uploads =>
      cases locksDemands with
      | uploadContext => cases finalizesDemands
  | downloads =>
      cases locksDemands with
      | downloadContext _ handle locked =>
          cases finalizesDemands with
          | statistics =>
              refine compatible.noTriangle _ fourth second third ?_ ?_ ?_ finalizesMem readsMem
                locks locksMem locked
              · rintro rfl
                exact absurd (wantsLast.unique wantsMap) (by decide)
              · rintro rfl
                exact absurd (wantsMap.unique wantsContext) (by simp)
              · rintro rfl
                exact absurd (wantsContext.unique wantsLast) (by simp)

/-- Compatible threads never deadlock and never release a mutex that they do
not hold, in whatever order they run. -/
theorem lock_safe_of_compatible (compatible : Compatible operations)
    {state : LockState Thread Mutex}
    (reachable : LockState.Reachable (fun thread => program (operations thread)) state) :
    ¬ state.Deadlocked ∧ ¬ state.BadRelease :=
  ⟨compatible.not_deadlocked reachable, reachable.not_badRelease fun thread =>
    follows_flatMap fun operation mem => (compatible.sound thread operation mem).follows⟩

end

/-- The calls of two threads: one reads the statistics, one asks for a status. -/
def statisticsAndStatus (thread : Bool) : List Operation :=
  if thread then [.getStatistics] else [.getTransferStatus 1 .download]

/-- The statistics wait for the downloads, which the other thread has locked. -/
theorem lock_safe_of_statistics_and_status :
    ∃ state, LockState.Reachable (fun thread => program (statisticsAndStatus thread)) state ∧
      state.WaitsFor true false ∧ ¬ state.Deadlocked ∧ ¬ state.BadRelease := by
  have compatible : Compatible statisticsAndStatus := by
    constructor
    · intro thread operation mem
      cases thread <;> obtain rfl := List.mem_singleton.mp mem <;> exact trivial
    · intro handle first second third _ _ _ completes
      cases first <;> exact absurd completes (by simp [statisticsAndStatus])
  have reachable : LockState.Reachable (fun thread => program (statisticsAndStatus thread)) _ :=
    ⟨[false, false, false, true, true, true], rfl⟩
  exact ⟨_, reachable, ⟨.download, ⟨_, rfl⟩, rfl⟩, lock_safe_of_compatible compatible reachable⟩

/-! ## How threads block -/

/-- The calls of three threads: complete a download, read the statistics, and
ask for the status of the download. -/
def triangle : Fin 3 → List Operation
  | 0 => [.finalizeDownload 1 .succeeded]
  | 1 => [.getStatistics]
  | 2 => [.getTransferStatus 1 .download]

/-- The last chunk of a download blocks its own thread; three threads wait for
each other in a circle; and cancelling a download through `cancel_transfer`
releases a mutex that the thread no longer holds. -/
theorem client_locks_fail :
    (∃ state, LockState.Reachable
      (fun _ : Unit => program [.processDownloadChunk 1 (.last true)]) state ∧
        state.Deadlocked) ∧
    (∃ state, LockState.Reachable (fun thread => program (triangle thread)) state ∧
      state.Deadlocked) ∧
    (∃ state, LockState.Reachable
      (fun _ : Unit => program [.cancelTransfer 1 .download]) state ∧ state.BadRelease) := by
  refine ⟨⟨_, ⟨[(), (), (), (), ()], rfl⟩, ?_⟩, ⟨_, ⟨[0, 0, 0, 1, 1, 1, 2, 2, 2], rfl⟩, ?_⟩,
    ⟨_, ⟨[(), (), (), (), (), (), (), ()], rfl⟩, ?_⟩⟩
  · exact ⟨(), .single ⟨.downloadContext 1, ⟨_, rfl⟩, rfl⟩⟩
  · refine ⟨0, Relation.TransGen.tail (b := 2) (Relation.TransGen.tail (b := 1) (.single ?_) ?_) ?_⟩
    · exact ⟨.stats, ⟨_, rfl⟩, rfl⟩
    · exact ⟨.download, ⟨_, rfl⟩, rfl⟩
    · exact ⟨.downloadContext 1, ⟨_, rfl⟩, rfl⟩
  · exact ⟨(), .download, _, rfl, by decide⟩

end FileTrans.Client
