import Mathlib.Data.Finset.Basic

/-!
# Threads that acquire and release mutexes

A program is a list of acquisitions and releases.  Threads run their programs
in any interleaving: an acquisition waits until the mutex is free, and a
release is an error unless the thread owns the mutex.

`Follows` says that a program only releases what it holds and never acquires it
again, and `Demands` which mutex it wants while it holds another one.  In every
state that such programs reach, what a thread owns is what its program holds,
so no release is an error, and along a cycle of waiting threads each one demands
the next mutex while it holds the previous one.

The commands of a program acquire and release mutexes, or act on something else.
`Obeys` restricts each command by the mutexes that are held when it is executed; the
restriction passes to the parts of a program and back.
-/

namespace FileTrans.Concurrency

universe u v

/-- One step of a program. -/
inductive Instruction (Mutex : Type v)
  | acquire (mutex : Mutex)
  | release (mutex : Mutex)
  deriving DecidableEq

/-- What the threads still have to do, and who owns the mutexes. -/
structure LockState (Thread : Type u) (Mutex : Type v) where
  rest : Thread → List (Instruction Mutex)
  owner : Mutex → Option Thread

variable {Thread : Type u} {Mutex : Type v} [DecidableEq Thread] [DecidableEq Mutex]

namespace LockState

/-- All threads at the start of their programs, and all mutexes free. -/
def start (program : Thread → List (Instruction Mutex)) : LockState Thread Mutex :=
  ⟨program, fun _ => none⟩

/-- The next instruction of a thread, if it can be executed. -/
def advance (state : LockState Thread Mutex) (thread : Thread) :
    Option (LockState Thread Mutex) :=
  match state.rest thread with
  | [] => none
  | .acquire mutex :: rest =>
      if state.owner mutex = none then
        some ⟨Function.update state.rest thread rest,
          Function.update state.owner mutex (some thread)⟩
      else none
  | .release mutex :: rest =>
      if state.owner mutex = some thread then
        some ⟨Function.update state.rest thread rest, Function.update state.owner mutex none⟩
      else none

/-- Let the threads take turns as scheduled. -/
def run (state : LockState Thread Mutex) : List Thread → Option (LockState Thread Mutex)
  | [] => some state
  | thread :: schedule => (state.advance thread).bind fun next => run next schedule

/-- Some interleaving of the programs leads to the state. -/
def Reachable (program : Thread → List (Instruction Mutex)) (state : LockState Thread Mutex) :
    Prop :=
  ∃ schedule, (start program).run schedule = some state

/-- The next instruction of the thread acquires the mutex. -/
def Wants (state : LockState Thread Mutex) (thread : Thread) (mutex : Mutex) : Prop :=
  ∃ rest, state.rest thread = .acquire mutex :: rest

/-- A thread wants a mutex that the other one owns. -/
def WaitsFor (state : LockState Thread Mutex) (thread other : Thread) : Prop :=
  ∃ mutex, state.Wants thread mutex ∧ state.owner mutex = some other

/-- The thread waits, through other threads, for itself. -/
def OnCycle (state : LockState Thread Mutex) (thread : Thread) : Prop :=
  Relation.TransGen state.WaitsFor thread thread

/-- Some threads wait for each other in a circle. -/
def Deadlocked (state : LockState Thread Mutex) : Prop :=
  ∃ thread, state.OnCycle thread

/-- A thread is about to release a mutex that it does not own. -/
def BadRelease (state : LockState Thread Mutex) : Prop :=
  ∃ thread mutex rest, state.rest thread = .release mutex :: rest ∧
    state.owner mutex ≠ some thread

omit [DecidableEq Thread] [DecidableEq Mutex] in
theorem Wants.unique {state : LockState Thread Mutex} {thread : Thread} {first second : Mutex}
    (wantsFirst : state.Wants thread first) (wantsSecond : state.Wants thread second) :
    first = second := by
  obtain ⟨rest, next⟩ := wantsFirst
  obtain ⟨rest', next'⟩ := wantsSecond
  rw [next] at next'
  exact Instruction.acquire.inj (List.cons.inj next').1

omit [DecidableEq Thread] [DecidableEq Mutex] in
theorem OnCycle.next {state : LockState Thread Mutex} {thread : Thread}
    (cycle : state.OnCycle thread) :
    ∃ other, state.WaitsFor thread other ∧ state.OnCycle other := by
  rcases Relation.TransGen.head'_iff.mp cycle with ⟨other, waits, back⟩
  exact ⟨other, waits, Relation.TransGen.tail' back waits⟩

end LockState

/-- A scope that a lock guard holds the mutex for. -/
def lockGuard (mutex : Mutex) (scope : List (Instruction Mutex)) : List (Instruction Mutex) :=
  .acquire mutex :: scope ++ [.release mutex]

/-! ## What a program holds and demands -/

/-- The program is correct from the mutexes `held` on, and ends with `final`. -/
def Follows : Finset Mutex → List (Instruction Mutex) → Finset Mutex → Prop
  | held, [], final => held = final
  | held, .acquire mutex :: rest, final => mutex ∉ held ∧ Follows (insert mutex held) rest final
  | held, .release mutex :: rest, final => mutex ∈ held ∧ Follows (held.erase mutex) rest final

/-- The program acquires `wanted` at a point where it holds `kept`. -/
def Demands : Finset Mutex → List (Instruction Mutex) → Mutex → Mutex → Prop
  | _, [], _, _ => False
  | held, .acquire mutex :: rest, kept, wanted =>
      (kept ∈ held ∧ wanted = mutex) ∨ Demands (insert mutex held) rest kept wanted
  | held, .release mutex :: rest, kept, wanted => Demands (held.erase mutex) rest kept wanted

variable {held : Finset Mutex} {kept wanted mutex : Mutex} {owner : Mutex → Option Thread}
  {thread : Thread}

theorem Follows.append {middle final : Finset Mutex} {first second : List (Instruction Mutex)}
    (followsFirst : Follows held first middle) (followsSecond : Follows middle second final) :
    Follows held (first ++ second) final := by
  induction first generalizing held with
  | nil =>
      obtain rfl : held = middle := followsFirst
      exact followsSecond
  | cons instruction rest ih =>
      cases instruction with
      | acquire mutex => exact ⟨followsFirst.1, ih followsFirst.2⟩
      | release mutex => exact ⟨followsFirst.1, ih followsFirst.2⟩

theorem Demands.of_append {middle : Finset Mutex} {first second : List (Instruction Mutex)}
    (follows : Follows held first middle) (demands : Demands held (first ++ second) kept wanted) :
    Demands held first kept wanted ∨ Demands middle second kept wanted := by
  induction first generalizing held with
  | nil =>
      obtain rfl : held = middle := follows
      exact Or.inr demands
  | cons instruction rest ih =>
      cases instruction with
      | acquire mutex =>
          rcases demands with now | later
          · exact Or.inl (Or.inl now)
          · exact (ih follows.2 later).imp_left Or.inr
      | release mutex => exact ih follows.2 demands

theorem Follows.lockGuard {scope : List (Instruction Mutex)} (free : mutex ∉ held)
    (inside : Follows (insert mutex held) scope (insert mutex held)) :
    Follows held (Concurrency.lockGuard mutex scope) held := by
  refine ⟨free, inside.append ⟨Finset.mem_insert_self mutex held, ?_⟩⟩
  exact Finset.erase_insert free

theorem Demands.of_lockGuard {scope : List (Instruction Mutex)}
    (inside : Follows (insert mutex held) scope (insert mutex held))
    (demands : Demands held (Concurrency.lockGuard mutex scope) kept wanted) :
    (kept ∈ held ∧ wanted = mutex) ∨ Demands (insert mutex held) scope kept wanted := by
  rcases demands with now | later
  · exact Or.inl now
  · rcases Demands.of_append inside later with within | after
    · exact Or.inr within
    · exact absurd after id

theorem follows_flatMap {Operation : Type u} {program : Operation → List (Instruction Mutex)}
    {operations : List Operation}
    (every : ∀ operation ∈ operations, Follows held (program operation) held) :
    Follows held (operations.flatMap program) held := by
  induction operations with
  | nil => rfl
  | cons operation rest ih =>
      rw [List.flatMap_cons]
      exact (every operation List.mem_cons_self).append
        (ih fun other mem => every other (List.mem_cons_of_mem _ mem))

theorem Demands.of_flatMap {Operation : Type u} {program : Operation → List (Instruction Mutex)}
    {operations : List Operation}
    (every : ∀ operation ∈ operations, Follows held (program operation) held)
    (demands : Demands held (operations.flatMap program) kept wanted) :
    ∃ operation ∈ operations, Demands held (program operation) kept wanted := by
  induction operations with
  | nil => exact absurd demands id
  | cons operation rest ih =>
      rw [List.flatMap_cons] at demands
      rcases Demands.of_append (every operation List.mem_cons_self) demands with here | later
      · exact ⟨operation, List.mem_cons_self, here⟩
      · obtain ⟨other, mem, found⟩ :=
          ih (fun other mem => every other (List.mem_cons_of_mem _ mem)) later
        exact ⟨other, List.mem_cons_of_mem _ mem, found⟩

/-! ## Owners -/

/-- The mutexes that each thread holds are those that it owns. -/
def Owned (owner : Mutex → Option Thread) (held : Thread → Finset Mutex) : Prop :=
  ∀ mutex thread, owner mutex = some thread ↔ mutex ∈ held thread

omit [DecidableEq Thread] [DecidableEq Mutex] in
theorem Owned.unique {held : Thread → Finset Mutex} (owned : Owned owner held) {other : Thread}
    (holds : mutex ∈ held thread) (otherHolds : mutex ∈ held other) : thread = other :=
  Option.some.inj (((owned mutex thread).mpr holds).symm.trans ((owned mutex other).mpr otherHolds))

theorem Owned.acquire {held : Thread → Finset Mutex} (owned : Owned owner held)
    (free : owner mutex = none) (thread : Thread) :
    Owned (Function.update owner mutex (some thread))
      (Function.update held thread (insert mutex (held thread))) := by
  intro other agent
  have old := owned other agent
  by_cases sameMutex : other = mutex
  · subst sameMutex
    have unowned : other ∉ held agent := fun mem => by
      rw [old.mpr mem] at free
      contradiction
    by_cases sameThread : agent = thread
    · subst sameThread
      simp
    · have distinct : thread ≠ agent := fun same => sameThread same.symm
      simp [sameThread, distinct, unowned]
  · by_cases sameThread : agent = thread
    · subst sameThread
      simp [sameMutex, old]
    · simp [sameMutex, sameThread, old]

theorem Owned.release {held : Thread → Finset Mutex} (owned : Owned owner held)
    (holds : owner mutex = some thread) :
    Owned (Function.update owner mutex none)
      (Function.update held thread ((held thread).erase mutex)) := by
  intro other agent
  have old := owned other agent
  by_cases sameMutex : other = mutex
  · subst sameMutex
    by_cases sameThread : agent = thread
    · subst sameThread
      simp
    · have unowned : other ∉ held agent := fun mem => by
        rw [old.mpr mem] at holds
        exact sameThread (Option.some.inj holds)
      simp [sameThread, unowned]
  · by_cases sameThread : agent = thread
    · subst sameThread
      simp [sameMutex, old]
    · simp [sameMutex, sameThread, old]

/-! ## Reachable states -/

/-- Each thread owns what its program holds, and its rest demands nothing that
the whole program does not demand. -/
structure Tracks (program : Thread → List (Instruction Mutex)) (state : LockState Thread Mutex)
    (held : Thread → Finset Mutex) : Prop where
  owner_iff : ∀ mutex thread, state.owner mutex = some thread ↔ mutex ∈ held thread
  follows : ∀ thread, Follows (held thread) (state.rest thread) ∅
  demands : ∀ thread kept wanted, Demands (held thread) (state.rest thread) kept wanted →
    Demands ∅ (program thread) kept wanted

variable {program : Thread → List (Instruction Mutex)} {state : LockState Thread Mutex}

omit [DecidableEq Thread] in
theorem tracks_start (correct : ∀ thread, Follows ∅ (program thread) ∅) :
    Tracks program (LockState.start program) fun _ => ∅ where
  owner_iff mutex thread := by simp [LockState.start]
  follows := correct
  demands _ _ _ demands := demands

theorem Tracks.advance {held : Thread → Finset Mutex} (tracks : Tracks program state held)
    {next : LockState Thread Mutex} (advanced : state.advance thread = some next) :
    ∃ held', Tracks program next held' := by
  have follows := tracks.follows thread
  have demands := tracks.demands thread
  unfold LockState.advance at advanced
  split at advanced
  · contradiction
  · rename_i mutex rest head
    rw [head] at follows demands
    split at advanced
    · rename_i free
      obtain rfl := Option.some.inj advanced
      refine ⟨Function.update held thread (insert mutex (held thread)), ?_⟩
      constructor
      case owner_iff => exact Owned.acquire tracks.owner_iff free thread
      case follows =>
        intro owner
        by_cases same : owner = thread
        · subst same
          simpa using follows.2
        · simpa [same] using tracks.follows owner
      case demands =>
        intro owner kept wanted
        by_cases same : owner = thread
        · subst same
          dsimp only
          rw [Function.update_self, Function.update_self]
          exact fun later => demands kept wanted (Or.inr later)
        · simpa [same] using tracks.demands owner kept wanted
    · contradiction
  · rename_i mutex rest head
    rw [head] at follows demands
    split at advanced
    · rename_i owned
      obtain rfl := Option.some.inj advanced
      refine ⟨Function.update held thread ((held thread).erase mutex), ?_⟩
      constructor
      case owner_iff => exact Owned.release tracks.owner_iff owned
      case follows =>
        intro owner
        by_cases same : owner = thread
        · subst same
          simpa using follows.2
        · simpa [same] using tracks.follows owner
      case demands =>
        intro owner kept wanted
        by_cases same : owner = thread
        · subst same
          dsimp only
          rw [Function.update_self, Function.update_self]
          exact demands kept wanted
        · simpa [same] using tracks.demands owner kept wanted
    · contradiction

theorem LockState.Reachable.tracks (correct : ∀ thread, Follows ∅ (program thread) ∅)
    (reachable : LockState.Reachable program state) : ∃ held, Tracks program state held := by
  obtain ⟨schedule, ran⟩ := reachable
  have begun := tracks_start correct
  generalize LockState.start program = initial at ran begun
  generalize (fun _ => ∅ : Thread → Finset Mutex) = held at begun
  induction schedule generalizing initial held with
  | nil =>
      obtain rfl := Option.some.inj ran
      exact ⟨held, begun⟩
  | cons thread schedule ih =>
      obtain ⟨next, advanced, later⟩ := Option.bind_eq_some_iff.mp ran
      obtain ⟨held', tracks⟩ := begun.advance advanced
      exact ih next later held' tracks

theorem LockState.Reachable.not_badRelease (correct : ∀ thread, Follows ∅ (program thread) ∅)
    (reachable : LockState.Reachable program state) : ¬ state.BadRelease := by
  obtain ⟨held, tracks⟩ := reachable.tracks correct
  rintro ⟨thread, mutex, rest, head, notOwned⟩
  have follows := tracks.follows thread
  rw [head] at follows
  exact notOwned ((tracks.owner_iff mutex thread).mpr follows.1)

/-- A thread that is waited for and wants a mutex itself demands it while it
holds the mutex that the other thread wants. -/
theorem LockState.Reachable.demands (correct : ∀ thread, Follows ∅ (program thread) ∅)
    (reachable : LockState.Reachable program state) (owned : state.owner kept = some thread)
    (wants : state.Wants thread wanted) : Demands ∅ (program thread) kept wanted := by
  obtain ⟨held, tracks⟩ := reachable.tracks correct
  obtain ⟨rest, head⟩ := wants
  apply tracks.demands thread
  rw [head]
  exact Or.inl ⟨(tracks.owner_iff kept thread).mp owned, rfl⟩

omit [DecidableEq Thread] [DecidableEq Mutex] in
/-- Whatever order the mutexes have, on every cycle some thread demands a mutex
that does not come after one that it holds. -/
theorem LockState.Deadlocked.exists_descent (rank : Mutex → Nat)
    (deadlocked : state.Deadlocked) :
    ∃ thread kept wanted, state.OnCycle thread ∧ state.owner kept = some thread ∧
      state.Wants thread wanted ∧ rank wanted ≤ rank kept := by
  by_contra ascending
  have ascends : ∀ thread kept wanted, state.OnCycle thread → state.owner kept = some thread →
      state.Wants thread wanted → rank kept < rank wanted := by
    intro thread kept wanted cycle owned wants
    by_contra descends
    exact ascending ⟨thread, kept, wanted, cycle, owned, wants, Nat.le_of_not_lt descends⟩
  -- Along the cycle the wanted mutexes rise, up to the one that it started from.
  have rises : ∀ thread other first last, state.Wants thread first → state.Wants other last →
      Relation.TransGen state.WaitsFor thread other →
      Relation.ReflTransGen state.WaitsFor other thread → rank first < rank last := by
    intro thread other first last wantsFirst wantsLast there
    induction there generalizing last with
    | single waits =>
        intro back
        obtain ⟨mutex, wants, owned⟩ := waits
        obtain rfl := wantsFirst.unique wants
        exact ascends _ _ _ (Relation.TransGen.tail' back ⟨_, wants, owned⟩) owned wantsLast
    | tail before waits ih =>
        intro back
        have cycle := Relation.TransGen.trans_right back (before.tail waits)
        obtain ⟨mutex, wants, owned⟩ := waits
        exact (ih mutex wants (Relation.ReflTransGen.head ⟨mutex, wants, owned⟩ back)).trans
          (ascends _ _ _ cycle owned wantsLast)
  obtain ⟨thread, cycle⟩ := deadlocked
  obtain ⟨other, ⟨mutex, wants, _⟩, _⟩ := cycle.next
  exact lt_irrefl _ (rises thread thread mutex mutex wants wants cycle .refl)

end FileTrans.Concurrency

namespace FileTrans.Concurrency

universe u v

/-! ## Programs that do more than lock -/

variable {Mutex : Type u} {Action : Type v} [DecidableEq Mutex]

/-- One step of a program. -/
inductive Command (Mutex : Type u) (Action : Type v)
  | lock (instruction : Instruction Mutex)
  | act (action : Action)
  deriving DecidableEq

def Command.after (held : Finset Mutex) : Command Mutex Action → Finset Mutex
  | .lock (.acquire mutex) => insert mutex held
  | .lock (.release mutex) => held.erase mutex
  | .act _ => held

/-- A scope that a lock guard holds the mutex for. -/
def guarding (mutex : Mutex) (scope : List (Command Mutex Action)) :
    List (Command Mutex Action) :=
  .lock (.acquire mutex) :: scope ++ [.lock (.release mutex)]

/-- Every command of the program is allowed where it stands, and the program ends with `final`. -/
def Obeys (allowed : Finset Mutex → Command Mutex Action → Prop) :
    Finset Mutex → List (Command Mutex Action) → Finset Mutex → Prop
  | held, [], final => held = final
  | held, command :: rest, final =>
      allowed held command ∧ Obeys allowed (command.after held) rest final

variable {allowed : Finset Mutex → Command Mutex Action → Prop}

theorem obeys_nil (held : Finset Mutex) : Obeys allowed held [] held :=
  rfl

variable {held : Finset Mutex}

theorem Obeys.append {middle final : Finset Mutex} {first second : List (Command Mutex Action)}
    (obeysFirst : Obeys allowed held first middle)
    (obeysSecond : Obeys allowed middle second final) :
    Obeys allowed held (first ++ second) final := by
  induction first generalizing held with
  | nil =>
      obtain rfl : held = middle := obeysFirst
      exact obeysSecond
  | cons command rest ih => exact ⟨obeysFirst.1, ih obeysFirst.2⟩

theorem Obeys.guarding {mutex : Mutex} {scope : List (Command Mutex Action)} (free : mutex ∉ held)
    (acquires : allowed held (.lock (.acquire mutex)))
    (inside : Obeys allowed (insert mutex held) scope (insert mutex held))
    (releases : allowed (insert mutex held) (.lock (.release mutex))) :
    Obeys allowed held (Concurrency.guarding mutex scope) held :=
  ⟨acquires, inside.append ⟨releases, Finset.erase_insert free⟩⟩

theorem obeys_flatMap {Part : Type v} {program : Part → List (Command Mutex Action)}
    {parts : List Part} (every : ∀ part ∈ parts, Obeys allowed held (program part) held) :
    Obeys allowed held (parts.flatMap program) held := by
  induction parts with
  | nil => rfl
  | cons part rest ih =>
      rw [List.flatMap_cons]
      exact (every part List.mem_cons_self).append
        (ih fun other mem => every other (List.mem_cons_of_mem _ mem))

end FileTrans.Concurrency
