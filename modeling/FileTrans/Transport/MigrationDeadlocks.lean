import FileTrans.Transport.MigrationLocks

/-!
# Deadlocks of a migration

Without `migrate_to`, and where the monitor thread has no event to emit when it is to be
joined, no thread waits for itself: the monitor thread is never on a cycle, and two other
threads meet at `migration_mutex` only.
-/

namespace FileTrans.Transport

open FileTrans.Concurrency FileTrans.Transition

namespace MonitoredTransport

variable {Thread : Type} [DecidableEq Thread]

/-- What a thread may do. -/
def allowed : Agent Thread → Finset MigrationMutex → MigrationCommand → Prop
  | .user _ => userAllowed
  | .monitor => monitorAllowed

/-- The threads own what their programs hold; a thread that joins the monitor thread follows the
flag, and has no event of it to wait for. -/
structure Sound (state : MonitoredTransport Thread)
    (held : Agent Thread → Finset MigrationMutex) : Prop where
  owned : Owned state.owner held
  obeys : ∀ agent, Obeys (allowed agent) (held agent) (state.rest agent) ∅
  ended : state.alive = false → state.rest .monitor = []
  tail : ∀ thread, .act .join ∉ (state.rest (.user thread)).tail
  joining : ∀ thread rest, state.rest (.user thread) = .act .join :: rest →
    state.monitoring = false ∧ .lock (.acquire .migration) ∉ state.rest .monitor

variable {state : MonitoredTransport Thread} {held : Agent Thread → Finset MigrationMutex}

omit [DecidableEq Thread] in
theorem sound_start : Sound (start : MonitoredTransport Thread) fun _ => ∅ where
  owned mutex agent := by simp [start]
  obeys agent := rfl
  ended _ := rfl
  tail thread := List.not_mem_nil
  joining thread rest next := by cases next

theorem setRest_rest_self (agent : Agent Thread) (rest : List MigrationCommand) :
    (state.setRest agent rest).rest agent = rest :=
  Function.update_self _ _ _

variable {agent : Agent Thread} {rest : List MigrationCommand} {action : MonitorAction}

theorem setRest_rest_of_ne {other : Agent Thread} (distinct : other ≠ agent)
    (rest : List MigrationCommand) : (state.setRest agent rest).rest other = state.rest other :=
  Function.update_of_ne distinct _ _

omit [DecidableEq Thread] in
theorem Sound.held_of_join (sound : Sound state held) {thread : Thread}
    (next : state.rest (.user thread) = .act .join :: rest) :
    held (.user thread) = {.migration} := by
  have obeys := sound.obeys (.user thread)
  rw [next] at obeys
  exact obeys.1

theorem Sound.done (sound : Sound state held) {command : MigrationCommand}
    (next : state.rest agent = command :: rest) {owner : MigrationMutex → Option (Agent Thread)}
    (owned : Owned owner (Function.update held agent (command.after (held agent)))) :
    Sound { state.setRest agent rest with owner }
      (Function.update held agent (command.after (held agent))) := by
  have obeys := sound.obeys agent
  rw [next] at obeys
  have monitorRest : ∀ instruction, instruction ∉ state.rest .monitor →
      instruction ∉ (state.setRest agent rest).rest .monitor := by
    intro instruction absent
    by_cases same : Agent.monitor = agent
    · subst same
      rw [setRest_rest_self]
      rw [next] at absent
      exact fun mem => absent (List.mem_cons_of_mem _ mem)
    · rwa [setRest_rest_of_ne same]
  constructor
  case owned => exact owned
  case obeys =>
    intro other
    by_cases same : other = agent
    · subst same
      rw [setRest_rest_self, Function.update_self]
      exact obeys.2
    · rw [setRest_rest_of_ne same, Function.update_of_ne same]
      exact sound.obeys other
  case ended =>
    intro dead
    have none := sound.ended dead
    by_cases same : Agent.monitor = agent
    · subst same
      rw [next] at none
      cases none
    · rwa [setRest_rest_of_ne same]
  case tail =>
    intro thread
    have absent := sound.tail thread
    by_cases same : Agent.user thread = agent
    · subst same
      rw [setRest_rest_self]
      rw [next, List.tail_cons] at absent
      exact fun mem => absent (List.mem_of_mem_tail mem)
    · rwa [setRest_rest_of_ne same]
  case joining =>
    intro thread later joins
    by_cases same : Agent.user thread = agent
    · subst same
      rw [setRest_rest_self] at joins
      have absent := sound.tail thread
      rw [next, List.tail_cons, joins] at absent
      exact absurd List.mem_cons_self absent
    · rw [setRest_rest_of_ne same] at joins
      have old := sound.joining thread later joins
      exact ⟨old.1, monitorRest _ old.2⟩

theorem Sound.acted (sound : Sound state held) (next : state.rest agent = .act action :: rest) :
    Sound (state.setRest agent rest) held := by
  have same : Function.update held agent (Command.after (held agent)
      (.act action : MigrationCommand)) = held := Function.update_eq_self _ _
  have owned : Owned state.owner (Function.update held agent (Command.after (held agent)
      (.act action : MigrationCommand))) := by
    rw [same]
    exact sound.owned
  have done := sound.done next owned
  rwa [same] at done

omit [DecidableEq Thread] in
theorem Sound.actor (sound : Sound state held) (next : state.rest agent = .act action :: rest) :
    (∃ thread, agent = .user thread) ∧ held agent = {.migration} := by
  have obeys := sound.obeys agent
  rw [next] at obeys
  cases agent with
  | user thread => exact ⟨⟨thread, rfl⟩, obeys.1⟩
  | monitor => exact absurd obeys.1 id

omit [DecidableEq Thread] in
theorem Sound.actor_unique (sound : Sound state held) {other : Agent Thread}
    {otherAction : MonitorAction} {otherRest : List MigrationCommand}
    (next : state.rest agent = .act action :: rest)
    (otherNext : state.rest other = .act otherAction :: otherRest) : agent = other := by
  have one : MigrationMutex.migration ∈ held agent := by
    rw [(sound.actor next).2]
    exact Finset.mem_singleton_self _
  have two : MigrationMutex.migration ∈ held other := by
    rw [(sound.actor otherNext).2]
    exact Finset.mem_singleton_self _
  exact sound.owned.unique one two

/-- A command of a thread, if the flag is taken back only when the monitor thread has no event to
emit. -/
theorem Sound.advance (sound : Sound state held) (harmless : state.Harmless (.advance agent)) :
    ∃ held', Sound (state.advance agent) held' := by
  unfold MonitoredTransport.advance
  split
  · exact ⟨held, sound⟩
  · rename_i mutex rest next
    split
    · rename_i free
      exact ⟨_, sound.done next (sound.owned.acquire free agent)⟩
    · exact ⟨held, sound⟩
  · rename_i mutex rest next
    split
    · rename_i owns
      exact ⟨_, sound.done next (sound.owned.release owns)⟩
    · exact ⟨held, sound⟩
  · rename_i rest next
    split
    · rename_i monitoring
      obtain ⟨⟨thread, rfl⟩, holds⟩ := sound.actor next
      have quiet := harmless rest next monitoring
      have acted := sound.acted next
      have monitorRest : (state.setRest (.user thread) (.act .join :: rest)).rest .monitor =
          state.rest .monitor := setRest_rest_of_ne (by simp) _
      refine ⟨held, ⟨sound.owned, ?_, ?_, ?_, ?_⟩⟩
      · intro other
        by_cases same : other = .user thread
        · subst same
          have obeys := acted.obeys (.user thread)
          rw [setRest_rest_self] at obeys
          change Obeys _ _ ((state.setRest (.user thread) (.act .join :: rest)).rest _) _
          rw [setRest_rest_self]
          exact ⟨holds, obeys⟩
        · change Obeys _ _ ((state.setRest (.user thread) (.act .join :: rest)).rest _) _
          rw [setRest_rest_of_ne same]
          exact sound.obeys other
      · intro dead
        exact monitorRest.trans (sound.ended dead)
      · intro other
        change _ ∉ ((state.setRest (.user thread) (.act .join :: rest)).rest _).tail
        by_cases same : Agent.user other = .user thread
        · rw [same, setRest_rest_self]
          have absent := sound.tail thread
          rwa [next] at absent
        · rw [setRest_rest_of_ne same]
          exact sound.tail other
      · intro other later joins
        exact ⟨rfl, by rwa [monitorRest]⟩
    · exact ⟨held, sound.acted next⟩
  · rename_i rest next
    split
    · exact ⟨held, sound⟩
    · exact ⟨held, sound.acted next⟩
  · rename_i rest next
    split
    · exact ⟨held, sound.acted next⟩
    · split
      · exact ⟨held, sound⟩
      · have acted := sound.acted next
        refine ⟨held, ⟨acted.owned, acted.obeys, nofun, acted.tail, ?_⟩⟩
        intro other later joins
        exfalso
        by_cases same : Agent.user other = agent
        · have absent := acted.joining other later joins
          have fresh := sound.tail other
          subst same
          rw [next, List.tail_cons] at fresh
          have head : rest = .act .join :: later := (setRest_rest_self _ _).symm.trans joins
          rw [head] at fresh
          exact fresh List.mem_cons_self
        · have old : state.rest (.user other) = .act .join :: later :=
            (setRest_rest_of_ne same rest).symm.trans joins
          exact same (sound.actor_unique old next)

theorem Sound.step (sound : Sound state held) {input : MonitorInput Thread}
    (harmless : state.Harmless input) : ∃ held', Sound (state.step input).2 held' := by
  cases input with
  | advance agent => exact sound.advance harmless
  | call thread operation =>
      unfold MonitoredTransport.step
      dsimp only
      split
      · rename_i idle
        have other : ∀ course, operation ≠ .migrateTo (some course) := by
          rintro course rfl
          exact harmless idle
        have nothing : held (.user thread) = ∅ := by
          have obeys := sound.obeys (.user thread)
          rwa [idle] at obeys
        obtain ⟨obeys, fresh⟩ := obeys_operation other
        have monitorRest : (state.setRest (.user thread) operation.locks).rest .monitor =
            state.rest .monitor := setRest_rest_of_ne (by simp) _
        refine ⟨held, ⟨sound.owned, ?_, ?_, ?_, ?_⟩⟩
        · intro agent
          by_cases same : agent = .user thread
          · subst same
            rw [setRest_rest_self, nothing]
            exact obeys
          · rw [setRest_rest_of_ne same]
            exact sound.obeys agent
        · exact fun dead => monitorRest.trans (sound.ended dead)
        · intro caller
          by_cases same : Agent.user caller = .user thread
          · rw [same, setRest_rest_self]
            exact fun mem => fresh (List.mem_of_mem_tail mem)
          · rw [setRest_rest_of_ne same]
            exact sound.tail caller
        · intro caller later joins
          rw [monitorRest]
          by_cases same : Agent.user caller = .user thread
          · rw [same, setRest_rest_self] at joins
            rw [joins] at fresh
            exact absurd List.mem_cons_self fresh
          · rw [setRest_rest_of_ne same] at joins
            exact sound.joining caller later joins
      · exact ⟨held, sound⟩
  | check changes =>
      unfold MonitoredTransport.step
      dsimp only
      split
      · rename_i ready
        split
        · rename_i monitoring
          have nothing : held .monitor = ∅ := by
            have obeys := sound.obeys .monitor
            rwa [ready.2] at obeys
          have userRest : ∀ thread, (state.setRest .monitor (iterationLocks changes)).rest
              (.user thread) = state.rest (.user thread) :=
            fun thread => setRest_rest_of_ne (by simp) _
          refine ⟨held, ⟨sound.owned, ?_, ?_, ?_, ?_⟩⟩
          · intro agent
            cases agent with
            | monitor =>
                rw [setRest_rest_self, nothing]
                exact obeys_iteration changes
            | user thread =>
                rw [userRest]
                exact sound.obeys (.user thread)
          · intro dead
            exact absurd ready.1 (by simpa [setRest] using dead)
          · intro thread
            rw [userRest]
            exact sound.tail thread
          · intro thread later joins
            rw [userRest] at joins
            have stopped := (sound.joining thread later joins).1
            rw [monitoring] at stopped
            cases stopped
        · exact ⟨held, ⟨sound.owned, sound.obeys, fun _ => ready.2, sound.tail, sound.joining⟩⟩
      · exact ⟨held, sound⟩

/-! ## No cycle -/

omit [DecidableEq Thread] in
theorem OnCycle.next (cycle : state.OnCycle agent) :
    ∃ other, state.WaitsFor agent other ∧ state.OnCycle other := by
  rcases Relation.TransGen.head'_iff.mp cycle with ⟨other, waits, back⟩
  exact ⟨other, waits, Relation.TransGen.tail' back waits⟩

omit [DecidableEq Thread] in
theorem OnCycle.previous (cycle : state.OnCycle agent) :
    ∃ other, state.WaitsFor other agent ∧ state.OnCycle other := by
  rcases Relation.TransGen.tail'_iff.mp cycle with ⟨other, back, waits⟩
  exact ⟨other, waits, Relation.TransGen.head' waits back⟩

omit [DecidableEq Thread] in
theorem Sound.held_of_onCycle (sound : Sound state held) {thread : Thread}
    (cycle : state.OnCycle (.user thread)) {mutex : MigrationMutex}
    (mem : mutex ∈ held (.user thread)) : mutex = .migration := by
  obtain ⟨other, ⟨wanted, rest, next, -⟩ | ⟨rest, next, -⟩, -⟩ := cycle.next
  · have obeys := sound.obeys (.user thread)
    rw [next] at obeys
    rcases obeys.1 with ⟨none, -⟩ | ⟨single, -⟩
    · rw [none] at mem
      cases mem
    · rw [single] at mem
      exact Finset.mem_singleton.mp mem
  · rw [sound.held_of_join next] at mem
    exact Finset.mem_singleton.mp mem

omit [DecidableEq Thread] in
theorem Sound.not_onCycle_monitor (sound : Sound state held) : ¬ state.OnCycle .monitor := by
  intro cycle
  have obeys := sound.obeys .monitor
  obtain ⟨other, ⟨wanted, rest, next, owner⟩ | ⟨rest, next, -⟩, otherCycle⟩ := cycle.next
  · rw [next] at obeys
    rcases obeys.1 with ⟨nothing, notMigration⟩ | ⟨callback, rfl⟩
    · have holds := (sound.owned wanted other).mp owner
      cases other with
      | monitor =>
          rw [nothing] at holds
          cases holds
      | user thread => exact notMigration (sound.held_of_onCycle otherCycle holds)
    · obtain ⟨waiter, ⟨mutex, later, waits, owned⟩ | ⟨later, joins, -⟩, -⟩ := cycle.previous
      · have mem := (sound.owned mutex .monitor).mp owned
        rw [callback] at mem
        obtain rfl := Finset.mem_singleton.mp mem
        cases waiter with
        | monitor => cases next.symm.trans waits
        | user thread =>
            have wants := sound.obeys (.user thread)
            rw [waits] at wants
            rcases wants.1 with ⟨-, same⟩ | ⟨-, same⟩ <;> cases same
      · obtain ⟨⟨thread, rfl⟩, -⟩ := sound.actor joins
        have quiet := (sound.joining thread later joins).2
        rw [next] at quiet
        exact quiet List.mem_cons_self
  · rw [next] at obeys
    exact obeys.1

omit [DecidableEq Thread] in
theorem Sound.not_deadlocked (sound : Sound state held) : ¬ state.Deadlocked := by
  rintro ⟨agent, cycle⟩
  -- The owner of `migration_mutex` that a cycle passes through waits for `path_mutex`.
  have owner : ∀ thread, state.OnCycle (.user thread) →
      .migration ∈ held (.user thread) → False := by
    intro thread onCycle holds
    obtain ⟨other, ⟨wanted, rest, next, owns⟩ | ⟨rest, next, -, rfl⟩, otherCycle⟩ := onCycle.next
    · have obeys := sound.obeys (.user thread)
      rw [next] at obeys
      rcases obeys.1 with ⟨nothing, -⟩ | ⟨-, rfl⟩
      · rw [nothing] at holds
        cases holds
      · have mem := (sound.owned .path other).mp owns
        cases other with
        | monitor => exact sound.not_onCycle_monitor otherCycle
        | user later => cases sound.held_of_onCycle otherCycle mem
    · exact sound.not_onCycle_monitor otherCycle
  cases agent with
  | monitor => exact sound.not_onCycle_monitor cycle
  | user thread =>
      obtain ⟨other, ⟨wanted, rest, next, owns⟩ | ⟨rest, next, -, rfl⟩, otherCycle⟩ := cycle.next
      · have mem := (sound.owned wanted other).mp owns
        cases other with
        | monitor => exact sound.not_onCycle_monitor otherCycle
        | user later =>
            obtain rfl := sound.held_of_onCycle otherCycle mem
            exact owner later otherCycle mem
      · exact sound.not_onCycle_monitor otherCycle

/-- A run without a migration, in which the flag is taken back only while the monitor thread has
no event to emit, reaches no deadlock. -/
theorem not_deadlocked_of_harmless {inputs : List (MonitorInput Thread)}
    (harmless : Guarded step Harmless start inputs) : ¬ (final step start inputs).Deadlocked := by
  have sound : ∃ held, Sound (final step start inputs) held :=
    harmless.invariant (fun state => ∃ held, Sound state held)
      (fun state input holds allowed => holds.elim fun held sound => sound.step allowed)
      ⟨_, sound_start⟩
  obtain ⟨held, sound⟩ := sound
  exact sound.not_deadlocked

/-- The monitor thread emits its event while a thread that is to end the monitoring waits for
`migration_mutex`; then it is joined. -/
theorem not_deadlocked_stop :
    ¬ (final step (start : MonitoredTransport Unit) [.call () (.startNetworkMonitoring false),
      .advance (.user ()), .advance (.user ()), .advance (.user ()), .check (some []),
      .advance .monitor, .advance .monitor, .advance .monitor, .advance .monitor,
      .call () .stopNetworkMonitoring, .advance (.user ()), .advance .monitor,
      .advance (.user ()), .advance (.user ())]).Deadlocked := by
  apply not_deadlocked_of_harmless
  refine ⟨trivial, nofun, fun rest next => ?_, nofun, trivial, nofun, nofun, nofun, nofun,
    trivial, nofun, nofun, nofun, fun rest _ _ => ?_, trivial⟩
  · cases next
  · change _ ∉ [_, _, _]
    decide

/-- A migration waits for the mutex that it holds when it emits its first event.  Without any
migration, the monitor thread waits in an event for the thread that joins it. -/
theorem deadlocked_migrations :
    (¬ ∀ inputs : List (MonitorInput Unit), ¬ (final step start inputs).Deadlocked) ∧
      (final step (start : MonitoredTransport Unit) [.call () (.startNetworkMonitoring false),
        .advance (.user ()), .advance (.user ()), .advance (.user ()), .check (some []),
        .call () .stopNetworkMonitoring, .advance (.user ()), .advance (.user ()),
        .advance .monitor, .advance .monitor, .advance .monitor]).Deadlocked := by
  constructor
  · intro never
    apply never [.call () (.migrateTo (some (.completed false false))), .advance (.user ()),
      .advance (.user ())]
    exact ⟨.user (), .single (Or.inl ⟨.migration, _, rfl, rfl⟩)⟩
  · exact ⟨.monitor, .tail (b := .user ()) (.single (Or.inl ⟨.migration, _, rfl, rfl⟩))
      (Or.inr ⟨_, rfl, rfl, rfl⟩)⟩

end MonitoredTransport

end FileTrans.Transport
