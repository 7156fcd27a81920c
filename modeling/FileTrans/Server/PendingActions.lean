import FileTrans.Server.PolicyEvaluations
import FileTrans.Server.StaleReads
import FileTrans.Server.Removal

/-!
# Actions that wait

An evaluation queues the action that it recommends, and `execute_pending`
carries out the queue.  The queue may hold an action twice, and `execute` leaves
the action that it carries out in the queue.
-/

namespace FileTrans.Server

open FileTrans.Core
open FileTrans.Transition

/-! ## Logs -/

/-- The event is an evaluation that recommends the action. -/
def PolicyEvent.Recommends (event : PolicyEvent) (action : Recommendation) : Prop :=
  ∃ result, event = .evaluated result ∧ result.Live ∧ result.recommendation = action

/-- Between two times that an action is carried out an evaluation recommends it. -/
def AtMostOnce (log : List PolicyEvent) : Prop :=
  ∀ action first between last,
    log = first ++ .performed action :: (between ++ .performed action :: last) →
    ∃ event ∈ between, event.Recommends action

/-- The action has been carried out since it was last recommended. -/
def Spent (log : List PolicyEvent) (action : Recommendation) : Prop :=
  ∃ first last, log = first ++ .performed action :: last ∧
    ∀ event ∈ last, ¬ event.Recommends action

/-- The actions that a log carries out. -/
def performedActions (log : List PolicyEvent) : List Recommendation :=
  log.filterMap fun
    | .performed done => some done
    | _ => none

section

variable {log events : List PolicyEvent} {event : PolicyEvent} {action : Recommendation}

theorem not_spent_nil : ¬ Spent [] action := by
  rintro ⟨first, last, split, -⟩
  exact absurd split (by simp)

theorem spent_concat (spent : Spent (log ++ [event]) action) :
    event = .performed action ∨ Spent log action ∧ ¬ event.Recommends action := by
  obtain ⟨first, last, split, quiet⟩ := spent
  rcases last.eq_nil_or_concat with rfl | ⟨rest, final, rfl⟩
  · left
    exact (List.append_singleton_inj.mp split).2
  · right
    rw [List.concat_eq_append, ← List.cons_append, ← List.append_assoc] at split
    obtain ⟨rfl, rfl⟩ := List.append_singleton_inj.mp split
    exact ⟨⟨first, rest, rfl, fun event mem => quiet event (by simp [mem])⟩,
      quiet event (by simp)⟩

theorem atMostOnce_nil : AtMostOnce [] := by
  intro action first between last split
  exact absurd split (by simp)

theorem AtMostOnce.concat (once : AtMostOnce log)
    (fresh : ∀ action, event = .performed action → ¬ Spent log action) :
    AtMostOnce (log ++ [event]) := by
  intro action first between last split
  rcases last.eq_nil_or_concat with rfl | ⟨rest, final, rfl⟩
  · rw [← List.cons_append, ← List.append_assoc] at split
    obtain ⟨rfl, rfl⟩ := List.append_singleton_inj.mp split
    by_contra none
    apply fresh action rfl
    refine ⟨first, between, rfl, ?_⟩
    intro event mem recommends
    exact none ⟨event, mem, recommends⟩
  · have parts : log ++ [event] =
        (first ++ .performed action :: (between ++ .performed action :: rest)) ++ [final] := by
      simpa using split
    exact once action first between rest (List.append_singleton_inj.mp parts).1

theorem AtMostOnce.append (once : AtMostOnce log) (distinct : (performedActions events).Nodup)
    (fresh : ∀ action ∈ performedActions events, ¬ Spent log action) :
    AtMostOnce (log ++ events) := by
  induction events generalizing log with
  | nil => rwa [List.append_nil]
  | cons event events ih =>
      rw [List.append_cons]
      by_cases performs : ∃ done, event = .performed done
      · obtain ⟨done, rfl⟩ := performs
        obtain ⟨absent, distinct⟩ := List.nodup_cons.mp distinct
        apply ih (once.concat _) distinct
        · intro action mem spent
          rcases spent_concat spent with same | ⟨before, -⟩
          · cases same
            exact absent mem
          · exact fresh action (List.mem_cons_of_mem _ mem) before
        · intro action same
          cases same
          exact fresh done List.mem_cons_self
      · have skip : performedActions (event :: events) = performedActions events := by
          cases event with
          | performed done => exact absurd ⟨done, rfl⟩ performs
          | _ => rfl
        rw [skip] at distinct fresh
        apply ih (once.concat fun action same => absurd ⟨action, same⟩ performs) distinct
        intro action mem spent
        rcases spent_concat spent with same | ⟨before, -⟩
        · exact performs ⟨action, same⟩
        · exact fresh action mem before

theorem not_spent_of_recommended {result : PolicyEvaluationResult} (live : result.Live)
    (same : result.recommendation = action) : ¬ Spent (log ++ [.evaluated result]) action := by
  intro spent
  rcases spent_concat spent with performs | ⟨-, silent⟩
  · contradiction
  · exact silent ⟨result, rfl, live, same⟩

end

/-! ## Actions that go through -/

/-- The backends let the action through: the manager finds the object, and a primary call that
has to succeed does not fail. -/
def ActionAnswers.Allow (answers : ActionAnswers) (action : TieringAction) : Prop :=
  answers.metadata.isOk = true ∧ answers.writes.primary = none ∧
    (action = .deleteObj ∨ answers.reads.primary = none ∨ answers.reads.secondary = none)

instance (answers : ActionAnswers) (action : TieringAction) :
    Decidable (answers.Allow action) :=
  inferInstanceAs (Decidable (_ ∧ _ ∧ _))

/-- The queued actions that the backends let through. -/
def allowedActions : List PolicyEvaluationResult → (Nat → ActionAnswers) → List Recommendation
  | [], _ => []
  | result :: results, answers =>
      if result.Live ∧ (answers 0).Allow result.recommendedAction then
        result.recommendation :: allowedActions results fun index => answers (index + 1)
      else allowedActions results fun index => answers (index + 1)

namespace StorageManager

variable {manager : StorageManager} {key : Bytes}

theorem retrieve_goes {fates : Fates} {data : Bytes}
    (retrieved : (manager.retrieve key fates).1 = .ok data) :
    fates.primary = none ∨ fates.secondary = none := by
  unfold retrieve at retrieved
  split at retrieved
  · contradiction
  · split at retrieved
    · rename_i data answered
      exact .inl (StorageBackend.retrieve_ok_iff.mp answered).1
    · split at retrieved
      · rename_i data found
        obtain ⟨secondary, -, answered⟩ := Option.map_eq_some_iff.mp found
        exact .inr (StorageBackend.retrieve_ok_iff.mp answered).1
      · contradiction

theorem remove_goes {fates : Fates} (removed : (manager.remove key fates).1 = .ok ()) :
    fates.primary = none := by
  by_cases ready : manager.initialized = true
  · rw [remove_fst key fates ready] at removed
    exact (StorageBackend.remove_ok_iff.mp removed).1
  · unfold remove at removed
    rw [if_pos ready] at removed
    contradiction

theorem changeTier_goes {targetTier : StorageTier} {reads writes : Fates}
    (changed : (manager.changeTier key targetTier reads writes).1 = .ok ()) :
    writes.primary = none ∧ (reads.primary = none ∨ reads.secondary = none) := by
  unfold changeTier at changed
  split at changed
  · contradiction
  · split at changed
    · contradiction
    · rename_i data read retrieved
      split at changed
      · contradiction
      · rename_i result stored written
        have goes : read.initialized = true ∧ writes.primary = none :=
          (store_ok_iff rfl).mp ⟨result, congrArg Prod.fst written⟩
        exact ⟨goes.2, retrieve_goes (congrArg Prod.fst retrieved)⟩

end StorageManager

namespace StoragePolicy

section

variable {policy : StoragePolicy} {key : Bytes} {targetTier : StorageTier}
  {action : TieringAction} {answers : ActionAnswers}

variable (policy key targetTier action answers) in
theorem performedActions_executeAction :
    performedActions (policy.executeAction key targetTier action answers).events = [] ∨
    performedActions (policy.executeAction key targetTier action answers).events =
      [⟨key, targetTier, action⟩] ∧ policy.dryRun = false ∧ answers.Allow action := by
  unfold executeAction
  split
  · exact .inl rfl
  · rename_i manager attached
    dsimp only
    split
    · exact .inl rfl
    · rename_i metadata answered
      split
      · exact .inl rfl
      · rename_i live
        split
        · rename_i after managed
          refine .inr ⟨rfl, Bool.not_eq_true _ ▸ live, ?_, ?_⟩
          · cases answer : answers.metadata with
            | ok _ => rfl
            | error failure =>
                rw [answer] at answered
                contradiction
          · have done : (manage manager ⟨key, targetTier, action⟩ answers).1 = .ok () :=
              congrArg Prod.fst managed
            unfold manage at done
            cases action with
            | deleteObj => exact ⟨StorageManager.remove_goes done, .inl rfl⟩
            | move => exact (StorageManager.changeTier_goes done).imp_right .inr
            | copy => exact (StorageManager.changeTier_goes done).imp_right .inr
            | archive => exact (StorageManager.changeTier_goes done).imp_right .inr
        · exact .inl rfl

theorem dryRun_executeAction :
    (policy.executeAction key targetTier action answers).policy.dryRun = policy.dryRun := by
  unfold executeAction
  split
  · rfl
  · dsimp only
    split
    · rfl
    · split
      · rfl
      · split
        · cases action <;> rfl
        · rfl

theorem performedActions_append (first second : List PolicyEvent) :
    performedActions (first ++ second) = performedActions first ++ performedActions second :=
  List.filterMap_append

theorem sublist_executeActions {results : List PolicyEvaluationResult}
    {answers : Nat → ActionAnswers} :
    (performedActions (policy.executeActions results answers).2.1).Sublist
      (allowedActions results answers) := by
  induction results generalizing policy answers with
  | nil => exact .slnil
  | cons result results ih =>
      rw [executeActions, allowedActions]
      by_cases live : result.Live
      · rw [if_pos live]
        dsimp only
        rw [performedActions_append]
        rcases performedActions_executeAction policy result.key result.targetTier
          result.recommendedAction (answers 0) with none | ⟨one, -, allowed⟩
        · rw [none, List.nil_append]
          split
          · exact ih.cons _
          · exact ih
        · rw [one, if_pos ⟨live, allowed⟩, List.singleton_append]
          exact ih.cons_cons _
      · rw [if_neg live, if_neg fun both => live both.1]
        exact ih

theorem executeActions_of_dryRun {results : List PolicyEvaluationResult}
    {answers : Nat → ActionAnswers} (dry : policy.dryRun = true) :
    performedActions (policy.executeActions results answers).2.1 = [] := by
  induction results generalizing policy answers with
  | nil => rfl
  | cons result results ih =>
      rw [executeActions]
      split
      · dsimp only
        rw [performedActions_append, ih (dryRun_executeAction.trans dry), List.append_nil]
        rcases performedActions_executeAction policy result.key result.targetTier
          result.recommendedAction (answers 0) with none | ⟨-, live, -⟩
        · exact none
        · rw [dry] at live
          contradiction
      · exact ih dry

end

/-! ## Logged runs -/

/-- A policy and what it has done. -/
structure Logged where
  policy : StoragePolicy
  log : List PolicyEvent

/-- One call, logged. -/
def loggedStep (sortRules : List TieringRule → List TieringRule) :
    Step Logged PolicyInput Unit := fun logged input =>
  let (events, policy) := step sortRules logged.policy input
  ((), ⟨policy, logged.log ++ events⟩)

/-- The call is not `execute_action`. -/
def ByEvaluation : PolicyInput → Prop
  | .executeAction _ _ _ _ => False
  | _ => True

/-- The actions that `execute_pending` gets through are different, and none of them has been
carried out since it was last recommended. -/
def FreshQueue (logged : Logged) : PolicyInput → Prop
  | .executePending answers =>
      logged.policy.manager.isSome = true → logged.policy.dryRun = false →
        (allowedActions logged.policy.pendingActions answers).Nodup ∧
        ∀ action ∈ allowedActions logged.policy.pendingActions answers,
          ¬ Spent logged.log action
  | _ => True

section

variable {policy : StoragePolicy} {key : Bytes} {log : List PolicyEvent}

theorem atMostOnce_append_of_none {events : List PolicyEvent} (once : AtMostOnce log)
    (none : performedActions events = []) : AtMostOnce (log ++ events) := by
  apply once.append
  · rw [none]
    exact List.nodup_nil
  · rw [none]
    exact fun _ mem => absurd mem List.not_mem_nil

theorem performedActions_evaluate {readings : Readings} {answer : Result StoredObjectMetadata} :
    performedActions (policy.evaluate key readings answer).events = [] := by
  rcases evaluate_cases policy key readings answer with ⟨failure, failed⟩ | ⟨found, -, evaluated⟩
  · rw [failed]
    rfl
  · rw [evaluated]
    rfl

theorem performedActions_evaluateListed {clock : Bytes → Readings}
    {listing : Result ListStorageResult} :
    performedActions (policy.evaluateListed clock listing).events = [] := by
  unfold evaluateListed
  split
  · rfl
  · split
    · rfl
    · dsimp only
      rw [performedActions, List.filterMap_map]
      exact List.filterMap_eq_nil_iff.mpr fun _ _ => rfl

theorem atMostOnce_execute {readings : Readings} {answer : Result StoredObjectMetadata}
    {answers : ActionAnswers} (once : AtMostOnce log) :
    AtMostOnce (log ++ (policy.execute key readings answer answers).events) := by
  unfold execute
  rcases evaluate_cases policy key readings answer with
    ⟨failure, failed⟩ | ⟨found, same, evaluated⟩
  · rw [failed]
    exact atMostOnce_append_of_none once rfl
  · rw [evaluated]
    dsimp only
    have first : AtMostOnce (log ++ [.evaluated (policy.evaluateObject readings found)]) :=
      atMostOnce_append_of_none once rfl
    split
    · exact first
    · rename_i moves
      split
      · exact first
      · rename_i allowed
        have live : (policy.evaluateObject readings found).Live :=
          ⟨moves, Bool.not_eq_true _ ▸ allowed⟩
        have wanted : (policy.evaluateObject readings found).recommendation =
            ⟨key, (policy.evaluateObject readings found).targetTier,
              (policy.evaluateObject readings found).recommendedAction⟩ := by
          rw [PolicyEvaluationResult.recommendation, key_evaluateObject, same]
        dsimp only
        rw [← List.append_assoc]
        rcases performedActions_executeAction (policy.evaluateQueue readings found).2 key
          (policy.evaluateObject readings found).targetTier
          (policy.evaluateObject readings found).recommendedAction answers with none | ⟨one, -⟩
        · exact atMostOnce_append_of_none first none
        · apply first.append
          · rw [one]
            exact List.nodup_singleton _
          · rw [one]
            intro action mem
            rw [List.mem_singleton.mp mem, ← wanted]
            exact not_spent_of_recommended live rfl

theorem atMostOnce_executePending {answers : Nat → ActionAnswers} (once : AtMostOnce log)
    (fresh : FreshQueue ⟨policy, log⟩ (.executePending answers)) :
    AtMostOnce (log ++ (policy.executePending answers).events) := by
  unfold executePending
  split
  · exact atMostOnce_append_of_none once rfl
  · rename_i manager attached
    dsimp only
    cases dry : policy.dryRun with
    | true => exact atMostOnce_append_of_none once (executeActions_of_dryRun rfl)
    | false =>
        obtain ⟨distinct, unspent⟩ := fresh (Option.isSome_iff_exists.mpr ⟨_, attached⟩) dry
        apply once.append (sublist_executeActions.nodup distinct)
        exact fun action mem => unspent action (sublist_executeActions.subset mem)

end

variable {sortRules : List TieringRule → List TieringRule}

theorem atMostOnce_loggedStep {logged : Logged} {input : PolicyInput}
    (once : AtMostOnce logged.log) (evaluation : ByEvaluation input)
    (fresh : FreshQueue logged input) :
    AtMostOnce (loggedStep sortRules logged input).2.log := by
  cases input with
  | executeAction target targetTier action answers => contradiction
  | execute target readings metadata answers => exact atMostOnce_execute once
  | executePending answers => exact atMostOnce_executePending once fresh
  | evaluate target readings metadata =>
      exact atMostOnce_append_of_none once performedActions_evaluate
  | evaluateAll clock listing =>
      exact atMostOnce_append_of_none once performedActions_evaluateListed
  | evaluatePrefix clock listing =>
      exact atMostOnce_append_of_none once performedActions_evaluateListed
  | _ => exact atMostOnce_append_of_none once rfl

namespace QueueSample

def key : Bytes := [0x6b]

/-- A local backend with the object. -/
def manager : StorageManager where
  config := ⟨false, false, false⟩
  primaryBackend := ⟨.localStorage, fun other => if other = key then some [1, 2, 3] else none⟩
  secondaryBackend := none
  initialized := true
  stats := ⟨0, 0, 0, 0, 0, 0, 0, 0, 0, 0, 0⟩

/-- A policy whose size tiering moves every object to the warm tier. -/
def policy : StoragePolicy where
  manager := some manager
  ageConfig := none
  sizeConfig := some ⟨0, 100⟩
  rules := []
  retention := ⟨0, false, false, []⟩
  dryRun := false
  stats := ⟨0, 0, 0, 0, 0, 0, 0⟩
  pendingActions := []

/-- What the local backend answers about the object. -/
def metadata : Result StoredObjectMetadata :=
  .ok ⟨key, 3, 0, none, .localStorage, .hot, none, none, [], 0, none⟩

/-- Backends that answer. -/
def answers : ActionAnswers :=
  ⟨metadata, ⟨none, none⟩, ⟨none, none⟩⟩

/-- A clock that stands still. -/
def readings : Readings :=
  ⟨fun _ => 0, 0, 0⟩

/-- What the evaluations recommend. -/
def warm : Recommendation :=
  ⟨key, .warm, .move⟩

/-- The evaluation of the object. -/
def result : PolicyEvaluationResult :=
  ⟨key, [], .move, .hot, .warm, Text.ascii "Size exceeds hot tier threshold", false⟩

/-- `execute`, and then the queue. -/
def executed : List PolicyInput :=
  [.execute key readings metadata answers, .executePending fun _ => answers]

/-- Two evaluations, and then the queue. -/
def evaluatedTwice : List PolicyInput :=
  [.evaluate key readings metadata, .evaluate key readings metadata,
    .executePending fun _ => answers]

/-- One evaluation, and then the queue. -/
def evaluatedOnce : List PolicyInput :=
  [.evaluate key readings metadata, .executePending fun _ => answers]

end QueueSample

end StoragePolicy

end FileTrans.Server
