import FileTrans.Encryption.KeyThreads

/-!
# Keys and their metadata

The key storage and the cache of metadata are written one after the other, the
storage first.  They agree again when all operations have returned, and no
operation brings back a key that was deleted after it had started, as long as
a key is not stored and deleted at the same time.
-/

namespace FileTrans.Encryption

open FileTrans.Core FileTrans.Transition

namespace SharedManager

variable {Thread : Type}

/-- An operation is between the key and its metadata. -/
def Writing (shared : SharedManager Thread) (keyId : KeyId) : Prop :=
  ∃ thread activity, shared.activity thread = some activity ∧ activity.stage.Writes keyId

/-- An operation is between the removal of the key and that of its metadata. -/
def Erasing (shared : SharedManager Thread) (keyId : KeyId) : Prop :=
  ∃ thread activity, shared.activity thread = some activity ∧ activity.stage.Erases keyId

/-- A step is in order.  A key is not stored while its metadata is about to be erased, nor by an
operation that had started before one that has deleted it; it is not removed while its metadata
is about to be written; and no history is written by an operation that had started before the
key was deleted. -/
def Allows (shared : SharedManager Thread) (activity : KeyActivity) : Prop :=
  match activity.stage.effect shared.manager with
  | .store keyId _ =>
      shared.record.deleted keyId ≤ activity.started ∧ ¬ shared.Erasing keyId
  | .remove keyId => ¬ shared.Writing keyId
  | .push keyId _ => shared.record.deleted keyId ≤ activity.started
  | .nothing | .cache _ _ | .erase _ => True

/-- Every step of an operation is in order. -/
def Orderly (shared : SharedManager Thread) : KeyInput Thread → Prop
  | .start _ _ => True
  | .advance thread _ _ =>
      ∀ activity, shared.activity thread = some activity → shared.Allows activity

/-- No operation is in progress. -/
def Quiet (shared : SharedManager Thread) : Prop :=
  ∀ thread, shared.activity thread = none

/-- What there is of a key was written by operations that have started after all those that
have deleted it. -/
structure StaysDeleted (shared : SharedManager Thread) (keyId : KeyId) : Prop where
  stored : (shared.manager.keys keyId).isSome = true →
    shared.record.deleted keyId ≤ shared.record.stored keyId
  cached : (shared.manager.metadataCache keyId).isSome = true →
    shared.record.deleted keyId ≤ shared.record.cached keyId
  pushed : shared.manager.keyVersions keyId ≠ [] →
    shared.record.deleted keyId ≤ shared.record.pushed keyId

end SharedManager

/-- The storage has a key exactly if the cache has metadata of it. -/
def KeyManager.Consistent (manager : KeyManager) : Prop :=
  ∀ keyId, (manager.keys keyId).isSome = true ↔ (manager.metadataCache keyId).isSome = true

namespace SharedManager

variable {Thread : Type}

/-- Key and metadata agree up to the operations that are in between. -/
structure Sound (shared : SharedManager Thread) (keyId : KeyId) : Prop where
  writing : ∀ thread activity, shared.activity thread = some activity →
    activity.stage.Writes keyId → (shared.manager.keys keyId).isSome = true ∧
      shared.record.deleted keyId ≤ activity.started
  erasing : shared.Erasing keyId → shared.manager.keys keyId = none
  cached : (shared.manager.metadataCache keyId).isSome = true →
    (shared.manager.keys keyId).isSome = true ∨ shared.Erasing keyId
  stored : (shared.manager.keys keyId).isSome = true →
    (shared.manager.metadataCache keyId).isSome = true ∨ shared.Writing keyId
  deleted : shared.StaysDeleted keyId

theorem Sound.consistent {shared : SharedManager Thread} (sound : ∀ keyId, shared.Sound keyId)
    (quiet : shared.Quiet) : shared.manager.Consistent := by
  intro keyId
  constructor
  · intro stored
    refine ((sound keyId).stored stored).resolve_right ?_
    rintro ⟨thread, activity, active, -⟩
    rw [quiet thread] at active
    contradiction
  · intro cached
    refine ((sound keyId).cached cached).resolve_right ?_
    rintro ⟨thread, activity, active, -⟩
    rw [quiet thread] at active
    contradiction

theorem sound_initial {manager : KeyManager} (consistent : manager.Consistent) (keyId : KeyId) :
    (initial manager : SharedManager Thread).Sound keyId where
  writing thread activity active := by
    have idle : none = some activity := active
    contradiction
  erasing erasing := by
    obtain ⟨thread, activity, active, -⟩ := erasing
    have idle : none = some activity := active
    contradiction
  cached cached := Or.inl ((consistent keyId).mpr cached)
  stored stored := Or.inl ((consistent keyId).mp stored)
  deleted := ⟨fun _ => Nat.le_refl 0, fun _ => Nat.le_refl 0, fun _ => Nat.le_refl 0⟩

/-! ## Operations in between -/

section

variable [DecidableEq Thread] {shared : SharedManager Thread} {thread : Thread}
  {activity : KeyActivity} {random : RandomSource} {now : Time} {keyId : KeyId}

variable {other : Thread} {later : KeyActivity} {operation : KeyOperation}

theorem activity_advance {environment : KeyEnvironment}
    (active : (shared.advance thread environment activity).activity other = some later) :
    (other ≠ thread ∧ shared.activity other = some later) ∨
      (KeyManager.stageStep environment shared.manager activity.stage).1.stage =
          some later.stage ∧ later.started = activity.started := by
  by_cases same : other = thread
  · subst same
    right
    have updated : (shared.advance other environment activity).activity other =
        (KeyManager.stageStep environment shared.manager activity.stage).1.stage.map
          fun stage => ⟨stage, activity.started⟩ := Function.update_self _ _ _
    obtain ⟨stage, goes, rfl⟩ := Option.map_eq_some_iff.mp (updated.symm.trans active)
    exact ⟨goes, rfl⟩
  · left
    have kept : (shared.advance thread environment activity).activity other =
        shared.activity other := Function.update_of_ne same _ _
    exact ⟨same, kept.symm.trans active⟩

theorem writes_advance (active : shared.activity thread = some activity)
    (goes : (shared.advance thread (.working random now) activity).activity other = some later)
    (writes : later.stage.Writes keyId) :
    (∃ key, activity.stage.effect shared.manager = .store keyId key) ∧
        later.started = activity.started ∨
      ∃ writer before, shared.activity writer = some before ∧ before.stage.Writes keyId ∧
        later.started = before.started := by
  rcases activity_advance goes with ⟨-, kept⟩ | ⟨next, started⟩
  · exact Or.inr ⟨other, later, kept, writes, rfl⟩
  · rcases (window_of_stageStep next).1 writes with stores | wrote
    · exact Or.inl ⟨stores, started⟩
    · exact Or.inr ⟨thread, activity, active, wrote, started⟩

theorem erasing_of_advance
    (erasing : (shared.advance thread (.working random now) activity).Erasing keyId) :
    activity.stage.effect shared.manager = .remove keyId ∨ shared.Erasing keyId := by
  obtain ⟨other, later, goes, erases⟩ := erasing
  rcases activity_advance goes with ⟨-, kept⟩ | ⟨next, -⟩
  · exact Or.inr ⟨other, later, kept, erases⟩
  · exact Or.inl ((window_of_stageStep next).2 erases)

theorem Sound.writing_of_advance (sound : shared.Sound keyId)
    (active : shared.activity thread = some activity)
    (other : ∀ key, activity.stage.effect shared.manager ≠ .store keyId key) {writer : Thread}
    (goes : (shared.advance thread (.working random now) activity).activity writer = some later)
    (writes : later.stage.Writes keyId) :
    shared.Writing keyId ∧ (shared.manager.keys keyId).isSome = true ∧
      shared.record.deleted keyId ≤ later.started := by
  rcases writes_advance active goes writes with
    ⟨⟨key, stores⟩, -⟩ | ⟨first, before, was, wrote, same⟩
  · exact absurd stores (other key)
  · rw [same]
    exact ⟨⟨first, before, was, wrote⟩, sound.writing first before was wrote⟩

theorem Sound.missing_of_advance (sound : shared.Sound keyId)
    (other : activity.stage.effect shared.manager ≠ .remove keyId)
    (erasing : (shared.advance thread (.working random now) activity).Erasing keyId) :
    shared.manager.keys keyId = none :=
  sound.erasing ((erasing_of_advance erasing).resolve_left other)

theorem writing_advance (active : shared.activity thread = some activity)
    (writing : shared.Writing keyId)
    (other : ∀ metadata, activity.stage.effect shared.manager ≠ .cache keyId metadata) :
    (shared.advance thread (.working random now) activity).Writing keyId := by
  obtain ⟨writer, before, wrote, writes⟩ := writing
  have different : writer ≠ thread := by
    rintro rfl
    obtain rfl := Option.some.inj (active.symm.trans wrote)
    obtain ⟨metadata, caches⟩ := @effect_of_writes shared.manager keyId _ writes
    exact other metadata caches
  exact ⟨writer, before, (Function.update_of_ne different _ _).trans wrote, writes⟩

theorem erasing_advance (active : shared.activity thread = some activity)
    (erasing : shared.Erasing keyId)
    (other : activity.stage.effect shared.manager ≠ .erase keyId) :
    (shared.advance thread (.working random now) activity).Erasing keyId := by
  obtain ⟨eraser, before, erased, erases⟩ := erasing
  have different : eraser ≠ thread := by
    rintro rfl
    obtain rfl := Option.some.inj (active.symm.trans erased)
    exact other (effect_of_erases erases)
  exact ⟨eraser, before, (Function.update_of_ne different _ _).trans erased, erases⟩

theorem activity_advance_self {environment : KeyEnvironment} {next : KeyStage}
    (goes : (KeyManager.stageStep environment shared.manager activity.stage).1.stage =
      some next) :
    (shared.advance thread environment activity).activity thread =
      some ⟨next, activity.started⟩ := by
  refine (Function.update_self _ _ _).trans ?_
  rw [goes]
  rfl

theorem writing_of_store {key : Bytes}
    (stores : activity.stage.effect shared.manager = .store keyId key) :
    (shared.advance thread (.working random now) activity).Writing keyId := by
  obtain ⟨next, goes, writes⟩ := @writes_of_store _ random now _ _ _ stores
  exact ⟨thread, ⟨next, activity.started⟩, activity_advance_self goes, writes⟩

theorem erasing_of_remove (removes : activity.stage.effect shared.manager = .remove keyId) :
    (shared.advance thread (.working random now) activity).Erasing keyId := by
  obtain ⟨next, goes, erases⟩ := @erases_of_remove _ random now _ _ removes
  exact ⟨thread, ⟨next, activity.started⟩, activity_advance_self goes, erases⟩

/-! ## Keys that a step touches -/

theorem apply_of_ne {effect : KeyEffect} (manager : KeyManager) (record : KeyRecord)
    (started : Nat) (other : effect.keyId ≠ some keyId) :
    (effect.apply manager).keys keyId = manager.keys keyId ∧
      (effect.apply manager).metadataCache keyId = manager.metadataCache keyId ∧
      (effect.apply manager).keyVersions keyId = manager.keyVersions keyId ∧
      (effect.note record started).deleted keyId = record.deleted keyId ∧
      (effect.note record started).stored keyId = record.stored keyId ∧
      (effect.note record started).cached keyId = record.cached keyId ∧
      (effect.note record started).pushed keyId = record.pushed keyId := by
  have different : ∀ touched, effect.keyId = some touched → keyId ≠ touched := by
    rintro touched same rfl
    exact other same
  cases effect with
  | nothing => exact ⟨rfl, rfl, rfl, rfl, rfl, rfl, rfl⟩
  | store touched key =>
      have apart := different touched rfl
      exact ⟨Function.update_of_ne apart _ _, rfl, rfl, rfl, Function.update_of_ne apart _ _, rfl,
        rfl⟩
  | cache touched metadata =>
      have apart := different touched rfl
      exact ⟨rfl, Function.update_of_ne apart _ _, rfl, rfl, rfl, Function.update_of_ne apart _ _,
        rfl⟩
  | remove touched =>
      have apart := different touched rfl
      exact ⟨Function.update_of_ne apart _ _, rfl, rfl, rfl, rfl, rfl, rfl⟩
  | erase touched =>
      have apart := different touched rfl
      exact ⟨rfl, Function.update_of_ne apart _ _, Function.update_of_ne apart _ _,
        Function.update_of_ne apart _ _, rfl, rfl, rfl⟩
  | push touched oldKey =>
      have apart := different touched rfl
      exact ⟨rfl, rfl, Function.update_of_ne apart _ _, rfl, rfl, rfl,
        Function.update_of_ne apart _ _⟩

theorem advance_manager :
    (shared.advance thread (.working random now) activity).manager =
      (activity.stage.effect shared.manager).apply shared.manager :=
  stageStep_manager

theorem advance_record :
    (shared.advance thread (.working random now) activity).record =
      (activity.stage.effect shared.manager).note shared.record activity.started :=
  rfl

theorem sound_advance_of_ne (sound : shared.Sound keyId)
    (active : shared.activity thread = some activity)
    (other : (activity.stage.effect shared.manager).keyId ≠ some keyId) :
    (shared.advance thread (.working random now) activity).Sound keyId := by
  obtain ⟨keys, cache, versions, deleted, stored, cached, pushed⟩ :=
    apply_of_ne shared.manager shared.record activity.started other
  have notCache : ∀ metadata, activity.stage.effect shared.manager ≠ .cache keyId metadata := by
    intro metadata same
    exact other (congrArg KeyEffect.keyId same)
  have notErase : activity.stage.effect shared.manager ≠ .erase keyId := by
    intro same
    exact other (congrArg KeyEffect.keyId same)
  have notStore : ∀ key, activity.stage.effect shared.manager ≠ .store keyId key := by
    intro key same
    exact other (congrArg KeyEffect.keyId same)
  have notRemove : activity.stage.effect shared.manager ≠ .remove keyId := by
    intro same
    exact other (congrArg KeyEffect.keyId same)
  constructor
  · intro writer later goes writes
    rw [advance_manager, advance_record, keys, deleted]
    exact (sound.writing_of_advance active notStore goes writes).2
  · intro erasing
    rw [advance_manager, keys]
    exact sound.missing_of_advance notRemove erasing
  · rw [advance_manager, keys, cache]
    intro present
    exact (sound.cached present).imp_right fun erasing => erasing_advance active erasing notErase
  · rw [advance_manager, keys, cache]
    intro present
    exact (sound.stored present).imp_right fun writing => writing_advance active writing notCache
  · constructor
    · rw [advance_manager, advance_record, keys, deleted, stored]
      exact sound.deleted.stored
    · rw [advance_manager, advance_record, cache, deleted, cached]
      exact sound.deleted.cached
    · rw [advance_manager, advance_record, versions, deleted, pushed]
      exact sound.deleted.pushed

theorem sound_advance_store {key : Bytes} (sound : shared.Sound keyId)
    (active : shared.activity thread = some activity) (allowed : shared.Allows activity)
    (stores : activity.stage.effect shared.manager = .store keyId key) :
    (shared.advance thread (.working random now) activity).Sound keyId := by
  unfold Allows at allowed
  rw [stores] at allowed
  obtain ⟨later, free⟩ : shared.record.deleted keyId ≤ activity.started ∧
    ¬ shared.Erasing keyId := allowed
  have keys : (shared.advance thread (.working random now) activity).manager.keys keyId =
      some key := by
    rw [advance_manager, stores]
    exact Function.update_self _ _ _
  have record : (shared.advance thread (.working random now) activity).record =
      { shared.record with
        stored := Function.update shared.record.stored keyId activity.started } := by
    rw [advance_record, stores]
    rfl
  have present : (some key).isSome = true := rfl
  constructor
  · intro other after goes writes
    rw [keys, record]
    refine ⟨rfl, ?_⟩
    rcases writes_advance active goes writes with ⟨-, same⟩ | ⟨writer, before, was, wrote, same⟩
    · rw [same]
      exact later
    · rw [same]
      exact (sound.writing writer before was wrote).2
  · intro erasing
    rcases erasing_of_advance erasing with removes | erasing
    · rw [stores] at removes
      contradiction
    · exact absurd erasing free
  · rw [keys]
    exact fun _ => Or.inl rfl
  · exact fun _ => Or.inr (writing_of_store stores)
  · constructor
    · rw [record]
      intro _
      dsimp only
      rw [Function.update_self]
      exact later
    · rw [advance_manager, stores, record]
      exact sound.deleted.cached
    · rw [advance_manager, stores, record]
      exact sound.deleted.pushed

theorem sound_advance_cache {metadata : KeyMetadata} (sound : shared.Sound keyId)
    (active : shared.activity thread = some activity)
    (caches : activity.stage.effect shared.manager = .cache keyId metadata) :
    (shared.advance thread (.working random now) activity).Sound keyId := by
  obtain ⟨present, later⟩ := sound.writing thread activity active (writes_of_cache caches)
  have keys : (shared.advance thread (.working random now) activity).manager.keys keyId =
      shared.manager.keys keyId := by
    rw [advance_manager, caches]
    rfl
  have cache : (shared.advance thread (.working random now) activity).manager.metadataCache
      keyId = some metadata := by
    rw [advance_manager, caches]
    exact Function.update_self _ _ _
  have record : (shared.advance thread (.working random now) activity).record =
      { shared.record with
        cached := Function.update shared.record.cached keyId activity.started } := by
    rw [advance_record, caches]
    rfl
  have notStore : ∀ key, activity.stage.effect shared.manager ≠ .store keyId key := by
    rw [caches]
    intro key same
    contradiction
  have notRemove : activity.stage.effect shared.manager ≠ .remove keyId := by
    rw [caches]
    intro same
    contradiction
  constructor
  · intro writer later goes writes
    rw [keys, record]
    exact (sound.writing_of_advance active notStore goes writes).2
  · intro erasing
    rw [keys]
    exact sound.missing_of_advance notRemove erasing
  · rw [keys]
    exact fun _ => Or.inl present
  · rw [cache]
    exact fun _ => Or.inl rfl
  · constructor
    · rw [keys, record]
      exact sound.deleted.stored
    · rw [record]
      intro _
      dsimp only
      rw [Function.update_self]
      exact later
    · rw [advance_manager, caches, record]
      exact sound.deleted.pushed

theorem sound_advance_remove (sound : shared.Sound keyId)
    (active : shared.activity thread = some activity) (allowed : shared.Allows activity)
    (removes : activity.stage.effect shared.manager = .remove keyId) :
    (shared.advance thread (.working random now) activity).Sound keyId := by
  unfold Allows at allowed
  rw [removes] at allowed
  have free : ¬ shared.Writing keyId := allowed
  have keys : (shared.advance thread (.working random now) activity).manager.keys keyId =
      none := by
    rw [advance_manager, removes]
    exact Function.update_self _ _ _
  have record : (shared.advance thread (.working random now) activity).record =
      shared.record := by
    rw [advance_record, removes]
    rfl
  have notStore : ∀ key, activity.stage.effect shared.manager ≠ .store keyId key := by
    rw [removes]
    intro key same
    contradiction
  constructor
  · intro writer later goes writes
    exact absurd (sound.writing_of_advance active notStore goes writes).1 free
  · exact fun _ => keys
  · exact fun _ => Or.inr (erasing_of_remove removes)
  · rw [keys]
    exact fun present => absurd present Bool.false_ne_true
  · constructor
    · rw [keys]
      exact fun present => absurd present Bool.false_ne_true
    · rw [advance_manager, removes, record]
      exact sound.deleted.cached
    · rw [advance_manager, removes, record]
      exact sound.deleted.pushed

theorem sound_advance_erase (sound : shared.Sound keyId)
    (active : shared.activity thread = some activity)
    (erases : activity.stage.effect shared.manager = .erase keyId) :
    (shared.advance thread (.working random now) activity).Sound keyId := by
  have gone : shared.manager.keys keyId = none :=
    sound.erasing ⟨thread, activity, active, erases_of_erase erases⟩
  have keys : (shared.advance thread (.working random now) activity).manager.keys keyId =
      none := by
    rw [advance_manager, erases]
    exact gone
  have cache : (shared.advance thread (.working random now) activity).manager.metadataCache
      keyId = none := by
    rw [advance_manager, erases]
    exact Function.update_self _ _ _
  have versions : (shared.advance thread (.working random now) activity).manager.keyVersions
      keyId = [] := by
    rw [advance_manager, erases]
    exact Function.update_self _ _ _
  have nothing : ¬ (none : Option Bytes).isSome = true := Bool.false_ne_true
  have notStore : ∀ key, activity.stage.effect shared.manager ≠ .store keyId key := by
    rw [erases]
    intro key same
    contradiction
  constructor
  · intro writer later goes writes
    have present := (sound.writing_of_advance active notStore goes writes).2.1
    rw [gone] at present
    contradiction
  · exact fun _ => keys
  · rw [cache]
    exact fun present => absurd present Bool.false_ne_true
  · rw [keys]
    exact fun present => absurd present nothing
  · constructor
    · rw [keys]
      exact fun present => absurd present nothing
    · rw [cache]
      exact fun present => absurd present Bool.false_ne_true
    · rw [versions]
      exact fun filled => absurd rfl filled

theorem sound_advance_push {oldKey : ManagedKey} (sound : shared.Sound keyId)
    (active : shared.activity thread = some activity) (allowed : shared.Allows activity)
    (pushes : activity.stage.effect shared.manager = .push keyId oldKey) :
    (shared.advance thread (.working random now) activity).Sound keyId := by
  unfold Allows at allowed
  rw [pushes] at allowed
  have later : shared.record.deleted keyId ≤ activity.started := allowed
  have notCache : ∀ metadata, activity.stage.effect shared.manager ≠ .cache keyId metadata := by
    rw [pushes]
    intro metadata same
    contradiction
  have notErase : activity.stage.effect shared.manager ≠ .erase keyId := by
    rw [pushes]
    intro same
    contradiction
  have manager : (shared.advance thread (.working random now) activity).manager =
      shared.manager.pushVersion keyId oldKey := by
    rw [advance_manager, pushes]
    rfl
  have record : (shared.advance thread (.working random now) activity).record =
      { shared.record with
        pushed := Function.update shared.record.pushed keyId activity.started } := by
    rw [advance_record, pushes]
    rfl
  have notStore : ∀ key, activity.stage.effect shared.manager ≠ .store keyId key := by
    rw [pushes]
    intro key same
    contradiction
  have notRemove : activity.stage.effect shared.manager ≠ .remove keyId := by
    rw [pushes]
    intro same
    contradiction
  constructor
  · intro writer later goes writes
    rw [manager, record]
    exact (sound.writing_of_advance active notStore goes writes).2
  · intro erasing
    rw [manager]
    exact sound.missing_of_advance notRemove erasing
  · rw [manager]
    intro present
    exact (sound.cached present).imp_right fun erasing => erasing_advance active erasing notErase
  · rw [manager]
    intro present
    exact (sound.stored present).imp_right fun writing => writing_advance active writing notCache
  · constructor
    · rw [manager, record]
      exact sound.deleted.stored
    · rw [manager, record]
      exact sound.deleted.cached
    · rw [record]
      intro _
      dsimp only
      rw [Function.update_self]
      exact later

theorem sound_advance (sound : shared.Sound keyId)
    (active : shared.activity thread = some activity) (allowed : shared.Allows activity) :
    (shared.advance thread (.working random now) activity).Sound keyId := by
  by_cases touches : (activity.stage.effect shared.manager).keyId = some keyId
  · cases does : activity.stage.effect shared.manager with
    | nothing =>
        rw [does] at touches
        contradiction
    | store touched key =>
        rw [does] at touches
        obtain rfl := Option.some.inj touches
        exact sound_advance_store sound active allowed does
    | cache touched metadata =>
        rw [does] at touches
        obtain rfl := Option.some.inj touches
        exact sound_advance_cache sound active does
    | remove touched =>
        rw [does] at touches
        obtain rfl := Option.some.inj touches
        exact sound_advance_remove sound active allowed does
    | erase touched =>
        rw [does] at touches
        obtain rfl := Option.some.inj touches
        exact sound_advance_erase sound active does
    | push touched oldKey =>
        rw [does] at touches
        obtain rfl := Option.some.inj touches
        exact sound_advance_push sound active allowed does
  · exact sound_advance_of_ne sound active touches

omit [DecidableEq Thread] in
theorem not_window_first (operation : KeyOperation) :
    ¬ operation.first.Writes keyId ∧ ¬ operation.first.Erases keyId := by
  cases operation <;> exact ⟨False.elim, False.elim⟩

theorem activity_start (active : (shared.start thread operation).activity other = some later) :
    shared.activity other = some later ∨ later.stage = operation.first := by
  by_cases same : other = thread
  · subst same
    have updated : (shared.start other operation).activity other =
        some ⟨operation.first, shared.clock⟩ := Function.update_self _ _ _
    obtain rfl := Option.some.inj (updated.symm.trans active)
    exact Or.inr rfl
  · exact Or.inl ((Function.update_of_ne same _ _).symm.trans active)

theorem activity_start_of_some {before : KeyActivity} (idle : shared.activity thread = none)
    (active : shared.activity other = some before) :
    (shared.start thread operation).activity other = some before := by
  have different : other ≠ thread := by
    rintro rfl
    rw [idle] at active
    contradiction
  exact (Function.update_of_ne different _ _).trans active

theorem sound_start (sound : shared.Sound keyId) (idle : shared.activity thread = none) :
    (shared.start thread operation).Sound keyId := by
  obtain ⟨notWrites, notErases⟩ := @not_window_first keyId operation
  constructor
  · intro other later active writes
    rcases activity_start active with was | first
    · exact sound.writing other later was writes
    · rw [first] at writes
      exact absurd writes notWrites
  · rintro ⟨other, later, active, erases⟩
    rcases activity_start active with was | first
    · exact sound.erasing ⟨other, later, was, erases⟩
    · rw [first] at erases
      exact absurd erases notErases
  · intro present
    refine (sound.cached present).imp_right ?_
    rintro ⟨other, before, was, erases⟩
    exact ⟨other, before, activity_start_of_some idle was, erases⟩
  · intro present
    refine (sound.stored present).imp_right ?_
    rintro ⟨other, before, was, writes⟩
    exact ⟨other, before, activity_start_of_some idle was, writes⟩
  · exact ⟨sound.deleted.stored, sound.deleted.cached, sound.deleted.pushed⟩

theorem sound_step (sound : shared.Sound keyId) (input : KeyInput Thread)
    (orderly : shared.Orderly input) : (step shared input).2.Sound keyId := by
  cases input with
  | start thread operation =>
      unfold step
      dsimp only
      cases idle : shared.activity thread with
      | some activity => exact sound
      | none => exact sound_start sound idle
  | advance thread random now =>
      unfold step
      dsimp only
      cases active : shared.activity thread with
      | some activity => exact sound_advance sound active (orderly activity active)
      | none => exact sound

end

/-- In every run of orderly steps, in every state: where no operation is in progress the storage
has a key exactly if the cache has metadata of it, and a key that was deleted is there only if it
was written by operations that have started later. -/
theorem consistent_of_orderly [DecidableEq Thread] {manager : KeyManager}
    (consistent : manager.Consistent) (inputs : List (KeyInput Thread))
    (orderly : Guarded step Orderly (initial manager) inputs) :
    ∀ before after, inputs = before ++ after →
      ((final step (initial manager) before).Quiet →
          (final step (initial manager) before).manager.Consistent) ∧
        ∀ keyId, (final step (initial manager) before).StaysDeleted keyId := by
  rintro before after rfl
  have sound : ∀ keyId, (final step (initial manager) before).Sound keyId := by
    intro keyId
    refine orderly.firstPart.invariant (·.Sound keyId) ?_ (sound_initial consistent keyId)
    intro shared input sound allowed
    exact sound_step sound input allowed
  exact ⟨Sound.consistent sound, fun keyId => (sound keyId).deleted⟩

/-! ## Operations that overlap -/

namespace ThreadSample

def key : ManagedKey :=
  ⟨[9], .create [1] none 0, .aes256Gcm⟩

/-- A manager without keys, and one with the key. -/
def empty : KeyManager where
  keys := fun _ => none
  metadataCache := fun _ => none
  keyVersions := fun _ => []
  rotationPolicy := ⟨3⟩

def filled : KeyManager where
  keys := Function.update (fun _ => none) [1] (some [9])
  metadataCache := Function.update (fun _ => none) [1] (some key.metadata)
  keyVersions := fun _ => []
  rotationPolicy := ⟨3⟩

/-- The next step of a thread. -/
def next (thread : Bool) : KeyInput Bool :=
  .advance thread ConfiguredEngine.SizeSample.random 0

/-- The key is stored while another thread reads it, and then deleted. -/
def orderly : List (KeyInput Bool) :=
  [.start false (.storeKey key), .start true (.getKey [1]), next false, next true, next false,
    next true, .start true (.deleteKey [1]), next true, next true]

/-- The key is deleted between the storage and the metadata. -/
def deletedWhileStored : List (KeyInput Bool) :=
  [.start false (.storeKey key), next false, .start true (.deleteKey [1]), next true, next true,
    next false]

/-- The key is stored between the removal and that of the metadata. -/
def storedWhileDeleted : List (KeyInput Bool) :=
  [.start true (.deleteKey [1]), next true, .start false (.storeKey key), next false, next false,
    next true]

/-- The key is deleted before a rotation that has started stores the next one. -/
def rotatedAfterDeletion : List (KeyInput Bool) :=
  [.start false (.rotateKey [1]), next false, next false, .start true (.deleteKey [1]), next true,
    next true, next false, next false, next false, next false, next false]

/-- The state after a run. -/
def reached (manager : KeyManager) (inputs : List (KeyInput Bool)) : SharedManager Bool :=
  final step (initial manager) inputs

theorem consistent_empty : empty.Consistent :=
  fun _ => Iff.rfl

theorem consistent_filled : filled.Consistent := by
  intro keyId
  by_cases same : keyId = [1]
  · subst same
    exact Iff.rfl
  · unfold filled
    dsimp only
    rw [Function.update_of_ne same, Function.update_of_ne same]
    rfl

theorem orderly_next {shared : SharedManager Bool} {thread : Bool} {activity : KeyActivity}
    (active : shared.activity thread = some activity) (allowed : shared.Allows activity) :
    shared.Orderly (next thread) := by
  intro other same
  obtain rfl := Option.some.inj (active.symm.trans same)
  exact allowed

theorem orderly_orderly : Guarded step Orderly (initial empty) orderly := by
  refine ⟨trivial, trivial, orderly_next rfl ?_, orderly_next rfl trivial,
    orderly_next rfl trivial, orderly_next rfl trivial, trivial, orderly_next rfl ?_,
    orderly_next rfl trivial, trivial⟩
  · refine ⟨Nat.zero_le _, ?_⟩
    rintro ⟨thread, other, running, erases⟩
    cases thread <;> obtain rfl := Option.some.inj running <;> exact erases
  · rintro ⟨thread, other, running, writes⟩
    cases thread
    · contradiction
    · obtain rfl := Option.some.inj running
      exact writes

end ThreadSample

open ThreadSample in
theorem consistent_sample :
    (reached empty orderly).manager.Consistent ∧ (reached empty orderly).StaysDeleted [1] := by
  have sound := consistent_of_orderly consistent_empty orderly orderly_orderly orderly []
    (List.append_nil _).symm
  refine ⟨sound.1 ?_, sound.2 [1]⟩
  intro thread
  cases thread <;> rfl

open ThreadSample in
/-- Metadata without a key, a key without metadata, and a key that is back after it was
deleted. -/
theorem overlaps_break :
    empty.Consistent ∧ filled.Consistent ∧
    (reached empty deletedWhileStored).Quiet ∧
    ¬ (reached empty deletedWhileStored).manager.Consistent ∧
    (reached filled storedWhileDeleted).Quiet ∧
    ¬ (reached filled storedWhileDeleted).manager.Consistent ∧
    (reached filled rotatedAfterDeletion).Quiet ∧
    (reached filled rotatedAfterDeletion).record.deleted [1] = 2 ∧
    ¬ (reached filled rotatedAfterDeletion).StaysDeleted [1] := by
  refine ⟨consistent_empty, consistent_filled, ?_, ?_, ?_, ?_, ?_, ?_, ?_⟩
  · intro thread
    cases thread <;> rfl
  · intro consistent
    have keys := consistent [1]
    revert keys
    decide
  · intro thread
    cases thread <;> rfl
  · intro consistent
    have keys := consistent [1]
    revert keys
    decide
  · intro thread
    cases thread <;> rfl
  · decide
  · intro stays
    have stored := stays.stored (by decide)
    revert stored
    decide

end SharedManager

end FileTrans.Encryption
