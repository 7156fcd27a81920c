import FileTrans.Cloud.MakingRoom

/-!
# Writers of parts

What the upload streams have in common: a full buffer waits for a slot, and is
then begun as a part on a thread of its own.  A writer says what label, answer
and time a part gets from the rest of the stream, and what the rest is then.

A writer returns unless it waits for a slot that does not exist, or hands on
empty parts; and then only a part that fails can stop it.
-/

namespace FileTrans.Cloud

open FileTrans.Core FileTrans.Transition

/-- How a stream begins its parts. -/
structure PartWriter (σ ι τ : Type) where
  maxConcurrent : Nat
  label : σ → Bytes → ι
  answer : Bytes → σ → Result τ
  finishes : Uploads ι τ → σ → Nat
  next : Bytes → σ → σ

namespace PartWriter

variable {σ ι τ : Type} (writer : PartWriter σ ι τ)

def begin (data : Bytes) (state : Uploads ι τ × σ) : Uploads ι τ × σ :=
  (state.1.add (writer.label state.2 data) (writer.answer data state.2)
    (writer.finishes state.1 state.2), writer.next data state.2)

/-- A full buffer waits for a slot, and is begun as a part. -/
def flush (passes : Nat) : Flush UInt8 (Uploads ι τ × σ) Error := fun data state =>
  match state.1.makeRoom writer.maxConcurrent passes with
  | none => none
  | some (.error failure, uploads) => some (.error failure, (uploads, state.2))
  | some (.ok (), uploads) => some (.ok (), writer.begin data (uploads, state.2))

variable {writer} {passes : Nat} {data : Bytes} {state : Uploads ι τ × σ} {uploads : Uploads ι τ}
  {failure : Error}

theorem flush_of_ok (room : state.1.makeRoom writer.maxConcurrent passes = some (.ok (), uploads)) :
    writer.flush passes data state = some (.ok (), writer.begin data (uploads, state.2)) := by
  rw [flush, room]

theorem flush_of_error
    (failed : state.1.makeRoom writer.maxConcurrent passes = some (.error failure, uploads)) :
    writer.flush passes data state = some (.error failure, (uploads, state.2)) := by
  rw [flush, failed]

theorem flush_of_none (waits : state.1.makeRoom writer.maxConcurrent passes = none) :
    writer.flush passes data state = none := by
  rw [flush, waits]

theorem flush_cases {result : Result Unit} {after : Uploads ι τ × σ}
    (flushed : writer.flush passes data state = some (result, after)) :
    ∃ uploads, state.1.makeRoom writer.maxConcurrent passes = some (result, uploads) ∧
      ((result = .ok () ∧ after = writer.begin data (uploads, state.2)) ∨
        ∃ failure, result = .error failure ∧ after = (uploads, state.2)) := by
  rw [flush] at flushed
  split at flushed
  · contradiction
  · rename_i failure uploads failed
    cases flushed
    exact ⟨uploads, failed, .inr ⟨failure, rfl, rfl⟩⟩
  · rename_i uploads room
    cases flushed
    exact ⟨uploads, room, .inl ⟨rfl, rfl⟩⟩

/-- Some empty part of those that come next fails. -/
def EmptyPartFails (writer : PartWriter σ ι τ) (rest : σ) : Prop :=
  ∃ count failure, writer.answer [] ((writer.next [])^[count] rest) = .error failure

variable {size : Nat} {remaining buffer : Bytes}

theorem settled_flush (writer : PartWriter σ ι τ) : Settled writer.flush := by
  intro passes more data state result le flushed
  obtain ⟨outcome, after⟩ := result
  obtain ⟨uploads, room, ⟨rfl, rfl⟩ | ⟨failure, rfl, rfl⟩⟩ := flush_cases flushed
  · exact flush_of_ok (Uploads.makeRoom_of_le le room)
  · exact flush_of_error (Uploads.makeRoom_of_le le room)

theorem flush_ends (writer : PartWriter σ ι τ) (data : Bytes)
    (ends : ∃ passes, (state.1.waitForSlot writer.maxConcurrent passes).isSome) :
    ∃ passes result after, writer.flush passes data state = some (result, after) := by
  obtain ⟨passes, waited⟩ := ends
  obtain ⟨result, uploads, room⟩ := Uploads.makeRoom_ends waited
  cases result with
  | error failure => exact ⟨passes, _, _, flush_of_error room⟩
  | ok value => exact ⟨passes, _, _, flush_of_ok room⟩

theorem failsBy_begin {time : Nat} (fails : uploads.FailsBy time) (rest : σ) :
    (writer.begin data (uploads, rest)).1.FailsBy time := by
  obtain ⟨upload, mem, failed⟩ := fails
  exact ⟨upload, List.mem_append_left _ mem, failed⟩

theorem not_fails_begin {rest : σ} {value : τ} (sound : ¬ uploads.Fails)
    (answered : writer.answer data rest = .ok value) :
    ¬ (writer.begin data (uploads, rest)).1.Fails := by
  rintro ⟨upload, mem, valid, failure, failed⟩
  rcases List.mem_append.mp mem with mem | mem
  · exact sound ⟨upload, mem, valid, failure, failed⟩
  · rw [List.mem_singleton.mp mem] at failed
    dsimp only at failed
    rw [answered] at failed
    contradiction

theorem fails_begin {rest : σ} (failed : writer.answer data rest = .error failure) :
    (writer.begin data (uploads, rest)).1.Fails :=
  ⟨_, List.mem_append_right _ List.mem_cons_self, rfl, failure, failed⟩

/-! ## Writers that return -/

theorem returns_of_fails (fails : state.1.Fails) :
    Returns size writer.flush remaining buffer state := by
  obtain ⟨time, fails⟩ := fails.failsBy
  apply returns_of_measure (settled_flush writer) (fun state => state.1.FailsBy time)
    (fun state => time - state.1.now) _ fails
  intro data state fails
  obtain ⟨passes, result, after, flushed⟩ := flush_ends writer data
    (Uploads.waitForSlot_ends_of_fails writer.maxConcurrent fails)
  refine ⟨passes, result, after, flushed, fun went => ?_⟩
  subst went
  obtain ⟨uploads, room, ⟨-, rfl⟩ | ⟨failure, failed, -⟩⟩ := flush_cases flushed
  · obtain ⟨still, passed, later⟩ := fails.makeRoom room
    have now : (writer.begin data (uploads, state.2)).1.now = uploads.now := rfl
    exact ⟨failsBy_begin still _, by omega⟩
  · contradiction

theorem returns_of_positive (slot : 0 < writer.maxConcurrent) (positive : 0 < size) :
    Returns size writer.flush remaining buffer state := by
  apply returns_of_flushes (settled_flush writer) positive (fun _ => True) _ trivial
  intro data state _
  obtain ⟨passes, result, after, flushed⟩ := flush_ends writer data
    (Uploads.waitForSlot_ends slot state.1)
  exact ⟨passes, result, after, flushed, fun _ => trivial⟩

theorem returns_of_emptyPartFails (slot : 0 < writer.maxConcurrent)
    (fails : writer.EmptyPartFails state.2) :
    Returns 0 writer.flush remaining [] state := by
  obtain ⟨count, failure, failed⟩ := fails
  induction count generalizing state with
  | zero =>
      obtain ⟨passes, result, after, flushed⟩ := flush_ends writer ([] ++ remaining.take 0)
        (Uploads.waitForSlot_ends slot state.1)
      refine returns_of_flush (settled_flush writer) (Nat.not_lt_zero _) flushed fun went => ?_
      subst went
      obtain ⟨uploads, -, ⟨-, rfl⟩ | ⟨failure, failed, -⟩⟩ := flush_cases flushed
      · exact returns_of_fails (fails_begin failed)
      · contradiction
  | succ count ih =>
      obtain ⟨passes, result, after, flushed⟩ := flush_ends writer ([] ++ remaining.take 0)
        (Uploads.waitForSlot_ends slot state.1)
      refine returns_of_flush (settled_flush writer) (Nat.not_lt_zero _) flushed fun went => ?_
      subst went
      obtain ⟨uploads, -, ⟨-, rfl⟩ | ⟨failure, failed, -⟩⟩ := flush_cases flushed
      · exact ih failed
      · contradiction

/-! ## Writers that go on for ever -/

theorem not_returns_of_no_slot (none_free : writer.maxConcurrent = 0) (sound : ¬ state.1.Fails)
    (nonempty : remaining ≠ []) (fills : size ≤ buffer.length + remaining.length) :
    ¬ Returns size writer.flush remaining buffer state := by
  apply not_returns_of_stuck _ nonempty fills
  intro passes data
  apply flush_of_none
  rw [none_free]
  exact Uploads.makeRoom_zero_eq_none sound

theorem not_returns_of_no_size (sound : ¬ state.1.Fails)
    (answers : ¬ writer.EmptyPartFails state.2) (nonempty : remaining ≠ []) :
    ¬ Returns 0 writer.flush remaining [] state := by
  apply FileTrans.Transition.not_returns_of_no_size
    (fun state => ¬ state.1.Fails ∧ ¬ writer.EmptyPartFails state.2) _ nonempty ⟨sound, answers⟩
  rintro passes state result after ⟨sound, answers⟩ flushed
  obtain ⟨uploads, room, ⟨rfl, rfl⟩ | ⟨failure, rfl, -⟩⟩ := flush_cases flushed
  · refine ⟨rfl, ?_, ?_⟩
    · cases answered : writer.answer [] state.2 with
      | error failure => exact absurd ⟨0, failure, answered⟩ answers
      | ok value => exact not_fails_begin (Uploads.makeRoom_sound sound room).2.1 answered
    · rintro ⟨count, failure, failed⟩
      exact answers ⟨count + 1, failure, failed⟩
  · have went := (Uploads.makeRoom_sound sound room).1
    contradiction

/-- A writer returns exactly if it does not fill its buffer, or there is a slot and either a
size or an empty part that fails, or a failure is under way. -/
theorem returns_iff (fits : buffer.length ≤ size) :
    Returns size writer.flush remaining buffer state ↔
      remaining = [] ∨ buffer.length + remaining.length < size ∨ state.1.Fails ∨
        0 < writer.maxConcurrent ∧ (0 < size ∨ writer.EmptyPartFails state.2) := by
  have empty_buffer (none_fits : size = 0) : buffer = [] :=
    List.length_eq_zero_iff.mp (Nat.le_zero.mp (none_fits ▸ fits))
  constructor
  · intro returns
    by_contra neither
    simp only [not_or, not_and] at neither
    obtain ⟨nonempty, fills, sound, unusable⟩ := neither
    rcases Nat.eq_zero_or_pos writer.maxConcurrent with none_free | slot
    · exact not_returns_of_no_slot none_free sound nonempty (Nat.le_of_not_lt fills) returns
    · obtain ⟨none_fits, answers⟩ := unusable slot
      obtain rfl := Nat.eq_zero_of_not_pos none_fits
      rw [empty_buffer rfl] at returns
      exact not_returns_of_no_size sound answers nonempty returns
  · rintro (rfl | room | fails | ⟨slot, positive | answers⟩)
    · exact returns_nil
    · exact returns_of_room room
    · exact returns_of_fails fails
    · exact returns_of_positive slot positive
    · rcases Nat.eq_zero_or_pos size with rfl | positive
      · rw [empty_buffer rfl]
        exact returns_of_emptyPartFails slot answers
      · exact returns_of_positive slot positive

end PartWriter

end FileTrans.Cloud
