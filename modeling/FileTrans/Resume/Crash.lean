import FileTrans.Resume.Directory

/-!
# Saving over a saved state

`save_state` puts the new state into the cache, empties the state file and writes the
new text.  A failure on the way leaves the cache and the file as they are then.

A write that stops early leaves the first bytes of a state file.  They are read as a
state as soon as one digit of the last value is there.
-/

namespace FileTrans.Resume

open Core Text Storage

/-! ## The two parts of a state file -/

theorem chain_append_last (members : List (Bytes × Bytes)) (last rest : Bytes) :
    chain members (last ++ rest) = chain members last ++ rest := by
  induction members with
  | nil => rfl
  | cons member members ih =>
      obtain ⟨key, value⟩ := member
      simp only [chain, memberText, ih, List.append_assoc]

/-- The text in front of the last value. -/
def frontText (state : TransferState) : Bytes :=
  stateText state [] []

theorem stateText_eq_front (state : TransferState) (lastValue rest : Bytes) :
    stateText state lastValue rest = frontText state ++ (lastValue ++ rest) := by
  have last : memberText (ascii "last_activity") lastValue rest =
      memberText (ascii "last_activity") [] [] ++ (lastValue ++ rest) := by
    simp [memberText]
  rw [frontText, stateText, stateText, afterFilename, afterFilename, last, chain_append_last]
  simp only [memberText, List.append_assoc]

/-- The text of the last value. -/
def lastDigits (state : TransferState) : Bytes :=
  decimalInt (timePointToInt64 state.lastActivity)

theorem serializeStateToJson_eq_front (state : TransferState) :
    serializeStateToJson state = frontText state ++ (lastDigits state ++ ascii "\n\x7d") := by
  rw [serializeStateToJson_eq, stateText_eq_front, lastDigits]

/-! ## Cut in front of the last value -/

theorem extract_front_take (state : TransferState) (hex : HexText state.sha256)
    (clear : ¬ endsIn (ascii "last_activity") state.filename) (count : Nat) :
    extractJsonValue ((frontText state).take count) (ascii "last_activity") = [] := by
  have plain : PlainKey (ascii "last_activity") := plainKey_of_mem (by decide)
  have absent : ascii "last_activity" ∉ (middleMembers state).map Prod.fst := by
    rw [map_fst_middleMembers]
    decide
  have whole := find_quoted_members state [] [] plain (by decide) (by decide) clear
  rw [find_quoted_chain_hit plain
    (middleMembers_pass state plain hex (List.Subset.refl _) absent)] at whole
  have parts : (frontText state).take count ++ (frontText state).drop count =
      stateText state [] [] := List.take_append_drop _ _
  rw [extractJsonValue]
  cases search : find (quoted (ascii "last_activity")) ((frontText state).take count) with
  | none => rfl
  | some fromKey =>
      have sameKey := find_append search ((frontText state).drop count)
      rw [parts, whole] at sameKey
      cases colonSearch : find [0x3a] fromKey with
      | none => simp only [colonSearch]
      | some fromColon =>
          have sameColon := find_append colonSearch ((frontText state).drop count)
          rw [← Option.some.inj sameKey] at sameColon
          have colon : find [0x3a] (memberText (ascii "last_activity") [] []) =
              some [0x3a, 0x20] := by decide
          rw [colon] at sameColon
          have rest := Option.some.inj sameColon
          simp only [colonSearch]
          cases fromColon with
          | nil => rfl
          | cons colonByte tail =>
              cases tail with
              | nil => rfl
              | cons blank tail =>
                  cases tail with
                  | nil =>
                      simp only [List.cons_append, List.nil_append, List.cons.injEq] at rest
                      rw [← rest.2.1]
                      rfl
                  | cons _ _ => simp at rest

theorem not_reads_front_take {state read : TransferState} (hex : HexText state.sha256)
    (clear : ¬ endsIn (ascii "last_activity") state.filename) (count : Nat) :
    ¬ Reads ((frontText state).take count) read := by
  intro reads
  have activity := reads.lastActivity
  rw [extract_front_take state hex clear count] at activity
  cases activity

/-! ## Cut in or after the last value -/

theorem reads_stateText_iff {state read : TransferState} (sized : state.WellSized)
    (hex : HexText state.sha256) (readable : ReadableName state)
    (clear : ¬ endsIn (ascii "last_activity") state.filename) {lastValue rest : Bytes}
    (numeral : ∀ byte ∈ lastValue, NumeralByte byte) (nonempty : lastValue ≠ [])
    (ends : EndsNumber rest) :
    Reads (stateText state lastValue rest) read ↔
      (stoll 10 lastValue).map int64ToTimePoint = some read.lastActivity ∧
        read = { state.truncated with lastActivity := read.lastActivity } := by
  have activity := extract_last_activity state lastValue rest hex numeral nonempty ends
  rw [if_neg clear] at activity
  constructor
  · intro reads
    have time := reads.lastActivity
    have own := reads_of_readable sized hex readable time
    have first := deserializeStateFromJson_eq_ok_iff.mpr reads
    rw [deserializeStateFromJson_eq_ok_iff.mpr own] at first
    rw [activity] at time
    exact ⟨time, (Except.ok.inj (Option.some.inj first)).symm⟩
  · rintro ⟨time, same⟩
    rw [← activity] at time
    rw [same]
    exact reads_of_readable sized hex readable time

/-! ## Failures of a save -/

/-- How a call of `save_state` goes wrong. -/
inductive SaveFailure
  /-- The process stops, before the file is opened or after some bytes are written. -/
  | stops (written : Option Nat)
  /-- The call returns. -/
  | returns (disk : WriteOutcome)

namespace ResumeHandler

/-- The files that are left on the disk. -/
def filesAfter (handler : ResumeHandler) (state : TransferState) : SaveFailure → FileSystem
  | .stops none => handler.files
  | .stops (some count) => handler.files.put (handler.stateFile state.id)
      ((serializeStateToJson state).take count)
  | .returns disk => (handler.saveState disk state).2.files

/-- A failure loses neither state: a fresh handler loads the old one or the new one, and
after an error the same handler still loads the old one. -/
structure SaveSafe (handler : ResumeHandler) (old new : TransferState)
    (failure : SaveFailure) : Prop where
  onDisk : ∃ state, (state = old ∨ state = new) ∧
    (create handler.config (handler.filesAfter new failure)).lookup (fun _ => true) new.id =
      some (.ok state.truncated)
  inMemory : ∀ disk, failure = .returns disk → (handler.saveState disk new).1 ≠ .ok () →
    (handler.saveState disk new).2.lookup (fun _ => true) new.id = some (.ok old)

end ResumeHandler

/-! ## Harmless failures -/

/-- The first bytes of the new file say enough: at most the line break and the brace
are missing, or, by coincidence, the states differ in the last activity only, and the
digits that are there are those of the old one. -/
def EnoughWritten (old new : TransferState) (count : Nat) : Prop :=
  (serializeStateToJson new).length ≤ count + 2 ∨
    ∃ digits < (lastDigits new).length, count = (frontText new).length + digits ∧
      numeral 10 ((lastDigits new).take digits) = some (timePointToInt64 old.lastActivity) ∧
      { new.truncated with lastActivity := old.truncated.lastActivity } = old.truncated

/-- A failure that loses neither state. -/
def HarmlessFailure (old new : TransferState) : SaveFailure → Prop
  | .stops none => True
  | .stops (some count) => EnoughWritten old new count
  | .returns disk =>
      (disk.opens = true → ∀ count, disk.reaches = some count → EnoughWritten old new count) ∧
        (disk.opens = false ∨ disk.noticed = true → new = old)

theorem read_cut_time_iff {new time : Int64} {count : Nat}
    (short : count < (decimalInt (timePointToInt64 new)).length) :
    (stoll 10 ((decimalInt (timePointToInt64 new)).take count)).map int64ToTimePoint =
        some (truncateTime time) ↔
      numeral 10 ((decimalInt (timePointToInt64 new)).take count) =
        some (timePointToInt64 time) := by
  constructor
  · intro reads
    obtain ⟨ms, read, same⟩ := Option.map_eq_some_iff.mp reads
    obtain ⟨value, numeralRead, rfl⟩ := Option.map_eq_some_iff.mp read
    obtain ⟨numeralRead, -⟩ := Option.filter_eq_some_iff.mp numeralRead
    have smaller := natAbs_lt_of_numeral_take short numeralRead
    have magnitude := natAbs_timePointToInt64 new
    have lower := new.le_toInt
    have upper := new.toInt_lt
    have inRange : (Int64.ofInt value).toInt = value :=
      Int64.toInt_ofInt_of_le (by omega) (by omega)
    have scaled : (int64ToTimePoint (Int64.ofInt value)).toInt = value * nanosPerMilli := by
      rw [int64ToTimePoint, inRange, nanosPerMilli]
      exact Int64.toInt_ofInt_of_le (by omega) (by omega)
    rw [same, toInt_truncateTime] at scaled
    have equal := Int.eq_of_mul_eq_mul_right (by decide) scaled
    rw [numeralRead, equal]
  · intro reads
    have bounds := timePointToInt64_bounds time
    have fits : (decide (-(2 ^ 63) ≤ timePointToInt64 time) &&
        decide (timePointToInt64 time < 2 ^ 63)) = true := by
      rw [decide_eq_true bounds.1, decide_eq_true bounds.2]
      rfl
    rw [stoll, reads, Option.filter_some, if_pos fits, Option.map_some, Option.map_some,
      int64ToTimePoint_timePointToInt64]

section

variable {old new : TransferState} (sized : new.WellSized) (hex : HexText new.sha256)
  (readable : ReadableName new)
  (clear : ¬ endsIn (ascii "last_activity") new.filename)

theorem lastDigits_ne_nil (state : TransferState) : lastDigits state ≠ [] :=
  decimalInt_ne_nil _

include sized hex readable clear in
theorem reads_cut_digits_iff {digits : Nat} (positive : 0 < digits)
    (short : digits < (lastDigits new).length) :
    (∃ state, (state = old ∨ state = new) ∧
      Reads (stateText new ((lastDigits new).take digits) []) state.truncated) ↔
    numeral 10 ((lastDigits new).take digits) = some (timePointToInt64 old.lastActivity) ∧
      { new.truncated with lastActivity := old.truncated.lastActivity } = old.truncated := by
  have numeralBytes : ∀ byte ∈ (lastDigits new).take digits, NumeralByte byte := fun _ mem =>
    numeralByte_decimalInt (List.mem_of_mem_take mem)
  have nonempty : (lastDigits new).take digits ≠ [] := by
    intro empty
    rcases List.take_eq_nil_iff.mp empty with zero | nil
    · omega
    · exact lastDigits_ne_nil new nil
  have ends : EndsNumber [] := by
    rintro byte ⟨⟩
  constructor
  · rintro ⟨state, isOne, reads⟩
    obtain ⟨time, same⟩ := (reads_stateText_iff sized hex readable clear numeralBytes nonempty
      ends).mp reads
    have read := (read_cut_time_iff short).mp time
    rcases isOne with rfl | rfl
    · exact ⟨read, same.symm⟩
    · exact absurd (natAbs_lt_of_numeral_take short read) (Nat.lt_irrefl _)
  · rintro ⟨read, same⟩
    exact ⟨old, Or.inl rfl, (reads_stateText_iff sized hex readable clear numeralBytes nonempty
      ends).mpr ⟨(read_cut_time_iff short).mpr read, same.symm⟩⟩

include sized hex readable clear in
theorem reads_cut_iff (count : Nat) :
    (∃ state, (state = old ∨ state = new) ∧
      deserializeStateFromJson ((serializeStateToJson new).take count) =
        some (.ok state.truncated)) ↔ EnoughWritten old new count := by
  have positive : 0 < (lastDigits new).length :=
    List.length_pos_iff.mpr (lastDigits_ne_nil new)
  have total : (serializeStateToJson new).length =
      (frontText new).length + (lastDigits new).length + 2 := by
    rw [serializeStateToJson_eq_front, List.length_append, List.length_append, Nat.add_assoc]
    rfl
  simp only [deserializeStateFromJson_eq_ok_iff, EnoughWritten, total]
  by_cases early : count ≤ (frontText new).length
  · have cut : (serializeStateToJson new).take count = (frontText new).take count := by
      rw [serializeStateToJson_eq_front, List.take_append_of_le_length early]
    rw [cut]
    apply iff_of_false
    · rintro ⟨state, -, reads⟩
      exact not_reads_front_take hex clear count reads
    · rintro (enough | ⟨digits, -, same, read, -⟩)
      · omega
      · have zero : digits = 0 := by omega
        rw [zero] at read
        cases read
  · obtain ⟨digits, rfl⟩ := Nat.exists_eq_add_of_le (Nat.le_of_not_le early)
    have cut : (serializeStateToJson new).take ((frontText new).length + digits) =
        stateText new ((lastDigits new).take digits)
          ((ascii "\n\x7d").take (digits - (lastDigits new).length)) := by
      rw [serializeStateToJson_eq_front, List.take_length_add_append, stateText_eq_front,
        List.take_append]
    rw [cut]
    by_cases short : digits < (lastDigits new).length
    · have none_left : digits - (lastDigits new).length = 0 := by omega
      rw [none_left, List.take_zero, reads_cut_digits_iff sized hex readable clear (by omega) short]
      constructor
      · rintro ⟨read, same⟩
        exact Or.inr ⟨digits, short, rfl, read, same⟩
      · rintro (enough | ⟨others, -, same, read, sameFields⟩)
        · omega
        · rw [Nat.add_left_cancel same]
          exact ⟨read, sameFields⟩
    · have whole : (lastDigits new).take digits = lastDigits new :=
        List.take_of_length_le (Nat.not_lt.mp short)
      have ends : EndsNumber ((ascii "\n\x7d").take (digits - (lastDigits new).length)) := by
        cases digits - (lastDigits new).length with
        | zero => rintro byte ⟨⟩
        | succ left =>
            rintro byte ⟨⟩
            rfl
      have numeralBytes : ∀ byte ∈ lastDigits new, NumeralByte byte := fun _ mem =>
        numeralByte_decimalInt mem
      rw [whole]
      apply iff_of_true
      · exact ⟨new, Or.inr rfl, (reads_stateText_iff sized hex readable clear numeralBytes
          (lastDigits_ne_nil new) ends).mpr ⟨read_time new.lastActivity, rfl⟩⟩
      · left
        omega

end

/-! ## Failures of a save -/

namespace ResumeHandler

theorem lookup_create {config : ResumeHandlerConfig} {files : FileSystem} {id : TransferId}
    {content : Bytes}
    (stored : files (getStateFilePath config.stateDirectory id) = some content) :
    (create config files).lookup (fun _ => true) id = deserializeStateFromJson content := by
  have path : (create config files).files ((create config files).stateFile id) = some content :=
    stored
  rw [lookup_of_uncached (create config files) (fun _ => true) rfl, readStateFile, path]
  rfl

theorem lookup_saveState (handler : ResumeHandler) (disk : WriteOutcome) (state : TransferState)
    (opens : Path → Bool) :
    (handler.saveState disk state).2.lookup opens state.id = some (.ok state) := by
  apply lookup_of_cached
  simp only [saveState]
  split
  · split <;> exact Function.update_self _ _ _
  · exact Function.update_self _ _ _

theorem saveState_ne_ok_iff (handler : ResumeHandler) (disk : WriteOutcome)
    (state : TransferState) :
    (handler.saveState disk state).1 ≠ .ok () ↔ disk.opens = false ∨ disk.noticed = true := by
  rcases disk with ⟨_ | _, reaches, _ | _⟩ <;> simp [saveState, unexpected]

theorem saveState_files (handler : ResumeHandler) (disk : WriteOutcome) (state : TransferState) :
    (handler.saveState disk state).2.files =
      if disk.opens then handler.files.put (handler.stateFile state.id)
        (disk.reached (serializeStateToJson state)) else handler.files := by
  simp only [saveState]
  split
  · split <;> rfl
  · rfl

/-- A failure loses neither of two states, saved one after the other, exactly if it is
harmless. -/
theorem saveSafe_iff (prior : ResumeHandler) {old new : TransferState} (sameId : new.id = old.id)
    (oldSized : old.WellSized) (oldHex : HexText old.sha256) (oldReadable : ReadableName old)
    (newSized : new.WellSized) (newHex : HexText new.sha256) (newReadable : ReadableName new)
    (clear : ¬ endsIn (ascii "last_activity") new.filename) (failure : SaveFailure) :
    (prior.saveState .success old).2.SaveSafe old new failure ↔
      HarmlessFailure old new failure := by
  let handler := (prior.saveState .success old).2
  have untouched : (create handler.config handler.files).lookup (fun _ => true) new.id =
      some (.ok old.truncated) := by
    have stored : handler.files (handler.stateFile new.id) = some (serializeStateToJson old) := by
      rw [sameId]
      exact FileSystem.put_self _ _ _
    rw [lookup_create stored]
    exact deserialize_of_readable oldSized oldHex oldReadable
  have cut (count : Nat) : (∃ state, (state = old ∨ state = new) ∧
      (create handler.config (handler.files.put (handler.stateFile new.id)
        ((serializeStateToJson new).take count))).lookup (fun _ => true) new.id =
          some (.ok state.truncated)) ↔ EnoughWritten old new count := by
    have stored : handler.files.put (handler.stateFile new.id)
        ((serializeStateToJson new).take count) (handler.stateFile new.id) =
          some ((serializeStateToJson new).take count) := FileSystem.put_self _ _ _
    rw [lookup_create stored]
    exact reads_cut_iff newSized newHex newReadable clear count
  cases failure with
  | stops written =>
      have memory : ∀ disk, SaveFailure.stops written = .returns disk →
          (handler.saveState disk new).1 ≠ .ok () →
          (handler.saveState disk new).2.lookup (fun _ => true) new.id = some (.ok old) := by
        rintro disk ⟨⟩
      cases written with
      | none =>
          constructor
          · exact fun _ => trivial
          · exact fun _ => ⟨⟨old, Or.inl rfl, untouched⟩, memory⟩
      | some count =>
          constructor
          · exact fun safe => (cut count).mp safe.onDisk
          · exact fun enough => ⟨(cut count).mpr enough, memory⟩
  | returns disk =>
      have memory : (∀ other, SaveFailure.returns disk = .returns other →
          (handler.saveState other new).1 ≠ .ok () →
          (handler.saveState other new).2.lookup (fun _ => true) new.id = some (.ok old)) ↔
          (disk.opens = false ∨ disk.noticed = true → new = old) := by
        rw [← saveState_ne_ok_iff handler disk new]
        constructor
        · intro kept failed
          have loaded := kept disk rfl failed
          rw [lookup_saveState] at loaded
          exact Except.ok.inj (Option.some.inj loaded)
        · rintro same other ⟨⟩ failed
          rw [lookup_saveState, same failed]
      have written : (∃ state, (state = old ∨ state = new) ∧
          (create handler.config (handler.filesAfter new (.returns disk))).lookup (fun _ => true)
            new.id = some (.ok state.truncated)) ↔
          (disk.opens = true → ∀ count, disk.reaches = some count →
            EnoughWritten old new count) := by
        rw [filesAfter, saveState_files]
        rcases disk with ⟨_ | _, _ | count, noticed⟩
        · exact iff_of_true ⟨old, Or.inl rfl, untouched⟩ fun opened => by cases opened
        · exact iff_of_true ⟨old, Or.inl rfl, untouched⟩ fun opened => by cases opened
        · have stored : handler.files.put (handler.stateFile new.id) (serializeStateToJson new)
              (handler.stateFile new.id) = some (serializeStateToJson new) :=
            FileSystem.put_self _ _ _
          have whole : (create handler.config (handler.files.put (handler.stateFile new.id)
              (serializeStateToJson new))).lookup (fun _ => true) new.id =
                some (.ok new.truncated) := by
            rw [lookup_create stored]
            exact deserialize_of_readable newSized newHex newReadable
          exact iff_of_true ⟨new, Or.inr rfl, whole⟩ fun _ count reached => by cases reached
        · rw [if_pos rfl]
          refine (cut count).trans ⟨?_, ?_⟩
          · rintro enough - other ⟨⟩
            exact enough
          · intro enough
            exact enough rfl count rfl
      constructor
      · exact fun safe => ⟨written.mp safe.onDisk, memory.mp safe.inMemory⟩
      · exact fun harmless => ⟨written.mpr harmless.1, memory.mpr harmless.2⟩

theorem not_saveSafe_of_empty (handler : ResumeHandler) (old new : TransferState) :
    ¬ handler.SaveSafe old new (.stops (some 0)) := by
  intro safe
  obtain ⟨state, -, loaded⟩ := safe.onDisk
  have stored : handler.filesAfter new (.stops (some 0)) (handler.stateFile new.id) = some [] :=
    FileSystem.put_self _ _ _
  rw [lookup_create stored] at loaded
  cases loaded

end ResumeHandler

/-! ## A failure that loses both states -/

/-- A handler over an empty directory. -/
def emptyHandler : ResumeHandler :=
  .create ⟨ascii "states", 10, 86400⟩ fun _ => none

/-- The sample state after more bytes were transferred. -/
def laterState : TransferState :=
  { sampleState (ascii "a.txt") with transferredBytes := 3 }

theorem readableName_txt {state : TransferState} (named : state.filename = ascii "a.txt") :
    ReadableName state := by
  have plain : ∀ key ∈ [ascii "transferred_bytes", ascii "total_chunks", ascii "chunk_bitmap",
      ascii "sha256", ascii "started_at", ascii "last_activity"],
      ¬ endsIn key state.filename := by
    rw [named]
    decide
  simp only [List.forall_mem_cons] at plain
  obtain ⟨bytes, chunks, bitmap, hash, started, activity, -⟩ := plain
  constructor
  · rw [named]
    decide
  · exact fun ends => absurd ends bytes
  · exact fun ends => absurd ends chunks
  · exact fun ends => absurd ends bitmap
  · exact fun ends => absurd ends hash
  · exact fun ends => absurd ends started
  · exact fun ends => absurd ends activity

/-- The process stops before the last byte of the file, and the new state can be read. -/
theorem stop_before_last_byte_safe :
    (emptyHandler.saveState .success (sampleState (ascii "a.txt"))).2.SaveSafe
      (sampleState (ascii "a.txt")) laterState
      (.stops (some ((serializeStateToJson laterState).length - 1))) := by
  have sameId : laterState.id = (sampleState (ascii "a.txt")).id := rfl
  have sized : (sampleState (ascii "a.txt")).WellSized := rfl
  have hex : HexText (sampleState (ascii "a.txt")).sha256 := by
    unfold HexText
    decide +kernel
  have laterSized : laterState.WellSized := rfl
  have laterHex : HexText laterState.sha256 := by
    unfold HexText
    decide +kernel
  have clear : ¬ endsIn (ascii "last_activity") laterState.filename := by decide
  apply (ResumeHandler.saveSafe_iff emptyHandler sameId sized hex (readableName_txt rfl)
    laterSized laterHex (readableName_txt rfl) clear _).mpr
  have enough : (serializeStateToJson laterState).length ≤
      (serializeStateToJson laterState).length - 1 + 2 := by omega
  exact Or.inl enough

/-- The process stops after the file was emptied, and an open that fails. -/
theorem save_loses_states :
    (ResumeHandler.create emptyHandler.config
      ((emptyHandler.saveState .success (sampleState (ascii "a.txt"))).2.filesAfter laterState
        (.stops (some 0)))).lookup (fun _ => true) laterState.id =
      some (unexpected .internalError "missing id field") ∧
    ((emptyHandler.saveState .success (sampleState (ascii "a.txt"))).2.saveState
        ⟨false, none, false⟩ laterState).1 =
      unexpected .fileWriteError "failed to open state file for writing" ∧
    ((emptyHandler.saveState .success (sampleState (ascii "a.txt"))).2.saveState
        ⟨false, none, false⟩ laterState).2.lookup (fun _ => true) laterState.id =
      some (.ok laterState) ∧
    ¬ (∀ (prior : ResumeHandler) (old new : TransferState) (failure : SaveFailure),
      new.id = old.id → (prior.saveState .success old).2.SaveSafe old new failure) := by
  refine ⟨?_, rfl, ResumeHandler.lookup_saveState _ _ _ _, ?_⟩
  · exact ResumeHandler.lookup_create (FileSystem.put_self _ _ _)
  · intro every
    exact ResumeHandler.not_saveSafe_of_empty _ _ _
      (every emptyHandler (sampleState (ascii "a.txt")) laterState (.stops (some 0)) rfl)

end FileTrans.Resume
