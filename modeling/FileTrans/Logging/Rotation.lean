import FileTrans.Text.UtcTime
import FileTrans.Transition.Run

/-!
# Rotation of log files

A logger that writes to a file.  Once the file is long enough it is renamed after the
local time, to the second, and begun again, whether it could be renamed or not.  A
file that has the new name already is replaced.
-/

namespace FileTrans.Logging

open FileTrans.Text FileTrans.Transition

structure FileOutputConfig where
  filePath : Bytes
  maxFileSize : Nat
  append : Bool
  rotateOnSize : Bool

/-- The log file, and the files it was renamed to, in that order. -/
structure LogFile where
  isOpen : Bool
  content : Bytes
  rotated : List (Bytes × Bytes)

/-- A message, and what the system answers if the file is rotated after it: the nanoseconds that the
clock shows, and whether the file is renamed. -/
structure LogWrite where
  message : Bytes
  now : Int64
  renamed : Bool

/-- `get_rotation_timestamp`, with the local time at so many seconds. -/
def getRotationTimestamp (localTime : Int → UtcTime) (now : Int64) : Bytes :=
  let time := localTime (now.toInt.tdiv (10 ^ 9))
  time.dateStamp ++ ascii "_" ++ padded 2 time.hour ++ padded 2 time.minute ++
    padded 2 time.second

/-- A message as it is written. -/
def LogWrite.line (write : LogWrite) : Bytes :=
  write.message ++ [0x0a]

namespace FileOutputConfig

variable (localTime : Int → UtcTime) (config : FileOutputConfig)

/-- `open_log_file`, with what an existing file contains; opening it succeeds. -/
def openLogFile (existing : Bytes) : LogFile where
  isOpen := config.filePath ≠ []
  content := if config.append then existing else []
  rotated := []

/-- The name of a rotated file. -/
def rotatedPath (now : Int64) : Bytes :=
  config.filePath ++ ascii "." ++ getRotationTimestamp localTime now

/-- A file of this length is rotated. -/
def Overfull (length : Nat) : Prop :=
  config.rotateOnSize = true ∧ 0 < config.maxFileSize ∧ 0 < length ∧ config.maxFileSize ≤ length

instance (length : Nat) : Decidable (config.Overfull length) :=
  inferInstanceAs (Decidable (_ ∧ _ ∧ _ ∧ _))

def rotateLogFile (write : LogWrite) (file : LogFile) : LogFile :=
  if file.isOpen = false ∨ config.filePath = [] then file
  else
    let path := config.rotatedPath localTime write.now
    { isOpen := true
      content := []
      rotated :=
        if write.renamed then file.rotated.filter (·.1 ≠ path) ++ [(path, file.content)]
        else file.rotated }

def outputToFile : Step LogFile LogWrite Unit := fun file write =>
  if file.isOpen = false then ((), file)
  else
    let file := { file with content := file.content ++ write.line }
    if config.Overfull file.content.length then ((), config.rotateLogFile localTime write file)
    else ((), file)

end FileOutputConfig

/-! ## What is kept -/

/-- What the rotated files contain, in order, and the current one. -/
def LogFile.contents (file : LogFile) : Bytes :=
  file.rotated.flatMap (·.2) ++ file.content

/-- Messages as they are written. -/
def linesOf (writes : List LogWrite) : Bytes :=
  writes.flatMap LogWrite.line

namespace FileOutputConfig

variable (localTime : Int → UtcTime) (config : FileOutputConfig)

/-- If the message fills the file, the file is renamed, and to no name it was renamed to before. -/
def RotatesFreely (file : LogFile) (write : LogWrite) : Prop :=
  config.Overfull (file.content ++ write.line).length →
    write.renamed = true ∧ ∀ entry ∈ file.rotated, entry.1 ≠ config.rotatedPath localTime write.now

/-- The file is open, no rotated file is empty, and together they contain these messages. -/
structure Holds (existing : Bytes) (writes : List LogWrite) (file : LogFile) : Prop where
  isOpen : file.isOpen = true
  filled : ∀ entry ∈ file.rotated, entry.2 ≠ []
  complete : file.contents = existing ++ linesOf writes

variable {localTime config}

variable {file : LogFile}

theorem isOpen_rotateLogFile (isOpen : file.isOpen = true) (write : LogWrite) :
    (config.rotateLogFile localTime write file).isOpen = true := by
  rw [rotateLogFile]
  split
  · exact isOpen
  · rfl

theorem filled_rotateLogFile (filled : ∀ entry ∈ file.rotated, entry.2 ≠ [])
    (nonempty : file.content ≠ []) (write : LogWrite) :
    ∀ entry ∈ (config.rotateLogFile localTime write file).rotated, entry.2 ≠ [] := by
  rw [rotateLogFile]
  split
  · exact filled
  · cases write.renamed with
    | false => exact filled
    | true =>
        dsimp only
        rw [if_pos rfl, List.forall_mem_append, List.forall_mem_singleton]
        exact ⟨fun entry mem => filled entry (List.mem_of_mem_filter mem), nonempty⟩

theorem flatMap_filter_eq_iff {α β : Type} {texts : List α} {text : α → List β} {kept : α → Bool}
    (filled : ∀ entry ∈ texts, text entry ≠ []) :
    (texts.filter kept).flatMap text = texts.flatMap text ↔ ∀ entry ∈ texts, kept entry = true := by
  constructor
  · intro same
    induction texts with
    | nil => exact fun _ mem => absurd mem List.not_mem_nil
    | cons entry texts ih =>
        rw [List.forall_mem_cons] at filled ⊢
        cases keeps : kept entry with
        | true =>
            rw [List.filter_cons_of_pos keeps, List.flatMap_cons, List.flatMap_cons,
              List.append_right_inj] at same
            exact ⟨rfl, ih filled.2 same⟩
        | false =>
            have fewer : ((texts.filter kept).flatMap text).Sublist (texts.flatMap text) :=
              List.filter_sublist.flatMap text
            have short := fewer.length_le
            have long := List.length_pos_of_ne_nil filled.1
            rw [List.filter_cons_of_neg (by simp [keeps]), List.flatMap_cons] at same
            have lengths := congrArg List.length same
            rw [List.length_append] at lengths
            omega
  · intro every
    rw [List.filter_eq_self.mpr every]

theorem contents_rotateLogFile_iff (named : config.filePath ≠ []) (isOpen : file.isOpen = true)
    (filled : ∀ entry ∈ file.rotated, entry.2 ≠ []) (nonempty : file.content ≠ [])
    (write : LogWrite) :
    (config.rotateLogFile localTime write file).contents = file.contents ↔
      write.renamed = true ∧
        ∀ entry ∈ file.rotated, entry.1 ≠ config.rotatedPath localTime write.now := by
  have rotates : ¬ (file.isOpen = false ∨ config.filePath = []) := by simp [isOpen, named]
  rw [rotateLogFile, if_neg rotates]
  simp only [LogFile.contents, List.append_nil]
  cases renamed : write.renamed with
  | false =>
      simp [nonempty]
  | true =>
      rw [if_pos rfl, List.flatMap_append, List.flatMap_singleton, List.append_left_inj,
        flatMap_filter_eq_iff filled, and_iff_right rfl]
      simp

theorem contents_append (file : LogFile) (text : Bytes) :
    { file with content := file.content ++ text }.contents = file.contents ++ text := by
  simp [LogFile.contents]

theorem contents_outputToFile_iff (named : config.filePath ≠ []) {existing : Bytes}
    {writes : List LogWrite} (holds : Holds existing writes file) (write : LogWrite) :
    (config.outputToFile localTime file write).2.contents =
        existing ++ linesOf (writes ++ [write]) ↔
      config.RotatesFreely localTime file write := by
  let longer : LogFile := { file with content := file.content ++ write.line }
  have nonempty : longer.content ≠ [] := by simp [longer, LogWrite.line]
  have lines : longer.contents = existing ++ linesOf (writes ++ [write]) := by
    rw [contents_append, holds.complete, linesOf, linesOf, List.flatMap_append, List.append_assoc,
      List.flatMap_singleton]
  have opened : longer.isOpen = true := holds.isOpen
  have filled : ∀ entry ∈ longer.rotated, entry.2 ≠ [] := holds.filled
  rw [outputToFile, if_neg (by simp [holds.isOpen]), RotatesFreely]
  dsimp only
  by_cases full : config.Overfull (file.content ++ write.line).length
  · rw [if_pos full, forall_prop_of_true full,
      ← contents_rotateLogFile_iff named opened filled nonempty, lines]
  · rw [if_neg full]
    exact iff_of_true lines fun rotates => absurd rotates full

theorem holds_outputToFile {existing : Bytes} {writes : List LogWrite}
    (holds : Holds existing writes file) (write : LogWrite)
    (complete : (config.outputToFile localTime file write).2.contents =
      existing ++ linesOf (writes ++ [write])) :
    Holds existing (writes ++ [write]) (config.outputToFile localTime file write).2 := by
  let longer : LogFile := { file with content := file.content ++ write.line }
  have nonempty : longer.content ≠ [] := by simp [longer, LogWrite.line]
  have opened : longer.isOpen = true := holds.isOpen
  have filled : ∀ entry ∈ longer.rotated, entry.2 ≠ [] := holds.filled
  rw [outputToFile, if_neg (by simp [holds.isOpen])] at complete ⊢
  dsimp only at complete ⊢
  split at complete
  · rename_i full
    rw [if_pos full]
    exact ⟨isOpen_rotateLogFile opened write, filled_rotateLogFile filled nonempty write, complete⟩
  · rename_i short
    rw [if_neg short]
    exact ⟨opened, filled, complete⟩

/-- The rotated files and the current one contain every message once and in order, throughout a run,
exactly if each message lets the file rotate freely. -/
theorem contents_throughout_iff (localTime : Int → UtcTime) (named : config.filePath ≠ [])
    (existing : Bytes) (writes : List LogWrite) :
    (∀ first rest, writes = first ++ rest →
      (final (config.outputToFile localTime) (config.openLogFile existing) first).contents =
        (config.openLogFile existing).contents ++ linesOf first) ↔
      Guarded (config.outputToFile localTime) (config.RotatesFreely localTime)
        (config.openLogFile existing) writes := by
  have initial : Holds (config.openLogFile existing).contents [] (config.openLogFile existing) :=
    ⟨by simp [openLogFile, named], fun _ mem => absurd mem List.not_mem_nil,
      (List.append_nil _).symm⟩
  let complete (writes : List LogWrite) (file : LogFile) : Prop :=
    file.contents = (config.openLogFile existing).contents ++ linesOf writes
  have holds : ∀ writes file, Holds (config.openLogFile existing).contents writes file →
      complete writes file := fun _ _ holds => holds.complete
  have kept : ∀ writes file write, Holds (config.openLogFile existing).contents writes file →
      config.RotatesFreely localTime file write →
      Holds (config.openLogFile existing).contents (writes ++ [write])
        (config.outputToFile localTime file write).2 := by
    intro writes file write holds free
    exact holds_outputToFile holds write ((contents_outputToFile_iff named holds write).mpr free)
  have broken : ∀ writes file write, Holds (config.openLogFile existing).contents writes file →
      complete (writes ++ [write]) (config.outputToFile localTime file write).2 →
      config.RotatesFreely localTime file write :=
    fun _ _ write holds => (contents_outputToFile_iff named holds write).mp
  exact forall_history_iff_guarded holds kept broken [] initial writes

/-- A file that is rotated after every message. -/
def tiny : FileOutputConfig where
  filePath := ascii "transfer.log"
  maxFileSize := 1
  append := true
  rotateOnSize := true

/-- The local time at the epoch, in a place that keeps universal time. -/
def epoch : UtcTime :=
  ⟨1970, 1, 1, 0, 0, 0, UtcTime.epoch_lt, UtcTime.one_lt_hundred, UtcTime.one_lt_hundred,
    UtcTime.zero_lt_hundred, UtcTime.zero_lt_hundred, UtcTime.zero_lt_hundred⟩

/-- Two messages in one second. -/
def hurried : List LogWrite :=
  [⟨ascii "first", 0, true⟩, ⟨ascii "second", 0, true⟩]

theorem contents_tiny_throughout_iff : tiny.filePath ≠ [] ∧
    ((∀ first rest, hurried = first ++ rest →
      (final (tiny.outputToFile fun _ => epoch) (tiny.openLogFile []) first).contents =
        (tiny.openLogFile []).contents ++ linesOf first) ↔
      Guarded (tiny.outputToFile fun _ => epoch) (tiny.RotatesFreely fun _ => epoch)
        (tiny.openLogFile []) hurried) :=
  ⟨by decide, contents_throughout_iff (fun _ => epoch) (by decide) [] hurried⟩

/-- The second rotation in one second replaces the file of the first. -/
theorem hurried_lost :
    (final (tiny.outputToFile fun _ => epoch) (tiny.openLogFile []) hurried).contents =
        ascii "second\n" ∧
      linesOf hurried = ascii "first\nsecond\n" := by
  constructor <;> decide +kernel

end FileOutputConfig

end FileTrans.Logging
