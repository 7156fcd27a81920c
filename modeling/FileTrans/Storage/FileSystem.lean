import FileTrans.Text.Bytes
import FileTrans.Storage.SeekableFile

/-!
# Files by path, and file streams over them

A file system maps paths to contents.  The streams follow the C++ standard
library: an operation on a stream that is not good does nothing, a failure
makes the stream bad for good, and `seekp` refuses an offset that
`std::streamoff` cannot represent.

Whether an operation of the operating system succeeds is part of the input of
the operation, in a `DiskOutcome`.
-/

namespace FileTrans.Storage

/-- A path, as the bytes of its name. -/
abbrev Path := Bytes

/-- `std::filesystem::path::operator/` on POSIX paths: an absolute right-hand
side replaces the left one, and a separator is inserted where none is. -/
def Path.append (directory name : Path) : Path :=
  if name.head? = some 0x2f then name
  else if directory = [] ∨ directory.getLast? = some 0x2f then directory ++ name
  else directory ++ 0x2f :: name

/-- `std::filesystem::path::parent_path`: everything before the last name, without
the separators that follow it. -/
def Path.parent (path : Path) : Path :=
  let upTo := (path.reverse.dropWhile (· != 0x2f)).dropWhile (· == 0x2f)
  if upTo = [] ∧ path.head? = some 0x2f then [0x2f] else upTo.reverse

/-- Contents of the regular files that exist. -/
abbrev FileSystem := Path → Option Bytes

/-- Number of offsets that `std::streamoff` can represent. -/
def streamOffsetBound : Nat := 2 ^ 63

/-- A file content that every offset of a stream can address. -/
structure StoredFile where
  bytes : Bytes
  length_lt : bytes.length < streamOffsetBound

/-- What the operating system answers during one operation. -/
structure DiskOutcome where
  opens : Bool
  seeks : Bool
  writes : Bool
  /-- The message of the error code that a rename sets, if it fails. -/
  renameError : Option Bytes
  deriving DecidableEq

/-- Every file operation succeeds. -/
def DiskOutcome.success : DiskOutcome :=
  ⟨true, true, true, none⟩

namespace FileSystem

variable (files : FileSystem)

/-- `std::filesystem::exists` for regular files. -/
def exist (path : Path) : Bool :=
  (files path).isSome

/-- `std::filesystem::remove` of a regular file. -/
def remove (path : Path) : FileSystem :=
  Function.update files path none

/-- Create or overwrite a file. -/
def put (path : Path) (content : Bytes) : FileSystem :=
  Function.update files path (some content)

/-- Write into a file that exists; a write into an unlinked file is lost. -/
def write (path : Path) (position : Nat) (data : Bytes) : FileSystem :=
  match files path with
  | none => files
  | some content => put files path (writeAt 0 content position data)

/-- `std::filesystem::rename`: the error message, or the new file system. -/
def rename (disk : DiskOutcome) (source target : Path) : Except Bytes FileSystem :=
  match disk.renameError, files source with
  | some message, _ => .error message
  | none, none => .error (Text.ascii "No such file or directory")
  | none, some content =>
      if source = target then .ok files
      else .ok (remove (put files target content) source)

@[simp]
theorem put_self (path : Path) (content : Bytes) : put files path content path = some content := by
  simp [put]

@[simp]
theorem put_put (path : Path) (old new : Bytes) :
    put (put files path old) path new = put files path new := by
  simp [put]

variable {path other source target : Path}

theorem put_of_ne (distinct : other ≠ path) (content : Bytes) :
    put files path content other = files other := by
  simp [put, distinct]

@[simp]
theorem remove_self (path : Path) : remove files path path = none := by
  simp [remove]

theorem remove_of_ne (distinct : other ≠ path) : remove files path other = files other := by
  simp [remove, distinct]

theorem write_of_eq_some {content : Bytes} (stored : files path = some content) (position : Nat)
    (data : Bytes) :
    write files path position data = put files path (writeAt 0 content position data) := by
  rw [write, stored]

theorem write_of_ne (distinct : other ≠ path) (position : Nat) (data : Bytes) :
    write files path position data other = files other := by
  cases stored : files path with
  | none => rw [write, stored]
  | some content => rw [write_of_eq_some files stored, put_of_ne files distinct]

theorem exist_write (path : Path) (position : Nat) (data : Bytes) (other : Path) :
    exist (write files path position data) other = exist files other := by
  cases stored : files path with
  | none => rw [write, stored]
  | some content =>
      rw [write_of_eq_some files stored]
      by_cases same : other = path
      · rw [same, exist, exist, put_self, stored]
        rfl
      · rw [exist, exist, put_of_ne files same]

theorem rename_success {content : Bytes} (stored : files source = some content)
    (distinct : source ≠ target) :
    rename files .success source target =
      .ok (remove (put files target content) source) := by
  simp [rename, DiskOutcome.success, stored, distinct]

theorem rename_of_ne {files renamed : FileSystem} {disk : DiskOutcome}
    (success : rename files disk source target = .ok renamed) (notSource : other ≠ source)
    (notTarget : other ≠ target) : renamed other = files other := by
  rw [rename] at success
  split at success
  · cases success
  · cases success
  · split at success
    · rw [← Except.ok.inj success]
    · rw [← Except.ok.inj success, remove_of_ne _ notSource, put_of_ne _ notTarget]

theorem rename_of_removed {files renamed : FileSystem} {disk : DiskOutcome}
    (success : rename (if exist files target then remove files target else files) disk source
      target = .ok renamed) : renamed target = files source := by
  have absent : (if exist files target then remove files target else files) target = none := by
    split
    · exact remove_self files target
    · rename_i missing
      exact Option.not_isSome_iff_eq_none.mp missing
  rw [rename] at success
  split at success
  · cases success
  · cases success
  · rename_i content _ stored
    split at success
    · rename_i same
      rw [same, absent] at stored
      cases stored
    · rename_i distinct
      have kept : files source = some content := by
        split at stored
        · rwa [remove_of_ne files distinct] at stored
        · exact stored
      rw [← Except.ok.inj success, remove_of_ne _ (Ne.symm distinct), put_self, kept]

end FileSystem

/-! ## Streams -/

/-- A `std::ifstream` over a file that nobody writes to meanwhile. -/
structure InputStream where
  content : Bytes
  position : Nat
  good : Bool
  deriving DecidableEq

namespace InputStream

/-- A freshly opened stream. -/
def openFile (content : Bytes) : InputStream :=
  ⟨content, 0, true⟩

/-- `seekg` from the beginning of the file. -/
def seekg (stream : InputStream) (offset : Nat) : InputStream :=
  if stream.good ∧ offset < streamOffsetBound then { stream with position := offset }
  else { stream with good := false }

/-- `read`: the bytes extracted, `gcount` being their number, and the stream.
Running into the end of the file makes the stream bad. -/
def read (stream : InputStream) (count : Nat) : Bytes × InputStream :=
  if stream.good then
    let bytes := readAt stream.content stream.position count
    (bytes, { stream with
      position := stream.position + bytes.length
      good := bytes.length = count })
  else ([], stream)

end InputStream

/-- A `std::ofstream` on a file of the file system. -/
structure OutputStream where
  path : Path
  position : Nat
  good : Bool
  isOpen : Bool
  deriving DecidableEq

namespace OutputStream

/-- Opening for output truncates or creates the file. -/
def openFile (disk : DiskOutcome) (files : FileSystem) (path : Path) :
    OutputStream × FileSystem :=
  if disk.opens then (⟨path, 0, true, true⟩, files.put path [])
  else (⟨path, 0, false, false⟩, files)

/-- Opening for input and output keeps the content, and fails if there is none. -/
def openExisting (disk : DiskOutcome) (files : FileSystem) (path : Path) :
    OutputStream × FileSystem :=
  if disk.opens ∧ files.exist path then (⟨path, 0, true, true⟩, files)
  else (⟨path, 0, false, false⟩, files)

/-- `seekp` from the beginning of the file. -/
def seekp (disk : DiskOutcome) (stream : OutputStream) (offset : Nat) : OutputStream :=
  if stream.good ∧ stream.isOpen ∧ disk.seeks ∧ offset < streamOffsetBound then
    { stream with position := offset }
  else { stream with good := false }

/-- `write` (or `put` of one byte). -/
def write (disk : DiskOutcome) (files : FileSystem) (stream : OutputStream) (data : Bytes) :
    OutputStream × FileSystem :=
  if stream.good ∧ stream.isOpen ∧ disk.writes then
    ({ stream with position := stream.position + data.length },
      files.write stream.path stream.position data)
  else ({ stream with good := false }, files)

/-- `close`: closing a closed stream is a failure. -/
def close (stream : OutputStream) : OutputStream :=
  { stream with good := stream.good && stream.isOpen, isOpen := false }

@[simp]
theorem seekp_path (disk : DiskOutcome) (stream : OutputStream) (offset : Nat) :
    (seekp disk stream offset).path = stream.path := by
  unfold seekp
  split <;> rfl

@[simp]
theorem write_path (disk : DiskOutcome) (files : FileSystem) (stream : OutputStream)
    (data : Bytes) : (write disk files stream data).1.path = stream.path := by
  unfold write
  split <;> rfl

variable {disk : DiskOutcome} {offset : Nat}

theorem seekp_good (stream : OutputStream) (good : (seekp disk stream offset).good = true) :
    stream.good = true ∧ seekp disk stream offset = { stream with position := offset } := by
  by_cases able : stream.good ∧ stream.isOpen ∧ disk.seeks ∧ offset < streamOffsetBound
  · exact ⟨able.1, if_pos able⟩
  · rw [seekp, if_neg able] at good
    cases good

theorem seekp_bad {stream : OutputStream} (bad : stream.good = false) :
    (seekp disk stream offset).good = false := by
  rw [seekp, if_neg]
  rw [bad]
  exact fun able => Bool.false_ne_true able.1

theorem write_bad {files : FileSystem} {stream : OutputStream} {data : Bytes}
    (bad : stream.good = false) :
    write disk files stream data = ({ stream with good := false }, files) := by
  rw [write, if_neg]
  rw [bad]
  exact fun able => Bool.false_ne_true able.1

theorem write_cases (disk : DiskOutcome) (files : FileSystem) (stream : OutputStream)
    (data : Bytes) :
    write disk files stream data = ({ stream with good := false }, files) ∨
    write disk files stream data = ({ stream with position := stream.position + data.length },
      files.write stream.path stream.position data) := by
  rw [write]
  split
  · exact Or.inr rfl
  · exact Or.inl rfl

theorem seekp_success (stream : OutputStream) (good : stream.good) (isOpen : stream.isOpen)
    (bounded : offset < streamOffsetBound) :
    seekp .success stream offset = { stream with position := offset } := by
  simp [seekp, good, isOpen, bounded, DiskOutcome.success]

theorem write_success (files : FileSystem) (stream : OutputStream) (good : stream.good)
    (isOpen : stream.isOpen) (data : Bytes) :
    write .success files stream data =
      ({ stream with position := stream.position + data.length },
        files.write stream.path stream.position data) := by
  simp [write, good, isOpen, DiskOutcome.success]

end OutputStream

end FileTrans.Storage
