import FileTrans.Storage.DirectoryTree
import FileTrans.Storage.LexicalPath

/-!
# A disk with directories

The file-system calls of `std::filesystem` on a tree of files and directories
without links.  A path is resolved as the kernel does it: name after name, from
the root or from the working directory, and through directories that are there.

Queries for what is at a path answer as the tree is.  Whether the other calls
succeed, and how much of what is written reaches the disk, is input.
-/

namespace FileTrans.Storage

namespace Path

/-- The names between the separators. -/
def names (path : Path) : List Bytes :=
  path.splitOn 0x2f

/-- The path of some names. -/
def ofNames (names : List Bytes) : Path :=
  [0x2f].intercalate names

/-- Where a name leads to from a directory. -/
def enter (place : List Bytes) (name : Bytes) : List Bytes :=
  if name = [] ∨ name = [0x2e] then place
  else if name = parentName then place.dropLast
  else place ++ [name]

/-- The last name of the path is one that a file can have. -/
def NamesFile (path : Path) : Prop :=
  ∃ name ∈ path.names.getLast?, name ≠ [] ∧ name ≠ [0x2e] ∧ name ≠ parentName

instance (path : Path) : Decidable path.NamesFile :=
  inferInstanceAs (Decidable (∃ _ ∈ path.names.getLast?, _))

theorem exists_append_of_separators (names : Path) :
    ∃ gone, 0x2f :: names = gone ++ 0x2f :: names.dropWhile (· == 0x2f) := by
  induction names with
  | nil => exact ⟨[], rfl⟩
  | cons byte rest ih =>
      rw [List.dropWhile_cons]
      split
      · rename_i separator
        obtain ⟨gone, rest_eq⟩ := ih
        refine ⟨0x2f :: gone, ?_⟩
        rw [List.cons_append, ← rest_eq, beq_iff_eq.mp separator]
      · exact ⟨[], rfl⟩

theorem exists_append_of_dropWhile {backwards : Path}
    (some : (backwards.dropWhile (· != 0x2f)).dropWhile (· == 0x2f) ≠ []) :
    ∃ gone, backwards =
      gone ++ 0x2f :: (backwards.dropWhile (· != 0x2f)).dropWhile (· == 0x2f) := by
  induction backwards with
  | nil => exact absurd rfl some
  | cons byte rest ih =>
      by_cases separator : byte = 0x2f
      · obtain ⟨gone, rest_eq⟩ := exists_append_of_separators rest
        refine ⟨gone, ?_⟩
        rw [List.dropWhile_cons_of_neg (by simp [separator]), separator,
          List.dropWhile_cons_of_pos (by rfl), ← rest_eq]
      · rw [List.dropWhile_cons_of_pos (by simp [separator])] at some ⊢
        obtain ⟨gone, rest_eq⟩ := ih some
        exact ⟨byte :: gone, congrArg (byte :: ·) rest_eq⟩

theorem eq_append_of_parent {path : Path} (some : path.parent ≠ []) :
    path.parent = [0x2f] ∨ ∃ rest, path = path.parent ++ 0x2f :: rest := by
  by_cases none : (path.reverse.dropWhile (· != 0x2f)).dropWhile (· == 0x2f) = []
  · rw [parent, none] at some ⊢
    split at some
    · rename_i rooted
      exact .inl (if_pos rooted)
    · exact absurd rfl some
  · have parent_eq : path.parent =
        ((path.reverse.dropWhile (· != 0x2f)).dropWhile (· == 0x2f)).reverse :=
      if_neg fun both => none both.1
    obtain ⟨gone, path_eq⟩ := exists_append_of_dropWhile none
    refine .inr ⟨gone.reverse, ?_⟩
    rw [parent_eq, ← List.reverse_reverse path]
    conv => lhs; rw [path_eq]
    rw [List.reverse_append, List.reverse_cons, List.append_assoc, List.singleton_append,
      List.reverse_reverse]

end Path

/-! ## Calls -/

/-- A tree and the directory that relative paths start from. -/
structure Disk where
  workingDirectory : List Bytes
  tree : DirectoryTree Bytes Bytes

/-- What the operating system answers during one operation.  The size is that of the file
or none; `directories` are those that can be made, `failingWrite` is the number of the write
that fails, and of what is written the first `reached` bytes reach the disk.  `message` is that of
an error code. -/
structure DiskAnswers where
  sizes : Bool
  modified : Option Int
  directories : Option Nat
  opens : Bool
  failingWrite : Option Nat
  copies : Bool
  reached : Option Nat
  reads : Bool
  deletes : Bool
  message : Bytes
  deriving DecidableEq

namespace DiskAnswers

/-- Everything succeeds. -/
def success : DiskAnswers where
  sizes := true
  modified := some 0
  directories := none
  opens := true
  failingWrite := none
  copies := true
  reached := none
  reads := true
  deletes := true
  message := []

/-- What is in the file after some data was written. -/
def onDisk (answers : DiskAnswers) (data : Bytes) : Bytes :=
  match answers.reached with
  | none => data
  | some count => data.take count

end DiskAnswers

/-- What `create_directories` did: whether there are all directories, the disk, and the
directories that it tried to make. -/
structure DirectoriesMade where
  complete : Bool
  disk : Disk
  tried : List Path

namespace Disk

variable (disk : Disk) (answers : DiskAnswers) (path : Path)

/-- Where the names of the path start from. -/
def start : List Bytes :=
  if path.isAbsolute then [] else disk.workingDirectory

/-- The place that the path leads to. -/
def place? : Option (List Bytes) :=
  if path = [] then none else disk.tree.walk Path.enter (disk.start path) path.names

/-- What is at the path. -/
def node? : Option (Node Bytes) :=
  (disk.place? path).bind disk.tree.node

/-- The content of the file at the path. -/
def file? : Option Bytes :=
  (disk.node? path).bind Node.content?

/-- `std::filesystem::exists`. -/
def exist : Bool :=
  (disk.node? path).isSome

/-- `std::filesystem::file_size`, of a file only. -/
def fileSize : Option Nat :=
  if answers.sizes then (disk.file? path).map List.length else none

/-- The disk with a file at a place. -/
def putFile (place : List Bytes) (content : Bytes) : Disk :=
  { disk with tree := disk.tree.put place (.file content) }

def createDirectories : DirectoriesMade :=
  if disk.tree.IsDirectory (disk.start path) then
    let made := disk.tree.makeWay Path.enter answers.directories (disk.start path) [] path.names
    ⟨made.1, { disk with tree := made.2.1 }, made.2.2.map Path.ofNames⟩
  else ⟨false, disk, []⟩

/-- The directories of a file that is to be written, made where its parent path does not
exist. -/
def makeParents : DirectoriesMade :=
  if path.parent ≠ [] ∧ ¬ disk.exist path.parent then disk.createDirectories answers path.parent
  else ⟨true, disk, []⟩

/-- The place of the file, if it can be opened for output. -/
def openOutput : Option (List Bytes) :=
  if answers.opens ∧ path.NamesFile then
    (disk.place? path).filter fun place => ¬ disk.tree.IsDirectory place
  else none

/-- `std::filesystem::copy_file` with `overwrite_existing`: whether it succeeds, and the disk. -/
def copyFile (source target : Path) : Bool × Disk :=
  match disk.file? source, disk.openOutput answers target with
  | some content, some place =>
      if disk.place? source = some place then (false, disk)
      else if answers.copies then (true, disk.putFile place content)
      else (false, disk.putFile place (answers.onDisk content))
  | _, _ => (false, disk)

/-- `std::filesystem::remove`: whether it sets no error, and the disk.  A directory goes away
only if nothing is in it. -/
def delete : Bool × Disk :=
  match disk.place? path with
  | none => (true, disk)
  | some place =>
      match disk.tree.node place with
      | none => (true, disk)
      | some node =>
          if answers.deletes ∧ place ≠ [] ∧
              (node.content?.isSome ∨ disk.tree.Bare place) then
            (true, { disk with tree := disk.tree.erase place })
          else (false, disk)

/-! ## Making directories -/

variable {disk answers path}

theorem grows_createDirectories :
    DirectoryTree.Grows disk.tree (disk.createDirectories answers path).disk.tree := by
  rw [createDirectories]
  split
  · exact DirectoryTree.grows_makeWay _ _ _ _ _
  · exact DirectoryTree.Grows.refl _

theorem grows_makeParents :
    DirectoryTree.Grows disk.tree (disk.makeParents answers path).disk.tree := by
  rw [makeParents]
  split
  · exact grows_createDirectories
  · exact DirectoryTree.Grows.refl _

theorem workingDirectory_makeParents :
    (disk.makeParents answers path).disk.workingDirectory = disk.workingDirectory := by
  rw [makeParents, createDirectories]
  split
  · split <;> rfl
  · rfl

theorem place?_eq_none_of_parent (some : path.parent ≠ []) (notRoot : path.parent ≠ [0x2f])
    (blocked : ∀ further, further ≠ [] →
      disk.tree.walk Path.enter (disk.start path.parent) (path.parent.names ++ further) = none) :
    disk.place? path = none := by
  rcases Path.eq_append_of_parent some with root | ⟨rest, path_eq⟩
  · exact absurd root notRoot
  · rw [place?]
    split
    · rfl
    · have names_eq : path.names = path.parent.names ++ rest.splitOn 0x2f := by
        conv => lhs; rw [path_eq, Path.names, List.splitOn_append_cons_self]
        rfl
      have start_eq : disk.start path = disk.start path.parent := by
        have head : path.isAbsolute = path.parent.isAbsolute := by
          rw [Path.isAbsolute, Path.isAbsolute]
          conv => lhs; rw [path_eq]
          cases parent_eq : path.parent with
          | nil => exact absurd parent_eq some
          | cons _ _ => rfl
        rw [start, start, head]
      rw [names_eq, start_eq]
      exact blocked _ (List.splitOn_ne_nil _ _)

theorem exist_root : disk.exist [0x2f] = true := by
  have place : disk.place? [0x2f] = some [] := by
    have start : disk.tree.IsDirectory [] := DirectoryTree.node_nil
    have names : Path.names [0x2f] = [[], []] := by decide
    rw [place?, if_neg (List.cons_ne_nil _ _), names]
    change disk.tree.walk Path.enter [] [[], []] = some []
    rw [DirectoryTree.walk, if_pos start]
    change disk.tree.walk Path.enter [] [[]] = some []
    rw [DirectoryTree.walk, if_pos start]
    rfl
  rw [exist, node?, place, Option.bind_some, DirectoryTree.node_nil]
  rfl

theorem node?_eq_none_of_parent (some : path.parent ≠ [])
    (missing : disk.exist path.parent = false) : disk.node? path = none := by
  have notRoot : path.parent ≠ [0x2f] := by
    intro root
    rw [root, exist_root] at missing
    cases missing
  rw [node?, place?_eq_none_of_parent some notRoot, Option.bind_none]
  intro further more
  rw [exist, node?, place?, if_neg some, Option.isSome_eq_false_iff, Option.isNone_iff_eq_none]
    at missing
  rw [DirectoryTree.walk_append]
  cases walked : disk.tree.walk Path.enter (disk.start path.parent) path.parent.names with
  | none => rfl
  | some reached =>
      rw [walked, Option.bind_some] at missing
      obtain ⟨next, beyond, rfl⟩ := List.exists_cons_of_ne_nil more
      rw [Option.bind_some, DirectoryTree.walk, if_neg]
      rw [DirectoryTree.IsDirectory, missing]
      exact (Option.some_ne_none _).symm

theorem node?_eq_none_of_incomplete
    (incomplete : (disk.makeParents answers path).complete = false) :
    disk.node? path = none ∧ (disk.makeParents answers path).disk.node? path = none := by
  by_cases needed : path.parent ≠ [] ∧ ¬ disk.exist path.parent
  · obtain ⟨some, missing⟩ := needed
    have absent : disk.exist path.parent = false := Bool.eq_false_of_not_eq_true missing
    have notRoot : path.parent ≠ [0x2f] := fun root => missing (root ▸ exist_root)
    refine ⟨node?_eq_none_of_parent some absent, ?_⟩
    rw [makeParents, if_pos ⟨some, missing⟩, createDirectories] at incomplete ⊢
    rw [node?, place?_eq_none_of_parent some notRoot, Option.bind_none]
    intro further more
    split at incomplete
    · rename_i there
      rw [if_pos there]
      exact DirectoryTree.walk_of_not_makeWay incomplete more
    · rename_i notThere
      rw [if_neg notThere]
      obtain ⟨name, rest, names⟩ :=
        List.exists_cons_of_ne_nil (List.splitOn_ne_nil (0x2f : UInt8) path.parent)
      have blocked : ¬ disk.tree.IsDirectory (disk.start path.parent) := notThere
      change disk.tree.walk Path.enter (disk.start path.parent)
        (path.parent.splitOn 0x2f ++ further) = none
      rw [names, List.cons_append, DirectoryTree.walk, if_neg blocked]
  · rw [makeParents, if_neg needed] at incomplete
    cases incomplete

theorem node?_makeParents {other : Path} {node : Node Bytes}
    (there : disk.node? other = some node) :
    (disk.makeParents answers path).disk.node? other = some node := by
  obtain ⟨place, walked, at_place⟩ := Option.bind_eq_some_iff.mp there
  have grows := @grows_makeParents disk answers path
  rw [place?] at walked
  split at walked
  · cases walked
  · rename_i some
    have walked_after : (disk.makeParents answers path).disk.place? other = Option.some place := by
      rw [place?, if_neg some, start, workingDirectory_makeParents]
      exact DirectoryTree.walk_of_directories (fun _ => grows.isDirectory) walked
    rw [node?, walked_after, Option.bind_some, grows.node_eq place, at_place]
    rw [at_place]
    exact Option.some_ne_none _

/-! ## Writing -/

variable {place : List Bytes}

theorem openOutput_eq_some (opened : disk.openOutput answers path = some place) :
    disk.place? path = some place ∧ ¬ disk.tree.IsDirectory place := by
  rw [openOutput] at opened
  split at opened
  · obtain ⟨found, other⟩ := Option.filter_eq_some_iff.mp opened
    exact ⟨found, of_decide_eq_true other⟩
  · cases opened

theorem ne_nil_of_not_isDirectory (other : ¬ disk.tree.IsDirectory place) : place ≠ [] := by
  rintro rfl
  exact other DirectoryTree.node_nil

theorem node?_putFile (opened : disk.openOutput answers path = some place) (content : Bytes) :
    (disk.putFile place content).node? path = some (.file content) := by
  obtain ⟨found, other⟩ := openOutput_eq_some opened
  have found_after : (disk.putFile place content).place? path = some place := by
    rw [place?] at found ⊢
    split at found
    · cases found
    · rename_i some
      rw [if_neg some]
      exact DirectoryTree.walk_put other _ found
  rw [node?, found_after, Option.bind_some]
  exact DirectoryTree.node_put_self (ne_nil_of_not_isDirectory other) _

end Disk

end FileTrans.Storage
