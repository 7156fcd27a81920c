import FileTrans.Server.LocalBackend

/-!
# Where the keys of the local backend lead

The path of a key is the base path followed by the key, and no operation checks
it.  An operation works at that path, and a store also tries to make the
directories on the way to it that are not there.  All of this is inside the
base path exactly if the key leads into it, read lexically, and each missing
directory is inside.
-/

namespace FileTrans.Storage.DirectoryTree

variable {ν β : Type} [DecidableEq ν] {enter : List ν → ν → List ν}

theorem tried_prefix (limit : Option Nat) (tree : DirectoryTree ν β) (place way names : List ν) :
    (tree.makeWay enter limit place way names).2.2 <+:
      (tree.makeWay enter none place way names).2.2 := by
  induction names generalizing limit tree place way with
  | nil => exact List.prefix_rfl
  | cons name rest ih =>
      rw [makeWay, makeWay]
      split
      · exact ih _ _ _ _
      · exact List.prefix_rfl
      · rw [if_neg (Option.some_ne_none 0).symm]
        split
        · exact ⟨_, rfl⟩
        · exact List.cons_prefix_cons.mpr ⟨rfl, ih _ _ _ _⟩

end FileTrans.Storage.DirectoryTree

namespace FileTrans.Server

open FileTrans.Core
open FileTrans.Storage

/-- An operation of the local backend on a key. -/
inductive KeyOperation
  | store (data : Bytes) (options : StoreOptions)
  | storeFile (filePath : Path) (options : StoreOptions)
  | retrieve
  | retrieveFile (filePath : Path)
  | remove
  | objectExists
  | getMetadata

namespace LocalBackend

/-- The paths at which an operation works for the key. -/
def touched (backend : LocalBackend) (answers : DiskAnswers) (key : Bytes) :
    KeyOperation → List Path
  | .store data options => (backend.store answers key data options).touched
  | .storeFile filePath options => (backend.storeFile answers key filePath options).touched
  | .retrieve => (backend.retrieve answers key).touched
  | .retrieveFile filePath => (backend.retrieveFile answers key filePath).touched
  | .remove => (backend.remove answers key).touched
  | .objectExists => (backend.objectExists key).touched
  | .getMetadata => (backend.getMetadata answers key).touched

/-- The directories on the way to the file of a key that are not there. -/
def missingParents (backend : LocalBackend) (key : Bytes) : List Path :=
  (backend.parentsMade .success key).tried

/-- The key leads into the base path, and so do the directories that are to be made. -/
def LeadsInside (backend : LocalBackend) (key : Bytes) : KeyOperation → Prop
  | .store _ _ =>
      Path.LeadsInto true backend.basePath key ∧
        ∀ directory ∈ backend.missingParents key, Path.Inside true backend.basePath directory
  | .storeFile filePath _ =>
      -- Without a source file nothing is done.
      backend.disk.file? filePath ≠ none →
        Path.LeadsInto true backend.basePath key ∧
          ∀ directory ∈ backend.missingParents key, Path.Inside true backend.basePath directory
  | _ => Path.LeadsInto true backend.basePath key

section

variable {backend : LocalBackend} {answers : DiskAnswers} {key : Bytes}

theorem mem_missingParents {directory : Path}
    (tried : directory ∈ (backend.parentsMade answers key).tried) :
    directory ∈ backend.missingParents key := by
  rw [missingParents]
  rw [parentsMade, Disk.makeParents] at tried ⊢
  split at tried
  · rename_i needed
    rw [if_pos needed]
    rw [Disk.createDirectories] at tried ⊢
    split at tried
    · rename_i there
      rw [if_pos there]
      exact ((DirectoryTree.tried_prefix _ _ _ _ _).map Path.ofNames).subset tried
    · cases tried
  · cases tried

theorem missingParents_of_exist (there : backend.disk.exist (backend.fullPathFor key) = true) :
    backend.missingParents key = [] := by
  rw [missingParents, parentsMade, Disk.makeParents, if_neg]
  rintro ⟨some, missing⟩
  rw [Disk.exist, Disk.node?_eq_none_of_parent some (Bool.eq_false_of_not_eq_true missing)]
    at there
  cases there

theorem touched_store (answers : DiskAnswers) (data : Bytes) (options : StoreOptions) :
    backend.fullPathFor key ∈ (backend.store answers key data options).touched ∧
      ∀ path ∈ (backend.store answers key data options).touched,
        path = backend.fullPathFor key ∨ path ∈ backend.missingParents key := by
  have either : ∀ path ∈ backend.fullPathFor key :: (backend.parentsMade answers key).tried,
      path = backend.fullPathFor key ∨ path ∈ backend.missingParents key := fun path mem =>
    (List.mem_cons.mp mem).imp_right mem_missingParents
  have ends := storeEnds_store backend answers key data options
  generalize backend.store answers key data options = outcome at ends ⊢
  cases ends with
  | refused kept =>
    exact ⟨List.mem_singleton_self _, fun path mem => .inl (List.mem_singleton.mp mem)⟩
  | noDirectories may incomplete => exact ⟨List.mem_cons_self, either⟩
  | notOpened may complete closed => exact ⟨List.mem_cons_self, either⟩
  | interrupted place may complete opened fails => exact ⟨List.mem_cons_self, either⟩
  | written place may complete opened passes => exact ⟨List.mem_cons_self, either⟩

theorem missingParents_subset_store (data : Bytes) (options : StoreOptions) {directory : Path}
    (missing : directory ∈ backend.missingParents key) :
    directory ∈ (backend.store .success key data options).touched := by
  have ends := storeEnds_store backend .success key data options
  generalize backend.store .success key data options = outcome at ends ⊢
  cases ends with
  | refused kept =>
      have there : backend.disk.exist (backend.fullPathFor key) = true :=
        (mayWrite_iff.not.mp kept |> not_not.mp).1
      rw [missingParents_of_exist there] at missing
      cases missing
  | noDirectories may incomplete => exact List.mem_cons_of_mem _ missing
  | notOpened may complete closed => exact List.mem_cons_of_mem _ missing
  | interrupted place may complete opened fails => exact List.mem_cons_of_mem _ missing
  | written place may complete opened passes => exact List.mem_cons_of_mem _ missing

theorem file?_ne_none_of_fileSize {disk : Disk} {path : Path} {size : Nat}
    (sized : disk.fileSize answers path = some size) : disk.file? path ≠ none := by
  rw [Disk.fileSize] at sized
  split at sized
  · obtain ⟨content, found, -⟩ := Option.map_eq_some_iff.mp sized
    rw [found]
    exact Option.some_ne_none _
  · cases sized

theorem touched_storeFile (answers : DiskAnswers) (filePath : Path) (options : StoreOptions) :
    ∀ path ∈ (backend.storeFile answers key filePath options).touched,
      backend.disk.file? filePath ≠ none ∧
        (path = backend.fullPathFor key ∨ path ∈ backend.missingParents key) := by
  intro path mem
  rw [storeFile] at mem
  split at mem
  · cases mem
  split at mem
  · cases mem
  rename_i fileSize sized
  refine ⟨file?_ne_none_of_fileSize sized, ?_⟩
  dsimp only at mem
  split at mem
  · exact .inl (List.mem_singleton.mp mem)
  · split at mem <;> exact (List.mem_cons.mp mem).imp_right mem_missingParents

theorem touched_storeFile_success {filePath : Path} (source : backend.disk.file? filePath ≠ none)
    (options : StoreOptions) :
    backend.fullPathFor key ∈ (backend.storeFile .success key filePath options).touched ∧
      ∀ directory ∈ backend.missingParents key,
        directory ∈ (backend.storeFile .success key filePath options).touched := by
  obtain ⟨content, found⟩ := Option.ne_none_iff_exists'.mp source
  have there : backend.disk.exist filePath = true := by
    obtain ⟨node, named, -⟩ := Option.bind_eq_some_iff.mp found
    rw [Disk.exist, named]
    rfl
  have sized : backend.disk.fileSize .success filePath = some content.length := by
    rw [Disk.fileSize, found]
    rfl
  rw [storeFile, if_neg (not_not.mpr there), sized]
  dsimp only
  split
  · rename_i refused
    refine ⟨List.mem_singleton_self _, fun directory missing => ?_⟩
    rw [missingParents_of_exist refused.1] at missing
    cases missing
  · split <;>
      exact ⟨List.mem_cons_self, fun directory missing => List.mem_cons_of_mem _ missing⟩

theorem touched_retrieve : (backend.retrieve answers key).touched = [backend.fullPathFor key] := by
  rw [retrieve]
  split
  · rfl
  split
  · split
    · rfl
    split <;> rfl
  · rfl

theorem touched_retrieveFile (filePath : Path) :
    (backend.retrieveFile answers key filePath).touched = [backend.fullPathFor key] := by
  rw [retrieveFile]
  split
  · rfl
  split
  · rfl
  dsimp only
  split <;> rfl

theorem touched_remove : (backend.remove answers key).touched = [backend.fullPathFor key] := by
  rw [remove]
  dsimp only
  split
  · rfl
  split <;> rfl

theorem touched_getMetadata :
    (backend.getMetadata answers key).touched = [backend.fullPathFor key] := by
  rw [getMetadata]
  split
  · rfl
  split <;> rfl

end

/-- Every path at which an operation works for a key is strictly inside the base path, whatever
the disk answers, exactly if the key and the missing directories lead inside. -/
theorem touched_inside_iff (backend : LocalBackend) (key : Bytes) (operation : KeyOperation) :
    (∀ answers, ∀ path ∈ backend.touched answers key operation,
      Path.Inside true backend.basePath path) ↔
    backend.LeadsInside key operation := by
  have target_iff : Path.Inside true backend.basePath (backend.fullPathFor key) ↔
      Path.LeadsInto true backend.basePath key := Path.inside_append_iff true backend.basePath key
  have alone : ∀ paths : DiskAnswers → List Path,
      (∀ answers, paths answers = [backend.fullPathFor key]) →
      ((∀ answers, ∀ path ∈ paths answers, Path.Inside true backend.basePath path) ↔
        Path.LeadsInto true backend.basePath key) := by
    intro paths only
    constructor
    · intro inside
      apply target_iff.mp
      apply inside .success
      rw [only]
      exact List.mem_singleton_self _
    · intro leads answers path mem
      rw [only, List.mem_singleton] at mem
      exact mem ▸ target_iff.mpr leads
  cases operation with
  | store data options =>
      constructor
      · intro inside
        exact ⟨target_iff.mp (inside .success _ (touched_store .success data options).1),
          fun directory missing =>
            inside .success _ (missingParents_subset_store data options missing)⟩
      · rintro ⟨leads, directories⟩ answers path mem
        rcases (touched_store answers data options).2 path mem with rfl | missing
        · exact target_iff.mpr leads
        · exact directories path missing
  | storeFile filePath options =>
      constructor
      · intro inside source
        have all := @touched_storeFile_success backend key filePath source options
        exact ⟨target_iff.mp (inside .success _ all.1),
          fun directory missing => inside .success _ (all.2 directory missing)⟩
      · intro leads answers path mem
        obtain ⟨source, rfl | missing⟩ := touched_storeFile answers filePath options path mem
        · exact target_iff.mpr (leads source).1
        · exact (leads source).2 path missing
  | retrieve => exact alone _ fun _ => touched_retrieve
  | retrieveFile filePath => exact alone _ fun _ => touched_retrieveFile filePath
  | remove => exact alone _ fun _ => touched_remove
  | objectExists => exact alone _ fun _ => rfl
  | getMetadata => exact alone _ fun _ => touched_getMetadata

namespace ConfinementSample

/-- An empty backend in `/s`. -/
def backend : LocalBackend where
  basePath := Text.ascii "/s"
  disk := ⟨[], Collections.Table.empty.insert ⟨[Text.ascii "s"], .directory⟩⟩

end ConfinementSample

open ConfinementSample in
/-- A key with `..` makes a file beside the base path, an absolute one anywhere, and the empty key
removes the base path. -/
theorem keys_leave_base_path :
    ¬ Path.Inside true (Text.ascii "/s") (Text.ascii "/s/../x") ∧
    ¬ Path.Inside true (Text.ascii "/s") (Text.ascii "/x") ∧
    ¬ Path.Inside true (Text.ascii "/s") (Text.ascii "/s/") ∧
    (backend.store .success (Text.ascii "../x") [1] .default).touched = [Text.ascii "/s/../x"] ∧
    (backend.store .success (Text.ascii "../x") [1] .default).disk.file? (Text.ascii "/x") =
      some [1] ∧
    (backend.store .success (Text.ascii "/x") [1] .default).touched = [Text.ascii "/x"] ∧
    (backend.store .success (Text.ascii "/x") [1] .default).disk.file? (Text.ascii "/x") =
      some [1] ∧
    (backend.remove .success []).touched = [Text.ascii "/s/"] ∧
    (backend.remove .success []).result = .ok () ∧
    (backend.remove .success []).disk.exist (Text.ascii "/s") = false := by
  decide +kernel

end LocalBackend

end FileTrans.Server
