import FileTrans.Paths.Lexical
import FileTrans.Storage.FileSystem

/-!
# Lexical normal forms of POSIX paths

`std::filesystem::path::lexically_normal`, in its parts: whether the path
begins at the root, how many `..` it begins with, and the names after them.
At the root a `..` leads nowhere.
-/

namespace FileTrans.Storage

open FileTrans.Paths

/-- The normal form of a path. -/
structure NormalPath where
  rooted : Bool
  position : Position Bytes
  deriving DecidableEq

namespace Path

/-- The file name `..`. -/
def parentName : Bytes := [0x2e, 0x2e]

/-- The file names of a path, without those that lead nowhere. -/
def fileNames (path : Path) : List Bytes :=
  (path.splitOn 0x2f).filter fun name => name ≠ [] ∧ name ≠ [0x2e]

def isAbsolute (path : Path) : Bool :=
  path.head? == some 0x2f

/-- Where the file names lead to. -/
def position (path : Path) : Position Bytes :=
  Position.origin.walk parentName path.fileNames

def lexicallyNormal (path : Path) : NormalPath where
  rooted := path.isAbsolute
  position := if path.isAbsolute then ⟨0, path.position.names⟩ else path.position

/-- In normal form the path leads into the directory; strictly, or perhaps to the directory
itself. -/
def Inside (strictly : Bool) (directory path : Path) : Prop :=
  path.lexicallyNormal.rooted = directory.lexicallyNormal.rooted ∧
    directory.lexicallyNormal.position.climbs = path.lexicallyNormal.position.climbs ∧
    directory.lexicallyNormal.position.names <+: path.lexicallyNormal.position.names ∧
    (strictly = true →
      directory.lexicallyNormal.position.names ≠ path.lexicallyNormal.position.names)

instance (strictly : Bool) (directory path : Path) : Decidable (Inside strictly directory path) :=
  inferInstanceAs (Decidable (_ ∧ _))

/-- An absolute name goes down the names of the directory.  A relative one goes up no further
than a relative directory went down, and begins with the names of the directory that it went
up. -/
def LeadsInto (strictly : Bool) (directory name : Path) : Prop :=
  if name.isAbsolute then
    directory.isAbsolute = true ∧ directory.position.names <+: name.position.names ∧
      (strictly = true → directory.position.names ≠ name.position.names)
  else
    (directory.isAbsolute = true ∨
      name.position.climbs ≤ directory.position.names.length) ∧
    directory.position.names.drop (directory.position.names.length - name.position.climbs) <+:
      name.position.names ∧
    (strictly = true → directory.position.names.drop
      (directory.position.names.length - name.position.climbs) ≠ name.position.names)

instance (strictly : Bool) (directory name : Path) :
    Decidable (LeadsInto strictly directory name) := by
  unfold LeadsInto
  infer_instance

/-! ## Concatenation -/

theorem fileNames_separator (first second : Path) :
    fileNames (first ++ 0x2f :: second) = fileNames first ++ fileNames second := by
  rw [fileNames, List.splitOn_append_cons_self, List.filter_append]
  rfl

variable {name : Path}

theorem append_of_absolute (directory : Path) (absolute : name.isAbsolute = true) :
    directory.append name = name := by
  rw [Path.append, if_pos (beq_iff_eq.mp absolute)]

theorem fileNames_append (directory : Path) (relative : name.isAbsolute = false) :
    (directory.append name).fileNames = directory.fileNames ++ name.fileNames := by
  have other : name.head? ≠ some 0x2f := by
    intro absolute
    rw [isAbsolute, absolute] at relative
    contradiction
  rw [Path.append, if_neg other]
  split
  · rename_i joined
    rcases joined with rfl | separated
    · rfl
    · obtain ⟨before, rfl⟩ := List.getLast?_eq_some_iff.mp separated
      have trailing := fileNames_separator before []
      have none : fileNames [] = [] := rfl
      rw [none, List.append_nil] at trailing
      rw [List.append_assoc, List.singleton_append, fileNames_separator, trailing]
  · exact fileNames_separator directory name

theorem isAbsolute_append (directory : Path) (relative : name.isAbsolute = false) :
    (directory.append name).isAbsolute = directory.isAbsolute := by
  have other : name.head? ≠ some 0x2f := by
    intro absolute
    rw [isAbsolute, absolute] at relative
    contradiction
  rw [Path.append, if_neg other]
  cases directory with
  | nil => exact relative
  | cons byte rest => split <;> rfl

theorem position_append (directory : Path) (relative : name.isAbsolute = false) :
    (directory.append name).position = directory.position.comp name.position := by
  rw [position, fileNames_append directory relative, Position.walk_append, Position.walk_eq_comp]
  rfl

theorem inside_append_iff (strictly : Bool) (directory name : Path) :
    Inside strictly directory (directory.append name) ↔ LeadsInto strictly directory name := by
  rw [Inside, LeadsInto]
  cases absolute : name.isAbsolute with
  | true =>
      rw [append_of_absolute directory absolute, if_pos rfl, lexicallyNormal, lexicallyNormal,
        absolute]
      cases directory.isAbsolute with
      | true => simp
      | false => simp
  | false =>
      rw [if_neg Bool.false_ne_true, lexicallyNormal, lexicallyNormal,
        isAbsolute_append directory absolute, position_append directory absolute]
      cases directory.isAbsolute with
      | true =>
          simp only [if_true, Position.prefix_names_comp_iff, Ne, Position.names_comp_eq_iff,
            true_or, true_and]
      | false =>
          simp only [Bool.false_eq_true, if_false, Position.prefix_names_comp_iff, Ne,
            Position.names_comp_eq_iff, Position.climbs_comp_eq_iff, false_or, true_and]

/-- The way may leave the directory and come back. -/
example : LeadsInto true (Text.ascii "a/out") (Text.ascii "../out/x") := by decide

theorem leadsInto_of_plain (plain : 0x2f ∉ name) (some : name ≠ []) (notHere : name ≠ [0x2e])
    (notUp : name ≠ parentName) (strictly : Bool) (directory : Path) :
    LeadsInto strictly directory name := by
  have relative : name.isAbsolute = false := by
    rw [isAbsolute, beq_eq_false_iff_ne]
    exact fun absolute => plain (List.mem_of_head? absolute)
  have single : name.fileNames = [name] := by
    rw [fileNames, List.splitOn_eq_singleton plain,
      List.filter_cons_of_pos (by simp [some, notHere])]
    rfl
  have below : name.position = ⟨0, [name]⟩ := by
    rw [position, single, Position.walk, List.foldl_cons, Position.enter_name _ _ notUp]
    rfl
  rw [LeadsInto, relative, if_neg Bool.false_ne_true, below]
  dsimp only
  rw [Nat.sub_zero, List.drop_length]
  exact ⟨.inr (Nat.zero_le _), List.nil_prefix, fun _ => (List.cons_ne_nil name []).symm⟩

end Path

end FileTrans.Storage
