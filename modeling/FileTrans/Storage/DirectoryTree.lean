import FileTrans.Collections.Table
import Mathlib.Data.List.Infix

/-!
# Trees of files and directories

A tree without links holds a file or a directory at some of its places.  A
place is the list of the names that lead to it from the root, where there is a
directory always.

A walk goes on from place to place, and each place that it goes on from has to
be a directory, also where the next name leads back up.  Where a name leads to
is a parameter.
-/

namespace FileTrans.Storage

open FileTrans.Collections

universe u v

/-- What a tree holds at a place. -/
inductive Node (β : Type v)
  | file (content : β)
  | directory
  deriving DecidableEq

/-- The content, if there is a file. -/
def Node.content? {β : Type v} : Node β → Option β
  | .file content => some content
  | .directory => none

/-- A place below the root, and what is there. -/
structure TreeEntry (ν : Type u) (β : Type v) where
  place : List ν
  node : Node β

/-- A tree, as the entries of its places. -/
abbrev DirectoryTree (ν : Type u) (β : Type v) :=
  Table fun entry : TreeEntry ν β => entry.place

namespace DirectoryTree

variable {ν : Type u} {β : Type v} [DecidableEq ν]

/-- What is at a place. -/
def node (tree : DirectoryTree ν β) (place : List ν) : Option (Node β) :=
  if place = [] then some .directory else (tree.find place).map TreeEntry.node

/-- The content of the file at a place. -/
def file? (tree : DirectoryTree ν β) (place : List ν) : Option β :=
  (tree.node place).bind Node.content?

/-- There is a directory at a place. -/
def IsDirectory (tree : DirectoryTree ν β) (place : List ν) : Prop :=
  tree.node place = some .directory

instance (tree : DirectoryTree ν β) (place : List ν) : Decidable (tree.IsDirectory place) :=
  decidable_of_iff ((tree.node place).any (fun node => node.content?.isNone) = true) <| by
    rw [IsDirectory]
    rcases tree.node place with _ | _ | _ <;> simp [Node.content?]

/-- Nothing is below a place. -/
def Bare (tree : DirectoryTree ν β) (place : List ν) : Prop :=
  ∀ entry ∈ tree.entries, place <+: entry.place → entry.place = place

instance (tree : DirectoryTree ν β) (place : List ν) : Decidable (tree.Bare place) :=
  inferInstanceAs (Decidable (∀ _ ∈ _, _))

/-- The tree with a node at a place. -/
def put (tree : DirectoryTree ν β) (place : List ν) (node : Node β) : DirectoryTree ν β :=
  tree.insert ⟨place, node⟩

/-- The place that a walk ends at, if it gets there. -/
def walk (enter : List ν → ν → List ν) (tree : DirectoryTree ν β) :
    List ν → List ν → Option (List ν)
  | place, [] => some place
  | place, name :: rest =>
      if tree.IsDirectory place then walk enter tree (enter place name) rest else none

/-- A walk that makes the directories that are not there, with whether it got to its end and the
ways to the places where it tried to make one.  It stops at a file, and at a directory that cannot
be made; after `limit` directories none can. -/
def makeWay (enter : List ν → ν → List ν) (limit : Option Nat) (tree : DirectoryTree ν β)
    (place way : List ν) : List ν → Bool × DirectoryTree ν β × List (List ν)
  | [] => (true, tree, [])
  | name :: rest =>
      match tree.node (enter place name) with
      | some .directory => makeWay enter limit tree (enter place name) (way ++ [name]) rest
      | some (.file _) => (false, tree, [])
      | none =>
          if limit = some 0 then (false, tree, [way ++ [name]])
          else
            let later := makeWay enter (limit.map (· - 1))
              (tree.put (enter place name) .directory) (enter place name) (way ++ [name]) rest
            (later.1, later.2.1, (way ++ [name]) :: later.2.2)

variable {tree other : DirectoryTree ν β} {enter : List ν → ν → List ν} {place : List ν}

/-! ## Nodes -/

@[simp]
theorem node_nil : tree.node [] = some .directory :=
  if_pos rfl

theorem node_of_ne_nil (below : place ≠ []) :
    tree.node place = (tree.find place).map TreeEntry.node :=
  if_neg below

theorem find_put (tree : DirectoryTree ν β) (place : List ν) (node : Node β) :
    (tree.put place node).find place = some ⟨place, node⟩ :=
  Table.find_insert

variable {elsewhere names : List ν}

theorem find_put_of_ne (differ : elsewhere ≠ place) (node : Node β) :
    (tree.put place node).find elsewhere = tree.find elsewhere :=
  Table.find_insert_of_ne differ

theorem node_put_self (below : place ≠ []) (node : Node β) :
    (tree.put place node).node place = some node := by
  rw [node_of_ne_nil below, find_put]
  rfl

theorem node_put_of_ne (differ : elsewhere ≠ place) (node : Node β) :
    (tree.put place node).node elsewhere = tree.node elsewhere := by
  by_cases root : elsewhere = []
  · rw [root, node_nil, node_nil]
  · rw [node_of_ne_nil root, node_of_ne_nil root, find_put_of_ne differ]

theorem ne_nil_of_node_eq_none (absent : tree.node place = none) : place ≠ [] := by
  rintro rfl
  rw [node_nil] at absent
  cases absent

/-! ## Trees that grow -/

/-- Nothing goes away, and no file comes. -/
structure Grows (tree other : DirectoryTree ν β) : Prop where
  node_eq : ∀ place, tree.node place ≠ none → other.node place = tree.node place
  file_eq : ∀ place, other.file? place = tree.file? place

theorem Grows.refl (tree : DirectoryTree ν β) : Grows tree tree :=
  ⟨fun _ _ => rfl, fun _ => rfl⟩

theorem Grows.trans {third : DirectoryTree ν β} (first : Grows tree other)
    (second : Grows other third) : Grows tree third where
  node_eq place there := by
    rw [second.node_eq place (first.node_eq place there ▸ there), first.node_eq place there]
  file_eq place := by rw [second.file_eq, first.file_eq]

theorem grows_put (absent : tree.node place = none) : Grows tree (tree.put place .directory) where
  node_eq elsewhere there := by
    apply node_put_of_ne
    rintro rfl
    exact there absent
  file_eq elsewhere := by
    by_cases same : elsewhere = place
    · rw [same, file?, file?, node_put_self (ne_nil_of_node_eq_none absent), absent]
      rfl
    · rw [file?, file?, node_put_of_ne same]

theorem Grows.isDirectory (grows : Grows tree other) (there : tree.IsDirectory place) :
    other.IsDirectory place := by
  have some : tree.node place ≠ none := by
    rw [there]
    exact Option.some_ne_none _
  rw [IsDirectory, grows.node_eq place some, there]

/-! ## Walks -/

theorem walk_append (tree : DirectoryTree ν β) (place first second : List ν) :
    tree.walk enter place (first ++ second) =
      (tree.walk enter place first).bind fun reached => tree.walk enter reached second := by
  induction first generalizing place with
  | nil => rfl
  | cons name rest ih =>
      rw [List.cons_append, walk, walk]
      split
      · exact ih (enter place name)
      · rfl

theorem walk_of_directories (stay : ∀ place, tree.IsDirectory place → other.IsDirectory place)
    {reached : List ν} (gets : tree.walk enter place names = some reached) :
    other.walk enter place names = some reached := by
  induction names generalizing place with
  | nil => exact gets
  | cons name rest ih =>
      rw [walk] at gets ⊢
      split at gets
      · rename_i there
        rw [if_pos (stay place there)]
        exact ih gets
      · cases gets

theorem walk_put {reached : List ν} (notDirectory : ¬ tree.IsDirectory elsewhere) (node : Node β)
    (gets : tree.walk enter place names = some reached) :
    (tree.put elsewhere node).walk enter place names = some reached := by
  refine walk_of_directories ?_ gets
  intro between there
  have differ : between ≠ elsewhere := fun same => notDirectory (same ▸ there)
  rw [IsDirectory, node_put_of_ne differ, there]

theorem grows_makeWay (limit : Option Nat) (tree : DirectoryTree ν β) (place way names : List ν) :
    Grows tree (tree.makeWay enter limit place way names).2.1 := by
  induction names generalizing limit tree place way with
  | nil => exact Grows.refl tree
  | cons name rest ih =>
      rw [makeWay]
      split
      · exact ih limit tree (enter place name) (way ++ [name])
      · exact Grows.refl tree
      · rename_i absent
        split
        · exact Grows.refl tree
        · exact (grows_put absent).trans (ih _ _ _ _)

theorem walk_of_not_makeWay {limit : Option Nat} {way further : List ν}
    (failed : (tree.makeWay enter limit place way names).1 = false) (more : further ≠ []) :
    (tree.makeWay enter limit place way names).2.1.walk enter place (names ++ further) = none := by
  obtain ⟨next, beyond, rfl⟩ := List.exists_cons_of_ne_nil more
  induction names generalizing limit tree place way with
  | nil => cases failed
  | cons name rest ih =>
      -- A walk that comes to something else than a directory goes no further.
      have stops : ∀ tree : DirectoryTree ν β, ¬ tree.IsDirectory (enter place name) →
          tree.walk enter place (name :: rest ++ next :: beyond) = none := by
        intro tree blocked
        rw [List.cons_append, walk]
        split
        · cases rest with
          | nil => exact if_neg blocked
          | cons _ _ => exact if_neg blocked
        · rfl
      rw [makeWay] at failed ⊢
      split at failed
      · rw [List.cons_append, walk]
        split
        · exact ih failed
        · rfl
      · rename_i content there
        apply stops
        rw [IsDirectory, there]
        intro same
        cases same
      · rename_i absent
        split at failed
        · rename_i spent
          rw [if_pos spent]
          apply stops
          rw [IsDirectory, absent]
          exact (Option.some_ne_none _).symm
        · rename_i allowed
          rw [if_neg allowed, List.cons_append, walk]
          split
          · exact ih failed
          · rfl

/-! ## Weights of files -/

/-- What a file at a place counts for; a directory counts for nothing. -/
def weigh (counts : List ν → Bool) (measure : β → Nat) (entry : TreeEntry ν β) : Nat :=
  if counts entry.place then (entry.node.content?.map measure).getD 0 else 0

/-- What the files count for together. -/
def fileTotal (counts : List ν → Bool) (measure : β → Nat) (tree : DirectoryTree ν β) : Nat :=
  tree.total (weigh counts measure)

variable {counts : List ν → Bool} {measure : β → Nat}

theorem weigh_find (below : place ≠ []) :
    ((tree.find place).map (weigh counts measure)).getD 0 =
      if counts place then ((tree.file? place).map measure).getD 0 else 0 := by
  rw [file?, node_of_ne_nil below]
  cases found : tree.find place with
  | none => split <;> rfl
  | some entry =>
      obtain ⟨-, rfl⟩ := Table.find_eq_some_iff.mp found
      rfl

theorem fileTotal_put_file (below : place ≠ []) (content : β) :
    (tree.put place (.file content)).fileTotal counts measure +
        (if counts place then ((tree.file? place).map measure).getD 0 else 0) =
      tree.fileTotal counts measure + if counts place then measure content else 0 := by
  rw [← weigh_find below]
  exact Table.total_insert (weigh counts measure) tree ⟨place, .file content⟩

theorem fileTotal_put_directory (absent : tree.node place = none) :
    (tree.put place .directory).fileTotal counts measure = tree.fileTotal counts measure := by
  have below := ne_nil_of_node_eq_none absent
  have total := Table.total_insert (weigh counts measure) tree ⟨place, .directory⟩
  have weightless : weigh counts measure (⟨place, .directory⟩ : TreeEntry ν β) = 0 := by
    rw [weigh]
    split <;> rfl
  rw [node_of_ne_nil below, Option.map_eq_none_iff] at absent
  rw [absent, weightless] at total
  exact total

theorem fileTotal_erase (below : place ≠ []) :
    fileTotal counts measure (tree.erase place) +
        (if counts place then ((tree.file? place).map measure).getD 0 else 0) =
      tree.fileTotal counts measure := by
  rw [← weigh_find below]
  exact Table.total_erase (weigh counts measure) tree place

theorem fileTotal_makeWay (limit : Option Nat) (tree : DirectoryTree ν β)
    (place way names : List ν) :
    (tree.makeWay enter limit place way names).2.1.fileTotal counts measure =
      tree.fileTotal counts measure := by
  induction names generalizing limit tree place way with
  | nil => rfl
  | cons name rest ih =>
      rw [makeWay]
      split
      · exact ih _ _ _ _
      · rfl
      · rename_i absent
        split
        · rfl
        · exact (ih _ _ _ _).trans (fileTotal_put_directory absent)

end DirectoryTree

end FileTrans.Storage
