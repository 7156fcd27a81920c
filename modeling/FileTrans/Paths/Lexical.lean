import Mathlib.Data.List.Infix

/-!
# Lexical positions

A relative way through a tree is a list of names, one of which means the
parent.  Read lexically it comes down to a position: how often it goes up from
where it starts, and the names that it goes down from there.  Two ways one
after the other compose their positions.
-/

namespace FileTrans.Paths

/-- A position relative to a start: up first, and then down. -/
structure Position (α : Type) where
  climbs : Nat
  names : List α
  deriving DecidableEq

theorem prefix_take_append_iff {α : Type} (names : List α) (count : Nat) (further : List α) :
    names <+: names.take count ++ further ↔ names.drop count <+: further := by
  have parts := List.take_append_drop count names
  constructor
  · rintro ⟨rest, same⟩
    have whole : names.take count ++ (names.drop count ++ rest) = names.take count ++ further := by
      rw [← List.append_assoc, parts, same]
    exact ⟨rest, List.append_cancel_left whole⟩
  · rintro ⟨rest, same⟩
    refine ⟨rest, ?_⟩
    rw [← same, ← List.append_assoc, parts]

namespace Position

variable {α : Type}

/-- The start. -/
def origin : Position α :=
  ⟨0, []⟩

/-- Go on to a name, or to the parent. -/
def enter [DecidableEq α] (parent : α) (position : Position α) (name : α) : Position α :=
  if name ≠ parent then { position with names := position.names ++ [name] }
  else if position.names = [] then { position with climbs := position.climbs + 1 }
  else { position with names := position.names.dropLast }

/-- Go the whole way. -/
def walk [DecidableEq α] (parent : α) (position : Position α) (way : List α) : Position α :=
  way.foldl (enter parent) position

/-- The second position, from the first one on. -/
def comp (first second : Position α) : Position α :=
  if second.climbs ≤ first.names.length then
    ⟨first.climbs, first.names.take (first.names.length - second.climbs) ++ second.names⟩
  else ⟨first.climbs + (second.climbs - first.names.length), second.names⟩

theorem comp_origin (position : Position α) : position.comp origin = position := by
  rw [comp, origin, if_pos (Nat.zero_le _), Nat.sub_zero, List.take_length, List.append_nil]

section

variable [DecidableEq α] (parent : α)

theorem enter_name (position : Position α) {name : α} (proper : name ≠ parent) :
    position.enter parent name = { position with names := position.names ++ [name] } :=
  if_pos proper

theorem enter_parent_of_nil {position : Position α} (start : position.names = []) :
    position.enter parent parent = { position with climbs := position.climbs + 1 } := by
  rw [enter, if_neg (not_not.mpr rfl), if_pos start]

theorem enter_parent_of_ne_nil {position : Position α} (below : position.names ≠ []) :
    position.enter parent parent = { position with names := position.names.dropLast } := by
  rw [enter, if_neg (not_not.mpr rfl), if_neg below]

theorem enter_parent_comp (first : Position α) (climbs : Nat) :
    (first.comp ⟨climbs, []⟩).enter parent parent = first.comp ⟨climbs + 1, []⟩ := by
  rw [comp, comp]
  dsimp only
  by_cases fits : climbs + 1 ≤ first.names.length
  · have some : first.names.take (first.names.length - climbs) ++ [] ≠ [] := by
      rw [List.append_nil, ← List.length_pos_iff, List.length_take]
      omega
    have last : min (min (first.names.length - climbs) first.names.length - 1)
        (first.names.length - climbs) = first.names.length - (climbs + 1) := by omega
    rw [if_pos (Nat.le_of_succ_le fits), if_pos fits, enter_parent_of_ne_nil parent some]
    dsimp only
    rw [List.append_nil, List.append_nil, List.dropLast_eq_take, List.length_take, List.take_take,
      last]
  · rw [if_neg fits]
    split
    · rename_i least
      have all : first.names.length - climbs = 0 := by omega
      rw [all, List.take_zero, List.append_nil, enter_parent_of_nil parent rfl]
      dsimp only
      congr 1
      omega
    · rw [enter_parent_of_nil parent rfl]
      dsimp only
      congr 1
      omega

theorem enter_comp (first second : Position α) (name : α) :
    (first.comp second).enter parent name = first.comp (second.enter parent name) := by
  by_cases proper : name ≠ parent
  · rw [enter_name parent _ proper, enter_name parent _ proper, comp, comp]
    dsimp only
    split
    · rw [List.append_assoc]
    · rfl
  · obtain rfl := not_not.mp proper
    by_cases below : second.names = []
    · obtain ⟨climbs, names⟩ := second
      obtain rfl : names = [] := below
      have climbed : (Position.mk climbs []).enter name name = ⟨climbs + 1, []⟩ :=
        enter_parent_of_nil name rfl
      rw [climbed]
      exact enter_parent_comp name first climbs
    · have both : (first.comp second).names ≠ [] := by
        rw [comp]
        split
        · exact List.append_ne_nil_of_right_ne_nil _ below
        · exact below
      rw [enter_parent_of_ne_nil name both, enter_parent_of_ne_nil name below, comp, comp]
      dsimp only
      split
      · rw [List.dropLast_append_of_ne_nil below]
      · rfl

theorem walk_eq_comp (position : Position α) (way : List α) :
    position.walk parent way = position.comp (origin.walk parent way) := by
  have from_any (second : Position α) :
      (position.comp second).walk parent way = position.comp (second.walk parent way) := by
    induction way generalizing second with
    | nil => rfl
    | cons name rest ih =>
        rw [walk, List.foldl_cons, enter_comp]
        exact ih (second.enter parent name)
  have start := from_any origin
  rwa [comp_origin] at start

theorem walk_append (position : Position α) (first second : List α) :
    position.walk parent (first ++ second) = (position.walk parent first).walk parent second :=
  List.foldl_append

end

/-- From the first position on, the second one goes down the names of the first again, exactly
if it begins with those that it went up. -/
theorem prefix_names_comp_iff (first second : Position α) :
    first.names <+: (first.comp second).names ↔
      first.names.drop (first.names.length - second.climbs) <+: second.names := by
  rw [comp]
  split
  · exact prefix_take_append_iff first.names _ second.names
  · rename_i beyond
    have all : first.names.length - second.climbs = 0 := by omega
    rw [all, List.drop_zero]

theorem names_comp_eq_iff (first second : Position α) :
    first.names = (first.comp second).names ↔
      first.names.drop (first.names.length - second.climbs) = second.names := by
  rw [comp]
  split
  · have parts := List.take_append_drop (first.names.length - second.climbs) first.names
    constructor
    · intro same
      exact List.append_cancel_left (parts.trans same)
    · intro same
      dsimp only
      rw [← same, parts]
  · rename_i beyond
    have all : first.names.length - second.climbs = 0 := by omega
    rw [all, List.drop_zero]

/-- It goes up no further than the first position went down, exactly if both together do not go
up further than the first. -/
theorem climbs_comp_eq_iff (first second : Position α) :
    first.climbs = (first.comp second).climbs ↔ second.climbs ≤ first.names.length := by
  rw [comp]
  split
  · rename_i fits
    exact iff_of_true rfl fits
  · rename_i beyond
    refine iff_of_false ?_ beyond
    dsimp only
    omega

end Position

end FileTrans.Paths
