import Mathlib.Data.List.Dedup
import Mathlib.Algebra.BigOperators.Group.List.Basic
import Mathlib.Algebra.GroupWithZero.Nat

/-!
# Tables of entries with distinct keys

A table holds at most one entry for every key.  Its entries come in some
order, that of an iteration; inserting an entry replaces the one with its key.
-/

namespace FileTrans.Collections

universe u v

/-- Entries with distinct keys, in the order of an iteration. -/
structure Table {α : Type u} {κ : Type v} (key : α → κ) where
  entries : List α
  nodup : (entries.map key).Nodup

namespace Table

variable {α : Type u} {κ : Type v} [DecidableEq κ] {key : α → κ}

/-- The table without entries. -/
def empty : Table key :=
  ⟨[], List.nodup_nil⟩

/-- The number of entries. -/
def size (table : Table key) : Nat :=
  table.entries.length

/-- The entry with this key. -/
def find (table : Table key) (wanted : κ) : Option α :=
  table.entries.find? fun entry => key entry = wanted

/-- Only the entries that meet the test. -/
def keep (table : Table key) (test : α → Bool) : Table key :=
  ⟨table.entries.filter test, table.nodup.sublist (List.filter_sublist.map key)⟩

/-- Without the entry with this key. -/
def erase (table : Table key) (unwanted : κ) : Table key :=
  table.keep fun entry => key entry ≠ unwanted

omit [DecidableEq κ] in
theorem mem_keep {table : Table key} {test : α → Bool} {entry : α} :
    entry ∈ (table.keep test).entries ↔ entry ∈ table.entries ∧ test entry = true :=
  List.mem_filter

theorem mem_erase {table : Table key} {unwanted : κ} {entry : α} :
    entry ∈ (table.erase unwanted).entries ↔ entry ∈ table.entries ∧ key entry ≠ unwanted := by
  simp [erase, mem_keep]

/-- With this entry, in place of one with the same key. -/
def insert (table : Table key) (entry : α) : Table key where
  entries := (table.erase (key entry)).entries ++ [entry]
  nodup := by
    rw [List.map_append, List.map_singleton, ← List.concat_eq_append]
    apply List.Nodup.concat _ (table.erase (key entry)).nodup
    intro mem
    rcases List.mem_map.mp mem with ⟨other, kept, same⟩
    exact (mem_erase.mp kept).2 same

/-- Insert the entries one after the other. -/
def insertAll (table : Table key) (added : List α) : Table key :=
  added.foldl insert table

/-- The same entries in another order. -/
def reorder (table : Table key) (entries : List α) (perm : entries.Perm table.entries) :
    Table key :=
  ⟨entries, (perm.map key).nodup_iff.mpr table.nodup⟩

variable {table : Table key} {entry other : α} {wanted : κ}

/-! ## Lookup -/

omit [DecidableEq κ] in
theorem eq_of_key_eq (first : entry ∈ table.entries) (second : other ∈ table.entries)
    (same : key entry = key other) : entry = other :=
  List.inj_on_of_nodup_map table.nodup first second same

theorem find_eq_some_iff :
    table.find wanted = some entry ↔ entry ∈ table.entries ∧ key entry = wanted := by
  constructor
  · intro found
    have same := List.find?_some (p := fun entry => decide (key entry = wanted)) found
    exact ⟨List.mem_of_find?_eq_some found, of_decide_eq_true same⟩
  · rintro ⟨mem, rfl⟩
    cases found : table.find (key entry) with
    | none => simpa using List.find?_eq_none.mp found entry mem
    | some other =>
        have same := List.find?_some (p := fun other => decide (key other = key entry)) found
        rw [eq_of_key_eq (List.mem_of_find?_eq_some found) mem (of_decide_eq_true same)]

theorem find_eq_none_iff :
    table.find wanted = none ↔ ∀ entry ∈ table.entries, key entry ≠ wanted := by
  simp [find]

theorem find_eq_none_iff_not_mem : table.find wanted = none ↔ wanted ∉ table.entries.map key := by
  rw [find_eq_none_iff, List.mem_map]
  simp

theorem find_keep {test : α → Bool} :
    (table.keep test).find wanted = (table.find wanted).filter test := by
  apply Option.ext
  intro entry
  rw [find_eq_some_iff, mem_keep, Option.filter_eq_some_iff, find_eq_some_iff, and_right_comm]

theorem find_erase : (table.erase wanted).find wanted = none :=
  find_eq_none_iff.mpr fun _ mem => (mem_erase.mp mem).2

theorem find_erase_of_ne {unwanted : κ} (differ : wanted ≠ unwanted) :
    (table.erase unwanted).find wanted = table.find wanted := by
  apply Option.ext
  intro entry
  rw [find_eq_some_iff, find_eq_some_iff, mem_erase, and_right_comm, and_iff_left_iff_imp]
  rintro ⟨-, rfl⟩
  exact differ

/-! ## Insertion -/

theorem mem_insert :
    other ∈ (table.insert entry).entries ↔
      other = entry ∨ other ∈ table.entries ∧ key other ≠ key entry := by
  rw [insert, List.mem_append, List.mem_singleton, mem_erase, or_comm]

theorem find_insert : (table.insert entry).find (key entry) = some entry :=
  find_eq_some_iff.mpr ⟨mem_insert.mpr (.inl rfl), rfl⟩

theorem find_insert_of_ne (differ : wanted ≠ key entry) :
    (table.insert entry).find wanted = table.find wanted := by
  apply Option.ext
  intro found
  rw [find_eq_some_iff, find_eq_some_iff, mem_insert]
  constructor
  · rintro ⟨rfl | ⟨mem, -⟩, rfl⟩
    · exact absurd rfl differ
    · exact ⟨mem, rfl⟩
  · rintro ⟨mem, rfl⟩
    exact ⟨.inr ⟨mem, differ⟩, rfl⟩

theorem erase_eq_self (absent : table.find wanted = none) : table.erase wanted = table := by
  rcases table with ⟨entries, nodup⟩
  have all : entries.filter (fun entry => decide (key entry ≠ wanted)) = entries :=
    List.filter_eq_self.mpr fun entry mem =>
      decide_eq_true (find_eq_none_iff.mp absent entry mem)
  simp only [erase, keep, all]

theorem size_insert_of_absent (absent : table.find (key entry) = none) :
    (table.insert entry).size = table.size + 1 := by
  have length : (table.insert entry).size = (table.erase (key entry)).size + 1 :=
    List.length_append
  rw [length, erase_eq_self absent]

/-- An entry and those that stay without it. -/
theorem perm_erase_of_mem (mem : entry ∈ table.entries) :
    table.entries.Perm (entry :: (table.erase (key entry)).entries) := by
  have absent : entry ∉ (table.erase (key entry)).entries :=
    fun there => (mem_erase.mp there).2 rfl
  apply (List.perm_ext_iff_of_nodup table.nodup.of_map
    (List.nodup_cons.mpr ⟨absent, (table.erase (key entry)).nodup.of_map⟩)).mpr
  intro other
  rw [List.mem_cons, mem_erase]
  constructor
  · intro there
    by_cases same : key other = key entry
    · exact .inl (eq_of_key_eq there mem same)
    · exact .inr ⟨there, same⟩
  · rintro (rfl | ⟨there, -⟩)
    · exact mem
    · exact there

theorem size_erase_of_mem (mem : entry ∈ table.entries) :
    (table.erase (key entry)).size + 1 = table.size :=
  (perm_erase_of_mem mem).length_eq.symm

theorem size_insert_of_present (present : other ∈ table.entries) (same : key other = key entry) :
    (table.insert entry).size = table.size := by
  have length : (table.insert entry).size = (table.erase (key entry)).size + 1 :=
    List.length_append
  rw [length, ← same, size_erase_of_mem present]

omit [DecidableEq κ] in
theorem size_keep_le (test : α → Bool) : (table.keep test).size ≤ table.size :=
  List.length_filter_le _ _

/-! ## Totals -/

/-- What the entries weigh together. -/
def total (weight : α → Nat) (table : Table key) : Nat :=
  (table.entries.map weight).sum

omit [DecidableEq κ] in
@[simp]
theorem total_empty (weight : α → Nat) : (empty : Table key).total weight = 0 :=
  rfl

theorem total_erase_of_mem (weight : α → Nat) (mem : entry ∈ table.entries) :
    (table.erase (key entry)).total weight + weight entry = table.total weight := by
  have parts := ((perm_erase_of_mem mem).map weight).sum_eq
  rw [List.map_cons, List.sum_cons] at parts
  rw [total, total, parts, Nat.add_comm]

/-- An entry that goes away takes its weight along. -/
theorem total_erase (weight : α → Nat) (table : Table key) (unwanted : κ) :
    (table.erase unwanted).total weight + ((table.find unwanted).map weight).getD 0 =
      table.total weight := by
  cases found : table.find unwanted with
  | none => rw [erase_eq_self found, Option.map_none, Option.getD_none, Nat.add_zero]
  | some entry =>
      obtain ⟨mem, rfl⟩ := find_eq_some_iff.mp found
      exact total_erase_of_mem weight mem

/-- An inserted entry adds its weight and takes that of the one it replaces. -/
theorem total_insert (weight : α → Nat) (table : Table key) (entry : α) :
    (table.insert entry).total weight + ((table.find (key entry)).map weight).getD 0 =
      table.total weight + weight entry := by
  have added : (table.insert entry).total weight =
      (table.erase (key entry)).total weight + weight entry := by
    rw [total, insert, List.map_append, List.sum_append, List.map_singleton, List.sum_singleton]
    rfl
  rw [added, ← total_erase weight table (key entry), Nat.add_right_comm]

/-! ## Several insertions -/

@[simp]
theorem insertAll_nil : table.insertAll [] = table :=
  rfl

@[simp]
theorem insertAll_cons (added : List α) :
    table.insertAll (entry :: added) = (table.insert entry).insertAll added :=
  rfl

/-- Entries with distinct new keys are all there after they were inserted. -/
theorem mem_insertAll {added : List α} (distinct : (added.map key).Nodup)
    (fresh : ∀ entry ∈ added, ∀ old ∈ table.entries, key old ≠ key entry) :
    entry ∈ (table.insertAll added).entries ↔ entry ∈ table.entries ∨ entry ∈ added := by
  induction added generalizing table with
  | nil => simp
  | cons first rest ih =>
      rw [List.map_cons, List.nodup_cons] at distinct
      have stays : ∀ old ∈ table.entries, key old ≠ key first :=
        fresh first List.mem_cons_self
      rw [insertAll_cons, ih distinct.2, mem_insert, List.mem_cons]
      · constructor
        · rintro ((rfl | ⟨old, -⟩) | later)
          · exact .inr (.inl rfl)
          · exact .inl old
          · exact .inr (.inr later)
        · rintro (old | rfl | later)
          · exact .inl (.inr ⟨old, stays _ old⟩)
          · exact .inl (.inl rfl)
          · exact .inr later
      · intro added mem old there
        rcases mem_insert.mp there with rfl | ⟨old, -⟩
        · intro same
          exact distinct.1 (List.mem_map.mpr ⟨added, mem, same.symm⟩)
        · exact fresh added (List.mem_cons_of_mem _ mem) _ old

/-- The keys after several insertions. -/
theorem mem_map_insertAll {added : List α} {wanted : κ} :
    wanted ∈ (table.insertAll added).entries.map key ↔
      wanted ∈ table.entries.map key ∨ wanted ∈ added.map key := by
  induction added generalizing table with
  | nil => simp
  | cons first rest ih =>
      have one : wanted ∈ (table.insert first).entries.map key ↔
          wanted = key first ∨ wanted ∈ table.entries.map key := by
        simp only [List.mem_map, mem_insert]
        constructor
        · rintro ⟨found, rfl | ⟨old, -⟩, rfl⟩
          · exact .inl rfl
          · exact .inr ⟨found, old, rfl⟩
        · rintro (rfl | ⟨old, mem, rfl⟩)
          · exact ⟨first, .inl rfl, rfl⟩
          · by_cases same : key old = key first
            · exact ⟨first, .inl rfl, same.symm⟩
            · exact ⟨old, .inr ⟨mem, same⟩, rfl⟩
      rw [insertAll_cons, ih, one, List.map_cons, List.mem_cons, or_assoc, or_left_comm]

/-- The number of entries inserted into the empty table is that of their keys. -/
theorem size_insertAll_empty (added : List α) :
    ((empty : Table key).insertAll added).size = (added.map key).dedup.length := by
  rw [size, ← List.length_map (f := key)]
  apply List.Perm.length_eq
  apply (List.perm_ext_iff_of_nodup (insertAll empty added).nodup (List.nodup_dedup _)).mpr
  intro wanted
  rw [mem_map_insertAll, List.mem_dedup]
  simp [empty]

end Table

/-! ## The latest write of a key

A store that is written key by key holds the latest value of each key.  The
values of a list of keys are gathered in the order of the list; of distinct keys
that were written one after the other they are all that was written.
-/

variable {κ : Type u} {β : Type v} [DecidableEq κ]

/-- The value that was written last under the key. -/
def latest (key : κ) : List (κ × β) → Option β
  | [] => none
  | write :: rest =>
      match latest key rest with
      | some value => some value
      | none => if write.1 = key then some write.2 else none

variable {key : κ} {value : β} {writes : List (κ × β)}

theorem latest_eq_none_iff : latest key writes = none ↔ key ∉ writes.map Prod.fst := by
  induction writes with
  | nil => simp [latest]
  | cons first rest ih =>
      rw [latest, List.map_cons, List.mem_cons, not_or, ← ih]
      cases latest key rest with
      | some found => simp
      | none => simp [eq_comm]

/-- Later writes count first. -/
theorem latest_append (first second : List (κ × β)) :
    latest key (first ++ second) = (latest key second).or (latest key first) := by
  induction first with
  | nil => simp [latest]
  | cons write rest ih =>
      rw [List.cons_append, latest, ih, latest]
      cases latest key second with
      | some value => rfl
      | none => rfl

/-- A key that was written once holds what was written. -/
theorem latest_of_mem (distinct : (writes.map Prod.fst).Nodup) (mem : (key, value) ∈ writes) :
    latest key writes = some value := by
  induction writes with
  | nil => contradiction
  | cons first rest ih =>
      rw [List.map_cons, List.nodup_cons] at distinct
      rw [latest]
      rcases List.mem_cons.mp mem with rfl | mem
      · rw [latest_eq_none_iff.mpr distinct.1]
        simp
      · rw [ih distinct.2 mem]

/-! ## Gathering -/

variable {ρ : Type u} {α : Type v}

/-- The concatenation of what the listed names refer to, if every one refers to something. -/
def gather (fetch : ρ → Option (List α)) : List ρ → Option (List α)
  | [] => some []
  | name :: rest =>
      match fetch name, gather fetch rest with
      | some first, some later => some (first ++ later)
      | _, _ => none

/-- The names of some contents gather their concatenation. -/
theorem gather_of_forall {fetch : ρ → Option (List α)} {names : List ρ}
    {contents : List (List α)}
    (fetched : List.Forall₂ (fun name content => fetch name = some content) names contents) :
    gather fetch names = some contents.flatten := by
  induction fetched with
  | nil => rfl
  | cons first _ ih => rw [gather, first, ih, List.flatten_cons]

/-- A name that refers to nothing leaves nothing to gather. -/
theorem gather_eq_none {fetch : ρ → Option (List α)} {names : List ρ} {name : ρ}
    (mem : name ∈ names) (missing : fetch name = none) : gather fetch names = none := by
  induction names with
  | nil => contradiction
  | cons first rest ih =>
      rw [gather]
      rcases List.mem_cons.mp mem with rfl | mem
      · rw [missing]
      · rw [ih mem]
        cases fetch first <;> rfl

end FileTrans.Collections
