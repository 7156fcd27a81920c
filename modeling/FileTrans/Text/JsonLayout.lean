import FileTrans.Text.JsonWriter

/-!
# Laid out documents

Objects and arrays are written with white space between their tokens.  A search for a
name in quotes stops at the member with that name if the name in quotes is no part of
the text in front of it.  The braces of a text, also those within its strings, may pair
up; then the first brace is closed by the last one.
-/

namespace FileTrans.Text

/-! ## Searches -/

theorem find_eq_none_iff {pattern text : Bytes} :
    find pattern text = none ↔ ¬ pattern <:+: text := by
  rw [← isSome_find_iff, Bool.not_eq_true, Option.isSome_eq_false_iff, Option.isNone_iff_eq_none]

theorem find_byte_skip {byte : UInt8} {before : Bytes} (absent : byte ∉ before) (rest : Bytes) :
    find [byte] (before ++ rest) = find [byte] rest := by
  induction before with
  | nil => rfl
  | cons first before ih =>
      rw [List.mem_cons, not_or] at absent
      rw [List.cons_append, find_cons_of_not_starts, ih absent.2]
      rintro ⟨tail, same⟩
      exact absent.1 (List.cons.inj same).1

theorem find_quoted_of_absent {word before : Bytes} (plain : quote ∉ word)
    (absent : ¬ quoted word <:+: before) (apart : ¬ quote :: word <:+ before) (rest : Bytes) :
    find (quoted word) (before ++ (quoted word ++ rest)) = some (quoted word ++ rest) := by
  induction before with
  | nil => exact find_of_starts (quoted word) rest
  | cons byte before ih =>
      have later := ih (fun part => absent (List.infix_cons part))
        (fun ends => apart (ends.trans (List.suffix_cons _ _)))
      rw [List.cons_append, find_cons_of_not_starts, later]
      rintro ⟨tail, same⟩
      rw [← List.cons_append] at same
      rcases List.append_eq_append_iff.mp same with ⟨more, inside, -⟩ | ⟨more, across, next⟩
      · exact absent (inside ▸ List.infix_append [] (quoted word) more)
      · cases more with
        | nil => exact absent ⟨[], [], by rw [across]; simp⟩
        | cons first more =>
            obtain rfl : quote = first := (List.cons.inj next).1
            obtain ⟨rfl, tails⟩ : quote = byte ∧ word ++ [quote] = before ++ quote :: more :=
              List.cons.inj across
            rcases List.append_eq_append_iff.mp tails with ⟨middle, same, later⟩ |
              ⟨middle, same, later⟩
            · cases middle with
              | nil =>
                  rw [List.append_nil] at same
                  exact apart (same ▸ List.suffix_refl _)
              | cons inner middle =>
                  have long := congrArg List.length later
                  simp at long
            · cases middle with
              | nil =>
                  rw [List.append_nil] at same
                  exact apart (same ▸ List.suffix_refl _)
              | cons inner middle =>
                  obtain rfl : quote = inner := (List.cons.inj later).1
                  exact plain (same ▸ List.mem_append_right _ List.mem_cons_self)

/-! ## Braces -/

/-- The braces that a text opens, less those that it closes. -/
def openBraces (text : Bytes) : Int :=
  text.count 0x7b - text.count 0x7d

/-- The braces of a text pair up, and an `int` can count those that are open within another. -/
structure Paired (text : Bytes) : Prop where
  closed : openBraces text = 0
  inside : ∀ before, before <+: text → 0 ≤ openBraces before ∧ openBraces before + 1 < 2 ^ 31

instance (text : Bytes) : Decidable (Paired text) :=
  decidable_of_iff (openBraces text = 0 ∧
      ∀ before ∈ text.inits, 0 ≤ openBraces before ∧ openBraces before + 1 < 2 ^ 31)
    ⟨fun ⟨closed, inside⟩ => ⟨closed, fun before starts =>
        inside before ((List.mem_inits before text).mpr starts)⟩,
      fun ⟨closed, inside⟩ => ⟨closed, fun before mem =>
        inside before ((List.mem_inits before text).mp mem)⟩⟩

theorem openBraces_nil : openBraces [] = 0 :=
  rfl

theorem openBraces_cons (byte : UInt8) (text : Bytes) :
    openBraces (byte :: text) = (if byte = 0x7b then 1 else if byte = 0x7d then -1 else 0) +
      openBraces text := by
  have differ : (0x7b : UInt8) ≠ 0x7d := by decide
  rw [openBraces, openBraces, List.count_cons, List.count_cons]
  by_cases isOpen : byte = 0x7b
  · simp [isOpen]
    omega
  · by_cases isClose : byte = 0x7d
    · simp [isClose]
      omega
    · simp [isOpen, isClose]

/-! ## White space -/

/-- The white space of a layout: behind a colon, and in front of what stands at some depth. -/
structure Spacing where
  afterColon : Bytes
  line : Nat → Bytes
  afterColon_space : ∀ byte ∈ afterColon, isJsonSpace byte = true
  line_space : ∀ depth, ∀ byte ∈ line depth, isJsonSpace byte = true

theorem notMem_of_space {byte : UInt8} {space : Bytes} (solid : isJsonSpace byte = false)
    (every : ∀ other ∈ space, isJsonSpace other = true) : byte ∉ space := by
  intro mem
  rw [every byte mem] at solid
  cases solid

/-- A byte that does not stand between the members of an object. -/
def IsNameByte (byte : UInt8) : Prop :=
  isJsonSpace byte = false ∧ byte ≠ quote ∧ byte ≠ 0x2c ∧ byte ≠ 0x3a ∧ byte ≠ 0x7b

instance (byte : UInt8) : Decidable (IsNameByte byte) :=
  inferInstanceAs (Decidable (_ ∧ _))

/-- A name of such bytes. -/
def IsPlainName (name : Bytes) : Prop :=
  ∀ byte ∈ name, IsNameByte byte

instance (name : Bytes) : Decidable (IsPlainName name) :=
  inferInstanceAs (Decidable (∀ _ ∈ name, _))

theorem IsPlainName.quote_notMem {name : Bytes} (plain : IsPlainName name) : quote ∉ name :=
  fun mem => (plain _ mem).2.1 rfl

namespace Spacing

variable (spacing : Spacing) (depth : Nat)

/-- No white space. -/
def compact : Spacing where
  afterColon := []
  line _ := []
  afterColon_space _ mem := absurd mem List.not_mem_nil
  line_space _ _ mem := absurd mem List.not_mem_nil

/-- A name, and the text of its value. -/
def memberText (member : Bytes × Bytes) : Bytes :=
  quoted member.1 ++ 0x3a :: (spacing.afterColon ++ member.2)

/-- Texts with commas between them. -/
def separated : List Bytes → Bytes
  | [] => []
  | [last] => last
  | first :: next :: rest => first ++ 0x2c :: (spacing.line depth ++ separated (next :: rest))

/-- The text between the brackets of an array or the braces of an object. -/
def content (items : List Bytes) : Bytes :=
  spacing.line (depth + 1) ++ (spacing.separated (depth + 1) items ++ spacing.line depth)

def arrayText (items : List Bytes) : Bytes :=
  0x5b :: (spacing.content depth items ++ [0x5d])

def objectText (members : List (Bytes × Bytes)) : Bytes :=
  0x7b :: (spacing.content depth (members.map spacing.memberText) ++ [0x7d])

/-- The text of an object up to the member behind these. -/
def textBefore (members : List (Bytes × Bytes)) : Bytes :=
  0x7b :: (spacing.line (depth + 1) ++ members.flatMap fun member =>
    spacing.memberText member ++ 0x2c :: spacing.line (depth + 1))

/-- What a search for a name passes: the text up to the member with that name, or all of it. -/
def passedText (members : List (Bytes × Bytes)) (name : Bytes) : Bytes :=
  if name ∈ members.map Prod.fst then
    spacing.textBefore depth (members.takeWhile fun member => member.1 != name)
  else spacing.objectText depth members

end Spacing

namespace Spacing

variable {spacing : Spacing} {depth : Nat}

theorem separated_next (spacing : Spacing) (depth : Nat) (first : Bytes) (rest : List Bytes) :
    ∃ comma, (∀ byte ∈ comma, byte = 0x2c ∨ isJsonSpace byte = true) ∧
      spacing.separated depth (first :: rest) = first ++
        (comma ++ spacing.separated depth rest) := by
  cases rest with
  | nil => exact ⟨[], nofun, by simp [separated]⟩
  | cons next rest =>
      refine ⟨0x2c :: spacing.line depth, ?_, by simp [separated]⟩
      exact List.forall_mem_cons.mpr ⟨.inl rfl, fun byte mem => .inr (spacing.line_space _ _ mem)⟩

theorem notMem_content {byte : UInt8} (solid : isJsonSpace byte = false) (other : byte ≠ 0x2c)
    {items : List Bytes} (absent : ∀ item ∈ items, byte ∉ item) :
    byte ∉ spacing.content depth items := by
  have space (depth : Nat) : byte ∉ spacing.line depth :=
    notMem_of_space solid (spacing.line_space depth)
  have inner : byte ∉ spacing.separated (depth + 1) items := by
    induction items with
    | nil => exact List.not_mem_nil
    | cons first rest ih =>
        rw [List.forall_mem_cons] at absent
        rcases separated_next spacing (depth + 1) first rest with ⟨comma, gap, split⟩
        rw [split, List.mem_append, List.mem_append]
        rintro (mem | mem | mem)
        · exact absent.1 mem
        · rcases gap byte mem with isComma | isSpace
          · exact other isComma
          · rw [solid] at isSpace
            cases isSpace
        · exact ih absent.2 mem
  rw [content, List.mem_append, List.mem_append]
  rintro (mem | mem | mem)
  · exact space _ mem
  · exact inner mem
  · exact space _ mem

theorem objectText_split (spacing : Spacing) (depth : Nat) (before : List (Bytes × Bytes))
    (member : Bytes × Bytes) (after : List (Bytes × Bytes)) : ∃ rest,
    spacing.objectText depth (before ++ member :: after) =
      spacing.textBefore depth before ++ (spacing.memberText member ++ rest) := by
  have inner : ∃ rest, spacing.separated (depth + 1)
      ((before ++ member :: after).map spacing.memberText) =
        (before.flatMap fun member => spacing.memberText member ++
          0x2c :: spacing.line (depth + 1)) ++ (spacing.memberText member ++ rest) := by
    induction before with
    | nil =>
        rcases separated_next spacing (depth + 1) (spacing.memberText member)
          (after.map spacing.memberText) with ⟨comma, -, split⟩
        exact ⟨_, split⟩
    | cons first before ih =>
        rcases ih with ⟨rest, split⟩
        refine ⟨rest, ?_⟩
        cases before with
        | nil =>
            rw [List.nil_append, List.flatMap_nil, List.nil_append] at split
            simp [separated, ← split]
        | cons next before => simp_all [separated]
  rcases inner with ⟨rest, split⟩
  refine ⟨rest ++ (spacing.line depth ++ [0x7d]), ?_⟩
  rw [objectText, content, split]
  simp [textBefore]

/-! ## Members -/

variable {name : Bytes}

theorem textBefore_ends (before : List (Bytes × Bytes)) :
    ∃ front first, (first = 0x7b ∨ first = 0x2c) ∧
      spacing.textBefore depth before = front ++ first :: spacing.line (depth + 1) := by
  rcases List.eq_nil_or_concat before with rfl | ⟨others, last, rfl⟩
  · exact ⟨[], 0x7b, .inl rfl, by simp [textBefore]⟩
  · refine ⟨spacing.textBefore depth others ++ spacing.memberText last, 0x2c, .inr rfl, ?_⟩
    simp [textBefore]

theorem apart_textBefore (plain : IsPlainName name) (before : List (Bytes × Bytes)) :
    ¬ quote :: name <:+ spacing.textBefore depth before := by
  rcases textBefore_ends before with ⟨front, first, isFirst, ends⟩
  rw [ends]
  rintro ⟨other, same⟩
  have last := congrArg List.getLast? same
  rw [List.getLast?_append_cons, List.getLast?_append_cons, List.getLast?_eq_some_getLast
    (List.cons_ne_nil _ _), List.getLast?_eq_some_getLast (List.cons_ne_nil _ _),
    Option.some.injEq] at last
  have inName := List.getLast_mem (List.cons_ne_nil quote name)
  have inLine := List.getLast_mem (List.cons_ne_nil first (spacing.line (depth + 1)))
  rw [← last] at inLine
  generalize (quote :: name).getLast (List.cons_ne_nil _ _) = byte at inName inLine
  have solid : isJsonSpace byte = false ∧ byte ≠ 0x2c ∧ byte ≠ 0x7b := by
    rcases List.mem_cons.mp inName with rfl | mem
    · decide
    · have isName := plain byte mem
      exact ⟨isName.1, isName.2.2.1, isName.2.2.2.2⟩
  rcases List.mem_cons.mp inLine with rfl | mem
  · exact isFirst.elim solid.2.2 solid.2.1
  · exact notMem_of_space solid.1 (spacing.line_space _) mem

theorem exists_split_of_lookup {members : List (Bytes × Bytes)} {raw : Bytes}
    (found : members.lookup name = some raw) : ∃ before after,
    members = before ++ (name, raw) :: after ∧
      spacing.passedText depth members name = spacing.textBefore depth before := by
  rcases List.lookup_eq_some_iff.mp found with ⟨before, after, rfl, others⟩
  refine ⟨before, after, rfl, ?_⟩
  have stops : (before ++ (name, raw) :: after).takeWhile (fun member => member.1 != name) =
      before := by
    rw [List.takeWhile_append_of_pos, List.takeWhile_cons_of_neg (by simp), List.append_nil]
    intro member mem
    rw [bne_comm]
    exact others member mem
  rw [passedText, if_pos (by simp), stops]

theorem find_member (plain : IsPlainName name) {members : List (Bytes × Bytes)} {raw : Bytes}
    (found : members.lookup name = some raw)
    (absent : ¬ quoted name <:+: spacing.passedText depth members name) : ∃ rest,
    find (quoted name) (spacing.objectText depth members) =
      some (quoted name ++ 0x3a :: (spacing.afterColon ++ (raw ++ rest))) := by
  rcases exists_split_of_lookup found with ⟨before, after, rfl, passed⟩
  rcases objectText_split spacing depth before (name, raw) after with ⟨rest, split⟩
  rw [passed] at absent
  refine ⟨rest, ?_⟩
  rw [split, memberText, List.append_assoc, find_quoted_of_absent plain.quote_notMem absent
    (apart_textBefore plain before)]
  simp

theorem find_no_member {members : List (Bytes × Bytes)} (missing : members.lookup name = none)
    (absent : ¬ quoted name <:+: spacing.passedText depth members name) :
    find (quoted name) (spacing.objectText depth members) = none := by
  have noName : name ∉ members.map Prod.fst := by
    intro mem
    rcases List.mem_map.mp mem with ⟨member, inside, rfl⟩
    simpa using List.lookup_eq_none_iff.mp missing member inside
  rw [passedText, if_neg noName] at absent
  exact find_eq_none_iff.mpr absent

end Spacing

end FileTrans.Text
