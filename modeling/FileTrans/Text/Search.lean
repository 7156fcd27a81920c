import FileTrans.Text.Bytes

/-!
# Searching for a quoted word

`find` is `std::string::find`.  A word in quotes occurs where two quotes stand
next to each other, counting quotes only, with exactly the word between them.
The lemmas below move a search from one quote of a text to the next, and through
a text that escapes its quotes with a backslash.
-/

namespace FileTrans.Text

/-- The quote `"`. -/
def quote : UInt8 := 0x22

def backslash : UInt8 := 0x5c

/-- `std::string::find`: the text from the first occurrence of the pattern on. -/
def find (pattern : Bytes) : Bytes → Option Bytes
  | [] => if pattern = [] then some [] else none
  | byte :: rest =>
      if pattern.isPrefixOf (byte :: rest) then some (byte :: rest) else find pattern rest

/-- A word between quotes. -/
def quoted (word : Bytes) : Bytes :=
  quote :: (word ++ [quote])

theorem find_of_starts (pattern rest : Bytes) :
    find pattern (pattern ++ rest) = some (pattern ++ rest) := by
  cases h : pattern ++ rest with
  | nil => simp [find, (List.append_eq_nil_iff.mp h).1]
  | cons byte tail =>
      have starts : pattern.isPrefixOf (byte :: tail) = true :=
        List.isPrefixOf_iff_prefix.mpr (h ▸ List.prefix_append _ _)
      rw [find, if_pos starts]

variable {pattern text before : Bytes} {byte : UInt8} {wanted : UInt8 → Bool}

theorem find_cons_of_not_starts {rest : Bytes} (differs : ¬ pattern <+: byte :: rest) :
    find pattern (byte :: rest) = find pattern rest := by
  rw [find, if_neg (mt List.isPrefixOf_iff_prefix.mp differs)]

theorem prefix_of_find {found : Bytes} (search : find pattern text = some found) :
    pattern <+: found ∧ found <:+ text := by
  induction text with
  | nil =>
      rw [find] at search
      split at search
      · rename_i empty
        cases search
        rw [empty]
        exact ⟨List.prefix_refl _, List.suffix_refl _⟩
      · cases search
  | cons byte rest ih =>
      rw [find] at search
      split at search
      · rename_i starts
        cases search
        exact ⟨List.isPrefixOf_iff_prefix.mp starts, List.suffix_refl _⟩
      · obtain ⟨starts, ends⟩ := ih search
        exact ⟨starts, ends.trans (List.suffix_cons _ _)⟩

theorem isSome_find_iff : (find pattern text).isSome = true ↔ pattern <:+: text := by
  constructor
  · intro found
    obtain ⟨here, search⟩ := Option.isSome_iff_exists.mp found
    exact List.infix_iff_prefix_suffix.mpr ⟨here, prefix_of_find search⟩
  · intro part
    induction text with
    | nil =>
        rw [List.infix_nil.mp part]
        rfl
    | cons byte rest ih =>
        by_cases starts : pattern <+: byte :: rest
        · rw [find, if_pos (List.isPrefixOf_iff_prefix.mpr starts)]
          rfl
        · rw [find_cons_of_not_starts starts]
          exact ih ((List.infix_cons_iff.mp part).resolve_left starts)

theorem find_append {found : Bytes} (search : find pattern text = some found) (more : Bytes) :
    find pattern (text ++ more) = some (found ++ more) := by
  induction text with
  | nil =>
      rw [find] at search
      split at search
      · rename_i empty
        cases search
        rw [empty]
        exact find_of_starts [] more
      · cases search
  | cons byte rest ih =>
      rw [find] at search
      split at search
      · rename_i starts
        cases search
        obtain ⟨tail, whole⟩ := List.isPrefixOf_iff_prefix.mp starts
        rw [← whole, List.append_assoc]
        exact find_of_starts pattern (tail ++ more)
      · rename_i differs
        obtain ⟨starts, ends⟩ := prefix_of_find search
        -- The pattern fits into the shorter text, so it cannot begin here in the longer one.
        have fits : pattern.length ≤ (byte :: rest).length :=
          (starts.length_le.trans ends.length_le).trans (Nat.le_succ _)
        have notHere : ¬ pattern <+: byte :: (rest ++ more) := by
          intro here
          exact differs (List.isPrefixOf_iff_prefix.mpr
            (List.prefix_of_prefix_length_le here (List.prefix_append (byte :: rest) more) fits))
        rw [List.cons_append, find_cons_of_not_starts notHere, ih search]

theorem find_byte (absent : byte ∉ before) (rest : Bytes) :
    find [byte] (before ++ byte :: rest) = some (byte :: rest) := by
  induction before with
  | nil => exact find_of_starts [byte] rest
  | cons first before ih =>
      rw [List.mem_cons, not_or] at absent
      rw [List.cons_append, find_cons_of_not_starts, ih absent.2]
      rintro ⟨tail, same⟩
      exact absent.1 (List.cons.inj same).1

theorem find_byte_eq_none_iff : find [byte] text = none ↔ byte ∉ text := by
  induction text with
  | nil => simp [find]
  | cons first text ih =>
      rw [find, List.mem_cons, not_or, ← ih]
      by_cases same : byte = first
      · simp [same]
      · simp [same]

theorem find_quoted_skip (word : Bytes) (absent : quote ∉ before) (rest : Bytes) :
    find (quoted word) (before ++ rest) = find (quoted word) rest := by
  induction before with
  | nil => rfl
  | cons first before ih =>
      rw [List.mem_cons, not_or] at absent
      rw [List.cons_append, find_cons_of_not_starts, ih absent.2]
      rintro ⟨tail, same⟩
      exact absent.1 (List.cons.inj same).1

private theorem takeWhile_quote (absent : quote ∉ before) (rest : Bytes) :
    (before ++ quote :: rest).takeWhile (· != quote) = before := by
  induction before with
  | nil => simp
  | cons first before ih =>
      rw [List.mem_cons, not_or] at absent
      rw [List.cons_append, List.takeWhile_cons_of_pos (by simpa using Ne.symm absent.1),
        ih absent.2]

/-- The last byte of a text, or the byte in front of an empty one. -/
def lastByte (before : UInt8) (text : Bytes) : UInt8 :=
  text.foldl (fun _ byte => byte) before

theorem lastByte_append (before : UInt8) (first second : Bytes) :
    lastByte before (first ++ second) = lastByte (lastByte before first) second :=
  List.foldl_append

/-! ## From quote to quote -/

section Quotes

variable {word : Bytes} (wordPlain : quote ∉ word)

include wordPlain in
theorem find_quoted_next {between : Bytes} (absent : quote ∉ between) (other : between ≠ word)
    (rest : Bytes) :
    find (quoted word) (quote :: (between ++ quote :: rest)) =
      find (quoted word) (quote :: rest) := by
  rw [find_cons_of_not_starts, find_quoted_skip word absent]
  rintro ⟨tail, same⟩
  apply other
  have aligned : word ++ quote :: tail = between ++ quote :: rest := by
    simpa [quoted] using same
  calc between = (between ++ quote :: rest).takeWhile (· != quote) :=
        (takeWhile_quote absent rest).symm
    _ = (word ++ quote :: tail).takeWhile (· != quote) := by rw [aligned]
    _ = word := takeWhile_quote wordPlain tail

/-! ## Through an escaped text -/

variable {encode : UInt8 → Bytes}

/-- What an escaped text holds after its last quote, when `piece` is in front of it. -/
def lastPiece (encode : UInt8 → Bytes) (piece : Bytes) : Bytes → Bytes
  | [] => piece
  | byte :: rest =>
      if byte = quote then lastPiece encode [] rest
      else lastPiece encode (piece ++ encode byte) rest

variable (escapesQuote : encode quote = [backslash, quote])
  (hidesQuote : ∀ byte, byte ≠ quote → quote ∉ encode byte)

include wordPlain escapesQuote hidesQuote in
theorem find_quoted_escaped (unescaped : backslash ∉ word) {piece : Bytes}
    (absent : quote ∉ piece) (text rest : Bytes) :
    find (quoted word) (quote :: (piece ++ (text.flatMap encode ++ quote :: rest))) =
      if lastPiece encode piece text = word then some (quoted word ++ rest)
      else find (quoted word) (quote :: rest) := by
  induction text generalizing piece with
  | nil =>
      rw [List.flatMap_nil, List.nil_append, lastPiece]
      by_cases same : piece = word
      · rw [if_pos same, same]
        simpa [quoted] using find_of_starts (quoted word) rest
      · rw [if_neg same]
        exact find_quoted_next wordPlain absent same rest
  | cons byte text ih =>
      by_cases isQuote : byte = quote
      · have escapes : quote ∉ piece ++ [backslash] := by
          rw [List.mem_append, List.mem_singleton, not_or]
          exact ⟨absent, by decide⟩
        have other : piece ++ [backslash] ≠ word := by
          rintro rfl
          exact unescaped (List.mem_append_right _ List.mem_cons_self)
        have next := find_quoted_next wordPlain escapes other (text.flatMap encode ++ quote :: rest)
        have later := @ih [] List.not_mem_nil
        simp only [List.nil_append] at later
        rw [lastPiece, if_pos isQuote, ← later, ← next, isQuote, List.flatMap_cons, escapesQuote]
        simp
      · have plain : quote ∉ piece ++ encode byte := by
          simp [absent, hidesQuote byte isQuote]
        rw [lastPiece, if_neg isQuote, ← ih plain, List.flatMap_cons]
        simp

/-- The word comes after the last quote of the text, or is the whole text. -/
def endsIn (word text : Bytes) : Prop :=
  text = word ∨ quote :: word <:+ text

instance (word text : Bytes) : Decidable (endsIn word text) :=
  inferInstanceAs (Decidable (_ ∨ _))

include wordPlain in
private theorem lastPiece_eq_iff (fixes : ∀ text, text.flatMap encode = word ↔ text = word)
    (piece text : Bytes) :
    lastPiece encode piece text = word ↔
      (quote ∉ text ∧ piece ++ text.flatMap encode = word) ∨ quote :: word <:+ text := by
  induction text generalizing piece with
  | nil => simp [lastPiece]
  | cons byte text ih =>
      by_cases isQuote : byte = quote
      · rw [lastPiece, if_pos isQuote, ih, isQuote, List.nil_append, fixes,
          List.suffix_cons_iff]
        constructor
        · rintro (⟨-, same⟩ | later)
          · exact Or.inr (Or.inl (congrArg _ same.symm))
          · exact Or.inr (Or.inr later)
        · rintro (⟨absent, -⟩ | same | later)
          · exact absurd List.mem_cons_self absent
          · have tails : word = text := (List.cons.inj same).2
            exact Or.inl ⟨tails ▸ wordPlain, tails.symm⟩
          · exact Or.inr later
      · have differs : quote :: word ≠ byte :: text := fun same =>
          isQuote (List.cons.inj same).1.symm
        have absent : quote ∉ byte :: text ↔ quote ∉ text := by simp [Ne.symm isQuote]
        rw [lastPiece, if_neg isQuote, ih, List.suffix_cons_iff, absent, List.flatMap_cons,
          List.append_assoc]
        simp only [differs, false_or]

include wordPlain in
theorem lastPiece_eq_iff_endsIn (fixes : ∀ text, text.flatMap encode = word ↔ text = word)
    (text : Bytes) : lastPiece encode [] text = word ↔ endsIn word text := by
  rw [lastPiece_eq_iff wordPlain fixes, List.nil_append, fixes, endsIn]
  constructor
  · rintro (⟨-, same⟩ | later)
    · exact Or.inl same
    · exact Or.inr later
  · rintro (same | later)
    · exact Or.inl ⟨same ▸ wordPlain, same⟩
    · exact Or.inr later

end Quotes

/-! ## Bytes of some kind -/

/-- `std::string::find_last_of`, with the wanted characters as a predicate. -/
def findLastOf (wanted : UInt8 → Bool) : Bytes → Option Nat
  | [] => none
  | byte :: rest =>
      match findLastOf wanted rest with
      | some index => some (index + 1)
      | none => if wanted byte then some 0 else none

theorem findLastOf_congr {first second : Bytes} (same : first.map wanted = second.map wanted) :
    findLastOf wanted first = findLastOf wanted second := by
  induction first generalizing second with
  | nil =>
      rw [List.map_nil, eq_comm, List.map_eq_nil_iff] at same
      rw [same]
  | cons byte first ih =>
      cases second with
      | nil => simp at same
      | cons other second =>
          rw [List.map_cons, List.map_cons, List.cons.injEq] at same
          rw [findLastOf, findLastOf, ih same.2, same.1]

theorem findLastOf_lt {index : Nat} (found : findLastOf wanted text = some index) :
    index < text.length := by
  induction text generalizing index with
  | nil => cases found
  | cons byte rest ih =>
      rw [findLastOf] at found
      cases later : findLastOf wanted rest with
      | some before =>
          rw [later] at found
          cases found
          exact Nat.succ_lt_succ (ih later)
      | none =>
          rw [later] at found
          split_ifs at found
          cases found
          exact Nat.succ_pos _

theorem findLastOf_append (wanted : UInt8 → Bool) (first second : Bytes) :
    findLastOf wanted (first ++ second) =
      ((findLastOf wanted second).map (first.length + ·)).or (findLastOf wanted first) := by
  induction first with
  | nil => cases found : findLastOf wanted second <;> simp [findLastOf, found]
  | cons byte first ih =>
      rw [List.cons_append, findLastOf, ih, findLastOf]
      cases findLastOf wanted second with
      | none => rfl
      | some index => simp [Nat.add_right_comm]

theorem findLastOf_eq_none (every : ∀ byte ∈ text, wanted byte = false) :
    findLastOf wanted text = none := by
  induction text with
  | nil => rfl
  | cons byte text ih =>
      rw [List.forall_mem_cons] at every
      rw [findLastOf, ih every.2, every.1]
      rfl

theorem findLastOf_concat (before : Bytes) (isWanted : wanted byte = true) {after : Bytes}
    (every : ∀ byte ∈ after, wanted byte = false) :
    findLastOf wanted (before ++ byte :: after) = some before.length := by
  rw [findLastOf_append, findLastOf, findLastOf_eq_none every, isWanted]
  simp

end FileTrans.Text
