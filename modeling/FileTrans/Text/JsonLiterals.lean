import FileTrans.Text.JsonSyntax

/-!
# Strings that stand for themselves

A text between quotes is written into a document.  What a parser reads there is
the text again exactly if every byte of it stands for itself, as long as the byte
after the quote cannot be part of an escape.
-/

namespace FileTrans.Text

/-! ## What a string stands for -/

/-- A byte that may come after the backslash of an escape. -/
def EscapeByte (byte : UInt8) : Prop :=
  isDigit 16 byte ∨ byte = backslash ∨ byte = 0x75 ∨ (simpleEscape byte).isSome

instance (byte : UInt8) : Decidable (EscapeByte byte) :=
  inferInstanceAs (Decidable (_ ∨ _ ∨ _ ∨ _))

/-- What is written in a string, and the text that it stands for. -/
inductive StringText : Bytes → Bytes → Prop
  | nil : StringText [] []
  | literal {byte : UInt8} {raw text : Bytes} (isLiteral : IsLiteralByte byte)
      (rest : StringText raw text) : StringText (byte :: raw) (byte :: text)
  | escape {escaped character raw text : Bytes} (short : character.length ≤ escaped.length)
      (bytes : ∀ byte ∈ escaped, EscapeByte byte) (rest : StringText raw text) :
      StringText (backslash :: (escaped ++ raw)) (character ++ text)

/-- A byte of the escape of a code unit. -/
def UnicodeByte (byte : UInt8) : Prop :=
  isDigit 16 byte ∨ byte = backslash ∨ byte = 0x75

variable {byte : UInt8} {text rest : Bytes}

theorem UnicodeByte.escapeByte (isUnicode : UnicodeByte byte) : EscapeByte byte := by
  rcases isUnicode with digit | slash | letter
  · exact .inl digit
  · exact .inr (.inl slash)
  · exact .inr (.inr (.inl letter))

theorem UnicodeByte.ne_quote (isUnicode : UnicodeByte byte) : byte ≠ quote := by
  rintro rfl
  rcases isUnicode with digit | slash | letter <;> contradiction

theorem hexUnit_spec {unit : Nat} (reads : hexUnit text = some (unit, rest)) :
    ∃ digits, text = digits ++ rest ∧ digits.length = 4 ∧ ∀ byte ∈ digits, UnicodeByte byte := by
  unfold hexUnit at reads
  split at reads
  · rename_i first second third fourth after
    split at reads
    · rename_i digits
      cases reads
      refine ⟨[first, second, third, fourth], rfl, rfl, fun byte mem => .inl ?_⟩
      exact List.all_eq_true.mp digits byte mem
    · contradiction
  · contradiction

theorem length_encodeCharacter (code : Nat) : (encodeCharacter code).length ≤ 4 := by
  unfold encodeCharacter
  split_ifs <;> simp

theorem unicodeEscape_spec {character : Bytes}
    (reads : unicodeEscape text = some (character, rest)) :
    ∃ escaped, text = escaped ++ rest ∧ character.length ≤ escaped.length ∧
      ∀ byte ∈ escaped, UnicodeByte byte := by
  unfold unicodeEscape at reads
  cases high : hexUnit text with
  | none => simp [high] at reads
  | some unit =>
      rcases unit with ⟨unit, after⟩
      rcases hexUnit_spec high with ⟨digits, rfl, length, bytes⟩
      rw [high] at reads
      dsimp only at reads
      split_ifs at reads
      · -- A pair of surrogates: the second is another escape.
        split at reads
        · rename_i slash letter low
          split_ifs at reads with pair
          rcases pair with ⟨rfl, rfl⟩
          cases second : hexUnit low with
          | none => simp [second] at reads
          | some unit =>
              rcases unit with ⟨lowUnit, after⟩
              rcases hexUnit_spec second with ⟨lowDigits, rfl, lowLength, lowBytes⟩
              rw [second] at reads
              dsimp only at reads
              split_ifs at reads
              obtain ⟨rfl, rfl⟩ := Prod.mk.inj (Option.some.inj reads)
              refine ⟨digits ++ backslash :: 0x75 :: lowDigits, by simp, ?_, ?_⟩
              · apply (length_encodeCharacter _).trans
                rw [List.length_append, length]
                exact Nat.le_add_right _ _
              · intro byte mem
                rcases List.mem_append.mp mem with mem | mem
                · exact bytes byte mem
                · rcases List.mem_cons.mp mem with rfl | mem
                  · exact .inr (.inl rfl)
                  · rcases List.mem_cons.mp mem with rfl | mem
                    · exact .inr (.inr rfl)
                    · exact lowBytes byte mem
        · contradiction
      · cases reads
        exact ⟨digits, rfl, (length_encodeCharacter _).trans_eq length.symm, bytes⟩

theorem escapedCharacter_spec {character : Bytes}
    (reads : escapedCharacter text = some (character, rest)) :
    ∃ escaped, text = escaped ++ rest ∧ character.length ≤ escaped.length ∧
      ∀ byte ∈ escaped, EscapeByte byte := by
  cases text with
  | nil => contradiction
  | cons letter text =>
      rw [escapedCharacter] at reads
      split_ifs at reads with unicode
      · subst unicode
        rcases unicodeEscape_spec reads with ⟨escaped, rfl, short, bytes⟩
        refine ⟨0x75 :: escaped, rfl, Nat.le_succ_of_le short, ?_⟩
        exact List.forall_mem_cons.mpr
          ⟨.inr (.inr (.inl rfl)), fun byte mem => (bytes byte mem).escapeByte⟩
      · rcases Option.map_eq_some_iff.mp reads with ⟨byte, escape, same⟩
        cases same
        refine ⟨[letter], rfl, le_rfl, fun other mem => ?_⟩
        rw [List.mem_singleton.mp mem]
        exact .inr (.inr (.inr (by rw [escape]; rfl)))

theorem stringWithin_spec {count : Nat} {read : Bytes}
    (reads : stringWithin count text = some (read, rest)) :
    ∃ raw, text = raw ++ quote :: rest ∧ StringText raw read := by
  induction count generalizing text read rest with
  | zero => contradiction
  | succ count ih =>
      cases text with
      | nil => contradiction
      | cons byte text =>
          rw [stringWithin] at reads
          split_ifs at reads with ends escape control
          · cases reads
            exact ⟨[], by rw [ends]; rfl, .nil⟩
          · cases escaped : escapedCharacter text with
            | none => simp [escaped] at reads
            | some character =>
                rcases character with ⟨character, after⟩
                rw [escaped] at reads
                rcases Option.map_eq_some_iff.mp reads with ⟨⟨later, rest⟩, next, same⟩
                cases same
                rcases ih next with ⟨raw, rfl, stands⟩
                rcases escapedCharacter_spec escaped with ⟨bytes, rfl, short, every⟩
                refine ⟨backslash :: (bytes ++ raw), ?_, .escape short every stands⟩
                simp [escape]
          · rcases Option.map_eq_some_iff.mp reads with ⟨⟨later, rest⟩, next, same⟩
            cases same
            rcases ih next with ⟨raw, rfl, stands⟩
            exact ⟨byte :: raw, rfl, .literal ⟨UInt8.not_lt.mp control, ends, escape⟩ stands⟩

theorem stringWithin_literal (literal : IsLiteral text) {count : Nat}
    (enough : text.length < count) (rest : Bytes) :
    stringWithin count (text ++ quote :: rest) = some (text, rest) := by
  induction text generalizing count with
  | nil =>
      cases count with
      | zero => contradiction
      | succ count => simp [stringWithin]
  | cons byte text ih =>
      rcases literal byte List.mem_cons_self with ⟨control, ends, escape⟩
      cases count with
      | zero => contradiction
      | succ count =>
          have later := ih (fun other mem => literal other (List.mem_cons_of_mem _ mem))
            (Nat.lt_of_succ_lt_succ enough)
          rw [List.cons_append, stringWithin, if_neg ends, if_neg escape,
            if_neg (UInt8.not_lt.mpr control), later]
          rfl

/-! ## Nothing escaped -/

theorem StringText.length {raw : Bytes} (stands : StringText raw text) :
    text.length ≤ raw.length ∧ (text.length = raw.length → text = raw ∧ IsLiteral raw) := by
  induction stands with
  | nil => exact ⟨le_rfl, fun _ => ⟨rfl, fun _ mem => absurd mem List.not_mem_nil⟩⟩
  | literal isLiteral _ ih =>
      refine ⟨Nat.succ_le_succ ih.1, fun same => ?_⟩
      rcases ih.2 (Nat.succ.inj same) with ⟨equal, every⟩
      exact ⟨congrArg _ equal, List.forall_mem_cons.mpr ⟨isLiteral, every⟩⟩
  | escape short _ _ ih =>
      rw [List.length_append, List.length_cons, List.length_append]
      have less := ih.1
      exact ⟨by omega, fun same => by omega⟩

/-- A byte that is not part of an escape stands for itself, between what is in front of it and
what comes after it. -/
theorem StringText.split (inert : ¬ EscapeByte byte) {before after : Bytes}
    (stands : StringText (before ++ byte :: after) text) :
    ∃ first second, text = first ++ byte :: second ∧ StringText before first := by
  have notSlash : byte ≠ backslash := fun same => inert (.inr (.inl same))
  generalize written : before ++ byte :: after = raw at stands
  induction stands generalizing before with
  | nil => simp at written
  | @literal head raw text isLiteral rest ih =>
      cases before with
      | nil =>
          cases written
          exact ⟨[], text, rfl, .nil⟩
      | cons other before =>
          rcases List.cons.inj written with ⟨rfl, tail⟩
          rcases ih tail with ⟨first, second, rfl, stands⟩
          exact ⟨other :: first, second, rfl, .literal isLiteral stands⟩
  | @escape escaped character raw text short bytes rest ih =>
      cases before with
      | nil => exact absurd (List.cons.inj written).1 notSlash
      | cons other before =>
          rcases List.cons.inj written with ⟨rfl, tail⟩
          -- The byte cannot be inside the escape, so the escape is in front of it.
          rcases List.append_eq_append_iff.mp tail with
            ⟨more, whole, inside⟩ | ⟨more, whole, inside⟩
          · cases more with
            | nil =>
                rw [List.append_nil] at whole
                have later : [] ++ byte :: after = raw := inside
                rcases ih later with ⟨first, second, rfl, stands⟩
                refine ⟨character ++ first, second, by simp, ?_⟩
                rw [whole.symm]
                have joined := StringText.escape short bytes stands
                rwa [List.append_nil] at joined
            | cons head more =>
                rcases List.cons.inj inside with ⟨rfl, -⟩
                exact absurd (bytes byte (by simp [whole])) inert
          · rcases ih inside.symm with ⟨first, second, rfl, stands⟩
            refine ⟨character ++ first, second, by simp, ?_⟩
            rw [whole]
            exact .escape short bytes stands

theorem not_prefix_stringText (inert : ¬ EscapeByte byte) (text after : Bytes) :
    ¬ StringText (text ++ byte :: after) text := by
  induction length : text.length using Nat.strong_induction_on generalizing text after with
  | _ size ih =>
      intro stands
      rcases stands.split inert with ⟨first, second, rfl, shorter⟩
      apply ih first.length _ first second rfl shorter
      rw [← length, List.length_append, List.length_cons]
      omega

theorem stringAfterQuote_eq_iff (inert : ¬ EscapeByte byte) {after : Bytes} :
    stringAfterQuote (text ++ quote :: byte :: rest) = some (text, after) ↔
      IsLiteral text ∧ after = byte :: rest := by
  constructor
  · intro reads
    rcases stringWithin_spec reads with ⟨raw, written, stands⟩
    rcases stands.length with ⟨shorter, literal⟩
    rcases List.append_eq_append_iff.mp written with ⟨more, whole, tail⟩ | ⟨more, whole, tail⟩
    · cases more with
      | nil =>
          rw [List.append_nil] at whole
          subst whole
          exact ⟨(literal rfl).2, (List.cons.inj tail).2.symm⟩
      | cons head more =>
          rcases List.cons.inj tail with ⟨rfl, inside⟩
          cases more with
          | nil =>
              rw [(List.cons.inj inside).1] at inert
              exact absurd (by decide) inert
          | cons next more =>
              rcases List.cons.inj inside with ⟨rfl, -⟩
              have longer : StringText ((text ++ [quote]) ++ byte :: more) text := by
                rwa [whole, List.append_cons] at stands
              rcases longer.split inert with ⟨first, second, same, front⟩
              rw [same, List.append_assoc, List.cons_append] at front
              exact absurd front (not_prefix_stringText inert first (second ++ [quote]))
    · have nothing : more = [] := by
        rw [whole, List.length_append] at shorter
        exact List.eq_nil_of_length_eq_zero (by omega)
      subst nothing
      rw [List.append_nil] at whole
      subst whole
      exact ⟨(literal rfl).2, (List.cons.inj tail).2⟩
  · rintro ⟨literal, rfl⟩
    apply stringWithin_literal literal
    simp

/-! ## Values with strings in them -/

variable {depth : Nat} {name text rest after : Bytes} {value : Json}

theorem skipSpace_cons (solid : isJsonSpace byte = false) (rest : Bytes) :
    skipSpace (byte :: rest) = byte :: rest :=
  List.dropWhile_cons_of_neg (by simp [solid])

theorem jsonValue_quoted (depth : Nat) (text rest : Bytes) :
    jsonValue (depth + 1) (quoted text ++ rest) =
      (stringAfterQuote (text ++ quote :: rest)).map fun (text, rest) => (.string text, rest) := by
  have written : quoted text ++ rest = quote :: (text ++ quote :: rest) := by simp [quoted]
  rw [written, jsonValue, skipSpace_cons rfl]
  simp only [if_true]

theorem jsonValue_quoted_eq_iff (inert : ¬ EscapeByte byte) (deep : 0 < depth) :
    jsonValue depth (quoted text ++ byte :: rest) = some (.string text, after) ↔
      IsLiteral text ∧ after = byte :: rest := by
  obtain ⟨depth, rfl⟩ := Nat.exists_eq_succ_of_ne_zero (Nat.ne_of_gt deep)
  rw [Nat.succ_eq_add_one, jsonValue_quoted, ← stringAfterQuote_eq_iff inert]
  cases stringAfterQuote (text ++ quote :: byte :: rest) with
  | none => simp
  | some read => simp [Prod.ext_iff]

theorem jsonMembers_named (literal : IsLiteral name) (depth : Nat) (text : Bytes) :
    jsonMembers (depth + 1) (quoted name ++ 0x3a :: text) =
      match jsonValue depth text with
      | none => none
      | some (value, rest) =>
          match skipSpace rest with
          | [] => none
          | byte :: rest =>
              if byte = 0x2c then
                (jsonMembers depth rest).map fun (members, rest) => ((name, value) :: members, rest)
              else if byte = 0x7d then some ([(name, value)], rest)
              else none := by
  have written : quoted name ++ 0x3a :: text = quote :: (name ++ quote :: 0x3a :: text) := by
    simp [quoted]
  have reads : stringAfterQuote (name ++ quote :: 0x3a :: text) = some (name, 0x3a :: text) :=
    (stringAfterQuote_eq_iff (by decide)).mpr ⟨literal, rfl⟩
  rw [written, jsonMembers, skipSpace_cons rfl]
  simp only [if_true, reads, skipSpace_cons (show isJsonSpace 0x3a = false from rfl)]
  all_goals rfl

theorem jsonMembers_head {members : List (Bytes × Json)} (literal : IsLiteral name)
    (reads : jsonMembers (depth + 1) (quoted name ++ 0x3a :: text) =
      some ((name, value) :: members, after)) :
    ∃ rest, jsonValue depth text = some (value, rest) := by
  rw [jsonMembers_named literal] at reads
  cases first : jsonValue depth text with
  | none => simp [first] at reads
  | some read =>
      rcases read with ⟨found, rest⟩
      simp only [first] at reads
      split at reads
      · contradiction
      · split_ifs at reads
        · rcases Option.map_eq_some_iff.mp reads with ⟨later, -, same⟩
          cases same
          exact ⟨rest, rfl⟩
        · cases reads
          exact ⟨rest, rfl⟩

theorem jsonMembers_comma (literal : IsLiteral name)
    (first : jsonValue depth text = some (value, 0x2c :: rest)) :
    jsonMembers (depth + 1) (quoted name ++ 0x3a :: text) =
      (jsonMembers depth rest).map fun (members, rest) => ((name, value) :: members, rest) := by
  rw [jsonMembers_named literal, first]
  simp only [skipSpace_cons (show isJsonSpace 0x2c = false from rfl), if_true]

theorem jsonMembers_brace (literal : IsLiteral name)
    (first : jsonValue depth text = some (value, 0x7d :: rest)) :
    jsonMembers (depth + 1) (quoted name ++ 0x3a :: text) = some ([(name, value)], rest) := by
  rw [jsonMembers_named literal, first]
  simp only [skipSpace_cons (show isJsonSpace 0x7d = false from rfl)]
  rfl

theorem jsonItems_head {items : List Json}
    (reads : jsonItems (depth + 1) text = some (value :: items, after)) :
    ∃ rest, jsonValue depth text = some (value, rest) := by
  rw [jsonItems] at reads
  cases first : jsonValue depth text with
  | none => simp [first] at reads
  | some read =>
      rcases read with ⟨found, rest⟩
      simp only [first] at reads
      split at reads
      · contradiction
      · split_ifs at reads
        · rcases Option.map_eq_some_iff.mp reads with ⟨later, -, same⟩
          cases same
          exact ⟨rest, rfl⟩
        · cases reads
          exact ⟨rest, rfl⟩

theorem jsonItems_comma (first : jsonValue depth text = some (value, 0x2c :: rest)) :
    jsonItems (depth + 1) text =
      (jsonItems depth rest).map fun (items, rest) => (value :: items, rest) := by
  rw [jsonItems, first]
  simp only [skipSpace_cons (show isJsonSpace 0x2c = false from rfl), if_true]

theorem jsonItems_bracket (first : jsonValue depth text = some (value, 0x5d :: rest)) :
    jsonItems (depth + 1) text = some ([value], rest) := by
  rw [jsonItems, first]
  simp only [skipSpace_cons (show isJsonSpace 0x5d = false from rfl)]
  rfl

theorem jsonValue_object (depth : Nat) (name text : Bytes) :
    jsonValue (depth + 1) (0x7b :: (quoted name ++ text)) =
      (jsonMembers depth (quoted name ++ text)).map fun (members, rest) =>
        (.object members, rest) := by
  have first : skipSpace (quoted name ++ text) = quoted name ++ text := by
    rw [quoted, List.cons_append]
    exact skipSpace_cons rfl _
  have filled : (quoted name ++ text).head? ≠ some 0x7d := by simp [quoted, quote]
  rw [jsonValue, skipSpace_cons rfl]
  simp only [first, if_neg filled]
  rfl

theorem jsonValue_emptyObject (depth : Nat) (rest : Bytes) :
    jsonValue (depth + 1) (0x7b :: 0x7d :: rest) = some (.object [], rest) := by
  rw [jsonValue, skipSpace_cons rfl]
  simp only [skipSpace_cons (show isJsonSpace 0x7d = false from rfl)]
  rfl

theorem jsonValue_array (solid : isJsonSpace byte = false) (filled : byte ≠ 0x5d) (depth : Nat)
    (text : Bytes) :
    jsonValue (depth + 1) (0x5b :: byte :: text) =
      (jsonItems depth (byte :: text)).map fun (items, rest) => (.array items, rest) := by
  have other : (byte :: text).head? ≠ some 0x5d := by simp [filled]
  rw [jsonValue, skipSpace_cons rfl]
  simp only [skipSpace_cons solid, if_neg other]
  rfl

/-- An object with one string, as it is written. -/
def stringObject (name text : Bytes) : Bytes :=
  0x7b :: (quoted name ++ 0x3a :: (quoted text ++ [0x7d]))

theorem jsonValue_stringObject_eq_iff (literal : IsLiteral name) (deep : 3 ≤ depth) :
    jsonValue depth (stringObject name text ++ rest) =
        some (.object [(name, .string text)], after) ↔ IsLiteral text ∧ after = rest := by
  obtain ⟨depth, rfl⟩ := Nat.exists_eq_add_of_le' deep
  have written : stringObject name text ++ rest =
      0x7b :: (quoted name ++ 0x3a :: (quoted text ++ 0x7d :: rest)) := by simp [stringObject]
  have inert : ¬ EscapeByte 0x7d := by decide
  rw [written, jsonValue_object, Option.map_eq_some_iff]
  constructor
  · rintro ⟨⟨members, later⟩, reads, same⟩
    cases same
    rcases jsonMembers_head literal reads with ⟨left, first⟩
    rcases (jsonValue_quoted_eq_iff inert (Nat.succ_pos depth)).mp first with ⟨plain, rfl⟩
    rw [jsonMembers_brace literal first] at reads
    cases reads
    exact ⟨plain, rfl⟩
  · rintro ⟨plain, rfl⟩
    have first : jsonValue (depth + 1) (quoted text ++ 0x7d :: after) =
        some (.string text, 0x7d :: after) :=
      (jsonValue_quoted_eq_iff inert (Nat.succ_pos depth)).mpr ⟨plain, rfl⟩
    exact ⟨_, jsonMembers_brace literal first, rfl⟩

theorem decodeJson_eq_some_iff : decodeJson text = some value ↔ ValidUtf8 text ∧
    ∃ rest, jsonValue (2 * text.length + 1) text = some (value, rest) ∧ skipSpace rest = [] := by
  unfold decodeJson
  by_cases valid : ValidUtf8 text
  · cases read : jsonValue (2 * text.length + 1) text with
    | none => simp [valid]
    | some found => simp [valid, Prod.ext_iff, and_comm]
  · simp [valid]

end FileTrans.Text
