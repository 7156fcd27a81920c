import FileTrans.Text.JsonLiterals

/-!
# Writing documents

A text of a value has conditions under which a parser reads it as that value, and
nothing after it: a string that is escaped is always read as it was, a string that
is only put between quotes exactly if it stands for itself.  An object is read as
its members exactly if each of their values is.
-/

namespace FileTrans.Text

/-! ## Escapes -/

/-- How the bytes of a string are written: as they are, or with an escape that stands for the
byte. -/
structure JsonEscaping where
  escapeByte : UInt8 → Bytes
  written : ∀ byte, escapeByte byte = [byte] ∧ IsLiteralByte byte ∨
    byte < 0x80 ∧ ∃ escaped, escapeByte byte = backslash :: escaped ∧
      ∀ rest, escapedCharacter (escaped ++ rest) = some ([byte], rest)

variable {byte : UInt8} {text : Bytes}

theorem escapedCharacter_hexByte (control : byte < 0x20) (rest : Bytes) :
    escapedCharacter (0x75 :: 0x30 :: 0x30 :: (hexByte byte ++ rest)) = some ([byte], rest) := by
  have checked : ∀ code < 0x20, hexUnit (0x30 :: 0x30 :: hexByte (UInt8.ofNat code)) =
      some (code, []) ∧ encodeCharacter code = [UInt8.ofNat code] := by decide +kernel
  have small : byte.toNat < 0x20 := control
  rcases checked byte.toNat small with ⟨read, encoded⟩
  rw [UInt8.ofNat_toNat] at read encoded
  have unit : hexUnit (0x30 :: 0x30 :: (hexByte byte ++ rest)) = some (byte.toNat, rest) := by
    rw [hexByte, hexUnit] at read
    rw [hexByte, List.cons_append, List.cons_append, List.nil_append, hexUnit]
    split at read
    · rename_i digits
      rw [Option.some.injEq, Prod.mk.injEq] at read
      rw [if_pos digits, read.1]
    · cases read
  rw [escapedCharacter, if_pos rfl, unicodeEscape, unit]
  dsimp only
  rw [if_neg (by omega), if_neg (by omega), encoded]

namespace JsonEscaping

/-- Escapes only where they are needed: short ones for quotes and backslashes, and else `\u`. -/
def standard : JsonEscaping where
  escapeByte byte :=
    if byte = quote ∨ byte = backslash then [backslash, byte]
    else if byte < 0x20 then backslash :: 0x75 :: 0x30 :: 0x30 :: hexByte byte
    else [byte]
  written byte := by
    split_ifs with isShort control
    · refine .inr ⟨?_, [byte], rfl, fun rest => ?_⟩
      · rcases isShort with rfl | rfl <;> decide
      · rcases isShort with rfl | rfl <;> rfl
    · exact .inr ⟨UInt8.lt_trans control (by decide), _, rfl, escapedCharacter_hexByte control⟩
    · rw [not_or] at isShort
      exact .inl ⟨rfl, UInt8.not_lt.mp control, isShort⟩

variable {escaping : JsonEscaping} {text rest : Bytes}

/-- A string as it is written between quotes. -/
def escape (escaping : JsonEscaping) (text : Bytes) : Bytes :=
  text.flatMap escaping.escapeByte

theorem escape_cons (byte : UInt8) (text : Bytes) :
    escaping.escape (byte :: text) = escaping.escapeByte byte ++ escaping.escape text :=
  List.flatMap_cons

theorem length_le_escape (text : Bytes) : text.length ≤ (escaping.escape text).length := by
  induction text with
  | nil => exact le_rfl
  | cons byte text ih =>
      have positive : 1 ≤ (escaping.escapeByte byte).length := by
        rcases escaping.written byte with ⟨kept, -⟩ | ⟨-, escaped, isEscape, -⟩
        · rw [kept, List.length_singleton]
        · rw [isEscape, List.length_cons]
          exact Nat.le_add_left _ _
      rw [escape_cons, List.length_append, List.length_cons]
      omega

theorem escapeByte_cases (escaping : JsonEscaping) (byte : UInt8) :
    escaping.escapeByte byte = [byte] ∧ IsLiteralByte byte ∨
      ∃ letter more, escaping.escapeByte byte = backslash :: letter :: more ∧ quote ∉ more ∧
        (letter = quote → byte = quote) := by
  rcases escaping.written byte with kept | ⟨-, escaped, isEscape, reads⟩
  · exact .inl kept
  · right
    have alone := reads []
    rw [List.append_nil] at alone
    cases escaped with
    | nil => cases alone
    | cons letter more =>
        refine ⟨letter, more, isEscape, ?_⟩
        rw [escapedCharacter] at alone
        split_ifs at alone with unicode
        · rcases unicodeEscape_spec alone with ⟨escaped, rfl, -, bytes⟩
          rw [List.append_nil]
          refine ⟨fun mem => (bytes quote mem).ne_quote rfl, ?_⟩
          rintro rfl
          cases unicode
        · rcases Option.map_eq_some_iff.mp alone with ⟨simple, escape, same⟩
          cases same
          refine ⟨List.not_mem_nil, ?_⟩
          rintro rfl
          exact (Option.some.inj escape).symm

theorem quote_notMem_escape (absent : quote ∉ text) : quote ∉ escaping.escape text := by
  intro mem
  rcases List.mem_flatMap.mp mem with ⟨byte, inside, mem⟩
  have other : byte ≠ quote := fun same => absent (same ▸ inside)
  rcases escapeByte_cases escaping byte with
    ⟨kept, -⟩ | ⟨letter, more, isEscape, noQuote, onlyQuote⟩
  · rw [kept, List.mem_singleton] at mem
    exact other mem.symm
  · rw [isEscape] at mem
    rcases List.mem_cons.mp mem with slash | mem
    · cases slash
    · rcases List.mem_cons.mp mem with isLetter | mem
      · exact other (onlyQuote isLetter.symm)
      · exact noQuote mem

theorem isLiteral_of_escape_eq (kept : escaping.escape text = text) : IsLiteral text := by
  induction text with
  | nil => exact fun _ mem => absurd mem List.not_mem_nil
  | cons byte text ih =>
      rw [escape_cons] at kept
      rcases escapeByte_cases escaping byte with ⟨alone, literal⟩ | ⟨letter, more, isEscape, -⟩
      · rw [alone, List.singleton_append] at kept
        exact List.forall_mem_cons.mpr ⟨literal, ih (List.cons.inj kept).2⟩
      · have longer := congrArg List.length kept
        have shorter : text.length ≤ (escaping.escape text).length := length_le_escape text
        rw [isEscape, List.length_append, List.length_cons, List.length_cons, List.length_cons]
          at longer
        omega

theorem stringWithin_escape {count : Nat} (enough : text.length < count) :
    stringWithin count (escaping.escape text ++ quote :: rest) = some (text, rest) := by
  induction text generalizing count with
  | nil => exact stringWithin_literal (fun _ mem => absurd mem List.not_mem_nil) enough rest
  | cons byte text ih =>
      obtain ⟨count, rfl⟩ := Nat.exists_eq_succ_of_ne_zero (Nat.ne_of_gt (Nat.zero_lt_of_lt enough))
      have later : stringWithin count (escaping.escape text ++ quote :: rest) = some (text, rest) :=
        ih (Nat.lt_of_succ_lt_succ enough)
      rw [escape_cons, List.append_assoc]
      rcases escaping.written byte with
        ⟨kept, control, ends, escape⟩ | ⟨-, escaped, isEscape, reads⟩
      · rw [kept, List.singleton_append, Nat.succ_eq_add_one, stringWithin, if_neg ends,
          if_neg escape, if_neg (UInt8.not_lt.mpr control), later]
        rfl
      · have slash : backslash ≠ quote := by decide
        rw [isEscape, List.cons_append, Nat.succ_eq_add_one, stringWithin, if_neg slash, if_pos rfl,
          reads]
        simp only [later, Option.map_some, List.singleton_append]

theorem stringAfterQuote_escape :
    stringAfterQuote (escaping.escape text ++ quote :: rest) = some (text, rest) := by
  apply stringWithin_escape
  have long : text.length ≤ (escaping.escape text).length := length_le_escape text
  rw [List.length_append, List.length_cons]
  omega

theorem escape_injective (escaping : JsonEscaping) : Function.Injective escaping.escape := by
  intro first second same
  have reads : stringAfterQuote (escaping.escape first ++ [quote]) = some (first, []) :=
    stringAfterQuote_escape
  rw [same, stringAfterQuote_escape] at reads
  cases reads
  rfl

theorem ascii_of_escapeByte {byte : UInt8} (escape : EscapeByte byte) : byte < 0x80 := by
  have every : ∀ code < 256, EscapeByte (UInt8.ofNat code) → UInt8.ofNat code < 0x80 := by
    decide +kernel
  have one := every byte.toNat byte.toNat_lt
  rw [UInt8.ofNat_toNat] at one
  exact one escape

theorem foldlM_escape (text : Bytes) (missing : List (UInt8 × UInt8)) :
    (escaping.escape text).foldlM utf8Step missing = text.foldlM utf8Step missing := by
  induction text generalizing missing with
  | nil => rfl
  | cons byte text ih =>
      have one : (escaping.escapeByte byte).foldlM utf8Step missing = utf8Step missing byte := by
        rcases escaping.written byte with ⟨kept, -⟩ | ⟨small, escaped, isEscape, reads⟩
        · rw [kept]
          simp
        · rcases escapedCharacter_spec (reads []) with ⟨every, whole, -, bytes⟩
          rw [List.append_nil, List.append_nil] at whole
          subst whole
          have run (letters : Bytes) (letter : ∀ other ∈ letters, EscapeByte other) :
              letters.foldlM utf8Step [] = some [] := by
            induction letters with
            | nil => rfl
            | cons other letters ih =>
                rw [List.foldlM_cons,
                  utf8Step_ascii (ascii_of_escapeByte (letter other List.mem_cons_self))]
                exact ih fun later mem => letter later (List.mem_cons_of_mem _ mem)
          rw [isEscape, List.foldlM_cons, utf8Step_ascii (by decide), utf8Step_ascii small]
          split
          · exact run escaped bytes
          · rfl
      rw [escape_cons, List.foldlM_append, one, List.foldlM_cons]
      exact bind_congr fun missing => ih missing

theorem validUtf8_escape_iff : ValidUtf8 (escaping.escape text) ↔ ValidUtf8 text := by
  rw [ValidUtf8, ValidUtf8, foldlM_escape]

end JsonEscaping

/-! ## Values -/

/-- What may stand behind a value. -/
def EndsValue (byte : UInt8) : Prop :=
  byte = 0x2c ∨ byte = 0x7d ∨ byte = 0x5d

theorem EndsValue.inert (ends : EndsValue byte) : ¬ EscapeByte byte := by
  rcases ends with rfl | rfl | rfl <;> decide

/-- A text without control characters. -/
def IsPrintable (text : Bytes) : Prop :=
  ∀ byte ∈ text, 0x20 ≤ byte

instance (text : Bytes) : Decidable (IsPrintable text) :=
  inferInstanceAs (Decidable (∀ _ ∈ text, _))

theorem isPrintable_append_iff {first second : Bytes} :
    IsPrintable (first ++ second) ↔ IsPrintable first ∧ IsPrintable second :=
  List.forall_mem_append

theorem isPrintable_cons_iff : IsPrintable (byte :: text) ↔ 0x20 ≤ byte ∧ IsPrintable text :=
  List.forall_mem_cons

theorem isPrintable_quoted_iff : IsPrintable (quoted text) ↔ IsPrintable text := by
  have last : IsPrintable [quote] := by decide
  rw [quoted, isPrintable_cons_iff, isPrintable_append_iff, and_iff_left last]
  exact and_iff_right (by decide)

theorem isPrintable_of_digits (every : ∀ byte ∈ text, isDigit 10 byte = true) :
    IsPrintable text := by
  have digits : ∀ code < 256, isDigit 10 (UInt8.ofNat code) = true → 0x20 ≤ UInt8.ofNat code := by
    decide +kernel
  intro byte mem
  have one := digits byte.toNat byte.toNat_lt
  rw [UInt8.ofNat_toNat] at one
  exact one (every byte mem)

theorem validUtf8_of_ascii (small : ∀ byte ∈ text, byte < 0x80) : ValidUtf8 text := by
  induction text with
  | nil => rfl
  | cons byte text ih =>
      rw [List.forall_mem_cons] at small
      exact (validUtf8_cons_iff small.1).mpr (ih small.2)

theorem JsonEscaping.isPrintable_escape (escaping : JsonEscaping) (text : Bytes) :
    IsPrintable (escaping.escape text) := by
  have letters : ∀ code < 256, EscapeByte (UInt8.ofNat code) → 0x20 ≤ UInt8.ofNat code := by
    decide +kernel
  intro other mem
  rcases List.mem_flatMap.mp mem with ⟨byte, -, inside⟩
  rcases escaping.written byte with ⟨kept, control, -⟩ | ⟨-, escaped, isEscape, reads⟩
  · rw [kept, List.mem_singleton] at inside
    rwa [inside]
  · rcases escapedCharacter_spec (reads []) with ⟨every, whole, -, bytes⟩
    rw [List.append_nil, List.append_nil] at whole
    subst whole
    rw [isEscape, List.mem_cons] at inside
    rcases inside with rfl | inside
    · decide
    · have one := letters other.toNat other.toNat_lt
      rw [UInt8.ofNat_toNat] at one
      exact one (bytes other inside)

/-- The text of a value, and when a parser reads it as that value and nothing after it. -/
structure Rendering where
  raw : Bytes
  value : Json
  isFaithful : Prop
  printable : isFaithful → IsPrintable raw
  reads : ∀ {depth : Nat}, 2 * raw.length < depth → ∀ {byte : UInt8}, EndsValue byte →
    ∀ rest after, jsonValue depth (raw ++ byte :: rest) = some (value, after) ↔
      isFaithful ∧ after = byte :: rest

namespace Rendering

/-- A string that is put between quotes as it is. -/
def verbatim (text : Bytes) : Rendering where
  raw := quoted text
  value := .string text
  isFaithful := IsLiteral text
  printable literal := isPrintable_quoted_iff.mpr fun byte mem => (literal byte mem).1
  reads deep _ ends _ _ := jsonValue_quoted_eq_iff ends.inert (Nat.zero_lt_of_lt deep)

/-- A string that is escaped. -/
def escaped (escaping : JsonEscaping) (text : Bytes) : Rendering where
  raw := quoted (escaping.escape text)
  value := .string text
  isFaithful := True
  printable _ := isPrintable_quoted_iff.mpr (escaping.isPrintable_escape text)
  reads {depth} deep {byte} _ rest after := by
    obtain ⟨depth, rfl⟩ := Nat.exists_eq_succ_of_ne_zero (Nat.ne_of_gt (Nat.zero_lt_of_lt deep))
    rw [Nat.succ_eq_add_one, jsonValue_quoted, JsonEscaping.stringAfterQuote_escape]
    simp [eq_comm]

/-- The members of an object as they are written, with commas between them. -/
def membersText (members : List (Bytes × Rendering)) : Bytes :=
  [0x2c].intercalate (members.map fun member => quoted member.1 ++ 0x3a :: member.2.raw)

theorem membersText_singleton (name : Bytes) (rendering : Rendering) :
    membersText [(name, rendering)] = quoted name ++ 0x3a :: rendering.raw :=
  List.intercalate_singleton

theorem membersText_cons_cons (name : Bytes) (rendering : Rendering) (next : Bytes × Rendering)
    (rest : List (Bytes × Rendering)) :
    membersText ((name, rendering) :: next :: rest) =
      quoted name ++ 0x3a :: (rendering.raw ++ 0x2c :: membersText (next :: rest)) := by
  simp [membersText, List.intercalate_cons_cons]

variable {members : List (Bytes × Rendering)} {text rest : Bytes} {more : List (Bytes × Json)}

theorem isPrintable_membersText (names : ∀ member ∈ members, IsPrintable member.1)
    (values : ∀ member ∈ members, IsPrintable member.2.raw) :
    IsPrintable (membersText members) := by
  have comma : (0x20 : UInt8) ≤ 0x2c := by decide
  have colon : (0x20 : UInt8) ≤ 0x3a := by decide
  induction members with
  | nil => exact fun _ mem => absurd mem List.not_mem_nil
  | cons first members ih =>
      rcases first with ⟨name, rendering⟩
      rw [List.forall_mem_cons] at names values
      have later := ih names.2 values.2
      cases members with
      | nil =>
          rw [membersText_singleton, isPrintable_append_iff, isPrintable_quoted_iff,
            isPrintable_cons_iff]
          exact ⟨names.1, colon, values.1⟩
      | cons next members =>
          rw [membersText_cons_cons, isPrintable_append_iff, isPrintable_quoted_iff,
            isPrintable_cons_iff, isPrintable_append_iff, isPrintable_cons_iff]
          exact ⟨names.1, colon, values.1, comma, later⟩

theorem validUtf8_quoted_append_iff :
    ValidUtf8 (quoted text ++ rest) ↔ ValidUtf8 text ∧ ValidUtf8 rest := by
  have written : quoted text ++ rest = quote :: (text ++ quote :: rest) := by simp [quoted]
  rw [written, validUtf8_cons_iff (by decide), validUtf8_append_cons_iff (by decide)]

theorem validUtf8_quoted_iff : ValidUtf8 (quoted text) ↔ ValidUtf8 text := by
  have valid : ValidUtf8 [] := rfl
  rw [← List.append_nil (quoted text), validUtf8_quoted_append_iff, and_iff_left valid]

theorem validUtf8_verbatim_iff : ValidUtf8 (verbatim text).raw ↔ ValidUtf8 text :=
  validUtf8_quoted_iff

theorem validUtf8_escaped_iff {escaping : JsonEscaping} :
    ValidUtf8 (escaped escaping text).raw ↔ ValidUtf8 text :=
  validUtf8_quoted_iff.trans JsonEscaping.validUtf8_escape_iff

theorem validUtf8_membersText_append_iff {byte : UInt8} (small : byte < 0x80) (rest : Bytes) :
    ValidUtf8 (membersText members ++ byte :: rest) ↔
      (∀ member ∈ members, ValidUtf8 member.1 ∧ ValidUtf8 member.2.raw) ∧ ValidUtf8 rest := by
  induction members with
  | nil =>
      have nothing : membersText [] = [] := rfl
      rw [nothing, List.nil_append, validUtf8_cons_iff small]
      simp
  | cons first members ih =>
      rcases first with ⟨name, rendering⟩
      rw [List.forall_mem_cons]
      cases members with
      | nil =>
          rw [membersText_singleton, List.append_assoc, List.cons_append,
            validUtf8_quoted_append_iff, validUtf8_cons_iff (by decide),
            validUtf8_append_cons_iff small]
          simp [and_assoc]
      | cons next members =>
          have written : quoted name ++ 0x3a :: (rendering.raw ++
              0x2c :: membersText (next :: members)) ++ byte :: rest =
            quoted name ++ 0x3a :: (rendering.raw ++
              0x2c :: (membersText (next :: members) ++ byte :: rest)) := by simp
          rw [membersText_cons_cons, written, validUtf8_quoted_append_iff,
            validUtf8_cons_iff (by decide), validUtf8_append_cons_iff (by decide), ih, and_assoc,
            and_assoc]

/-- The members and their values. -/
def memberValues (members : List (Bytes × Rendering)) : List (Bytes × Json) :=
  members.map fun member => (member.1, member.2.value)

theorem jsonMembers_membersText_eq_iff {first : Bytes × Rendering}
    (names : ∀ member ∈ first :: members, IsLiteral member.1) {depth : Nat}
    (deep : 2 * (membersText (first :: members)).length ≤ depth) {after : Bytes} :
    jsonMembers depth (membersText (first :: members) ++ 0x7d :: rest) =
        some (memberValues (first :: members) ++ more, after) ↔
      (∀ member ∈ first :: members, member.2.isFaithful) ∧ more = [] ∧ after = rest := by
  induction members generalizing first depth with
  | nil =>
      rcases first with ⟨name, rendering⟩
      have literal : IsLiteral name := names _ List.mem_cons_self
      rw [membersText_singleton] at deep ⊢
      rw [List.length_append, List.length_cons] at deep
      obtain ⟨depth, rfl⟩ : ∃ less, depth = less + 1 := ⟨depth - 1, by omega⟩
      have room : 2 * rendering.raw.length < depth := by omega
      have value := rendering.reads room (.inr (.inl rfl)) rest
      rw [List.append_assoc, List.cons_append, List.forall_mem_singleton]
      constructor
      · intro reads
        rcases jsonMembers_head literal reads with ⟨left, one⟩
        rcases (value left).mp one with ⟨faithful, rfl⟩
        rw [jsonMembers_brace literal one] at reads
        cases reads
        exact ⟨faithful, rfl, rfl⟩
      · rintro ⟨faithful, rfl, rfl⟩
        exact jsonMembers_brace literal ((value _).mpr ⟨faithful, rfl⟩)
  | cons next members ih =>
      rcases first with ⟨name, rendering⟩
      have literal : IsLiteral name := names _ List.mem_cons_self
      rw [membersText_cons_cons] at deep ⊢
      simp only [List.length_append, List.length_cons] at deep
      obtain ⟨depth, rfl⟩ : ∃ less, depth = less + 1 := ⟨depth - 1, by omega⟩
      have room : 2 * rendering.raw.length < depth := by omega
      have left : 2 * (membersText (next :: members)).length ≤ depth := by omega
      have value := rendering.reads room (.inl rfl) (membersText (next :: members) ++ 0x7d :: rest)
      have later := ih (fun member mem => names member (List.mem_cons_of_mem _ mem)) left
      have written : quoted name ++ 0x3a :: (rendering.raw ++
          0x2c :: membersText (next :: members)) ++ 0x7d :: rest =
        quoted name ++ 0x3a :: (rendering.raw ++
          0x2c :: (membersText (next :: members) ++ 0x7d :: rest)) := by simp
      rw [written, List.forall_mem_cons, and_assoc, ← later]
      constructor
      · intro reads
        rcases jsonMembers_head literal reads with ⟨left, one⟩
        rcases (value left).mp one with ⟨faithful, rfl⟩
        rw [jsonMembers_comma literal one] at reads
        rcases Option.map_eq_some_iff.mp reads with ⟨⟨others, left⟩, tail, same⟩
        cases same
        exact ⟨faithful, tail⟩
      · rintro ⟨faithful, tail⟩
        rw [jsonMembers_comma literal ((value _).mpr ⟨faithful, rfl⟩), tail]
        rfl

/-! ### Objects -/

theorem jsonValue_membersText_eq_iff (names : ∀ member ∈ members, IsLiteral member.1)
    {depth : Nat} (deep : 2 * (membersText members).length + 1 < depth) {after : Bytes} :
    jsonValue depth (0x7b :: (membersText members ++ 0x7d :: rest)) =
        some (.object (memberValues members ++ more), after) ↔
      (∀ member ∈ members, member.2.isFaithful) ∧ more = [] ∧ after = rest := by
  obtain ⟨depth, rfl⟩ : ∃ less, depth = less + 1 := ⟨depth - 1, by omega⟩
  cases members with
  | nil =>
      have written : membersText [] = [] := rfl
      rw [written, List.nil_append, jsonValue_emptyObject]
      simp [memberValues, eq_comm]
  | cons first members =>
      have room : 2 * (membersText (first :: members)).length ≤ depth := by omega
      rw [← jsonMembers_membersText_eq_iff names room]
      have start : ∃ tail, membersText (first :: members) ++ 0x7d :: rest =
          quoted first.1 ++ tail := by
        rcases first with ⟨name, rendering⟩
        cases members with
        | nil => exact ⟨_, by rw [membersText_singleton, List.append_assoc]⟩
        | cons next members => exact ⟨_, by rw [membersText_cons_cons, List.append_assoc]⟩
      rcases start with ⟨tail, written⟩
      rw [written, jsonValue_object]
      cases jsonMembers depth (quoted first.1 ++ tail) with
      | none => simp
      | some read => simp [Prod.ext_iff]

def object (members : List (Bytes × Rendering))
    (names : ∀ member ∈ members, IsLiteral member.1) : Rendering where
  raw := 0x7b :: (membersText members ++ [0x7d])
  value := .object (memberValues members)
  isFaithful := ∀ member ∈ members, member.2.isFaithful
  printable faithful := by
    have ends : IsPrintable [0x7d] := by decide
    rw [isPrintable_cons_iff, isPrintable_append_iff, and_iff_left ends]
    refine ⟨by decide, isPrintable_membersText ?_ ?_⟩
    · exact fun member mem byte inside => (names member mem byte inside).1
    · exact fun member mem => member.2.printable (faithful member mem)
  reads {depth} deep {byte} _ rest after := by
    rw [List.length_cons, List.length_append, List.length_singleton] at deep
    have room : 2 * (membersText members).length + 1 < depth := by omega
    have written : 0x7b :: (membersText members ++ [0x7d]) ++ byte :: rest =
        0x7b :: (membersText members ++ 0x7d :: byte :: rest) := by simp
    have none : memberValues members = memberValues members ++ [] := (List.append_nil _).symm
    rw [written, none, jsonValue_membersText_eq_iff names room]
    simp

@[simp]
theorem object_raw (members : List (Bytes × Rendering))
    (names : ∀ member ∈ members, IsLiteral member.1) :
    (object members names).raw = 0x7b :: (membersText members ++ [0x7d]) :=
  rfl

theorem object_isFaithful_iff {names : ∀ member ∈ members, IsLiteral member.1} :
    (object members names).isFaithful ↔ ∀ member ∈ members, member.2.isFaithful :=
  .rfl

theorem validUtf8_object_iff {names : ∀ member ∈ members, IsLiteral member.1} :
    ValidUtf8 (object members names).raw ↔
      ∀ member ∈ members, ValidUtf8 member.1 ∧ ValidUtf8 member.2.raw := by
  have valid : ValidUtf8 [] := rfl
  rw [object, validUtf8_cons_iff (by decide), validUtf8_membersText_append_iff (by decide),
    and_iff_left valid]

theorem decodeJson_object_eq_iff (names : ∀ member ∈ members, IsLiteral member.1) :
    decodeJson (object members names).raw = some (.object (memberValues members ++ more)) ↔
      ((object members names).isFaithful ∧ more = []) ∧ ValidUtf8 (object members names).raw := by
  have deep : 2 * (membersText members).length + 1 < 2 * (object members names).raw.length + 1 := by
    rw [object, List.length_cons, List.length_append, List.length_singleton]
    omega
  rw [decodeJson_eq_some_iff, and_comm]
  constructor
  · rintro ⟨⟨rest, reads, -⟩, valid⟩
    rcases (jsonValue_membersText_eq_iff names deep).mp reads with ⟨faithful, nothing, -⟩
    exact ⟨⟨faithful, nothing⟩, valid⟩
  · rintro ⟨⟨faithful, nothing⟩, valid⟩
    exact ⟨⟨[], (jsonValue_membersText_eq_iff names deep).mpr ⟨faithful, nothing, rfl⟩, rfl⟩, valid⟩

end Rendering

/-! ### Numbers -/

theorem someDigits_append {digits : Bytes} (nonempty : digits ≠ [])
    (every : ∀ byte ∈ digits, isDigit 10 byte = true) (stops : isDigit 10 byte = false)
    (rest : Bytes) : someDigits (digits ++ byte :: rest) = some (digits, byte :: rest) := by
  have taken : (digits ++ byte :: rest).takeWhile (isDigit 10) = digits := by
    rw [List.takeWhile_append_of_pos every, List.takeWhile_cons_of_neg (by simp [stops]),
      List.append_nil]
  rw [someDigits]
  simp only [taken, if_neg nonempty, List.drop_left]

theorem exists_decimal_eq_cons {number : Nat} (nonzero : number ≠ 0) :
    ∃ first rest, decimal number = first :: rest ∧ first ≠ 0x30 := by
  have nonempty : Nat.digits 10 number ≠ [] := mt Nat.digits_eq_nil_iff_eq_zero.mp nonzero
  have last := Nat.getLast_digit_ne_zero 10 nonzero
  have small : (Nat.digits 10 number).getLast nonempty < 10 :=
    Nat.digits_lt_base (by decide) (List.getLast_mem nonempty)
  refine ⟨decimalDigit ((Nat.digits 10 number).getLast nonempty),
    ((Nat.digits 10 number).dropLast.map decimalDigit).reverse, ?_, ?_⟩
  · rw [decimal, if_neg nonzero]
    conv_lhs => rw [← List.dropLast_append_getLast nonempty]
    simp
  · intro zero
    have value := digitValue_decimalDigit small
    rw [zero] at value
    exact last (Option.some.inj value).symm

theorem integerPart_decimal (number : Nat) (stops : isDigit 10 byte = false) (rest : Bytes) :
    integerPart (decimal number ++ byte :: rest) = some (decimal number, byte :: rest) := by
  by_cases zero : number = 0
  · subst zero
    rfl
  · rcases exists_decimal_eq_cons zero with ⟨first, digits, written, leading⟩
    have every : ∀ byte ∈ decimal number, isDigit 10 byte = true := fun _ =>
      isDigit_of_mem_decimal
    have all := someDigits_append (decimal_ne_nil number) every stops rest
    rw [written, List.cons_append] at all ⊢
    rw [integerPart, if_neg leading, all]

/-- A number with a sign and decimal places, of which there may be none. -/
def numberText (negative : Bool) (whole : Nat) (places : Bytes) : Bytes :=
  (if negative then [0x2d] else []) ++ (decimal whole ++ if places = [] then [] else 0x2e :: places)

theorem EndsValue.notDigit (ends : EndsValue byte) : isDigit 10 byte = false := by
  rcases ends with rfl | rfl | rfl <;> rfl

theorem optionalPart_of_notMem {begins : List UInt8} (other : byte ∉ begins)
    (read : Bytes → Option (Bytes × Bytes)) (rest : Bytes) :
    optionalPart begins read (byte :: rest) = some ([], byte :: rest) :=
  if_neg other

theorem jsonNumber_numberText (negative : Bool) (whole : Nat) {places : Bytes}
    (every : ∀ byte ∈ places, isDigit 10 byte = true) (ends : EndsValue byte) (rest : Bytes) :
    jsonNumber (numberText negative whole places ++ byte :: rest) =
      some (.number (numberText negative whole places), byte :: rest) := by
  have noPoint : byte ∉ [(0x2e : UInt8)] := by
    rcases ends with rfl | rfl | rfl <;> decide
  have noExponent : byte ∉ [(0x65 : UInt8), 0x45] := by
    rcases ends with rfl | rfl | rfl <;> decide
  have point : isDigit 10 (0x2e : UInt8) = false := rfl
  have unsigned (other : UInt8) : (decimal whole).head?.getD other ≠ 0x2d := by
    intro minus
    rcases List.exists_cons_of_ne_nil (decimal_ne_nil whole) with ⟨first, digits, written⟩
    have digit : isDigit 10 first = true :=
      isDigit_of_mem_decimal (written ▸ List.mem_cons_self)
    rw [written, List.head?_cons, Option.getD_some] at minus
    rw [minus] at digit
    contradiction
  by_cases nothing : places = []
  · subst nothing
    cases negative <;>
      simp [jsonNumber, numberText, unsigned, integerPart_decimal whole ends.notDigit,
        optionalPart_of_notMem noPoint, optionalPart_of_notMem noExponent]
  · have decimals : optionalPart [0x2e] someDigits (0x2e :: (places ++ byte :: rest)) =
        some (0x2e :: places, byte :: rest) := by
      rw [optionalPart, if_pos (List.mem_singleton_self _),
        someDigits_append nothing every ends.notDigit]
      rfl
    cases negative <;>
      simp [jsonNumber, numberText, nothing, unsigned, integerPart_decimal whole point, decimals,
        optionalPart_of_notMem noExponent]

theorem scalarValue_numeral (begins : byte = 0x2d ∨ isDigit 10 byte = true) (rest : Bytes) :
    scalarValue (byte :: rest) = jsonNumber (byte :: rest) := by
  have other {letter : UInt8} {word : Bytes} (minus : letter ≠ 0x2d)
      (digit : isDigit 10 letter = false) : ¬ letter :: word <+: byte :: rest := by
    intro starts
    have same := (List.cons_prefix_cons.mp starts).1
    rw [← same] at begins
    rcases begins with isMinus | isDigit
    · exact minus isMinus
    · exact Bool.noConfusion (digit.symm.trans isDigit)
  rw [scalarValue, if_neg, if_neg, if_neg]
  · exact other (by decide) rfl
  · exact other (by decide) rfl
  · exact other (by decide) rfl

theorem jsonValue_numeral (begins : byte = 0x2d ∨ isDigit 10 byte = true) (depth : Nat)
    (rest : Bytes) : jsonValue (depth + 1) (byte :: rest) = jsonNumber (byte :: rest) := by
  have every : ∀ code < 256, UInt8.ofNat code = 0x2d ∨ isDigit 10 (UInt8.ofNat code) = true →
      isJsonSpace (UInt8.ofNat code) = false ∧ UInt8.ofNat code ≠ quote ∧
        UInt8.ofNat code ≠ 0x5b ∧ UInt8.ofNat code ≠ 0x7b := by decide +kernel
  have one := every byte.toNat byte.toNat_lt
  rw [UInt8.ofNat_toNat] at one
  rcases one begins with ⟨solid, notQuote, notBracket, notBrace⟩
  rw [jsonValue, skipSpace_cons solid]
  simp only [if_neg notQuote, if_neg notBracket, if_neg notBrace]
  exact scalarValue_numeral begins rest

theorem exists_numberText_eq_cons (negative : Bool) (whole : Nat) (places : Bytes) :
    ∃ byte rest, numberText negative whole places = byte :: rest ∧
      (byte = 0x2d ∨ isDigit 10 byte = true) := by
  cases negative with
  | true => exact ⟨_, _, rfl, .inl rfl⟩
  | false =>
      rcases List.exists_cons_of_ne_nil (decimal_ne_nil whole) with ⟨first, digits, written⟩
      have digit : isDigit 10 first = true :=
        isDigit_of_mem_decimal (written ▸ List.mem_cons_self)
      refine ⟨first, digits ++ if places = [] then [] else 0x2e :: places, ?_, .inr digit⟩
      rw [numberText, written]
      rfl

namespace Rendering

def number (negative : Bool) (whole : Nat) (places : Bytes)
    (every : ∀ byte ∈ places, isDigit 10 byte = true) : Rendering where
  raw := numberText negative whole places
  value := .number (numberText negative whole places)
  isFaithful := True
  printable _ := by
    have sign : IsPrintable (if negative then [0x2d] else []) := by cases negative <;> decide
    have digits : IsPrintable (decimal whole) := isPrintable_of_digits fun _ =>
      isDigit_of_mem_decimal
    rw [numberText, isPrintable_append_iff, isPrintable_append_iff]
    refine ⟨sign, digits, ?_⟩
    split
    · exact fun _ mem => absurd mem List.not_mem_nil
    · exact isPrintable_cons_iff.mpr ⟨by decide, isPrintable_of_digits every⟩
  reads {depth} deep {byte} ends rest after := by
    obtain ⟨depth, rfl⟩ := Nat.exists_eq_succ_of_ne_zero (Nat.ne_of_gt (Nat.zero_lt_of_lt deep))
    have read := jsonNumber_numberText negative whole every ends rest
    rcases exists_numberText_eq_cons negative whole places with ⟨first, tail, written, begins⟩
    rw [written] at read ⊢
    rw [List.cons_append, jsonValue_numeral begins, ← List.cons_append, read]
    simp [eq_comm]

theorem validUtf8_number {negative : Bool} {whole : Nat} {places : Bytes}
    (every : ∀ byte ∈ places, isDigit 10 byte = true) :
    ValidUtf8 (number negative whole places every).raw := by
  apply validUtf8_of_ascii
  have digit (byte : UInt8) (isNumeral : isDigit 10 byte = true) : byte < 0x80 := by
    have all : ∀ code < 256, isDigit 10 (UInt8.ofNat code) = true → UInt8.ofNat code < 0x80 := by
      decide +kernel
    have one := all byte.toNat byte.toNat_lt
    rw [UInt8.ofNat_toNat] at one
    exact one isNumeral
  have sign : ∀ byte ∈ if negative then [(0x2d : UInt8)] else [], byte < 0x80 := by
    cases negative <;> decide
  have point : ∀ byte ∈ if places = [] then [] else (0x2e : UInt8) :: places, byte < 0x80 := by
    split
    · exact fun _ mem => absurd mem List.not_mem_nil
    · exact List.forall_mem_cons.mpr ⟨by decide, fun byte mem => digit byte (every byte mem)⟩
  change ∀ byte ∈ numberText negative whole places, byte < 0x80
  rw [numberText, List.forall_mem_append, List.forall_mem_append]
  exact ⟨sign, fun byte mem => digit byte (isDigit_of_mem_decimal mem), point⟩

/-- A text with which no value begins, for a value. -/
def unreadable (raw : Bytes) (value : Json)
    (never : ∀ depth rest, jsonValue depth (raw ++ rest) = none) : Rendering where
  raw := raw
  value := value
  isFaithful := False
  printable := False.elim
  reads _ _ _ _ _ := by simp [never]

end Rendering

end FileTrans.Text
