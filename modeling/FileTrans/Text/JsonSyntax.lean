import FileTrans.Text.Numeral
import FileTrans.Text.Search

/-!
# JSON

A parser of JSON documents.  The members of an object stay in their order, also
if two have one name, and a number is kept as it is written.

A string between quotes is read as the text that it stands for.  Escapes are
longer than what they stand for, so a string reads as what is written between the
quotes only if nothing in it is escaped.

A document is UTF-8.  A character begins with a byte that says how many bytes
follow it, and in which ranges they are.  A byte of ASCII is a character and never
follows another byte.
-/

namespace FileTrans.Text

/-! ## UTF-8 -/

/-- The ranges of the bytes that follow a byte at the beginning of a character. -/
def followers (byte : UInt8) : Option (List (UInt8 × UInt8)) :=
  if byte < 0x80 then some []
  else if 0xc2 ≤ byte ∧ byte ≤ 0xdf then some [(0x80, 0xbf)]
  else if byte = 0xe0 then some [(0xa0, 0xbf), (0x80, 0xbf)]
  else if byte = 0xed then some [(0x80, 0x9f), (0x80, 0xbf)]
  else if 0xe1 ≤ byte ∧ byte ≤ 0xef then some [(0x80, 0xbf), (0x80, 0xbf)]
  else if byte = 0xf0 then some [(0x90, 0xbf), (0x80, 0xbf), (0x80, 0xbf)]
  else if 0xf1 ≤ byte ∧ byte ≤ 0xf3 then some [(0x80, 0xbf), (0x80, 0xbf), (0x80, 0xbf)]
  else if byte = 0xf4 then some [(0x80, 0x8f), (0x80, 0xbf), (0x80, 0xbf)]
  else none

/-- Read a byte, with the ranges of the bytes that are still missing. -/
def utf8Step : List (UInt8 × UInt8) → UInt8 → Option (List (UInt8 × UInt8))
  | [], byte => followers byte
  | range :: missing, byte =>
      if 0x80 ≤ byte ∧ range.1 ≤ byte ∧ byte ≤ range.2 then some missing else none

/-- A text of whole characters. -/
def ValidUtf8 (text : Bytes) : Prop :=
  text.foldlM utf8Step [] = some []

instance (text : Bytes) : Decidable (ValidUtf8 text) :=
  inferInstanceAs (Decidable (_ = _))

variable {byte : UInt8} {first rest : Bytes}

theorem utf8Step_ascii (small : byte < 0x80) (missing : List (UInt8 × UInt8)) :
    utf8Step missing byte = if missing = [] then some [] else none := by
  cases missing with
  | nil => simp [utf8Step, followers, small]
  | cons range missing =>
      have early : ¬ 0x80 ≤ byte := UInt8.not_le.mpr small
      simp [utf8Step, early]

theorem validUtf8_append_cons_iff (small : byte < 0x80) :
    ValidUtf8 (first ++ byte :: rest) ↔ ValidUtf8 first ∧ ValidUtf8 rest := by
  rw [ValidUtf8, ValidUtf8, ValidUtf8, List.foldlM_append]
  cases read : first.foldlM utf8Step [] with
  | none => simp
  | some missing => cases missing <;> simp [List.foldlM_cons, utf8Step_ascii small]

theorem validUtf8_cons_iff (small : byte < 0x80) : ValidUtf8 (byte :: rest) ↔ ValidUtf8 rest := by
  have split : ValidUtf8 ([] ++ byte :: rest) ↔ ValidUtf8 [] ∧ ValidUtf8 rest :=
    validUtf8_append_cons_iff small
  exact split.trans (and_iff_right rfl)

theorem validUtf8_append_iff (small : ∀ byte ∈ first, byte < 0x80) :
    ValidUtf8 (first ++ rest) ↔ ValidUtf8 rest := by
  induction first with
  | nil => rfl
  | cons byte first ih =>
      rw [List.cons_append, validUtf8_cons_iff (small byte List.mem_cons_self)]
      exact ih fun later mem => small later (List.mem_cons_of_mem _ mem)

end FileTrans.Text

namespace FileTrans.Text

/-! ## Documents -/

inductive Json
  | null
  | boolean (value : Bool)
  | number (text : Bytes)
  | string (text : Bytes)
  | array (items : List Json)
  | object (members : List (Bytes × Json))

/-! ## Strings -/

/-- White space between tokens. -/
def isJsonSpace (byte : UInt8) : Bool :=
  byte == 0x20 || byte == 0x09 || byte == 0x0a || byte == 0x0d

/-- A byte that stands for itself in a string. -/
def IsLiteralByte (byte : UInt8) : Prop :=
  0x20 ≤ byte ∧ byte ≠ quote ∧ byte ≠ backslash

instance (byte : UInt8) : Decidable (IsLiteralByte byte) :=
  inferInstanceAs (Decidable (_ ∧ _))

/-- A text that stands for itself in a string. -/
def IsLiteral (text : Bytes) : Prop :=
  ∀ byte ∈ text, IsLiteralByte byte

instance (text : Bytes) : Decidable (IsLiteral text) :=
  inferInstanceAs (Decidable (∀ _ ∈ text, _))

/-- What a letter after a backslash stands for. -/
def simpleEscape (letter : UInt8) : Option UInt8 :=
  if letter = quote then some quote
  else if letter = backslash then some backslash
  else if letter = 0x2f then some 0x2f
  else if letter = 0x62 then some 0x08
  else if letter = 0x66 then some 0x0c
  else if letter = 0x6e then some 0x0a
  else if letter = 0x72 then some 0x0d
  else if letter = 0x74 then some 0x09
  else none

/-- Four hexadecimal digits. -/
def hexUnit : Bytes → Option (Nat × Bytes)
  | first :: second :: third :: fourth :: rest =>
      if [first, second, third, fourth].all (isDigit 16) then
        some (ofDigits 16 [first, second, third, fourth], rest)
      else none
  | _ => none

/-- A character in UTF-8. -/
def encodeCharacter (code : Nat) : Bytes :=
  let tail (shift : Nat) : UInt8 := UInt8.ofNat (0x80 + code / 2 ^ shift % 0x40)
  if code < 0x80 then [UInt8.ofNat code]
  else if code < 0x800 then [UInt8.ofNat (0xc0 + code / 2 ^ 6), tail 0]
  else if code < 0x10000 then [UInt8.ofNat (0xe0 + code / 2 ^ 12), tail 6, tail 0]
  else [UInt8.ofNat (0xf0 + code / 2 ^ 18), tail 12, tail 6, tail 0]

/-- The character of a `\u` escape, which may take a pair of surrogates. -/
def unicodeEscape (text : Bytes) : Option (Bytes × Bytes) :=
  match hexUnit text with
  | none => none
  | some (high, rest) =>
      if 0xdc00 ≤ high ∧ high < 0xe000 then none
      else if 0xd800 ≤ high ∧ high < 0xdc00 then
        match rest with
        | slash :: letter :: rest =>
            if slash = backslash ∧ letter = 0x75 then
              match hexUnit rest with
              | none => none
              | some (low, rest) =>
                  if 0xdc00 ≤ low ∧ low < 0xe000 then
                    some (encodeCharacter
                      (0x10000 + (high - 0xd800) * 0x400 + (low - 0xdc00)), rest)
                  else none
            else none
        | _ => none
      else some (encodeCharacter high, rest)

/-- The character that an escape stands for, after the backslash. -/
def escapedCharacter : Bytes → Option (Bytes × Bytes)
  | [] => none
  | letter :: rest =>
      if letter = 0x75 then unicodeEscape rest
      else (simpleEscape letter).map fun byte => ([byte], rest)

/-- A string up to the quote that ends it, of at most so many characters less one. -/
def stringWithin : Nat → Bytes → Option (Bytes × Bytes)
  | 0, _ => none
  | _ + 1, [] => none
  | count + 1, byte :: rest =>
      if byte = quote then some ([], rest)
      else if byte = backslash then
        match escapedCharacter rest with
        | none => none
        | some (character, rest) =>
            (stringWithin count rest).map fun (text, rest) => (character ++ text, rest)
      else if byte < 0x20 then none
      else (stringWithin count rest).map fun (text, rest) => (byte :: text, rest)

/-- A string after the quote that begins it.  Every character takes a byte. -/
def stringAfterQuote (text : Bytes) : Option (Bytes × Bytes) :=
  stringWithin text.length text

/-! ## Values -/

/-- At least one digit. -/
def someDigits (text : Bytes) : Option (Bytes × Bytes) :=
  let digits := text.takeWhile (isDigit 10)
  if digits = [] then none else some (digits, text.drop digits.length)

/-- The integer part of a number, which has no leading zero. -/
def integerPart : Bytes → Option (Bytes × Bytes)
  | [] => none
  | byte :: rest => if byte = 0x30 then some ([byte], rest) else someDigits (byte :: rest)

/-- A part of a number that begins with one of these bytes, or nothing. -/
def optionalPart (begins : List UInt8) (read : Bytes → Option (Bytes × Bytes)) :
    Bytes → Option (Bytes × Bytes)
  | [] => some ([], [])
  | byte :: rest =>
      if byte ∈ begins then (read rest).map fun (part, rest) => (byte :: part, rest)
      else some ([], byte :: rest)

/-- The digits of an exponent, which may have a sign. -/
def exponentPart : Bytes → Option (Bytes × Bytes)
  | [] => none
  | byte :: rest =>
      if byte = 0x2b ∨ byte = 0x2d then
        (someDigits rest).map fun (digits, rest) => (byte :: digits, rest)
      else someDigits (byte :: rest)

def jsonNumber (text : Bytes) : Option (Json × Bytes) := do
  let (sign, text) := if text.head? = some 0x2d then ([0x2d], text.drop 1) else ([], text)
  let (integer, text) ← integerPart text
  let (fraction, text) ← optionalPart [0x2e] someDigits text
  let (exponent, text) ← optionalPart [0x65, 0x45] exponentPart text
  some (.number (sign ++ integer ++ fraction ++ exponent), text)

/-- A value that is neither a string nor an array nor an object. -/
def scalarValue (text : Bytes) : Option (Json × Bytes) :=
  if ascii "true" <+: text then some (.boolean true, text.drop 4)
  else if ascii "false" <+: text then some (.boolean false, text.drop 5)
  else if ascii "null" <+: text then some (.null, text.drop 4)
  else jsonNumber text

/-- What is left of a text behind white space. -/
def skipSpace (text : Bytes) : Bytes :=
  text.dropWhile isJsonSpace

mutual

/-- A value, with values nested at most so deep in it. -/
def jsonValue : Nat → Bytes → Option (Json × Bytes)
  | 0, _ => none
  | depth + 1, text =>
      match skipSpace text with
      | [] => none
      | byte :: rest =>
          if byte = quote then
            (stringAfterQuote rest).map fun (text, rest) => (.string text, rest)
          else if byte = 0x5b then
            if (skipSpace rest).head? = some 0x5d then some (.array [], (skipSpace rest).tail)
            else (jsonItems depth rest).map fun (items, rest) => (.array items, rest)
          else if byte = 0x7b then
            if (skipSpace rest).head? = some 0x7d then some (.object [], (skipSpace rest).tail)
            else (jsonMembers depth rest).map fun (members, rest) => (.object members, rest)
          else scalarValue (byte :: rest)

/-- The items of an array, from one on. -/
def jsonItems : Nat → Bytes → Option (List Json × Bytes)
  | 0, _ => none
  | depth + 1, text =>
      match jsonValue depth text with
      | none => none
      | some (value, rest) =>
          match skipSpace rest with
          | [] => none
          | byte :: rest =>
              if byte = 0x2c then
                (jsonItems depth rest).map fun (items, rest) => (value :: items, rest)
              else if byte = 0x5d then some ([value], rest)
              else none

/-- The members of an object, from one on. -/
def jsonMembers : Nat → Bytes → Option (List (Bytes × Json) × Bytes)
  | 0, _ => none
  | depth + 1, text =>
      match skipSpace text with
      | [] => none
      | byte :: rest =>
          if byte = quote then
            match stringAfterQuote rest with
            | none => none
            | some (name, rest) =>
                match skipSpace rest with
                | [] => none
                | byte :: rest =>
                    if byte = 0x3a then
                      match jsonValue depth rest with
                      | none => none
                      | some (value, rest) =>
                          match skipSpace rest with
                          | [] => none
                          | byte :: rest =>
                              if byte = 0x2c then
                                (jsonMembers depth rest).map fun (members, rest) =>
                                  ((name, value) :: members, rest)
                              else if byte = 0x7d then some ([(name, value)], rest)
                              else none
                    else none
          else none

end

/-- The value of a document.  A byte nests two values at most. -/
def decodeJson (text : Bytes) : Option Json :=
  if ValidUtf8 text then
    match jsonValue (2 * text.length + 1) text with
    | none => none
    | some (value, rest) => if skipSpace rest = [] then some value else none
  else none

end FileTrans.Text
