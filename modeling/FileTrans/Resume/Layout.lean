import FileTrans.Resume.Fields

/-!
# The layout of a state file

A state file is a sequence of members, each a key in quotes, a colon and a value.
The search for a key passes every member with another key whose value cannot be
taken for the key; only the file name can.
-/

namespace FileTrans.Resume

open Core Text

/-! ## Members -/

/-- A key, its value, and the text that follows. -/
def memberText (key value rest : Bytes) : Bytes :=
  quoted key ++ (ascii ": " ++ (value ++ rest))

/-- Members, each followed by a comma and a new line, in front of `last`. -/
def chain : List (Bytes × Bytes) → Bytes → Bytes
  | [], last => last
  | (key, value) :: members, last =>
      memberText key value (ascii ",\n  " ++ chain members last)

theorem chain_append (first second : List (Bytes × Bytes)) (last : Bytes) :
    chain (first ++ second) last = chain first (chain second last) := by
  induction first with
  | nil => rfl
  | cons member first ih =>
      obtain ⟨key, value⟩ := member
      rw [List.cons_append, chain, chain, ih]

theorem chain_quote (members : List (Bytes × Bytes)) (rest : Bytes) :
    ∃ tail, chain members (quote :: rest) = quote :: tail := by
  cases members with
  | nil => exact ⟨rest, rfl⟩
  | cons member members => exact ⟨_, rfl⟩

/-- The members between the file name and the last one. -/
def middleMembers (state : TransferState) : List (Bytes × Bytes) :=
  [(ascii "total_size", decimal state.totalSize.toNat),
    (ascii "transferred_bytes", decimal state.transferredBytes.toNat),
    (ascii "total_chunks", decimal state.totalChunks.toNat),
    (ascii "chunk_bitmap", quoted (bitmapToHexString state.chunkBitmap)),
    (ascii "sha256", quoted state.sha256),
    (ascii "started_at", decimalInt (timePointToInt64 state.startedAt))]

/-- The text after the file name, up to a last value and what follows it. -/
def afterFilename (state : TransferState) (lastValue rest : Bytes) : Bytes :=
  ascii ",\n  " ++ chain (middleMembers state) (memberText (ascii "last_activity") lastValue rest)

/-- The text of a state file, up to a last value and what follows it. -/
def stateText (state : TransferState) (lastValue rest : Bytes) : Bytes :=
  ascii "\x7b\n  " ++ memberText (ascii "id") (quoted state.id.toString)
    (ascii ",\n  " ++ memberText (ascii "filename") (quoted (escapeJsonString state.filename))
      (afterFilename state lastValue rest))

theorem serializeStateToJson_eq (state : TransferState) :
    serializeStateToJson state =
      stateText state (decimalInt (timePointToInt64 state.lastActivity)) (ascii "\n\x7d") := by
  have first (rest : Bytes) : ascii "\x7b\n" ++ (ascii "  " ++ rest) =
      ascii "\x7b\n  " ++ rest := rfl
  have next (rest : Bytes) : ascii ",\n" ++ (ascii "  " ++ rest) = ascii ",\n  " ++ rest := rfl
  have brace : ascii "\n" ++ ascii "\x7d" = ascii "\n\x7d" := rfl
  delta serializeStateToJson
  simp only [jsonLine, List.append_assoc, first, next, brace, stateText, afterFilename,
    middleMembers, chain, memberText]

/-! ## Keys -/

/-- The keys of a state file. -/
def stateKeys : List Bytes :=
  [ascii "id", ascii "filename", ascii "total_size", ascii "transferred_bytes",
    ascii "total_chunks", ascii "chunk_bitmap", ascii "sha256", ascii "started_at",
    ascii "last_activity"]

/-- What every key has in common: no punctuation, and not only hexadecimal digits. -/
structure PlainKey (key : Bytes) : Prop where
  quote_notMem : quote ∉ key
  backslash_notMem : backslash ∉ key
  colon_notMem : 0x3a ∉ key
  comma_notMem : 0x2c ∉ key
  dash_notMem : TransferId.dash ∉ key
  notHex : ∃ byte ∈ key, isDigit 16 byte = false
  printable : ∀ byte ∈ key, ¬ byte < 0x20

theorem plainKey_of_mem {key : Bytes} (mem : key ∈ stateKeys) : PlainKey key := by
  have every : ∀ key ∈ stateKeys, quote ∉ key ∧ backslash ∉ key ∧ 0x3a ∉ key ∧ 0x2c ∉ key ∧
      TransferId.dash ∉ key ∧ (∃ byte ∈ key, isDigit 16 byte = false) ∧
      ∀ byte ∈ key, ¬ byte < 0x20 := by decide +kernel
  obtain ⟨noQuote, noBackslash, noColon, noComma, noDash, notHex, printable⟩ := every key mem
  exact ⟨noQuote, noBackslash, noColon, noComma, noDash, notHex, printable⟩

/-! ## Searching through members -/

/-- A value that the search for `word` passes over. -/
def Inert (word value : Bytes) : Prop :=
  quote ∉ value ∨ ∃ text, value = quoted text ∧ quote ∉ text ∧ text ≠ word

section Search

variable {word : Bytes} (plain : PlainKey word)
include plain

private theorem ne_of_colon {text : Bytes} (colon : 0x3a ∈ text) : text ≠ word := by
  rintro rfl
  exact plain.colon_notMem colon

private theorem ne_of_comma {text : Bytes} (comma : 0x2c ∈ text) : text ≠ word := by
  rintro rfl
  exact plain.comma_notMem comma

theorem find_quoted_key {key : Bytes} (keyPlain : quote ∉ key) (other : key ≠ word)
    (rest : Bytes) :
    find (quoted word) (quoted key ++ rest) = find (quoted word) (quote :: rest) := by
  have passed := find_quoted_next plain.quote_notMem keyPlain other rest
  simpa [quoted] using passed

theorem find_quoted_member {key value : Bytes} (keyPlain : quote ∉ key) (other : key ≠ word)
    (inert : Inert word value) (rest : Bytes) :
    find (quoted word) (memberText key value (ascii ",\n  " ++ quote :: rest)) =
      find (quoted word) (quote :: rest) := by
  rw [memberText, find_quoted_key plain keyPlain other]
  rcases inert with noQuote | ⟨text, rfl, noQuote, differs⟩
  · have absent : quote ∉ ascii ": " ++ (value ++ ascii ",\n  ") := by
      simp only [List.mem_append, not_or]
      exact ⟨by decide, noQuote, by decide⟩
    have colon : 0x3a ∈ ascii ": " ++ (value ++ ascii ",\n  ") :=
      List.mem_append_left _ (by decide)
    have passed := find_quoted_next plain.quote_notMem absent (ne_of_colon plain colon) rest
    simpa only [List.append_assoc] using passed
  · have opening := find_quoted_next plain.quote_notMem (by decide : quote ∉ ascii ": ")
      (ne_of_colon plain (by decide)) (text ++ quote :: (ascii ",\n  " ++ quote :: rest))
    have value := find_quoted_next plain.quote_notMem noQuote differs
      (ascii ",\n  " ++ quote :: rest)
    have closing := find_quoted_next plain.quote_notMem (by decide : quote ∉ ascii ",\n  ")
      (ne_of_comma plain (by decide)) rest
    rw [← closing, ← value, ← opening]
    simp [quoted]

theorem find_quoted_chain {members : List (Bytes × Bytes)}
    (pass : ∀ member ∈ members, quote ∉ member.1 ∧ member.1 ≠ word ∧ Inert word member.2)
    (rest : Bytes) :
    find (quoted word) (chain members (quote :: rest)) = find (quoted word) (quote :: rest) := by
  induction members with
  | nil => rfl
  | cons member members ih =>
      obtain ⟨key, value⟩ := member
      obtain ⟨keyPlain, other, inert⟩ := pass (key, value) List.mem_cons_self
      obtain ⟨tail, next⟩ := chain_quote members rest
      rw [chain, next, find_quoted_member plain keyPlain other inert, ← next]
      exact ih fun member mem => pass member (List.mem_cons_of_mem _ mem)

theorem find_quoted_chain_hit {before : List (Bytes × Bytes)}
    (pass : ∀ member ∈ before, quote ∉ member.1 ∧ member.1 ≠ word ∧ Inert word member.2)
    (value : Bytes) (rest : Bytes) :
    find (quoted word) (chain before (memberText word value rest)) =
      some (memberText word value rest) := by
  have start : memberText word value rest =
      quote :: (word ++ [quote] ++ (ascii ": " ++ (value ++ rest))) := rfl
  rw [start, find_quoted_chain plain pass, ← start]
  exact find_of_starts (quoted word) _

theorem find_quoted_filename (filename rest : Bytes) (other : ascii "filename" ≠ word) :
    find (quoted word) (memberText (ascii "filename") (quoted (escapeJsonString filename)) rest) =
      if endsIn word filename then some (quoted word ++ rest)
      else find (quoted word) (quote :: rest) := by
  have fixes : ∀ text, text.flatMap escapeByte = word ↔ text = word := by
    have same : word.flatMap escapeByte = word := by
      have raw : ∀ byte ∈ word, escapeByte byte = [byte] := by
        intro byte mem
        refine escapeByte_of_plain ?_ ?_ (plain.printable byte mem)
        · rintro rfl
          exact plain.quote_notMem mem
        · rintro rfl
          exact plain.backslash_notMem mem
      rw [List.flatMap_congr raw, List.flatMap_singleton']
    intro text
    constructor
    · intro escaped
      exact escapeJsonString_injective (escaped.trans same.symm)
    · rintro rfl
      exact same
  have passed := find_quoted_escaped plain.quote_notMem escapeByte_quote
    (fun _ => quote_notMem_escapeByte) plain.backslash_notMem List.not_mem_nil
    filename rest
  have opening := find_quoted_next plain.quote_notMem (by decide : quote ∉ ascii ": ")
    (ne_of_colon plain (by decide)) (escapeJsonString filename ++ quote :: rest)
  rw [memberText, find_quoted_key plain (by decide) other]
  simp only [lastPiece_eq_iff_endsIn plain.quote_notMem fixes, List.nil_append] at passed
  rw [← passed, ← escapeJsonString, ← opening]
  simp [quoted]

end Search

end FileTrans.Resume
