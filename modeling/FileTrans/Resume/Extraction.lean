import FileTrans.Resume.Layout

/-!
# What the reader finds in a state file

For every key, the value that `extract_json_value` returns on a text laid out as
a state file.  The text may end inside its last value, or between that value and
the closing brace.
-/

namespace FileTrans.Resume

open Core Text

/-! ## Values -/

/-- A byte of a number: a digit or a minus. -/
def NumeralByte (byte : UInt8) : Prop :=
  byte = 0x2d ∨ isDigit 10 byte = true

/-- Text that follows a number ends it. -/
def EndsNumber (rest : Bytes) : Prop :=
  ∀ byte ∈ rest.head?, endsNumber byte = true

variable {byte other previous : UInt8} {text key : Bytes}

theorem numeralByte_decimalInt {number : Int} (mem : byte ∈ decimalInt number) :
    NumeralByte byte := by
  unfold decimalInt at mem
  split at mem
  · rcases List.mem_cons.mp mem with minus | digit
    · exact Or.inl minus
    · exact Or.inr (isDigit_of_mem_decimal digit)
  · exact Or.inr (isDigit_of_mem_decimal mem)

theorem numeralByte_decimal {number : Nat} (mem : byte ∈ decimal number) : NumeralByte byte :=
  Or.inr (isDigit_of_mem_decimal mem)

theorem NumeralByte.ne (numeral : NumeralByte byte) (notMinus : other ≠ 0x2d)
    (notDigit : digitValue other = none) : byte ≠ other := by
  rcases numeral with rfl | digit
  · exact Ne.symm notMinus
  · exact TransferId.ne_of_isDigit digit notDigit

theorem NumeralByte.plain (numeral : NumeralByte byte) :
    byte ≠ quote ∧ isValueSpace byte = false ∧ endsNumber byte = false ∧
      (byte == 0x20 || byte == 0x09) = false := by
  have quoteNe := numeral.ne (by decide : quote ≠ 0x2d) rfl
  have blank := numeral.ne (by decide : (0x20 : UInt8) ≠ 0x2d) rfl
  have newline := numeral.ne (by decide : (0x0a : UInt8) ≠ 0x2d) rfl
  have tab := numeral.ne (by decide : (0x09 : UInt8) ≠ 0x2d) rfl
  have comma := numeral.ne (by decide : (0x2c : UInt8) ≠ 0x2d) rfl
  have brace := numeral.ne (by decide : (0x7d : UInt8) ≠ 0x2d) rfl
  simp [isValueSpace, endsNumber, quoteNe, blank, newline, tab, comma, brace]

theorem valueAfterColon_number {digits rest : Bytes}
    (numeral : ∀ byte ∈ digits, NumeralByte byte) (ends : EndsNumber rest)
    (nonempty : digits ≠ []) : valueAfterColon (0x20 :: (digits ++ rest)) = digits := by
  cases digits with
  | nil => exact absurd rfl nonempty
  | cons first digits =>
      obtain ⟨notQuote, notSpace, -, -⟩ := (numeral first List.mem_cons_self).plain
      have dropped : (0x20 :: (first :: digits ++ rest)).dropWhile isValueSpace =
          first :: (digits ++ rest) := by
        rw [List.dropWhile_cons_of_pos (by decide), List.cons_append,
          List.dropWhile_cons_of_neg (by simp [notSpace])]
      have taken : (first :: (digits ++ rest)).takeWhile (fun byte => !endsNumber byte) =
          first :: digits := by
        rw [← List.cons_append, List.takeWhile_append_of_pos fun byte mem => by
          simp [(numeral byte mem).plain.2.2.1]]
        have stops : rest.takeWhile (fun byte => !endsNumber byte) = [] := by
          cases rest with
          | nil => rfl
          | cons byte rest =>
              rw [List.takeWhile_cons_of_neg]
              simp [ends byte rfl]
        rw [stops, List.append_nil]
      have trimmed : ((first :: digits).reverse.dropWhile
          fun byte => byte == 0x20 || byte == 0x09) = (first :: digits).reverse := by
        cases reversed : (first :: digits).reverse with
        | nil => rfl
        | cons last before =>
            have mem : last ∈ first :: digits := by
              rw [← List.mem_reverse, reversed]
              exact List.mem_cons_self
            rw [List.dropWhile_cons_of_neg]
            simp [(numeral last mem).plain.2.2.2]
      rw [valueAfterColon, dropped]
      simp only [if_neg notQuote]
      rw [numericValue, taken, trimmed, List.reverse_reverse]

theorem stringValue_of_plain (noQuote : quote ∉ text) (rest : Bytes) :
    stringValue previous (text ++ rest) = text ++ stringValue (lastByte previous text) rest := by
  induction text generalizing previous with
  | nil => rfl
  | cons byte text ih =>
      rw [List.mem_cons, not_or] at noQuote
      have goesOn : ¬ (byte = quote ∧ previous ≠ backslash) := fun stop =>
        noQuote.1 stop.1.symm
      rw [List.cons_append, stringValue, if_neg goesOn, ih noQuote.2, List.cons_append]
      rfl

theorem stringValue_escape (previous : UInt8) (text rest : Bytes) :
    stringValue previous (escapeJsonString text ++ rest) =
      escapeJsonString text ++
        stringValue (lastByte previous (escapeJsonString text)) rest := by
  induction text generalizing previous with
  | nil => rfl
  | cons byte text ih =>
      rw [escapeJsonString] at ih ⊢
      rw [List.flatMap_cons, List.append_assoc, lastByte_append, List.append_assoc]
      by_cases isQuote : byte = quote
      · rw [isQuote, escapeByte_quote]
        have first : ¬ (backslash = quote ∧ previous ≠ backslash) := fun stop =>
          absurd stop.1 (by decide)
        have second : ¬ (quote = quote ∧ backslash ≠ backslash) := fun stop => stop.2 rfl
        rw [List.cons_append, List.cons_append, List.nil_append, stringValue, if_neg first,
          stringValue, if_neg second, ih]
        rfl
      · rw [stringValue_of_plain (quote_notMem_escapeByte isQuote), ih]

theorem stringValue_quote (plain : previous ≠ backslash) (rest : Bytes) :
    stringValue previous (quote :: rest) = [] :=
  if_pos ⟨rfl, plain⟩

theorem valueAfterColon_string (rest : Bytes) :
    valueAfterColon (0x20 :: quote :: rest) = stringValue quote rest :=
  rfl

theorem lastByte_ne (absent : other ∉ text) (differs : previous ≠ other) :
    lastByte previous text ≠ other := by
  induction text generalizing previous with
  | nil => exact differs
  | cons byte text ih =>
      rw [List.mem_cons, not_or] at absent
      exact ih absent.2 (Ne.symm absent.1)

theorem valueAfterColon_quoted (noQuote : quote ∉ text) (noBackslash : backslash ∉ text)
    (rest : Bytes) : valueAfterColon (0x20 :: (quoted text ++ rest)) = text := by
  have start : quoted text ++ rest = quote :: (text ++ quote :: rest) := by simp [quoted]
  rw [start, valueAfterColon_string, stringValue_of_plain noQuote,
    stringValue_quote (lastByte_ne noBackslash (by decide)), List.append_nil]

/-! ## Keys in front of the file name -/

/-- A text of hexadecimal digits. -/
def HexText (text : Bytes) : Prop :=
  ∀ byte ∈ text, isDigit 16 byte = true

theorem HexText.notMem (hex : HexText text) (notDigit : digitValue other = none) :
    other ∉ text := fun mem =>
  TransferId.ne_of_isDigit (hex other mem) notDigit rfl

theorem HexText.ne (hex : HexText text) (plain : PlainKey key) : text ≠ key := by
  rintro rfl
  obtain ⟨byte, mem, notHex⟩ := plain.notHex
  rw [hex byte mem] at notHex
  cases notHex

theorem toString_notMem {id : TransferId} (notDash : other ≠ TransferId.dash)
    (notDigit : digitValue other = none) : other ∉ id.toString := by
  intro mem
  rcases TransferId.mem_toString mem with isDash | digit
  · exact notDash isDash
  · exact TransferId.ne_of_isDigit digit notDigit rfl

theorem dash_mem_toString (id : TransferId) : TransferId.dash ∈ id.toString := by
  simp [TransferId.toString]

theorem toString_ne (id : TransferId) (plain : PlainKey key) : id.toString ≠ key := by
  rintro rfl
  exact plain.dash_notMem (dash_mem_toString id)

theorem extractJsonValue_of_find {json value rest : Bytes} (plain : PlainKey key)
    (found : find (quoted key) json = some (memberText key value rest)) :
    extractJsonValue json key = valueAfterColon (0x20 :: (value ++ rest)) := by
  have colon : find [0x3a] (memberText key value rest) =
      some (0x3a :: 0x20 :: (value ++ rest)) := by
    have noColon : 0x3a ∉ quoted key := by
      simp only [quoted, List.mem_cons, List.mem_append, not_or]
      exact ⟨by decide, plain.colon_notMem, by decide, List.not_mem_nil⟩
    exact find_byte noColon (0x20 :: (value ++ rest))
  rw [extractJsonValue, found]
  simp only [colon, List.tail_cons]

section State

variable (state : TransferState) (lastValue rest : Bytes)

theorem extract_id :
    extractJsonValue (stateText state lastValue rest) (ascii "id") = state.id.toString := by
  have plain : PlainKey (ascii "id") := plainKey_of_mem (by decide)
  have found : find (quoted (ascii "id")) (stateText state lastValue rest) =
      some (memberText (ascii "id") (quoted state.id.toString) (ascii ",\n  " ++
        memberText (ascii "filename") (quoted (escapeJsonString state.filename))
          (afterFilename state lastValue rest))) := by
    rw [stateText, find_quoted_skip _ (by decide)]
    exact find_of_starts (quoted (ascii "id")) _
  rw [extractJsonValue_of_find plain found]
  exact valueAfterColon_quoted (toString_notMem (by decide) rfl) (toString_notMem (by decide) rfl) _

variable {key : Bytes}

theorem find_quoted_stateText (plain : PlainKey key) (notId : ascii "id" ≠ key) :
    find (quoted key) (stateText state lastValue rest) =
      find (quoted key) (memberText (ascii "filename") (quoted (escapeJsonString state.filename))
        (afterFilename state lastValue rest)) := by
  have inert : Inert key (quoted state.id.toString) :=
    Or.inr ⟨_, rfl, toString_notMem (by decide) rfl, toString_ne state.id plain⟩
  have passed := find_quoted_member plain (by decide) notId inert
  rw [stateText, find_quoted_skip _ (by decide)]
  exact passed _

/-- The file name is read with its escapes; if it ends with a backslash, the value
goes on to the next quote. -/
theorem extract_filename :
    extractJsonValue (stateText state lastValue rest) (ascii "filename") =
      if state.filename.getLast? = some backslash then
        escapeJsonString state.filename ++ quote :: ascii ",\n  "
      else escapeJsonString state.filename := by
  have plain : PlainKey (ascii "filename") := plainKey_of_mem (by decide)
  have found := find_quoted_stateText state lastValue rest plain (by decide)
  rw [memberText, find_of_starts] at found
  rw [extractJsonValue_of_find plain found]
  have start : quoted (escapeJsonString state.filename) ++ afterFilename state lastValue rest =
      quote :: (escapeJsonString state.filename ++
        quote :: afterFilename state lastValue rest) := by
    simp [quoted]
  rw [start, valueAfterColon_string, stringValue_escape]
  by_cases backslashed : state.filename.getLast? = some backslash
  · have last := (lastByte_escapeJsonString state.filename).mpr backslashed
    have goesOn : stringValue backslash (quote :: afterFilename state lastValue rest) =
        quote :: ascii ",\n  " := by
      have first : ¬ (quote = quote ∧ backslash ≠ backslash) := fun stop => stop.2 rfl
      rw [stringValue, if_neg first, afterFilename, stringValue_of_plain (by decide)]
      rfl
    rw [if_pos backslashed, last, goesOn]
  · have last : lastByte quote (escapeJsonString state.filename) ≠ backslash := fun ends =>
      backslashed ((lastByte_escapeJsonString state.filename).mp ends)
    rw [if_neg backslashed, stringValue_quote last, List.append_nil]

/-! ## Keys after the file name -/

/-- The keys between the file name and the last member. -/
def middleKeys : List Bytes :=
  [ascii "total_size", ascii "transferred_bytes", ascii "total_chunks", ascii "chunk_bitmap",
    ascii "sha256", ascii "started_at"]

theorem map_fst_middleMembers : (middleMembers state).map Prod.fst = middleKeys :=
  rfl

theorem plainKey_of_mem_middleKeys (mem : key ∈ middleKeys) : PlainKey key := by
  have every : ∀ key ∈ middleKeys, key ∈ stateKeys := by decide
  exact plainKey_of_mem (every key mem)

theorem inert_of_mem_middleMembers (plain : PlainKey key) (hex : HexText state.sha256)
    {member : Bytes × Bytes} (mem : member ∈ middleMembers state) : Inert key member.2 := by
  have number (value : Nat) : Inert key (decimal value) := Or.inl fun mem =>
    (numeralByte_decimal mem).plain.1 rfl
  have bitmapHex : HexText (bitmapToHexString state.chunkBitmap) := fun _ mem =>
    isDigit_of_mem_bitmapToHexString mem
  simp only [middleMembers, List.mem_cons, List.not_mem_nil, or_false] at mem
  rcases mem with rfl | rfl | rfl | rfl | rfl | rfl
  · exact number _
  · exact number _
  · exact number _
  · exact Or.inr ⟨_, rfl, bitmapHex.notMem rfl, bitmapHex.ne plain⟩
  · exact Or.inr ⟨_, rfl, hex.notMem rfl, hex.ne plain⟩
  · exact Or.inl fun mem => (numeralByte_decimalInt mem).plain.1 rfl

theorem middleMembers_pass (plain : PlainKey key) (hex : HexText state.sha256)
    {members : List (Bytes × Bytes)} (inside : members ⊆ middleMembers state)
    (absent : key ∉ members.map Prod.fst) :
    ∀ member ∈ members, quote ∉ member.1 ∧ member.1 ≠ key ∧ Inert key member.2 := by
  intro member mem
  have keyMem : member.1 ∈ middleKeys := by
    rw [← map_fst_middleMembers state]
    exact List.mem_map_of_mem (inside mem)
  refine ⟨(plainKey_of_mem_middleKeys keyMem).quote_notMem, ?_,
    inert_of_mem_middleMembers state plain hex (inside mem)⟩
  rintro rfl
  exact absent (List.mem_map_of_mem mem)

theorem extract_of_endsIn (plain : PlainKey key) (notId : ascii "id" ≠ key)
    (notFilename : ascii "filename" ≠ key) (confused : endsIn key state.filename) :
    extractJsonValue (stateText state lastValue rest) key = decimal state.totalSize.toNat := by
  have found := find_quoted_stateText state lastValue rest plain notId
  rw [find_quoted_filename plain _ _ notFilename, if_pos confused] at found
  have noColon : 0x3a ∉ quoted key ++ (ascii ",\n  " ++ quoted (ascii "total_size")) := by
    simp only [quoted, List.mem_append, List.mem_cons, List.not_mem_nil, not_or]
    exact ⟨⟨by decide, plain.colon_notMem, by decide, not_false⟩, by decide⟩
  have colon := find_byte noColon (0x20 :: (decimal state.totalSize.toNat ++ (ascii ",\n  " ++
    chain (middleMembers state).tail (memberText (ascii "last_activity") lastValue rest))))
  have split : quoted key ++ afterFilename state lastValue rest =
      quoted key ++ (ascii ",\n  " ++ quoted (ascii "total_size")) ++
        0x3a :: 0x20 :: (decimal state.totalSize.toNat ++ (ascii ",\n  " ++
          chain (middleMembers state).tail
            (memberText (ascii "last_activity") lastValue rest))) := by
    rw [List.append_assoc]
    rfl
  rw [extractJsonValue, found, split]
  simp only [colon, List.tail_cons]
  have ends : EndsNumber (ascii ",\n  " ++ chain (middleMembers state).tail
      (memberText (ascii "last_activity") lastValue rest)) := by
    rintro byte ⟨⟩
    rfl
  exact valueAfterColon_number (fun _ mem => numeralByte_decimal mem) ends (decimal_ne_nil _)

theorem find_quoted_members (plain : PlainKey key) (notId : ascii "id" ≠ key)
    (notFilename : ascii "filename" ≠ key) (clear : ¬ endsIn key state.filename) :
    find (quoted key) (stateText state lastValue rest) =
      find (quoted key)
        (chain (middleMembers state) (memberText (ascii "last_activity") lastValue rest)) := by
  obtain ⟨tail, next⟩ := chain_quote (middleMembers state)
    (ascii "last_activity\"" ++ (ascii ": " ++ (lastValue ++ rest)))
  have last : memberText (ascii "last_activity") lastValue rest =
      quote :: (ascii "last_activity\"" ++ (ascii ": " ++ (lastValue ++ rest))) := rfl
  rw [find_quoted_stateText state lastValue rest plain notId,
    find_quoted_filename plain _ _ notFilename, if_neg clear, afterFilename, last, next]
  refine find_quoted_next plain.quote_notMem (by decide) ?_ tail
  rintro rfl
  exact absurd plain.comma_notMem (by decide)

theorem extract_middle (index : Nat) {value : Bytes}
    (member : (middleMembers state)[index]? = some (key, value))
    (absent : key ∉ middleKeys.take index) (hex : HexText state.sha256) :
    extractJsonValue (stateText state lastValue rest) key =
      if endsIn key state.filename then decimal state.totalSize.toNat
      else valueAfterColon (0x20 :: (value ++ (ascii ",\n  " ++
        chain ((middleMembers state).drop (index + 1))
          (memberText (ascii "last_activity") lastValue rest)))) := by
  obtain ⟨bounded, isMember⟩ := List.getElem?_eq_some_iff.mp member
  have keyMem : key ∈ middleKeys := by
    rw [← map_fst_middleMembers state]
    exact List.mem_map_of_mem (List.mem_of_getElem? member)
  have plain := plainKey_of_mem_middleKeys keyMem
  have others : ∀ key ∈ middleKeys, ascii "id" ≠ key ∧ ascii "filename" ≠ key := by decide
  obtain ⟨notId, notFilename⟩ := others key keyMem
  by_cases confused : endsIn key state.filename
  · rw [if_pos confused]
    exact extract_of_endsIn state lastValue rest plain notId notFilename confused
  · have split : middleMembers state = (middleMembers state).take index ++
        (key, value) :: (middleMembers state).drop (index + 1) := by
      rw [← isMember, List.getElem_cons_drop, List.take_append_drop]
    rw [← map_fst_middleMembers state, ← List.map_take] at absent
    have passed := middleMembers_pass state plain hex (List.take_subset _ _) absent
    have found := find_quoted_members state lastValue rest plain notId notFilename confused
    rw [split, chain_append, chain, find_quoted_chain_hit plain passed] at found
    rw [if_neg confused, extractJsonValue_of_find plain found]

theorem extract_last (hex : HexText state.sha256) :
    extractJsonValue (stateText state lastValue rest) (ascii "last_activity") =
      if endsIn (ascii "last_activity") state.filename then decimal state.totalSize.toNat
      else valueAfterColon (0x20 :: (lastValue ++ rest)) := by
  have plain : PlainKey (ascii "last_activity") := plainKey_of_mem (by decide)
  by_cases confused : endsIn (ascii "last_activity") state.filename
  · rw [if_pos confused]
    exact extract_of_endsIn state lastValue rest plain (by decide) (by decide) confused
  · have found := find_quoted_members state lastValue rest plain (by decide) (by decide) confused
    have absent : ascii "last_activity" ∉ (middleMembers state).map Prod.fst := by
      rw [map_fst_middleMembers]
      decide
    rw [find_quoted_chain_hit plain
      (middleMembers_pass state plain hex (List.Subset.refl _) absent)] at found
    rw [if_neg confused, extractJsonValue_of_find plain found]

end State

end FileTrans.Resume
