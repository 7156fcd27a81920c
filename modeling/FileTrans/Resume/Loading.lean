import FileTrans.Resume.RoundTrip

/-!
# Loading arbitrary state files

Two conversions stand outside the `try` block of `deserialize_state_from_json`: the
digits of a `\u` escape in the file name, and the pairs of digits of the bitmap.
Where the text there does not begin with a number, an exception leaves the function.
-/

namespace FileTrans.Resume

open Core Text

/-! ## Escapes -/

/-- How many bytes after a backslash belong to its escape. -/
def escapeLength (byte : UInt8) (rest : Bytes) : Nat :=
  if byte = backslash then
    match rest with
    | [] => 0
    | letter :: digits =>
        if (escapedByte letter).isSome then 1
        else if letter = 0x75 ∧ 4 ≤ digits.length then 5
        else 0
  else 0

/-- Not a `\u` whose four bytes are no number. -/
def escapeReadable (byte : UInt8) (rest : Bytes) : Bool :=
  if escapeLength byte rest = 5 then beginsNumeral 16 ((rest.drop 1).take 4) else true

/-- Each escape of the text, after `skip` further bytes, can be read. -/
def escapesReadable : Nat → Bytes → Bool
  | _, [] => true
  | skip + 1, _ :: rest => escapesReadable skip rest
  | 0, byte :: rest =>
      escapeReadable byte rest && escapesReadable (escapeLength byte rest) rest

theorem unescapeStep_map_snd (byte : UInt8) (rest : Bytes) :
    (unescapeStep byte rest).map Prod.snd =
      if escapeReadable byte rest then some (escapeLength byte rest) else none := by
  by_cases escape : byte = backslash
  · subst escape
    cases rest with
    | nil => rfl
    | cons letter digits =>
        cases known : escapedByte letter with
        | some byte => simp [unescapeStep, escapeReadable, escapeLength, known]
        | none =>
            by_cases isU : letter = 0x75
            · subst isU
              by_cases enough : 4 ≤ digits.length
              · have short : (digits.take 4).length ≤ 7 := by
                  rw [List.length_take]
                  omega
                have reads := stoi_isSome_of_short short
                cases code : stoi 16 (digits.take 4) <;> rw [code] at reads <;>
                  simp [unescapeStep, escapeReadable, escapeLength, known, enough, code, ← reads]
              · simp [unescapeStep, escapeReadable, escapeLength, known, enough]
            · simp [unescapeStep, escapeReadable, escapeLength, known, isU]
  · simp [unescapeStep, escapeReadable, escapeLength, escape]

theorem unescapeFrom_isSome (skip : Nat) (text : Bytes) :
    (unescapeFrom skip text).isSome = escapesReadable skip text := by
  induction text generalizing skip with
  | nil => cases skip <;> rfl
  | cons byte rest ih =>
      cases skip with
      | succ skip => exact ih skip
      | zero =>
          have step := unescapeStep_map_snd byte rest
          rw [unescapeFrom, escapesReadable]
          cases readable : escapeReadable byte rest with
          | false =>
              rw [readable] at step
              have none := Option.map_eq_none_iff.mp step
              rw [none]
              rfl
          | true =>
              rw [readable, if_pos rfl] at step
              obtain ⟨⟨appended, skip⟩, found, rfl⟩ := Option.map_eq_some_iff.mp step
              rw [found, Bool.true_and, ← ih]
              exact Option.isSome_map

/-! ## Bitmaps -/

/-- Every pair of digits that is read for `total` bits begins with a digit. -/
def PairsReadable (total : Nat) (hex : Bytes) : Prop :=
  ∀ pair high low, 8 * pair < total → hex[2 * pair]? = some high →
    hex[2 * pair + 1]? = some low → beginsNumeral 16 [high, low] = true

variable {total : Nat} {hex : Bytes}

theorem pairsReadable_cons_cons {high low : UInt8} {rest : Bytes} (positive : 0 < total) :
    PairsReadable total (high :: low :: rest) ↔
      beginsNumeral 16 [high, low] = true ∧ PairsReadable (total - 8) rest := by
  constructor
  · intro readable
    refine ⟨readable 0 high low (by omega) rfl rfl, ?_⟩
    intro pair first second within firstAt secondAt
    exact readable (pair + 1) first second (by omega) firstAt secondAt
  · rintro ⟨now, later⟩ pair first second within firstAt secondAt
    cases pair with
    | zero =>
        cases firstAt
        cases secondAt
        exact now
    | succ pair => exact later pair first second (by omega) firstAt secondAt

private theorem stoi_pair_isSome (high low : UInt8) :
    (stoi 16 [high, low]).isSome = beginsNumeral 16 [high, low] :=
  stoi_isSome_of_short (by simp)

private theorem pairsReadable_of_short (short : hex.length < 2) : PairsReadable total hex := by
  intro pair high low _ _ lowAt
  have bounded := (List.getElem?_eq_some_iff.mp lowAt).1
  omega

theorem hexBits_isSome (total : Nat) (hex : Bytes) :
    (hexBits total hex).isSome = true ↔ PairsReadable total hex := by
  induction total, hex using hexBits.induct with
  | case1 hex =>
      simp only [hexBits, Option.isSome_some, true_iff]
      intro pair high low within
      omega
  | case2 remaining high low rest code reads ih =>
      have begins := stoi_pair_isSome high low
      rw [reads] at begins
      rw [pairsReadable_cons_cons (Nat.succ_pos _), ← ih, ← begins, hexBits, reads]
      simp
  | case3 remaining high low rest fails =>
      have begins := stoi_pair_isSome high low
      rw [fails] at begins
      rw [pairsReadable_cons_cons (Nat.succ_pos _), ← begins, hexBits, fails]
      simp
  | case4 remaining last =>
      simp only [hexBits, Option.isSome_some, true_iff]
      exact pairsReadable_of_short (by simp)
  | case5 remaining =>
      simp only [hexBits, Option.isSome_some, true_iff]
      exact pairsReadable_of_short (by simp)

theorem hexStringToBitmap_isSome (hex : Bytes) (total : Nat) :
    (hexStringToBitmap hex total).isSome = true ↔ PairsReadable total hex := by
  rw [hexStringToBitmap, Option.isSome_map, hexBits_isSome]

theorem length_hexBits_le {bits : List Bool} (read : hexBits total hex = some bits) :
    bits.length ≤ total := by
  induction total, hex using hexBits.induct generalizing bits with
  | case1 hex =>
      rw [hexBits] at read
      cases read
      exact Nat.le_refl _
  | case2 remaining high low rest code reads ih =>
      rw [hexBits, reads] at read
      obtain ⟨later, found, rfl⟩ := Option.map_eq_some_iff.mp read
      have bound := ih found
      rw [List.length_append, List.length_take, length_byteBits]
      omega
  | case3 remaining high low rest fails =>
      rw [hexBits, fails] at read
      cases read
  | case4 remaining last =>
      rw [hexBits] at read
      cases read
      exact Nat.zero_le _
  | case5 remaining =>
      rw [hexBits] at read
      cases read
      exact Nat.zero_le _

theorem length_hexStringToBitmap {bitmap : List Bool}
    (read : hexStringToBitmap hex total = some bitmap) : bitmap.length = total := by
  obtain ⟨bits, found, rfl⟩ := Option.map_eq_some_iff.mp read
  have bound := length_hexBits_le found
  rw [List.length_append, List.length_replicate]
  omega

/-! ## State files -/

/-- A text that is deserialized without an exception: if the identifier is valid, the
escapes of the file name can be read, and if the numbers are valid too, so can the
pairs of the bitmap. -/
def Tolerable (json : Bytes) : Prop :=
  (TransferId.fromString (extractJsonValue json (ascii "id"))).isSome = true →
    escapesReadable 0 (extractJsonValue json (ascii "filename")) = true ∧
    ∀ fields, readNumericFields json = some fields →
      PairsReadable fields.totalChunks.toNat (extractJsonValue json (ascii "chunk_bitmap"))

private theorem tolerable_of_invalid {json : Bytes}
    (invalid : TransferId.fromString (extractJsonValue json (ascii "id")) = none) :
    Tolerable json := by
  intro valid
  rw [invalid] at valid
  cases valid

theorem deserializeStateFromJson_isSome (json : Bytes) :
    (deserializeStateFromJson json).isSome = true ↔ Tolerable json := by
  have escapes := unescapeFrom_isSome 0 (extractJsonValue json (ascii "filename"))
  rw [← unescapeJsonString] at escapes
  by_cases empty : extractJsonValue json (ascii "id") = []
  · have invalid : TransferId.fromString (extractJsonValue json (ascii "id")) = none := by
      rw [empty]
      rfl
    simp only [deserializeStateFromJson, if_pos empty, Option.isSome_some, true_iff]
    exact tolerable_of_invalid invalid
  cases idRead : TransferId.fromString (extractJsonValue json (ascii "id")) with
  | none =>
      simp only [deserializeStateFromJson, if_neg empty, idRead, Option.isSome_some, true_iff]
      exact tolerable_of_invalid idRead
  | some id =>
      have valid : (TransferId.fromString (extractJsonValue json (ascii "id"))).isSome = true := by
        rw [idRead]
        rfl
      rw [Tolerable, ← escapes]
      simp only [deserializeStateFromJson, if_neg empty, idRead]
      cases nameRead : unescapeJsonString (extractJsonValue json (ascii "filename")) with
      | none => simp
      | some filename =>
          cases fieldsRead : readNumericFields json with
          | none => simp
          | some fields =>
              have whole := hexStringToBitmap_isSome
                (extractJsonValue json (ascii "chunk_bitmap")) fields.totalChunks.toNat
              cases bitmapRead : hexStringToBitmap
                  (extractJsonValue json (ascii "chunk_bitmap")) fields.totalChunks.toNat with
              | none =>
                  rw [bitmapRead] at whole
                  simpa [bitmapRead] using whole
              | some chunkBitmap =>
                  rw [bitmapRead] at whole
                  simpa [bitmapRead] using whole

theorem wellSized_of_deserialize {json : Bytes} {state : TransferState}
    (read : deserializeStateFromJson json = some (.ok state)) : state.WellSized :=
  length_hexStringToBitmap (deserializeStateFromJson_eq_ok_iff.mp read).chunkBitmap

end FileTrans.Resume
