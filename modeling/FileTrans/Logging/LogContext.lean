import FileTrans.Logging.Masking
import FileTrans.Resume.Fields
import FileTrans.Text.JsonWriter
import FileTrans.Text.UtcTime
import Mathlib.Data.NNRat.Floor

/-!
# Contexts of log messages

`transfer_log_context` as JSON.  A field is left out if it is absent, the first two
if they are empty.  A file name is masked as a path, so it is only masked if paths
are.
-/

namespace FileTrans.Logging

open FileTrans.Text

/-! ## Values -/

/-- `escape_json_string`, which escapes as the one for state files does. -/
def escapeJsonString (input : Bytes) : Bytes :=
  Resume.escapeJsonString input

/-- A `double`. -/
inductive Double
  | finite (negative : Bool) (magnitude : NNRat)
  | infinite (negative : Bool)
  | nan (negative : Bool)

/-- The number of hundredths that is closest, which is even where two are. -/
def hundredths (magnitude : NNRat) : Nat :=
  let whole := ⌊100 * magnitude⌋₊
  let part := 100 * magnitude - whole
  if 1 / 2 < part ∨ part = 1 / 2 ∧ whole % 2 = 1 then whole + 1 else whole

/-- A number that is not finite, by its sign. -/
def signed (negative : Bool) (word : String) : Bytes :=
  if negative then ascii "-" ++ ascii word else ascii word

/-- `std::fixed << std::setprecision(2)` of a double. -/
def Double.fixedText : Double → Bytes
  | finite negative magnitude =>
      numberText negative (hundredths magnitude / 100) (padded 2 (hundredths magnitude % 100))
  | infinite negative => signed negative "inf"
  | nan negative => signed negative "nan"

/-- Fields as they are written, with commas between them. -/
def fieldsText (fields : List (Bytes × Bytes)) : Bytes :=
  [0x2c].intercalate (fields.map fun field => quoted field.1 ++ 0x3a :: field.2)

/-- `add_field`, with the string escaped. -/
def stringField (name : String) (value : Bytes) : Bytes × Bytes :=
  (ascii name, quoted (escapeJsonString value))

/-- `add_uint`. -/
def uintField (name : String) (value : Nat) : Bytes × Bytes :=
  (ascii name, decimal value)

/-- `add_double`. -/
def doubleField (name : String) (value : Double) : Bytes × Bytes :=
  (ascii name, value.fixedText)

/-! ## Contexts -/

structure TransferLogContext where
  transferId : Bytes
  filename : Bytes
  fileSize : Option UInt64
  bytesTransferred : Option UInt64
  chunkIndex : Option UInt32
  totalChunks : Option UInt32
  progressPercent : Option Double
  rateMbps : Option Double
  durationMs : Option UInt64
  errorMessage : Option Bytes
  clientId : Option Bytes
  serverAddress : Option Bytes

/-- Mask a text, if there is a masker. -/
def masked (mask : MaskingConfig → Bytes → Bytes) (masker : Option MaskingConfig) (text : Bytes) :
    Bytes :=
  masker.elim text fun config => mask config text

namespace TransferLogContext

variable (masker : Option MaskingConfig) (context : TransferLogContext)

/-- The file name as it is shown. -/
def shownFilename (filename : Bytes) : Bytes :=
  masked (fun config text => if config.maskFilenames then config.maskPath text else text) masker
    filename

/-- The server address as it is shown. -/
def shownAddress (address : Bytes) : Bytes :=
  masked (fun config text => if config.maskIps then config.maskIp text else text) masker address

/-- The fields after the file name. -/
def laterFields : List (Bytes × Bytes) :=
  (context.fileSize.map fun size => uintField "size" size.toNat).toList ++
  (context.bytesTransferred.map fun bytes => uintField "bytes_transferred" bytes.toNat).toList ++
  (context.chunkIndex.map fun index => uintField "chunk_index" index.toNat).toList ++
  (context.totalChunks.map fun chunks => uintField "total_chunks" chunks.toNat).toList ++
  (context.progressPercent.map (doubleField "progress_percent")).toList ++
  (context.rateMbps.map (doubleField "rate_mbps")).toList ++
  (context.durationMs.map fun duration => uintField "duration_ms" duration.toNat).toList ++
  (context.errorMessage.map fun message =>
    stringField "error_message" (masked MaskingConfig.maskText masker message)).toList ++
  (context.clientId.map (stringField "client_id")).toList ++
  (context.serverAddress.map fun address =>
    stringField "server_address" (shownAddress masker address)).toList

/-- The fields of `to_json_with_masking`. -/
def fields : List (Bytes × Bytes) :=
  (if context.transferId = [] then [] else [stringField "transfer_id" context.transferId]) ++
  (if context.filename = [] then []
    else [stringField "filename" (shownFilename masker context.filename)]) ++
  context.laterFields masker

/-- `to_json_with_masking`. -/
def toJson : Bytes :=
  ascii "\x7b" ++ fieldsText (context.fields masker) ++ ascii "\x7d"

end TransferLogContext

example : (Double.finite true (1 / 8)).fixedText = ascii "-0.12" := by decide +kernel

/-! ## File names in masked contexts -/

theorem escapedCharacter_of_escapedByte {letter byte : UInt8}
    (known : Resume.escapedByte letter = some byte) :
    byte < 0x80 ∧ ∀ rest, escapedCharacter (letter :: rest) = some ([byte], rest) := by
  have checked : ∀ code < 256, (Resume.escapedByte (UInt8.ofNat code)).all fun byte =>
      byte < 0x80 ∧ UInt8.ofNat code ≠ 0x75 ∧ simpleEscape (UInt8.ofNat code) = some byte := by
    decide +kernel
  have one := checked letter.toNat letter.toNat_lt
  rw [UInt8.ofNat_toNat, known, Option.all_some, decide_eq_true_iff] at one
  rcases one with ⟨small, other, simple⟩
  refine ⟨small, fun rest => ?_⟩
  rw [escapedCharacter, if_neg other, simple]
  rfl

/-- The escapes of `escape_json_string`. -/
def jsonEscaping : JsonEscaping where
  escapeByte := Resume.escapeByte
  written byte := by
    rcases Resume.escapeByte_cases byte with ⟨letter, known, escape⟩ |
      ⟨notQuote, notSlash, escape⟩ | ⟨notQuote, notSlash, kept⟩
    · rcases escapedCharacter_of_escapedByte known with ⟨small, reads⟩
      exact .inr ⟨small, [letter], escape, reads⟩
    · have control : byte < 0x20 := by
        by_contra printable
        rw [Resume.escapeByte_of_plain notQuote notSlash printable] at escape
        cases escape
      have small : byte < 0x80 := UInt8.lt_trans control (by decide)
      exact .inr ⟨small, _, escape, escapedCharacter_hexByte control⟩
    · have escaped : ∀ code < 0x20, Resume.escapeByte (UInt8.ofNat code) ≠ [UInt8.ofNat code] := by
        decide +kernel
      have printable : ¬ byte < 0x20 := fun control => by
        have one := escaped byte.toNat control
        rw [UInt8.ofNat_toNat] at one
        exact one kept
      exact .inl ⟨kept, UInt8.not_lt.mp printable, notQuote, notSlash⟩

theorem escapeJsonString_injective : Function.Injective escapeJsonString :=
  jsonEscaping.escape_injective

theorem intercalate_middle (separator : Bytes) (before : List Bytes) (text : Bytes)
    (after : List Bytes) :
    separator.intercalate (before ++ text :: after) =
      before.flatMap (· ++ separator) ++ text ++ after.flatMap (separator ++ ·) := by
  induction before with
  | nil =>
      rw [List.nil_append, List.flatMap_nil, List.nil_append]
      induction after generalizing text with
      | nil => simp
      | cons next after ih =>
          rw [List.intercalate_cons_cons, ih, List.flatMap_cons]
          simp
  | cons first before ih =>
      rw [List.cons_append, List.intercalate_cons_of_ne_nil (by simp), ih, List.flatMap_cons]
      simp

namespace TransferLogContext

variable {masker : Option MaskingConfig} {context : TransferLogContext} {filename : Bytes}

theorem exists_toJson_eq (masker : Option MaskingConfig) (context : TransferLogContext) :
    ∃ before after, ∀ filename ≠ [], { context with filename := filename }.toJson masker =
      before ++ quoted (escapeJsonString (shownFilename masker filename)) ++ after := by
  let named (filename : Bytes) : Bytes × Bytes :=
    stringField "filename" (shownFilename masker filename)
  let first : List (Bytes × Bytes) :=
    if context.transferId = [] then [] else [stringField "transfer_id" context.transferId]
  let text (field : Bytes × Bytes) : Bytes := quoted field.1 ++ 0x3a :: field.2
  refine ⟨ascii "\x7b" ++ (first.map text).flatMap (· ++ [0x2c]) ++
    (quoted (ascii "filename") ++ [0x3a]),
    ((context.laterFields masker).map text).flatMap ([0x2c] ++ ·) ++ ascii "\x7d", ?_⟩
  intro filename nonempty
  have fields : { context with filename := filename }.fields masker =
      first ++ named filename :: context.laterFields masker := by
    rw [TransferLogContext.fields, if_neg nonempty, List.append_assoc]
    rfl
  rw [toJson, fieldsText, fields, List.map_append, List.map_cons, intercalate_middle]
  simp [named, text, stringField]

theorem toJson_eq_iff (present : context.filename ≠ []) (nonempty : filename ≠ []) :
    context.toJson masker = { context with filename := filename }.toJson masker ↔
      shownFilename masker context.filename = shownFilename masker filename := by
  rcases exists_toJson_eq masker context with ⟨before, after, written⟩
  rw [written filename nonempty]
  have own := written context.filename present
  rw [show { context with filename := context.filename } = context from rfl] at own
  rw [own, List.append_left_inj, List.append_right_inj]
  constructor
  · intro same
    have escaped : escapeJsonString (shownFilename masker context.filename) =
        escapeJsonString (shownFilename masker filename) := by simpa [quoted] using same
    exact escapeJsonString_injective escaped
  · intro same
    rw [same]

/-- If file names are masked, names that are to look alike do so exactly if paths are masked too, or
if they are the same. -/
theorem toJson_alike_iff {config : MaskingConfig} (names : config.maskFilenames = true)
    (alike : AlikeIn config context.filename filename) :
    context.toJson (some config) = { context with filename := filename }.toJson (some config) ↔
      config.maskPaths = true ∨ context.filename = filename := by
  have shown (name : Bytes) : shownFilename (some config) name = config.maskPath name := by
    rw [shownFilename, masked, Option.elim_some, if_pos names]
  have empty : context.filename = [] ↔ filename = [] := by
    rw [← List.length_eq_zero_iff, ← List.length_eq_zero_iff, alike.length]
  by_cases present : context.filename = []
  · have same : context.filename = filename := present.trans (empty.mp present).symm
    rw [← same]
    exact iff_of_true rfl (.inr rfl)
  · rw [toJson_eq_iff present (mt empty.mpr present), shown, shown]
    cases paths : config.maskPaths with
    | true => exact iff_of_true (maskPath_congr paths names alike) (.inl rfl)
    | false =>
        rw [MaskingConfig.maskPath, MaskingConfig.maskPath, if_pos (.inl paths),
          if_pos (.inl paths)]
        simp

/-- A context with a file name only. -/
def ofFilename (filename : Bytes) : TransferLogContext where
  transferId := []
  filename := filename
  fileSize := none
  bytesTransferred := none
  chunkIndex := none
  totalChunks := none
  progressPercent := none
  rateMbps := none
  durationMs := none
  errorMessage := none
  clientId := none
  serverAddress := none

/-- With file names and paths masked, these two are one. -/
theorem toJson_secret_alike :
    let config : MaskingConfig := ⟨true, false, true, ascii "*", 4⟩
    AlikeIn config (ascii "secret-a.txt") (ascii "secret-b.txt") ∧
      ((ofFilename (ascii "secret-a.txt")).toJson (some config) =
          { ofFilename (ascii "secret-a.txt") with filename := ascii "secret-b.txt" }.toJson
            (some config) ↔
        config.maskPaths = true ∨ ascii "secret-a.txt" = ascii "secret-b.txt") := by
  intro config
  have alike : AlikeIn config (ascii "secret-a.txt") (ascii "secret-b.txt") :=
    ⟨by decide, by decide, by decide, by decide⟩
  exact ⟨alike, toJson_alike_iff rfl alike⟩

/-- With file names masked and paths not, they are seen. -/
theorem toJson_secret_ne :
    let config : MaskingConfig := ⟨false, true, true, ascii "*", 4⟩
    config.maskFilenames = true ∧ AlikeIn config (ascii "secret-a.txt") (ascii "secret-b.txt") ∧
      (ofFilename (ascii "secret-a.txt")).toJson (some config) ≠
        { ofFilename (ascii "secret-a.txt") with filename := ascii "secret-b.txt" }.toJson
          (some config) := by
  refine ⟨rfl, ⟨by decide, by decide, by decide, by decide⟩, by decide +kernel⟩

end TransferLogContext

end FileTrans.Logging
