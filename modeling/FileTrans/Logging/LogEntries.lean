import FileTrans.Logging.LogContext

/-!
# Log lines

`structured_log_entry` as a line of JSON.  The message and the strings of the context
are escaped, the other strings are not, and a line or a function is only written after
the file it is in.
-/

namespace FileTrans.Logging

open FileTrans.Text

/-- `log_level`; other values have no name. -/
inductive LogLevel
  | trace
  | debug
  | info
  | warn
  | error
  | fatal
  | other (value : Int32)

/-- `log_level_to_string`. -/
def LogLevel.toText : LogLevel → String
  | trace => "TRACE"
  | debug => "DEBUG"
  | info => "INFO"
  | warn => "WARN"
  | error => "ERROR"
  | fatal => "FATAL"
  | other _ => "UNKNOWN"

structure StructuredLogEntry where
  timestamp : Bytes
  level : LogLevel
  category : Bytes
  message : Bytes
  context : Option TransferLogContext
  sourceFile : Option Bytes
  sourceLine : Option Int32
  functionName : Option Bytes

/-- A field with a string that is not escaped. -/
def rawField (name : String) (value : Bytes) : Bytes :=
  quoted (ascii name) ++ 0x3a :: quoted value

/-- An `int` in decimal. -/
def intText (value : Int32) : Bytes :=
  numberText (value < 0) value.toInt.natAbs []

namespace StructuredLogEntry

variable (masker : Option MaskingConfig) (entry : StructuredLogEntry)

def shownMessage : Bytes :=
  masked MaskingConfig.maskText masker entry.message

/-- The source file as it is shown. -/
def shownFile (file : Bytes) : Bytes :=
  masked (fun config text => if config.maskPaths then config.maskPath text else text) masker file

/-- The fields of the context, without the braces around them. -/
def contextPart : Bytes :=
  match entry.context with
  | none => []
  | some context =>
      let ctxJson := context.toJson masker
      if 2 < ctxJson.length then 0x2c :: (ctxJson.drop 1).take (ctxJson.length - 2) else []

/-- The object with the source. -/
def sourcePart : Bytes :=
  match entry.sourceFile with
  | none => []
  | some file =>
      ascii ",\"source\":\x7b" ++ rawField "file" (shownFile masker file) ++
      (entry.sourceLine.elim [] fun line => ascii ",\"line\":" ++ intText line) ++
      (entry.functionName.elim [] fun name => ascii "," ++ rawField "function" name) ++ ascii "\x7d"

/-- `to_json_with_masking`. -/
def toJson : Bytes :=
  ascii "\x7b" ++ rawField "timestamp" entry.timestamp ++
  ascii "," ++ rawField "level" (ascii entry.level.toText) ++
  ascii "," ++ rawField "category" entry.category ++
  ascii "," ++ rawField "message" (escapeJsonString (entry.shownMessage masker)) ++
  entry.contextPart masker ++ entry.sourcePart masker ++ ascii "\x7d"

end StructuredLogEntry

/-! ## What a line is to say -/

namespace TransferLogContext

variable (masker : Option MaskingConfig) (context : TransferLogContext)

/-- The members that stand for a context. -/
def members : List (Bytes × Json) :=
  (if context.transferId = [] then []
    else [(ascii "transfer_id", .string context.transferId)]) ++
  (if context.filename = [] then []
    else [(ascii "filename", .string (shownFilename masker context.filename))]) ++
  (context.fileSize.map fun size =>
    (ascii "size", Json.number (decimal size.toNat))).toList ++
  (context.bytesTransferred.map fun bytes =>
    (ascii "bytes_transferred", Json.number (decimal bytes.toNat))).toList ++
  (context.chunkIndex.map fun index =>
    (ascii "chunk_index", Json.number (decimal index.toNat))).toList ++
  (context.totalChunks.map fun chunks =>
    (ascii "total_chunks", Json.number (decimal chunks.toNat))).toList ++
  (context.progressPercent.map fun percent =>
    (ascii "progress_percent", Json.number percent.fixedText)).toList ++
  (context.rateMbps.map fun rate => (ascii "rate_mbps", Json.number rate.fixedText)).toList ++
  (context.durationMs.map fun duration =>
    (ascii "duration_ms", Json.number (decimal duration.toNat))).toList ++
  (context.errorMessage.map fun message =>
    (ascii "error_message", Json.string (masked MaskingConfig.maskText masker message))).toList ++
  (context.clientId.map fun id => (ascii "client_id", Json.string id)).toList ++
  (context.serverAddress.map fun address =>
    (ascii "server_address", Json.string (shownAddress masker address))).toList

end TransferLogContext

namespace StructuredLogEntry

variable (masker : Option MaskingConfig) (entry : StructuredLogEntry)

/-- The members that stand for a source. -/
def sourceMembers : List (Bytes × Json) :=
  (entry.sourceFile.map fun file => (ascii "file", Json.string (shownFile masker file))).toList ++
  (entry.sourceLine.map fun line => (ascii "line", Json.number (intText line))).toList ++
  (entry.functionName.map fun name => (ascii "function", Json.string name)).toList

/-- The object that stands for an entry.  It has a source if anything is known of it. -/
def document : Json :=
  .object ([(ascii "timestamp", .string entry.timestamp),
      (ascii "level", .string (ascii entry.level.toText)),
      (ascii "category", .string entry.category),
      (ascii "message", .string (entry.shownMessage masker))] ++
    entry.context.elim [] (TransferLogContext.members masker) ++
    if entry.sourceMembers masker = [] then []
    else [(ascii "source", .object (entry.sourceMembers masker))])

end StructuredLogEntry

/-! ## Fields and what they are read as -/

theorem jsonValue_signed (negative : Bool) {word : String} (isWord : word = "inf" ∨ word = "nan")
    (depth : Nat) (rest : Bytes) : jsonValue depth (signed negative word ++ rest) = none := by
  have noNumber {byte : UInt8} (letter : byte = 0x69 ∨ byte = 0x6e) (text : Bytes) :
      integerPart (byte :: text) = none := by
    rcases letter with rfl | rfl <;> rfl
  cases depth with
  | zero => rw [jsonValue]
  | succ depth =>
      cases negative with
      | true =>
          have reads (byte : UInt8) (letter : byte = 0x69 ∨ byte = 0x6e) (text : Bytes) :
              jsonValue (depth + 1) (0x2d :: byte :: text) = none := by
            rw [jsonValue_numeral (.inl rfl)]
            simp [jsonNumber, noNumber letter]
          rcases isWord with rfl | rfl
          · exact reads 0x69 (.inl rfl) _
          · exact reads 0x6e (.inr rfl) _
      | false =>
          have reads (byte next : UInt8) (letter : byte = 0x69 ∨ byte = 0x6e) (other : next ≠ 0x75)
              (text : Bytes) : jsonValue (depth + 1) (byte :: next :: text) = none := by
            have scalar : jsonValue (depth + 1) (byte :: next :: text) =
                scalarValue (byte :: next :: text) := by
              rcases letter with rfl | rfl <;> (rw [jsonValue, skipSpace_cons rfl]; rfl)
            have noTrue : ¬ ascii "true" <+: byte :: next :: text := fun starts => by
              have same := (List.cons_prefix_cons.mp starts).1
              rcases letter with rfl | rfl <;> cases same
            have noFalse : ¬ ascii "false" <+: byte :: next :: text := fun starts => by
              have same := (List.cons_prefix_cons.mp starts).1
              rcases letter with rfl | rfl <;> cases same
            have noNull : ¬ ascii "null" <+: byte :: next :: text := fun starts => by
              have same := (List.cons_prefix_cons.mp (List.cons_prefix_cons.mp starts).2).1
              exact other same.symm
            rw [scalar, scalarValue, if_neg noTrue, if_neg noFalse, if_neg noNull]
            rcases letter with rfl | rfl <;> simp [jsonNumber, noNumber]
          rcases isWord with rfl | rfl
          · exact reads 0x69 0x6e (.inl rfl) (by decide) _
          · exact reads 0x6e 0x61 (.inr rfl) (by decide) _

namespace Double

def IsFinite : Double → Prop
  | finite _ _ => True
  | infinite _ | nan _ => False

/-- A double as it is written and read. -/
def rendering : Double → Rendering
  | finite negative magnitude =>
      .number negative (hundredths magnitude / 100) (padded 2 (hundredths magnitude % 100))
        fun _ => isDigit_of_mem_padded
  | infinite negative =>
      .unreadable (signed negative "inf") (.number (signed negative "inf"))
        (jsonValue_signed negative (.inl rfl))
  | nan negative =>
      .unreadable (signed negative "nan") (.number (signed negative "nan"))
        (jsonValue_signed negative (.inr rfl))

@[simp]
theorem rendering_raw (value : Double) : value.rendering.raw = value.fixedText := by
  cases value <;> rfl

@[simp]
theorem rendering_value (value : Double) : value.rendering.value = .number value.fixedText := by
  cases value <;> rfl

@[simp]
theorem validUtf8_rendering (value : Double) : ValidUtf8 value.rendering.raw := by
  cases value with
  | finite negative magnitude => exact Rendering.validUtf8_number fun _ => isDigit_of_mem_padded
  | infinite negative => cases negative <;> exact validUtf8_of_ascii (by decide)
  | nan negative => cases negative <;> exact validUtf8_of_ascii (by decide)

@[simp]
theorem rendering_isFaithful (value : Double) : value.rendering.isFaithful ↔ value.IsFinite := by
  cases value <;> rfl

end Double

/-- A number without a fraction. -/
def natRendering (value : Nat) : Rendering :=
  .number false value [] fun _ mem => absurd mem List.not_mem_nil

@[simp]
theorem natRendering_raw (value : Nat) : (natRendering value).raw = decimal value := by
  simp [natRendering, Rendering.number, numberText]

@[simp]
theorem natRendering_value (value : Nat) :
    (natRendering value).value = .number (decimal value) := by
  rw [← natRendering_raw]
  rfl

theorem map_toList_map {α β γ : Type} (found : Option α) (f : α → β) (g : β → γ) :
    (found.map f).toList.map g = (found.map fun value => g (f value)).toList := by
  cases found <;> rfl

theorem forall_mem_toList_map {α β : Type} {found : Option α} {f : α → β} {holds : β → Prop} :
    (∀ member ∈ (found.map f).toList, holds member) ↔ ∀ value ∈ found, holds (f value) := by
  cases found <;> simp

theorem forall_mem_unless {α : Type} {absent : Prop} [Decidable absent] {value : α}
    {holds : α → Prop} :
    (∀ member ∈ if absent then [] else [value], holds member) ↔ ¬ absent → holds value := by
  by_cases missing : absent <;> simp [missing]

/-- An `int`. -/
def intRendering (value : Int32) : Rendering :=
  .number (value < 0) value.toInt.natAbs [] fun _ mem => absurd mem List.not_mem_nil

namespace TransferLogContext

variable (masker : Option MaskingConfig) (context : TransferLogContext)

/-- The fields of a context as they are written and read. -/
def renderings : List (Bytes × Rendering) :=
  (if context.transferId = [] then []
    else [(ascii "transfer_id", .escaped jsonEscaping context.transferId)]) ++
  (if context.filename = [] then []
    else [(ascii "filename",
      .escaped jsonEscaping (shownFilename masker context.filename))]) ++
  (context.fileSize.map fun size => (ascii "size", natRendering size.toNat)).toList ++
  (context.bytesTransferred.map fun bytes =>
    (ascii "bytes_transferred", natRendering bytes.toNat)).toList ++
  (context.chunkIndex.map fun index =>
    (ascii "chunk_index", natRendering index.toNat)).toList ++
  (context.totalChunks.map fun chunks =>
    (ascii "total_chunks", natRendering chunks.toNat)).toList ++
  (context.progressPercent.map fun percent =>
    (ascii "progress_percent", percent.rendering)).toList ++
  (context.rateMbps.map fun rate => (ascii "rate_mbps", rate.rendering)).toList ++
  (context.durationMs.map fun duration =>
    (ascii "duration_ms", natRendering duration.toNat)).toList ++
  (context.errorMessage.map fun message =>
    (ascii "error_message",
      .escaped jsonEscaping (masked MaskingConfig.maskText masker message))).toList ++
  (context.clientId.map fun id => (ascii "client_id", .escaped jsonEscaping id)).toList ++
  (context.serverAddress.map fun address =>
    (ascii "server_address", .escaped jsonEscaping (shownAddress masker address))).toList

theorem fields_eq : context.fields masker =
    (context.renderings masker).map fun member => (member.1, member.2.raw) := by
  simp only [fields, laterFields, renderings, List.map_append, List.append_assoc, map_toList_map,
    apply_ite (List.map _), List.map_nil, List.map_singleton, natRendering_raw,
    Double.rendering_raw]
  rfl

theorem members_eq : context.members masker =
    Rendering.memberValues (context.renderings masker) := by
  simp only [members, renderings, Rendering.memberValues, List.map_append, map_toList_map,
    apply_ite (List.map _), List.map_nil, List.map_singleton, natRendering_value,
    Double.rendering_value]
  rfl

theorem renderings_literal : ∀ member ∈ context.renderings masker, IsLiteral member.1 := by
  simp only [renderings, List.forall_mem_append, forall_mem_toList_map, forall_mem_unless]
  and_intros <;> intros <;> decide

/-- The doubles of a context. -/
def doubles : List Double :=
  context.progressPercent.toList ++ context.rateMbps.toList

theorem renderings_isFaithful_iff :
    (∀ member ∈ context.renderings masker, member.2.isFaithful) ↔
      ∀ value ∈ context.doubles, value.IsFinite := by
  simp only [renderings, List.forall_mem_append, forall_mem_toList_map, forall_mem_unless, doubles]
  simp [Rendering.escaped, natRendering, Rendering.number]

/-- The strings of a context, as they are shown. -/
def texts : List Bytes :=
  context.transferId :: shownFilename masker context.filename ::
    ((context.errorMessage.map (masked MaskingConfig.maskText masker)).toList ++
      context.clientId.toList ++ (context.serverAddress.map (shownAddress masker)).toList)

theorem validUtf8_renderings_iff :
    (∀ member ∈ context.renderings masker, ValidUtf8 member.1 ∧ ValidUtf8 member.2.raw) ↔
      ∀ text ∈ context.texts masker, ValidUtf8 text := by
  simp only [renderings, List.forall_mem_append, forall_mem_toList_map, forall_mem_unless, texts,
    List.forall_mem_cons, Rendering.validUtf8_escaped_iff, natRendering,
    Rendering.validUtf8_number, Double.validUtf8_rendering]
  have unnamed : shownFilename masker [] = [] := by
    cases masker <;> simp [shownFilename, masked, MaskingConfig.maskPath]
  have named : (¬ context.filename = [] → ValidUtf8 (shownFilename masker context.filename)) ↔
      ValidUtf8 (shownFilename masker context.filename) := by
    refine ⟨fun valid => ?_, fun valid _ => valid⟩
    by_cases empty : context.filename = []
    · rw [empty, unnamed]
      rfl
    · exact valid empty
  have identified : (¬ context.transferId = [] → ValidUtf8 context.transferId) ↔
      ValidUtf8 context.transferId := by
    refine ⟨fun valid => ?_, fun valid _ => valid⟩
    by_cases empty : context.transferId = []
    · rw [empty]
      rfl
    · exact valid empty
  simp +decide [named, identified, and_assoc]

end TransferLogContext

namespace StructuredLogEntry

variable (masker : Option MaskingConfig) (entry : StructuredLogEntry)

/-- The fields of a source as they are written and read. -/
def sourceRenderings (file : Bytes) : List (Bytes × Rendering) :=
  (ascii "file", .verbatim (shownFile masker file)) ::
    ((entry.sourceLine.map fun line => (ascii "line", intRendering line)).toList ++
      (entry.functionName.map fun name => (ascii "function", .verbatim name)).toList)

theorem sourceRenderings_literal (file : Bytes) :
    ∀ member ∈ entry.sourceRenderings masker file, IsLiteral member.1 := by
  simp only [sourceRenderings, List.forall_mem_cons, List.forall_mem_append, forall_mem_toList_map]
  and_intros <;> intros <;> decide

/-- The fields of an entry as they are written and read. -/
def renderings : List (Bytes × Rendering) :=
  [(ascii "timestamp", .verbatim entry.timestamp),
    (ascii "level", .verbatim (ascii entry.level.toText)),
    (ascii "category", .verbatim entry.category),
    (ascii "message", .escaped jsonEscaping (entry.shownMessage masker))] ++
  entry.context.elim [] (TransferLogContext.renderings masker) ++
  (entry.sourceFile.map fun file =>
    (ascii "source", .object (entry.sourceRenderings masker file)
      (entry.sourceRenderings_literal masker file))).toList

theorem renderings_literal : ∀ member ∈ entry.renderings masker, IsLiteral member.1 := by
  have inner : ∀ member ∈ entry.context.elim [] (TransferLogContext.renderings masker),
      IsLiteral member.1 := by
    cases entry.context with
    | none => exact fun _ mem => absurd mem List.not_mem_nil
    | some context => exact context.renderings_literal masker
  simp only [renderings, List.forall_mem_cons, List.forall_mem_append, forall_mem_toList_map]
  refine ⟨⟨⟨by decide, by decide, by decide, by decide, by simp⟩, inner⟩, fun _ _ => by decide⟩

/-- What would have to be read besides, where a source without a file is not written. -/
def missing : List (Bytes × Json) :=
  if entry.sourceFile = none ∧ entry.sourceMembers masker ≠ [] then
    [(ascii "source", .object (entry.sourceMembers masker))]
  else []

theorem sourceMembers_eq {file : Bytes} (known : entry.sourceFile = some file) :
    entry.sourceMembers masker = Rendering.memberValues (entry.sourceRenderings masker file) := by
  rw [sourceMembers, known, sourceRenderings, Rendering.memberValues, List.map_cons,
    List.map_append, map_toList_map, map_toList_map]
  rfl

theorem document_eq : entry.document masker =
    .object (Rendering.memberValues (entry.renderings masker) ++ entry.missing masker) := by
  have inner : entry.context.elim [] (TransferLogContext.members masker) =
      Rendering.memberValues (entry.context.elim [] (TransferLogContext.renderings masker)) := by
    cases entry.context with
    | none => rfl
    | some context => exact context.members_eq masker
  rw [document, inner, renderings]
  simp only [Rendering.memberValues, List.map_append, map_toList_map, List.append_assoc]
  congr 3
  cases known : entry.sourceFile with
  | none => simp [missing, known, ite_not]
  | some file =>
      have source := entry.sourceMembers_eq masker known
      have nonempty : entry.sourceMembers masker ≠ [] := by
        rw [source]
        exact List.cons_ne_nil _ _
      rw [if_neg nonempty, missing, if_neg (by simp [known]), source]
      rfl

theorem ascii_marks : ascii "\x7b" = [0x7b] ∧ ascii "\x7d" = [0x7d] ∧ ascii "," = [0x2c] :=
  ⟨rfl, rfl, rfl⟩

/-- A field behind another. -/
def nextField (field : Bytes × Bytes) : Bytes :=
  0x2c :: (quoted field.1 ++ 0x3a :: field.2)

theorem fieldsText_cons (first : Bytes × Bytes) (fields : List (Bytes × Bytes)) :
    fieldsText (first :: fields) =
      quoted first.1 ++ 0x3a :: first.2 ++ fields.flatMap nextField := by
  have middle := intercalate_middle [0x2c] [] (quoted first.1 ++ 0x3a :: first.2)
    (fields.map fun field => quoted field.1 ++ 0x3a :: field.2)
  rw [List.nil_append, List.flatMap_nil, List.nil_append, List.flatMap_map] at middle
  exact middle

theorem membersText_eq (members : List (Bytes × Rendering)) :
    Rendering.membersText members =
      fieldsText (members.map fun member => (member.1, member.2.raw)) := by
  rw [Rendering.membersText, fieldsText, List.map_map]
  rfl

theorem spliced_eq (fields : List (Bytes × Bytes)) :
    (let ctxJson := ascii "\x7b" ++ fieldsText fields ++ ascii "\x7d"
      if 2 < ctxJson.length then 0x2c :: (ctxJson.drop 1).take (ctxJson.length - 2) else []) =
      fields.flatMap nextField := by
  cases fields with
  | nil => rfl
  | cons first fields =>
      have written : ascii "\x7b" ++ fieldsText (first :: fields) ++ ascii "\x7d" =
          0x7b :: (fieldsText (first :: fields) ++ [0x7d]) := rfl
      have long : 0 < (fieldsText (first :: fields)).length := by
        rw [fieldsText_cons, quoted]
        exact Nat.succ_pos _
      simp only [written, List.length_cons, List.length_append, List.length_nil]
      rw [if_pos (by omega), List.drop_one, List.tail_cons, Nat.zero_add, Nat.add_assoc,
        Nat.add_sub_cancel, List.take_left, fieldsText_cons, List.flatMap_cons, nextField]
      simp

theorem contextPart_eq : entry.contextPart masker =
    (entry.context.elim [] (TransferLogContext.fields masker)).flatMap nextField := by
  cases known : entry.context with
  | none => simp [contextPart, known]
  | some context =>
      rw [contextPart, known]
      exact spliced_eq (context.fields masker)

theorem sourcePart_eq : entry.sourcePart masker =
    (entry.sourceFile.map fun file => (ascii "source",
      (Rendering.object (entry.sourceRenderings masker file)
        (entry.sourceRenderings_literal masker file)).raw)).toList.flatMap nextField := by
  cases known : entry.sourceFile with
  | none => simp [sourcePart, known]
  | some file =>
      have opening : ascii ",\"source\":\x7b" = 0x2c :: (quoted (ascii "source") ++ [0x3a, 0x7b]) :=
        rfl
      have line : ascii ",\"line\":" = 0x2c :: (quoted (ascii "line") ++ [0x3a]) := rfl
      rw [sourcePart, known, opening]
      simp only [Option.map_some, Option.toList_some, List.flatMap_singleton, nextField,
        Rendering.object_raw, membersText_eq, sourceRenderings, List.map_cons, fieldsText_cons,
        List.map_append, map_toList_map, List.flatMap_append]
      cases entry.sourceLine <;> cases entry.functionName <;>
        simp [rawField, nextField, line, intRendering, Rendering.verbatim, Rendering.number,
          intText,
          ascii_marks]

theorem toJson_eq : entry.toJson masker =
    (Rendering.object (entry.renderings masker) (entry.renderings_literal masker)).raw := by
  have inner : (entry.context.elim [] (TransferLogContext.renderings masker)).map
      (fun member => (member.1, member.2.raw)) =
        entry.context.elim [] (TransferLogContext.fields masker) := by
    cases entry.context with
    | none => rfl
    | some context => exact (context.fields_eq masker).symm
  rw [Rendering.object_raw, membersText_eq, renderings]
  simp only [List.map_append, inner, map_toList_map, List.map_cons, List.cons_append,
    List.nil_append, fieldsText_cons, List.flatMap_cons, List.flatMap_append]
  rw [← contextPart_eq, ← sourcePart_eq, toJson]
  simp [rawField, nextField, Rendering.verbatim, Rendering.escaped, ascii_marks]
  rfl

/-! ## Lines that can be read -/

/-- The strings that are not escaped, as they are shown. -/
def unescaped : List Bytes :=
  entry.timestamp :: entry.category ::
    ((entry.sourceFile.map (shownFile masker)).toList ++ entry.functionName.toList)

/-- An entry whose strings are UTF-8, of which those that are not escaped need no escape, whose
numbers are finite and of which no line and no function is known without the file. -/
structure IsRecoverable : Prop where
  unescaped : ∀ text ∈ entry.unescaped masker, IsLiteral text ∧ ValidUtf8 text
  message : ValidUtf8 (entry.shownMessage masker)
  context : ∀ context ∈ entry.context, (∀ text ∈ context.texts masker, ValidUtf8 text) ∧
    ∀ value ∈ context.doubles, value.IsFinite
  located : entry.sourceFile = none → entry.sourceLine = none ∧ entry.functionName = none

theorem level_literal (level : LogLevel) :
    IsLiteral (ascii level.toText) ∧ ValidUtf8 (ascii level.toText) := by
  cases level with
  | other value => exact (by decide : IsLiteral (ascii "UNKNOWN") ∧ ValidUtf8 (ascii "UNKNOWN"))
  | _ => decide

theorem forall_mem_elim {α β : Type} {found : Option α} {f : α → List β} {holds : β → Prop} :
    (∀ member ∈ found.elim [] f, holds member) ↔
      ∀ value ∈ found, ∀ member ∈ f value, holds member := by
  cases found <;> simp

theorem missing_eq_nil_iff : entry.missing masker = [] ↔
    (entry.sourceFile = none → entry.sourceLine = none ∧ entry.functionName = none) := by
  cases known : entry.sourceFile with
  | some file => simp [missing, known]
  | none => simp [missing, sourceMembers, known]

theorem isFaithful_iff : (∀ member ∈ entry.renderings masker, member.2.isFaithful) ↔
    (∀ text ∈ [entry.timestamp, entry.category], IsLiteral text) ∧
      (∀ context ∈ entry.context, ∀ value ∈ context.doubles, value.IsFinite) ∧
      ∀ file ∈ entry.sourceFile, IsLiteral (shownFile masker file) ∧
        ∀ name ∈ entry.functionName, IsLiteral name := by
  have level := (level_literal entry.level).1
  simp only [renderings, sourceRenderings, List.forall_mem_append, List.forall_mem_cons,
    forall_mem_toList_map, forall_mem_elim, TransferLogContext.renderings_isFaithful_iff,
    Rendering.object_isFaithful_iff]
  simp [Rendering.verbatim, Rendering.escaped, intRendering, Rendering.number, level, and_assoc]

theorem validUtf8_iff :
    (∀ member ∈ entry.renderings masker, ValidUtf8 member.1 ∧ ValidUtf8 member.2.raw) ↔
    (∀ text ∈ [entry.timestamp, entry.category], ValidUtf8 text) ∧
      ValidUtf8 (entry.shownMessage masker) ∧
      (∀ context ∈ entry.context, ∀ text ∈ context.texts masker, ValidUtf8 text) ∧
      ∀ file ∈ entry.sourceFile, ValidUtf8 (shownFile masker file) ∧
        ∀ name ∈ entry.functionName, ValidUtf8 name := by
  have level := (level_literal entry.level).2
  simp only [renderings, sourceRenderings, List.forall_mem_append, List.forall_mem_cons,
    forall_mem_toList_map, forall_mem_elim, TransferLogContext.validUtf8_renderings_iff,
    Rendering.validUtf8_object_iff, Rendering.validUtf8_verbatim_iff,
    Rendering.validUtf8_escaped_iff, intRendering, Rendering.validUtf8_number, level]
  simp +decide [and_assoc]

theorem decodeJson_toJson_iff : decodeJson (entry.toJson masker) = some (entry.document masker) ↔
    ((∀ member ∈ entry.renderings masker, member.2.isFaithful) ∧ entry.missing masker = []) ∧
      ∀ member ∈ entry.renderings masker, ValidUtf8 member.1 ∧ ValidUtf8 member.2.raw := by
  rw [toJson_eq, document_eq, Rendering.decodeJson_object_eq_iff, Rendering.validUtf8_object_iff,
    Rendering.object_isFaithful_iff]

theorem forall_mem_unescaped_iff {holds : Bytes → Prop}
    (located : entry.sourceFile = none → entry.sourceLine = none ∧ entry.functionName = none) :
    (∀ text ∈ entry.unescaped masker, holds text) ↔
      (∀ text ∈ [entry.timestamp, entry.category], holds text) ∧
        ∀ file ∈ entry.sourceFile, holds (shownFile masker file) ∧
          ∀ name ∈ entry.functionName, holds name := by
  cases known : entry.sourceFile with
  | none => simp [unescaped, known, (located known).2]
  | some file => simp [unescaped, known, and_assoc]

/-- An entry with a category and a message only. -/
def ofCategory (category message : Bytes) : StructuredLogEntry where
  timestamp := ascii "2025-01-01T00:00:00Z"
  level := .info
  category := category
  message := message
  context := none
  sourceFile := none
  sourceLine := none
  functionName := none

end StructuredLogEntry

end FileTrans.Logging
