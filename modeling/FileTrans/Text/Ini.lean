import FileTrans.Text.Search

/-!
# Files of sections

Lines of keys and values, in sections that begin with a name in brackets.  Blanks may
stand around every part of a line, and a carriage return at its end; empty lines and
comments may stand anywhere.

A reader that goes through the lines from the top, and remembers the section it is in,
finds exactly the entries of the section it looks for.
-/

namespace FileTrans.Text

/-! ## Lines -/

def newline : UInt8 :=
  0x0a

/-- A space or a tab. -/
def isBlank (byte : UInt8) : Bool :=
  byte == 0x20 || byte == 0x09

/-- What may be cut off at the end of a line. -/
def isLineEnd (byte : UInt8) : Bool :=
  isBlank byte || byte == 0x0d || byte == newline

/-- Blanks within a line. -/
structure Blanks where
  text : Bytes
  blank : ∀ byte ∈ text, isBlank byte = true

/-- Blanks and carriage returns at the end of a line. -/
structure LineEnd where
  text : Bytes
  ending : ∀ byte ∈ text, isLineEnd byte = true
  oneLine : newline ∉ text

def Blanks.none : Blanks :=
  ⟨[], fun _ mem => absurd mem List.not_mem_nil⟩

def LineEnd.none : LineEnd :=
  ⟨[], fun _ mem => absurd mem List.not_mem_nil, List.not_mem_nil⟩

/-- A key begins as no other line does, and has no blanks around it. -/
structure IsKey (key : Bytes) : Prop where
  first : ∃ byte rest, key = byte :: rest ∧ isBlank byte = false ∧
    byte ∉ [(0x23 : UInt8), 0x3b, 0x5b]
  last : ∃ rest byte, key = rest ++ [byte] ∧ isBlank byte = false
  oneLine : newline ∉ key
  noSign : (0x3d : UInt8) ∉ key

/-- A value has no blanks around it. -/
structure IsValue (value : Bytes) : Prop where
  first : ∀ byte rest, value = byte :: rest → isBlank byte = false
  last : ∀ rest byte, value = rest ++ [byte] → isLineEnd byte = false
  oneLine : newline ∉ value

/-- A line that says nothing.  A comment is a whole line. -/
inductive IniRemark
  | blank (spaces : LineEnd)
  | comment (indent : Blanks) (marker : UInt8) (isMarker : marker = 0x23 ∨ marker = 0x3b)
      (text : Bytes) (oneLine : newline ∉ text)

/-- A key and its value. -/
structure IniEntry where
  key : Bytes
  value : Bytes
  isKey : IsKey key
  isValue : IsValue value
  indent : Blanks
  beforeSign : Blanks
  afterSign : Blanks
  ending : LineEnd

/-- A line without blanks. -/
def IniEntry.ofKey {key value : Bytes} (isKey : IsKey key) (isValue : IsValue value) : IniEntry :=
  ⟨key, value, isKey, isValue, .none, .none, .none, .none⟩

/-- The name of a section. -/
structure IniHeader where
  name : Bytes
  oneLine : newline ∉ name
  indent : Blanks
  ending : LineEnd

def IniHeader.ofName {name : Bytes} (oneLine : newline ∉ name) : IniHeader :=
  ⟨name, oneLine, .none, .none⟩

def IniRemark.line : IniRemark → Bytes
  | blank spaces => spaces.text
  | comment indent marker _ text _ => indent.text ++ marker :: text

def IniEntry.line (entry : IniEntry) : Bytes :=
  entry.indent.text ++ (entry.key ++ entry.beforeSign.text ++ 0x3d ::
    (entry.afterSign.text ++ entry.value)) ++ entry.ending.text

def IniHeader.line (header : IniHeader) : Bytes :=
  header.indent.text ++ (0x5b :: (header.name ++ [0x5d])) ++ header.ending.text

/-! ## Files -/

/-- A name, and entries with remarks between them. -/
structure IniSection where
  header : IniHeader
  content : List (IniRemark ⊕ IniEntry)

/-- Sections with names of their own. -/
structure IniFile where
  preamble : List IniRemark
  sections : List IniSection
  distinct : (sections.map (·.header.name)).Nodup

namespace IniSection

/-- The entries, in order. -/
def entries (part : IniSection) : List IniEntry :=
  part.content.filterMap Sum.getRight?

def lines (part : IniSection) : List Bytes :=
  part.header.line :: part.content.map (Sum.elim IniRemark.line IniEntry.line)

end IniSection

namespace IniFile

variable (file : IniFile)

def lines : List Bytes :=
  file.preamble.map IniRemark.line ++ file.sections.flatMap IniSection.lines

/-- The lines, with line feeds between them. -/
def text : Bytes :=
  [newline].intercalate file.lines

/-- The entries of the section with this name. -/
def entriesOf (name : Bytes) : List IniEntry :=
  (file.sections.find? (·.header.name = name)).elim [] IniSection.entries

/-- The last value of a key among entries, if it has one. -/
def valueOf (key : Bytes) (entries : List IniEntry) : Option Bytes :=
  (entries.findRev? (·.key = key)).map (·.value)

theorem valueOf_cons (key : Bytes) (entry : IniEntry) (entries : List IniEntry) :
    valueOf key (entry :: entries) =
      (valueOf key entries).or (if entry.key = key then some entry.value else none) := by
  rw [valueOf, List.findRev?, valueOf]
  cases entries.findRev? (·.key = key) with
  | some later => rfl
  | none => by_cases same : entry.key = key <;> simp [same]

theorem foldl_eq_getD_valueOf {α : Type} {note : α → IniEntry → α} {get : α → Bytes} {key : Bytes}
    (keeps : ∀ noted entry, get (note noted entry) =
      if entry.key = key then entry.value else get noted)
    (entries : List IniEntry) (noted : α) :
    get (entries.foldl note noted) = (valueOf key entries).getD (get noted) := by
  induction entries generalizing noted with
  | nil => rfl
  | cons entry entries ih =>
      rw [List.foldl_cons, ih, keeps, valueOf_cons]
      cases valueOf key entries with
      | some later => rfl
      | none => by_cases same : entry.key = key <;> simp [same]

end IniFile

/-! ## Lines of a text -/

/-- What `std::getline` reads, one line after the other. -/
def getLines (text : Bytes) : List Bytes :=
  let lines := text.splitOn newline
  if lines.getLast? = some [] then lines.dropLast else lines

example : getLines (ascii "a\n\nb\n") = [ascii "a", [], ascii "b"] := by decide

theorem Blanks.oneLine (blanks : Blanks) : newline ∉ blanks.text :=
  fun mem => absurd (blanks.blank newline mem) (by decide)

theorem IniRemark.oneLine (remark : IniRemark) : newline ∉ remark.line := by
  cases remark with
  | blank spaces => exact spaces.oneLine
  | comment indent marker isMarker text oneLine =>
      have other : newline ≠ marker := by rcases isMarker with rfl | rfl <;> decide
      simp [IniRemark.line, indent.oneLine, other, oneLine]

theorem IniEntry.oneLine (entry : IniEntry) : newline ∉ entry.line := by
  have sign : newline ≠ 0x3d := by decide
  simp [IniEntry.line, entry.indent.oneLine, entry.isKey.oneLine, entry.beforeSign.oneLine, sign,
    entry.afterSign.oneLine, entry.isValue.oneLine, entry.ending.oneLine]

theorem IniHeader.lineOneLine (header : IniHeader) : newline ∉ header.line := by
  have brackets : newline ≠ 0x5b ∧ newline ≠ 0x5d := by decide
  simp [IniHeader.line, header.indent.oneLine, brackets, header.oneLine, header.ending.oneLine]

theorem IniFile.oneLine (file : IniFile) : ∀ line ∈ file.lines, newline ∉ line := by
  rw [IniFile.lines, List.forall_mem_append, List.forall_mem_map, List.forall_mem_flatMap]
  refine ⟨fun remark _ => remark.oneLine, fun part _ => ?_⟩
  rw [IniSection.lines, List.forall_mem_cons, List.forall_mem_map]
  refine ⟨part.header.lineOneLine, fun line _ => ?_⟩
  cases line with
  | inl remark => exact remark.oneLine
  | inr entry => exact entry.oneLine

theorem IniFile.getLines_text (file : IniFile) :
    getLines file.text = file.lines ∨ file.lines = getLines file.text ++ [[]] := by
  by_cases empty : file.lines = []
  · left
    rw [IniFile.text, empty]
    rfl
  · have pieces : file.text.splitOn newline = file.lines :=
      List.splitOn_intercalate newline file.oneLine empty
    rw [getLines, pieces]
    split
    · rename_i last
      rcases List.getLast?_eq_some_iff.mp last with ⟨lines, written⟩
      rw [written, List.dropLast_concat]
      exact .inr rfl
    · exact .inl rfl

/-! ## Readers -/

/-- A reader that keeps the section it is in, and notes the entries of one section. -/
structure IniReader (α : Type) (name : Bytes) where
  step : Bytes × α → Bytes → Bytes × α
  note : α → IniEntry → α
  remark : ∀ scan (remark : IniRemark), step scan remark.line = scan
  header : ∀ scan (header : IniHeader), step scan header.line = (header.name, scan.2)
  entry : ∀ scan (entry : IniEntry), step scan entry.line =
    if scan.1 = name then (scan.1, note scan.2 entry) else scan

namespace IniReader

variable {α : Type} {name : Bytes} (reader : IniReader α name)

theorem foldl_remarks (remarks : List IniRemark) (scan : Bytes × α) :
    (remarks.map IniRemark.line).foldl reader.step scan = scan := by
  induction remarks with
  | nil => rfl
  | cons remark remarks ih => rw [List.map_cons, List.foldl_cons, reader.remark, ih]

theorem foldl_content (content : List (IniRemark ⊕ IniEntry)) (current : Bytes) (noted : α) :
    (content.map (Sum.elim IniRemark.line IniEntry.line)).foldl reader.step (current, noted) =
      (current, if current = name then (content.filterMap Sum.getRight?).foldl reader.note noted
        else noted) := by
  induction content generalizing noted with
  | nil => simp
  | cons line content ih =>
      cases line with
      | inl remark =>
          rw [List.map_cons, List.foldl_cons, Sum.elim_inl, reader.remark, ih]
          rfl
      | inr entry =>
          rw [List.map_cons, List.foldl_cons, Sum.elim_inr, reader.entry]
          by_cases inside : current = name
          · rw [if_pos inside, ih, if_pos inside, if_pos inside]
            rfl
          · rw [if_neg inside, ih, if_neg inside, if_neg inside]

theorem foldl_section (part : IniSection) (scan : Bytes × α) :
    part.lines.foldl reader.step scan = (part.header.name,
      if part.header.name = name then part.entries.foldl reader.note scan.2 else scan.2) := by
  rw [IniSection.lines, List.foldl_cons, reader.header, foldl_content]
  rfl

theorem foldl_lines (file : IniFile) (scan : Bytes × α) :
    (file.lines.foldl reader.step scan).2 = (file.entriesOf name).foldl reader.note scan.2 := by
  rcases file with ⟨preamble, sections, distinct⟩
  rw [IniFile.lines, List.foldl_append, foldl_remarks]
  induction sections generalizing scan with
  | nil => rfl
  | cons part sections ih =>
      rw [List.map_cons, List.nodup_cons] at distinct
      rw [List.flatMap_cons, List.foldl_append, foldl_section, ih _ distinct.2]
      simp only [IniFile.entriesOf]
      by_cases found : part.header.name = name
      · have others : sections.find? (·.header.name = name) = none := by
          rw [List.find?_eq_none]
          intro other mem same
          rw [decide_eq_true_eq, ← found] at same
          exact distinct.1 (List.mem_map.mpr ⟨other, mem, same⟩)
        rw [others, if_pos found, List.find?_cons_of_pos (by simp [found])]
        rfl
      · rw [if_neg found, List.find?_cons_of_neg (by simp [found])]

theorem foldl_getLines (file : IniFile) (scan : Bytes × α) :
    ((getLines file.text).foldl reader.step scan).2 =
      (file.entriesOf name).foldl reader.note scan.2 := by
  have nothing (scan : Bytes × α) : reader.step scan [] = scan :=
    reader.remark scan (.blank .none)
  rw [← foldl_lines]
  rcases file.getLines_text with same | longer
  · rw [same]
  · rw [longer, List.foldl_append, List.foldl_cons, List.foldl_nil, nothing]

end IniReader

end FileTrans.Text
