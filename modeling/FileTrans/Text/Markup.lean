import FileTrans.Text.Search
import FileTrans.Text.Url

/-!
# Elements of marked-up text

An element is a text between an opening and a closing tag.  A search for a tag
passes over text without tags and over tags of other names, so an element is
found behind everything that has none of its name.

In an escaped text a byte is written as it is or as a reference, which takes more
than a byte.  A written text is therefore the text itself exactly if every byte is
written as it is.
-/

namespace FileTrans.Text

/-- The tag that opens an element. -/
def openTag (name : Bytes) : Bytes :=
  0x3c :: (name ++ [0x3e])

/-- The tag that closes an element. -/
def closeTag (name : Bytes) : Bytes :=
  openTag (0x2f :: name)

def element (name content : Bytes) : Bytes :=
  openTag name ++ content ++ closeTag name

/-- Elements without elements in them, each by its name and its content. -/
def record (fields : List (Bytes × Bytes)) : Bytes :=
  fields.flatMap fun field => element field.1 field.2

def extractXmlElement (xml tag : Bytes) : Option Bytes :=
  match find (openTag tag) xml with
  | none => none
  | some found =>
      let start := found.drop (openTag tag).length
      match find (closeTag tag) start with
      | none => none
      | some ending => some (start.take (start.length - ending.length))

/-- The elements of one name with their tags, in so many passes: each search begins one byte
after the last closing tag was found. -/
def elementsWithin (tag : Bytes) : Nat → Bytes → List Bytes
  | 0, _ => []
  | passes + 1, text =>
      match find (openTag tag) text with
      | none => []
      | some found =>
          match find (closeTag tag) found with
          | none => []
          | some ending =>
              found.take (found.length - ending.length + (closeTag tag).length) ::
                elementsWithin tag passes (ending.drop 1)

/-- The elements of one name with their tags.  Every pass shortens the text. -/
def elements (tag text : Bytes) : List Bytes :=
  elementsWithin tag text.length text

/-! ## What a search passes over -/

/-- A text without the two brackets of tags. -/
structure IsPlain (text : Bytes) : Prop where
  opens : 0x3c ∉ text
  closes : 0x3e ∉ text

/-- The search for a tag passes over the text, whatever comes after it. -/
def Passes (name text : Bytes) : Prop :=
  ∀ rest, find (openTag name) (text ++ rest) = find (openTag name) rest

variable {name other tag text content first second before after : Bytes}

instance (text : Bytes) : Decidable (IsPlain text) :=
  decidable_of_iff (0x3c ∉ text ∧ 0x3e ∉ text)
    ⟨fun plain => ⟨plain.1, plain.2⟩, fun plain => ⟨plain.opens, plain.closes⟩⟩

theorem passes_nil : Passes name [] :=
  fun _ => rfl

theorem Passes.append (one : Passes name first) (two : Passes name second) :
    Passes name (first ++ second) := by
  intro rest
  rw [List.append_assoc, one, two]

theorem passes_of_notMem (absent : 0x3c ∉ text) : Passes name text := by
  intro rest
  induction text with
  | nil => rfl
  | cons byte text ih =>
      rw [List.mem_cons, not_or] at absent
      rw [List.cons_append, find_cons_of_not_starts, ih absent.2]
      rintro ⟨tail, same⟩
      exact absent.1 (List.cons.inj same).1

theorem passes_openTag (plain : IsPlain name) (otherPlain : IsPlain other)
    (differs : name ≠ other) :
    Passes name (openTag other) := by
  intro rest
  have tail : Passes name (other ++ [0x3e]) := by
    apply (passes_of_notMem otherPlain.opens).append
    exact passes_of_notMem (by decide)
  rw [openTag.eq_def other, List.cons_append, find_cons_of_not_starts, tail]
  rintro ⟨later, same⟩
  apply differs
  have aligned : name ++ 0x3e :: later = other ++ 0x3e :: rest := by
    simpa [openTag] using same
  calc name = (name ++ 0x3e :: later).takeWhile (· != 0x3e) :=
        (takeWhile_ne_append_cons plain.closes _).symm
    _ = (other ++ 0x3e :: rest).takeWhile (· != 0x3e) := by rw [aligned]
    _ = other := takeWhile_ne_append_cons otherPlain.closes _

theorem Passes.element (opening : Passes name (openTag tag)) (inside : Passes name content)
    (closing : Passes name (closeTag tag)) : Passes name (element tag content) :=
  (opening.append inside).append closing

theorem IsPlain.slash (plain : IsPlain name) : IsPlain (0x2f :: name) where
  opens := by simpa using plain.opens
  closes := by simpa using plain.closes

theorem passes_leaf (plain : IsPlain name) (tagPlain : IsPlain tag) (opening : name ≠ tag)
    (closing : name ≠ 0x2f :: tag) (absent : 0x3c ∉ content) :
    Passes name (element tag content) := by
  apply Passes.element
  · exact passes_openTag plain tagPlain opening
  · exact passes_of_notMem absent
  · exact passes_openTag plain tagPlain.slash closing

variable {α : Type} {items : List α} {render : α → Bytes} {held : α → Option Bytes}

theorem passes_flatMap (each : ∀ item ∈ items, Passes name (render item)) :
    Passes name (items.flatMap render) := by
  induction items with
  | nil => exact passes_nil
  | cons item items ih =>
      rw [List.flatMap_cons]
      apply (each item List.mem_cons_self).append
      exact ih fun later mem => each later (List.mem_cons_of_mem _ mem)

theorem passes_record {fields : List (Bytes × Bytes)} (plain : IsPlain name)
    (names : ∀ tag ∈ fields.map Prod.fst, IsPlain tag ∧ name ≠ tag ∧ name ≠ 0x2f :: tag)
    (texts : ∀ field ∈ fields, 0x3c ∉ field.2) : Passes name (record fields) := by
  apply passes_flatMap
  intro field mem
  rcases names field.1 (List.mem_map_of_mem mem) with ⟨tagPlain, opening, closing⟩
  exact passes_leaf plain tagPlain opening closing (texts field mem)

theorem Passes.find_eq_none (passes : Passes name text) : find (openTag name) text = none := by
  have whole := passes []
  rw [List.append_nil] at whole
  rw [whole]
  simp [find, openTag]

/-! ## Elements behind what is passed over -/

theorem extractXmlElement_element (front : Passes tag before)
    (inside : Passes (0x2f :: tag) content) (after : Bytes) :
    extractXmlElement (before ++ (element tag content ++ after)) tag = some content := by
  have opening : find (openTag tag) (element tag content ++ after) =
      some (openTag tag ++ (content ++ (closeTag tag ++ after))) := by
    simp only [element, List.append_assoc]
    exact find_of_starts _ _
  have closing : find (closeTag tag) (content ++ (closeTag tag ++ after)) =
      some (closeTag tag ++ after) := by
    rw [closeTag, inside, find_of_starts]
  rw [extractXmlElement, front, opening]
  simp only [List.drop_left, closing, List.length_append, Nat.add_sub_cancel_right,
    List.take_left]

theorem extractXmlElement_record {fields : List (Bytes × Bytes)} (plain : IsPlain tag)
    (names : ∀ other ∈ fields.map Prod.fst, IsPlain other ∧ tag ≠ 0x2f :: other)
    (texts : ∀ field ∈ fields, 0x3c ∉ field.2) (held : fields.lookup tag = some content)
    (front : Passes tag before) (after : Bytes) :
    extractXmlElement (before ++ (record fields ++ after)) tag = some content := by
  induction fields generalizing before with
  | nil => contradiction
  | cons field fields ih =>
      have joined : record (field :: fields) ++ after =
          element field.1 field.2 ++ (record fields ++ after) := by
        simp [record]
      have text := texts field List.mem_cons_self
      rw [joined]
      by_cases same : tag = field.1
      · subst same
        rw [List.lookup_cons_self] at held
        rw [← Option.some.inj held]
        exact extractXmlElement_element front (passes_of_notMem text) _
      · have first := names field.1 List.mem_cons_self
        rw [List.lookup_cons, beq_false_of_ne same] at held
        rw [← List.append_assoc]
        apply ih (fun other mem => names other (List.mem_cons_of_mem _ mem))
          (fun later mem => texts later (List.mem_cons_of_mem _ mem)) held
        exact front.append (passes_leaf plain first.1 same first.2 text)

theorem extractXmlElement_eq_none (passes : Passes tag text) :
    extractXmlElement text tag = none := by
  rw [extractXmlElement, passes.find_eq_none]

/-! ## Fields with known names -/

/-- Fields with these names, in whose texts no tag begins. -/
def AreFields (names : List Bytes) (fields : List (Bytes × Bytes)) : Prop :=
  ∀ field ∈ fields, field.1 ∈ names ∧ 0x3c ∉ field.2

/-- A name of which no tag is taken for one of these names. -/
def Apart (name : Bytes) (names : List Bytes) : Prop :=
  IsPlain name ∧ ∀ other ∈ names, IsPlain other ∧ name ≠ other ∧ name ≠ 0x2f :: other

instance (name : Bytes) (names : List Bytes) : Decidable (Apart name names) :=
  inferInstanceAs (Decidable (_ ∧ ∀ _ ∈ names, _))

section Fields

variable {names : List Bytes} {fields : List (Bytes × Bytes)}

theorem Apart.mono {fewer : List Bytes} (apart : Apart name names) (subset : fewer ⊆ names) :
    Apart name fewer :=
  ⟨apart.1, fun other mem => apart.2 other (subset mem)⟩

theorem Apart.passes_openTag (apart : Apart name names) (mem : other ∈ names) :
    Passes name (openTag other) :=
  FileTrans.Text.passes_openTag apart.1 (apart.2 other mem).1 (apart.2 other mem).2.1

theorem Apart.passes_closeTag (apart : Apart name names) (mem : other ∈ names) :
    Passes name (closeTag other) :=
  FileTrans.Text.passes_openTag apart.1 (apart.2 other mem).1.slash (apart.2 other mem).2.2

theorem Apart.passes_element (apart : Apart name names) (mem : other ∈ names)
    (inside : Passes name content) : Passes name (element other content) :=
  (apart.passes_openTag mem).element inside (apart.passes_closeTag mem)

theorem AreFields.passes (known : AreFields names fields) (apart : Apart name names) :
    Passes name (record fields) := by
  apply passes_flatMap
  intro field mem
  apply apart.passes_element (known field mem).1
  exact passes_of_notMem (known field mem).2

theorem AreFields.extractXmlElement (known : AreFields names fields) (plain : IsPlain tag)
    (apart : ∀ other ∈ names, IsPlain other ∧ tag ≠ 0x2f :: other) (front : Passes tag before)
    (behind : Passes tag after) :
    extractXmlElement (before ++ (record fields ++ after)) tag = fields.lookup tag := by
  cases held : fields.lookup tag with
  | some content =>
      apply extractXmlElement_record plain _ (fun field mem => (known field mem).2) held front
      intro other mem
      rcases List.mem_map.mp mem with ⟨field, inside, rfl⟩
      exact apart field.1 (known field inside).1
  | none =>
      apply extractXmlElement_eq_none
      apply front.append
      refine Passes.append ?_ behind
      apply passes_record plain _ fun field mem => (known field mem).2
      intro other mem
      have differs := List.lookup_eq_none_iff.mp held
      rcases List.mem_map.mp mem with ⟨field, inside, rfl⟩
      have known := apart field.1 (known field inside).1
      exact ⟨known.1, by simpa using differs field inside, known.2⟩

end Fields

/-- The next pass finds the element behind what is passed over, and goes on in the tail of the
tag that closes it. -/
theorem elementsWithin_element {passes : Nat} (front : Passes tag before)
    (inside : Passes (0x2f :: tag) (openTag tag ++ content)) (after : Bytes) :
    elementsWithin tag (passes + 1) (before ++ (element tag content ++ after)) =
      element tag content :: elementsWithin tag passes (0x2f :: (tag ++ [0x3e]) ++ after) := by
  have opening : find (openTag tag) (element tag content ++ after) =
      some (openTag tag ++ content ++ (closeTag tag ++ after)) := by
    simp only [element, List.append_assoc]
    exact find_of_starts _ _
  have closing : find (closeTag tag) (openTag tag ++ content ++ (closeTag tag ++ after)) =
      some (closeTag tag ++ after) := by
    rw [closeTag, inside, find_of_starts]
  have found : (openTag tag ++ content ++ (closeTag tag ++ after)).take
      ((openTag tag ++ content).length + (closeTag tag).length) = element tag content := by
    rw [← List.append_assoc, ← List.length_append]
    exact List.take_left
  have start : (openTag tag ++ content ++ (closeTag tag ++ after)).length -
      (closeTag tag ++ after).length = (openTag tag ++ content).length := by
    rw [List.length_append, Nat.add_sub_cancel_right]
  rw [elementsWithin, front, opening]
  simp only [closing, start, found]
  rfl

theorem elementsWithin_eq_nil (passes : Passes tag text) (count : Nat) :
    elementsWithin tag count text = [] := by
  cases count with
  | zero => rfl
  | succ count => rw [elementsWithin, passes.find_eq_none]

theorem elementsWithin_flatMap {count : Nat} (plain : IsPlain tag) (front : Passes tag before)
    (inside : ∀ item ∈ items, ∀ content ∈ held item, render item = element tag content ∧
      Passes (0x2f :: tag) (openTag tag ++ content))
    (others : ∀ item ∈ items, held item = none → Passes tag (render item))
    (behind : Passes tag after) (enough : (items.filterMap held).length ≤ count) :
    elementsWithin tag count (before ++ (items.flatMap render ++ after)) =
      (items.filterMap held).map (element tag) := by
  induction items generalizing before count with
  | nil => exact elementsWithin_eq_nil (front.append behind) count
  | cons item items ih =>
      have insideRest := fun later mem => inside later (List.mem_cons_of_mem item mem)
      have othersRest := fun later mem => others later (List.mem_cons_of_mem item mem)
      rw [List.flatMap_cons, List.append_assoc]
      cases holds : held item with
      | none =>
          rw [List.filterMap_cons_none holds] at enough ⊢
          rw [← List.append_assoc]
          apply ih _ insideRest othersRest enough
          exact front.append (others item List.mem_cons_self holds)
      | some content =>
          rcases inside item List.mem_cons_self content holds with ⟨rendered, closes⟩
          rw [List.filterMap_cons_some holds] at enough ⊢
          cases count with
          | zero => contradiction
          | succ count =>
              have tail : Passes tag (0x2f :: (tag ++ [0x3e])) := by
                apply passes_of_notMem
                simp [plain.opens]
              rw [rendered, elementsWithin_element front closes]
              exact congrArg _ (ih tail insideRest othersRest (Nat.le_of_succ_le_succ enough))

theorem length_filterMap_le
    (rendered : ∀ item ∈ items, ∀ content ∈ held item, render item = element tag content) :
    (items.filterMap held).length ≤ (items.flatMap render).length := by
  induction items with
  | nil => simp
  | cons item items ih =>
      have rest := ih fun later mem => rendered later (List.mem_cons_of_mem item mem)
      rw [List.flatMap_cons, List.length_append]
      cases holds : held item with
      | none =>
          rw [List.filterMap_cons_none holds]
          omega
      | some content =>
          have long : 0 < (element tag content).length := by simp [element, openTag]
          rw [List.filterMap_cons_some holds, rendered item List.mem_cons_self content holds,
            List.length_cons]
          omega

theorem elements_flatMap (plain : IsPlain tag) (front : Passes tag before)
    (inside : ∀ item ∈ items, ∀ content ∈ held item, render item = element tag content ∧
      Passes (0x2f :: tag) (openTag tag ++ content))
    (others : ∀ item ∈ items, held item = none → Passes tag (render item))
    (behind : Passes tag after) :
    elements tag (before ++ (items.flatMap render ++ after)) =
      (items.filterMap held).map (element tag) := by
  apply elementsWithin_flatMap plain front inside others behind
  have few := length_filterMap_le fun item mem content holds =>
    (inside item mem content holds).1
  rw [List.length_append, List.length_append]
  omega

theorem elements_records {fields : α → List (Bytes × Bytes)} {names : List Bytes}
    (known : ∀ item ∈ items, AreFields names (fields item)) (plain : IsPlain tag)
    (apart : Apart (0x2f :: tag) names) (front : Passes tag before) (behind : Passes tag after) :
    elements tag (before ++ ((items.flatMap fun item => element tag (record (fields item))) ++
      after)) = items.map fun item => element tag (record (fields item)) := by
  have opening : Passes (0x2f :: tag) (openTag tag) := by
    apply passes_openTag plain.slash plain
    exact fun same => absurd (congrArg List.length same) (by simp)
  rw [elements_flatMap plain front _ _ behind]
  · rw [List.filterMap_eq_map, List.map_map]
    rfl
  · rintro item mem _ ⟨rfl⟩
    exact ⟨rfl, opening.append ((known item mem).passes apart)⟩
  · exact fun _ _ => nofun

/-! ## Searches that go on behind the closing tag -/

/-- The elements of one name with their tags, in so many passes: each search begins after the last
closing tag. -/
def elementsAfterWithin (tag : Bytes) : Nat → Bytes → List Bytes
  | 0, _ => []
  | passes + 1, text =>
      match find (openTag tag) text with
      | none => []
      | some found =>
          match find (closeTag tag) found with
          | none => []
          | some ending =>
              found.take (found.length - ending.length + (closeTag tag).length) ::
                elementsAfterWithin tag passes (ending.drop (closeTag tag).length)

/-- The elements of one name with their tags, by searches that go on after the closing tags. -/
def elementsAfter (tag text : Bytes) : List Bytes :=
  elementsAfterWithin tag text.length text

theorem elementsWithin_passes (front : Passes tag before) (count : Nat) (text : Bytes) :
    elementsWithin tag count (before ++ text) = elementsWithin tag count text := by
  cases count with
  | zero => rfl
  | succ count => rw [elementsWithin, elementsWithin, front]

theorem elementsAfterWithin_eq (plain : IsPlain tag) (count : Nat) (text : Bytes) :
    elementsAfterWithin tag count text = elementsWithin tag count text := by
  induction count generalizing text with
  | zero => rfl
  | succ count ih =>
      rw [elementsAfterWithin, elementsWithin]
      cases opening : find (openTag tag) text with
      | none => rfl
      | some found =>
          dsimp only
          cases closing : find (closeTag tag) found with
          | none => rfl
          | some ending =>
              rcases prefix_of_find closing with ⟨⟨rest, rfl⟩, -⟩
              have tail : Passes tag (0x2f :: (tag ++ [0x3e])) := by
                apply passes_of_notMem
                simp [plain.opens]
              have next := elementsWithin_passes tail count rest
              dsimp only
              rw [List.drop_left, ih, ← next]
              rfl

theorem elementsAfter_eq (plain : IsPlain tag) (text : Bytes) :
    elementsAfter tag text = elements tag text :=
  elementsAfterWithin_eq plain _ text

end FileTrans.Text

namespace FileTrans.Text

/-! ## Writing byte by byte -/

section Writing

variable {encode : UInt8 → Bytes} (longer : ∀ byte, encode byte ≠ [byte] → 1 < (encode byte).length)

include longer in
theorem length_flatMap_encode (text : Bytes) :
    text.length ≤ (text.flatMap encode).length ∧
      ((text.flatMap encode).length = text.length → ∀ byte ∈ text, encode byte = [byte]) := by
  induction text with
  | nil => exact ⟨le_rfl, fun _ _ mem => absurd mem List.not_mem_nil⟩
  | cons byte text ih =>
      rw [List.flatMap_cons, List.length_append, List.length_cons]
      by_cases kept : encode byte = [byte]
      · rw [kept, List.length_singleton, Nat.add_comm 1]
        refine ⟨Nat.succ_le_succ ih.1, fun same => ?_⟩
        exact List.forall_mem_cons.mpr ⟨kept, ih.2 (Nat.succ.inj same)⟩
      · have long := longer byte kept
        have short := ih.1
        exact ⟨by omega, fun same => by omega⟩

theorem flatMap_encode_eq_self {text : Bytes} (kept : ∀ byte ∈ text, encode byte = [byte]) :
    text.flatMap encode = text := by
  induction text with
  | nil => rfl
  | cons byte text ih =>
      rw [List.flatMap_cons, kept byte List.mem_cons_self,
        ih fun other mem => kept other (List.mem_cons_of_mem _ mem)]
      rfl

include longer in
theorem flatMap_encode_eq_self_iff {text : Bytes} :
    text.flatMap encode = text ↔ ∀ byte ∈ text, encode byte = [byte] := by
  constructor
  · intro same
    exact (length_flatMap_encode longer text).2 (congrArg List.length same)
  · exact flatMap_encode_eq_self

end Writing

/-! ## Escaping -/

/-- A reference to a character or an entity. -/
def reference (name : Bytes) : Bytes :=
  0x26 :: (name ++ [0x3b])

/-- How bytes are written in an element.  What would begin a tag or a reference is not written as
it is. -/
structure Escaping where
  escapeByte : UInt8 → Bytes
  written : ∀ byte, escapeByte byte = [byte] ∨
    ∃ name, IsPlain name ∧ escapeByte byte = reference name
  bracket : escapeByte 0x3c ≠ [0x3c]
  ampersand : escapeByte 0x26 ≠ [0x26]

namespace Escaping

variable (escaping : Escaping)

/-- A text as it is written in an element. -/
def escape (text : Bytes) : Bytes :=
  text.flatMap escaping.escapeByte

/-- A text of which every byte is written as it is. -/
def Keeps (text : Bytes) : Prop :=
  ∀ byte ∈ text, escaping.escapeByte byte = [byte]

instance (text : Bytes) : Decidable (escaping.Keeps text) :=
  inferInstanceAs (Decidable (∀ _ ∈ text, _))

variable {escaping} {byte : UInt8} {text : Bytes}

theorem longer (differs : escaping.escapeByte byte ≠ [byte]) :
    1 < (escaping.escapeByte byte).length := by
  rcases escaping.written byte with same | ⟨name, -, isReference⟩
  · contradiction
  · simp [isReference, reference]

theorem notMem_escape (text : Bytes) : 0x3c ∉ escaping.escape text := by
  intro mem
  rcases List.mem_flatMap.mp mem with ⟨byte, -, inside⟩
  rcases escaping.written byte with same | ⟨name, plain, isReference⟩
  · rw [same, List.mem_singleton] at inside
    subst inside
    exact escaping.bracket same
  · simp [isReference, reference, plain.opens] at inside

theorem escape_eq_self_iff : escaping.escape text = text ↔ escaping.Keeps text :=
  flatMap_encode_eq_self_iff fun _ => longer

end Escaping

/-- The entities of a byte that every reader of marked-up text knows. -/
def entityName (byte : UInt8) : Option Bytes :=
  if byte = 0x26 then some (ascii "amp")
  else if byte = 0x3c then some (ascii "lt")
  else if byte = 0x3e then some (ascii "gt")
  else if byte = 0x22 then some (ascii "quot")
  else if byte = 0x27 then some (ascii "apos")
  else none

/-- The bytes that have an entity are written as references to it. -/
def Escaping.standard : Escaping where
  escapeByte byte := (entityName byte).elim [byte] reference
  written := by
    intro byte
    unfold entityName
    split_ifs
    · exact .inr ⟨ascii "amp", by decide, rfl⟩
    · exact .inr ⟨ascii "lt", by decide, rfl⟩
    · exact .inr ⟨ascii "gt", by decide, rfl⟩
    · exact .inr ⟨ascii "quot", by decide, rfl⟩
    · exact .inr ⟨ascii "apos", by decide, rfl⟩
    · exact .inl rfl
  bracket := by decide
  ampersand := by decide

end FileTrans.Text
