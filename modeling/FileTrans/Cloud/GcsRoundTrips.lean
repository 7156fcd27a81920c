import FileTrans.Cloud.GcsListing
import FileTrans.Cloud.ListingRoundTrips
import FileTrans.Resume.Extraction
import FileTrans.Text.JsonLayout

/-!
# Reading what Google Cloud Storage lists

The members of an object, and those of a page, come in any order and among others.  If
no search is confused by what stands in a string, then a listing comes back as it is
exactly if none of its texts is written with an escape, the clock of the process shows
UTC and no time has a fraction of a second.  Custom metadata does not come back.
-/

namespace FileTrans.Cloud

open FileTrans.Core
open FileTrans.Resume (stringValue)
open FileTrans.Text
open FileTrans.Transition

/-! ## Answers -/

/-- An object as the service lists it. -/
structure GcsObject extends ObjectEntry where
  millis : Nat
  millis_lt : millis < 1000
  customMetadata : List (Bytes × Bytes)

namespace GcsObject

/-- The time of the last change, to the millisecond. -/
def updatedText (object : GcsObject) : Bytes :=
  dateText object.modified.toUtcTime (0x2e :: (padded 3 object.millis ++ [0x5a]))

/-- What a listing should show of the object. -/
def shown (object : GcsObject) : CloudObjectMetadata where
  key := object.key
  size := object.size
  lastModified := fromTimeT object.modified.seconds + object.millis * 10 ^ 6
  etag := object.etag
  contentType := object.contentType.getD []
  storageClass := object.storageClass
  customMetadata := object.customMetadata

/-- No text of the object is written with an escape. -/
def IsKept (escaping : JsonEscaping) (object : GcsObject) : Prop :=
  escaping.escape object.key = object.key ∧ escaping.escape object.etag = object.etag ∧
    (∀ text ∈ object.contentType, escaping.escape text = text) ∧
    ∀ text ∈ object.storageClass, escaping.escape text = text

/-- The clock of the process shows the time of the object in UTC, and it is in whole seconds. -/
def IsTimely (mktime : Int → Int) (object : GcsObject) : Prop :=
  mktime object.modified.seconds = object.modified.seconds ∧ object.millis = 0

end GcsObject

/-- The names that the client looks for in an object. -/
def itemNames : List Bytes :=
  [ascii "name", ascii "size", ascii "contentType", ascii "etag", ascii "updated",
    ascii "storageClass"]

/-- The names that it looks for in a page. -/
def pageNames : List Bytes :=
  [ascii "nextPageToken", ascii "prefixes", ascii "items"]

section

variable (escaping : JsonEscaping) (spacing : Spacing)

/-- A string of a document. -/
def stringText (text : Bytes) : Bytes :=
  quoted (escaping.escape text)

/-- The members of an object that a client may ask for, and what their values are if they are
there. -/
def GcsObject.fields (object : GcsObject) : List (Bytes × Option Bytes) :=
  [(ascii "name", some (stringText escaping object.key)),
    (ascii "size", some (quoted (decimal object.size.toNat))),
    (ascii "contentType", object.contentType.map (stringText escaping)),
    (ascii "etag", some (stringText escaping object.etag)),
    (ascii "updated", some (quoted object.updatedText)),
    (ascii "storageClass", object.storageClass.map (stringText escaping)),
    (ascii "metadata", if object.customMetadata = [] then none else
      some (spacing.objectText 3 (object.customMetadata.map fun entry =>
        (escaping.escape entry.1, stringText escaping entry.2))))]

/-- An object in a page, with its members in any order and among others. -/
structure ListedItem where
  object : GcsObject
  members : List (Bytes × Bytes)
  written : ∀ field ∈ object.fields escaping spacing, members.lookup field.1 = field.2

/-- What a page is about. -/
structure GcsListing where
  items : List (ListedItem escaping spacing)
  prefixes : List Bytes
  nextPageToken : Option Bytes
  nonempty : nextPageToken ≠ some []

end

variable {escaping : JsonEscaping} {spacing : Spacing}

namespace ListedItem

variable (item : ListedItem escaping spacing)

/-- The text of an object in its array. -/
def text : Bytes :=
  spacing.objectText 2 item.members

/-- The text between its braces. -/
def inner : Bytes :=
  spacing.content 2 (item.members.map spacing.memberText)

end ListedItem

/-- The members of a page.  An array without elements is left out. -/
def GcsListing.fields (listing : GcsListing escaping spacing) : List (Bytes × Option Bytes) :=
  [(ascii "nextPageToken", listing.nextPageToken.map (stringText escaping)),
    (ascii "prefixes", if listing.prefixes = [] then none else
      some (spacing.arrayText 1 (listing.prefixes.map (stringText escaping)))),
    (ascii "items", if listing.items = [] then none else
      some (spacing.arrayText 1 (listing.items.map ListedItem.text)))]

/-- A page, with its members in any order and among others. -/
structure GcsPage (escaping : JsonEscaping) (spacing : Spacing) extends
    GcsListing escaping spacing where
  members : List (Bytes × Bytes)
  written : ∀ field ∈ toGcsListing.fields, members.lookup field.1 = field.2

namespace GcsPage

variable (page : GcsPage escaping spacing)

/-- The body of the answer. -/
def text : Bytes :=
  spacing.objectText 0 page.members

/-- What a client should return. -/
def listing : ListObjectsResult where
  objects := page.items.map fun item => item.object.shown
  commonPrefixes := page.prefixes
  isTruncated := page.nextPageToken.isSome
  continuationToken := page.nextPageToken
  totalCount := none

end GcsPage

/-- A listing without the custom metadata of its objects. -/
def withoutMetadata (listing : ListObjectsResult) : ListObjectsResult :=
  { listing with objects := listing.objects.map fun object => { object with customMetadata := [] } }

namespace GcsPage

variable (page : GcsPage escaping spacing)

/-! ## Conditions -/

/-- No search ends in the wrong place: a name in quotes is no part of the text in front of its
member, and not of a text without one; the braces of each object pair up, with those in its strings;
and no prefix has a bracket. -/
structure IsUnconfused : Prop where
  page_names : ∀ name ∈ pageNames, ¬ quoted name <:+: spacing.passedText 0 page.members name
  item_names : ∀ item ∈ page.items, ∀ name ∈ itemNames,
    ¬ quoted name <:+: spacing.passedText 2 item.members name
  braces : ∀ item ∈ page.items, Paired item.inner
  brackets : ∀ shared ∈ page.prefixes, 0x5d ∉ escaping.escape shared

/-- No text of the listing is written with an escape. -/
def IsKept : Prop :=
  (∀ item ∈ page.items, item.object.IsKept escaping) ∧
  (∀ shared ∈ page.prefixes, escaping.escape shared = shared) ∧
  ∀ token ∈ page.nextPageToken, escaping.escape token = token

/-- The clock of the process shows the times of the objects in UTC, and they are in whole
seconds. -/
def IsTimely (mktime : Int → Int) : Prop :=
  ∀ item ∈ page.items, item.object.IsTimely mktime

/-- No object has custom metadata. -/
def HasNoMetadata : Prop :=
  ∀ item ∈ page.items, item.object.customMetadata = []

end GcsPage

/-! ## Strings -/

section Strings

variable {text : Bytes}

theorem stringValue_escape (previous : UInt8) (text rest : Bytes) :
    stringValue previous (escaping.escape text ++ rest) =
      escaping.escape text ++ stringValue (lastByte previous (escaping.escape text)) rest := by
  induction text generalizing previous with
  | nil => rfl
  | cons byte text ih =>
      rw [JsonEscaping.escape_cons, List.append_assoc, List.append_assoc, lastByte_append, ← ih]
      rcases JsonEscaping.escapeByte_cases escaping byte with
        ⟨kept, literal⟩ | ⟨letter, more, isEscape, noQuote, -⟩
      · rw [kept]
        exact Resume.stringValue_of_plain
          (fun mem => literal.2.1 (List.mem_singleton.mp mem).symm) _
      · have first : ¬ (backslash = quote ∧ previous ≠ backslash) := fun stop => by cases stop.1
        have second : ¬ (letter = quote ∧ backslash ≠ backslash) := fun stop => stop.2 rfl
        rw [isEscape, List.cons_append, List.cons_append, stringValue, if_neg first, stringValue,
          if_neg second, Resume.stringValue_of_plain noQuote]
        rfl

theorem stringValue_literal (literal : IsLiteral text) (rest : Bytes) :
    stringValue quote (text ++ quote :: rest) = text := by
  have noQuote : quote ∉ text := fun mem => (literal quote mem).2.1 rfl
  have noSlash : backslash ∉ text := fun mem => (literal backslash mem).2.2 rfl
  rw [Resume.stringValue_of_plain noQuote,
    Resume.stringValue_quote (Resume.lastByte_ne noSlash (by decide)), List.append_nil]

theorem stringValue_escape_eq_iff (rest : Bytes) :
    stringValue quote (escaping.escape text ++ quote :: rest) = text ↔
      escaping.escape text = text := by
  constructor
  · intro reads
    rw [stringValue_escape] at reads
    have longer : text.length ≤ (escaping.escape text).length :=
      JsonEscaping.length_le_escape text
    have lengths := congrArg List.length reads
    rw [List.length_append] at lengths
    have nothing := List.eq_nil_of_length_eq_zero (show (stringValue
      (lastByte quote (escaping.escape text)) (quote :: rest)).length = 0 by omega)
    rwa [nothing, List.append_nil] at reads
  · intro kept
    rw [kept]
    exact stringValue_literal (JsonEscaping.isLiteral_of_escape_eq kept) rest

end Strings

/-! ## Members -/

section Members

variable {depth : Nat} {members : List (Bytes × Bytes)} {name raw : Bytes}

theorem extract_quoted (plain : IsPlainName name) (found : members.lookup name = some (quoted raw))
    (absent : ¬ quoted name <:+: spacing.passedText depth members name) : ∃ rest,
    extractJsonValue (spacing.objectText depth members) name =
      some (stringValue quote (raw ++ quote :: rest)) := by
  rcases Spacing.find_member plain found absent with ⟨rest, search⟩
  have colon := find_of_starts [0x3a] (spacing.afterColon ++ (quoted raw ++ rest))
  have dropped : (spacing.afterColon ++ (quoted raw ++ rest)).dropWhile isJsonSpace =
      quote :: (raw ++ quote :: rest) := by
    rw [List.dropWhile_append_of_pos spacing.afterColon_space, quoted, List.cons_append,
      List.dropWhile_cons_of_neg (by decide)]
    simp
  refine ⟨rest, ?_⟩
  rw [extractJsonValue, search]
  simp only [List.drop_left]
  rw [List.singleton_append] at colon
  simp only [colon, List.tail_cons, dropped, if_pos]

theorem extract_missing (missing : members.lookup name = none)
    (absent : ¬ quoted name <:+: spacing.passedText depth members name) :
    extractJsonValue (spacing.objectText depth members) name = none := by
  rw [extractJsonValue, Spacing.find_no_member missing absent]

theorem extract_stringText {text : Bytes} (plain : IsPlainName name)
    (found : members.lookup name = some (stringText escaping text))
    (absent : ¬ quoted name <:+: spacing.passedText depth members name) : ∃ read,
    extractJsonValue (spacing.objectText depth members) name = some read ∧
      (read = text ↔ escaping.escape text = text) := by
  rcases extract_quoted plain found absent with ⟨rest, reads⟩
  exact ⟨_, reads, stringValue_escape_eq_iff rest⟩

theorem extract_optional {value : Option Bytes} (plain : IsPlainName name)
    (found : members.lookup name = value.map (stringText escaping))
    (absent : ¬ quoted name <:+: spacing.passedText depth members name) :
    (extractJsonValue (spacing.objectText depth members) name = value ↔
      ∀ text ∈ value, escaping.escape text = text) ∧
    ((extractJsonValue (spacing.objectText depth members) name).getD [] = value.getD [] ↔
      ∀ text ∈ value, escaping.escape text = text) := by
  cases value with
  | none => simp [extract_missing found absent]
  | some text =>
      rcases extract_stringText plain found absent with ⟨read, reads, iff_kept⟩
      rw [reads]
      simp [iff_kept]

theorem extract_literal (plain : IsPlainName name) (literal : IsLiteral raw)
    (found : members.lookup name = some (quoted raw))
    (absent : ¬ quoted name <:+: spacing.passedText depth members name) :
    extractJsonValue (spacing.objectText depth members) name = some raw := by
  rcases extract_quoted plain found absent with ⟨rest, reads⟩
  rw [reads, stringValue_literal literal]

end Members

/-! ## Objects -/

theorem isLiteralByte_of_isDigit {byte : UInt8} (digit : isDigit 10 byte = true) :
    IsLiteralByte byte := by
  have every : ∀ code < 256, isDigit 10 (UInt8.ofNat code) = true →
      IsLiteralByte (UInt8.ofNat code) := by decide +kernel
  have one := every byte.toNat byte.toNat_lt
  rw [UInt8.ofNat_toNat] at one
  exact one digit

theorem isLiteral_padded (width number : Nat) : IsLiteral (padded width number) :=
  fun _ mem => isLiteralByte_of_isDigit (isDigit_of_mem_padded mem)

theorem isLiteral_updatedText (object : GcsObject) : IsLiteral object.updatedText := by
  simp only [IsLiteral, GcsObject.updatedText, dateText, clockText, List.forall_mem_append,
    List.forall_mem_cons]
  have literal := isLiteral_padded
  exact ⟨literal _ _, by decide, literal _ _, by decide, literal _ _, by decide, literal _ _,
    by decide, literal _ _, by decide, literal _ _, by decide, literal _ _, by decide,
    List.forall_mem_nil _⟩

theorem fromTimeT_eq_iff {reading seconds : Int} {millis : Nat} (small : millis < 1000) :
    fromTimeT reading = fromTimeT seconds + millis * 10 ^ 6 ↔ reading = seconds ∧ millis = 0 := by
  rw [fromTimeT, fromTimeT]
  omega

theorem parseObjectMetadata_item (mktime : Int → Int) (item : ListedItem escaping spacing)
    (clear : ∀ name ∈ itemNames, ¬ quoted name <:+: spacing.passedText 2 item.members name) :
    parseObjectMetadata mktime item.text =
        { item.object.shown with customMetadata := [] } ↔
      item.object.IsKept escaping ∧ item.object.IsTimely mktime := by
  simp only [itemNames, List.forall_mem_cons] at clear
  rcases clear with ⟨clearName, clearSize, clearType, clearEtag, clearUpdated, clearClass, -⟩
  have name : item.members.lookup (ascii "name") = some (stringText escaping item.object.key) :=
    item.written (_, _) (.head _)
  have size : item.members.lookup (ascii "size") =
      some (quoted (decimal item.object.size.toNat)) :=
    item.written (_, _) (.tail _ (.head _))
  have contentType : item.members.lookup (ascii "contentType") =
      item.object.contentType.map (stringText escaping) :=
    item.written (_, _) (.tail _ (.tail _ (.head _)))
  have etag : item.members.lookup (ascii "etag") = some (stringText escaping item.object.etag) :=
    item.written (_, _) (.tail _ (.tail _ (.tail _ (.head _))))
  have updated : item.members.lookup (ascii "updated") = some (quoted item.object.updatedText) :=
    item.written (_, _) (.tail _ (.tail _ (.tail _ (.tail _ (.head _)))))
  have storageClass : item.members.lookup (ascii "storageClass") =
      item.object.storageClass.map (stringText escaping) :=
    item.written (_, _) (.tail _ (.tail _ (.tail _ (.tail _ (.tail _ (.head _))))))
  have digits : IsLiteral (decimal item.object.size.toNat) :=
    fun _ mem => isLiteralByte_of_isDigit (isDigit_of_mem_decimal mem)
  rcases extract_stringText (by decide) name clearName with ⟨readKey, readsKey, key_iff⟩
  rcases extract_stringText (by decide) etag clearEtag with ⟨readEtag, readsEtag, etag_iff⟩
  have readsSize := extract_literal (by decide) digits size clearSize
  have readsType := (extract_optional (by decide) contentType clearType).2
  have readsUpdated := extract_literal (by decide) (isLiteral_updatedText item.object) updated
    clearUpdated
  have readsClass := (extract_optional (by decide) storageClass clearClass).1
  have time : getTime item.object.updatedText = some item.object.modified.seconds :=
    getTime_dateText _ _
  rw [parseObjectMetadata, ListedItem.text]
  simp only [GcsObject.IsKept, GcsObject.IsTimely, GcsObject.shown, CloudObjectMetadata.mk.injEq,
    readsKey, readsEtag, readsSize,
    readsUpdated, Option.getD_some, Option.bind_some, stoull_decimal, time, Option.elim_some,
    readsType, readsClass, key_iff, etag_iff, fromTimeT_eq_iff item.object.millis_lt, true_and]
  tauto

theorem parseObjectMetadata_eq_shown_iff (mktime : Int → Int) (item : ListedItem escaping spacing)
    (clear : ∀ name ∈ itemNames, ¬ quoted name <:+: spacing.passedText 2 item.members name) :
    parseObjectMetadata mktime item.text = item.object.shown ↔
      (item.object.IsKept escaping ∧ item.object.IsTimely mktime) ∧
        item.object.customMetadata = [] := by
  rw [← parseObjectMetadata_item mktime item clear]
  constructor
  · intro same
    have nothing : item.object.customMetadata = [] :=
      (congrArg CloudObjectMetadata.customMetadata same).symm
    refine ⟨?_, nothing⟩
    rw [same, GcsObject.shown, nothing]
  · rintro ⟨same, nothing⟩
    rw [same, GcsObject.shown, nothing]

/-! ## Arrays of objects -/

section Items

theorem closeBrace_append {braceCount : Int} {text : Bytes}
    (inside : ∀ before, before <+: text →
      0 < braceCount + openBraces before ∧ braceCount + openBraces before < 2 ^ 31) (rest : Bytes) :
    closeBrace braceCount (text ++ rest) =
      ((text ++ (closeBrace (braceCount + openBraces text) rest).1),
        (closeBrace (braceCount + openBraces text) rest).2) := by
  induction text generalizing braceCount with
  | nil => simp [openBraces_nil]
  | cons byte text ih =>
      have start := inside [] List.nil_prefix
      have first := inside [byte] ⟨text, rfl⟩
      rw [openBraces_nil, add_zero] at start
      rw [openBraces_cons, openBraces_nil, add_zero] at first
      have counted : countBrace braceCount byte = braceCount +
          if byte = 0x7b then 1 else if byte = 0x7d then -1 else 0 := by
        rw [countBrace]
        split_ifs at first ⊢
        · exact Int.bmod_eq_of_le (by omega) (by omega)
        · exact Int.bmod_eq_of_le (by omega) (by omega)
        · exact (add_zero _).symm
      have later : ∀ before, before <+: text →
          0 < countBrace braceCount byte + openBraces before ∧
            countBrace braceCount byte + openBraces before < 2 ^ 31 := by
        intro before starts
        have bounds := inside (byte :: before) (List.cons_prefix_cons.mpr ⟨rfl, starts⟩)
        rwa [openBraces_cons, ← add_assoc, ← counted] at bounds
      rw [List.cons_append, closeBrace, if_pos start.1, ih later, counted, openBraces_cons,
        ← add_assoc]
      rfl

theorem closeBrace_of_paired {inner : Bytes} (paired : Paired inner) (rest : Bytes) :
    closeBrace 1 (inner ++ 0x7d :: rest) = (inner ++ [0x7d], rest, 0) := by
  have inside : ∀ before, before <+: inner →
      0 < 1 + openBraces before ∧ 1 + openBraces before < 2 ^ 31 := by
    intro before starts
    have bounds := paired.inside before starts
    omega
  have closed : closeBrace 1 (0x7d :: rest) = ([0x7d], rest, 0) := by
    have last : countBrace 1 0x7d = 0 := by decide
    rw [closeBrace, if_pos (by decide), last]
    cases rest <;> rfl
  rw [closeBrace_append inside, paired.closed, add_zero, closed]

theorem endsArray_comma (rest : Bytes) : endsArray (0x2c :: rest) = false := by
  have comma : find [0x2c] (0x2c :: rest) = some (0x2c :: rest) := find_of_starts [0x2c] rest
  rw [endsArray, comma]
  cases search : find [0x5d] (0x2c :: rest) with
  | none => rfl
  | some found =>
      have shorter := (prefix_of_find search).2.length_le
      exact decide_eq_false (Nat.not_lt.mpr shorter)

theorem endsArray_bracket {space : Bytes} (noBracket : 0x5d ∉ space) (noComma : 0x2c ∉ space)
    (rest : Bytes) : endsArray (space ++ 0x5d :: rest) = true := by
  have later : find [0x2c] (space ++ 0x5d :: rest) = find [0x2c] rest := by
    rw [find_byte_skip noComma]
    have other : (0x2c : UInt8) ∉ [0x5d] := by decide
    exact find_byte_skip other rest
  rw [endsArray, find_byte noBracket, later]
  cases search : find [0x2c] rest with
  | none => rfl
  | some found =>
      have shorter := (prefix_of_find search).2.length_le
      exact decide_eq_true (Nat.lt_succ_of_le shorter)

variable (mktime : Int → Int) {before : Bytes}

theorem itemsBody_object (noBrace : 0x7b ∉ before) {inner : Bytes} (paired : Paired inner)
    (left : Bytes) (found : List CloudObjectMetadata) :
    itemsBody mktime (before ++ (0x7b :: (inner ++ [0x7d]) ++ left), found) =
      if endsArray left then
        .inl (found ++ [parseObjectMetadata mktime (0x7b :: (inner ++ [0x7d]))])
      else .inr (left, found ++ [parseObjectMetadata mktime (0x7b :: (inner ++ [0x7d]))]) := by
  have opens : find [0x7b] (before ++ (0x7b :: (inner ++ [0x7d]) ++ left)) =
      some (0x7b :: (inner ++ 0x7d :: left)) := by
    have search := find_byte noBrace (inner ++ 0x7d :: left)
    simpa using search
  have filled : before ++ (0x7b :: (inner ++ [0x7d]) ++ left) ≠ [] := by simp
  simp only [itemsBody, if_neg filled, opens, List.tail_cons, closeBrace_of_paired paired,
    if_pos]

theorem gathers_items {items : List (ListedItem escaping spacing)} (some_item : items ≠ [])
    (paired : ∀ item ∈ items, Paired item.inner) (noBrace : 0x7b ∉ before) (depth : Nat)
    (rest : Bytes) :
    Gathers (itemsBody mktime)
      (before ++ (spacing.separated depth (items.map ListedItem.text) ++
        (spacing.line 1 ++ 0x5d :: rest)))
      (items.map fun item => parseObjectMetadata mktime item.text) := by
  have space {byte : UInt8} (solid : isJsonSpace byte = false) (depth : Nat) :
      byte ∉ spacing.line depth := notMem_of_space solid (spacing.line_space depth)
  induction items generalizing before with
  | nil => exact absurd rfl some_item
  | cons item items ih =>
      rw [List.forall_mem_cons] at paired
      cases items with
      | nil =>
          apply gathers_of_exit
          intro found
          have last := endsArray_bracket (space (by decide) 1) (space (by decide) 1) rest
          have pass := itemsBody_object mktime noBrace paired.1 (spacing.line 1 ++ 0x5d :: rest)
            found
          rw [last, if_pos rfl] at pass
          exact pass
      | cons next items =>
          have noBraceNext : 0x7b ∉ 0x2c :: spacing.line depth := by
            rw [List.mem_cons, not_or]
            exact ⟨by decide, space (by decide) depth⟩
          have later := ih (by simp) paired.2 noBraceNext
          have written : spacing.separated depth ((item :: next :: items).map ListedItem.text) ++
              (spacing.line 1 ++ 0x5d :: rest) = 0x7b :: (item.inner ++ [0x7d]) ++
                (0x2c :: spacing.line depth ++ (spacing.separated depth
                  ((next :: items).map ListedItem.text) ++ (spacing.line 1 ++ 0x5d :: rest))) := by
            simp [Spacing.separated, Spacing.objectText, ListedItem.text, ListedItem.inner]
          rw [written]
          generalize spacing.separated depth ((next :: items).map ListedItem.text) ++
            (spacing.line 1 ++ 0x5d :: rest) = left at later ⊢
          have goes (found : List CloudObjectMetadata) :
              itemsBody mktime (before ++ (0x7b :: (item.inner ++ [0x7d]) ++
                (0x2c :: spacing.line depth ++ left)), found) =
              .inr (0x2c :: spacing.line depth ++ left,
                found ++ [parseObjectMetadata mktime item.text]) := by
            have comma := endsArray_comma (spacing.line depth ++ left)
            rw [itemsBody_object mktime noBrace paired.1]
            exact if_neg (by rw [List.cons_append, comma]; exact Bool.false_ne_true)
          exact later.of_next goes

end Items

/-! ## Arrays of prefixes -/

section Prefixes

variable {before first space : Bytes} {strings : List Bytes}

theorem gathers_nothing {text : Bytes} (absent : quote ∉ text) :
    Gathers prefixesBody text [] := by
  apply gathers_of_exit
  intro found
  rw [prefixesBody, find_byte_eq_none_iff.mpr absent, List.append_nil]

theorem prefixesBody_string (absent : quote ∉ before) (noQuote : quote ∉ first) (rest : Bytes)
    (found : List Bytes) :
    prefixesBody (before ++ quote :: (first ++ quote :: rest), found) =
      .inr (rest, found ++ [first]) := by
  have stops : (first ++ quote :: rest).takeWhile (· != quote) = first :=
    takeWhile_ne_append_cons noQuote rest
  simp only [prefixesBody, find_byte absent, List.tail_cons, find_byte noQuote, stops]

theorem exists_gathers_prefixes (text : Bytes) : ∃ strings, Gathers prefixesBody text strings := by
  apply exists_gathers List.length
  intro text
  by_cases opens : quote ∈ text
  · rcases List.eq_append_cons_of_mem opens with ⟨before, rest, rfl, absent⟩
    by_cases closes : quote ∈ rest
    · rcases List.eq_append_cons_of_mem closes with ⟨first, left, rfl, noQuote⟩
      refine .inr ⟨left, [first], ?_, prefixesBody_string absent noQuote left⟩
      simp only [List.length_append, List.length_cons]
      omega
    · refine .inl ⟨[], fun found => ?_⟩
      simp only [prefixesBody, find_byte absent, List.tail_cons, find_byte_eq_none_iff.mpr closes,
        List.append_nil]
  · refine .inl ⟨[], fun found => ?_⟩
    rw [prefixesBody, find_byte_eq_none_iff.mpr opens, List.append_nil]

theorem gathers_prefixes_iff {prefixes : List Bytes} {depth : Nat} (absent : quote ∉ before)
    (noQuote : quote ∉ space)
    (gathers : Gathers prefixesBody (before ++ (spacing.separated depth
      (prefixes.map (stringText escaping)) ++ space)) strings) :
    strings = prefixes ↔ ∀ shared ∈ prefixes, escaping.escape shared = shared := by
  induction prefixes generalizing before strings with
  | nil =>
      have nothing : quote ∉ before ++ ([] ++ space) := by
        rw [List.nil_append, List.mem_append, not_or]
        exact ⟨absent, noQuote⟩
      rw [gathers.unique (gathers_nothing nothing)]
      simp
  | cons shared prefixes ih =>
      rcases Spacing.separated_next spacing depth (stringText escaping shared)
        (prefixes.map (stringText escaping)) with ⟨comma, gap, split⟩
      have absentNext : quote ∉ comma := fun mem =>
        (gap quote mem).elim (by decide) (by decide)
      rw [List.map_cons, split] at gathers
      by_cases inside : quote ∈ escaping.escape shared
      · -- The first quote in the string is taken for its end.
        rcases List.eq_append_cons_of_mem inside with ⟨read, more, isSplit, noQuoteRead⟩
        rcases exists_gathers_prefixes (more ++ quote :: (comma ++ (spacing.separated depth
          (prefixes.map (stringText escaping)) ++ space))) with ⟨later, gathersLater⟩
        have written : before ++ (stringText escaping shared ++ (comma ++ spacing.separated depth
            (prefixes.map (stringText escaping))) ++ space) = before ++ quote :: (read ++
              quote :: (more ++ quote :: (comma ++ (spacing.separated depth
                (prefixes.map (stringText escaping)) ++ space)))) := by
          simp [stringText, quoted, isSplit]
        rw [written] at gathers
        rw [gathers.unique (gathersLater.of_next (prefixesBody_string absent noQuoteRead _))]
        apply iff_of_false
        · intro same
          have isShared : read = shared := (List.cons.inj same).1
          exact JsonEscaping.quote_notMem_escape (isShared ▸ noQuoteRead) inside
        · intro kept
          have isKept := kept shared List.mem_cons_self
          rw [isKept] at inside
          exact (JsonEscaping.isLiteral_of_escape_eq isKept quote inside).2.1 rfl
      · rcases exists_gathers_prefixes (comma ++ (spacing.separated depth
          (prefixes.map (stringText escaping)) ++ space)) with ⟨later, gathersLater⟩
        have written : before ++ (stringText escaping shared ++ (comma ++ spacing.separated depth
            (prefixes.map (stringText escaping))) ++ space) = before ++ quote ::
              (escaping.escape shared ++ quote :: (comma ++ (spacing.separated depth
                (prefixes.map (stringText escaping)) ++ space))) := by
          simp [stringText, quoted]
        rw [written] at gathers
        rw [gathers.unique (gathersLater.of_next (prefixesBody_string absent inside _)),
          List.singleton_append, List.cons.injEq, ih absentNext gathersLater,
          List.forall_mem_cons]

end Prefixes

/-! ## Pages -/

theorem find_array {depth : Nat} {members : List (Bytes × Bytes)} {name : Bytes}
    {items : List Bytes}
    (plain : IsPlainName name) (noBracket : 0x5b ∉ quoted name)
    (found : members.lookup name = some (spacing.arrayText 1 items))
    (absent : ¬ quoted name <:+: spacing.passedText depth members name) : ∃ rest,
    (find (quoted name) (spacing.objectText depth members)).bind (find [0x5b]) =
      some (0x5b :: (spacing.content 1 items ++ 0x5d :: rest)) := by
  rcases Spacing.find_member plain found absent with ⟨rest, search⟩
  have noBracketBefore : 0x5b ∉ quoted name ++ 0x3a :: spacing.afterColon := by
    rw [List.mem_append, List.mem_cons, not_or, not_or]
    exact ⟨noBracket, by decide, notMem_of_space (by decide) spacing.afterColon_space⟩
  have bracket := find_byte noBracketBefore (spacing.content 1 items ++ 0x5d :: rest)
  refine ⟨rest, ?_⟩
  rw [search, Option.bind_some, ← bracket]
  simp [Spacing.arrayText]

namespace GcsPage

variable {page : GcsPage escaping spacing}

theorem parsePrefixes_text (clear : page.IsUnconfused) : ∃ strings enough,
    (∀ passes, enough ≤ passes → parsePrefixes passes page.text = some strings) ∧
      (strings = page.prefixes ↔ ∀ shared ∈ page.prefixes, escaping.escape shared = shared) := by
  have absent := clear.page_names (ascii "prefixes") (by decide)
  have member : page.members.lookup (ascii "prefixes") = if page.prefixes = [] then none else
      some (spacing.arrayText 1 (page.prefixes.map (stringText escaping))) :=
    page.written (_, _) (.tail _ (.head _))
  by_cases empty : page.prefixes = []
  · rw [if_pos empty] at member
    refine ⟨[], 0, fun passes _ => ?_, by simp [empty]⟩
    rw [parsePrefixes, text, Spacing.find_no_member member absent]
    rfl
  · rw [if_neg empty] at member
    rcases find_array (by decide) (by decide) member absent with ⟨rest, array⟩
    have noBracket : 0x5d ∉ spacing.content 1 (page.prefixes.map (stringText escaping)) := by
      apply Spacing.notMem_content (by decide) (by decide)
      intro item mem
      rcases List.mem_map.mp mem with ⟨shared, inside, rfl⟩
      have other : (0x5d : UInt8) ≠ quote := by decide
      simpa [stringText, quoted, other] using clear.brackets shared inside
    have closes : find [0x5d] (0x5b :: (spacing.content 1 (page.prefixes.map
        (stringText escaping)) ++ 0x5d :: rest)) = some (0x5d :: rest) := by
      have opening :
          0x5d ∉ 0x5b :: spacing.content 1 (page.prefixes.map (stringText escaping)) := by
        rw [List.mem_cons, not_or]
        exact ⟨by decide, noBracket⟩
      exact find_byte opening rest
    rcases exists_gathers_prefixes (spacing.content 1 (page.prefixes.map (stringText escaping)))
      with ⟨strings, gathers⟩
    have noQuote (depth : Nat) : quote ∉ spacing.line depth :=
      notMem_of_space (by decide) (spacing.line_space depth)
    have kept := gathers_prefixes_iff (noQuote 2) (noQuote 1) gathers
    rcases gathers with ⟨enough, exits⟩
    refine ⟨strings, enough, fun passes le => ?_, kept⟩
    rw [parsePrefixes, text, array]
    simp only [closes, List.tail_cons, takeWhile_ne_append_cons noBracket]
    exact exits passes le []

theorem nextPageToken_text (clear : page.IsUnconfused) :
    (extractJsonValue page.text (ascii "nextPageToken")).filter (· ≠ []) = page.nextPageToken ↔
      ∀ token ∈ page.nextPageToken, escaping.escape token = token := by
  have absent := clear.page_names (ascii "nextPageToken") (by decide)
  have member : page.members.lookup (ascii "nextPageToken") =
      page.nextPageToken.map (stringText escaping) := page.written (_, _) (.head _)
  rw [← (extract_optional (by decide) member absent).1, text]
  cases isToken : page.nextPageToken with
  | none =>
      rw [isToken] at member
      rw [extract_missing member absent]
      rfl
  | some token =>
      have filled : token ≠ [] := fun empty => page.nonempty (by rw [isToken, empty])
      rw [Option.filter_eq_some_iff]
      simp [filled]

theorem parseListResponse_text (mktime : Int → Int) (clear : page.IsUnconfused) : ∃ enough,
    ∀ passes, enough ≤ passes → parseListResponse mktime passes page.text =
      some (page.items.map (fun item => parseObjectMetadata mktime item.text),
        (extractJsonValue page.text (ascii "nextPageToken")).filter (· ≠ [])) := by
  have absent := clear.page_names (ascii "items") (by decide)
  have member : page.members.lookup (ascii "items") = if page.items = [] then none else
      some (spacing.arrayText 1 (page.items.map ListedItem.text)) :=
    page.written (_, _) (.tail _ (.tail _ (.head _)))
  by_cases empty : page.items = []
  · rw [if_pos empty] at member
    refine ⟨0, fun passes _ => ?_⟩
    rw [parseListResponse, text, Spacing.find_no_member member absent, empty]
    rfl
  · rw [if_neg empty] at member
    rcases find_array (by decide) (by decide) member absent with ⟨rest, array⟩
    have noBrace : 0x7b ∉ spacing.line 2 :=
      notMem_of_space (by decide) (spacing.line_space 2)
    rcases gathers_items mktime empty clear.braces noBrace 2 rest with ⟨enough, exits⟩
    refine ⟨enough, fun passes le => ?_⟩
    have ends := exits passes le []
    rw [parseListResponse, text, array]
    simp only [List.tail_cons, Spacing.content, List.append_assoc]
    rw [ends]
    rfl

theorem parseGcsListing_text (mktime : Int → Int) (clear : page.IsUnconfused) : ∃ read enough,
    (∀ passes, enough ≤ passes → parseGcsListing mktime passes page.text = some read) ∧
      (read = withoutMetadata page.listing ↔ page.IsKept ∧ page.IsTimely mktime) ∧
      (read = page.listing ↔ page.IsKept ∧ page.IsTimely mktime ∧ page.HasNoMetadata) := by
  rcases parseListResponse_text mktime clear with ⟨enoughObjects, readsObjects⟩
  rcases parsePrefixes_text clear with ⟨prefixes, enoughPrefixes, readsPrefixes, prefixes_iff⟩
  have token_iff := nextPageToken_text clear
  generalize (extractJsonValue page.text (ascii "nextPageToken")).filter (· ≠ []) = token at *
  have item_iff (item : ListedItem escaping spacing) (mem : item ∈ page.items) :=
    parseObjectMetadata_item mktime item (clear.item_names item mem)
  have whole_iff (item : ListedItem escaping spacing) (mem : item ∈ page.items) :=
    parseObjectMetadata_eq_shown_iff mktime item (clear.item_names item mem)
  refine ⟨⟨page.items.map fun item => parseObjectMetadata mktime item.text, prefixes,
    token.isSome, token, none⟩, max enoughObjects enoughPrefixes, ?_, ?_, ?_⟩
  · intro passes le
    rw [parseGcsListing, readsObjects passes (le_of_max_le_left le),
      readsPrefixes passes (le_of_max_le_right le)]
    rfl
  · rw [withoutMetadata, listing, ListObjectsResult.mk.injEq, List.map_map, List.map_inj_left,
      prefixes_iff, token_iff]
    constructor
    · rintro ⟨objects, shared, -, kept, -⟩
      exact ⟨⟨fun item mem => ((item_iff item mem).mp (objects item mem)).1, shared, kept⟩,
        fun item mem => ((item_iff item mem).mp (objects item mem)).2⟩
    · rintro ⟨⟨texts, shared, kept⟩, times⟩
      exact ⟨fun item mem => (item_iff item mem).mpr ⟨texts item mem, times item mem⟩, shared,
        congrArg Option.isSome (token_iff.mpr kept), kept, rfl⟩
  · rw [listing, ListObjectsResult.mk.injEq, List.map_inj_left, prefixes_iff, token_iff]
    constructor
    · rintro ⟨objects, shared, -, kept, -⟩
      exact ⟨⟨fun item mem => ((whole_iff item mem).mp (objects item mem)).1.1, shared, kept⟩,
        fun item mem => ((whole_iff item mem).mp (objects item mem)).1.2,
        fun item mem => ((whole_iff item mem).mp (objects item mem)).2⟩
    · rintro ⟨⟨texts, shared, kept⟩, times, nothing⟩
      exact ⟨fun item mem => (whole_iff item mem).mpr
          ⟨⟨texts item mem, times item mem⟩, nothing item mem⟩, shared,
        congrArg Option.isSome (token_iff.mpr kept), kept, rfl⟩

end GcsPage

/-! ## Termination -/

section Termination

variable (mktime : Int → Int)

theorem closeBrace_left (braceCount : Int) (text : Bytes) :
    (closeBrace braceCount text).2.1 <:+ text := by
  induction text generalizing braceCount with
  | nil => exact List.suffix_refl _
  | cons byte text ih =>
      rw [closeBrace]
      split
      · exact (ih (countBrace braceCount byte)).trans (List.suffix_cons _ _)
      · exact List.suffix_refl _

theorem exists_gathers_items (text : Bytes) :
    ∃ objects, Gathers (itemsBody mktime) text objects := by
  apply exists_gathers List.length
  intro text
  by_cases empty : text = []
  · exact .inl ⟨[], fun found => by rw [itemsBody, if_pos empty, List.append_nil]⟩
  cases search : find [0x7b] text with
  | none =>
      refine .inl ⟨[], fun found => ?_⟩
      simp only [itemsBody, if_neg empty, search, List.append_nil]
  | some fromBrace =>
      have shorter : (closeBrace 1 fromBrace.tail).2.1.length < text.length := by
        have starts := prefix_of_find search
        have left := (closeBrace_left 1 fromBrace.tail).length_le
        have brace := starts.1.length_le
        have inside := starts.2.length_le
        rw [List.length_singleton] at brace
        rw [List.length_tail] at left
        omega
      generalize closes : closeBrace 1 fromBrace.tail = closed at shorter
      rcases closed with ⟨passed, left, braceCount⟩
      have object : ∃ first, ∀ found, (if braceCount = 0 then
          found ++ [parseObjectMetadata mktime (0x7b :: passed)] else found) = found ++ first := by
        by_cases complete : braceCount = 0
        · exact ⟨_, fun found => if_pos complete⟩
        · exact ⟨[], fun found => by rw [if_neg complete, List.append_nil]⟩
      rcases object with ⟨first, appends⟩
      cases ends : endsArray left with
      | true =>
          refine .inl ⟨first, fun found => ?_⟩
          simp only [itemsBody, if_neg empty, search, closes, ends, appends, if_true]
      | false =>
          refine .inr ⟨left, first, shorter, fun found => ?_⟩
          simp only [itemsBody, if_neg empty, search, closes, ends, appends, Bool.false_eq_true,
            if_false]

theorem parseGcsListing_of_le {responseBody : Bytes} {passes more : Nat} (le : passes ≤ more)
    {result : ListObjectsResult}
    (reads : parseGcsListing mktime passes responseBody = some result) :
    parseGcsListing mktime more responseBody = some result := by
  rw [parseGcsListing] at reads ⊢
  rcases Option.bind_eq_some_iff.mp reads with ⟨⟨objects, token⟩, readsObjects, rest⟩
  rcases Option.bind_eq_some_iff.mp rest with ⟨prefixes, readsPrefixes, same⟩
  have alsoObjects : parseListResponse mktime more responseBody = some (objects, token) := by
    rw [parseListResponse] at readsObjects ⊢
    cases array : (find (quoted (ascii "items")) responseBody).bind (find [0x5b]) with
    | none => rwa [array] at readsObjects
    | some fromArray =>
        rw [array] at readsObjects
        rcases Option.map_eq_some_iff.mp readsObjects with ⟨found, exits, same⟩
        exact Option.map_eq_some_iff.mpr ⟨found, loop_of_le le exits, same⟩
  have alsoPrefixes : parsePrefixes more responseBody = some prefixes := by
    rw [parsePrefixes] at readsPrefixes ⊢
    cases array : (find (quoted (ascii "prefixes")) responseBody).bind (find [0x5b]) with
    | none => rwa [array] at readsPrefixes
    | some fromArray =>
        rw [array] at readsPrefixes
        dsimp only at readsPrefixes ⊢
        cases closes : find [0x5d] fromArray with
        | none => rwa [closes] at readsPrefixes
        | some fromEnd =>
            rw [closes] at readsPrefixes
            exact loop_of_le le readsPrefixes
  exact Option.bind_eq_some_iff.mpr
    ⟨_, alsoObjects, Option.bind_eq_some_iff.mpr ⟨prefixes, alsoPrefixes, same⟩⟩

theorem exists_parseGcsListing (responseBody : Bytes) : ∃ enough result,
    ∀ passes, enough ≤ passes → parseGcsListing mktime passes responseBody = some result := by
  have objects : ∃ enough result, ∀ passes, enough ≤ passes →
      parseListResponse mktime passes responseBody = some result := by
    simp only [parseListResponse]
    cases (find (quoted (ascii "items")) responseBody).bind (find [0x5b]) with
    | none => exact ⟨0, _, fun _ _ => rfl⟩
    | some fromArray =>
        rcases exists_gathers_items mktime fromArray.tail with ⟨objects, enough, exits⟩
        refine ⟨enough, ([] ++ objects,
          (extractJsonValue responseBody (ascii "nextPageToken")).filter (· ≠ [])), ?_⟩
        intro passes le
        dsimp only
        rw [exits passes le []]
        rfl
  have prefixes : ∃ enough result, ∀ passes, enough ≤ passes →
      parsePrefixes passes responseBody = some result := by
    simp only [parsePrefixes]
    cases (find (quoted (ascii "prefixes")) responseBody).bind (find [0x5b]) with
    | none => exact ⟨0, _, fun _ _ => rfl⟩
    | some fromArray =>
        dsimp only
        cases find [0x5d] fromArray with
        | none => exact ⟨0, _, fun _ _ => rfl⟩
        | some fromEnd =>
            rcases exists_gathers_prefixes (fromArray.tail.takeWhile (· != 0x5d)) with
              ⟨strings, enough, exits⟩
            exact ⟨enough, _, fun passes le => exits passes le []⟩
  rcases objects with ⟨enoughObjects, ⟨objects, token⟩, readsObjects⟩
  rcases prefixes with ⟨enoughPrefixes, prefixes, readsPrefixes⟩
  refine ⟨max enoughObjects enoughPrefixes, ⟨objects, prefixes, token.isSome, token, none⟩,
    fun passes le => ?_⟩
  rw [parseGcsListing, readsObjects passes (le_of_max_le_left le),
    readsPrefixes passes (le_of_max_le_right le)]
  rfl

end Termination

theorem GcsLister.exists_listObjects (storage : GcsLister) (options : ListObjectsOptions) :
    ∃ enough result, ∀ passes, enough ≤ passes →
      storage.listObjects passes options = some result := by
  by_cases connected : storage.requester.connected = true
  · cases authorized : storage.requester.authorization with
    | error failure =>
        refine ⟨0, .error failure, fun passes _ => ?_⟩
        simp only [GcsLister.listObjects, connected, not_true, if_false, authorized]
    | ok authorization =>
        simp only [GcsLister.listObjects, connected, not_true, if_false, authorized]
        generalize storage.httpClient _ = answer
        rcases answer with failure | response
        · exact ⟨0, _, fun _ _ => rfl⟩
        · rcases exists_parseGcsListing storage.mktime response.body with ⟨enough, result, reads⟩
          by_cases accepted : response.statusCode = 200
          · refine ⟨enough, .ok result, fun passes le => ?_⟩
            simp only [accepted, ne_eq, not_true, if_false, reads passes le]
            rfl
          · simp only [ne_eq, accepted, not_false_eq_true, if_true]
            exact ⟨0, _, fun _ _ => rfl⟩
  · refine ⟨0, unexpected .notInitialized "Not connected", fun passes _ => ?_⟩
    rw [GcsLister.listObjects, if_pos connected]

/-! ## What comes back -/

/-- The client, connected and with a token, returns this listing for the page. -/
def GcsReturns (page : GcsPage escaping spacing) (requester : GcsRequester) (authorization : Bytes)
    (mktime : Int → Int) (options : ListObjectsOptions) (listing : ListObjectsResult) : Prop :=
  ∃ enough, ∀ passes, enough ≤ passes →
    GcsLister.listObjects passes
      { requester := { requester with connected := true, authorization := .ok authorization }
        httpClient := fun _ => .ok ⟨200, page.text⟩
        mktime := mktime } options = some (.ok listing)

theorem gcsReturns_iff {page : GcsPage escaping spacing} {requester : GcsRequester}
    {authorization : Bytes} {mktime : Int → Int} {options : ListObjectsOptions}
    {read listing : ListObjectsResult} {enough : Nat}
    (reads : ∀ passes, enough ≤ passes → parseGcsListing mktime passes page.text = some read) :
    GcsReturns page requester authorization mktime options listing ↔ read = listing := by
  have returns (passes : Nat) (le : enough ≤ passes) : GcsLister.listObjects passes
      { requester := { requester with connected := true, authorization := .ok authorization }
        httpClient := fun _ => .ok ⟨200, page.text⟩
        mktime := mktime } options = some (.ok read) := by
    simp [GcsLister.listObjects, reads passes le]
  constructor
  · rintro ⟨other, also⟩
    have one := returns (max enough other) (Nat.le_max_left _ _)
    rw [also _ (Nat.le_max_right _ _), Option.some.injEq, Except.ok.injEq] at one
    exact one.symm
  · rintro rfl
    exact ⟨enough, returns⟩

/-- `list_objects` always returns; and where no search is confused, it returns a page exactly if its
texts are kept and its times are read, but for the custom metadata. -/
theorem gcsListing_returned_iff (storage : GcsLister) (escaping : JsonEscaping) (spacing : Spacing)
    (page : GcsPage escaping spacing) (requester : GcsRequester) (authorization : Bytes)
    (mktime : Int → Int) (options : ListObjectsOptions) (clear : page.IsUnconfused) :
    (∃ enough result, ∀ passes, enough ≤ passes →
      storage.listObjects passes options = some result) ∧
    (GcsReturns page requester authorization mktime options (withoutMetadata page.listing) ↔
      page.IsKept ∧ page.IsTimely mktime) ∧
    (GcsReturns page requester authorization mktime options page.listing ↔
      page.IsKept ∧ page.IsTimely mktime ∧ page.HasNoMetadata) := by
  refine ⟨storage.exists_listObjects options, ?_⟩
  rcases GcsPage.parseGcsListing_text mktime clear with ⟨read, enough, reads, most, whole⟩
  rw [gcsReturns_iff reads, gcsReturns_iff reads]
  exact ⟨most, whole⟩

/-! ## A page with one object -/

namespace GcsSample

/-- An object with this name and this entry of custom metadata. -/
def object (key : String) (entry : Option (Bytes × Bytes)) : GcsObject where
  key := ascii key
  size := 1
  etag := ascii "e"
  modified := PageSample.epoch
  storageClass := some (ascii "STANDARD")
  contentType := none
  millis := 0
  millis_lt := by decide
  customMetadata := entry.toList

/-- The object with its custom metadata in front of the other members. -/
def item (key : String) (entry : Option (Bytes × Bytes)) : ListedItem .standard .compact where
  object := object key entry
  members := ((object key entry).fields .standard .compact).reverse.filterMap fun field =>
    field.2.map fun raw => (field.1, raw)
  written := by
    simp only [GcsObject.fields, List.forall_mem_cons]
    cases entry with
    | none => exact ⟨rfl, rfl, rfl, rfl, rfl, rfl, rfl, nofun⟩
    | some pair => exact ⟨rfl, rfl, rfl, rfl, rfl, rfl, rfl, nofun⟩

def page (key : String) (entry : Option (Bytes × Bytes)) : GcsPage .standard .compact where
  items := [item key entry]
  prefixes := []
  nextPageToken := none
  nonempty := (Option.some_ne_none []).symm
  members := [(ascii "items", Spacing.compact.arrayText 1 [(item key entry).text])]
  written := by
    simp only [GcsListing.fields, List.forall_mem_cons]
    exact ⟨rfl, rfl, rfl, nofun⟩

/-- A requester that `GcsReturns` connects. -/
def requester : GcsRequester :=
  ⟨true, none, ascii "bucket", .ok []⟩

theorem isUnconfused_plain : (page "ab" none).IsUnconfused where
  page_names := by decide +kernel
  item_names := by decide +kernel
  braces := by decide +kernel
  brackets := nofun

theorem isUnconfused_quote : (page "a\"b" none).IsUnconfused where
  page_names := by decide +kernel
  item_names := by decide +kernel
  braces := by decide +kernel
  brackets := nofun

theorem parse_metadata_name : parseGcsListing id 1 (page "ab" (ascii "name", ascii "x")).text =
    some ⟨[{ CloudObjectMetadata.default with
      key := ascii "x"
      size := 1
      etag := ascii "e"
      storageClass := some (ascii "STANDARD") }], [], false, none, none⟩ := by
  decide +kernel

end GcsSample

open GcsSample in
/-- The object `ab` comes back where the clock shows UTC. -/
theorem plain_returned :
    GcsReturns (page "ab" none) requester [] id .default (page "ab" none).listing := by
  have kept : (page "ab" none).IsKept := by
    refine ⟨List.forall_mem_singleton.mpr ⟨by decide, by decide, nofun, ?_⟩, nofun, nofun⟩
    rintro text ⟨⟩
    decide
  have timely : (page "ab" none).IsTimely id := List.forall_mem_singleton.mpr ⟨rfl, rfl⟩
  have nothing : (page "ab" none).HasNoMetadata := List.forall_mem_singleton.mpr rfl
  exact (gcsListing_returned_iff ⟨requester, fun _ => .ok ⟨200, []⟩, id⟩ .standard .compact
    (page "ab" none) requester [] id .default isUnconfused_plain).2.2.mpr ⟨kept, timely, nothing⟩

open GcsSample in
/-- The quote in `a"b` comes back with its backslash, and an entry `name` of the custom metadata as
the name of the object. -/
theorem quote_not_returned :
    ¬ GcsReturns (page "a\"b" none) requester [] id .default (page "a\"b" none).listing ∧
    ¬ GcsReturns (page "ab" (ascii "name", ascii "x")) requester [] id .default
      (withoutMetadata (page "ab" (ascii "name", ascii "x")).listing) := by
  constructor
  · rcases GcsPage.parseGcsListing_text id isUnconfused_quote with ⟨read, enough, reads, -, whole⟩
    rw [gcsReturns_iff reads, whole]
    rintro ⟨⟨texts, -⟩, -⟩
    exact absurd (texts _ List.mem_cons_self).1 (by decide)
  · rw [gcsReturns_iff fun passes le => parseGcsListing_of_le id le parse_metadata_name]
    decide

end FileTrans.Cloud
