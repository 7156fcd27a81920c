import FileTrans.Cloud.HttpRequests
import FileTrans.Text.JsonLiterals
import FileTrans.Text.PercentEncoding

/-!
# JSON bodies of requests to Google Cloud Storage

The requests that compose and copy objects have JSON bodies, which are put
together from the names and the content type as they are.  A body is decoded to
these names and this content type exactly if none of them has to be escaped.
-/

namespace FileTrans.Cloud

open FileTrans.Core
open FileTrans.Text

/-! ## Requests -/

/-- `gcs_storage`, as far as it makes these requests: whether it is connected, where it sends them,
and the value of `Authorization` that `get_auth_headers` finds. -/
structure GcsRequester where
  connected : Bool
  endpoint : Option Bytes
  bucket : Bytes
  authorization : Result Bytes

/-- An object with the name of a source. -/
def sourceObject (sourceKey : Bytes) : Bytes :=
  ascii "\x7b\"name\":\"" ++ sourceKey ++ ascii "\"\x7d"

/-- The source objects, with commas between them. -/
def sourceObjects : List Bytes → Bytes
  | [] => []
  | sourceKey :: rest =>
      sourceObject sourceKey ++ rest.flatMap fun sourceKey => ascii "," ++ sourceObject sourceKey

/-- The body that `compose_objects` sends. -/
def composeBody (sourceKeys : List Bytes) (contentType : Option Bytes) : Bytes :=
  ascii "\x7b\"sourceObjects\":[" ++ sourceObjects sourceKeys ++ ascii "],\"destination\":\x7b" ++
    contentType.elim [] (fun text => ascii "\"contentType\":\"" ++ text ++ ascii "\"") ++
    ascii "\x7d\x7d"

/-- The body that `copy_object` sends. -/
def copyBody (contentType : Option Bytes) : Bytes :=
  contentType.elim (ascii "\x7b\x7d") fun text =>
    ascii "\x7b\"contentType\":\"" ++ text ++ ascii "\"\x7d"

namespace GcsRequester

variable (requester : GcsRequester)

def getStorageEndpoint : Bytes :=
  requester.endpoint.getD (ascii "https://storage.googleapis.com")

/-- A `POST` of a JSON document. -/
def postJson (path body : Bytes) : Result SentRequest :=
  requester.authorization.map fun authorization =>
    { method := ascii "POST"
      url := requester.getStorageEndpoint ++ path
      headers := [(ascii "Content-Type", ascii "application/json")]
      body := body
      authorization := authorization }

def objectPath (key : Bytes) : Bytes :=
  ascii "/b/" ++ requester.bucket ++ ascii "/o/" ++ urlEncode true key

/-- The request of `compose_objects`, or why it makes none. -/
def composeObjects (sourceKeys : List Bytes) (destKey : Bytes) (contentType : Option Bytes) :
    Result SentRequest :=
  if ¬ requester.connected then unexpected .notInitialized "Not connected"
  else if sourceKeys = [] then unexpected .internalError "No source objects provided"
  else if 32 < sourceKeys.length then
    unexpected .internalError "Maximum 32 objects can be composed"
  else requester.postJson
    (ascii "/storage/v1" ++ requester.objectPath destKey ++ ascii "/compose")
    (composeBody sourceKeys contentType)

/-- The request of `copy_object`, or why it makes none. -/
def copyObject (sourceKey destKey : Bytes) (contentType : Option Bytes) : Result SentRequest :=
  if ¬ requester.connected then unexpected .notInitialized "Not connected"
  else requester.postJson
    (ascii "/storage/v1" ++ requester.objectPath sourceKey ++ ascii "/copyTo" ++
      requester.objectPath destKey)
    (copyBody contentType)

/-- The storage is connected and has a token. -/
def Ready : Prop :=
  requester.connected = true ∧ ∃ authorization, requester.authorization = .ok authorization

end GcsRequester

/-! ## Their bodies -/

/-- An object with the name of a source, as a value. -/
def sourceValue (sourceKey : Bytes) : Json :=
  .object [(ascii "name", .string sourceKey)]

/-- What `compose_objects` means to ask for. -/
def composeValue (sourceKeys : List Bytes) (contentType : Option Bytes) : Json :=
  .object [(ascii "sourceObjects", .array (sourceKeys.map sourceValue)),
    (ascii "destination", .object (contentType.elim [] fun text =>
      [(ascii "contentType", .string text)]))]

/-- What `copy_object` means to ask for. -/
def copyValue (contentType : Option Bytes) : Json :=
  .object (contentType.elim [] fun text => [(ascii "contentType", .string text)])

/-- A text of whole characters of which none has to be escaped. -/
def IsUnescaped (text : Bytes) : Prop :=
  IsLiteral text ∧ ValidUtf8 text

instance (text : Bytes) : Decidable (IsUnescaped text) :=
  inferInstanceAs (Decidable (_ ∧ _))

section

variable {depth : Nat} {text rest after : Bytes}

theorem sourceObject_eq (sourceKey : Bytes) :
    sourceObject sourceKey = stringObject (ascii "name") sourceKey := by
  have opening : ascii "\x7b\"name\":\"" = 0x7b :: (quoted (ascii "name") ++ [0x3a, quote]) := rfl
  have closing : ascii "\"\x7d" = [quote, 0x7d] := rfl
  rw [sourceObject, opening, closing]
  simp [stringObject, quoted]

variable {sourceKey : Bytes} {sourceKeys : List Bytes} {contentType : Option Bytes}

theorem jsonValue_sourceObject_eq_iff (deep : 3 ≤ depth) :
    jsonValue depth (sourceObject sourceKey ++ rest) = some (sourceValue sourceKey, after) ↔
      IsLiteral sourceKey ∧ after = rest := by
  rw [sourceObject_eq]
  exact jsonValue_stringObject_eq_iff (by decide) deep

theorem jsonValue_sourceObject (literal : IsLiteral sourceKey) (deep : 3 ≤ depth) (rest : Bytes) :
    jsonValue depth (sourceObject sourceKey ++ rest) = some (sourceValue sourceKey, rest) :=
  (jsonValue_sourceObject_eq_iff deep).mpr ⟨literal, rfl⟩

theorem jsonItems_sourceObjects_eq_iff (deep : sourceKeys.length + 4 ≤ depth) :
    jsonItems depth (sourceObjects (sourceKey :: sourceKeys) ++ 0x5d :: rest) =
        some ((sourceKey :: sourceKeys).map sourceValue, after) ↔
      (∀ key ∈ sourceKey :: sourceKeys, IsLiteral key) ∧ after = rest := by
  obtain ⟨depth, rfl⟩ : ∃ less, depth = less + 1 := ⟨depth - 1, by omega⟩
  have deepValue : 3 ≤ depth := by omega
  induction sourceKeys generalizing sourceKey depth with
  | nil =>
      have text : sourceObjects [sourceKey] ++ 0x5d :: rest =
          sourceObject sourceKey ++ 0x5d :: rest := by simp [sourceObjects]
      rw [text, List.forall_mem_singleton]
      constructor
      · intro reads
        rcases jsonItems_head reads with ⟨left, first⟩
        rcases (jsonValue_sourceObject_eq_iff deepValue).mp first with ⟨literal, rfl⟩
        rw [jsonItems_bracket first] at reads
        cases reads
        exact ⟨literal, rfl⟩
      · rintro ⟨literal, rfl⟩
        exact jsonItems_bracket (jsonValue_sourceObject literal deepValue _)
  | cons next sourceKeys ih =>
      have text : sourceObjects (sourceKey :: next :: sourceKeys) ++ 0x5d :: rest =
          sourceObject sourceKey ++
            0x2c :: (sourceObjects (next :: sourceKeys) ++ 0x5d :: rest) := by
        have comma : ascii "," = [0x2c] := rfl
        simp [sourceObjects, comma]
      obtain ⟨less, rfl⟩ : ∃ less, depth = less + 1 := ⟨depth - 1, by omega⟩
      rw [List.length_cons] at deep
      have later : jsonItems (less + 1) (sourceObjects (next :: sourceKeys) ++ 0x5d :: rest) =
          some ((next :: sourceKeys).map sourceValue, after) ↔
            (∀ key ∈ next :: sourceKeys, IsLiteral key) ∧ after = rest :=
        ih less (by omega) (by omega)
      rw [text, List.forall_mem_cons, and_assoc, ← later, List.map_cons]
      constructor
      · intro reads
        rcases jsonItems_head reads with ⟨left, first⟩
        rcases (jsonValue_sourceObject_eq_iff deepValue).mp first with ⟨literal, rfl⟩
        rw [jsonItems_comma first] at reads
        rcases Option.map_eq_some_iff.mp reads with ⟨⟨items, rest⟩, tail, same⟩
        cases same
        exact ⟨literal, tail⟩
      · rintro ⟨literal, tail⟩
        rw [jsonItems_comma (jsonValue_sourceObject literal deepValue _), tail]
        rfl

/-- The destination of a composition. -/
def destination (contentType : Option Bytes) : Bytes :=
  ascii "\x7b" ++
    contentType.elim [] (fun text => ascii "\"contentType\":\"" ++ text ++ ascii "\"") ++
    ascii "\x7d"

theorem jsonValue_destination_eq_iff (deep : 3 ≤ depth) :
    jsonValue depth (destination contentType ++ rest) =
        some (.object (contentType.elim [] fun text => [(ascii "contentType", .string text)]),
          after) ↔ (∀ text ∈ contentType, IsLiteral text) ∧ after = rest := by
  cases contentType with
  | none =>
      obtain ⟨depth, rfl⟩ := Nat.exists_eq_add_of_le' deep
      have written : destination none ++ rest = 0x7b :: 0x7d :: rest := rfl
      rw [written, jsonValue_emptyObject]
      simp [eq_comm]
  | some text =>
      have written : destination (some text) = stringObject (ascii "contentType") text := by
        have opening : ascii "\"contentType\":\"" = quoted (ascii "contentType") ++ [0x3a, quote] :=
          rfl
        have braces : ascii "\x7b" = [0x7b] ∧ ascii "\x7d" = [0x7d] ∧ ascii "\"" = [quote] :=
          ⟨rfl, rfl, rfl⟩
        simp [destination, stringObject, quoted, opening, braces]
      rw [written]
      simpa using jsonValue_stringObject_eq_iff (by decide) deep

theorem jsonValue_sources_eq_iff (deep : sourceKeys.length + 5 ≤ depth) :
    jsonValue depth (0x5b :: (sourceObjects (sourceKey :: sourceKeys) ++ 0x5d :: rest)) =
        some (.array ((sourceKey :: sourceKeys).map sourceValue), after) ↔
      (∀ key ∈ sourceKey :: sourceKeys, IsLiteral key) ∧ after = rest := by
  obtain ⟨depth, rfl⟩ : ∃ less, depth = less + 1 := ⟨depth - 1, by omega⟩
  have first : sourceObjects (sourceKey :: sourceKeys) ++ 0x5d :: rest =
      0x7b :: (sourceObjects (sourceKey :: sourceKeys) ++ 0x5d :: rest).tail := rfl
  rw [first, jsonValue_array rfl (by decide), ← first, ← jsonItems_sourceObjects_eq_iff
    (Nat.le_of_succ_le_succ deep)]
  cases jsonItems depth (sourceObjects (sourceKey :: sourceKeys) ++ 0x5d :: rest) with
  | none => simp
  | some read => simp [Prod.ext_iff]

theorem composeBody_eq (sourceKeys : List Bytes) (contentType : Option Bytes) :
    composeBody sourceKeys contentType =
      0x7b :: (quoted (ascii "sourceObjects") ++ 0x3a :: 0x5b :: (sourceObjects sourceKeys ++
        0x5d :: 0x2c :: (quoted (ascii "destination") ++ 0x3a ::
          (destination contentType ++ [0x7d])))) := by
  have opening : ascii "\x7b\"sourceObjects\":[" =
      0x7b :: (quoted (ascii "sourceObjects") ++ [0x3a, 0x5b]) := rfl
  have middle : ascii "],\"destination\":\x7b" =
      0x5d :: 0x2c :: (quoted (ascii "destination") ++ 0x3a :: ascii "\x7b") := rfl
  have closing : ascii "\x7d\x7d" = ascii "\x7d" ++ [0x7d] := rfl
  simp [composeBody, destination, opening, middle, closing]

theorem jsonValue_composeBody_eq_iff (deep : sourceKeys.length + 8 ≤ depth) :
    jsonValue depth (composeBody (sourceKey :: sourceKeys) contentType) =
        some (composeValue (sourceKey :: sourceKeys) contentType, after) ↔
      ((∀ key ∈ sourceKey :: sourceKeys, IsLiteral key) ∧ ∀ text ∈ contentType, IsLiteral text) ∧
        after = [] := by
  obtain ⟨depth, rfl⟩ : ∃ less, depth = less + 3 := ⟨depth - 3, by omega⟩
  have deepKeys : sourceKeys.length + 5 ≤ depth + 1 := by omega
  have deepText : 3 ≤ depth := by omega
  have sources : IsLiteral (ascii "sourceObjects") := by decide
  have target : IsLiteral (ascii "destination") := by decide
  rw [composeBody_eq, jsonValue_object]
  constructor
  · intro whole
    rcases Option.map_eq_some_iff.mp whole with ⟨⟨members, later⟩, reads, same⟩
    cases same
    rcases jsonMembers_head sources reads with ⟨left, first⟩
    rcases (jsonValue_sources_eq_iff deepKeys).mp first with ⟨keys, rfl⟩
    rw [jsonMembers_comma sources first] at reads
    rcases Option.map_eq_some_iff.mp reads with ⟨⟨members, rest⟩, tail, same⟩
    cases same
    rcases jsonMembers_head target tail with ⟨left, second⟩
    rcases (jsonValue_destination_eq_iff deepText).mp second with ⟨text, rfl⟩
    rw [jsonMembers_brace target second] at tail
    cases tail
    exact ⟨⟨keys, text⟩, rfl⟩
  · rintro ⟨⟨keys, text⟩, rfl⟩
    have second : jsonMembers (depth + 1) (quoted (ascii "destination") ++ 0x3a ::
        (destination contentType ++ [0x7d])) = _ :=
      jsonMembers_brace target ((jsonValue_destination_eq_iff deepText).mpr ⟨text, rfl⟩)
    have first : jsonValue (depth + 1) (0x5b :: (sourceObjects (sourceKey :: sourceKeys) ++
        0x5d :: 0x2c :: (quoted (ascii "destination") ++ 0x3a ::
          (destination contentType ++ [0x7d])))) = _ :=
      (jsonValue_sources_eq_iff deepKeys).mpr ⟨keys, rfl⟩
    rw [jsonMembers_comma sources first, second]
    rfl

/-! ### UTF-8 -/

theorem validUtf8_sourceObject_append_iff :
    ValidUtf8 (sourceObject sourceKey ++ rest) ↔ ValidUtf8 sourceKey ∧ ValidUtf8 rest := by
  have written : sourceObject sourceKey ++ rest =
      ascii "\x7b\"name\":\"" ++ (sourceKey ++ quote :: 0x7d :: rest) := by
    have closing : ascii "\"\x7d" = [quote, 0x7d] := rfl
    simp [sourceObject, closing]
  rw [written, validUtf8_append_iff (by decide), validUtf8_append_cons_iff (by decide),
    validUtf8_cons_iff (by decide)]

theorem validUtf8_sourceObjects_append_iff :
    ValidUtf8 (sourceObjects sourceKeys ++ rest) ↔
      (∀ key ∈ sourceKeys, ValidUtf8 key) ∧ ValidUtf8 rest := by
  have later (sourceKeys : List Bytes) : ValidUtf8 ((sourceKeys.flatMap fun sourceKey =>
      ascii "," ++ sourceObject sourceKey) ++ rest) ↔
        (∀ key ∈ sourceKeys, ValidUtf8 key) ∧ ValidUtf8 rest := by
    induction sourceKeys with
    | nil => simp
    | cons sourceKey sourceKeys ih =>
        rw [List.flatMap_cons, List.append_assoc, List.append_assoc,
          validUtf8_append_iff (by decide), validUtf8_sourceObject_append_iff, ih,
          List.forall_mem_cons, and_assoc]
  cases sourceKeys with
  | nil => simp [sourceObjects]
  | cons sourceKey sourceKeys =>
      rw [sourceObjects, List.append_assoc, validUtf8_sourceObject_append_iff, later,
        List.forall_mem_cons, and_assoc]

theorem validUtf8_contentType_iff {before : Bytes} {byte : UInt8}
    (opening : ∀ byte ∈ before, byte < 0x80) (closing : byte < 0x80)
    (ends : ∀ byte ∈ after, byte < 0x80) :
    ValidUtf8 (contentType.elim [] (fun text => before ++ text ++ [byte]) ++ after) ↔
      ∀ text ∈ contentType, ValidUtf8 text := by
  have last : ValidUtf8 after := by
    have whole : ValidUtf8 (after ++ []) ↔ ValidUtf8 [] := validUtf8_append_iff ends
    rw [List.append_nil] at whole
    exact whole.mpr rfl
  cases contentType with
  | none => simpa using last
  | some text =>
      have written : before ++ text ++ [byte] ++ after = before ++ (text ++ byte :: after) := by
        simp
      rw [Option.elim_some, written, validUtf8_append_iff opening,
        validUtf8_append_cons_iff closing]
      simp [last]

theorem validUtf8_composeBody_iff :
    ValidUtf8 (composeBody sourceKeys contentType) ↔
      (∀ key ∈ sourceKeys, ValidUtf8 key) ∧ ∀ text ∈ contentType, ValidUtf8 text := by
  rw [composeBody, List.append_assoc, List.append_assoc, List.append_assoc,
    validUtf8_append_iff (by decide), validUtf8_sourceObjects_append_iff,
    validUtf8_append_iff (by decide)]
  exact and_congr_right fun _ =>
    validUtf8_contentType_iff (by decide) (by decide) (by decide)

theorem copyBody_eq (contentType : Option Bytes) :
    copyBody contentType = destination contentType := by
  cases contentType with
  | none => rfl
  | some text =>
      have opening : ascii "\x7b\"contentType\":\"" = ascii "\x7b" ++ ascii "\"contentType\":\"" :=
        rfl
      have closing : ascii "\"\x7d" = ascii "\"" ++ ascii "\x7d" := rfl
      simp [copyBody, destination, opening, closing]

theorem validUtf8_copyBody_iff :
    ValidUtf8 (copyBody contentType) ↔ ∀ text ∈ contentType, ValidUtf8 text := by
  rw [copyBody_eq, destination, List.append_assoc, validUtf8_append_iff (by decide)]
  exact validUtf8_contentType_iff (by decide) (by decide) (by decide)

/-! ### Whole documents -/

theorem length_le_sourceObjects (sourceKeys : List Bytes) :
    sourceKeys.length ≤ (sourceObjects sourceKeys).length := by
  have later (sourceKeys : List Bytes) : sourceKeys.length ≤ (sourceKeys.flatMap fun sourceKey =>
      ascii "," ++ sourceObject sourceKey).length := by
    induction sourceKeys with
    | nil => exact le_rfl
    | cons sourceKey sourceKeys ih =>
        have comma : (ascii ",").length = 1 := rfl
        rw [List.flatMap_cons, List.length_append, List.length_append, comma, List.length_cons]
        omega
  cases sourceKeys with
  | nil => exact le_rfl
  | cons sourceKey sourceKeys =>
      have first : 0 < (sourceObject sourceKey).length := by
        rw [sourceObject_eq, stringObject, List.length_cons]
        exact Nat.succ_pos _
      have rest := later sourceKeys
      rw [sourceObjects, List.length_append, List.length_cons]
      omega

theorem decodeJson_composeBody_iff (nonempty : sourceKeys ≠ []) :
    decodeJson (composeBody sourceKeys contentType) = some (composeValue sourceKeys contentType) ↔
      (∀ key ∈ sourceKeys, IsUnescaped key) ∧ ∀ text ∈ contentType, IsUnescaped text := by
  obtain ⟨sourceKey, sourceKeys, rfl⟩ := List.exists_cons_of_ne_nil nonempty
  have long := length_le_sourceObjects (sourceKey :: sourceKeys)
  have deep : sourceKeys.length + 8 ≤
      2 * (composeBody (sourceKey :: sourceKeys) contentType).length + 1 := by
    rw [composeBody_eq]
    simp only [List.length_cons, List.length_append] at long ⊢
    omega
  rw [decodeJson_eq_some_iff, validUtf8_composeBody_iff]
  simp only [jsonValue_composeBody_eq_iff deep, IsUnescaped, forall₂_and]
  constructor
  · rintro ⟨⟨validKeys, validText⟩, rest, ⟨⟨keys, text⟩, -⟩, -⟩
    exact ⟨⟨keys, validKeys⟩, text, validText⟩
  · rintro ⟨⟨keys, validKeys⟩, text, validText⟩
    exact ⟨⟨validKeys, validText⟩, [], ⟨⟨keys, text⟩, rfl⟩, rfl⟩

theorem decodeJson_copyBody_iff :
    decodeJson (copyBody contentType) = some (copyValue contentType) ↔
      ∀ text ∈ contentType, IsUnescaped text := by
  have deep : 3 ≤ 2 * (copyBody contentType).length + 1 := by
    cases contentType <;> simp [copyBody, ascii]
  have whole : copyBody contentType = destination contentType ++ [] := by
    rw [copyBody_eq, List.append_nil]
  have reads (after : Bytes) : jsonValue (2 * (copyBody contentType).length + 1)
      (copyBody contentType) = some (copyValue contentType, after) ↔
        (∀ text ∈ contentType, IsLiteral text) ∧ after = [] := by
    generalize 2 * (copyBody contentType).length + 1 = depth at deep
    rw [whole]
    exact jsonValue_destination_eq_iff deep
  rw [decodeJson_eq_some_iff, validUtf8_copyBody_iff]
  simp only [reads, IsUnescaped, forall₂_and]
  constructor
  · rintro ⟨valid, rest, ⟨text, -⟩, -⟩
    exact ⟨text, valid⟩
  · rintro ⟨text, valid⟩
    exact ⟨valid, [], ⟨text, rfl⟩, rfl⟩

end

/-! ## What is sent -/

namespace GcsRequester

variable (requester : GcsRequester)

/-- The body of a composition, if it is sent, means these sources and this content type. -/
def ComposesAsMeant (sourceKeys : List Bytes) (destKey : Bytes) (contentType : Option Bytes) :
    Prop :=
  ∀ request, requester.composeObjects sourceKeys destKey contentType = .ok request →
    decodeJson request.body = some (composeValue sourceKeys contentType)

/-- The body of a copy, if it is sent, means this content type. -/
def CopiesAsMeant (sourceKey destKey : Bytes) (contentType : Option Bytes) : Prop :=
  ∀ request, requester.copyObject sourceKey destKey contentType = .ok request →
    decodeJson request.body = some (copyValue contentType)

variable {requester}

theorem forall_postJson_iff (property : Bytes → Prop) {path body : Bytes} :
    (∀ request, requester.postJson path body = .ok request → property request.body) ↔
      ((∃ authorization, requester.authorization = .ok authorization) → property body) := by
  unfold postJson
  cases requester.authorization with
  | error failure => simp [Except.map]
  | ok authorization => simp [Except.map]

theorem composesAsMeant_iff {sourceKeys : List Bytes} {destKey : Bytes}
    {contentType : Option Bytes} :
    requester.ComposesAsMeant sourceKeys destKey contentType ↔
      (requester.Ready ∧ 1 ≤ sourceKeys.length ∧ sourceKeys.length ≤ 32 →
        (∀ key ∈ sourceKeys, IsUnescaped key) ∧ ∀ text ∈ contentType, IsUnescaped text) := by
  unfold ComposesAsMeant composeObjects Ready
  split_ifs with online nothing many
  · simp [unexpected, nothing]
  · have tooMany : ¬ sourceKeys.length ≤ 32 := Nat.not_le.mpr many
    simp [unexpected, tooMany]
  · have filled : 1 ≤ sourceKeys.length := List.length_pos_iff.mpr nothing
    refine (forall_postJson_iff fun body => decodeJson body =
      some (composeValue sourceKeys contentType)).trans ?_
    rw [decodeJson_composeBody_iff nothing]
    simp [online, filled, Nat.not_lt.mp many]
  · simp [unexpected, online]

theorem copiesAsMeant_iff {sourceKey destKey : Bytes} {contentType : Option Bytes} :
    requester.CopiesAsMeant sourceKey destKey contentType ↔
      (requester.Ready → ∀ text ∈ contentType, IsUnescaped text) := by
  unfold CopiesAsMeant copyObject Ready
  split_ifs with online
  · refine (forall_postJson_iff fun body => decodeJson body =
      some (copyValue contentType)).trans ?_
    rw [decodeJson_copyBody_iff]
    simp [online]
  · simp [unexpected, online]

/-- The bodies mean what they are made from exactly if no name and no content type in them has to
be escaped. -/
theorem bodies_mean_iff (requester : GcsRequester) (sourceKeys : List Bytes)
    (sourceKey destKey : Bytes) (contentType : Option Bytes) :
    (requester.ComposesAsMeant sourceKeys destKey contentType ↔
      (requester.Ready ∧ 1 ≤ sourceKeys.length ∧ sourceKeys.length ≤ 32 →
        (∀ key ∈ sourceKeys, IsUnescaped key) ∧ ∀ text ∈ contentType, IsUnescaped text)) ∧
    (requester.CopiesAsMeant sourceKey destKey contentType ↔
      (requester.Ready → ∀ text ∈ contentType, IsUnescaped text)) :=
  ⟨composesAsMeant_iff, copiesAsMeant_iff⟩

/-- A storage that is connected. -/
def sample : GcsRequester where
  connected := true
  endpoint := none
  bucket := ascii "bucket"
  authorization := .ok (ascii "Bearer token")

/-- A name that ends its own string adds another source, and a content type another field. -/
theorem sample_injection :
    ¬ sample.ComposesAsMeant [ascii "a\"\x7d,\x7b\"name\":\"b"] (ascii "c") none ∧
    ¬ sample.CopiesAsMeant (ascii "a") (ascii "c")
      (some (ascii "text/plain\",\"cacheControl\":\"no-store")) := by
  have ready : sample.Ready := ⟨rfl, _, rfl⟩
  constructor
  · rw [composesAsMeant_iff]
    intro means
    have name := (means ⟨ready, by decide, by decide⟩).1 _ List.mem_cons_self
    exact absurd name (by decide)
  · rw [copiesAsMeant_iff]
    intro means
    exact absurd (means ready _ rfl) (by decide)

end GcsRequester

end FileTrans.Cloud
