import FileTrans.Text.Order
import FileTrans.Text.Url

/-!
# Query strings

A query is a list of parameters, each a name and a value, written with
percent-encoding and joined by ampersands.  Its canonical form has the
parameters sorted by their names.  A query is in its canonical form exactly if
it was written from sorted parameters.
-/

namespace FileTrans.Text

/-- A parameter: its name and its value. -/
abbrev Parameter := Bytes × Bytes

/-- A parameter as it is written. -/
def renderParameter (parameter : Parameter) : Bytes :=
  urlEncode true parameter.1 ++ 0x3d :: urlEncode true parameter.2

/-- A query as it is written. -/
def renderQuery (parameters : List Parameter) : Bytes :=
  [0x26].intercalate (parameters.map renderParameter)

/-- Read a parameter: up to the first equals sign it is the name. -/
def parseParameter (text : Bytes) : Parameter :=
  (percentDecode (text.takeWhile (· != 0x3d)), percentDecode (text.dropWhile (· != 0x3d)).tail)

/-- Read a query. -/
def parseQuery (text : Bytes) : List Parameter :=
  if text = [] then [] else (text.splitOn 0x26).map parseParameter

/-- The canonical form of a query. -/
def canonicalQuery (text : Bytes) : Bytes :=
  renderQuery (sortByKey Prod.fst (parseQuery text))

variable {parameter : Parameter} {parameters : List Parameter} {name text rest : Bytes}

/-! ## Reading what was written -/

theorem notMem_renderParameter {byte : UInt8} (reserved : isKept false byte = false)
    (percent : byte ≠ 0x25) (equals : byte ≠ 0x3d) : byte ∉ renderParameter parameter := by
  rw [renderParameter, List.mem_append, List.mem_cons]
  rintro (mem | same | mem)
  · exact notMem_urlEncode reserved percent mem
  · exact equals same
  · exact notMem_urlEncode reserved percent mem

theorem renderParameter_ne_nil (parameter : Parameter) : renderParameter parameter ≠ [] := by
  simp [renderParameter]

@[simp]
theorem parseParameter_renderParameter (parameter : Parameter) :
    parseParameter (renderParameter parameter) = parameter := by
  have equals : (0x3d : UInt8) ∉ urlEncode true parameter.1 := notMem_urlEncode rfl (by decide)
  rw [parseParameter, renderParameter, takeWhile_ne_append_cons equals,
    dropWhile_ne_append_cons equals, List.tail_cons, percentDecode_urlEncode,
    percentDecode_urlEncode]

@[simp]
theorem parseQuery_renderQuery (parameters : List Parameter) :
    parseQuery (renderQuery parameters) = parameters := by
  cases parameters with
  | nil => rfl
  | cons first rest =>
      have nonempty : renderQuery (first :: rest) ≠ [] := by
        cases rest with
        | nil => simp [renderQuery, List.intercalate_singleton, renderParameter_ne_nil]
        | cons second rest => simp [renderQuery, List.intercalate_cons_cons]
      have apart : ∀ text ∈ (first :: rest).map renderParameter, (0x26 : UInt8) ∉ text := by
        intro text mem
        rcases List.mem_map.mp mem with ⟨parameter, -, rfl⟩
        exact notMem_renderParameter rfl (by decide) (by decide)
      rw [parseQuery, if_neg nonempty, renderQuery,
        List.splitOn_intercalate 0x26 apart (by simp), List.map_map]
      simp [Function.comp_def]

theorem renderQuery_injective : Function.Injective renderQuery :=
  Function.LeftInverse.injective parseQuery_renderQuery

/-! ## Queries in canonical form -/

theorem canonicalQuery_renderQuery (parameters : List Parameter) :
    canonicalQuery (renderQuery parameters) = renderQuery (sortByKey Prod.fst parameters) := by
  rw [canonicalQuery, parseQuery_renderQuery]

theorem canonicalQuery_renderQuery_eq_iff :
    canonicalQuery (renderQuery parameters) = renderQuery parameters ↔
      parameters.Pairwise fun left right => left.1 ≤ right.1 := by
  rw [canonicalQuery_renderQuery, renderQuery_injective.eq_iff]
  constructor
  · intro sorted
    rw [← sorted]
    exact List.pairwise_insertionSort _ parameters
  · intro sorted
    exact sorted.insertionSort_eq

theorem canonicalQuery_eq_self_iff :
    canonicalQuery text = text ↔ ∃ parameters : List Parameter,
      (parameters.Pairwise fun left right => left.1 ≤ right.1) ∧ renderQuery parameters = text := by
  constructor
  · intro canonical
    exact ⟨_, List.pairwise_insertionSort _ (parseQuery text), canonical⟩
  · rintro ⟨parameters, sorted, rfl⟩
    exact canonicalQuery_renderQuery_eq_iff.mpr sorted

theorem renderQuery_cons (first : Parameter) (others : List Parameter) :
    renderQuery (first :: others) =
      renderParameter first ++ others.flatMap fun other => 0x26 :: renderParameter other := by
  induction others generalizing first with
  | nil => simp [renderQuery, List.intercalate_singleton]
  | cons second others ih =>
      have joined : renderQuery (first :: second :: others) =
          renderParameter first ++ [0x26] ++ renderQuery (second :: others) :=
        List.intercalate_cons_cons
      rw [joined, ih, List.flatMap_cons, List.append_assoc, List.singleton_append, List.cons_append]

theorem parseQuery_append_cons (parameter : Parameter) (nonempty : text ≠ []) :
    parseQuery (renderParameter parameter ++ 0x26 :: text) = parameter :: parseQuery text := by
  rw [parseQuery, if_neg (by simp), List.splitOn_append_cons_self,
    List.splitOn_eq_singleton (notMem_renderParameter rfl (by decide) (by decide)), parseQuery,
    if_neg nonempty, List.map_append, List.map_singleton, parseParameter_renderParameter,
    List.singleton_append]

theorem canonicalQuery_append_cons_eq_self_iff (parameter : Parameter) (nonempty : text ≠ []) :
    canonicalQuery (renderParameter parameter ++ 0x26 :: text) =
        renderParameter parameter ++ 0x26 :: text ↔
      (∀ other ∈ parseQuery text, parameter.1 ≤ other.1) ∧ canonicalQuery text = text := by
  have renders {others : List Parameter} (written : renderQuery others = text) :
      renderQuery (parameter :: others) = renderParameter parameter ++ 0x26 :: text := by
    subst written
    cases others with
    | nil => contradiction
    | cons second others => simp [renderQuery, List.intercalate_cons_cons]
  constructor
  · intro canonical
    rcases canonicalQuery_eq_self_iff.mp canonical with ⟨all, sorted, written⟩
    have read := parseQuery_append_cons parameter nonempty
    rw [← written, parseQuery_renderQuery] at read
    subst read
    rcases List.pairwise_cons.mp sorted with ⟨first, others⟩
    refine ⟨first, canonicalQuery_eq_self_iff.mpr ⟨_, others, ?_⟩⟩
    cases parsed : parseQuery text with
    | nil =>
        rw [parsed, renderQuery_cons, List.flatMap_nil] at written
        exact absurd (List.append_cancel_left written) (by simp)
    | cons second others =>
        rw [parsed, renderQuery_cons, List.flatMap_cons] at written
        rw [renderQuery_cons]
        exact (List.cons.inj (List.append_cancel_left written)).2
  · rintro ⟨first, canonical⟩
    rcases canonicalQuery_eq_self_iff.mp canonical with ⟨others, sorted, written⟩
    rw [← written, parseQuery_renderQuery] at first
    exact canonicalQuery_eq_self_iff.mpr
      ⟨parameter :: others, List.pairwise_cons.mpr ⟨first, sorted⟩, renders written⟩

theorem urlEncode_of_renderQuery_cons {first : Parameter} {others : List Parameter}
    (equals : 0x3d ∉ name) (same : renderQuery (first :: others) = name ++ 0x3d :: rest) :
    urlEncode true first.1 = name := by
  rw [renderQuery_cons, renderParameter, List.append_assoc, List.cons_append] at same
  have heads := congrArg (List.takeWhile (· != 0x3d)) same
  rwa [takeWhile_ne_append_cons (notMem_urlEncode rfl (by decide)),
    takeWhile_ne_append_cons equals] at heads

theorem le_of_canonicalQuery (equals : 0x3d ∉ name) (unreserved : ∀ byte ∈ name, isUnreserved byte)
    (canonical : canonicalQuery (name ++ 0x3d :: rest) = name ++ 0x3d :: rest) :
    ∀ other ∈ parseQuery (name ++ 0x3d :: rest), name ≤ other.1 := by
  rcases canonicalQuery_eq_self_iff.mp canonical with ⟨parameters, sorted, written⟩
  rw [← written, parseQuery_renderQuery]
  cases parameters with
  | nil => simp
  | cons first others =>
      have named : first.1 = name := by
        apply urlEncode_injective true
        rw [urlEncode_of_renderQuery_cons equals written, urlEncode_of_unreserved unreserved]
      rw [List.pairwise_cons, named] at sorted
      rintro other (_ | ⟨_, mem⟩)
      · exact le_of_eq named.symm
      · exact sorted.1 other mem

theorem takeWhile_renderQuery (parameters : List Parameter) :
    (renderQuery parameters).takeWhile (· != 0x23) = renderQuery parameters := by
  apply takeWhile_ne_of_notMem
  cases parameters with
  | nil => simp [renderQuery]
  | cons first others =>
      have outside (parameter : Parameter) : (0x23 : UInt8) ∉ renderParameter parameter :=
        notMem_renderParameter rfl (by decide) (by decide)
      simp [renderQuery_cons, outside]

theorem canonicalQuery_takeWhile_eq_iff :
    canonicalQuery (text.takeWhile (· != 0x23)) = text ↔ canonicalQuery text = text := by
  constructor
  · intro canonical
    have whole : text.takeWhile (· != 0x23) = text := by
      rw [← canonical, canonicalQuery, takeWhile_renderQuery]
    rwa [whole] at canonical
  · intro canonical
    have whole : text.takeWhile (· != 0x23) = text := by
      rw [← canonical, canonicalQuery, takeWhile_renderQuery]
    rwa [whole]

end FileTrans.Text
