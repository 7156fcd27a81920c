import FileTrans.Server.StoragePolicy
import FileTrans.Text.Wildcards

/-!
# The language of a glob pattern

`matches_glob_pattern` translates a pattern to a regular expression.  The dot of
the expression matches every character but the line terminators, and so a
wildcard of the pattern stands for any character but these.
-/

namespace FileTrans.Server

open FileTrans.Core
open FileTrans.Text

/-! ## The translation -/

/-- The characters before which the translation puts a backslash. -/
def isEscaped (character : UInt8) : Bool :=
  [0x2e, 0x2b, 0x5e, 0x24, 0x28, 0x29, 0x5b, 0x5d, 0x7b, 0x7d, 0x7c, 0x5c].contains character

/-- The `switch` over a character of the pattern. -/
def regexCharacter (character : UInt8) : Bytes :=
  if character = 0x2a then [0x2e, 0x2a]
  else if character = 0x3f then [0x2e]
  else if isEscaped character then [0x5c, character]
  else [character]

def regexPattern (pattern : Bytes) : Bytes :=
  pattern.flatMap regexCharacter

/-- The term that a character of the pattern becomes. -/
def regexTerm (character : UInt8) : Term :=
  if character = 0x2a then ⟨.dot, true⟩
  else if character = 0x3f then ⟨.dot, false⟩
  else ⟨.character character, false⟩

/-- The characters that a dot matches. -/
def dotCharacters : Set UInt8 :=
  {character | isLineTerminator character = false}

/-- What a character of a pattern stands for. -/
def globPlace (character : UInt8) : Wildcard UInt8 :=
  if character = 0x2a then .string
  else if character = 0x3f then .single
  else .exactly character

def globLanguage (pattern : Bytes) : Language UInt8 :=
  patternLanguage Set.univ (pattern.map globPlace)

section

variable {pattern key : Bytes} {character : UInt8}

theorem isSyntaxCharacter_eq (star : character ≠ 0x2a) (mark : character ≠ 0x3f) :
    isSyntaxCharacter character = isEscaped character := by
  rw [isSyntaxCharacter, isEscaped, Bool.eq_iff_iff, List.contains_iff_mem, List.contains_iff_mem]
  simp only [List.mem_cons, List.not_mem_nil, star, mark]
  grind

/-- A character of the pattern gives an atom, and perhaps a star. -/
def regexTokens (character : UInt8) : List Token :=
  .atom (regexTerm character).atom :: if (regexTerm character).starred then [.star] else []

theorem tokens_regexCharacter (character : UInt8) (rest : Bytes) :
    tokens (regexCharacter character ++ rest) =
      (tokens rest).map (regexTokens character ++ ·) := by
  by_cases star : character = 0x2a
  · subst star
    change tokens (0x2e :: 0x2a :: rest) = _
    rw [tokens, tokens, Option.map_map]
    rfl
  by_cases mark : character = 0x3f
  · subst mark
    change tokens (0x2e :: rest) = _
    rw [tokens]
    rfl
  have literal : regexTerm character = ⟨.character character, false⟩ := by
    rw [regexTerm, if_neg star, if_neg mark]
  rw [regexTokens, literal, regexCharacter, if_neg star, if_neg mark]
  split
  · rename_i escaped
    exact tokens_escaped ((isSyntaxCharacter_eq star mark).trans escaped)
  · rename_i plain
    exact tokens_character
      ((isSyntaxCharacter_eq star mark).trans (Bool.not_eq_true _ ▸ plain))

theorem tokens_regexPattern (pattern : Bytes) :
    tokens (regexPattern pattern) = some (pattern.flatMap regexTokens) := by
  induction pattern with
  | nil => rfl
  | cons character pattern ih =>
      rw [regexPattern, List.flatMap_cons, tokens_regexCharacter]
      change (tokens (regexPattern pattern)).map _ = _
      rw [ih]
      rfl

theorem terms_regexTokens (pattern : Bytes) :
    terms (pattern.flatMap regexTokens) = some (pattern.map regexTerm) := by
  induction pattern with
  | nil => rfl
  | cons character pattern ih =>
      rw [List.flatMap_cons, regexTokens, List.map_cons]
      cases term : regexTerm character with
      | mk atom starred =>
          cases starred with
          | true =>
              change terms (.atom atom :: .star :: pattern.flatMap regexTokens) = _
              rw [terms, ih]
              rfl
          | false =>
              change terms (.atom atom :: pattern.flatMap regexTokens) = _
              rw [terms, ih]
              · rfl
              · intro rest starts
                cases pattern with
                | nil => cases starts
                | cons next pattern => cases (List.cons.inj starts).1

theorem parseExpression_regexPattern (pattern : Bytes) :
    parseExpression (regexPattern pattern) = some (pattern.map regexTerm) := by
  rw [parseExpression, tokens_regexPattern, Option.bind_some, terms_regexTokens]

theorem language_regexTerm (character : UInt8) :
    (regexTerm character).language dotCharacters =
      (globPlace character).language dotCharacters := by
  unfold regexTerm globPlace
  split
  · exact Set.ext (mem_kstar_dot dotCharacters)
  · split <;> rfl

theorem termsLanguage_regexTerm (pattern : Bytes) :
    termsLanguage dotCharacters (pattern.map regexTerm) =
      patternLanguage dotCharacters (pattern.map globPlace) := by
  unfold termsLanguage patternLanguage
  rw [List.map_map, List.map_map]
  exact congrArg List.prod (List.map_congr_left fun character _ => language_regexTerm character)

theorem expressionMatches_regexPattern :
    ExpressionMatches dotCharacters (regexPattern pattern) key ↔
      key ∈ patternLanguage dotCharacters (pattern.map globPlace) := by
  rw [ExpressionMatches, parseExpression_regexPattern, ← termsLanguage_regexTerm]
  simp

/-! ## The matching -/

theorem matchesStar_iff (matches_iff : ∀ key, matchesRegex pattern key = true ↔
      key ∈ patternLanguage dotCharacters (pattern.map globPlace)) :
    matchesStar (matchesRegex pattern) key = true ↔
      key ∈ patternLanguage dotCharacters (.string :: pattern.map globPlace) := by
  induction key with
  | nil =>
      rw [matchesStar, matches_iff, mem_patternLanguage_string]
      simp
  | cons character key ih =>
      rw [matchesStar, Bool.or_eq_true, Bool.and_eq_true, Bool.not_eq_true', matches_iff, ih,
        @mem_patternLanguage_string _ _ _ (character :: key)]
      apply or_congr_right
      constructor
      · rintro ⟨plain, mem⟩
        exact ⟨character, plain, key, mem, rfl⟩
      · rintro ⟨first, plain, rest, mem, same⟩
        cases same
        exact ⟨plain, mem⟩

theorem matchesRegex_iff : matchesRegex pattern key = true ↔
    key ∈ patternLanguage dotCharacters (pattern.map globPlace) := by
  induction pattern generalizing key with
  | nil => exact List.isEmpty_iff.trans mem_patternLanguage_nil.symm
  | cons wanted pattern ih =>
      unfold matchesRegex
      rw [List.map_cons, globPlace]
      by_cases star : wanted = 0x2a
      · rw [if_pos star, if_pos star]
        exact matchesStar_iff fun key => ih
      rw [if_neg star, if_neg star]
      by_cases mark : wanted = 0x3f
      · rw [if_pos mark, mem_patternLanguage_single]
        cases key with
        | nil => simp
        | cons character key =>
            dsimp only
            rw [if_pos mark, Bool.and_eq_true, Bool.not_eq_true', ih]
            constructor
            · rintro ⟨plain, mem⟩
              exact ⟨character, plain, key, mem, rfl⟩
            · rintro ⟨first, plain, rest, mem, same⟩
              cases same
              exact ⟨plain, mem⟩
      · rw [if_neg mark, mem_patternLanguage_exactly]
        cases key with
        | nil => simp
        | cons character key =>
            dsimp only
            rw [if_neg mark, Bool.and_eq_true, decide_eq_true_iff, ih]
            constructor
            · rintro ⟨rfl, mem⟩
              exact ⟨key, mem, rfl⟩
            · rintro ⟨rest, mem, same⟩
              cases same
              exact ⟨rfl, mem⟩

theorem matchesGlobPattern_iff (nonempty : pattern ≠ []) :
    matchesGlobPattern pattern key = true ↔
      ExpressionMatches dotCharacters (regexPattern pattern) key := by
  rw [matchesGlobPattern, expressionMatches_regexPattern, Bool.or_eq_true, matchesRegex_iff,
    List.isEmpty_iff, or_iff_right nonempty]

theorem countP_literals (pattern : Bytes) :
    (literals (pattern.map globPlace)).countP isLineTerminator =
      pattern.countP isLineTerminator := by
  induction pattern with
  | nil => rfl
  | cons character pattern ih =>
      have literal : (globPlace character).literal.countP isLineTerminator =
          [character].countP isLineTerminator := by
        unfold globPlace
        split
        · rename_i star
          rw [star]
          rfl
        · split
          · rename_i mark
            rw [mark]
            rfl
          · rfl
      rw [List.map_cons, countP_literals_cons, literal, ih, ← List.countP_append]
      rfl

theorem mem_globLanguage (matched : matchesGlobPattern pattern key = true)
    (nonempty : pattern ≠ []) : key ∈ globLanguage pattern := by
  rw [matchesGlobPattern_iff nonempty, expressionMatches_regexPattern] at matched
  exact patternLanguage_mono (Set.subset_univ _) matched

/-- Pattern and key are matched as the glob language has it exactly if the key, where it is a
word of it, has no more line terminators than the pattern asks for. -/
theorem matches_iff_glob_iff (nonempty : pattern ≠ []) :
    (matchesGlobPattern pattern key = true ↔ key ∈ globLanguage pattern) ↔
      (key ∈ globLanguage pattern →
        key.countP isLineTerminator = pattern.countP isLineTerminator) := by
  have both : (matchesGlobPattern pattern key = true ↔ key ∈ globLanguage pattern) ↔
      (key ∈ globLanguage pattern → matchesGlobPattern pattern key = true) :=
    ⟨Iff.mpr, fun complete => ⟨fun matched => mem_globLanguage matched nonempty, complete⟩⟩
  rw [both]
  apply imp_congr_right
  intro mem
  rw [matchesGlobPattern_iff nonempty, expressionMatches_regexPattern,
    ← countP_literals pattern]
  exact mem_patternLanguage_iff_countP mem

end

/-- `a*` and `ab`. -/
theorem matches_iff_glob_iff_sample :
    matchesGlobPattern [0x61, 0x2a] [0x61, 0x62] = true ↔
      [0x61, 0x62] ∈ globLanguage [0x61, 0x2a] :=
  (matches_iff_glob_iff (List.cons_ne_nil 0x61 [0x2a])).mpr fun _ => by decide

/-- Any string but a line break. -/
theorem line_break_unmatched :
    matchesGlobPattern [0x2a] [0x0a] = false ∧ [0x0a] ∈ globLanguage [0x2a] := by
  refine ⟨by decide, ?_⟩
  exact Language.mem_mul.mpr ⟨[0x0a], fun _ _ => trivial, [], rfl, rfl⟩

end FileTrans.Server
