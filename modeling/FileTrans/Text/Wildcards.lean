import FileTrans.Text.Bytes
import Mathlib.Computability.Language

/-!
# Patterns with wildcards, and regular expressions

A pattern has a language for each set of characters that its wildcards may
stand for.  A word that is in the language for all characters is in the one
without some of them exactly if the pattern itself has as many of these as the
word.
-/

namespace FileTrans.Text

universe u

variable {Symbol : Type u}

/-- A place of a pattern: any string, any character, or this one. -/
inductive Wildcard (Symbol : Type u)
  | string
  | single
  | exactly (character : Symbol)

namespace Wildcard

/-- The words of a place, where the wildcards stand for characters of the set. -/
def language (allowed : Set Symbol) : Wildcard Symbol → Language Symbol
  | string => {word | ∀ character ∈ word, character ∈ allowed}
  | single => {word | ∃ character ∈ allowed, word = [character]}
  | exactly character => {[character]}

/-- The characters that a place asks for. -/
def literal : Wildcard Symbol → List Symbol
  | string => []
  | single => []
  | exactly character => [character]

variable {place : Wildcard Symbol} {word : List Symbol} {special : Symbol → Bool}

theorem countP_eq_of_mem (mem : word ∈ place.language {character | special character = false}) :
    word.countP special = place.literal.countP special := by
  cases place with
  | string =>
      rw [literal, List.countP_nil, List.countP_eq_zero]
      intro character inside
      exact Bool.not_eq_true _ ▸ mem character inside
  | single =>
      obtain ⟨character, plain, rfl⟩ := mem
      rw [literal, List.countP_nil, List.countP_singleton, if_neg]
      exact Bool.not_eq_true _ ▸ plain
  | exactly character =>
      have same : word = [character] := mem
      rw [same, literal]

theorem countP_le_of_mem {allowed : Set Symbol} (mem : word ∈ place.language allowed) :
    place.literal.countP special ≤ word.countP special := by
  cases place with
  | string => exact Nat.zero_le _
  | single => exact Nat.zero_le _
  | exactly character =>
      have same : word = [character] := mem
      rw [same, literal]

theorem mem_of_countP_eq (mem : word ∈ place.language Set.univ)
    (same : word.countP special = place.literal.countP special) :
    word ∈ place.language {character | special character = false} := by
  cases place with
  | string =>
      rw [literal, List.countP_nil, List.countP_eq_zero] at same
      intro character inside
      exact Bool.eq_false_iff.mpr (same character inside)
  | single =>
      obtain ⟨character, -, rfl⟩ := mem
      rw [literal, List.countP_nil, List.countP_eq_zero] at same
      exact ⟨character, Bool.eq_false_iff.mpr (same character List.mem_cons_self), rfl⟩
  | exactly character => exact mem

end Wildcard

/-- The words of a pattern. -/
def patternLanguage (allowed : Set Symbol) (pattern : List (Wildcard Symbol)) : Language Symbol :=
  (pattern.map (·.language allowed)).prod

/-- The characters that a pattern asks for. -/
def literals (pattern : List (Wildcard Symbol)) : List Symbol :=
  pattern.flatMap (·.literal)

section

variable {allowed : Set Symbol} {place : Wildcard Symbol} {pattern : List (Wildcard Symbol)}
  {word : List Symbol} {special : Symbol → Bool}

@[simp]
theorem mem_patternLanguage_nil : word ∈ patternLanguage allowed [] ↔ word = [] :=
  Language.mem_one word

theorem mem_patternLanguage_cons : word ∈ patternLanguage allowed (place :: pattern) ↔
    ∃ first ∈ place.language allowed, ∃ rest ∈ patternLanguage allowed pattern,
      first ++ rest = word :=
  Language.mem_mul

theorem mem_patternLanguage_exactly {character : Symbol} :
    word ∈ patternLanguage allowed (.exactly character :: pattern) ↔
      ∃ rest ∈ patternLanguage allowed pattern, word = character :: rest := by
  rw [mem_patternLanguage_cons]
  constructor
  · rintro ⟨first, same, rest, mem, rfl⟩
    cases same
    exact ⟨rest, mem, rfl⟩
  · rintro ⟨rest, mem, rfl⟩
    exact ⟨[character], rfl, rest, mem, rfl⟩

theorem mem_patternLanguage_single : word ∈ patternLanguage allowed (.single :: pattern) ↔
    ∃ character ∈ allowed, ∃ rest ∈ patternLanguage allowed pattern,
      word = character :: rest := by
  rw [mem_patternLanguage_cons]
  constructor
  · rintro ⟨first, ⟨character, plain, rfl⟩, rest, mem, rfl⟩
    exact ⟨character, plain, rest, mem, rfl⟩
  · rintro ⟨character, plain, rest, mem, rfl⟩
    exact ⟨[character], ⟨character, plain, rfl⟩, rest, mem, rfl⟩

theorem mem_patternLanguage_string : word ∈ patternLanguage allowed (.string :: pattern) ↔
    word ∈ patternLanguage allowed pattern ∨
      ∃ character ∈ allowed, ∃ rest ∈ patternLanguage allowed (.string :: pattern),
        word = character :: rest := by
  rw [mem_patternLanguage_cons]
  constructor
  · rintro ⟨first, plain, rest, mem, rfl⟩
    cases first with
    | nil => exact .inl mem
    | cons character first =>
        refine .inr ⟨character, plain character List.mem_cons_self, first ++ rest, ?_, rfl⟩
        refine mem_patternLanguage_cons.mpr ⟨first, ?_, rest, mem, rfl⟩
        exact fun other inside => plain other (List.mem_cons_of_mem _ inside)
  · rintro (mem | ⟨character, plain, rest, mem, rfl⟩)
    · exact ⟨[], fun _ inside => absurd inside List.not_mem_nil, word, mem, rfl⟩
    · obtain ⟨first, plains, last, ends, rfl⟩ := mem_patternLanguage_cons.mp mem
      refine ⟨character :: first, ?_, last, ends, rfl⟩
      exact List.forall_mem_cons.mpr ⟨plain, plains⟩

theorem patternLanguage_mono {larger : Set Symbol} (subset : allowed ⊆ larger)
    (mem : word ∈ patternLanguage allowed pattern) : word ∈ patternLanguage larger pattern := by
  induction pattern generalizing word with
  | nil => exact mem
  | cons place pattern ih =>
      obtain ⟨first, start, rest, last, rfl⟩ := mem_patternLanguage_cons.mp mem
      refine mem_patternLanguage_cons.mpr ⟨first, ?_, rest, ih last, rfl⟩
      cases place with
      | string => exact fun character inside => subset (start character inside)
      | single => exact start.imp fun character both => ⟨subset both.1, both.2⟩
      | exactly character => exact start

theorem countP_literals_cons : (literals (place :: pattern)).countP special =
    place.literal.countP special + (literals pattern).countP special :=
  List.countP_append

theorem countP_literals_le (mem : word ∈ patternLanguage allowed pattern) :
    (literals pattern).countP special ≤ word.countP special := by
  induction pattern generalizing word with
  | nil => exact Nat.zero_le _
  | cons place pattern ih =>
      obtain ⟨first, start, rest, last, rfl⟩ := mem_patternLanguage_cons.mp mem
      rw [countP_literals_cons, List.countP_append]
      exact Nat.add_le_add (Wildcard.countP_le_of_mem start) (ih last)

theorem mem_patternLanguage_iff_countP (mem : word ∈ patternLanguage Set.univ pattern) :
    word ∈ patternLanguage {character | special character = false} pattern ↔
      word.countP special = (literals pattern).countP special := by
  induction pattern generalizing word with
  | nil =>
      rw [mem_patternLanguage_nil.mp mem]
      exact iff_of_true rfl rfl
  | cons place pattern ih =>
      rw [countP_literals_cons]
      constructor
      · intro plain
        obtain ⟨first, start, rest, last, rfl⟩ := mem_patternLanguage_cons.mp plain
        rw [List.countP_append, Wildcard.countP_eq_of_mem start,
          (ih (patternLanguage_mono (Set.subset_univ _) last)).mp last]
      · intro same
        obtain ⟨first, start, rest, last, rfl⟩ := mem_patternLanguage_cons.mp mem
        rw [List.countP_append] at same
        -- Each part has at least the characters that are asked for, so that neither has more.
        have least : place.literal.countP special ≤ first.countP special :=
          Wildcard.countP_le_of_mem start
        have others : (literals pattern).countP special ≤ rest.countP special :=
          countP_literals_le last
        refine mem_patternLanguage_cons.mpr ⟨first, ?_, rest, ?_, rfl⟩
        · exact Wildcard.mem_of_countP_eq start (by omega)
        · exact (ih last).mpr (by omega)

end

/-! ## Regular expressions

The ECMAScript grammar as far as characters, escaped characters, dots and stars
go.  An expression with anchors, groups, classes, alternatives or other
quantifiers has no terms here.  Which characters a dot matches is a parameter.
-/

open Computability

/-- `SyntaxCharacter`. -/
def isSyntaxCharacter (character : UInt8) : Bool :=
  [0x5e, 0x24, 0x5c, 0x2e, 0x2a, 0x2b, 0x3f, 0x28, 0x29, 0x5b, 0x5d, 0x7b, 0x7d, 0x7c].contains
    character

inductive Atom
  | character (value : UInt8)
  | dot

/-- `Term`: an atom, or an atom and a star. -/
structure Term where
  atom : Atom
  starred : Bool

/-- An atom, or the quantifier. -/
inductive Token
  | atom (atom : Atom)
  | star

/-- The tokens of an expression. -/
def tokens : Bytes → Option (List Token)
  | [] => some []
  | 0x5c :: character :: rest =>
      if isSyntaxCharacter character then
        (tokens rest).map (.atom (.character character) :: ·)
      else none
  | 0x2e :: rest => (tokens rest).map (.atom .dot :: ·)
  | 0x2a :: rest => (tokens rest).map (.star :: ·)
  | character :: rest =>
      if isSyntaxCharacter character then none
      else (tokens rest).map (.atom (.character character) :: ·)

/-- The terms of the tokens.  A star follows an atom. -/
def terms : List Token → Option (List Term)
  | [] => some []
  | .star :: _ => none
  | .atom atom :: .star :: rest => (terms rest).map (⟨atom, true⟩ :: ·)
  | .atom atom :: rest => (terms rest).map (⟨atom, false⟩ :: ·)

def parseExpression (expression : Bytes) : Option (List Term) :=
  (tokens expression).bind terms

def Atom.language (dot : Set UInt8) : Atom → Language UInt8
  | character value => {[value]}
  | .dot => {word | ∃ character ∈ dot, word = [character]}

/-- The words of a term. -/
def Term.language (dot : Set UInt8) (term : Term) : Language UInt8 :=
  if term.starred then (term.atom.language dot)∗ else term.atom.language dot

/-- The words of an expression, one term after the other. -/
def termsLanguage (dot : Set UInt8) (terms : List Term) : Language UInt8 :=
  (terms.map (·.language dot)).prod

/-- A whole word matches an expression. -/
def ExpressionMatches (dot : Set UInt8) (expression word : Bytes) : Prop :=
  ∃ terms ∈ parseExpression expression, word ∈ termsLanguage dot terms

section

variable {rest : Bytes} {character : UInt8}

theorem tokens_escaped (syntactic : isSyntaxCharacter character = true) :
    tokens (0x5c :: character :: rest) =
      (tokens rest).map (.atom (.character character) :: ·) := by
  rw [tokens, if_pos syntactic]

theorem tokens_character (plain : isSyntaxCharacter character = false) :
    tokens (character :: rest) = (tokens rest).map (.atom (.character character) :: ·) := by
  rw [tokens, if_neg (Bool.eq_false_iff.mp plain)]
  · rintro other tail rfl
    exact absurd plain (by decide)
  · rintro rfl
    exact absurd plain (by decide)
  · rintro rfl
    exact absurd plain (by decide)

theorem mem_kstar_dot (dot : Set UInt8) (word : Bytes) :
    word ∈ (Atom.dot.language dot)∗ ↔ ∀ character ∈ word, character ∈ dot := by
  rw [Language.mem_kstar]
  constructor
  · rintro ⟨parts, rfl, single⟩ character inside
    obtain ⟨part, mem, inside⟩ := List.mem_flatten.mp inside
    obtain ⟨only, plain, rfl⟩ := single part mem
    cases List.mem_singleton.mp inside
    exact plain
  · intro plain
    refine ⟨word.map fun character => [character], ?_, ?_⟩
    · exact (List.flatMap_singleton' word).symm
    · intro part mem
      obtain ⟨character, inside, rfl⟩ := List.mem_map.mp mem
      exact ⟨character, plain character inside, rfl⟩

end

end FileTrans.Text
