import FileTrans.Text.Numeral
import FileTrans.Text.Search

/-!
# Masking of log messages

`sensitive_info_masker`.  A path is masked if paths are to be masked, whatever is
said about file names; a file name keeps its first characters and its extension.

The two regular expressions are matched from left to right.  No part of either can
take a byte that its next part begins with, so a match is what each part takes at
most.
-/

namespace FileTrans.Logging

open FileTrans.Text

structure MaskingConfig where
  maskPaths : Bool
  maskIps : Bool
  maskFilenames : Bool
  maskChar : Bytes
  visibleChars : Nat

/-- A slash or a backslash. -/
def isSeparator (byte : UInt8) : Bool :=
  byte == 0x2f || byte == 0x5c

def isDot (byte : UInt8) : Bool :=
  byte == 0x2e

namespace MaskingConfig

variable (config : MaskingConfig)

/-- So many times the first mask character; an empty string has a zero byte there. -/
def mask (count : Nat) : Bytes :=
  List.replicate count (config.maskChar.head?.getD 0)

def maskFilename (filename : Bytes) : Bytes :=
  if filename.length ≤ config.visibleChars then filename
  else
    let masked (name : Bytes) : Bytes :=
      name.take config.visibleChars ++ config.mask (name.length - config.visibleChars)
    match findLastOf isDot filename with
    | some (before + 1) =>
        let name := filename.take (before + 1)
        if name.length ≤ config.visibleChars then filename
        else masked name ++ filename.drop (before + 1)
    | _ => masked filename

def maskPath (path : Bytes) : Bytes :=
  if config.maskPaths = false ∨ path = [] then path
  else
    match findLastOf isSeparator path with
    | none => config.maskFilename path
    | some lastSep =>
        let filename := path.drop (lastSep + 1)
        config.mask lastSep ++ ascii "/" ++
          if config.maskFilenames then config.maskFilename filename else filename

def maskIp (ip : Bytes) : Bytes :=
  if config.maskIps = false ∨ ip = [] then ip
  else
    match findLastOf isDot ip with
    | none => config.mask ip.length
    | some lastDot => config.mask lastDot ++ ip.drop lastDot

end MaskingConfig

/-! ## Searches -/

/-- Replace every match, given what is left of a text behind a match at its beginning.  So many
bytes still belong to the last match. -/
def replaceMatches (behind : Bytes → Option Bytes) (replacement : Bytes → Bytes) :
    Nat → Bytes → Bytes
  | _, [] => []
  | skip + 1, _ :: rest => replaceMatches behind replacement skip rest
  | 0, byte :: rest =>
      match behind (byte :: rest) with
      | none => byte :: replaceMatches behind replacement 0 rest
      | some left =>
          let length := (byte :: rest).length - left.length
          replacement ((byte :: rest).take length) ++
            replaceMatches behind replacement (length - 1) rest

/-- `\d{1,3}\.` -/
def numberAndDot (text : Bytes) : Option Bytes :=
  let digits := text.takeWhile (isDigit 10)
  if 1 ≤ digits.length ∧ digits.length ≤ 3 then
    match text.drop digits.length with
    | [] => none
    | byte :: rest => if isDot byte then some rest else none
  else none

/-- `(\d{1,3})\.(\d{1,3})\.(\d{1,3})\.(\d{1,3})` -/
def behindIp (text : Bytes) : Option Bytes := do
  let text ← numberAndDot text
  let text ← numberAndDot text
  let text ← numberAndDot text
  let digits := (text.take 3).takeWhile (isDigit 10)
  if digits = [] then none else some (text.drop digits.length)

/-- `[a-zA-Z0-9._-]` -/
def isPathByte (byte : UInt8) : Bool :=
  (digitValue byte).isSome || isDot byte || byte == 0x5f || byte == 0x2d

/-- What is left behind a component of `(?:\/[a-zA-Z0-9._-]+)+` and those after it. -/
def behindSlashes : Bytes → Bytes
  | [] => []
  | byte :: rest =>
      if isPathByte byte || (byte == 0x2f && rest.head?.any isPathByte) then behindSlashes rest
      else byte :: rest

/-- What is left behind a component of `(?:[a-zA-Z0-9._-]+\\?)+` and those after it. -/
def behindBackslashes : Bytes → Bytes
  | [] => []
  | byte :: rest =>
      if isPathByte byte then behindBackslashes rest
      else if byte = 0x5c then
        if rest.head?.any isPathByte then behindBackslashes rest else rest
      else byte :: rest

/-- `(?:\/[a-zA-Z0-9._-]+)+|(?:[a-zA-Z]:\\(?:[a-zA-Z0-9._-]+\\?)+)` -/
def behindPath : Bytes → Option Bytes
  | [] => none
  | byte :: rest =>
      if byte = 0x2f then
        if rest.head?.any isPathByte then some (behindSlashes rest) else none
      else if (digitValue byte).any (10 ≤ ·) ∧ [0x3a, 0x5c] <+: rest ∧
          (rest.drop 2).head?.any isPathByte then
        some (behindBackslashes (rest.drop 2))
      else none

/-- `sensitive_info_masker::mask`. -/
def MaskingConfig.maskText (config : MaskingConfig) (input : Bytes) : Bytes :=
  let result := if config.maskIps then replaceMatches behindIp config.maskIp 0 input else input
  if config.maskPaths then replaceMatches behindPath config.maskPath 0 result else result

example : replaceMatches behindIp (fun _ => ascii "x") 0 (ascii "a 1.22.333.4444 1.2.3") =
    ascii "a x4 1.2.3" := by decide

example : replaceMatches behindPath (fun _ => ascii "x") 0 (ascii "/a/b: C:\\d\\\\e //f") =
    ascii "x: x\\e /x" := by decide

/-! ## Names that are masked alike -/

/-- The path without its directory. -/
def baseName (path : Bytes) : Bytes :=
  match findLastOf isSeparator path with
  | none => path
  | some lastSep => path.drop (lastSep + 1)

/-- Where the extension of a name begins; a dot at the beginning of the name begins none. -/
def stemLength (name : Bytes) : Nat :=
  match findLastOf isDot name with
  | some (before + 1) => before + 1
  | _ => name.length

def stem (name : Bytes) : Bytes :=
  name.take (stemLength name)

def extension (name : Bytes) : Bytes :=
  name.drop (stemLength name)

/-- Paths of one length with the same separators, the same extension and the same first characters
of the base name. -/
structure AlikeIn (config : MaskingConfig) (first second : Bytes) : Prop where
  length : first.length = second.length
  separators : first.map isSeparator = second.map isSeparator
  extension : extension (baseName first) = extension (baseName second)
  visible : (baseName first).take config.visibleChars =
    (baseName second).take config.visibleChars

theorem stemLength_le (name : Bytes) : stemLength name ≤ name.length := by
  unfold stemLength
  split
  · rename_i before found
    exact (findLastOf_lt found).le
  · exact le_rfl

theorem length_stem (name : Bytes) : (stem name).length = stemLength name :=
  List.length_take_of_le (stemLength_le name)

theorem maskFilename_eq (config : MaskingConfig) (name : Bytes) :
    config.maskFilename name =
      if stemLength name ≤ config.visibleChars then name
      else (stem name).take config.visibleChars ++
        config.mask (stemLength name - config.visibleChars) ++ extension name := by
  have short := stemLength_le name
  unfold MaskingConfig.maskFilename
  split
  · rename_i visible
    rw [if_pos (short.trans visible)]
  · rename_i long
    dsimp only
    split
    · rename_i before found
      have position : stemLength name = before + 1 := by rw [stemLength, found]
      have inside := findLastOf_lt found
      have length : (name.take (before + 1)).length = before + 1 :=
        List.length_take_of_le inside.le
      rw [length, stem, extension, position]
    · rename_i noExtension
      have position : stemLength name = name.length := by
        unfold stemLength
        split
        · rename_i before found
          exact absurd found (noExtension before)
        · rfl
      rw [stem, extension, position, List.take_length, List.drop_length, if_neg long,
        List.append_nil]

theorem maskFilename_congr {config : MaskingConfig} {first second : Bytes}
    (length : first.length = second.length) (extensions : extension first = extension second)
    (visible : first.take config.visibleChars = second.take config.visibleChars) :
    config.maskFilename first = config.maskFilename second := by
  have lengths := congrArg List.length extensions
  rw [extension, extension, List.length_drop, List.length_drop, length] at lengths
  have firstShort := stemLength_le first
  have secondShort := stemLength_le second
  have stems : stemLength first = stemLength second := by omega
  have shown : (stem first).take config.visibleChars = (stem second).take config.visibleChars := by
    rw [stem, stem, List.take_take, List.take_take, min_comm, ← List.take_take, visible, stems,
      List.take_take, min_comm]
  rw [maskFilename_eq, maskFilename_eq, stems, shown, extensions]
  split
  · rename_i all
    have firstAll := length_stem first
    have secondAll := length_stem second
    rw [List.take_of_length_le (by omega), List.take_of_length_le (by omega)] at shown
    rw [← List.take_append_drop (stemLength first) first,
      ← List.take_append_drop (stemLength second) second]
    exact congrArg₂ (· ++ ·) shown extensions
  · rfl

theorem maskPath_congr {config : MaskingConfig} (paths : config.maskPaths = true)
    (names : config.maskFilenames = true) {first second : Bytes}
    (alike : AlikeIn config first second) : config.maskPath first = config.maskPath second := by
  have separators := findLastOf_congr alike.separators
  have empty : first = [] ↔ second = [] := by
    rw [← List.length_eq_zero_iff, ← List.length_eq_zero_iff, alike.length]
  have extensions := alike.extension
  have visible := alike.visible
  unfold MaskingConfig.maskPath
  simp only [paths, names, Bool.true_eq_false, false_or, if_true, empty, separators]
  split
  · rename_i nothing
    rw [empty.mpr nothing, nothing]
  · unfold baseName at extensions visible
    rw [separators] at extensions visible
    cases last : findLastOf isSeparator second with
    | none =>
        rw [last] at extensions visible
        exact maskFilename_congr alike.length extensions visible
    | some lastSep =>
        rw [last] at extensions visible
        have lengths : (first.drop (lastSep + 1)).length = (second.drop (lastSep + 1)).length := by
          rw [List.length_drop, List.length_drop, alike.length]
        dsimp only
        rw [maskFilename_congr lengths extensions visible]

end FileTrans.Logging
