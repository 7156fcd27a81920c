import FileTrans.Encryption.KeyManager
import FileTrans.Text.Numeral

/-!
# Metadata that are exported and imported

The identifier of a key, its version and its usage count are joined by bars.
The import cuts at the first and at the last bar, so that an identifier with a
bar does not come back; and it reads two numbers, where a text without one ends
it by an exception and a number out of range loses digits or its sign.
-/

namespace FileTrans.Encryption

open FileTrans.Core FileTrans.Text

/-- `|`. -/
def bar : UInt8 := 0x7c

/-- The position that `rfind` finds. -/
def rfind (byte : UInt8) (text : Bytes) : Option Nat :=
  (text.reverse.idxOf? byte).map fun back => text.length - 1 - back

/-- The text that `export_key_metadata` writes. -/
def KeyMetadata.serialized (metadata : KeyMetadata) : Bytes :=
  metadata.keyId ++ [bar] ++ decimal metadata.version.toNat ++ [bar] ++
    decimal metadata.usageCount.toNat

def KeyManager.exportKeyMetadata (manager : KeyManager) (keyId : KeyId) : Result Bytes :=
  match manager.metadataCache keyId with
  | none => unexpected .fileNotFound "Key metadata not found"
  | some metadata => .ok metadata.serialized

/-- What `import_key_metadata` reads as the identifier, the version and the usage count. -/
def metadataFields (serialized : Bytes) : Option (Bytes × Bytes × Bytes) :=
  match serialized.idxOf? bar, rfind bar serialized with
  | some pos1, some pos2 =>
      if pos1 = pos2 then none
      else
        some (serialized.take pos1, (serialized.drop (pos1 + 1)).take (pos2 - pos1 - 1),
          serialized.drop (pos2 + 1))
  | _, _ => none

/-- `import_key_metadata`.  An exception is a missing outcome. -/
def importKeyMetadata (now : Time) (data : Bytes) : Option (Result KeyMetadata) :=
  match metadataFields data with
  | none => some (unexpected .invalidConfiguration "Invalid metadata format")
  | some (keyId, version, usageCount) => do
      let version ← stoul 10 version
      let usageCount ← stoull 10 usageCount
      return .ok { KeyMetadata.create keyId none now with
        version := version.toUInt32
        usageCount := usageCount }

/-! ## Cutting at the bars -/

theorem idxOf?_first {byte : UInt8} {before : Bytes} (absent : byte ∉ before) (rest : Bytes) :
    (before ++ byte :: rest).idxOf? byte = some before.length := by
  induction before with
  | nil => simp [List.idxOf?_cons]
  | cons first before ih =>
      rw [List.mem_cons, not_or] at absent
      rw [List.cons_append, List.idxOf?_cons, ih absent.2]
      simp [Ne.symm absent.1]

theorem rfind_last {byte : UInt8} {after : Bytes} (absent : byte ∉ after) (before : Bytes) :
    rfind byte (before ++ byte :: after) = some before.length := by
  have reversed : (before ++ byte :: after).reverse = after.reverse ++ byte :: before.reverse := by
    simp
  rw [rfind, reversed, idxOf?_first (by rwa [List.mem_reverse])]
  simp

theorem metadataFields_join {first last : Bytes} (before : bar ∉ first) (after : bar ∉ last)
    (middle : Bytes) :
    metadataFields (first ++ [bar] ++ middle ++ [bar] ++ last) = some (first, middle, last) := by
  have left : first ++ [bar] ++ middle ++ [bar] ++ last =
      first ++ bar :: (middle ++ bar :: last) := by
    simp
  have right : first ++ [bar] ++ middle ++ [bar] ++ last =
      (first ++ bar :: middle) ++ bar :: last := by
    simp
  have length : (first ++ bar :: middle).length = first.length + (middle.length + 1) := by simp
  have pos1 : (first ++ [bar] ++ middle ++ [bar] ++ last).idxOf? bar = some first.length := by
    rw [left, idxOf?_first before]
  have pos2 : rfind bar (first ++ [bar] ++ middle ++ [bar] ++ last) =
      some (first.length + (middle.length + 1)) := by
    rw [right, rfind_last after, length]
  have between : first.length + (middle.length + 1) - first.length - 1 = middle.length := by
    omega
  have inner : (first ++ [bar] ++ middle ++ [bar] ++ last).drop (first.length + 1) =
      middle ++ bar :: last := by
    rw [left, ← List.drop_drop, List.drop_left]
    rfl
  have rest : (first ++ [bar] ++ middle ++ [bar] ++ last).drop
      (first.length + (middle.length + 1) + 1) = last := by
    rw [right, ← length, ← List.drop_drop, List.drop_left]
    rfl
  rw [metadataFields, pos1, pos2]
  dsimp only
  rw [if_neg (by omega), between, inner, rest, List.take_left, left, List.take_left]

theorem bar_notMem_decimal (number : Nat) : bar ∉ decimal number := by
  intro mem
  have digit := isDigit_of_mem_decimal mem
  contradiction

theorem metadataFields_serialized (metadata : KeyMetadata) (first middle : Bytes)
    (before : bar ∉ first) (split : metadata.keyId ++ [bar] ++ decimal metadata.version.toNat =
      first ++ [bar] ++ middle) :
    metadataFields metadata.serialized =
      some (first, middle, decimal metadata.usageCount.toNat) := by
  rw [KeyMetadata.serialized, split]
  exact metadataFields_join before (bar_notMem_decimal _) middle

/-! ## Reading the numbers -/

theorem stoull_of_numeral {base value : Nat} {text : Bytes}
    (reads : numeral base text = some (value : Int)) (bounded : value < 2 ^ 64) :
    stoull base text = some (UInt64.ofNat value) := by
  rw [stoull, reads, Option.filter_some, if_pos (by simpa using bounded), Option.map_some,
    UInt64.ofInt]
  congr 2
  omega

/-- The numbers of the fields are in range. -/
structure Readable (version usageCount : Bytes) : Prop where
  version : ∃ number : Nat, numeral 10 version = some (number : Int) ∧ number < 2 ^ 32
  usageCount : ∃ number : Nat, numeral 10 usageCount = some (number : Int) ∧ number < 2 ^ 64

/-- The metadata have the numbers of the fields. -/
structure Faithful (version usageCount : Bytes) (metadata : KeyMetadata) : Prop where
  version : numeral 10 version = some (metadata.version.toNat : Int)
  usageCount : numeral 10 usageCount = some (metadata.usageCount.toNat : Int)

theorem importKeyMetadata_of_readable (now : Time) {data keyId version usageCount : Bytes}
    (fields : metadataFields data = some (keyId, version, usageCount))
    (readable : Readable version usageCount) :
    ∃ metadata, importKeyMetadata now data = some (.ok metadata) ∧ metadata.keyId = keyId ∧
      Faithful version usageCount metadata := by
  obtain ⟨⟨number, reads, bounded⟩, count, counts, limited⟩ := readable
  have read := stoull_of_numeral reads (bounded.trans (by norm_num))
  have counted := stoull_of_numeral counts limited
  rw [importKeyMetadata, fields]
  simp only [stoul, read, counted]
  refine ⟨_, rfl, rfl, ?_, ?_⟩
  · have same : (UInt64.ofNat number).toUInt32.toNat = number := by
      rw [UInt64.toNat_toUInt32, UInt64.toNat_ofNat_of_lt' (bounded.trans (by norm_num)),
        Nat.mod_eq_of_lt bounded]
    rw [reads, same]
  · rw [counts, UInt64.toNat_ofNat_of_lt' limited]

/-! ## Both ways -/

/-- What is exported of the metadata is imported with the same identifier, version and usage
count. -/
def RoundTrips (metadata : KeyMetadata) : Prop :=
  ∀ (manager : KeyManager) (keyId : KeyId) (now : Time),
    manager.metadataCache keyId = some metadata →
      ∃ data imported, manager.exportKeyMetadata keyId = .ok data ∧
        importKeyMetadata now data = some (.ok imported) ∧
        imported.keyId = metadata.keyId ∧ imported.version = metadata.version ∧
        imported.usageCount = metadata.usageCount

/-- An import returns, and what it returns has the numbers that the data have. -/
def ImportsSoundly (now : Time) (data : Bytes) : Prop :=
  ∃ outcome, importKeyMetadata now data = some outcome ∧
    ∀ metadata keyId version usageCount, outcome = .ok metadata →
      metadataFields data = some (keyId, version, usageCount) →
        Faithful version usageCount metadata

/-- The data have no three fields, or the last two begin with numbers in range. -/
def NumbersInRange (data : Bytes) : Prop :=
  ∀ keyId version usageCount, metadataFields data = some (keyId, version, usageCount) →
    Readable version usageCount

theorem roundTrips_of_bar_notMem {metadata : KeyMetadata} (plain : bar ∉ metadata.keyId) :
    RoundTrips metadata := by
  intro manager keyId now cached
  have fields := metadataFields_serialized metadata metadata.keyId _ plain rfl
  have version := numeral_decimal metadata.version.toNat
  have count := numeral_decimal metadata.usageCount.toNat
  obtain ⟨imported, outcome, named, faithful⟩ := importKeyMetadata_of_readable now fields
    ⟨⟨_, version, metadata.version.toNat_lt⟩, _, count, metadata.usageCount.toNat_lt⟩
  refine ⟨metadata.serialized, imported, ?_, outcome, named, ?_, ?_⟩
  · rw [KeyManager.exportKeyMetadata, cached]
  · apply UInt32.toNat.inj
    exact Int.ofNat.inj (Option.some.inj (faithful.version.symm.trans version))
  · apply UInt64.toNat.inj
    exact Int.ofNat.inj (Option.some.inj (faithful.usageCount.symm.trans count))

theorem bar_notMem_of_roundTrips {metadata : KeyMetadata} (returns : RoundTrips metadata) :
    bar ∉ metadata.keyId := by
  intro mem
  obtain ⟨first, rest, split, before⟩ := List.eq_append_cons_of_mem mem
  obtain ⟨data, imported, exported, outcome, named, -, -⟩ :=
    returns ⟨fun _ => none, fun _ => some metadata, fun _ => [], ⟨0⟩⟩ [] 0 rfl
  obtain rfl : metadata.serialized = data := Except.ok.inj exported
  have fields := metadataFields_serialized metadata first
    (rest ++ [bar] ++ decimal metadata.version.toNat) before (by rw [split]; simp)
  have same : imported.keyId = first := by
    rw [importKeyMetadata, fields] at outcome
    simp only [Option.bind_eq_bind, Option.bind_eq_some_iff] at outcome
    obtain ⟨_, -, _, -, result⟩ := outcome
    cases result
    rfl
  rw [named] at same
  exact before (same ▸ mem)

theorem importsSoundly_iff (now : Time) (data : Bytes) :
    ImportsSoundly now data ↔ NumbersInRange data := by
  constructor
  · rintro ⟨outcome, returned, faithful⟩ keyId version usageCount fields
    rw [importKeyMetadata, fields] at returned
    simp only [Option.bind_eq_bind, Option.bind_eq_some_iff] at returned
    obtain ⟨_, -, _, -, result⟩ := returned
    cases result
    have exact := faithful _ keyId version usageCount rfl fields
    exact ⟨⟨_, exact.version, UInt32.toNat_lt _⟩, _, exact.usageCount, UInt64.toNat_lt _⟩
  · intro inRange
    cases fields : metadataFields data with
    | none =>
        refine ⟨_, by rw [importKeyMetadata, fields], ?_⟩
        intro metadata keyId version usageCount failed
        contradiction
    | some found =>
        obtain ⟨keyId, version, usageCount⟩ := found
        obtain ⟨metadata, outcome, -, faithful⟩ :=
          importKeyMetadata_of_readable now fields (inRange _ _ _ fields)
        refine ⟨_, outcome, ?_⟩
        intro _ _ _ _ returned same
        cases returned
        cases fields.symm.trans same
        exact faithful

/-- Metadata come back exactly if the identifier has no bar; and an import is sound exactly on
data whose numbers, if there are three fields, are in range. -/
theorem metadata_exchange_iff (metadata : KeyMetadata) (now : Time) (data : Bytes) :
    (RoundTrips metadata ↔ bar ∉ metadata.keyId) ∧
      (ImportsSoundly now data ↔ NumbersInRange data) :=
  ⟨⟨bar_notMem_of_roundTrips, roundTrips_of_bar_notMem⟩, importsSoundly_iff now data⟩

/-- The identifier `a|1` comes back as `a`, with `a|b` the import ends by an exception, and a
version of `2 ^ 32` is read as 0. -/
theorem metadata_exchange_fails :
    (importKeyMetadata 0 (KeyMetadata.serialized (.create (ascii "a|1") none 0))).map
        (Except.map KeyMetadata.keyId) = some (.ok (ascii "a")) ∧
    importKeyMetadata 0 (KeyMetadata.serialized (.create (ascii "a|b") none 0)) = none ∧
    importKeyMetadata 0 (ascii "k||0") = none ∧
    (importKeyMetadata 0 (ascii "k|4294967296|0")).map (Except.map KeyMetadata.version) =
      some (.ok 0) ∧
    ¬ (∀ metadata, RoundTrips metadata) ∧ ¬ ∀ now data, ImportsSoundly now data := by
  refine ⟨by decide +kernel, by decide +kernel, by decide +kernel, by decide +kernel, ?_, ?_⟩
  · intro returns
    exact bar_notMem_of_roundTrips (returns (.create [bar] none 0)) List.mem_cons_self
  · intro sound
    obtain ⟨outcome, returned, -⟩ := sound 0 (ascii "k||0")
    have thrown : importKeyMetadata 0 (ascii "k||0") = none := by decide +kernel
    rw [thrown] at returned
    contradiction

end FileTrans.Encryption
