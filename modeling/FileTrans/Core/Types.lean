import FileTrans.Text.Bytes

/-!
# Core types

Error codes, results, transfer identifiers and chunks, as the core headers
declare them.  Header fields keep their machine widths; the reserved padding of
the wire header is never read and is left out.
-/

namespace FileTrans.Core

/-- `uint64_t` arithmetic keeps the low 64 bits. -/
def wrap64 (value : Nat) : Nat :=
  value % 2 ^ 64

/-- `uint64_t` subtraction. -/
def sub64 (left right : Nat) : Nat :=
  wrap64 (left + 2 ^ 64 - right)

theorem wrap64_of_lt {value : Nat} (bounded : value < 2 ^ 64) : wrap64 value = value :=
  Nat.mod_eq_of_lt bounded

theorem sub64_of_le {left right : Nat} (le : right ≤ left) (bounded : left < 2 ^ 64) :
    sub64 left right = left - right := by
  unfold sub64 wrap64
  omega

/-- `error_code` of the core types header. -/
inductive ErrorCode
  | success
  | fileNotFound
  | fileAccessDenied
  | fileAlreadyExists
  | fileTooLarge
  | invalidFilePath
  | fileReadError
  | fileWriteError
  | chunkChecksumError
  | chunkSequenceError
  | chunkSizeError
  | fileHashMismatch
  | invalidChunkIndex
  | missingChunks
  | invalidChunkSize
  | invalidConfiguration
  | connectionFailed
  | connectionTimeout
  | connectionRefused
  | connectionLost
  | serverNotRunning
  | quotaExceeded
  | storageFull
  | internalError
  | notInitialized
  | alreadyInitialized
  | invalidStateTransition
  | transferNotFound
  | transferAlreadyCompleted
  | transferTimeout
  deriving DecidableEq

/-- `error`: a code and a message. -/
structure Error where
  code : ErrorCode
  message : Bytes
  deriving DecidableEq

/-- `result<T>`. -/
abbrev Result (α : Type) := Except Error α

/-- `unexpected(error{code, literal})`. -/
def unexpected {α : Type} (code : ErrorCode) (literal : String) : Result α :=
  .error ⟨code, Text.ascii literal⟩

/-- A transfer identifier: sixteen bytes. -/
structure TransferId where
  bytes : Bytes
  length_eq : bytes.length = 16
  deriving DecidableEq

/-- The identifier of sixteen zero bytes. -/
def TransferId.zero : TransferId :=
  ⟨List.replicate 16 0, rfl⟩

/-! ## Chunk flags -/

/-- `chunk_flags`, a set of bits. -/
abbrev ChunkFlags := UInt8

namespace ChunkFlags

def none : ChunkFlags := 0x00

def firstChunk : ChunkFlags := 0x01

def lastChunk : ChunkFlags := 0x02

def compressed : ChunkFlags := 0x04

def encrypted : ChunkFlags := 0x08

end ChunkFlags

def hasFlag (flags flag : ChunkFlags) : Bool :=
  flags &&& flag != 0

/-! ## Chunks -/

/-- `chunk_header`: the fields in front of the data of a chunk on the wire. -/
structure ChunkHeader where
  id : TransferId
  chunkIndex : UInt64
  chunkOffset : UInt64
  originalSize : UInt32
  compressedSize : UInt32
  checksum : UInt32
  flags : ChunkFlags
  deriving DecidableEq

structure Chunk where
  header : ChunkHeader
  data : Bytes
  deriving DecidableEq

def Chunk.isCompressed (chunk : Chunk) : Bool :=
  hasFlag chunk.header.flags ChunkFlags.compressed

end FileTrans.Core
