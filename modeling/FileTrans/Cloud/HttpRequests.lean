import FileTrans.Cloud.UploadCalls
import FileTrans.Text.Order

/-!
# HTTP requests

Requests as they are handed to an HTTP client.  Headers are kept in a map, in
which each name has one value; a server finds a header by its name in lower
case.
-/

namespace FileTrans.Cloud

open FileTrans.Text

/-- A header: its name and its value. -/
abbrev Header := Bytes × Bytes

/-- A request as it was transmitted, less its `Authorization` header. -/
structure TransmittedRequest where
  method : Bytes
  url : Bytes
  headers : List Header
  body : Bytes

/-- A request as it is handed to the HTTP client. -/
structure SentRequest extends TransmittedRequest where
  authorization : Bytes

/-- `list_objects_options`, as far as a listing uses them. -/
structure ListObjectsOptions where
  startsWith : Option Bytes
  delimiter : Option Bytes
  maxKeys : Nat
  continuationToken : Option Bytes

/-- `std::tolower` of an ASCII character. -/
def toLower (byte : UInt8) : UInt8 :=
  if 0x41 ≤ byte ∧ byte ≤ 0x5a then byte + 0x20 else byte

/-- A header name in lower case. -/
def lowerName (header : Header) : Header :=
  (header.1.map toLower, header.2)

/-- The end of a line. -/
def newline : Bytes := ascii "\n"

/-- The headers by their lower-case names. -/
def sortedHeaders (headers : List Header) : List Header :=
  sortByKey Prod.fst (headers.map lowerName)

def headerLine (header : Header) : Bytes :=
  header.1 ++ ascii ":" ++ header.2 ++ newline

/-- The value of a header, by its lower-case name. -/
def headerValue (name : Bytes) (headers : List Header) : Bytes :=
  ((sortedHeaders headers).find? fun header => header.1 == name).elim [] Prod.snd

/-- Assign to an entry of a `std::map`. -/
def assign (entries : List Header) (entry : Header) : List Header :=
  entries.filter (fun other => other.1 != entry.1) ++ [entry]

/-- A `std::map` after these assignments. -/
def headerMap (assignments : List Header) : List Header :=
  sortByKey Prod.fst (assignments.foldl assign [])

def contentLength (body : Bytes) : Header :=
  (ascii "Content-Length", decimal body.length)

/-! ## Headers with different names -/

variable {entries assignments headers : List Header} {name value : Bytes}

theorem foldl_assign (distinct : ((entries ++ assignments).map Prod.fst).Nodup) :
    assignments.foldl assign entries = entries ++ assignments := by
  induction assignments generalizing entries with
  | nil => rw [List.foldl_nil, List.append_nil]
  | cons entry assignments ih =>
      have new : entries.filter (fun other => other.1 != entry.1) = entries := by
        rw [List.filter_eq_self]
        intro other mem
        rw [bne_iff_ne]
        intro same
        rw [List.map_append, List.map_cons, List.nodup_append] at distinct
        exact distinct.2.2 _ (List.mem_map_of_mem mem) _ List.mem_cons_self same
      have again : ((entries ++ [entry] ++ assignments).map Prod.fst).Nodup := by
        simpa using distinct
      rw [List.foldl_cons, assign, new, ih again, List.append_assoc, List.singleton_append]

theorem headerMap_of_nodup (distinct : (assignments.map Prod.fst).Nodup) :
    headerMap assignments = sortByKey Prod.fst assignments := by
  rw [headerMap, foldl_assign (by simpa using distinct), List.nil_append]

theorem nodup_of_lowerName (distinct : ((headers.map lowerName).map Prod.fst).Nodup) :
    (headers.map Prod.fst).Nodup := by
  have lowered : (headers.map lowerName).map Prod.fst =
      (headers.map Prod.fst).map (List.map toLower) := by
    rw [List.map_map, List.map_map]
    rfl
  rw [lowered] at distinct
  exact distinct.of_map _

theorem headerValue_of_mem (distinct : ((headers.map lowerName).map Prod.fst).Nodup)
    (mem : (name, value) ∈ headers.map lowerName) :
    headerValue name headers = value := by
  have sorted : ((sortedHeaders headers).map Prod.fst).Nodup :=
    (perm_sortByKey.map Prod.fst).nodup_iff.mpr distinct
  have inside : (name, value) ∈ sortedHeaders headers := mem_sortByKey.mpr mem
  rw [headerValue]
  cases found : (sortedHeaders headers).find? fun header => header.1 == name with
  | none =>
      rw [List.find?_eq_none] at found
      exact absurd (found _ inside) (by simp)
  | some header =>
      have named : header.1 = name := by simpa using List.find?_some found
      have same : header = (name, value) :=
        List.inj_on_of_nodup_map sorted (List.mem_of_find?_eq_some found) inside named
      rw [same]
      rfl

end FileTrans.Cloud
