import FileTrans.Cloud.AzureRequests

/-!
# Signatures of Azure requests

A server computes the signature of a request from the path as it was sent and
from the parameters of its query.  The code signs the name of the blob as it
is, and no parameters.
-/

namespace FileTrans.Cloud

open FileTrans.Text

/-! ## Addresses -/

namespace AzureBlobConfig

variable (config : AzureBlobConfig)

def endpointPath : Bytes :=
  config.endpoint.elim [] AzureEndpoint.path

theorem getBlobEndpoint_eq : ∃ useSsl host, 0x2f ∉ host ∧
    config.getBlobEndpoint = schemeText useSsl ++ (host ++ config.endpointPath) := by
  rw [getBlobEndpoint, endpointPath]
  cases config.endpoint with
  | some endpoint =>
      refine ⟨endpoint.useSsl, endpoint.host, endpoint.host_plain.1, ?_⟩
      simp only [AzureEndpoint.text, List.append_assoc]
      rfl
  | none =>
      refine ⟨config.useSsl, config.accountName ++ ascii ".blob.core.windows.net", ?_, ?_⟩
      · rw [List.mem_append]
        rintro (mem | mem)
        · exact config.accountName_plain.1 mem
        · exact absurd mem (by decide)
      · cases config.useSsl <;> simp [schemeText] <;> rfl

theorem endpointPath_plain : 0x3f ∉ config.endpointPath ∧ 0x23 ∉ config.endpointPath := by
  rw [endpointPath]
  cases config.endpoint with
  | some endpoint => exact endpoint.path_plain
  | none => simp

theorem requestTarget_getBlobEndpoint (rest : Bytes) :
    requestTarget (config.getBlobEndpoint ++ 0x2f :: rest) =
      (config.endpointPath ++ 0x2f :: rest).takeWhile (· != 0x23) := by
  rcases config.getBlobEndpoint_eq with ⟨useSsl, host, slash, same⟩
  have shape : ∃ tail, config.endpointPath ++ 0x2f :: rest = 0x2f :: tail := by
    rw [endpointPath]
    cases config.endpoint with
    | none => exact ⟨rest, rfl⟩
    | some endpoint =>
        rcases endpoint.path_absolute with empty | absolute
        · exact ⟨rest, by simp [empty]⟩
        · rcases List.head?_eq_some_iff.mp absolute with ⟨tail, path⟩
          exact ⟨tail ++ 0x2f :: rest, by simp [path]⟩
  rcases shape with ⟨tail, shape⟩
  rw [same, List.append_assoc, List.append_assoc, shape, requestTarget_append slash]

end AzureBlobConfig

/-! ## Resources -/

namespace SharedKey

variable {base container name name' query text : Bytes}

theorem canonicalizedParameters_cases (query : Bytes) :
    query = [] ∧ canonicalizedParameters query = [] ∨
      ∃ rest, canonicalizedParameters query = 0x0a :: rest := by
  by_cases empty : query = []
  · exact .inl ⟨empty, by rw [empty]; rfl⟩
  · right
    rw [canonicalizedParameters]
    cases sorted : sortByKey Prod.fst ((parseQuery query).map lowerName) with
    | nil =>
        have none : (sortByKey Prod.fst ((parseQuery query).map lowerName)).length =
            ((parseQuery query).map lowerName).length := perm_sortByKey.length_eq
        rw [sorted, List.length_map, parseQuery, if_neg empty, List.length_map] at none
        exact absurd (List.eq_nil_of_length_eq_zero none.symm) (List.splitOn_ne_nil _ _)
    | cons first others => exact ⟨_, rfl⟩

def endsPath (byte : UInt8) : Bool :=
  byte == 0x3f || byte == 0x23

theorem takeWhile_endsPath (text : Bytes) :
    targetPath (text.takeWhile (· != 0x23)) = text.takeWhile fun byte => !endsPath byte := by
  rw [targetPath, List.takeWhile_takeWhile]
  apply congrArg fun keep => text.takeWhile keep
  funext byte
  by_cases question : byte = 0x3f <;> by_cases numberSign : byte = 0x23 <;>
    simp [endsPath, question, numberSign]

theorem endsPath_notMem_iff :
    (∀ byte ∈ text, (!endsPath byte) = true) ↔ 0x3f ∉ text ∧ 0x23 ∉ text := by
  constructor
  · intro plain
    exact ⟨fun mem => absurd (plain _ mem) (by decide), fun mem => absurd (plain _ mem) (by decide)⟩
  · rintro ⟨question, numberSign⟩ byte mem
    simp only [endsPath, Bool.not_eq_true', Bool.or_eq_false_iff, beq_eq_false_iff_ne]
    constructor
    · rintro rfl
      exact question mem
    · rintro rfl
      exact numberSign mem

theorem canonicalizedResource_ne_of_ends (base_plain : 0x3f ∉ base ∧ 0x23 ∉ base)
    (ends : ¬ (0x3f ∉ container ∧ 0x23 ∉ container)) (rest rest' : Bytes) :
    canonicalizedResource ((base ++ 0x2f :: (container ++ rest)).takeWhile (· != 0x23)) ≠
      0x2f :: (container ++ rest') := by
  intro same
  let part := container.takeWhile fun byte => !endsPath byte
  have short : part.length ≠ container.length := by
    intro whole
    apply ends
    rw [← endsPath_notMem_iff, ← List.takeWhile_eq_self_iff]
    exact (List.takeWhile_prefix _).eq_of_length whole
  have cut (tail : Bytes) : (container ++ tail).takeWhile (fun byte => !endsPath byte) = part := by
    rw [List.takeWhile_append, if_neg short]
  have path : (base ++ 0x2f :: (container ++ rest)).takeWhile (fun byte => !endsPath byte) =
      base ++ 0x2f :: part := by
    rw [List.takeWhile_append_of_pos (endsPath_notMem_iff.mpr base_plain),
      List.takeWhile_cons_of_pos (by decide), cut]
  have plain : ∀ byte ∈ base ++ 0x2f :: part, (!endsPath byte) = true := by
    intro byte mem
    rw [← path] at mem
    have kept := List.mem_takeWhile_imp mem
    exact kept
  rw [canonicalizedResource, takeWhile_endsPath, path] at same
  -- up to where the path ends, both are the same
  have heads := congrArg (List.takeWhile fun byte => !endsPath byte) same
  rw [List.takeWhile_append_of_pos plain, List.takeWhile_cons_of_pos (by decide), cut] at heads
  have lengths := congrArg List.length heads
  simp only [List.length_append, List.length_cons] at lengths
  rcases canonicalizedParameters_cases
    (targetQuery ((base ++ 0x2f :: (container ++ rest)).takeWhile (· != 0x23))) with
    ⟨-, none⟩ | ⟨lines, some⟩
  · rw [none, List.append_nil] at same
    have whole := congrArg List.length same
    have le : part.length ≤ container.length := (List.takeWhile_prefix _).length_le
    simp only [List.length_append, List.length_cons] at whole
    omega
  · rw [some, List.takeWhile_cons_of_pos (by decide), List.length_cons] at lengths
    omega

/-- The resource that was signed is the one that was named exactly if nothing comes before the
container, nothing in it ends the path, the name is sent as it is, and there are no parameters. -/
theorem canonicalizedResource_eq_iff (base_plain : 0x3f ∉ base ∧ 0x23 ∉ base)
    (name_plain : 0x3f ∉ name ∧ 0x23 ∉ name) (shorter : name'.length ≤ name.length)
    (begins : query.takeWhile (· != 0x23) = [] → query = []) :
    canonicalizedResource ((renderTarget (base ++ 0x2f :: (container ++ name)) query).takeWhile
        (· != 0x23)) = 0x2f :: (container ++ name') ↔
      base = [] ∧ (0x3f ∉ container ∧ 0x23 ∉ container) ∧ name = name' ∧ query = [] := by
  by_cases plain : 0x3f ∉ container ∧ 0x23 ∉ container
  · have path : 0x3f ∉ base ++ 0x2f :: (container ++ name) ∧
        0x23 ∉ base ++ 0x2f :: (container ++ name) := by
      simp [base_plain, name_plain, plain]
    rcases target_of_plain path.1 path.2 query with ⟨targetPath, targetQuery⟩
    rw [canonicalizedResource, targetPath, targetQuery]
    constructor
    · intro same
      have lengths := congrArg List.length same
      simp only [List.length_append, List.length_cons] at lengths
      have noBase : base = [] := List.eq_nil_of_length_eq_zero (by omega)
      rcases canonicalizedParameters_cases (query.takeWhile (· != 0x23)) with
        ⟨none, lines⟩ | ⟨lines, some⟩
      · rw [noBase, lines, List.append_nil, List.nil_append] at same
        exact ⟨noBase, plain, List.append_cancel_left (List.cons.inj same).2, begins none⟩
      · rw [some, List.length_cons] at lengths
        omega
    · rintro ⟨rfl, -, rfl, rfl⟩
      exact List.append_nil _
  · apply iff_of_false
    · rw [renderTarget, List.append_assoc, List.cons_append, List.append_assoc]
      exact canonicalizedResource_ne_of_ends base_plain plain _ _
    · rintro ⟨-, both, -⟩
      exact plain both

variable {method accountName length length' resource resource' : Bytes} {before after : List Bytes}
variable {headers : List Header}

theorem stringToSign_inj (line : 0x0a ∉ length) (line' : 0x0a ∉ length')
    (same : stringToSign method before length after headers accountName resource =
      stringToSign method before length' after headers accountName resource') :
    resource = resource' := by
  have newline_append (rest : Bytes) : newline ++ rest = 0x0a :: rest := rfl
  simp only [stringToSign, List.append_assoc, newline_append, List.cons_append] at same
  replace same := List.append_cancel_left (List.cons.inj (List.append_cancel_left same)).2
  have lengths := congrArg (List.takeWhile (· != 0x0a)) same
  rw [takeWhile_ne_append_cons line, takeWhile_ne_append_cons line'] at lengths
  subst lengths
  replace same := (List.cons.inj (List.append_cancel_left same)).2
  simpa using same

end SharedKey

/-! ## Headers -/

section Headers

variable {headers : List Header} {name : Bytes}

theorem headerValue_of_notMem (notMem : name ∉ (headers.map lowerName).map Prod.fst) :
    headerValue name headers = [] := by
  rw [headerValue]
  cases found : (sortedHeaders headers).find? fun header => header.1 == name with
  | none => rfl
  | some header =>
      have named : header.1 = name := by simpa using List.find?_some found
      have inside := mem_sortByKey.mp (List.mem_of_find?_eq_some found)
      exact absurd (named ▸ List.mem_map_of_mem inside) notMem

/-- Names of headers that are told apart in lower case. -/
def knownNames : List Bytes :=
  SharedKey.headersBefore ++ [ascii "Content-Length"] ++ SharedKey.headersAfter ++
    [ascii "x-ms-version", ascii "x-ms-date", ascii "x-ms-blob-content-type"]

theorem eq_of_lowerName {first second : Bytes} (firstKnown : first ∈ knownNames)
    (secondKnown : second ∈ knownNames) (same : first.map toLower = second.map toLower) :
    first = second := by
  have distinct : (knownNames.map (List.map toLower)).Nodup := by decide
  exact List.inj_on_of_nodup_map distinct firstKnown secondKnown same

theorem getHeader_eq_headerValue (distinct : ((headers.map lowerName).map Prod.fst).Nodup)
    (known : ∀ header ∈ headers, header.1 ∈ knownNames) (nameKnown : name ∈ knownNames) :
    getHeader headers name = headerValue (name.map toLower) headers := by
  rw [getHeader]
  cases found : headers.find? fun header => header.1 == name with
  | some header =>
      have named : header.1 = name := by simpa using List.find?_some found
      have inside : lowerName header ∈ headers.map lowerName :=
        List.mem_map_of_mem (List.mem_of_find?_eq_some found)
      rw [lowerName, named] at inside
      exact (headerValue_of_mem distinct inside).symm
  | none =>
      symm
      apply headerValue_of_notMem
      intro mem
      rw [List.map_map] at mem
      rcases List.mem_map.mp mem with ⟨header, inside, lowered⟩
      have named := eq_of_lowerName (known header inside) nameKnown lowered
      rw [List.find?_eq_none] at found
      exact found header inside (by simp [named])

theorem headerMap_filter (distinct : ((headers.map lowerName).map Prod.fst).Nodup)
    (keep : Header → Bool) :
    headerMap ((headers.map lowerName).filter keep) = (sortedHeaders headers).filter keep := by
  have fewer : (((headers.map lowerName).filter keep).map Prod.fst).Nodup :=
    distinct.sublist (List.filter_sublist.map Prod.fst)
  have same : ((headers.map lowerName).filter keep).Perm ((sortedHeaders headers).filter keep) :=
    perm_sortByKey.symm.filter keep
  rw [headerMap_of_nodup fewer, sortByKey_eq_of_perm fewer same]
  exact sortByKey_of_pairwise ((pairwise_sortByKey distinct).filter keep)

end Headers

/-! ## Requests -/

namespace AzureClient

variable (client : AzureClient) (date : Bytes) (operation : AzureOperation)

/-- The headers as they were assigned. -/
def assignedHeaders : List Header :=
  [(ascii "x-ms-version", client.config.apiVersion), (ascii "x-ms-date", date)] ++
    client.moreHeaders operation

theorem assignedHeaders_names :
    (((client.assignedHeaders date operation).map lowerName).map Prod.fst).Nodup ∧
      ∀ header ∈ client.assignedHeaders date operation, header.1 ∈ knownNames := by
  have names (known : List Bytes) (same : (client.assignedHeaders date operation).map Prod.fst =
      known) (distinct : (known.map (List.map toLower)).Nodup)
      (inside : ∀ name ∈ known, name ∈ knownNames) :
      (((client.assignedHeaders date operation).map lowerName).map Prod.fst).Nodup ∧
        ∀ header ∈ client.assignedHeaders date operation, header.1 ∈ knownNames := by
    subst same
    constructor
    · rw [List.map_map] at distinct ⊢
      exact distinct
    · intro header mem
      exact inside _ (List.mem_map_of_mem mem)
  cases operation with
  | uploadBlock blobName blockId data =>
      exact names [ascii "x-ms-version", ascii "x-ms-date", ascii "Content-Length",
        ascii "Content-Type"] rfl (by decide) (by decide)
  | commitBlockList blobName blockIds =>
      exact names [ascii "x-ms-version", ascii "x-ms-date", ascii "Content-Type",
        ascii "Content-Length", ascii "x-ms-blob-content-type"] rfl (by decide) (by decide)
  | fetchRange blobName start final =>
      exact names [ascii "x-ms-version", ascii "x-ms-date", ascii "Range"] rfl (by decide)
        (by decide)
  | initializeDownload blobName =>
      exact names [ascii "x-ms-version", ascii "x-ms-date"] rfl (by decide) (by decide)
  | download key =>
      exact names [ascii "x-ms-version", ascii "x-ms-date"] rfl (by decide) (by decide)
  | deleteObject key =>
      exact names [ascii "x-ms-version", ascii "x-ms-date"] rfl (by decide) (by decide)
  | objectExists key =>
      exact names [ascii "x-ms-version", ascii "x-ms-date"] rfl (by decide) (by decide)
  | getMetadata key =>
      exact names [ascii "x-ms-version", ascii "x-ms-date"] rfl (by decide) (by decide)
  | listObjects options =>
      exact names [ascii "x-ms-version", ascii "x-ms-date"] rfl (by decide) (by decide)

theorem perm_headers :
    (client.headers date operation).Perm (client.assignedHeaders date operation) := by
  rw [headers, headerMap_of_nodup]
  · exact perm_sortByKey
  · exact nodup_of_lowerName (client.assignedHeaders_names date operation).1

theorem nodup_headers :
    (((client.headers date operation).map lowerName).map Prod.fst).Nodup :=
  (((client.perm_headers date operation).map lowerName).map Prod.fst).nodup_iff.mpr
    (client.assignedHeaders_names date operation).1

theorem getHeader_headers {name : Bytes} (known : name ∈ knownNames) :
    getHeader (client.headers date operation) name =
      headerValue (name.map toLower) (client.headers date operation) := by
  apply getHeader_eq_headerValue (client.nodup_headers date operation) _ known
  intro header mem
  exact (client.assignedHeaders_names date operation).2 header
    ((client.perm_headers date operation).mem_iff.mp mem)

theorem authorization_request :
    (client.request date operation).authorization =
      SharedKey.authorization client.hmacSha256 client.config.accountName client.accountKey
        (SharedKey.stringToSign operation.method
          (SharedKey.headerValues SharedKey.headersBefore (client.headers date operation))
          operation.signedLength
          (SharedKey.headerValues SharedKey.headersAfter (client.headers date operation))
          (SharedKey.canonicalizedHeaders (client.headers date operation))
          client.config.accountName (operation.resource client.config)) := by
  have before : SharedKey.headerValues SharedKey.headersBefore (client.headers date operation) =
      SharedKey.headersBefore.map (getHeader (client.headers date operation)) := by
    apply List.map_congr_left
    intro name mem
    exact (client.getHeader_headers date operation
      (List.mem_append_left _ (List.mem_append_left _ (List.mem_append_left _ mem)))).symm
  have after : SharedKey.headerValues SharedKey.headersAfter (client.headers date operation) =
      SharedKey.headersAfter.map (getHeader (client.headers date operation)) := by
    apply List.map_congr_left
    intro name mem
    exact (client.getHeader_headers date operation
      (List.mem_append_left _ (List.mem_append_right _ mem))).symm
  have service := headerMap_filter (client.nodup_headers date operation) SharedKey.isServiceHeader
  have line : headerLine = fun header => header.1 ++ (ascii ":" ++ (header.2 ++ newline)) := by
    funext header
    rw [headerLine, List.append_assoc, List.append_assoc]
  have kept : SharedKey.isServiceHeader =
      fun header => (ascii "x-ms-").isPrefixOf header.1 := rfl
  rw [SharedKey.canonicalizedHeaders, ← service, before, after, kept]
  simp [request, createAuthorizationHeader, SharedKey.authorization, SharedKey.stringToSign,
    SharedKey.headersBefore, SharedKey.headersAfter, line]

end AzureClient

namespace AzureOperation

variable (config : AzureBlobConfig) (operation : AzureOperation)

/-- The name of the blob in the path. -/
def pathName : Bytes :=
  operation.blobName.elim [] fun blobName => ascii "/" ++ urlEncode false blobName

/-- The name of the blob in the resource. -/
def resourceName : Bytes :=
  operation.blobName.elim [] fun blobName => ascii "/" ++ blobName

theorem length_resourceName_le : operation.resourceName.length ≤ operation.pathName.length := by
  rw [resourceName, pathName]
  cases operation.blobName with
  | none => exact Nat.le_refl _
  | some blobName => simpa using length_le_length_urlEncode false blobName

theorem pathName_eq_iff : operation.pathName = operation.resourceName ↔
    ∀ byte ∈ operation.blobName.getD [], isKept false byte = true := by
  rw [resourceName, pathName]
  cases operation.blobName with
  | none => simp
  | some blobName => simpa using urlEncode_eq_self_iff

theorem pathName_plain : 0x3f ∉ operation.pathName ∧ 0x23 ∉ operation.pathName := by
  rw [pathName]
  cases operation.blobName with
  | none => simp
  | some blobName =>
      have question : (0x3f : UInt8) ∉ urlEncode false blobName := notMem_urlEncode rfl (by decide)
      have numberSign : (0x23 : UInt8) ∉ urlEncode false blobName :=
        notMem_urlEncode rfl (by decide)
      have slash : ascii "/" = [0x2f] := rfl
      simp [slash, question, numberSign]

theorem query_begins :
    operation.query.takeWhile (· != 0x23) = [] → operation.query = [] := by
  cases operation with
  | uploadBlock blobName blockId data => intro empty; contradiction
  | commitBlockList blobName blockIds => intro empty; contradiction
  | listObjects options => intro empty; contradiction
  | initializeDownload blobName => exact fun _ => rfl
  | fetchRange blobName start final => exact fun _ => rfl
  | download key => exact fun _ => rfl
  | deleteObject key => exact fun _ => rfl
  | objectExists key => exact fun _ => rfl
  | getMetadata key => exact fun _ => rfl

/-- The resource of an operation is the one that is named exactly if the endpoint has no path, the
container does not end the path, the name of the blob is sent as it is, and there is no query. -/
theorem canonicalizedResource_url_eq_iff :
    SharedKey.canonicalizedResource (requestTarget (operation.url config)) =
        operation.resource config ↔
      config.endpointPath = [] ∧ (0x3f ∉ config.container ∧ 0x23 ∉ config.container) ∧
        operation.pathName = operation.resourceName ∧ operation.query = [] := by
  have target : requestTarget (operation.url config) =
      (renderTarget (config.endpointPath ++ 0x2f :: (config.container ++ operation.pathName))
        operation.query).takeWhile (· != 0x23) := by
    have url : operation.url config = config.getBlobEndpoint ++
        0x2f :: renderTarget (config.container ++ operation.pathName) operation.query := rfl
    rw [url, config.requestTarget_getBlobEndpoint]
    simp only [renderTarget, List.append_assoc, List.cons_append]
  rw [target, ← SharedKey.canonicalizedResource_eq_iff config.endpointPath_plain
    operation.pathName_plain operation.length_resourceName_le operation.query_begins]
  rfl

/-- The blob that the request names, if it has no parameters. -/
def wholeBlob : AzureOperation → Option Bytes
  | initializeDownload blobName => some blobName
  | fetchRange blobName _ _ => some blobName
  | download key => some key
  | deleteObject key => some key
  | objectExists key => some key
  | getMetadata key => some key
  | _ => none

theorem wholeBlob_iff : operation.pathName = operation.resourceName ∧ operation.query = [] ↔
    ∃ blobName, operation.wholeBlob = some blobName ∧
      ∀ byte ∈ blobName, isKept false byte = true := by
  have queried (asks : operation.query ≠ []) (none : operation.wholeBlob = none) :
      operation.pathName = operation.resourceName ∧ operation.query = [] ↔
        ∃ blobName, operation.wholeBlob = some blobName ∧
          ∀ byte ∈ blobName, isKept false byte = true := by
    rw [none]
    exact iff_of_false (fun both => asks both.2) (by simp)
  have named (name : Bytes) (blob : operation.blobName = some name) (asks : operation.query = [])
      (whole : operation.wholeBlob = some name) :
      operation.pathName = operation.resourceName ∧ operation.query = [] ↔
        ∃ blobName, operation.wholeBlob = some blobName ∧
          ∀ byte ∈ blobName, isKept false byte = true := by
    rw [pathName_eq_iff, blob, whole, asks]
    simp
  cases operation with
  | uploadBlock blobName blockId data => exact queried (List.cons_ne_nil _ _) rfl
  | commitBlockList blobName blockIds => exact queried (List.cons_ne_nil _ _) rfl
  | listObjects options => exact queried (List.cons_ne_nil _ _) rfl
  | initializeDownload blobName => exact named blobName rfl rfl rfl
  | fetchRange blobName start final => exact named blobName rfl rfl rfl
  | download key => exact named key rfl rfl rfl
  | deleteObject key => exact named key rfl rfl rfl
  | objectExists key => exact named key rfl rfl rfl
  | getMetadata key => exact named key rfl rfl rfl

theorem signedLength_of_query_eq_nil (asks : operation.query = []) :
    operation.signedLength = [] := by
  cases operation with
  | uploadBlock blobName blockId data => exact absurd asks (List.cons_ne_nil _ _)
  | commitBlockList blobName blockIds => exact absurd asks (List.cons_ne_nil _ _)
  | listObjects options => rfl
  | initializeDownload blobName => rfl
  | fetchRange blobName start final => rfl
  | download key => rfl
  | deleteObject key => rfl
  | objectExists key => rfl
  | getMetadata key => rfl

end AzureOperation

/-! ## Lengths -/

theorem newline_notMem_decimal (number : Nat) : (0x0a : UInt8) ∉ decimal number := by
  intro mem
  exact absurd (isDigit_of_mem_decimal mem) (by decide)

theorem AzureOperation.newline_notMem_signedLength (operation : AzureOperation) :
    (0x0a : UInt8) ∉ operation.signedLength := by
  cases operation with
  | uploadBlock blobName blockId data => exact newline_notMem_decimal _
  | commitBlockList blobName blockIds => exact newline_notMem_decimal _
  | initializeDownload blobName => exact List.not_mem_nil
  | fetchRange blobName start final => exact List.not_mem_nil
  | download key => exact List.not_mem_nil
  | deleteObject key => exact List.not_mem_nil
  | objectExists key => exact List.not_mem_nil
  | getMetadata key => exact List.not_mem_nil
  | listObjects options => exact List.not_mem_nil

namespace AzureClient

variable (client : AzureClient) (date : Bytes) (operation : AzureOperation)

theorem headerValue_contentLength :
    headerValue (ascii "content-length") (client.headers date operation) =
      operation.signedLength := by
  have present (value : Bytes)
      (mem : (ascii "Content-Length", value) ∈ client.assignedHeaders date operation) :
      headerValue (ascii "content-length") (client.headers date operation) = value := by
    apply headerValue_of_mem (client.nodup_headers date operation)
    exact List.mem_map_of_mem (f := lowerName)
      ((client.perm_headers date operation).mem_iff.mpr mem)
  have missing (names : List Bytes)
      (same : ((client.assignedHeaders date operation).map lowerName).map Prod.fst = names)
      (notMem : ascii "content-length" ∉ names) :
      headerValue (ascii "content-length") (client.headers date operation) = [] := by
    apply headerValue_of_notMem
    rwa [(((client.perm_headers date operation).map lowerName).map Prod.fst).mem_iff, same]
  let shared := [ascii "x-ms-version", ascii "x-ms-date"]
  cases operation with
  | uploadBlock blobName blockId data => exact present _ (.tail _ (.tail _ (.head _)))
  | commitBlockList blobName blockIds => exact present _ (.tail _ (.tail _ (.tail _ (.head _))))
  | fetchRange blobName start final => exact missing (shared ++ [ascii "range"]) rfl (by decide)
  | initializeDownload blobName => exact missing shared rfl (by decide)
  | download key => exact missing shared rfl (by decide)
  | deleteObject key => exact missing shared rfl (by decide)
  | objectExists key => exact missing shared rfl (by decide)
  | getMetadata key => exact missing shared rfl (by decide)
  | listObjects options => exact missing shared rfl (by decide)

/-- The same client with another keyed hash. -/
def withHash (hmacSha256 : Bytes → Bytes → Bytes) : AzureClient :=
  { client with hmacSha256 := hmacSha256 }

/-- Whatever the keyed hash, the request for the operation is signed as a server expects it. -/
def Verifies : Prop :=
  ∀ hmacSha256, ((client.withHash hmacSha256).request date operation).authorization =
    SharedKey.expected hmacSha256 client.config.accountName client.accountKey
      ((client.withHash hmacSha256).request date operation).toTransmittedRequest

theorem verifies_iff_resource :
    client.Verifies date operation ↔
      SharedKey.canonicalizedResource (requestTarget (operation.url client.config)) =
        operation.resource client.config := by
  have signed (hmacSha256 : Bytes → Bytes → Bytes) :=
    (client.withHash hmacSha256).authorization_request date operation
  have sentLength : SharedKey.contentLength (client.headers date operation) =
      if operation.signedLength = ascii "0" then [] else operation.signedLength := by
    rw [SharedKey.contentLength, headerValue_contentLength]
  have line := operation.newline_notMem_signedLength
  have sentLine : (0x0a : UInt8) ∉ SharedKey.contentLength (client.headers date operation) := by
    rw [sentLength]
    split
    · exact List.not_mem_nil
    · exact line
  constructor
  · intro verifies
    have same := (signed fun _ message => message).symm.trans (verifies fun _ message => message)
    have texts := base64Encode_injective (List.append_cancel_left same)
    exact (SharedKey.stringToSign_inj line sentLine texts).symm
  · intro same hmacSha256
    have asks := ((operation.canonicalizedResource_url_eq_iff client.config).mp same).2.2.2
    have noLength := operation.signedLength_of_query_eq_nil asks
    have expected : SharedKey.contentLength (client.headers date operation) =
        operation.signedLength := by
      rw [sentLength, noLength]
      rfl
    have texts : SharedKey.stringToSign operation.method
        (SharedKey.headerValues SharedKey.headersBefore (client.headers date operation))
        operation.signedLength
        (SharedKey.headerValues SharedKey.headersAfter (client.headers date operation))
        (SharedKey.canonicalizedHeaders (client.headers date operation))
        client.config.accountName (operation.resource client.config) =
      SharedKey.stringToSign operation.method
        (SharedKey.headerValues SharedKey.headersBefore (client.headers date operation))
        (SharedKey.contentLength (client.headers date operation))
        (SharedKey.headerValues SharedKey.headersAfter (client.headers date operation))
        (SharedKey.canonicalizedHeaders (client.headers date operation)) client.config.accountName
        (SharedKey.canonicalizedResource (requestTarget (operation.url client.config))) := by
      rw [same, expected]
    exact (signed hmacSha256).trans (congrArg
      (SharedKey.authorization hmacSha256 client.config.accountName client.accountKey) texts)

end AzureClient

/-- A request is signed as a server expects it exactly if the endpoint has no path, the name of the
container does not end the path, and the request is about a blob whose name is sent as it is,
without parameters. -/
theorem sharedKey_iff (client : AzureClient) (date : Bytes) (operation : AzureOperation) :
    client.Verifies date operation ↔
      client.config.endpointPath = [] ∧
        (0x3f ∉ client.config.container ∧ 0x23 ∉ client.config.container) ∧
        ∃ blobName, operation.wholeBlob = some blobName ∧
          ∀ byte ∈ blobName, isKept false byte = true := by
  rw [client.verifies_iff_resource, AzureOperation.canonicalizedResource_url_eq_iff,
    operation.wholeBlob_iff]

/-- A container of a storage account. -/
def accountConfig : AzureBlobConfig where
  accountName := ascii "account"
  container := ascii "files"
  endpoint := none
  useSsl := true
  apiVersion := ascii "2023-11-03"
  accountName_plain := by decide

/-- A listing does not verify. -/
theorem sharedKey_not_listing :
    ¬ ∀ (client : AzureClient) (date : Bytes) (operation : AzureOperation),
      client.Verifies date operation := by
  intro claim
  let client : AzureClient := ⟨accountConfig, ascii "key", fun _ message => message, id⟩
  have verifies := claim client (ascii "Wed, 01 Jan 2025 00:00:00 GMT")
    (.listObjects ⟨none, some (ascii "/"), 1000, none⟩)
  rw [client.verifies_iff_resource, AzureOperation.canonicalizedResource_url_eq_iff] at verifies
  exact absurd verifies.2.2.2 (by decide)

end FileTrans.Cloud
