import FileTrans.Cloud.S3Addresses

/-!
# Signatures of S3 requests

A server computes the signature of a request from what arrives: the path it
decodes and encodes anew, the query it sorts, and the time in the headers.
The code signs the path it was given, the query as it wrote it, and a time that
it reads later.
-/

namespace FileTrans.Cloud

open FileTrans.Text

/-! ## What a signature is made of -/

theorem hexByte_injective : Function.Injective hexByte := by
  intro byte other same
  have values := congrArg (ofDigits 16) same
  rw [ofDigits_hexByte, ofDigits_hexByte] at values
  exact UInt8.toNat_inj.mp values

theorem bytesToHex_injective : Function.Injective bytesToHex := by
  intro bytes others same
  induction bytes generalizing others with
  | nil =>
      cases others with
      | nil => rfl
      | cons other others => simp [bytesToHex, hexByte] at same
  | cons byte bytes ih =>
      cases others with
      | nil => simp [bytesToHex, hexByte] at same
      | cons other others =>
          rw [bytesToHex, bytesToHex, List.flatMap_cons, List.flatMap_cons] at same
          rcases List.append_inj same rfl with ⟨first, rest⟩
          rw [hexByte_injective first, ih rest]

/-- Hashes that hide nothing. -/
def plainHashes : Hashes where
  sha256 := id
  hmacSha256 _ message := message

namespace SignatureV4

variable {accessKeyId secret timestamp timestamp' date date' region signed canonical canonical' :
  Bytes}

theorem authorization_inj (dates : date.length = date'.length)
    (timestamps : timestamp.length = timestamp'.length)
    (same : authorization plainHashes accessKeyId secret timestamp date region signed canonical =
      authorization plainHashes accessKeyId secret timestamp' date' region signed canonical') :
    timestamp = timestamp' ∧ date = date' ∧ canonical = canonical' := by
  simp only [authorization, credentialScope, stringToSign, List.intercalate_cons_cons,
    List.intercalate_singleton, List.append_assoc] at same
  replace same := List.append_cancel_left (List.append_cancel_left (List.append_cancel_left same))
  rcases List.append_inj same dates with ⟨rfl, rest⟩
  replace rest := bytesToHex_injective (by simpa using rest)
  simp only [plainHashes, id] at rest
  rcases List.append_inj (by simpa using rest) timestamps with ⟨rfl, rest⟩
  exact ⟨rfl, rfl, bytesToHex_injective (by simpa using rest)⟩

variable {method path path' query query' payloadHash : Bytes} {headers : List Header}

theorem canonicalRequest_inj (line : 0x0a ∉ path) (line' : 0x0a ∉ path')
    (same : canonicalRequest method path query headers payloadHash =
      canonicalRequest method path' query' headers payloadHash) :
    path = path' ∧ query = query' := by
  have newline_append (rest : Bytes) : newline ++ rest = 0x0a :: rest := rfl
  simp only [canonicalRequest, List.intercalate_cons_cons, List.append_assoc, newline_append]
    at same
  replace same := (List.cons.inj (List.append_cancel_left same)).2
  have paths := congrArg (List.takeWhile (· != 0x0a)) same
  rw [takeWhile_ne_append_cons line, takeWhile_ne_append_cons line'] at paths
  subst paths
  exact ⟨rfl, List.append_cancel_right (List.cons.inj (List.append_cancel_left same)).2⟩

end SignatureV4

/-! ## What is signed and what is expected -/

namespace S3Client

/-- The same client with other hashes. -/
def withHashes (client : S3Client) (hashes : Hashes) : S3Client :=
  { client with hashes := hashes }

variable {client : S3Client} {clock : ClockReadings} {method path query body : Bytes}
variable {moreHeaders headers : List Header}

/-- The names of these headers, of the host, of the time and of the hash of the body differ. -/
def NamesDiffer (moreHeaders : List Header) : Prop :=
  ([ascii "host", ascii "x-amz-date", ascii "x-amz-content-sha256"] ++
    (moreHeaders.map lowerName).map Prod.fst).Nodup

theorem perm_headers (differ : NamesDiffer moreHeaders) :
    (client.signedRequest clock method path query body moreHeaders).headers.Perm
      ([(ascii "Host", client.config.getHost), (ascii "x-amz-date", clock.header.iso8601),
        (ascii "x-amz-content-sha256", bytesToHex (client.hashes.sha256 body))] ++
        moreHeaders) := by
  rw [signedRequest, headerMap_of_nodup]
  · exact perm_sortByKey
  · exact nodup_of_lowerName differ

theorem nodup_headers (differ : NamesDiffer moreHeaders) :
    (((client.signedRequest clock method path query body moreHeaders).headers.map
      lowerName).map Prod.fst).Nodup :=
  (((perm_headers differ).map lowerName).map Prod.fst).nodup_iff.mpr differ

theorem headerMap_headers (differ : NamesDiffer moreHeaders) :
    headerMap ((client.signedRequest clock method path query body moreHeaders).headers.map
      lowerName) = sortedHeaders
        (client.signedRequest clock method path query body moreHeaders).headers :=
  headerMap_of_nodup (nodup_headers differ)

theorem credentialScope_eq (date region : Bytes) :
    date ++ ascii "/" ++ region ++ ascii "/s3/aws4_request" =
      SignatureV4.credentialScope date region := by
  have tail : ascii "/s3/aws4_request" = ascii "/" ++ (ascii "s3" ++ (ascii "/" ++
      ascii "aws4_request")) := rfl
  simp only [SignatureV4.credentialScope, List.intercalate_cons_cons, List.intercalate_singleton,
    List.append_assoc, tail]

theorem canonicalRequest_eq (method path query payloadHash : Bytes) (headers : List Header) :
    method ++ newline ++ path ++ newline ++ query ++ newline ++
        headers.flatMap (fun header => header.1 ++ ascii ":" ++ header.2 ++ newline) ++ newline ++
        SignatureV4.signedHeaders headers ++ newline ++ payloadHash =
      SignatureV4.canonicalRequest method path query headers payloadHash := by
  have lines : headers.flatMap (fun header => header.1 ++ ascii ":" ++ header.2 ++ newline) =
      headers.flatMap headerLine := rfl
  rw [lines]
  simp only [SignatureV4.canonicalRequest, List.intercalate_cons_cons,
    List.intercalate_singleton, List.append_assoc]

theorem createAuthorizationHeader_eq
    (sorted : headerMap (headers.map lowerName) = sortedHeaders headers)
    (dateStamp amzDate payloadHash : Bytes) :
    client.createAuthorizationHeader dateStamp amzDate method path query headers payloadHash =
      SignatureV4.authorization client.hashes client.credentials.accessKeyId
        client.credentials.secretAccessKey amzDate dateStamp client.config.region
        (SignatureV4.signedHeaders (sortedHeaders headers))
        (SignatureV4.canonicalRequest method (urlEncode false path) query
          (sortedHeaders headers) payloadHash) := by
  have title : ascii "AWS4-HMAC-SHA256 Credential=" =
      ascii "AWS4-HMAC-SHA256" ++ ascii " " ++ ascii "Credential=" := rfl
  have names : ascii ", SignedHeaders=" = ascii ", " ++ ascii "SignedHeaders=" := rfl
  have ends : ascii ", Signature=" = ascii ", " ++ ascii "Signature=" := rfl
  rw [createAuthorizationHeader, sorted, ← canonicalRequest_eq, SignatureV4.authorization,
    SignatureV4.stringToSign, ← credentialScope_eq, SignatureV4.signingKey, title, names, ends]
  simp only [SignatureV4.signedHeaders, List.foldl_cons, List.foldl_nil,
    List.intercalate_cons_cons, List.intercalate_singleton, List.append_assoc]

theorem authorization_signedRequest (client : S3Client) (clock : ClockReadings)
    (method path query body : Bytes) (differ : NamesDiffer moreHeaders) :
    let sent := client.signedRequest clock method path query body moreHeaders
    sent.authorization =
      SignatureV4.authorization client.hashes client.credentials.accessKeyId
        client.credentials.secretAccessKey clock.time.iso8601 clock.date.dateStamp
        client.config.region
        (SignatureV4.signedHeaders (sortedHeaders sent.headers))
        (SignatureV4.canonicalRequest method (urlEncode false path) query
          (sortedHeaders sent.headers)
          (bytesToHex (client.hashes.sha256 body))) :=
  createAuthorizationHeader_eq (headerMap_headers differ) _ _ _

theorem expected_signedRequest (client : S3Client) (clock : ClockReadings)
    (method query body : Bytes) {endpoint rest : Bytes} (differ : NamesDiffer moreHeaders)
    (named : client.config.endpoint = some endpoint) (slash : path = 0x2f :: rest) :
    let sent := client.signedRequest clock method path query body moreHeaders
    let target := (renderTarget path query).takeWhile (· != 0x23)
    SignatureV4.expected client.hashes client.credentials.accessKeyId
        client.credentials.secretAccessKey client.config.region sent.toTransmittedRequest =
      SignatureV4.authorization client.hashes client.credentials.accessKeyId
        client.credentials.secretAccessKey clock.header.iso8601 clock.header.dateStamp
        client.config.region
        (SignatureV4.signedHeaders (sortedHeaders sent.headers))
        (SignatureV4.canonicalRequest method (urlEncode false (percentDecode (targetPath target)))
          (canonicalQuery (targetQuery target)) (sortedHeaders sent.headers)
          (bytesToHex (client.hashes.sha256 body))) := by
  intro sent target
  have inside {name value : Bytes} (mem : (name, value) ∈
      [(ascii "host", client.config.getHost), (ascii "x-amz-date", clock.header.iso8601),
        (ascii "x-amz-content-sha256", bytesToHex (client.hashes.sha256 body))]) :
      headerValue name sent.headers = value := by
    apply headerValue_of_mem (nodup_headers differ)
    apply ((perm_headers differ).map lowerName).mem_iff.mpr
    rw [List.map_append]
    exact List.mem_append_left _ mem
  have time := inside (.tail _ (.head _))
  have payload := inside (.tail _ (.tail _ (.head _)))
  have host : client.config.getHost = (parseEndpoint endpoint).host := by
    rw [S3Config.getHost, named]
  have sentTarget : requestTarget sent.url = target := by
    have url : sent.url = schemeText client.config.useSsl ++
        ((parseEndpoint endpoint).host ++ 0x2f :: renderTarget rest query) := by
      rw [← renderTarget_cons, ← slash, ← host, ← List.append_assoc]
      rfl
    rw [url, requestTarget_append (notMem_host endpoint).1, ← renderTarget_cons, ← slash]
  rw [SignatureV4.expected, time, payload, sentTarget, UtcTime.take_iso8601]
  rfl

theorem signedRequest_iff (client : S3Client) (clock : ClockReadings) (method query body : Bytes)
    {endpoint rest : Bytes} (differ : NamesDiffer moreHeaders)
    (named : client.config.endpoint = some endpoint) (slash : path = 0x2f :: rest) :
    (∀ hashes,
      let sent := (client.withHashes hashes).signedRequest clock method path query body moreHeaders
      sent.authorization = SignatureV4.expected hashes client.credentials.accessKeyId
        client.credentials.secretAccessKey client.config.region sent.toTransmittedRequest) ↔
      clock.header = clock.time ∧ IsPlainPath path ∧ canonicalQuery query = query := by
  have line (text : Bytes) : 0x0a ∉ urlEncode false text := notMem_urlEncode rfl (by decide)
  have signed (hashes : Hashes) :=
    authorization_signedRequest (client.withHashes hashes) clock method path query body differ
  have expected (hashes : Hashes) :=
    expected_signedRequest (client.withHashes hashes) clock method query body differ named slash
  constructor
  · intro verifies
    have same := (signed plainHashes).symm.trans
      ((verifies plainHashes).trans (expected plainHashes))
    rcases SignatureV4.authorization_inj
      (by rw [UtcTime.length_dateStamp, UtcTime.length_dateStamp])
      (by rw [UtcTime.length_iso8601, UtcTime.length_iso8601]) same with ⟨time, -, lines⟩
    rcases SignatureV4.canonicalRequest_inj (line _) (line _) lines with ⟨paths, queries⟩
    have plain : IsPlainPath path :=
      percentDecode_targetPath_eq_iff.mp (urlEncode_injective false paths).symm
    rw [(target_of_plain plain.1 plain.2.1 query).2] at queries
    exact ⟨(UtcTime.iso8601_injective time).symm, plain,
      canonicalQuery_takeWhile_eq_iff.mp queries.symm⟩
  · rintro ⟨time, plain, canonical⟩ hashes sent
    have date := UtcTime.eq_of_le_of_le clock.header_le_date clock.date_le_time time
    have target := target_of_plain plain.1 plain.2.1 query
    have decoded : percentDecode path = path := percentDecode_eq_self_iff.mpr plain.2.2
    apply (signed hashes).trans
    apply Eq.trans _ (expected hashes).symm
    rw [target.1, target.2, decoded, canonicalQuery_takeWhile_eq_iff.mpr canonical, ← time, date]

/-! ## The requests for operations -/

/-- The headers that the request for an operation has besides. -/
def operationHeaders (client : S3Client) (operation : S3Operation) : List Header :=
  if OfStream operation then client.extraHeaders operation
  else (if operation.body = [] then [] else [contentLength operation.body]) ++
    client.extraHeaders operation

theorem request_eq (client : S3Client) (clock : ClockReadings) {endpoint : Bytes}
    (named : client.config.endpoint = some endpoint) (operation : S3Operation) :
    client.request clock operation = some (client.signedRequest clock operation.method
      (operation.path client.config) operation.query operation.body
      (client.operationHeaders operation)) := by
  rw [request, named, operationHeaders]
  cases OfStream operation <;> rfl

theorem namesDiffer_of_names (names : List Bytes)
    (same : (headers.map lowerName).map Prod.fst = names)
    (distinct : ([ascii "host", ascii "x-amz-date", ascii "x-amz-content-sha256"] ++
      names).Nodup) : NamesDiffer headers := by
  rwa [NamesDiffer, same]

theorem namesDiffer_operationHeaders (client : S3Client) (operation : S3Operation) :
    NamesDiffer (client.operationHeaders operation) := by
  cases operation with
  | headBucket => exact namesDiffer_of_names [] rfl (by decide)
  | listObjects options => exact namesDiffer_of_names [] rfl (by decide)
  | putObject key data =>
      cases data with
      | nil => exact namesDiffer_of_names [ascii "content-type"] rfl (by decide)
      | cons byte data =>
          exact namesDiffer_of_names [ascii "content-length", ascii "content-type"] rfl (by decide)
  | getObject key => exact namesDiffer_of_names [] rfl (by decide)
  | headObject key => exact namesDiffer_of_names [] rfl (by decide)
  | deleteObject key => exact namesDiffer_of_names [] rfl (by decide)
  | copyObject sourceKey destKey =>
      exact namesDiffer_of_names [ascii "x-amz-copy-source"] rfl (by decide)
  | createMultipartUpload key =>
      exact namesDiffer_of_names [ascii "content-type"] rfl (by decide)
  | uploadPart key partNumber uploadId data =>
      exact namesDiffer_of_names [ascii "content-length"] rfl (by decide)
  | completeMultipartUpload key uploadId parts =>
      exact namesDiffer_of_names [ascii "content-type", ascii "content-length"] rfl (by decide)
  | abortMultipartUpload key uploadId => exact namesDiffer_of_names [] rfl (by decide)

end S3Client

/-- What the path of a request names: a key, or a bucket if the style asks for it. -/
def S3Operation.subject (config : S3Config) (operation : S3Operation) : Bytes :=
  operation.key.getD (if config.usePathStyle then config.bucket else [])

theorem path_eq_subject {config : S3Config} {endpoint : Bytes}
    (named : config.endpoint = some endpoint) (operation : S3Operation) :
    operation.path config = 0x2f :: operation.subject config := by
  rw [S3Operation.path, S3Operation.subject]
  cases operation.key with
  | some key =>
      rw [Option.getD_some]
      simp only [S3Config.getPath]
      rw [named, if_neg (by simp)]
      rfl
  | none =>
      rw [Option.getD_none]
      simp only [S3Config.bucketPath]
      cases config.usePathStyle <;> rfl

theorem isPlainPath_cons (text : Bytes) : IsPlainPath (0x2f :: text) ↔ IsPlainPath text := by
  simp [IsPlainPath, escapeFree]

namespace S3Client

/-- Whatever the hashes, the request for the operation has the signature that a server expects. -/
def Verifies (client : S3Client) (clock : ClockReadings) (operation : S3Operation) : Prop :=
  ∀ hashes sent, (client.withHashes hashes).request clock operation = some sent →
    sent.authorization = SignatureV4.expected hashes client.credentials.accessKeyId
      client.credentials.secretAccessKey client.config.region sent.toTransmittedRequest

theorem verifies_of_endpoint {client : S3Client} {endpoint : Bytes}
    (named : client.config.endpoint = some endpoint) (clock : ClockReadings)
    (operation : S3Operation) :
    client.Verifies clock operation ↔ clock.header = clock.time ∧
      IsPlainPath (operation.subject client.config) ∧ operation.CanonicalQuery := by
  have path := path_eq_subject named operation
  rw [← operation.canonicalQuery_iff, ← isPlainPath_cons, ← path,
    ← signedRequest_iff client clock operation.method operation.query operation.body
      (namesDiffer_operationHeaders client operation) named path]
  constructor
  · intro verifies hashes
    exact verifies hashes _ (request_eq (client.withHashes hashes) clock named operation)
  · intro verifies hashes sent sends
    rw [request_eq (client.withHashes hashes) clock named operation] at sends
    cases sends
    exact verifies hashes

end S3Client

/-- A request has the signature that a server expects exactly if it is not sent, or the clock did
not go on while it was made, what it names has no question mark, number sign or escape, and its
query is canonical. -/
theorem verifies_iff (client : S3Client) (clock : ClockReadings) (operation : S3Operation) :
    client.Verifies clock operation ↔
      client.config.endpoint = none ∨
        clock.header = clock.time ∧ IsPlainPath (operation.subject client.config) ∧
          operation.CanonicalQuery := by
  cases named : client.config.endpoint with
  | some endpoint => simpa using S3Client.verifies_of_endpoint named clock operation
  | none =>
      apply iff_of_true
      · intro hashes sent sends
        have silent : (client.withHashes hashes).request clock operation = none := by
          rw [S3Client.request, if_neg (by simp [S3Client.withHashes, named])]
        rw [silent] at sends
        contradiction
      · exact .inl rfl

/-- The first second of a year. -/
def newYear : UtcTime :=
  ⟨2025, 1, 1, 0, 0, 0, by decide, UtcTime.one_lt_hundred, UtcTime.one_lt_hundred,
    UtcTime.zero_lt_hundred, UtcTime.zero_lt_hundred, UtcTime.zero_lt_hundred⟩

/-- A listing as it is by default, of a server of one's own, does not verify. -/
theorem verifies_not_listing :
    ¬ ∀ (client : S3Client) (clock : ClockReadings) (operation : S3Operation),
      client.Verifies clock operation := by
  intro claim
  let client : S3Client := ⟨localConfig, ⟨ascii "key", ascii "secret"⟩, plainHashes, id⟩
  let clock : ClockReadings := ⟨newYear, newYear, newYear, le_refl newYear.parts,
    le_refl newYear.parts⟩
  have verifies := claim client clock (.listObjects ⟨none, some (ascii "/"), 1000, none⟩)
  have canonical := ((S3Client.verifies_of_endpoint rfl clock _).mp verifies).2.2
  exact absurd canonical.1 (by simp)

end FileTrans.Cloud
