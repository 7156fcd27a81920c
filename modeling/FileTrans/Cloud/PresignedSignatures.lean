import FileTrans.Cloud.PresignedUrls
import FileTrans.Cloud.S3Signatures

/-!
# Signatures of presigned URLs

A server computes the signature of a presigned URL from the path it decodes and
encodes anew, the query it sorts, and each signed header once.  The code signs
the path it was given, the parameters in the order in which it writes them, and
a name as often as it was given.
-/

namespace FileTrans.Cloud

open FileTrans.Text

/-! ## The query -/

theorem urlEncode_iso8601 (encodeSlash : Bool) (time : UtcTime) :
    urlEncode encodeSlash time.iso8601 = time.iso8601 := by
  have number (width number : Nat) :
      urlEncode encodeSlash (padded width number) = padded width number := by
    rw [padded, urlEncode_append, urlEncode_decimal, urlEncode_of_unreserved]
    intro byte mem
    rw [(List.mem_replicate.mp mem).2]
    rfl
  have letter (byte : UInt8) (unreserved : isUnreserved byte = true) :
      urlEncode encodeSlash [byte] = [byte] :=
    urlEncode_of_unreserved fun other mem => List.mem_singleton.mp mem ▸ unreserved
  have between : ascii "T" = [0x54] := rfl
  have ends : ascii "Z" = [0x5a] := rfl
  simp only [UtcTime.iso8601, UtcTime.dateStamp, urlEncode_append, number, between, ends,
    letter 0x54 rfl, letter 0x5a rfl]

theorem urlEncode_decimalInt (encodeSlash : Bool) (number : Int) :
    urlEncode encodeSlash (decimalInt number) = decimalInt number := by
  rw [decimalInt]
  split
  · have sign : urlEncode encodeSlash [0x2d] = [0x2d] :=
      urlEncode_of_unreserved fun other mem => List.mem_singleton.mp mem ▸ rfl
    rw [← List.singleton_append, urlEncode_append, urlEncode_decimal, sign]
  · exact urlEncode_decimal encodeSlash _

theorem urlEncode_bytesToHex (encodeSlash : Bool) (bytes : Bytes) :
    urlEncode encodeSlash (bytesToHex bytes) = bytesToHex bytes := by
  apply urlEncode_of_unreserved
  intro byte mem
  rw [bytesToHex, List.mem_flatMap] at mem
  obtain ⟨source, -, mem⟩ := mem
  have digit := isDigit_of_mem_hexByte mem
  cases value : digitValue byte with
  | none => simp [isDigit, value] at digit
  | some value' => simp [isUnreserved, value]

namespace PresignedUrlOptions

variable (options : PresignedUrlOptions)

/-- The parameters that override the headers of a response. -/
def overrides : List Parameter :=
  if options.method = ascii "GET" then
    options.responseContentType.elim [] (fun value => [(ascii "response-content-type", value)]) ++
      options.responseContentDisposition.elim [] fun value =>
        [(ascii "response-content-disposition", value)]
  else []

/-- The parameters that are signed, in the order in which they are written. -/
def parameters (credential amzDate signedHeaders : Bytes) : List Parameter :=
  [(ascii "X-Amz-Algorithm", ascii "AWS4-HMAC-SHA256"), (ascii "X-Amz-Credential", credential),
    (ascii "X-Amz-Date", amzDate), (ascii "X-Amz-Expires", decimalInt options.expiration),
    (ascii "X-Amz-SignedHeaders", signedHeaders)] ++ options.overrides

theorem queryString_eq_renderQuery (credential signedHeaders : Bytes) (time : UtcTime) :
    options.queryString credential time.iso8601 signedHeaders =
      renderQuery (options.parameters credential time.iso8601 signedHeaders) := by
  have algorithm : renderParameter (ascii "X-Amz-Algorithm", ascii "AWS4-HMAC-SHA256") =
      ascii "X-Amz-Algorithm=" ++ ascii "AWS4-HMAC-SHA256" := by decide
  have scope : 0x26 :: renderParameter (ascii "X-Amz-Credential", credential) =
      ascii "&X-Amz-Credential=" ++ urlEncode true credential := rfl
  have date : 0x26 :: renderParameter (ascii "X-Amz-Date", time.iso8601) =
      ascii "&X-Amz-Date=" ++ urlEncode true time.iso8601 := rfl
  have expires : 0x26 :: renderParameter (ascii "X-Amz-Expires", decimalInt options.expiration) =
      ascii "&X-Amz-Expires=" ++ urlEncode true (decimalInt options.expiration) := rfl
  have signed : 0x26 :: renderParameter (ascii "X-Amz-SignedHeaders", signedHeaders) =
      ascii "&X-Amz-SignedHeaders=" ++ urlEncode true signedHeaders := rfl
  have contentType (value : Bytes) :
      0x26 :: renderParameter (ascii "response-content-type", value) =
      ascii "&response-content-type=" ++ urlEncode true value := rfl
  have disposition (value : Bytes) :
      0x26 :: renderParameter (ascii "response-content-disposition", value) =
        ascii "&response-content-disposition=" ++ urlEncode true value := rfl
  rw [urlEncode_iso8601] at date
  rw [urlEncode_decimalInt] at expires
  rw [queryString, parameters, List.cons_append, renderQuery_cons, algorithm, overrides]
  simp only [List.cons_append, List.nil_append, List.flatMap_cons, scope, date, expires, signed]
  by_cases get : options.method = ascii "GET"
  · simp only [if_pos get]
    cases options.responseContentType <;> cases options.responseContentDisposition <;>
      simp [contentType, disposition]
  · simp [if_neg get]

theorem names_parameters (credential amzDate signedHeaders : Bytes) :
    (options.parameters credential amzDate signedHeaders).map Prod.fst =
      [ascii "X-Amz-Algorithm", ascii "X-Amz-Credential", ascii "X-Amz-Date",
        ascii "X-Amz-Expires", ascii "X-Amz-SignedHeaders"] ++
      if options.method = ascii "GET" then
        (if options.responseContentType.isSome then [ascii "response-content-type"] else []) ++
          if options.responseContentDisposition.isSome then [ascii "response-content-disposition"]
          else []
      else [] := by
  rw [parameters, List.map_append, overrides]
  congr 1
  split
  · cases options.responseContentType <;> cases options.responseContentDisposition <;> rfl
  · rfl

theorem pairwise_parameters_iff (credential amzDate signedHeaders : Bytes) :
    ((options.parameters credential amzDate signedHeaders).Pairwise fun left right =>
        left.1 ≤ right.1) ↔
      (options.method = ascii "GET" →
        options.responseContentType = none ∨ options.responseContentDisposition = none) := by
  have none_iff (value : Option Bytes) : value = none ↔ value.isSome = false := by
    cases value <;> simp
  rw [← List.pairwise_map, names_parameters, none_iff, none_iff]
  by_cases get : options.method = ascii "GET"
  · rw [if_pos get, imp_iff_right get]
    cases options.responseContentType.isSome <;>
      cases options.responseContentDisposition.isSome <;> decide
  · rw [if_neg get]
    exact iff_of_true (by decide) fun equal => absurd equal get

theorem nodup_parameters (credential amzDate signedHeaders : Bytes) :
    ((options.parameters credential amzDate signedHeaders).map Prod.fst).Nodup ∧
      ascii "X-Amz-Signature" ∉
        (options.parameters credential amzDate signedHeaders).map Prod.fst := by
  rw [names_parameters]
  by_cases get : options.method = ascii "GET"
  · rw [if_pos get]
    cases options.responseContentType.isSome <;>
      cases options.responseContentDisposition.isSome <;> decide
  · rw [if_neg get]
    decide

end PresignedUrlOptions

namespace SignatureV4

variable {parameters signed : List Parameter} {name value : Bytes}

theorem parameterValue_of_mem (distinct : (signed.map Prod.fst).Nodup)
    (same : sortByKey Prod.fst
      (parameters.filter fun parameter => parameter.1 != ascii "X-Amz-Signature") = signed)
    (mem : (name, value) ∈ signed) : parameterValue name parameters = value := by
  have inside (parameter : Parameter) : parameter ∈ signed ↔
      parameter ∈ parameters ∧ parameter.1 ≠ ascii "X-Amz-Signature" := by
    rw [← same, mem_sortByKey, List.mem_filter, bne_iff_ne]
  obtain ⟨present, unsigned⟩ := (inside _).mp mem
  rw [parameterValue]
  cases found : parameters.find? fun parameter => parameter.1 == name with
  | none =>
      rw [List.find?_eq_none] at found
      exact absurd (found _ present) (by simp)
  | some parameter =>
      have named : parameter.1 = name := by simpa using List.find?_some found
      have again := (inside parameter).mpr
        ⟨List.mem_of_find?_eq_some found, named.trans_ne unsigned⟩
      rw [List.inj_on_of_nodup_map distinct again mem named]
      rfl

theorem sort_unsigned (sorted : signed.Pairwise fun left right => left.1 ≤ right.1)
    (unsigned : ascii "X-Amz-Signature" ∉ signed.map Prod.fst) (signature : Bytes) :
    sortByKey Prod.fst ((signed ++ [(ascii "X-Amz-Signature", signature)]).filter
      fun parameter => parameter.1 != ascii "X-Amz-Signature") = signed := by
  have kept : signed.filter (fun parameter => parameter.1 != ascii "X-Amz-Signature") = signed := by
    rw [List.filter_eq_self]
    intro parameter mem
    rw [bne_iff_ne]
    intro same
    exact unsigned (same ▸ List.mem_map_of_mem mem)
  rw [List.filter_append, kept, List.filter_cons_of_neg (by simp), List.filter_nil,
    List.append_nil]
  exact sorted.insertionSort_eq

/-! ## Signed texts -/

theorem append_newline_inj {first second last last' : Bytes} (line : 0x0a ∉ last)
    (line' : 0x0a ∉ last') (same : first ++ newline ++ last = second ++ newline ++ last') :
    first = second ∧ last = last' := by
  have reversed := congrArg List.reverse same
  have lines (text line : Bytes) : (text ++ newline ++ line).reverse =
      line.reverse ++ 0x0a :: text.reverse := by
    rw [List.reverse_append, List.reverse_append]
    rfl
  rw [lines, lines] at reversed
  have ends := congrArg (List.takeWhile (· != 0x0a)) reversed
  rw [takeWhile_ne_append_cons (by rwa [List.mem_reverse]),
    takeWhile_ne_append_cons (by rwa [List.mem_reverse])] at ends
  cases List.reverse_injective ends
  exact ⟨List.append_cancel_right (List.append_cancel_right same), rfl⟩

theorem notMem_bytesToHex (bytes : Bytes) : 0x0a ∉ bytesToHex bytes := by
  rw [← urlEncode_bytesToHex true]
  exact notMem_urlEncode rfl (by decide)

theorem stringToSign_inj {timestamp timestamp' date date' region canonical canonical' : Bytes}
    (same : stringToSign plainHashes timestamp date region canonical =
      stringToSign plainHashes timestamp' date' region canonical') :
    canonical = canonical' ∧
      (timestamp = timestamp' → date.length = date'.length → date = date') := by
  simp only [stringToSign, List.intercalate_cons_cons, List.intercalate_singleton,
    ← List.append_assoc] at same
  obtain ⟨before, after⟩ := append_newline_inj (notMem_bytesToHex _) (notMem_bytesToHex _) same
  refine ⟨bytesToHex_injective after, ?_⟩
  rintro rfl lengths
  have scopes := List.append_cancel_left before
  simp only [credentialScope, List.intercalate_cons_cons, List.append_assoc] at scopes
  exact (List.append_inj scopes lengths).1

variable {method path path' query query' payloadHash : Bytes} {headers headers' : List Header}

theorem canonicalRequest_cases (pathLine : 0x0a ∉ path) (pathLine' : 0x0a ∉ path')
    (queryLine : 0x0a ∉ query) (queryLine' : 0x0a ∉ query')
    (same : canonicalRequest method path query headers payloadHash =
      canonicalRequest method path' query' headers' payloadHash) :
    path = path' ∧ query = query' ∧
      headers.flatMap headerLine ++ newline ++ signedHeaders headers =
        headers'.flatMap headerLine ++ newline ++ signedHeaders headers' := by
  have newline_append (rest : Bytes) : newline ++ rest = 0x0a :: rest := rfl
  have first_line {line line' rest rest' : Bytes} (ends : 0x0a ∉ line) (ends' : 0x0a ∉ line')
      (same : line ++ (newline ++ rest) = line' ++ (newline ++ rest')) :
      line = line' ∧ rest = rest' := by
    rw [newline_append, newline_append] at same
    have lines := congrArg (List.takeWhile (· != 0x0a)) same
    rw [takeWhile_ne_append_cons ends, takeWhile_ne_append_cons ends'] at lines
    subst lines
    exact ⟨rfl, (List.cons.inj (List.append_cancel_left same)).2⟩
  simp only [canonicalRequest, List.intercalate_cons_cons, List.intercalate_singleton,
    List.append_assoc] at same
  obtain ⟨paths, same⟩ := first_line pathLine pathLine'
    (List.append_cancel_left (List.append_cancel_left same))
  obtain ⟨queries, same⟩ := first_line queryLine queryLine' same
  refine ⟨paths, queries, ?_⟩
  simp only [← List.append_assoc] at same
  exact List.append_cancel_right (List.append_cancel_right same)

end SignatureV4

/-! ## The headers -/

theorem toLower_ne {byte other : UInt8} (token : isTokenByte byte = true)
    (outside : isTokenByte other = false) : toLower byte ≠ other := by
  rintro rfl
  rw [toLower] at outside
  split at outside
  · rename_i upper
    have lower : 0x61 ≤ byte + 0x20 ∧ byte + 0x20 ≤ 0x7a := by
      obtain ⟨first, last⟩ := upper
      rw [UInt8.le_iff_toNat_le] at first last ⊢
      rw [UInt8.le_iff_toNat_le, UInt8.toNat_add]
      simp at first last ⊢
      omega
    simp [isTokenByte, lower.1, lower.2] at outside
  · rw [token] at outside
    contradiction

namespace PresignedUrlOptions

variable {options : PresignedUrlOptions} {host named : Bytes}

/-- The names of the custom metadata, in lower case. -/
def metadataNames (options : PresignedUrlOptions) : List Bytes :=
  options.customMetadata.map fun entry => entry.1.map toLower

/-- The names of the headers that are not metadata. -/
def fixedNames : List Bytes :=
  [ascii "host", ascii "x-amz-server-side-encryption",
    ascii "x-amz-server-side-encryption-aws-kms-key-id", ascii "x-amz-storage-class",
    ascii "content-type", ascii "content-md5"]

theorem memberNames_sublist (options : PresignedUrlOptions) :
    (options.memberHeaders.map Prod.fst).Sublist
      [ascii "x-amz-server-side-encryption", ascii "x-amz-server-side-encryption-aws-kms-key-id",
        ascii "x-amz-storage-class", ascii "content-type"] := by
  have algorithm : ((options.serverSideEncryption.elim [] fun algorithm =>
      (ascii "x-amz-server-side-encryption", algorithm) ::
        if algorithm = ascii "aws:kms" then
          options.kmsKeyId.elim [] fun keyId =>
            [(ascii "x-amz-server-side-encryption-aws-kms-key-id", keyId)]
        else []).map Prod.fst).Sublist [ascii "x-amz-server-side-encryption",
          ascii "x-amz-server-side-encryption-aws-kms-key-id"] := by
    cases options.serverSideEncryption with
    | none => exact List.nil_sublist _
    | some algorithm =>
        rw [Option.elim_some, List.map_cons]
        apply List.Sublist.cons_cons
        split
        · cases options.kmsKeyId with
          | none => exact List.nil_sublist _
          | some keyId => exact List.Sublist.refl _
        · exact List.nil_sublist _
  have one (name : Bytes) (value : Option Bytes) :
      ((value.elim [] fun value => [(name, value)]).map Prod.fst).Sublist [name] := by
    cases value with
    | none => exact List.nil_sublist _
    | some value => exact List.Sublist.refl _
  rw [memberHeaders, List.map_append, List.map_append]
  exact (algorithm.append (one _ _)).append (one _ _)

theorem nodup_append_metadata_iff {names : List Bytes} (fixed : names.Sublist fixedNames) :
    (names ++ options.customMetadata.map fun entry =>
        (ascii "x-amz-meta-" ++ entry.1).map toLower).Nodup ↔ options.metadataNames.Nodup := by
  have named : (options.customMetadata.map fun entry =>
      (ascii "x-amz-meta-" ++ entry.1).map toLower) =
        options.metadataNames.map (ascii "x-amz-meta-" ++ ·) := by
    rw [metadataNames, List.map_map]
    apply List.map_congr_left
    intro entry mem
    rw [List.map_append]
    rfl
  have others : ∀ name ∈ fixedNames, ¬ ascii "x-amz-meta-" <+: name := by decide
  have distinct : fixedNames.Nodup := by decide
  rw [named, List.nodup_append, and_iff_right (distinct.sublist fixed),
    List.nodup_map_iff (List.append_right_injective _)]
  apply and_iff_left
  rintro name mem other found rfl
  obtain ⟨key, -, same⟩ := List.mem_map.mp found
  exact others name (fixed.subset mem) ⟨key, same⟩

theorem nodup_headersToSign_iff :
    ((options.headersToSign host).map Prod.fst).Nodup ↔
      (options.method = ascii "PUT" → options.metadataNames.Nodup) := by
  rw [headersToSign]
  by_cases put : options.method = ascii "PUT"
  · rw [if_pos put, imp_iff_right put, List.map_cons, List.map_append, List.map_map,
      ← List.cons_append]
    apply nodup_append_metadata_iff
    exact List.Sublist.cons_cons _ (options.memberNames_sublist.trans (by decide))
  · rw [if_neg put]
    exact iff_of_true (List.nodup_singleton _) fun equal => absurd equal put

theorem lowerName_memberHeaders (options : PresignedUrlOptions) :
    options.memberHeaders.map lowerName = options.memberHeaders := by
  have lower : ∀ name ∈ [ascii "x-amz-server-side-encryption",
      ascii "x-amz-server-side-encryption-aws-kms-key-id", ascii "x-amz-storage-class",
      ascii "content-type"], name.map toLower = name := by decide
  apply Eq.trans (List.map_congr_left _) (List.map_id _)
  intro header mem
  have name := lower _ (options.memberNames_sublist.subset (List.mem_map_of_mem mem))
  exact Prod.ext name rfl

theorem lowerName_requestHeaders (options : PresignedUrlOptions) (named : Bytes) :
    (options.requestHeaders named).map lowerName = (ascii "host", named) ::
      if options.method = ascii "PUT" then
        options.memberHeaders ++
          options.contentMd5.elim [] (fun value => [(ascii "content-md5", value)]) ++
          options.customMetadata.map fun entry =>
            ((ascii "x-amz-meta-" ++ entry.1).map toLower, entry.2)
      else [] := by
  rw [requestHeaders, List.map_cons]
  congr 1
  split
  · rw [List.map_append, List.map_append, lowerName_memberHeaders, List.map_map]
    congr 2
    cases options.contentMd5 <;> rfl
  · rfl

theorem nodup_requestHeaders (named : Bytes)
    (distinct : options.method = ascii "PUT" → options.metadataNames.Nodup) :
    (((options.requestHeaders named).map lowerName).map Prod.fst).Nodup := by
  rw [lowerName_requestHeaders]
  split
  · rename_i put
    have md5 : ((options.contentMd5.elim [] fun value =>
        [(ascii "content-md5", value)]).map Prod.fst).Sublist [ascii "content-md5"] := by
      cases options.contentMd5 with
      | none => exact List.nil_sublist _
      | some value => exact List.Sublist.refl _
    rw [List.map_cons, List.map_append, List.map_append, List.map_map, ← List.cons_append]
    apply (nodup_append_metadata_iff _).mpr (distinct put)
    exact (options.memberNames_sublist.append md5).cons_cons _
  · exact List.nodup_singleton _

theorem mem_requestHeaders (named : Bytes) {header : Header}
    (mem : header ∈ options.headersToSign host) :
    header = (ascii "host", host) ∨ header ∈ (options.requestHeaders named).map lowerName := by
  rw [headersToSign, List.mem_cons] at mem
  rcases mem with rfl | mem
  · exact .inl rfl
  · rw [lowerName_requestHeaders]
    right
    split at mem
    · rename_i put
      rw [if_pos put]
      rw [List.mem_append] at mem
      rcases mem with mem | mem
      · simp [mem]
      · exact List.mem_cons_of_mem _ (List.mem_append_right _ mem)
    · contradiction

theorem notMem_name (fields : ∀ header ∈ options.requestHeaders named, IsField header)
    {name : Bytes} (mem : name ∈ (options.headersToSign host).map Prod.fst) :
    0x3b ∉ name ∧ 0x0a ∉ name := by
  obtain ⟨header, signed, rfl⟩ := List.mem_map.mp mem
  rcases mem_requestHeaders named signed with rfl | found
  · have outside : (0x3b : UInt8) ∉ ascii "host" ∧ 0x0a ∉ ascii "host" := by decide
    exact outside
  · obtain ⟨source, present, rfl⟩ := List.mem_map.mp found
    have outside (byte : UInt8) (other : isTokenByte byte = false) :
        byte ∉ (lowerName source).1 := by
      intro inside
      obtain ⟨character, within, same⟩ := List.mem_map.mp inside
      exact toLower_ne ((fields source present).1 character within) other same
    exact ⟨outside 0x3b (by decide), outside 0x0a (by decide)⟩

end PresignedUrlOptions

/-! ## Lines -/

theorem length_le_count_lines (headers : List Header) :
    headers.length ≤ (headers.flatMap headerLine).count 0x0a := by
  induction headers with
  | nil => exact Nat.le_refl _
  | cons header headers ih =>
      have line : 1 ≤ (headerLine header).count 0x0a := by
        rw [headerLine, List.count_append]
        exact Nat.le_add_left 1 _
      rw [List.length_cons, List.flatMap_cons, List.count_append]
      omega

theorem count_lines {headers : List Header}
    (lines : ∀ header ∈ headers, 0x0a ∉ header.1 ∧ 0x0a ∉ header.2) :
    (headers.flatMap headerLine).count 0x0a = headers.length := by
  induction headers with
  | nil => rfl
  | cons header headers ih =>
      have line : (headerLine header).count 0x0a = 1 := by
        obtain ⟨name, value⟩ := lines header List.mem_cons_self
        rw [headerLine, List.count_append, List.count_append, List.count_append,
          List.count_eq_zero.mpr name, List.count_eq_zero.mpr value]
        rfl
      rw [List.length_cons, List.flatMap_cons, List.count_append, line,
        ih fun other mem => lines other (List.mem_cons_of_mem _ mem), Nat.add_comm]

theorem notMem_intercalate {names : List Bytes} (lines : ∀ name ∈ names, 0x0a ∉ name) :
    0x0a ∉ (ascii ";").intercalate names := by
  have semicolon : (0x0a : UInt8) ∉ ascii ";" := by decide
  induction names with
  | nil => exact List.not_mem_nil
  | cons name names ih =>
      cases names with
      | nil =>
          rw [List.intercalate_singleton]
          exact lines name List.mem_cons_self
      | cons second names =>
          rw [List.intercalate_cons_cons, List.mem_append, List.mem_append]
          rintro ((mem | mem) | mem)
          · exact lines name List.mem_cons_self mem
          · exact semicolon mem
          · exact ih (fun other mem => lines other (List.mem_cons_of_mem _ mem)) mem

theorem notMem_headerValue {headers : List Header} (fields : ∀ header ∈ headers, IsField header)
    (name : Bytes) : 0x0a ∉ headerValue name headers := by
  rw [headerValue]
  cases found : (sortedHeaders headers).find? fun header => header.1 == name with
  | none => exact List.not_mem_nil
  | some header =>
      have mem := mem_sortByKey.mp (List.mem_of_find?_eq_some found)
      obtain ⟨source, present, rfl⟩ := List.mem_map.mp mem
      intro inside
      rcases (fields source present).2.1 _ inside with tab | ⟨printed, -⟩
      · exact absurd tab (by decide)
      · exact absurd printed (by decide)

namespace PresignedUrlOptions

variable {options : PresignedUrlOptions} {host named : Bytes}

/-! ## The headers that are signed -/

/-- The headers as the code signs them. -/
def signedByCode (options : PresignedUrlOptions) (host : Bytes) : List Header :=
  (options.signedHeaderNames host).map fun name =>
    (name, assignedValue name (options.headersToSign host))

/-- The headers as a server expects them to be signed. -/
def signedByServer (options : PresignedUrlOptions) (host named : Bytes) : List Header :=
  (SignatureV4.signedNames (options.signedHeaders host)).map fun name =>
    (name, headerValue name (options.requestHeaders named))

theorem names_signedByCode (options : PresignedUrlOptions) (host : Bytes) :
    (options.signedByCode host).map Prod.fst = options.signedHeaderNames host := by
  rw [signedByCode, List.map_map]
  exact List.map_id _

theorem names_signedByServer (options : PresignedUrlOptions) (host named : Bytes) :
    (options.signedByServer host named).map Prod.fst =
      SignatureV4.signedNames (options.signedHeaders host) := by
  rw [signedByServer, List.map_map]
  exact List.map_id _

theorem signedNames_signedHeaders
    (fields : ∀ header ∈ options.requestHeaders named, IsField header) :
    SignatureV4.signedNames (options.signedHeaders host) =
      sortByKey id (options.signedHeaderNames host).dedup := by
  have nonempty : options.signedHeaderNames host ≠ [] := by
    intro none_signed
    have mem : ascii "host" ∈ options.signedHeaderNames host :=
      mem_sortByKey.mpr List.mem_cons_self
    rw [none_signed] at mem
    contradiction
  have apart : ∀ name ∈ options.signedHeaderNames host, (0x3b : UInt8) ∉ name :=
    fun name mem => (notMem_name fields (mem_sortByKey.mp mem)).1
  have separator : ascii ";" = [0x3b] := rfl
  rw [SignatureV4.signedNames, signedHeaders, separator,
    List.splitOn_intercalate 0x3b apart nonempty]

theorem nodup_of_lines (fields : ∀ header ∈ options.requestHeaders named, IsField header)
    (same : (options.signedByCode host).flatMap headerLine ++ newline ++
        SignatureV4.signedHeaders (options.signedByCode host) =
      (options.signedByServer host named).flatMap headerLine ++ newline ++
        SignatureV4.signedHeaders (options.signedByServer host named)) :
    ((options.headersToSign host).map Prod.fst).Nodup := by
  have names : ∀ name ∈ options.signedHeaderNames host, (0x0a : UInt8) ∉ name :=
    fun name mem => (notMem_name fields (mem_sortByKey.mp mem)).2
  have serverNames : ∀ name ∈ SignatureV4.signedNames (options.signedHeaders host),
      (0x0a : UInt8) ∉ name := by
    intro name mem
    rw [signedNames_signedHeaders fields] at mem
    exact names name (List.mem_dedup.mp (mem_sortByKey.mp mem))
  have counts := congrArg (List.count 0x0a) same
  rw [List.count_append, List.count_append, List.count_append, List.count_append,
    SignatureV4.signedHeaders, SignatureV4.signedHeaders, names_signedByCode,
    names_signedByServer, List.count_eq_zero.mpr (notMem_intercalate names),
    List.count_eq_zero.mpr (notMem_intercalate serverNames)] at counts
  have more := length_le_count_lines (options.signedByCode host)
  have exact_count : ((options.signedByServer host named).flatMap headerLine).count 0x0a =
      (options.signedByServer host named).length := by
    apply count_lines
    intro header mem
    obtain ⟨name, signed, rfl⟩ := List.mem_map.mp mem
    exact ⟨serverNames name signed, notMem_headerValue fields name⟩
  rw [exact_count, signedByServer, List.length_map, signedNames_signedHeaders fields,
    perm_sortByKey.length_eq] at counts
  have length : (options.signedByCode host).length = (options.signedHeaderNames host).length :=
    List.length_map _
  have whole := (List.dedup_sublist (options.signedHeaderNames host)).eq_of_length_le (by omega)
  exact perm_sortByKey.nodup_iff.mp (whole ▸ List.nodup_dedup _)

theorem assignedValue_of_mem {assignments : List Header}
    (distinct : (assignments.map Prod.fst).Nodup) {header : Header} (mem : header ∈ assignments) :
    assignedValue header.1 assignments = header.2 := by
  rw [assignedValue]
  cases found : assignments.reverse.find? fun other => other.1 == header.1 with
  | none =>
      rw [List.find?_eq_none] at found
      exact absurd (found header (List.mem_reverse.mpr mem)) (by simp)
  | some other =>
      have named : other.1 = header.1 := by simpa using List.find?_some found
      have present := List.mem_reverse.mp (List.mem_of_find?_eq_some found)
      rw [List.inj_on_of_nodup_map distinct present mem named]
      rfl

theorem signedNames_of_nodup (fields : ∀ header ∈ options.requestHeaders named, IsField header)
    (distinct : ((options.headersToSign host).map Prod.fst).Nodup) :
    SignatureV4.signedNames (options.signedHeaders host) = options.signedHeaderNames host := by
  have nodup : (options.signedHeaderNames host).Nodup := perm_sortByKey.nodup_iff.mpr distinct
  have sorted : (options.signedHeaderNames host).Pairwise (· ≤ ·) :=
    List.pairwise_insertionSort _ _
  rw [signedNames_signedHeaders fields, nodup.dedup]
  exact sorted.insertionSort_eq

theorem headerValue_of_ne_host (distinct : ((options.headersToSign host).map Prod.fst).Nodup)
    {name : Bytes} (mem : name ∈ options.signedHeaderNames host) (other : name ≠ ascii "host") :
    headerValue name (options.requestHeaders named) =
      assignedValue name (options.headersToSign host) := by
  obtain ⟨header, signed, rfl⟩ := List.mem_map.mp (mem_sortByKey.mp mem)
  rw [assignedValue_of_mem distinct signed]
  rcases mem_requestHeaders named signed with rfl | found
  · exact absurd rfl other
  · exact headerValue_of_mem
      (nodup_requestHeaders named (nodup_headersToSign_iff.mp distinct)) found

theorem headerValue_host (distinct : ((options.headersToSign host).map Prod.fst).Nodup) :
    headerValue (ascii "host") (options.requestHeaders named) = named := by
  apply headerValue_of_mem (nodup_requestHeaders named (nodup_headersToSign_iff.mp distinct))
  rw [lowerName_requestHeaders]
  exact List.mem_cons_self

theorem assignedValue_host (distinct : ((options.headersToSign host).map Prod.fst).Nodup) :
    assignedValue (ascii "host") (options.headersToSign host) = host := by
  have mem : (ascii "host", host) ∈ options.headersToSign host := List.mem_cons_self
  exact assignedValue_of_mem distinct mem

theorem signedByServer_eq (fields : ∀ header ∈ options.requestHeaders named, IsField header)
    (distinct : ((options.headersToSign host).map Prod.fst).Nodup) (same : named = host) :
    options.signedByServer host named = options.signedByCode host := by
  rw [signedByServer, signedByCode, signedNames_of_nodup fields distinct]
  apply List.map_congr_left
  intro name mem
  by_cases named : name = ascii "host"
  · rw [named, headerValue_host distinct, assignedValue_host distinct, same]
  · rw [headerValue_of_ne_host distinct mem named]

theorem host_of_lines (fields : ∀ header ∈ options.requestHeaders named, IsField header)
    (distinct : ((options.headersToSign host).map Prod.fst).Nodup)
    (same : (options.signedByCode host).flatMap headerLine ++ newline ++
        SignatureV4.signedHeaders (options.signedByCode host) =
      (options.signedByServer host named).flatMap headerLine ++ newline ++
        SignatureV4.signedHeaders (options.signedByServer host named)) :
    named = host := by
  have nodup : (options.signedHeaderNames host).Nodup := perm_sortByKey.nodup_iff.mpr distinct
  have mem : ascii "host" ∈ options.signedHeaderNames host :=
    mem_sortByKey.mpr List.mem_cons_self
  rw [SignatureV4.signedHeaders, SignatureV4.signedHeaders, names_signedByCode,
    names_signedByServer, signedNames_of_nodup fields distinct] at same
  have lines := List.append_cancel_right (List.append_cancel_right same)
  rw [signedByCode, signedByServer, signedNames_of_nodup fields distinct] at lines
  obtain ⟨before, after, split⟩ := List.append_of_mem mem
  have others (names : List Bytes) (subset : ∀ name ∈ names, name ∈ options.signedHeaderNames host)
      (without : ascii "host" ∉ names) :
      (names.map fun name => (name, headerValue name (options.requestHeaders named))) =
        names.map fun name => (name, assignedValue name (options.headersToSign host)) := by
    apply List.map_congr_left
    intro name mem
    rw [headerValue_of_ne_host distinct (subset name mem)]
    rintro rfl
    exact without mem
  rw [split] at nodup lines
  obtain ⟨-, tail, apart⟩ := List.nodup_append.mp nodup
  rw [List.map_append, List.map_append, List.map_cons, List.map_cons,
    others before (fun name mem => split ▸ List.mem_append_left _ mem)
      (fun mem => apart _ mem _ List.mem_cons_self rfl),
    others after (fun name mem => split ▸ List.mem_append_right _ (List.mem_cons_of_mem _ mem))
      (List.nodup_cons.mp tail).1,
    List.flatMap_append, List.flatMap_append, List.flatMap_cons, List.flatMap_cons] at lines
  have line := List.append_cancel_right (List.append_cancel_left lines)
  rw [headerLine, headerLine, headerValue_host distinct, assignedValue_host distinct] at line
  exact (List.append_cancel_left (List.append_cancel_right line)).symm

end PresignedUrlOptions

/-! ## Presigned URLs -/

namespace S3Client

variable {client : S3Client} {clock : PresignReadings} {key : Bytes}
  {options : PresignedUrlOptions}

/-- The parameters that the code signs. -/
def presignParameters (client : S3Client) (clock : PresignReadings)
    (options : PresignedUrlOptions) : List Parameter :=
  options.parameters (client.credentials.accessKeyId ++ ascii "/" ++ client.presignScope clock)
    clock.time.iso8601 (options.signedHeaders client.config.getHost)

theorem presignQuery_eq (client : S3Client) (clock : PresignReadings)
    (options : PresignedUrlOptions) :
    client.presignQuery clock options = renderQuery (client.presignParameters clock options) :=
  options.queryString_eq_renderQuery _ _ _

theorem generatePresignedUrl_eq (client : S3Client) (clock : PresignReadings) (key : Bytes)
    (options : PresignedUrlOptions) :
    client.generatePresignedUrl clock key options = schemeText client.config.useSsl ++
      (client.config.getHost ++ renderTarget (client.config.getPath key)
        (renderQuery (client.presignParameters clock options ++
          [(ascii "X-Amz-Signature", client.presignSignature clock key options)]))) := by
  have last : renderQuery (client.presignParameters clock options ++
      [(ascii "X-Amz-Signature", client.presignSignature clock key options)]) =
        client.presignQuery clock options ++ ascii "&X-Amz-Signature=" ++
          client.presignSignature clock key options := by
    have signature : 0x26 :: renderParameter (ascii "X-Amz-Signature",
        client.presignSignature clock key options) =
          ascii "&X-Amz-Signature=" ++ client.presignSignature clock key options := by
      rw [renderParameter, presignSignature, urlEncode_bytesToHex]
      rfl
    rw [presignQuery_eq, presignParameters, PresignedUrlOptions.parameters, List.cons_append,
      List.cons_append, renderQuery_cons, renderQuery_cons, List.flatMap_append,
      List.flatMap_singleton, signature]
    simp only [List.append_assoc]
  have nonempty : renderQuery (client.presignParameters clock options ++
      [(ascii "X-Amz-Signature", client.presignSignature clock key options)]) ≠ [] := by
    rw [last]
    simp [ascii]
  rw [renderTarget, if_neg nonempty, last, generatePresignedUrl]
  simp only [List.append_assoc]
  rfl

theorem getPath_eq_cons (config : S3Config) (key : Bytes) :
    ∃ rest, config.getPath key = 0x2f :: rest := by
  rw [S3Config.getPath]
  split <;> exact ⟨_, rfl⟩

theorem urlHost_generatePresignedUrl (client : S3Client) (clock : PresignReadings) (key : Bytes)
    (options : PresignedUrlOptions) :
    urlHost (client.generatePresignedUrl clock key options) =
      client.config.getHost.takeWhile (· != 0x2f) := by
  obtain ⟨rest, path⟩ := getPath_eq_cons client.config key
  rw [urlHost, generatePresignedUrl_eq, splitScheme_append, path, renderTarget_cons,
    List.takeWhile_append]
  split
  · rename_i whole
    rw [List.takeWhile_cons_of_neg (by simp), List.append_nil]
    exact ((List.takeWhile_prefix _).eq_of_length whole).symm
  · rfl

theorem presignCanonicalRequest_eq (client : S3Client) (clock : PresignReadings) (key : Bytes)
    (options : PresignedUrlOptions) :
    client.presignCanonicalRequest clock key options =
      SignatureV4.canonicalRequest options.method (urlEncode false (client.config.getPath key))
        (renderQuery (client.presignParameters clock options))
        (options.signedByCode client.config.getHost) (ascii "UNSIGNED-PAYLOAD") := by
  have signed : options.signedHeaders client.config.getHost =
      SignatureV4.signedHeaders (options.signedByCode client.config.getHost) := by
    rw [SignatureV4.signedHeaders, PresignedUrlOptions.names_signedByCode]
    rfl
  rw [← canonicalRequest_eq, ← signed, ← presignQuery_eq, PresignedUrlOptions.signedByCode,
    List.flatMap_map]
  rfl

theorem presignSignature_eq (client : S3Client) (clock : PresignReadings) (key : Bytes)
    (options : PresignedUrlOptions) :
    client.presignSignature clock key options =
      bytesToHex (client.hashes.hmacSha256
        (SignatureV4.signingKey client.hashes client.credentials.secretAccessKey
          clock.date.dateStamp client.config.region)
        (SignatureV4.stringToSign client.hashes clock.time.iso8601 clock.date.dateStamp
          client.config.region (client.presignCanonicalRequest clock key options))) := by
  rw [presignSignature, presignScope, SignatureV4.stringToSign, ← credentialScope_eq,
    SignatureV4.signingKey]
  simp only [List.foldl_cons, List.foldl_nil, List.intercalate_cons_cons,
    List.intercalate_singleton, List.append_assoc]

theorem expectedInQuery_eq {url : Bytes} {headers : List Header} (hashes : Hashes)
    (same : sortByKey Prod.fst ((parseQuery (targetQuery (requestTarget url))).filter
      fun parameter => parameter.1 != ascii "X-Amz-Signature") =
        client.presignParameters clock options) (secret region method : Bytes) :
    SignatureV4.expectedInQuery hashes secret region method url headers =
      bytesToHex (hashes.hmacSha256
        (SignatureV4.signingKey hashes secret clock.time.dateStamp region)
        (SignatureV4.stringToSign hashes clock.time.iso8601 clock.time.dateStamp region
          (SignatureV4.canonicalRequest method
            (urlEncode false (percentDecode (targetPath (requestTarget url))))
            (renderQuery (client.presignParameters clock options))
            ((SignatureV4.signedNames (options.signedHeaders client.config.getHost)).map
              fun name => (name, headerValue name headers))
            (ascii "UNSIGNED-PAYLOAD")))) := by
  have distinct : ((client.presignParameters clock options).map Prod.fst).Nodup :=
    (options.nodup_parameters _ _ _).1
  have time : SignatureV4.parameterValue (ascii "X-Amz-Date")
      (parseQuery (targetQuery (requestTarget url))) = clock.time.iso8601 := by
    apply SignatureV4.parameterValue_of_mem distinct same
    simp [presignParameters, PresignedUrlOptions.parameters]
  have names : SignatureV4.parameterValue (ascii "X-Amz-SignedHeaders")
      (parseQuery (targetQuery (requestTarget url))) =
        options.signedHeaders client.config.getHost := by
    apply SignatureV4.parameterValue_of_mem distinct same
    simp [presignParameters, PresignedUrlOptions.parameters]
  rw [SignatureV4.expectedInQuery, time, names, same, UtcTime.take_iso8601]

theorem notMem_renderQuery (parameters : List Parameter) : 0x0a ∉ renderQuery parameters := by
  have outside (parameter : Parameter) : (0x0a : UInt8) ∉ renderParameter parameter :=
    notMem_renderParameter rfl (by decide) (by decide)
  cases parameters with
  | nil => exact List.not_mem_nil
  | cons first others => simp [renderQuery_cons, outside]

/-- A request can carry the headers that the options prescribe. -/
def CarriesHeaders (client : S3Client) (options : PresignedUrlOptions) : Prop :=
  ∀ header ∈ options.requestHeaders (client.config.getHost.takeWhile (· != 0x2f)), IsField header

/-- Whatever the hashes, the URL has the signature that a server expects of a request with the
headers that the options prescribe. -/
def PresignVerifies (client : S3Client) (clock : PresignReadings) (key : Bytes)
    (options : PresignedUrlOptions) : Prop :=
  ∀ hashes, let signer := client.withHashes hashes
    let url := signer.generatePresignedUrl clock key options
    (∀ header ∈ options.requestHeaders (urlHost url), IsField header) →
      signer.presignSignature clock key options =
        SignatureV4.expectedInQuery hashes client.credentials.secretAccessKey client.config.region
          options.method url (options.requestHeaders (urlHost url))

/-- What makes a URL verify: one date, a host without a slash, a path that is sent as it is, one
override at most for a GET, and metadata with different names for a PUT. -/
structure Presignable (client : S3Client) (clock : PresignReadings) (key : Bytes)
    (options : PresignedUrlOptions) : Prop where
  date : clock.date.dateStamp = clock.time.dateStamp
  host : 0x2f ∉ client.config.getHost
  path : IsPlainPath (client.config.getPath key)
  overrides : options.method = ascii "GET" →
    options.responseContentType = none ∨ options.responseContentDisposition = none
  metadata : options.method = ascii "PUT" → options.metadataNames.Nodup

theorem requestTarget_generatePresignedUrl (slash : 0x2f ∉ client.config.getHost) :
    requestTarget (client.generatePresignedUrl clock key options) =
      (renderTarget (client.config.getPath key)
        (renderQuery (client.presignParameters clock options ++
          [(ascii "X-Amz-Signature", client.presignSignature clock key options)]))).takeWhile
            (· != 0x23) := by
  obtain ⟨rest, path⟩ := getPath_eq_cons client.config key
  rw [generatePresignedUrl_eq, path, renderTarget_cons, requestTarget_append slash]

theorem presignSignature_of_presignable (presignable : client.Presignable clock key options)
    (carries : ∀ header ∈ options.requestHeaders client.config.getHost, IsField header) :
    client.presignSignature clock key options =
      SignatureV4.expectedInQuery client.hashes client.credentials.secretAccessKey
        client.config.region options.method (client.generatePresignedUrl clock key options)
        (options.requestHeaders client.config.getHost) := by
  have target := target_of_plain presignable.path.1 presignable.path.2.1
    (renderQuery (client.presignParameters clock options ++
      [(ascii "X-Amz-Signature", client.presignSignature clock key options)]))
  rw [← requestTarget_generatePresignedUrl presignable.host, takeWhile_renderQuery] at target
  have sorted : (client.presignParameters clock options).Pairwise fun left right =>
      left.1 ≤ right.1 :=
    (options.pairwise_parameters_iff _ _ _).mpr presignable.overrides
  have same : sortByKey Prod.fst ((parseQuery (targetQuery (requestTarget
      (client.generatePresignedUrl clock key options)))).filter
        fun parameter => parameter.1 != ascii "X-Amz-Signature") =
          client.presignParameters clock options := by
    rw [target.2, parseQuery_renderQuery]
    exact SignatureV4.sort_unsigned sorted (options.nodup_parameters _ _ _).2 _
  have decoded : percentDecode (client.config.getPath key) = client.config.getPath key :=
    percentDecode_eq_self_iff.mpr presignable.path.2.2
  have distinct : ((options.headersToSign client.config.getHost).map Prod.fst).Nodup :=
    PresignedUrlOptions.nodup_headersToSign_iff.mpr presignable.metadata
  have signed := PresignedUrlOptions.signedByServer_eq carries distinct rfl
  rw [PresignedUrlOptions.signedByServer] at signed
  rw [expectedInQuery_eq client.hashes same, presignSignature_eq, presignCanonicalRequest_eq,
    presignable.date, target.1, decoded, signed]

theorem presignable_of_verifies (verifies : client.PresignVerifies clock key options)
    (carries : client.CarriesHeaders options) : client.Presignable clock key options := by
  have line (text : Bytes) : 0x0a ∉ urlEncode false text := notMem_urlEncode rfl (by decide)
  let signer := client.withHashes plainHashes
  let url := signer.generatePresignedUrl clock key options
  have host : urlHost url = client.config.getHost.takeWhile (· != 0x2f) :=
    urlHost_generatePresignedUrl signer clock key options
  have fields : ∀ header ∈ options.requestHeaders (urlHost url), IsField header :=
    host ▸ carries
  have signature : signer.presignSignature clock key options =
      SignatureV4.expectedInQuery plainHashes client.credentials.secretAccessKey
        client.config.region options.method url (options.requestHeaders (urlHost url)) :=
    verifies plainHashes fields
  -- The query comes first: it decides which names and which time a server finds.
  have same : sortByKey Prod.fst ((parseQuery (targetQuery (requestTarget url))).filter
      fun parameter => parameter.1 != ascii "X-Amz-Signature") =
        signer.presignParameters clock options := by
    rw [presignSignature_eq, presignCanonicalRequest_eq] at signature
    have texts := (SignatureV4.stringToSign_inj (bytesToHex_injective signature)).1
    have queries := (SignatureV4.canonicalRequest_cases (line _) (line _) (notMem_renderQuery _)
      (notMem_renderQuery _) texts).2.1
    exact (renderQuery_injective queries).symm
  rw [presignSignature_eq, presignCanonicalRequest_eq, expectedInQuery_eq plainHashes same]
    at signature
  obtain ⟨texts, dates⟩ := SignatureV4.stringToSign_inj (bytesToHex_injective signature)
  obtain ⟨paths, -, lines⟩ := SignatureV4.canonicalRequest_cases (line _) (line _)
    (notMem_renderQuery _) (notMem_renderQuery _) texts
  have distinct := PresignedUrlOptions.nodup_of_lines fields lines
  have named : urlHost url = client.config.getHost :=
    PresignedUrlOptions.host_of_lines fields distinct lines
  have slash : 0x2f ∉ client.config.getHost := by
    rw [← named, host]
    intro mem
    exact absurd (List.mem_takeWhile_imp mem) (by decide)
  have path : percentDecode (targetPath (requestTarget url)) = client.config.getPath key :=
    (urlEncode_injective false paths).symm
  have target : requestTarget url = _ := S3Client.requestTarget_generatePresignedUrl slash
  rw [target] at path
  have sorted : (signer.presignParameters clock options).Pairwise fun left right =>
      left.1 ≤ right.1 := by
    rw [← same]
    exact List.pairwise_insertionSort _ _
  exact {
    date := dates rfl (by rw [UtcTime.length_dateStamp, UtcTime.length_dateStamp])
    host := slash
    path := percentDecode_targetPath_eq_iff.mp path
    overrides := (options.pairwise_parameters_iff _ _ _).mp sorted
    metadata := PresignedUrlOptions.nodup_headersToSign_iff.mp distinct }

end S3Client

end FileTrans.Cloud
