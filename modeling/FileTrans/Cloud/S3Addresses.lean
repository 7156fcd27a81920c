import FileTrans.Cloud.S3Requests

/-!
# Addresses of S3 requests

The host of a request is that of the endpoint; its scheme is the one of the
configuration, and no port is named.  The path of an object begins with its
key, that of a bucket with the bucket if the style asks for it.
-/

namespace FileTrans.Cloud

open FileTrans.Text

namespace S3Config

variable (config : S3Config)

/-- The URL of a request, if one is sent. -/
def requestUrl (operation : S3Operation) : Option Bytes :=
  if config.endpoint.isSome then
    some (buildS3Url config.getHost config.useSsl (operation.path config) operation.query)
  else none

/-- The same configuration for another bucket. -/
def withBucket (bucket : Bytes) : S3Config :=
  { config with bucket := bucket }

/-- The bucket that a URL addresses: by the first segment of its path, or by its host. -/
def addressedBucket (url : Bytes) : Bytes :=
  if config.usePathStyle then
    ((targetPath (requestTarget url)).drop 1).takeWhile (· != 0x2f)
  else (splitScheme url).2.takeWhile (· != 0x2f)

/-- Every request goes to the scheme, the host and the port of the endpoint. -/
def NamesEndpoint : Prop :=
  ∀ operation url endpoint, config.requestUrl operation = some url →
    config.endpoint = some endpoint → parseEndpoint url = parseEndpoint endpoint

/-- Requests about different objects have different URLs. -/
def Distinguishes : Prop :=
  ∀ bucket bucket' operation operation' key key' url,
    operation.key = some key → operation'.key = some key' →
    (config.withBucket bucket).requestUrl operation = some url →
    (config.withBucket bucket').requestUrl operation' = some url →
    bucket = bucket' ∧ key = key'

/-- Requests about objects address the bucket that those about the bucket address. -/
def SameBucket : Prop :=
  ∀ bucket operation operation' key url url',
    operation.key = some key → operation'.key = none →
    (config.withBucket bucket).requestUrl operation = some url →
    (config.withBucket bucket).requestUrl operation' = some url' →
    config.addressedBucket url = config.addressedBucket url'

end S3Config

/-! ## Reading a URL -/

variable {config : S3Config} {endpoint host url : Bytes} {operation : S3Operation}

theorem notMem_host (endpoint : Bytes) :
    0x2f ∉ (parseEndpoint endpoint).host ∧ 0x3a ∉ (parseEndpoint endpoint).host := by
  have slash : (0x2f : UInt8) ∉ (splitScheme endpoint).2.takeWhile (· != 0x2f) := by
    intro mem
    exact absurd (List.mem_takeWhile_imp mem) (by decide)
  rw [parseEndpoint]
  split
  · constructor
    · intro mem
      exact slash ((List.takeWhile_prefix _).subset mem)
    · intro mem
      exact absurd (List.mem_takeWhile_imp mem) (by decide)
  · rename_i colon
    exact ⟨slash, colon⟩

theorem path_eq_cons (config : S3Config) (operation : S3Operation) :
    ∃ rest, operation.path config = 0x2f :: rest := by
  rw [S3Operation.path]
  cases operation.key with
  | some key =>
      simp only [S3Config.getPath]
      split <;> exact ⟨_, rfl⟩
  | none =>
      simp only [S3Config.bucketPath]
      split <;> exact ⟨_, rfl⟩

theorem renderTarget_cons (rest query : Bytes) :
    renderTarget (0x2f :: rest) query = 0x2f :: renderTarget rest query :=
  rfl

theorem requestUrl_eq (named : config.endpoint = some endpoint) (operation : S3Operation) :
    config.requestUrl operation = some (schemeText config.useSsl ++
      ((parseEndpoint endpoint).host ++ renderTarget (operation.path config) operation.query)) := by
  rw [S3Config.requestUrl, S3Config.getHost, named, buildS3Url, List.append_assoc]
  rfl

theorem parseEndpoint_requestUrl (named : config.endpoint = some endpoint)
    (sends : config.requestUrl operation = some url) :
    parseEndpoint url =
      ⟨(parseEndpoint endpoint).host, defaultPort config.useSsl, config.useSsl⟩ := by
  rcases notMem_host endpoint with ⟨slash, colon⟩
  rcases path_eq_cons config operation with ⟨rest, path⟩
  rw [requestUrl_eq named, path, renderTarget_cons, Option.some.injEq] at sends
  rw [← sends, parseEndpoint, splitScheme_append, takeWhile_ne_append_cons slash, if_neg colon]
  rfl

/-! ## What the addresses name -/

theorem namesEndpoint_iff (named : config.endpoint = some endpoint) :
    config.NamesEndpoint ↔ (parseEndpoint endpoint).useSsl = config.useSsl ∧
      (parseEndpoint endpoint).port = defaultPort config.useSsl := by
  constructor
  · intro names
    have sends := requestUrl_eq named .headBucket
    have same := names .headBucket _ endpoint sends named
    rw [parseEndpoint_requestUrl named sends] at same
    exact ⟨(congrArg S3EndpointInfo.useSsl same).symm, (congrArg S3EndpointInfo.port same).symm⟩
  · rintro ⟨scheme, port⟩ operation url other sends again
    rw [named] at again
    cases again
    rw [parseEndpoint_requestUrl named sends, ← port, ← scheme]

theorem not_distinguishes (named : config.endpoint = some endpoint) : ¬ config.Distinguishes := by
  intro distinguishes
  have url (bucket : Bytes) : (config.withBucket bucket).requestUrl (.getObject []) =
      some (schemeText config.useSsl ++ ((parseEndpoint endpoint).host ++ ascii "/")) := by
    have path : (S3Operation.getObject []).path (config.withBucket bucket) = ascii "/" := by
      simp [S3Operation.path, S3Operation.key, S3Config.getPath, S3Config.withBucket, named]
    have named : (config.withBucket bucket).endpoint = some endpoint := named
    rw [requestUrl_eq named, path]
    rfl
  have same := (distinguishes [] [0x62] (.getObject []) (.getObject []) [] [] _ rfl rfl
    (url []) (url [0x62])).1
  contradiction

theorem addressedBucket_of_path (style : config.usePathStyle = true) (slash : 0x2f ∉ host)
    (tail : Bytes) :
    config.addressedBucket (schemeText config.useSsl ++ (host ++ 0x2f :: tail)) =
      ((targetPath ((0x2f :: tail).takeWhile (· != 0x23))).drop 1).takeWhile (· != 0x2f) := by
  rw [S3Config.addressedBucket, if_pos style, requestTarget_append slash]

theorem sameBucket_iff (named : config.endpoint = some endpoint) :
    config.SameBucket ↔ config.usePathStyle = false := by
  have slash := (notMem_host endpoint).1
  constructor
  · intro same
    by_contra style
    rw [Bool.not_eq_false] at style
    have object : (S3Operation.getObject [0x6b]).path (config.withBucket [0x62]) =
        0x2f :: [0x6b] := by
      simp [S3Operation.path, S3Operation.key, S3Config.getPath, S3Config.withBucket, named]
      rfl
    have bucket : S3Operation.headBucket.path (config.withBucket [0x62]) = 0x2f :: [0x62] := by
      simp [S3Operation.path, S3Operation.key, S3Config.bucketPath, S3Config.withBucket, style]
      rfl
    have named : (config.withBucket [0x62]).endpoint = some endpoint := named
    have alike := same [0x62] (.getObject [0x6b]) .headBucket [0x6b] _ _ rfl rfl
      (requestUrl_eq named _) (requestUrl_eq named _)
    rw [object, bucket] at alike
    have first := addressedBucket_of_path style slash [0x6b]
    have second := addressedBucket_of_path style slash [0x62]
    exact absurd (first.symm.trans (alike.trans second)) (by decide)
  · intro style bucket operation operation' key url url' _ _ sends sends'
    have host (operation : S3Operation) (url : Bytes)
        (sends : (config.withBucket bucket).requestUrl operation = some url) :
        config.addressedBucket url = (parseEndpoint endpoint).host := by
      have named : (config.withBucket bucket).endpoint = some endpoint := named
      rcases path_eq_cons (config.withBucket bucket) operation with ⟨rest, path⟩
      rw [requestUrl_eq named, path, renderTarget_cons, Option.some.injEq] at sends
      rw [← sends, S3Config.addressedBucket, if_neg (by simp [style]), splitScheme_append,
        takeWhile_ne_append_cons slash]
    rw [host operation url sends, host operation' url' sends']

/-- All addresses are as they should be exactly if there is no endpoint, so that nothing is sent.
With an endpoint, the scheme and the port are right exactly if the scheme of the endpoint is
configured and its port is the default one, objects of different buckets are never told apart, and
objects are in the bucket that is listed exactly if it is looked for in the host. -/
theorem addresses_iff (config : S3Config) :
    (config.NamesEndpoint ∧ config.Distinguishes ∧ config.SameBucket ↔ config.endpoint = none) ∧
    ∀ endpoint, config.endpoint = some endpoint →
      (config.NamesEndpoint ↔ (parseEndpoint endpoint).useSsl = config.useSsl ∧
        (parseEndpoint endpoint).port = defaultPort config.useSsl) ∧
      ¬ config.Distinguishes ∧
      (config.SameBucket ↔ config.usePathStyle = false) := by
  constructor
  · constructor
    · rintro ⟨-, distinguishes, -⟩
      cases named : config.endpoint with
      | none => rfl
      | some endpoint => exact absurd distinguishes (not_distinguishes named)
    · intro none
      have silent (bucket : Bytes) (operation : S3Operation) (url : Bytes) :
          (config.withBucket bucket).requestUrl operation ≠ some url := by
        simp [S3Config.requestUrl, S3Config.withBucket, none]
      refine ⟨?_, ?_, ?_⟩
      · intro operation url endpoint _ named
        rw [none] at named
        contradiction
      · intro bucket _ operation _ _ _ url _ _ sends
        exact absurd sends (silent bucket operation url)
      · intro bucket operation _ _ url _ _ _ sends
        exact absurd sends (silent bucket operation url)
  · intro endpoint named
    exact ⟨namesEndpoint_iff named, not_distinguishes named, sameBucket_iff named⟩

/-- A server of one's own, with objects in paths. -/
def localConfig : S3Config where
  bucket := ascii "b"
  region := ascii "us-east-1"
  endpoint := some (ascii "http://localhost:9000")
  usePathStyle := true
  useSsl := true
  useTransferAcceleration := false

/-- For this server neither the endpoint nor the bucket is the right one. -/
theorem addresses_sample : ¬ localConfig.NamesEndpoint ∧ ¬ localConfig.SameBucket := by
  have details := (addresses_iff localConfig).2 (ascii "http://localhost:9000") rfl
  exact ⟨fun names => absurd (details.1.mp names) (by decide),
    fun same => absurd (details.2.2.mp same) (by decide)⟩

/-- A request to this server goes to another port, by another scheme. -/
theorem addresses_elsewhere :
    ¬ ∀ config : S3Config, config.NamesEndpoint ∧ config.Distinguishes ∧ config.SameBucket := by
  intro claim
  have same := (claim localConfig).1 .headBucket (ascii "https://localhost/b")
    (ascii "http://localhost:9000") (by decide) rfl
  revert same
  decide

end FileTrans.Cloud
