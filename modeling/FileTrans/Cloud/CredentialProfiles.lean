import FileTrans.Storage.FileSystem
import FileTrans.Text.Ini
import FileTrans.Transition.Run

/-!
# Credentials from profiles

`s3_credential_provider`, which reads a profile from a file.  It does not keep the
name of the profile nor that of the file: a provider is refreshed from the default
profile in the default file.
-/

namespace FileTrans.Cloud

open FileTrans.Text FileTrans.Transition FileTrans.Storage

structure StaticCredentials where
  accessKeyId : Bytes
  secretAccessKey : Bytes
  sessionToken : Option Bytes
  region : Option Bytes
  deriving DecidableEq

/-! ## The file of the profiles -/

structure ProfileKeys where
  accessKey : Bytes
  secretKey : Bytes
  sessionToken : Bytes
  foundProfile : Bool

/-- `line.substr(start, end - start + 1)`, from the first byte that is not blank to the last one
that does not end a line; nothing where all is blank. -/
def trimmedLine (line : Bytes) : Option Bytes :=
  match line.findIdx? (!isBlank ·) with
  | none => none
  | some start =>
      let count := match findLastOf (!isLineEnd ·) line with
        | some last => last - start + 1
        -- The position is the greatest of its type, and the sum wraps around.
        | none => (2 ^ 64 - start) % 2 ^ 64
      some ((line.drop start).take count)

/-- `key.erase(key.find_last_not_of(" \t") + 1)`. -/
def eraseBlanksBehind (key : Bytes) : Bytes :=
  match findLastOf (!isBlank ·) key with
  | some last => key.take (last + 1)
  | none => []

/-- `value.erase(0, value.find_first_not_of(" \t"))`. -/
def eraseBlanksBefore (value : Bytes) : Bytes :=
  match value.findIdx? (!isBlank ·) with
  | some start => value.drop start
  | none => []

namespace ProfileKeys

/-- A key of the profile and its value. -/
def assign (keys : ProfileKeys) (key value : Bytes) : ProfileKeys :=
  if key = ascii "aws_access_key_id" then
    { keys with accessKey := value, foundProfile := true }
  else if key = ascii "aws_secret_access_key" then { keys with secretKey := value }
  else if key = ascii "aws_session_token" then { keys with sessionToken := value }
  else keys

/-- A line of the profile. -/
def parseEntry (keys : ProfileKeys) (line : Bytes) : ProfileKeys :=
  match line.findIdx? (· == 0x3d) with
  | none => keys
  | some eqPos =>
      keys.assign (eraseBlanksBehind (line.take eqPos)) (eraseBlanksBefore (line.drop (eqPos + 1)))

/-- The loop body, with the profile that the line before it belongs to. -/
def scanLine (profileName : Bytes) (scan : Bytes × ProfileKeys) (line : Bytes) :
    Bytes × ProfileKeys :=
  match trimmedLine line with
  | none | some [] => scan
  | some (first :: rest) =>
      if first = 0x23 ∨ first = 0x3b then scan
      else if first = 0x5b ∧ (first :: rest).getLast? = some 0x5d then
        (rest.take (rest.length - 1), scan.2)
      else if scan.1 = profileName then (scan.1, scan.2.parseEntry (first :: rest))
      else scan

def nothing : ProfileKeys :=
  ⟨[], [], [], false⟩

/-- The credentials, if there are a key and a secret. -/
def credentials (keys : ProfileKeys) : Option StaticCredentials :=
  if keys.foundProfile = false ∨ keys.accessKey = [] ∨ keys.secretKey = [] then none
  else some
    { accessKeyId := keys.accessKey
      secretAccessKey := keys.secretKey
      sessionToken := if keys.sessionToken = [] then none else some keys.sessionToken
      region := none }

end ProfileKeys

/-- What `create_from_profile` reads from the content of a file. -/
def parseProfile (profileName text : Bytes) : Option StaticCredentials :=
  ((getLines text).foldl (ProfileKeys.scanLine profileName) ([], .nothing)).2.credentials

example : parseProfile (ascii "b")
    (ascii "[a]\naws_access_key_id=1\n [b] \r\n aws_secret_access_key = k \naws_access_key_id=2") =
      some ⟨ascii "2", ascii "k", none, none⟩ := by decide +kernel

/-! ## Lines that are read -/

theorem findIdx?_blanks (blanks : Blanks) {byte : UInt8} (solid : isBlank byte = false)
    (rest : Bytes) :
    (blanks.text ++ byte :: rest).findIdx? (!isBlank ·) = some blanks.text.length := by
  have none : blanks.text.findIdx? (!isBlank ·) = none := by
    rw [List.findIdx?_eq_none_iff]
    intro byte mem
    rw [blanks.blank byte mem]
    rfl
  rw [List.findIdx?_append, none, List.findIdx?_cons, solid]
  simp

theorem trimmedLine_eq (indent : Blanks) {byte : UInt8} (solid : isBlank byte = false)
    {rest : Bytes} {last : Nat} (found : findLastOf (!isLineEnd ·) (byte :: rest) = some last) :
    trimmedLine (indent.text ++ byte :: rest) = some ((byte :: rest).take (last + 1)) := by
  have start := findIdx?_blanks indent solid rest
  have stop : findLastOf (!isLineEnd ·) (indent.text ++ byte :: rest) =
      some (indent.text.length + last) := by
    rw [findLastOf_append, found]
    rfl
  rw [trimmedLine, start, stop]
  simp only [List.drop_left]
  rw [Nat.add_sub_cancel_left]

theorem trimmedLine_core (indent : Blanks) (ending : LineEnd) {core rest before : Bytes}
    {first last : UInt8} (head : core = first :: rest) (solid : isBlank first = false)
    (foot : core = before ++ [last]) (whole : isLineEnd last = false) :
    trimmedLine (indent.text ++ core ++ ending.text) = some core := by
  have found : findLastOf (!isLineEnd ·) (core ++ ending.text) = some before.length := by
    rw [foot, List.append_assoc, List.singleton_append]
    apply findLastOf_concat before (by rw [whole]; rfl)
    intro byte mem
    rw [ending.ending byte mem]
    rfl
  have length : before.length + 1 = core.length := by rw [foot, List.length_append]; rfl
  rw [head, List.cons_append] at found
  rw [List.append_assoc, head, List.cons_append, trimmedLine_eq indent solid found, length,
    ← List.cons_append, ← head, List.take_left]

theorem forall_mem_trimmedLine {line trimmed : Bytes} {holds : UInt8 → Prop}
    (every : ∀ byte ∈ line, holds byte) (cut : trimmedLine line = some trimmed) :
    ∀ byte ∈ trimmed, holds byte := by
  rw [trimmedLine] at cut
  split at cut
  · cases cut
  · rw [Option.some.injEq] at cut
    subst cut
    exact fun byte mem => every byte (List.mem_of_mem_drop (List.mem_of_mem_take mem))
theorem eraseBlanksBehind_eq {key rest : Bytes} {last : UInt8} (foot : key = rest ++ [last])
    (solid : isBlank last = false) (blanks : Blanks) :
    eraseBlanksBehind (key ++ blanks.text) = key := by
  have found : findLastOf (!isBlank ·) (key ++ blanks.text) = some rest.length := by
    rw [foot, List.append_assoc, List.singleton_append]
    apply findLastOf_concat rest (by rw [solid]; rfl)
    intro byte mem
    rw [blanks.blank byte mem]
    rfl
  have length : rest.length + 1 = key.length := by rw [foot, List.length_append]; rfl
  rw [eraseBlanksBehind, found]
  simp only [length, List.take_left]

theorem eraseBlanksBefore_eq {value rest : Bytes} {first : UInt8} (head : value = first :: rest)
    (solid : isBlank first = false) (blanks : Blanks) :
    eraseBlanksBefore (blanks.text ++ value) = value := by
  have found := findIdx?_blanks blanks solid rest
  rw [← head] at found
  rw [eraseBlanksBefore, found]
  simp only [List.drop_left]

namespace ProfileKeys

variable {profileName : Bytes} {scan : Bytes × ProfileKeys}

theorem scanLine_of_plain {line rest : Bytes} {first : UInt8}
    (cut : trimmedLine line = some (first :: rest))
    (plain : first ∉ [(0x23 : UInt8), 0x3b, 0x5b]) :
    scanLine profileName scan line =
      if scan.1 = profileName then (scan.1, scan.2.parseEntry (first :: rest)) else scan := by
  simp only [List.mem_cons, List.not_mem_nil, or_false, not_or] at plain
  rw [scanLine, cut]
  simp only [plain, or_self, false_and, if_false]

theorem findIdx?_sign_eq_none {text : Bytes} (noSign : (0x3d : UInt8) ∉ text) :
    text.findIdx? (· == 0x3d) = none := by
  rw [List.findIdx?_eq_none_iff]
  exact fun byte mem => beq_eq_false_iff_ne.mpr fun same => noSign (same ▸ mem)

theorem parseEntry_of_notMem {line : Bytes} (noSign : (0x3d : UInt8) ∉ line) (keys : ProfileKeys) :
    keys.parseEntry line = keys := by
  rw [parseEntry, findIdx?_sign_eq_none noSign]

theorem scanLine_remark (scan : Bytes × ProfileKeys) (remark : IniRemark) :
    scanLine profileName scan remark.line = scan := by
  cases remark with
  | blank spaces =>
      have solid : ∀ byte ∈ [(0x23 : UInt8), 0x3b, 0x5b, 0x3d], isLineEnd byte = false := by decide
      cases cut : trimmedLine (IniRemark.blank spaces).line with
      | none => rw [scanLine, cut]
      | some trimmed =>
          have every := forall_mem_trimmedLine spaces.ending cut
          have absent {byte : UInt8} (mem : byte ∈ [(0x23 : UInt8), 0x3b, 0x5b, 0x3d]) :
              byte ∉ trimmed := fun inside =>
            Bool.noConfusion ((solid byte mem).symm.trans (every byte inside))
          cases trimmed with
          | nil => rw [scanLine, cut]
          | cons first rest =>
              have plain : first ∉ [(0x23 : UInt8), 0x3b, 0x5b] := fun mem =>
                absent (List.mem_append_left [0x3d] mem) List.mem_cons_self
              rw [scanLine_of_plain cut plain, parseEntry_of_notMem (absent (by decide))]
              split <;> rfl
  | comment indent marker isMarker text oneLine =>
      have solid : isBlank marker = false ∧ isLineEnd marker = false := by
        rcases isMarker with rfl | rfl <;> decide
      have found : ∃ last, findLastOf (!isLineEnd ·) (marker :: text) = some last := by
        rw [findLastOf, solid.2]
        cases findLastOf (!isLineEnd ·) text with
        | none => exact ⟨0, rfl⟩
        | some last => exact ⟨last + 1, rfl⟩
      rcases found with ⟨last, found⟩
      rw [scanLine, IniRemark.line, trimmedLine_eq indent solid.1 found, List.take_succ_cons]
      simp only [isMarker, if_true]

theorem scanLine_header (scan : Bytes × ProfileKeys) (header : IniHeader) :
    scanLine profileName scan header.line = (header.name, scan.2) := by
  have cut : trimmedLine header.line = some (0x5b :: (header.name ++ [0x5d])) :=
    trimmedLine_core header.indent header.ending rfl rfl (List.cons_append ..).symm rfl
  have last : (0x5b :: (header.name ++ [0x5d])).getLast? = some 0x5d := by
    rw [← List.cons_append, List.getLast?_concat]
  rw [scanLine, cut]
  simp only [last, and_self, if_true]
  rw [if_neg (by decide)]
  simp

theorem parseEntry_eq {before value : Bytes} (noSign : (0x3d : UInt8) ∉ before)
    (keys : ProfileKeys) :
    keys.parseEntry (before ++ 0x3d :: value) =
      keys.assign (eraseBlanksBehind before) (eraseBlanksBefore value) := by
  have found : (before ++ 0x3d :: value).findIdx? (· == 0x3d) = some before.length := by
    rw [List.findIdx?_append, findIdx?_sign_eq_none noSign, List.findIdx?_cons]
    simp
  have behind : (before ++ 0x3d :: value).drop (before.length + 1) = value := by
    rw [List.append_cons, List.drop_left' (by simp)]
  rw [parseEntry, found]
  simp only [List.take_left, behind]

theorem trimmedLine_entry (entry : IniEntry) : ∃ value,
    trimmedLine entry.line = some (entry.key ++ entry.beforeSign.text ++ 0x3d :: value) ∧
      eraseBlanksBefore value = entry.value := by
  rcases entry.isKey.first with ⟨first, rest, head, solid, -⟩
  by_cases empty : entry.value = []
  · -- The blanks behind the sign end the line.
    let ending : LineEnd :=
      { text := entry.afterSign.text ++ entry.ending.text
        ending := by
          intro byte mem
          rcases List.mem_append.mp mem with blank | ending
          · rw [isLineEnd, entry.afterSign.blank byte blank]
            rfl
          · exact entry.ending.ending byte ending
        oneLine := by simp [entry.afterSign.oneLine, entry.ending.oneLine] }
    refine ⟨[], ?_, empty.symm⟩
    have line : entry.line = entry.indent.text ++
        (entry.key ++ entry.beforeSign.text ++ [0x3d]) ++ ending.text := by
      simp [IniEntry.line, empty, ending]
    rw [line]
    exact trimmedLine_core entry.indent ending (by rw [head]; rfl) solid rfl rfl
  · rcases List.exists_cons_of_ne_nil empty with ⟨begins, tail, valueHead⟩
    rcases (List.eq_nil_or_concat entry.value).resolve_left empty with ⟨front, last, valueFoot⟩
    rw [List.concat_eq_append] at valueFoot
    have foot :
        entry.key ++ entry.beforeSign.text ++ 0x3d :: (entry.afterSign.text ++ entry.value) =
        entry.key ++ entry.beforeSign.text ++ 0x3d :: (entry.afterSign.text ++ front) ++
          [last] := by
      rw [valueFoot]
      simp
    exact ⟨entry.afterSign.text ++ entry.value,
      trimmedLine_core entry.indent entry.ending (by rw [head]; rfl) solid foot
        (entry.isValue.last front last valueFoot),
      eraseBlanksBefore_eq valueHead (entry.isValue.first begins tail valueHead) entry.afterSign⟩

theorem scanLine_entry (scan : Bytes × ProfileKeys) (entry : IniEntry) :
    scanLine profileName scan entry.line =
      if scan.1 = profileName then (scan.1, scan.2.assign entry.key entry.value) else scan := by
  rcases entry.isKey.first with ⟨first, rest, head, -, plain⟩
  rcases entry.isKey.last with ⟨front, last, foot, solid⟩
  rcases trimmedLine_entry entry with ⟨value, cut, trimmed⟩
  have noSign : (0x3d : UInt8) ∉ entry.key ++ entry.beforeSign.text := by
    have noBlank : (0x3d : UInt8) ∉ entry.beforeSign.text := fun mem =>
      absurd (entry.beforeSign.blank 0x3d mem) (by decide)
    simp [entry.isKey.noSign, noBlank]
  have begins : entry.key ++ entry.beforeSign.text ++ 0x3d :: value =
      first :: (rest ++ entry.beforeSign.text ++ 0x3d :: value) := by rw [head]; rfl
  rw [scanLine_of_plain (begins ▸ cut) plain, ← begins, parseEntry_eq noSign, trimmed,
    eraseBlanksBehind_eq foot solid]

/-- The scan, as a reader of the entries of a profile. -/
def reader (profileName : Bytes) : IniReader ProfileKeys profileName where
  step := scanLine profileName
  note keys entry := keys.assign entry.key entry.value
  remark := scanLine_remark
  header := scanLine_header
  entry := scanLine_entry

/-! ## The profile that is found -/

theorem accessKey_assign (keys : ProfileKeys) (key value : Bytes) :
    (keys.assign key value).accessKey =
      if key = ascii "aws_access_key_id" then value else keys.accessKey := by
  rw [assign]
  split_ifs <;> rfl

theorem secretKey_assign (keys : ProfileKeys) (key value : Bytes) :
    (keys.assign key value).secretKey =
      if key = ascii "aws_secret_access_key" then value else keys.secretKey := by
  have other : ascii "aws_access_key_id" ≠ ascii "aws_secret_access_key" := by decide
  rw [assign]
  split_ifs with access secret <;> first | rfl | exact absurd (access.symm.trans secret) other

theorem sessionToken_assign (keys : ProfileKeys) (key value : Bytes) :
    (keys.assign key value).sessionToken =
      if key = ascii "aws_session_token" then value else keys.sessionToken := by
  have others : ascii "aws_access_key_id" ≠ ascii "aws_session_token" ∧
      ascii "aws_secret_access_key" ≠ ascii "aws_session_token" := by decide
  rw [assign]
  split_ifs with access token secret
  · exact absurd (access.symm.trans token) others.1
  · rfl
  · rename_i token
    exact absurd (secret.symm.trans token) others.2
  all_goals rfl

theorem foldl_assign_found (entries : List IniEntry) {keys : ProfileKeys}
    (unset : keys.foundProfile = false → keys.accessKey = []) :
    let found := entries.foldl (fun keys entry => keys.assign entry.key entry.value) keys
    found.foundProfile = false → found.accessKey = [] := by
  induction entries generalizing keys with
  | nil => exact unset
  | cons entry entries ih =>
      apply ih
      change (keys.assign entry.key entry.value).foundProfile = false →
        (keys.assign entry.key entry.value).accessKey = []
      unfold assign
      split_ifs
      · intro found
        cases found
      all_goals exact unset

end ProfileKeys

/-- The credentials of a profile: the last values of its keys.  An empty one is none. -/
def profileCredentials (file : IniFile) (profileName : Bytes) : Option StaticCredentials :=
  let valueOf (key : String) : Bytes :=
    (IniFile.valueOf (ascii key) (file.entriesOf profileName)).getD []
  let sessionToken := valueOf "aws_session_token"
  if valueOf "aws_access_key_id" = [] ∨ valueOf "aws_secret_access_key" = [] then none
  else some
    { accessKeyId := valueOf "aws_access_key_id"
      secretAccessKey := valueOf "aws_secret_access_key"
      sessionToken := if sessionToken = [] then none else some sessionToken
      region := none }

theorem parseProfile_text (file : IniFile) (profileName : Bytes) :
    parseProfile profileName file.text = profileCredentials file profileName := by
  have noted := (ProfileKeys.reader profileName).foldl_getLines file ([], .nothing)
  have unset := ProfileKeys.foldl_assign_found (file.entriesOf profileName)
    (fun _ => rfl : ProfileKeys.nothing.foundProfile = false → ProfileKeys.nothing.accessKey = [])
  have access := IniFile.foldl_eq_getD_valueOf
    (fun keys entry => ProfileKeys.accessKey_assign keys entry.key entry.value)
    (file.entriesOf profileName) .nothing
  have secret := IniFile.foldl_eq_getD_valueOf
    (fun keys entry => ProfileKeys.secretKey_assign keys entry.key entry.value)
    (file.entriesOf profileName) .nothing
  have token := IniFile.foldl_eq_getD_valueOf
    (fun keys entry => ProfileKeys.sessionToken_assign keys entry.key entry.value)
    (file.entriesOf profileName) .nothing
  have read : ((getLines file.text).foldl (ProfileKeys.scanLine profileName) ([], .nothing)).2 =
      (file.entriesOf profileName).foldl (fun keys entry => keys.assign entry.key entry.value)
        .nothing := noted
  dsimp only at unset
  rw [access] at unset
  rw [parseProfile, read, ProfileKeys.credentials, access, secret, token, profileCredentials]
  refine if_congr ⟨?_, .inr⟩ rfl rfl
  rintro (missing | absent)
  · exact .inl (unset missing)
  · exact absent

/-! ## Providers -/

inductive CredentialType
  | staticCredentials
  | iamRole
  | managedIdentity
  | serviceAccount
  | environment
  | profile
  | assumeRole
  | webIdentity
  | sharedCredentials
  deriving DecidableEq

/-- The state of `s3_credential_provider` that these operations use. -/
structure S3CredentialProvider where
  type : CredentialType
  credentials : StaticCredentials
  deriving DecidableEq

/-- What a process sees: the variables that are set, and the files that can be opened. -/
structure Environment where
  getenv : Bytes → Option Bytes
  files : FileSystem

namespace Environment

variable (environment : Environment)

/-- The file with the credentials, unless one is given. -/
def credentialsPath (credentialsFile : Option Path) : Option Path :=
  match credentialsFile with
  | some path => some path
  | none => (environment.getenv (ascii "HOME")).map fun home =>
      Path.append (Path.append home (ascii ".aws")) (ascii "credentials")

def createFromProfile (profileName : Bytes) (credentialsFile : Option Path) :
    Option S3CredentialProvider := do
  let path ← environment.credentialsPath credentialsFile
  let text ← environment.files path
  let credentials ← parseProfile profileName text
  some { type := .profile, credentials := credentials }

def createFromEnvironment : Option S3CredentialProvider := do
  let accessKey ← environment.getenv (ascii "AWS_ACCESS_KEY_ID")
  let secretKey ← environment.getenv (ascii "AWS_SECRET_ACCESS_KEY")
  some
    { type := .environment
      credentials :=
        { accessKeyId := accessKey
          secretAccessKey := secretKey
          sessionToken := environment.getenv (ascii "AWS_SESSION_TOKEN")
          region := (environment.getenv (ascii "AWS_REGION")).or
            (environment.getenv (ascii "AWS_DEFAULT_REGION")) } }

/-- `create_from_profile` without arguments. -/
def createFromDefaultProfile : Option S3CredentialProvider :=
  environment.createFromProfile (ascii "default") none

end Environment

namespace S3CredentialProvider

/-- Take over the credentials of a new provider, if there is one. -/
def takeOver (provider : S3CredentialProvider) :
    Option S3CredentialProvider → Bool × S3CredentialProvider
  | some newProvider => (true, { provider with credentials := newProvider.credentials })
  | none => (false, provider)

def refresh : Step S3CredentialProvider Environment Bool := fun provider environment =>
  match provider.type with
  | .staticCredentials => (true, provider)
  | .environment => provider.takeOver environment.createFromEnvironment
  | .profile => provider.takeOver environment.createFromDefaultProfile
  | _ => (false, provider)

end S3CredentialProvider

/-! ## What a provider keeps -/

theorem createFromProfile_eq {environment : Environment} {credentialsFile : Option Path}
    {path : Path} {file : IniFile}
    (located : environment.credentialsPath credentialsFile = some path)
    (content : environment.files path = some file.text) (profileName : Bytes) :
    environment.createFromProfile profileName credentialsFile =
      (profileCredentials file profileName).map fun credentials => ⟨.profile, credentials⟩ := by
  rw [Environment.createFromProfile, located]
  simp only [Option.bind_eq_bind, Option.bind_some, content, parseProfile_text]
  cases profileCredentials file profileName <;> rfl

theorem type_refresh (provider : S3CredentialProvider) (environment : Environment) :
    (S3CredentialProvider.refresh provider environment).2.type = provider.type := by
  have takeOver (new : Option S3CredentialProvider) :
      (provider.takeOver new).2.type = provider.type := by cases new <;> rfl
  unfold S3CredentialProvider.refresh
  split
  · rfl
  · exact takeOver _
  · exact takeOver _
  · rfl

/-- A `refresh` in an environment, in which the file at the path may have changed. -/
structure Refresh (path : Path) where
  environment : Environment
  file : IniFile
  content : environment.files path = some file.text

namespace Refresh

variable {path : Path}

/-- `refresh` of a provider, next to the file as it last was. -/
def step : Step (S3CredentialProvider × IniFile) (Refresh path) Bool := fun state refresh =>
  (S3CredentialProvider.refresh state.1 refresh.environment).map id fun provider =>
    (provider, refresh.file)

/-- The credentials are those of the profile in the file. -/
def HoldsProfile (profileName : Bytes) (state : S3CredentialProvider × IniFile) : Prop :=
  some state.1.credentials = profileCredentials state.2 profileName

/-- The default profile of the default file, or without one the file as it was before, has what
the profile has in the file now. -/
def FindsProfile (profileName : Bytes) (state : S3CredentialProvider × IniFile)
    (refresh : Refresh path) : Prop :=
  (refresh.environment.createFromDefaultProfile.map (·.credentials)).or
    (profileCredentials state.2 profileName) = profileCredentials refresh.file profileName

theorem holdsProfile_step_iff {profileName : Bytes} {state : S3CredentialProvider × IniFile}
    (isProfile : state.1.type = .profile) (holds : HoldsProfile profileName state)
    (refresh : Refresh path) :
    HoldsProfile profileName (step state refresh).2 ↔ FindsProfile profileName state refresh := by
  rw [FindsProfile, ← holds]
  dsimp only [HoldsProfile, step, Prod.map]
  rw [S3CredentialProvider.refresh, isProfile]
  cases refresh.environment.createFromDefaultProfile with
  | none => exact Iff.rfl
  | some other => exact Iff.rfl

theorem holdsProfile_throughout_iff {profileName : Bytes}
    {state : S3CredentialProvider × IniFile} (isProfile : state.1.type = .profile)
    (holds : HoldsProfile profileName state) (refreshes : List (Refresh path)) :
    (∀ first rest, refreshes = first ++ rest →
      HoldsProfile profileName (final step state first)) ↔
      Guarded step (FindsProfile profileName) state refreshes := by
  have types (refreshes : List (Refresh path)) :
      (final step state refreshes).1.type = .profile := by
    apply final_invariant
      (fun later : S3CredentialProvider × IniFile => later.1.type = .profile) _ isProfile
    intro later refresh isProfile
    exact (type_refresh later.1 refresh.environment).trans isProfile
  have kept_iff : ∀ (later : S3CredentialProvider × IniFile) (refresh : Refresh path),
      later.1.type = .profile ∧ HoldsProfile profileName later →
      ((step later refresh).2.1.type = .profile ∧
        HoldsProfile profileName (step later refresh).2 ↔
          FindsProfile profileName later refresh) := by
    rintro later refresh ⟨isProfile, holds⟩
    have stays := (type_refresh later.1 refresh.environment).trans isProfile
    exact (and_iff_right stays).trans (holdsProfile_step_iff isProfile holds refresh)
  rw [← forall_prefix_iff_guarded kept_iff ⟨isProfile, holds⟩]
  simp only [types, true_and]

end Refresh

/-- For every file and profile, a provider is made from the credentials of the profile in the file,
if it has a key and a secret there.  Throughout any run of refreshes it holds those of the profile
in the file as it then is exactly if each finds these, or finds none and they are as before. -/
theorem createFromProfile_spec {environment : Environment} {credentialsFile : Option Path}
    {path : Path} {file : IniFile}
    (located : environment.credentialsPath credentialsFile = some path)
    (content : environment.files path = some file.text) (profileName : Bytes) :
    (environment.createFromProfile profileName credentialsFile).map (·.credentials) =
        profileCredentials file profileName ∧
      ∀ provider ∈ environment.createFromProfile profileName credentialsFile,
        ∀ refreshes : List (Refresh path),
          (∀ first rest, refreshes = first ++ rest →
            Refresh.HoldsProfile profileName (final Refresh.step (provider, file) first)) ↔
          Guarded Refresh.step (Refresh.FindsProfile profileName) (provider, file) refreshes := by
  rw [createFromProfile_eq located content]
  cases found : profileCredentials file profileName with
  | none => exact ⟨rfl, fun _ mem => by cases mem⟩
  | some credentials =>
      refine ⟨rfl, ?_⟩
      intro provider mem refreshes
      cases mem
      have holds : Refresh.HoldsProfile profileName (⟨.profile, credentials⟩, file) := found.symm
      exact Refresh.holdsProfile_throughout_iff rfl holds refreshes

/-! ## Two profiles in one file -/

theorem isKey_accessKey : IsKey (ascii "aws_access_key_id") where
  first := ⟨_, _, rfl, by decide, by decide⟩
  last := ⟨ascii "aws_access_key_i", 0x64, by decide, by decide⟩
  oneLine := by decide
  noSign := by decide

theorem isKey_secretKey : IsKey (ascii "aws_secret_access_key") where
  first := ⟨_, _, rfl, by decide, by decide⟩
  last := ⟨ascii "aws_secret_access_ke", 0x79, by decide, by decide⟩
  oneLine := by decide
  noSign := by decide

theorem isValue_singleton {byte : UInt8} (solid : isLineEnd byte = false) : IsValue [byte] := by
  have notBlank : isBlank byte = false := by
    rw [isLineEnd, Bool.or_eq_false_iff, Bool.or_eq_false_iff] at solid
    exact solid.1.1
  refine ⟨?_, ?_, ?_⟩
  · rintro first rest same
    cases same
    exact notBlank
  · intro rest last same
    rw [List.singleton_eq_append_iff] at same
    rcases same with ⟨-, same⟩ | ⟨-, nothing⟩
    · cases same
      exact solid
    · cases nothing
  · rw [List.mem_singleton]
    rintro rfl
    cases solid

/-- A profile with a key and a secret of one byte each. -/
def profileSection {name : Bytes} (oneLine : newline ∉ name) {access secret : UInt8}
    (isAccess : isLineEnd access = false) (isSecret : isLineEnd secret = false) : IniSection where
  header := .ofName oneLine
  content := [.inr (.ofKey isKey_accessKey (isValue_singleton isAccess)),
    .inr (.ofKey isKey_secretKey (isValue_singleton isSecret))]

/-- The profiles `default` and `work`. -/
def twoProfiles : IniFile where
  preamble := []
  sections := [profileSection (by decide : newline ∉ ascii "default")
      (by decide : isLineEnd 0x41 = false) (by decide : isLineEnd 0x42 = false),
    profileSection (by decide : newline ∉ ascii "work")
      (by decide : isLineEnd 0x43 = false) (by decide : isLineEnd 0x44 = false)]
  distinct := by decide

/-- A home directory whose default file has them. -/
def homeOfTwo : Environment where
  getenv name := if name = ascii "HOME" then some (ascii "/home/u") else none
  files path := if path = ascii "/home/u/.aws/credentials" then some twoProfiles.text else none

theorem files_homeOfTwo :
    homeOfTwo.files (ascii "/home/u/.aws/credentials") = some twoProfiles.text := by
  decide +kernel

/-- A refresh that finds the file as it was. -/
def refreshOfTwo : Refresh (ascii "/home/u/.aws/credentials") where
  environment := homeOfTwo
  file := twoProfiles
  content := files_homeOfTwo

theorem createFromProfile_work :
    (homeOfTwo.createFromProfile (ascii "work") none).map (·.credentials) =
        profileCredentials twoProfiles (ascii "work") ∧
      ∀ provider ∈ homeOfTwo.createFromProfile (ascii "work") none,
        ∀ refreshes : List (Refresh (ascii "/home/u/.aws/credentials")),
          (∀ first rest, refreshes = first ++ rest →
            Refresh.HoldsProfile (ascii "work")
              (final Refresh.step (provider, twoProfiles) first)) ↔
          Guarded Refresh.step (Refresh.FindsProfile (ascii "work")) (provider, twoProfiles)
            refreshes := by
  have located : homeOfTwo.credentialsPath none = some (ascii "/home/u/.aws/credentials") := by
    decide +kernel
  exact createFromProfile_spec located files_homeOfTwo (ascii "work")

/-- One refresh, and the credentials of `work` are those of `default`. -/
theorem refresh_work_default :
    ∃ provider ∈ homeOfTwo.createFromProfile (ascii "work") none,
      Refresh.HoldsProfile (ascii "work") (provider, twoProfiles) ∧
      ¬ Refresh.HoldsProfile (ascii "work")
        (final Refresh.step (provider, twoProfiles) [refreshOfTwo]) ∧
      (final Refresh.step (provider, twoProfiles) [refreshOfTwo]).1.credentials =
        ⟨ascii "A", ascii "B", none, none⟩ ∧
      provider.credentials = ⟨ascii "C", ascii "D", none, none⟩ := by
  refine ⟨⟨.profile, ⟨ascii "C", ascii "D", none, none⟩⟩, ?_, ?_, ?_, ?_, rfl⟩
  · decide +kernel
  · show some _ = _
    decide +kernel
  · show ¬ some _ = _
    decide +kernel
  · decide +kernel

end FileTrans.Cloud
