import FileTrans.Encryption.KeyManager

/-!
# Keys that are derived again

A key is derived on one host and derived again from its recorded parameters on
another.  It is the same key if the same function is computed with the same
costs; the parameters that `argon2_key_derivation` records do not tell which
function that was.
-/

namespace FileTrans.Encryption

open FileTrans.Core

/-- Who derives a key. -/
inductive Deriver where
  | pbkdf2 (config : Pbkdf2Config)
  | argon2 (config : Argon2Config)
  deriving DecidableEq

namespace Deriver

/-- `derive_key` with a salt. -/
def deriveKey (functions : DerivationFunctions) (host : DerivationHost) (password salt : Bytes) :
    Deriver → Result DerivedKey
  | .pbkdf2 config => Pbkdf2.deriveKey functions host config password salt
  | .argon2 config => Argon2.deriveKey functions host config password salt

/-- The parameters that are recorded. -/
def params (salt : Bytes) : Deriver → KeyDerivationParams
  | .pbkdf2 config => Pbkdf2.params config salt
  | .argon2 config => Argon2.params config salt

def computes (host : DerivationHost) : Deriver → Option Computation
  | .pbkdf2 config => Pbkdf2.computes host config
  | .argon2 config => Argon2.computes host config

end Deriver

/-- A manager that has parameters of a key in its cache. -/
structure ParamsKeeper (params : KeyDerivationParams) where
  manager : KeyManager
  environment : KeyEnvironment
  keyId : KeyId
  metadata : KeyMetadata
  cached : manager.metadataCache keyId = some metadata
  kept : metadata.derivationParams = some params

/-- Who derives a key again from its parameters: `derive_key_with_params` of one of the two, or
`rederive_key`. -/
inductive Rederiver (params : KeyDerivationParams) where
  | pbkdf2
  | argon2
  | manager (keeper : ParamsKeeper params)

namespace Rederiver

variable {params : KeyDerivationParams}

/-- The key that is derived again. -/
def rederive (functions : DerivationFunctions) (host : DerivationHost) (password : Bytes) :
    Rederiver params → Result Bytes
  | .pbkdf2 => (Pbkdf2.deriveKeyWithParams functions host password params).map (·.key)
  | .argon2 => (Argon2.deriveKeyWithParams functions host password params).map (·.key)
  | .manager keeper =>
      (keeper.manager.rederiveKey functions host keeper.environment keeper.keyId password).map
        (·.key)

def computes (host : DerivationHost) : Rederiver params → Option Computation
  | .pbkdf2 => if params.kdf = .pbkdf2 then Pbkdf2.computes host (Pbkdf2.ofParams params) else none
  | .argon2 => Argon2.computes host (Argon2.ofParams params)
  | .manager _ =>
      match params.kdf with
      | .argon2id => Argon2.computes host (Argon2.ofParams params)
      | .pbkdf2 => Pbkdf2.computes host (Pbkdf2.ofParams params)
      | .none | .scrypt => none

end Rederiver

section

variable {functions : DerivationFunctions} {host other : DerivationHost}
  {password salt key : Bytes} {params : KeyDerivationParams} {derived : DerivedKey}

theorem Deriver.deriveKey_ok_iff {deriver : Deriver} :
    deriver.deriveKey functions host password salt = .ok derived ↔
      Accepted password salt ∧ derived.params = deriver.params salt ∧
      ∃ computation ∈ deriver.computes host,
        derived.key = computation.key functions password salt (deriver.params salt).keyLength := by
  cases deriver with
  | pbkdf2 config => exact Pbkdf2.deriveKey_ok_iff
  | argon2 config => exact Argon2.deriveKey_ok_iff

theorem map_key_eq_ok_iff {result : Result DerivedKey} :
    result.map (·.key) = .ok key ↔ ∃ derived, result = .ok derived ∧ derived.key = key := by
  cases result with
  | error failure => exact iff_of_false nofun nofun
  | ok derived => simp [Except.map]

theorem Argon2.rederive_ok_iff :
    (deriveKeyWithParams functions host password params).map (·.key) = .ok key ↔
      Accepted password params.salt ∧
      ∃ computation ∈ computes host (ofParams params),
        key = computation.key functions password params.salt params.keyLength := by
  rw [map_key_eq_ok_iff, deriveKeyWithParams]
  constructor
  · rintro ⟨derived, derives, rfl⟩
    obtain ⟨accepted, -, computed⟩ := deriveKey_ok_iff.mp derives
    exact ⟨accepted, computed⟩
  · rintro ⟨accepted, computed⟩
    exact ⟨⟨key, Argon2.params (ofParams params) params.salt⟩,
      deriveKey_ok_iff.mpr ⟨accepted, rfl, computed⟩, rfl⟩

theorem Pbkdf2.rederive_ok_iff :
    (deriveKeyWithParams functions host password params).map (·.key) = .ok key ↔
      Accepted password params.salt ∧
      ∃ computation ∈
          if params.kdf = .pbkdf2 then computes host (ofParams params) else none,
        key = computation.key functions password params.salt params.keyLength := by
  rw [map_key_eq_ok_iff, deriveKeyWithParams]
  by_cases kind : params.kdf = .pbkdf2
  · rw [if_neg (not_not.mpr kind), if_pos kind]
    constructor
    · rintro ⟨derived, derives, rfl⟩
      obtain ⟨accepted, -, computed⟩ := deriveKey_ok_iff.mp derives
      exact ⟨accepted, computed⟩
    · rintro ⟨accepted, computed⟩
      exact ⟨⟨key, Pbkdf2.params (ofParams params) params.salt⟩,
        deriveKey_ok_iff.mpr ⟨accepted, rfl, computed⟩, rfl⟩
  · rw [if_pos kind, if_neg kind]
    exact iff_of_false (fun derives => nomatch derives.choose_spec.1)
      fun computed => nomatch computed.2.choose_spec.1

theorem ParamsKeeper.rederiveKey_map_key (keeper : ParamsKeeper params) :
    (keeper.manager.rederiveKey functions host keeper.environment keeper.keyId password).map
        (·.key) =
      (KeyManager.deriveByKind functions host password params).map (·.key) := by
  unfold KeyManager.rederiveKey
  rw [keeper.cached]
  dsimp only
  rw [keeper.kept]
  dsimp only
  cases KeyManager.deriveByKind functions host password params with
  | error failure => rfl
  | ok derived => rfl

theorem Rederiver.rederive_ok_iff (rederiver : Rederiver params) :
    rederiver.rederive functions host password = .ok key ↔
      Accepted password params.salt ∧
      ∃ computation ∈ rederiver.computes host,
        key = computation.key functions password params.salt params.keyLength := by
  cases rederiver with
  | pbkdf2 => exact Pbkdf2.rederive_ok_iff
  | argon2 => exact Argon2.rederive_ok_iff
  | manager keeper =>
      unfold rederive computes
      dsimp only
      rw [keeper.rederiveKey_map_key, KeyManager.deriveByKind]
      cases kind : params.kdf with
      | argon2id => exact Argon2.rederive_ok_iff
      | pbkdf2 =>
          have derives := @Pbkdf2.rederive_ok_iff functions host password key params
          rwa [if_pos kind] at derives
      | none => exact iff_of_false nofun fun computed => nomatch computed.2.choose_spec.1
      | scrypt => exact iff_of_false nofun fun computed => nomatch computed.2.choose_spec.1

end

/-! ## The same computation -/

/-- Functions that tell a computation from all others. -/
def tellingApart (computation : Computation) : DerivationFunctions where
  pbkdf2 _ _ iterations _ := if computation = .pbkdf2 iterations then [1] else [0]
  argon2id _ _ memoryKb timeCost parallelism _ :=
    if computation = .argon2id memoryKb timeCost parallelism then [1] else [0]

theorem key_tellingApart (first second : Computation) (password salt : Bytes)
    (keyLength : UInt64) :
    second.key (tellingApart first) password salt keyLength =
      if first = second then [1] else [0] := by
  cases second <;> rfl

theorem eq_of_forall_key_eq {first second : Computation} {password salt : Bytes}
    {keyLength : UInt64}
    (same : ∀ functions, second.key functions password salt keyLength =
      first.key functions password salt keyLength) : first = second := by
  have told := same (tellingApart first)
  rw [key_tellingApart, key_tellingApart, if_pos rfl] at told
  by_contra differ
  rw [if_neg differ] at told
  contradiction

/-- Where the key of a deriver on a host and the key that is derived again on another come from
the same computation, or no key is derived again.  Argon2id has to go through on both hosts or on
neither; parameters of PBKDF2 do not survive `argon2_key_derivation` unless its fallback has
as many iterations. -/
def Agree (host other : DerivationHost) {params : KeyDerivationParams} :
    Deriver → Rederiver params → Prop
  | .argon2 _, .pbkdf2 => True
  | .argon2 _, _ => host.argon2 = other.argon2 ∨ other.argon2 = false ∧ other.pbkdf2 = false
  | .pbkdf2 config, .argon2 =>
      other.argon2 = false ∧
        (other.pbkdf2 = true →
          max pbkdf2DefaultIterations (config.iterations * 100000) = config.iterations)
  | .pbkdf2 _, _ => True

section

variable {host other : DerivationHost} {computation : Computation}

theorem argon2_agree_iff {config : Argon2Config}
    (computed : Argon2.computes host config = some computation) :
    (host.argon2 = other.argon2 ∨ other.argon2 = false ∧ other.pbkdf2 = false) ↔
      ∀ again ∈ Argon2.computes other config, computation = again := by
  unfold Argon2.computes at computed ⊢
  cases first : host.argon2 with
  | true =>
      rw [first, if_pos rfl, Option.some.injEq] at computed
      cases other.argon2 <;> cases other.pbkdf2 <;> simp [← computed]
  | false =>
      rw [first, if_neg Bool.false_ne_true] at computed
      split at computed
      · rw [Option.some.injEq] at computed
        cases other.argon2 <;> cases other.pbkdf2 <;> simp [← computed]
      · contradiction

theorem pbkdf2_computes_eq {config : Pbkdf2Config}
    (computed : Pbkdf2.computes host config = some computation) :
    computation = .pbkdf2 config.iterations := by
  unfold Pbkdf2.computes at computed
  split at computed
  · exact (Option.some.inj computed).symm
  · contradiction

theorem agree_iff {salt : Bytes} {deriver : Deriver}
    (computed : deriver.computes host = some computation)
    (rederiver : Rederiver (deriver.params salt)) :
    Agree host other deriver rederiver ↔
      ∀ again ∈ rederiver.computes other, computation = again := by
  cases deriver with
  | argon2 config =>
      cases rederiver with
      | pbkdf2 => exact iff_of_true trivial nofun
      | argon2 => exact argon2_agree_iff computed
      | manager keeper => exact argon2_agree_iff computed
  | pbkdf2 config =>
      have first := pbkdf2_computes_eq computed
      cases rederiver with
      | pbkdf2 =>
          apply iff_of_true trivial
          intro again mem
          exact first.trans (pbkdf2_computes_eq mem).symm
      | manager keeper =>
          apply iff_of_true trivial
          intro again mem
          exact first.trans (pbkdf2_computes_eq mem).symm
      | argon2 =>
          unfold Agree Rederiver.computes Argon2.computes
          rw [first]
          cases other.argon2 <;> cases other.pbkdf2 <;>
            simp [Argon2.fallbackConfig, Argon2.ofParams, Deriver.params, Pbkdf2.params, eq_comm]

end

/-- Whatever the two functions compute, a key that is derived again on another host is the same
key, exactly if the hosts agree. -/
theorem rederive_iff (deriver : Deriver) (host other : DerivationHost) (password salt : Bytes)
    (accepted : Accepted password salt) (derives : (deriver.computes host).isSome = true)
    (rederiver : Rederiver (deriver.params salt)) :
    (∀ functions derived, deriver.deriveKey functions host password salt = .ok derived →
      derived.params = deriver.params salt ∧
      ∀ key, rederiver.rederive functions other password = .ok key → key = derived.key) ↔
    Agree host other deriver rederiver := by
  obtain ⟨computation, computed⟩ := Option.isSome_iff_exists.mp derives
  have sameSalt : (deriver.params salt).salt = salt := by cases deriver <;> rfl
  rw [agree_iff computed]
  constructor
  · intro same again mem
    apply eq_of_forall_key_eq
    intro functions
    have first : deriver.deriveKey functions host password salt =
        .ok ⟨computation.key functions password salt (deriver.params salt).keyLength,
          deriver.params salt⟩ :=
      Deriver.deriveKey_ok_iff.mpr ⟨accepted, rfl, computation, computed, rfl⟩
    have second : rederiver.rederive functions other password =
        .ok (again.key functions password (deriver.params salt).salt
          (deriver.params salt).keyLength) :=
      rederiver.rederive_ok_iff.mpr ⟨sameSalt.symm ▸ accepted, again, mem, rfl⟩
    have keys := (same functions _ first).2 _ second
    rwa [sameSalt] at keys
  · intro agree functions derived first
    obtain ⟨-, recorded, other, mem, made⟩ := Deriver.deriveKey_ok_iff.mp first
    refine ⟨recorded, ?_⟩
    intro key second
    obtain ⟨-, again, later, madeAgain⟩ := rederiver.rederive_ok_iff.mp second
    obtain rfl := Option.some.inj (computed.symm.trans mem)
    rw [made, madeAgain, sameSalt, agree again later]

/-! ## Another key -/

namespace RederivationSample

/-- Functions that differ, and differ in the number of iterations. -/
def functions : DerivationFunctions where
  pbkdf2 _ _ iterations _ := [0, iterations.toUInt8]
  argon2id _ _ _ _ _ _ := [1]

/-- A host without Argon2id. -/
def bare : DerivationHost :=
  ⟨false, true⟩

/-- A host with Argon2id. -/
def full : DerivationHost :=
  ⟨true, true⟩

/-- Argon2id in a single thread. -/
def oneThread : Deriver :=
  .argon2 { Argon2Config.default with parallelism := 1 }

/-- PBKDF2 with few iterations. -/
def tenIterations : Deriver :=
  .pbkdf2 { Pbkdf2Config.default with iterations := 10 }

def salt : Bytes :=
  [1, 2, 3, 4, 5, 6, 7, 8]

/-- A manager that has the parameters of a key. -/
def keeper : ParamsKeeper (Deriver.params salt oneThread) where
  manager :=
    { keys := fun _ => none
      metadataCache := fun _ =>
        some (.create [] (some (Deriver.params salt oneThread)) 0)
      keyVersions := fun _ => []
      rotationPolicy := ⟨3⟩ }
  environment :=
    { storeFault := none
      retrieveFault := none
      removeFault := none
      random := .failing
      usedAt := 0
      createdAt := 0 }
  keyId := []
  metadata := .create [] (some (Deriver.params salt oneThread)) 0
  cached := rfl
  kept := rfl

/-- The key that is derived where there is Argon2id. -/
def derived : DerivedKey :=
  ⟨[1], Deriver.params salt oneThread⟩

end RederivationSample

open RederivationSample in
theorem rederive_sample :
    Deriver.deriveKey functions full [7] salt oneThread = .ok derived ∧
    (Rederiver.manager keeper).rederive functions full [7] = .ok derived.key := by
  have law := (rederive_iff oneThread full full [7] salt (by decide) rfl
    (.manager keeper)).mpr (Or.inl rfl)
  have same : [1] = derived.key := (law functions derived rfl).2 [1] rfl
  refine ⟨rfl, ?_⟩
  rw [← same]
  rfl

open RederivationSample in
/-- A key that was derived by the fallback is another one where there is Argon2id, and one that
was derived by PBKDF2 is another one by `argon2_key_derivation`. -/
theorem rederive_differs :
    (∃ derived, Deriver.deriveKey functions bare [7] salt oneThread = .ok derived ∧
      derived.params = Deriver.params salt oneThread ∧ derived.key ≠ [1]) ∧
    (Rederiver.argon2 : Rederiver (Deriver.params salt oneThread)).rederive functions full
      [7] = .ok [1] ∧
    (Rederiver.manager keeper).rederive functions full [7] = .ok [1] ∧
    (∃ derived, Deriver.deriveKey functions bare [7] salt tenIterations = .ok derived ∧
      derived.params = Deriver.params salt tenIterations ∧ derived.key = [0, 10]) ∧
    (Rederiver.argon2 : Rederiver (Deriver.params salt tenIterations)).rederive functions bare
      [7] = .ok [0, 64] := by
  refine ⟨⟨_, rfl, rfl, ?_⟩, rfl, rfl, ⟨_, rfl, rfl, ?_⟩, ?_⟩
  · decide
  · decide
  · decide

end FileTrans.Encryption
