import FileTrans.Text.PercentEncoding

/-!
# Addresses on the web

A URL names a scheme, a host, which ends at the first slash, and a target: a
path, and after a question mark a query.  What follows a number sign is not
sent.
-/

namespace FileTrans.Text

/-- Whether a URL names TLS, if it names a scheme, and what follows the scheme. -/
def splitScheme (url : Bytes) : Option Bool × Bytes :=
  if ascii "https://" <+: url then (some true, url.drop 8)
  else if ascii "http://" <+: url then (some false, url.drop 7)
  else (none, url)

def schemeText (useSsl : Bool) : Bytes :=
  if useSsl then ascii "https://" else ascii "http://"

/-- What a request for the URL names after the host. -/
def requestTarget (url : Bytes) : Bytes :=
  ((splitScheme url).2.dropWhile (· != 0x2f)).takeWhile (· != 0x23)

def targetPath (target : Bytes) : Bytes :=
  target.takeWhile (· != 0x3f)

def targetQuery (target : Bytes) : Bytes :=
  (target.dropWhile (· != 0x3f)).tail

/-- A target as it is written. -/
def renderTarget (path query : Bytes) : Bytes :=
  path ++ if query = [] then [] else 0x3f :: query

/-- The path is sent and read as it is: nothing ends it early, and it has no escape. -/
def IsPlainPath (path : Bytes) : Prop :=
  0x3f ∉ path ∧ 0x23 ∉ path ∧ escapeFree path = true

instance (path : Bytes) : Decidable (IsPlainPath path) :=
  inferInstanceAs (Decidable (_ ∧ _))

variable {useSsl : Bool} {host path query rest text : Bytes} {byte : UInt8}

@[simp]
theorem splitScheme_append (useSsl : Bool) (rest : Bytes) :
    splitScheme (schemeText useSsl ++ rest) = (some useSsl, rest) := by
  cases useSsl with
  | true =>
      have begins : ascii "https://" <+: schemeText true ++ rest := List.prefix_append _ _
      rw [splitScheme, if_pos begins]
      rfl
  | false =>
      have begins : ascii "http://" <+: schemeText false ++ rest := List.prefix_append _ _
      have other : ¬ ascii "https://" <+: schemeText false ++ rest := by
        rintro ⟨tail, same⟩
        have fifth : some 's'.toUInt8 = some ':'.toUInt8 := congrArg (·[4]?) same
        exact absurd fifth (by decide)
      rw [splitScheme, if_neg other, if_pos begins]
      rfl

theorem takeWhile_ne_of_notMem (notMem : byte ∉ text) : text.takeWhile (· != byte) = text := by
  rw [List.takeWhile_eq_self_iff]
  intro other mem
  rw [bne_iff_ne]
  rintro rfl
  exact notMem mem

theorem takeWhile_ne_append_cons (notMem : byte ∉ text) (rest : Bytes) :
    (text ++ byte :: rest).takeWhile (· != byte) = text := by
  rw [List.takeWhile_append_of_pos, List.takeWhile_cons_of_neg (by simp), List.append_nil]
  intro other mem
  rw [bne_iff_ne]
  rintro rfl
  exact notMem mem

theorem dropWhile_ne_append_cons (notMem : byte ∉ text) (rest : Bytes) :
    (text ++ byte :: rest).dropWhile (· != byte) = byte :: rest := by
  rw [List.dropWhile_append_of_pos, List.dropWhile_cons_of_neg (by simp)]
  intro other mem
  rw [bne_iff_ne]
  rintro rfl
  exact notMem mem

theorem requestTarget_append (slash : 0x2f ∉ host) (tail : Bytes) :
    requestTarget (schemeText useSsl ++ (host ++ 0x2f :: tail)) =
      (0x2f :: tail).takeWhile (· != 0x23) := by
  rw [requestTarget, splitScheme_append, dropWhile_ne_append_cons slash]

theorem target_of_plain (question : 0x3f ∉ path) (numberSign : 0x23 ∉ path) (query : Bytes) :
    targetPath ((renderTarget path query).takeWhile (· != 0x23)) = path ∧
      targetQuery ((renderTarget path query).takeWhile (· != 0x23)) =
        query.takeWhile (· != 0x23) := by
  have kept : ∀ byte ∈ path, (byte != 0x23) = true := by
    intro byte mem
    rw [bne_iff_ne]
    rintro rfl
    exact numberSign mem
  rw [renderTarget, List.takeWhile_append_of_pos kept]
  split
  · rename_i empty
    subst empty
    rw [List.takeWhile_nil, List.append_nil, targetPath, targetQuery,
      takeWhile_ne_of_notMem question]
    refine ⟨rfl, ?_⟩
    have all : path.dropWhile (· != 0x3f) = [] := by
      rw [List.dropWhile_eq_nil_iff]
      intro byte mem
      rw [bne_iff_ne]
      rintro rfl
      exact question mem
    rw [all]
    rfl
  · rw [List.takeWhile_cons_of_pos (by decide), targetPath, targetQuery,
      takeWhile_ne_append_cons question, dropWhile_ne_append_cons question]
    exact ⟨rfl, rfl⟩

theorem percentDecode_targetPath_eq_iff :
    percentDecode (targetPath ((renderTarget path query).takeWhile (· != 0x23))) = path ↔
      IsPlainPath path := by
  by_cases early : 0x3f ∈ path ∨ 0x23 ∈ path
  · apply iff_of_false
    · intro same
      -- a path that ends early is shorter than the one that was meant
      have ends : ¬ ∀ byte ∈ path, (byte != 0x3f && byte != 0x23) = true := by
        intro every
        rcases early with question | numberSign
        · exact absurd (every _ question) (by decide)
        · exact absurd (every _ numberSign) (by decide)
      have cut : (path.takeWhile fun byte => byte != 0x3f && byte != 0x23).length <
          path.length := by
        apply lt_of_le_of_ne (List.takeWhile_prefix _).length_le
        intro whole
        apply ends
        rw [← List.takeWhile_eq_self_iff]
        exact (List.takeWhile_prefix _).eq_of_length whole
      have shorter := length_percentDecodeAfter_le 0
        (targetPath ((renderTarget path query).takeWhile (· != 0x23)))
      rw [← percentDecode, same, targetPath, List.takeWhile_takeWhile, renderTarget,
        List.takeWhile_append, if_neg] at shorter
      · simp only [Bool.decide_and, Bool.decide_eq_true] at shorter
        exact absurd cut (Nat.not_lt.mpr shorter)
      · simp only [Bool.decide_and, Bool.decide_eq_true]
        exact Nat.ne_of_lt cut
    · rintro ⟨question, numberSign, -⟩
      exact early.elim question numberSign
  · rw [not_or] at early
    rw [(target_of_plain early.1 early.2 query).1, percentDecode_eq_self_iff, IsPlainPath,
      and_iff_right early.1, and_iff_right early.2]

end FileTrans.Text
