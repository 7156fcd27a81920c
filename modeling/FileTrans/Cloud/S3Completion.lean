import FileTrans.Cloud.S3Parts

/-!
# Completing an S3 upload

A request reaches the server, which executes it, or is lost in transport.  An
upload that the server knows keeps the parts that it has accepted; the
completion stores their concatenation if none of the listed parts is missing.
An upload id that the server does not know stores nothing.
-/

namespace FileTrans.Cloud

open FileTrans.Core FileTrans.Text FileTrans.Transition FileTrans.Collections

/-- The parts that were accepted, with their numbers. -/
def acceptedParts (sent : List (S3Request × Option S3Response)) : List (Nat × Bytes) :=
  ((sentParts sent).filter fun part => decide part.Accepted).map fun part =>
    (part.number, part.data)

/-- The server has kept the accepted parts of this upload, and answered with their ETags. -/
structure Kept (context : S3Context) (upload : Nat) (wire : S3Wire) : Prop where
  parts : wire.server.uploads upload = some ⟨context.key, acceptedParts wire.sent⟩
  answers : ∀ part ∈ sentParts wire.sent,
    part.answer = none ∨ part.answer = some (.ofEtag (context.etagOf part.data))

/-- The server has no such upload of the key. -/
def Unknown (context : S3Context) (uploadId : UploadId) (wire : S3Wire) : Prop :=
  wire.server.find context.key uploadId = none

variable {context : S3Context} {wire : S3Wire} {upload number : Nat} {data : Bytes}
  {uploadId : UploadId}

/-! ## Uploading a part -/

theorem find_of_kept (kept : Kept context upload wire) :
    wire.server.find context.key (.issued upload) =
      some (upload, ⟨context.key, acceptedParts wire.sent⟩) := by
  simp [S3Server.find, kept.parts]

theorem acceptedParts_append (first second : List (S3Request × Option S3Response)) :
    acceptedParts (first ++ second) = acceptedParts first ++ acceptedParts second := by
  rw [acceptedParts, sentParts_append, List.filter_append, List.map_append]
  rfl

theorem answers_append {answer : Option S3Response}
    (answers : ∀ part ∈ sentParts wire.sent,
      part.answer = none ∨ part.answer = some (.ofEtag (context.etagOf part.data)))
    (new : answer = none ∨ answer = some (.ofEtag (context.etagOf data)))
    (server : S3Server) :
    ∀ part ∈ sentParts (⟨server, wire.sent ++
        [(.uploadPart context.key number uploadId data, answer)]⟩ : S3Wire).sent,
      part.answer = none ∨ part.answer = some (.ofEtag (context.etagOf part.data)) := by
  intro part mem
  rw [sentParts_append] at mem
  rcases List.mem_append.mp mem with mem | mem
  · exact answers part mem
  · rw [List.mem_singleton.mp mem]
    exact new

theorem kept_uploadPart (transports : context.network.Transports)
    (kept : Kept context upload wire) (number : Nat) (data : Bytes) :
    Kept context upload (context.uploadPart (.issued upload) number data wire).2 ∧
      (∃ etag, (context.uploadPart (.issued upload) number data wire).1 = .ok etag) ∧
      (context.uploadPart (.issued upload) number data wire).2.server.objects =
        wire.server.objects := by
  have found := find_of_kept kept
  rcases transports wire.sent.length with served | lost
  · have step : exchange (s3Service context.etagOf) context.network
        (.uploadPart context.key number (.issued upload) data) wire =
        (some (.ofEtag (context.etagOf data)),
          ⟨{ wire.server with
              uploads := Function.update wire.server.uploads upload
                (some ⟨context.key, acceptedParts wire.sent ++ [(number, data)]⟩) },
            wire.sent ++ [(.uploadPart context.key number (.issued upload) data,
              some (.ofEtag (context.etagOf data)))]⟩) := by
      simp [exchange, deliver, served, s3Service, S3Server.serve, found]
    rw [S3Context.uploadPart, S3Context.send, step]
    refine ⟨⟨?_, answers_append kept.answers (.inr rfl) _⟩, ?_, rfl⟩
    · rw [acceptedParts_append]
      exact Function.update_self _ _ _
    · simp [S3Context.readPart, S3Response.ofEtag]
  · have step : exchange (s3Service context.etagOf) context.network
        (.uploadPart context.key number (.issued upload) data) wire =
        (none, ⟨wire.server, wire.sent ++
          [(.uploadPart context.key number (.issued upload) data, none)]⟩) := by
      simp [exchange, deliver, lost]
    rw [S3Context.uploadPart, S3Context.send, step]
    refine ⟨⟨?_, answers_append kept.answers (.inl rfl) _⟩, ⟨_, rfl⟩, rfl⟩
    rw [acceptedParts_append]
    exact kept.parts.trans (by simp [acceptedParts, sentParts, sentPart, SentPart.Accepted])

theorem unknown_uploadPart (transports : context.network.Transports)
    (unknown : Unknown context uploadId wire) (number : Nat) (data : Bytes) :
    (context.uploadPart uploadId number data wire).2.server = wire.server ∧
      ((∃ etag, (context.uploadPart uploadId number data wire).1 = .ok etag) ↔
        context.network.fate wire.sent.length = .lost) := by
  rcases transports wire.sent.length with served | lost
  · have step : exchange (s3Service context.etagOf) context.network
        (.uploadPart context.key number uploadId data) wire =
        (some (.ofStatus 404), ⟨wire.server, wire.sent ++
          [(.uploadPart context.key number uploadId data, some (.ofStatus 404))]⟩) := by
      rw [Unknown] at unknown
      simp [exchange, deliver, served, s3Service, S3Server.serve, unknown]
    rw [S3Context.uploadPart, S3Context.send, step]
    refine ⟨rfl, ?_⟩
    simp [S3Context.readPart, S3Response.ofStatus, statusError, served]
  · have step : exchange (s3Service context.etagOf) context.network
        (.uploadPart context.key number uploadId data) wire =
        (none, ⟨wire.server, wire.sent ++
          [(.uploadPart context.key number uploadId data, none)]⟩) := by
      simp [exchange, deliver, lost]
    rw [S3Context.uploadPart, S3Context.send, step]
    exact ⟨rfl, iff_of_true ⟨_, rfl⟩ lost⟩

/-! ## Creating an upload -/

theorem opened_of_served (server : S3Server) (served : context.network.fate 0 = .served) :
    (S3UploadStream.opened context (.begin server)).uploadId = .issued server.next ∧
      Kept context server.next (S3UploadStream.opened context (.begin server)).wire ∧
      (S3UploadStream.opened context (.begin server)).wire.server.objects = server.objects := by
  have step : exchange (s3Service context.etagOf) context.network
      (.createMultipartUpload context.key) (.begin server) =
      (some ⟨200, none, some (.issued server.next), []⟩,
        ⟨{ server with
            uploads := Function.update server.uploads server.next (some ⟨context.key, []⟩)
            next := server.next + 1 },
          [(.createMultipartUpload context.key,
            some ⟨200, none, some (.issued server.next), []⟩)]⟩) := by
    simp [exchange, deliver, Wire.begin, served, s3Service, S3Server.serve]
  rw [S3UploadStream.opened, S3UploadStream.initiateMultipartUpload, S3Context.send,
    S3UploadStream.create]
  simp only [step]
  refine ⟨rfl, ⟨?_, ?_⟩, rfl⟩
  · exact Function.update_self _ _ _
  · intro part mem
    contradiction

theorem opened_of_lost (server : S3Server) (lost : context.network.fate 0 = .lost) :
    Unknown context (S3UploadStream.opened context (.begin server)).uploadId
        (S3UploadStream.opened context (.begin server)).wire ∧
      (S3UploadStream.opened context (.begin server)).wire.server = server := by
  have step : exchange (s3Service context.etagOf) context.network
      (.createMultipartUpload context.key) (.begin server) =
      (none, ⟨server, [(.createMultipartUpload context.key, none)]⟩) := by
    simp [exchange, deliver, Wire.begin, lost]
  rw [S3UploadStream.opened, S3UploadStream.initiateMultipartUpload, S3Context.send,
    S3UploadStream.create]
  simp only [step]
  exact ⟨rfl, trivial⟩

/-! ## Completing -/

section

variable {listed : List (Nat × Etag)} {written : Bytes}

theorem good_injective {first second : List (Nat × Etag)} (same : good first = good second) :
    first = second := by
  apply List.map_injective_iff.mpr _ same
  rintro ⟨number, etag⟩ ⟨other, found⟩ equal
  simpa using equal

theorem gather_of_accepted (kept : Kept context upload wire)
    (distinct : ((sentParts wire.sent).map SentPart.number).Nodup)
    (names : good listed = (sentParts wire.sent).map (SentPart.result context))
    (accepted : ∀ part ∈ sentParts wire.sent, part.Accepted) :
    gather (S3Server.listedPart context.etagOf (acceptedParts wire.sent)) listed =
      some ((sentParts wire.sent).map SentPart.data).flatten := by
  have all : acceptedParts wire.sent =
      (sentParts wire.sent).map fun part => (part.number, part.data) := by
    rw [acceptedParts, List.filter_eq_self.mpr fun part mem => decide_eq_true (accepted part mem)]
  have etags : listed =
      (sentParts wire.sent).map fun part => (part.number, context.etagOf part.data) := by
    apply good_injective
    rw [names, good, List.map_map]
    apply List.map_congr_left
    intro part mem
    rcases kept.answers part mem with none | answered
    · rcases accepted part mem with ⟨response, answered, -⟩
      rw [none] at answered
      contradiction
    · simp [SentPart.result, answered, S3Context.readPart, S3Response.ofEtag]
  rw [etags]
  apply gather_of_forall
  rw [List.forall₂_map_left_iff, List.forall₂_map_right_iff, List.forall₂_same]
  intro part mem
  have found : latest part.number (acceptedParts wire.sent) = some part.data := by
    rw [all]
    apply latest_of_mem
    · rw [List.map_map]
      exact distinct
    · exact List.mem_map_of_mem mem
  simp [S3Server.listedPart, found]

theorem gather_of_missing (distinct : ((sentParts wire.sent).map SentPart.number).Nodup)
    (names : good listed = (sentParts wire.sent).map (SentPart.result context)) {part : SentPart}
    (mem : part ∈ sentParts wire.sent) (missing : ¬ part.Accepted) :
    gather (S3Server.listedPart context.etagOf (acceptedParts wire.sent)) listed = none := by
  have entry : part.result context ∈ good listed := by
    rw [names]
    exact List.mem_map_of_mem mem
  rcases List.mem_map.mp entry with ⟨⟨number, etag⟩, found, equal⟩
  rcases Prod.mk.inj equal with ⟨rfl, -⟩
  apply gather_eq_none found
  have absent : latest part.number (acceptedParts wire.sent) = none := by
    apply latest_eq_none_iff.mpr
    intro numbered
    rw [acceptedParts, List.map_map] at numbered
    rcases List.mem_map.mp numbered with ⟨other, kept, same⟩
    rcases List.mem_filter.mp kept with ⟨sent, accepted⟩
    rw [List.inj_on_of_nodup_map distinct sent mem same] at accepted
    exact missing (of_decide_eq_true accepted)
  simp [S3Server.listedPart, absent]

variable {answer : Option S3Response} {after : S3Wire}

theorem complete_of_kept (kept : Kept context upload wire)
    (distinct : ((sentParts wire.sent).map SentPart.number).Nodup)
    (names : good listed = (sentParts wire.sent).map (SentPart.result context))
    (served : context.network.fate wire.sent.length = .served)
    (sends : (answer, after) =
      context.send (.completeMultipartUpload context.key (.issued upload) listed) wire)
    (success : answer = none ∨ ∃ response, answer = some response ∧ response.status = 200) :
    after.server.objects context.key =
      some ((sentParts wire.sent).map SentPart.data).flatten := by
  have found := find_of_kept kept
  have answered : answer = _ := congrArg Prod.fst sends
  have received : after = _ := congrArg Prod.snd sends
  rw [answered, S3Context.send, (exchange_of_served served).1] at success
  rw [received, S3Context.send, (exchange_of_served served).2]
  have serve : (s3Service context.etagOf).serve
        (.completeMultipartUpload context.key (.issued upload) listed) wire.server =
      (gather (S3Server.listedPart context.etagOf (acceptedParts wire.sent)) listed).elim
        (.ofStatus 400, wire.server) fun data =>
          (.ofEtag (context.etagOf data), { wire.server.put context.key data with
            uploads := Function.update wire.server.uploads upload none }) := by
    cases gathered : gather (S3Server.listedPart context.etagOf (acceptedParts wire.sent))
        listed with
    | none => simp [s3Service, S3Server.serve, found, gathered]
    | some data => simp [s3Service, S3Server.serve, found, gathered]
  rw [serve] at success ⊢
  by_cases accepted : ∀ part ∈ sentParts wire.sent, part.Accepted
  · rw [gather_of_accepted kept distinct names accepted]
    exact Function.update_self _ _ _
  · push Not at accepted
    rcases accepted with ⟨part, mem, missing⟩
    rw [gather_of_missing distinct names mem missing] at success
    simp [S3Response.ofStatus] at success

theorem complete_of_unknown (unknown : Unknown context uploadId wire)
    (served : context.network.fate wire.sent.length = .served)
    (sends : (answer, after) =
      context.send (.completeMultipartUpload context.key uploadId listed) wire) :
    ¬ (answer = none ∨ ∃ response, answer = some response ∧ response.status = 200) := by
  have answered : answer = _ := congrArg Prod.fst sends
  rw [answered, S3Context.send, (exchange_of_served served).1]
  rw [Unknown] at unknown
  simp [s3Service, S3Server.serve, unknown, S3Response.ofStatus]

theorem complete_of_lost (lost : context.network.fate wire.sent.length = .lost)
    {request : S3Request} (sends : (answer, after) = context.send request wire) :
    answer = none ∧ after.server = wire.server := by
  rcases Prod.mk.inj sends with ⟨rfl, rfl⟩
  exact exchange_of_lost lost

end

end FileTrans.Cloud
