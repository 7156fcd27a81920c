import FileTrans.Transport.SessionStore

/-!
# The file of the tickets

A file of this format has a header of twelve bytes and the records of the
tickets.  A load reads the records one after the other; it does not notice
where the file ends before a record does.
-/

namespace FileTrans.Transport

open FileTrans.Core FileTrans.Binary FileTrans.Collections

/-! ## The header -/

section

variable {α : Type} {representation : Representation α} {stream : InputStream}

theorem deserializeValue_append (stored : α) (rest : Bytes) :
    deserializeValue representation ⟨representation.encode stored ++ rest, true⟩ =
      (stored, ⟨rest, true⟩) := by
  have read := InputStream.read_append (representation.encode stored) rest
  rw [representation.length_encode] at read
  simp [deserializeValue, read, representation.decode_encode]

theorem deserializeValue_of_good (good : (deserializeValue representation stream).2.good = true) :
    stream.good = true ∧
      stream.rest = representation.encode (deserializeValue representation stream).1 ++
        (deserializeValue representation stream).2.rest := by
  rcases InputStream.read_of_good good with ⟨fresh, rest⟩
  refine ⟨fresh, rest.trans ?_⟩
  have length := InputStream.length_read stream representation.width
  simp [deserializeValue, representation.encode_decode _ length]

end

/-- The number of the tickets and the stream that is left for them, if a load comes so far. -/
def ticketsStart (bytes : Bytes) : Option (Nat × InputStream) :=
  let magic := deserializeValue uint32 ⟨bytes, true⟩
  let version := deserializeValue uint32 magic.2
  let count := deserializeValue uint32 version.2
  if magic.1 = magicNumber ∧ version.1 = formatVersion then some (count.1.toNat, count.2) else none

/-- The tickets that a load of a file with these bytes puts into the map, in order. -/
def insertions (convert : MillisConversion) (env : LoadEnvironment) (bytes : Bytes) :
    List SessionTicket :=
  match ticketsStart bytes with
  | none => []
  | some (count, stream) => (loadTickets convert env count stream).1

section

variable {convert : MillisConversion} {env : LoadEnvironment} {sessions : FileSessionStore}
  {bytes : Bytes} {count : Nat} {stream : InputStream}

theorem ticketsStart_of_good (start : ticketsStart bytes = some (count, stream))
    (good : stream.good = true) :
    ∃ header, header.length = 12 ∧ bytes = header ++ stream.rest := by
  rw [ticketsStart, Option.ite_none_right_eq_some] at start
  rcases start with ⟨-, same⟩
  cases Option.some.inj same
  rcases deserializeValue_of_good good with ⟨second, counted⟩
  rcases deserializeValue_of_good second with ⟨first, versioned⟩
  rcases deserializeValue_of_good first with ⟨-, front⟩
  rw [versioned, counted, ← List.append_assoc, ← List.append_assoc] at front
  exact ⟨_, by simp [uint32], front⟩

variable (convert env sessions) in
theorem load_of_start (start : ticketsStart bytes = some (count, stream)) :
    sessions.load convert env (.contents bytes) =
      (if (loadTickets convert env count stream).2 then .ok ()
        else .error ⟨.fileReadError, Text.ascii "Failed to load session tickets: " ++ env.what⟩,
        { sessions with tickets := Table.empty.insertAll (insertions convert env bytes) }) := by
  have inserted : insertions convert env bytes = (loadTickets convert env count stream).1 := by
    rw [insertions, start]
  rw [ticketsStart, Option.ite_none_right_eq_some] at start
  rcases start with ⟨⟨magic, version⟩, same⟩
  cases Option.some.inj same
  rw [inserted]
  simp only [FileSessionStore.load, FileSessionStore.loadInternal, magic, version, ne_eq,
    not_true_eq_false, if_false]
  split <;> rfl

theorem tickets_create_of_start (config : SessionStoreConfig)
    (start : ticketsStart bytes = some (count, stream)) :
    (FileSessionStore.create convert env config (.contents bytes)).tickets =
      Table.empty.insertAll (insertions convert env bytes) := by
  have loaded := load_of_start convert env ⟨config, .empty, false⟩ start
  rw [FileSessionStore.load] at loaded
  rw [FileSessionStore.create, loaded]

variable (convert env sessions) in
theorem load_of_no_start (start : ticketsStart bytes = none) :
    sessions.load convert env (.contents bytes) =
        (unexpected .invalidConfiguration "Invalid session file format", sessions) ∨
      sessions.load convert env (.contents bytes) =
        (.ok (), { sessions with tickets := .empty }) := by
  simp only [ticketsStart, ite_eq_right_iff, reduceCtorEq, imp_false, not_and] at start
  simp only [FileSessionStore.load, FileSessionStore.loadInternal]
  split
  · exact .inl rfl
  · rename_i magic
    right
    rw [if_pos (start (not_not.mp magic))]

/-! ## Records in the stream -/

variable (convert env) in
/-- From records at the front of the stream, no more are put into the map than the first of
them; with memory enough it is all that are valid. -/
theorem loadTickets_records (records : List TicketRecord) (rest : Bytes)
    (fits : count ≤ records.length) :
    (loadTickets convert env count ⟨records.flatMap TicketRecord.encode ++ rest, true⟩).1 ⊆
        (records.take count).map (TicketRecord.toTicket convert) ∧
      ((∀ left size, env.allocates left size = true) →
        loadTickets convert env count ⟨records.flatMap TicketRecord.encode ++ rest, true⟩ =
          (((records.take count).map (TicketRecord.toTicket convert)).filter
            (SessionTicket.isValid · env.now), true)) := by
  induction count generalizing records with
  | zero => simp [loadTickets]
  | succ count ih =>
      cases records with
      | nil => simp at fits
      | cons record records =>
          have later := ih records (Nat.le_of_succ_le_succ fits)
          rw [List.flatMap_cons, List.append_assoc, List.take_succ_cons, List.map_cons, loadTickets]
          simp only [not_true_eq_false, if_false]
          cases read : deserializeTicket convert env.allocates
              ⟨record.encode ++ (records.flatMap TicketRecord.encode ++ rest), true⟩ with
          | none =>
              constructor
              · simp
              · intro ample
                have all : env.allocates = fun _ _ => true := by
                  funext left size
                  exact ample left size
                have returned := returns_ticket convert
                  ⟨record.encode ++ (records.flatMap TicketRecord.encode ++ rest), true⟩
                rw [← all, read] at returned
                contradiction
          | some result =>
              cases reads_ticket record _ _ read
              dsimp only
              constructor
              · split
                · exact List.cons_subset_cons _ later.1
                · exact List.subset_cons_of_subset _ later.1
              · intro ample
                rw [later.2 ample, List.filter_cons]

/-! ## Saved files -/

theorem ticketsStart_serializeTickets (tickets : TicketTable) :
    ticketsStart (serializeTickets tickets) = some (tickets.size % 2 ^ 32,
      ⟨(tickets.entries.map SessionTicket.toRecord).flatMap TicketRecord.encode, true⟩) := by
  have records : tickets.entries.flatMap serializeTicket =
      (tickets.entries.map SessionTicket.toRecord).flatMap TicketRecord.encode := by
    rw [List.flatMap_map]
    exact List.flatMap_congr fun ticket _ => serializeTicket_eq ticket
  have count : (UInt32.ofNat tickets.size).toNat = tickets.size % 2 ^ 32 := UInt32.toNat_ofNat'
  simp only [ticketsStart, serializeTickets, List.append_assoc, deserializeValue_append, and_self,
    if_true, count, records]

end

end FileTrans.Transport
