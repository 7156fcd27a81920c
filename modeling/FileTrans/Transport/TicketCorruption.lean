import FileTrans.Transport.TicketFile

/-!
# Loads of arbitrary files

Where the file ends within the record of a ticket, the bytes that are missing
are zero to the load, and the ticket counts like any other; whether it gets
into the map is decided by the expiry that comes out.  When memory runs out the
map is already emptied.
-/

namespace FileTrans.Transport

open FileTrans.Core FileTrans.Binary FileTrans.Collections

/-- What ends the whole records at the front of a stream. -/
inductive RecordsEnd where
  | counted
  | cut (ticket : SessionTicket)
  | threw
  deriving DecidableEq

/-- The tickets of the whole records at the front of the stream, up to the count, and what ends
them: the count, a record that the file cuts short, with the ticket that is read for it, or an
exception. -/
def wholeTickets (convert : MillisConversion) (allocates : Nat → Nat → Bool) :
    Nat → InputStream → List SessionTicket × RecordsEnd
  | 0, _ => ([], .counted)
  | count + 1, stream =>
      match deserializeTicket convert allocates stream with
      | none => ([], .threw)
      | some (ticket, next) =>
          if next.good then
            let rest := wholeTickets convert allocates count next
            (ticket :: rest.1, rest.2)
          else ([], .cut ticket)

/-- What a load promises: it puts only tickets into the map that stand in the file, one after
the other after the header; and if it fails, the tickets are those from before. -/
structure LoadSound (convert : MillisConversion) (env : LoadEnvironment)
    (sessions : FileSessionStore) (bytes : Bytes) : Prop where
  present : insertions convert env bytes = [] ∨
    ∃ (header : Bytes) (records : List TicketRecord) (rest : Bytes), header.length = 12 ∧
      bytes = header ++ records.flatMap TicketRecord.encode ++ rest ∧
      insertions convert env bytes =
        (records.map (TicketRecord.toTicket convert)).filter (SessionTicket.isValid · env.now)
  kept : ∀ failure, (sessions.load convert env (.contents bytes)).1 = .error failure →
    ∀ ticket, ticket ∈ (sessions.load convert env (.contents bytes)).2.tickets.entries ↔
      ticket ∈ sessions.tickets.entries

/-- A record that the file cuts short is expired, by the expiry that is read for it; and if
memory runs out, the valid tickets of the records before are those that the store has. -/
def EndsWell (env : LoadEnvironment) (sessions : FileSessionStore) :
    List SessionTicket × RecordsEnd → Prop
  | (_, .counted) => True
  | (_, .cut ticket) => ¬ ticket.isValid env.now
  | (whole, .threw) => ∀ ticket, ticket ∈ sessions.tickets.entries ↔
      ticket ∈ ((Table.empty : TicketTable).insertAll
        (whole.filter (SessionTicket.isValid · env.now))).entries

/-- If the file has a header of this format, its records end well. -/
def RecordsEndWell (convert : MillisConversion) (env : LoadEnvironment)
    (sessions : FileSessionStore) (bytes : Bytes) : Prop :=
  ∀ count stream, ticketsStart bytes = some (count, stream) → stream.good = true →
    EndsWell env sessions (wholeTickets convert env.allocates count stream)

section

variable {convert : MillisConversion} {env : LoadEnvironment} {count : Nat}
  {stream : InputStream}

/-- The ticket that is read for a record that the file cuts short. -/
def RecordsEnd.cutTicket : RecordsEnd → List SessionTicket
  | .cut ticket => [ticket]
  | .counted | .threw => []

variable (convert env count) in
theorem loadTickets_eq (good : stream.good = true) :
    (loadTickets convert env count stream).1 =
        ((wholeTickets convert env.allocates count stream).1 ++
          (wholeTickets convert env.allocates count stream).2.cutTicket).filter
            (SessionTicket.isValid · env.now) ∧
      ((loadTickets convert env count stream).2 = false ↔
        (wholeTickets convert env.allocates count stream).2 = .threw) := by
  induction count generalizing stream with
  | zero => simp [loadTickets, wholeTickets, RecordsEnd.cutTicket]
  | succ count ih =>
      rw [loadTickets, wholeTickets]
      simp only [good, not_true_eq_false, if_false]
      cases read : deserializeTicket convert env.allocates stream with
      | none => simp [RecordsEnd.cutTicket]
      | some result =>
          rcases result with ⟨ticket, next⟩
          dsimp only
          by_cases whole : next.good = true
          · rw [if_pos whole, (ih whole).1, List.cons_append, List.filter_cons]
            exact ⟨rfl, (ih whole).2⟩
          · rw [if_neg whole]
            have stops : loadTickets convert env count next = ([], true) := by
              cases count with
              | zero => rfl
              | succ count => rw [loadTickets, if_pos whole]
            simp [stops, RecordsEnd.cutTicket, List.filter_cons]

variable (convert env count) in
theorem records_of_wholeTickets (good : stream.good = true) :
    ∃ (records : List TicketRecord) (rest : Bytes),
      stream.rest = records.flatMap TicketRecord.encode ++ rest ∧
      (wholeTickets convert env.allocates count stream).1 =
        records.map (TicketRecord.toTicket convert) := by
  induction count generalizing stream with
  | zero => exact ⟨[], stream.rest, rfl, rfl⟩
  | succ count ih =>
      rw [wholeTickets]
      cases read : deserializeTicket convert env.allocates stream with
      | none => exact ⟨[], stream.rest, rfl, rfl⟩
      | some result =>
          rcases result with ⟨ticket, next⟩
          dsimp only
          by_cases whole : next.good = true
          · rcases consumes_ticket stream ticket next read whole with
              ⟨-, _, front, record, rfl, rfl⟩
            rcases ih whole with ⟨records, rest, split, same⟩
            refine ⟨record :: records, rest, ?_, ?_⟩
            · rw [front, split, List.flatMap_cons, List.append_assoc]
            · rw [if_pos whole, same, List.map_cons]
          · rw [if_neg whole]
            exact ⟨[], stream.rest, rfl, rfl⟩

theorem map_prefix_wholeTickets {whole : List SessionTicket} {ticket : SessionTicket}
    (records : List TicketRecord) (rest : Bytes)
    (ends : wholeTickets convert env.allocates count
      ⟨records.flatMap TicketRecord.encode ++ rest, true⟩ = (whole, .cut ticket)) :
    records.map (TicketRecord.toTicket convert) <+: whole := by
  induction records generalizing count whole with
  | nil => exact List.nil_prefix
  | cons record records ih =>
      rw [List.flatMap_cons, List.append_assoc] at ends
      cases count with
      | zero => cases ends
      | succ count =>
          rw [wholeTickets] at ends
          cases read : deserializeTicket convert env.allocates
              ⟨record.encode ++ (records.flatMap TicketRecord.encode ++ rest), true⟩ with
          | none =>
              rw [read] at ends
              cases ends
          | some result =>
              cases reads_ticket record _ _ read
              rw [read] at ends
              simp only [if_true, Prod.mk.injEq] at ends
              rw [← ends.1, List.map_cons, List.cons_prefix_cons]
              exact ⟨rfl, ih (Prod.ext rfl ends.2)⟩

variable {sessions : FileSessionStore} {bytes : Bytes} {whole : List SessionTicket}
  {ending : RecordsEnd}

theorem present_iff (start : ticketsStart bytes = some (count, stream))
    (good : stream.good = true)
    (ends : wholeTickets convert env.allocates count stream = (whole, ending)) :
    (insertions convert env bytes = [] ∨
      ∃ (header : Bytes) (records : List TicketRecord) (rest : Bytes), header.length = 12 ∧
        bytes = header ++ records.flatMap TicketRecord.encode ++ rest ∧
        insertions convert env bytes =
          (records.map (TicketRecord.toTicket convert)).filter
            (SessionTicket.isValid · env.now)) ↔
      ∀ ticket ∈ ending.cutTicket, ¬ ticket.isValid env.now := by
  have inserted : insertions convert env bytes =
      (whole ++ ending.cutTicket).filter (SessionTicket.isValid · env.now) := by
    have loaded := (loadTickets_eq convert env count good).1
    rw [ends] at loaded
    rw [insertions, start]
    exact loaded
  rcases ticketsStart_of_good start good with ⟨header, twelve, split⟩
  rw [inserted, List.filter_append]
  constructor
  · intro present ticket cut valid
    cases ending with
    | counted => contradiction
    | threw => contradiction
    | cut late =>
        obtain rfl := List.mem_singleton.mp cut
        have last : (RecordsEnd.cut ticket).cutTicket.filter
            (SessionTicket.isValid · env.now) = [ticket] := by
          simp [RecordsEnd.cutTicket, valid]
        rw [last] at present
        rcases present with empty | ⟨front, records, rest, same, found, all⟩
        · simp at empty
        · rw [split, List.append_assoc] at found
          have left : stream = ⟨records.flatMap TicketRecord.encode ++ rest, true⟩ := by
            rw [← (List.append_inj found (twelve.trans same.symm)).2, ← good]
          rw [left] at ends
          have prefixed := (map_prefix_wholeTickets records rest ends).filter
            (SessionTicket.isValid · env.now)
          have shorter := prefixed.length_le
          rw [← all, List.length_append, List.length_singleton] at shorter
          omega
  · intro expired
    have none : ending.cutTicket.filter (SessionTicket.isValid · env.now) = [] :=
      List.filter_eq_nil_iff.mpr expired
    rcases records_of_wholeTickets convert env count good with
      ⟨records, rest, front, same⟩
    rw [ends] at same
    right
    refine ⟨header, records, rest, twelve, ?_, ?_⟩
    · rw [split, front, List.append_assoc]
    · rw [none, List.append_nil, ← same]

theorem kept_iff (start : ticketsStart bytes = some (count, stream)) (good : stream.good = true)
    (ends : wholeTickets convert env.allocates count stream = (whole, ending)) :
    (∀ failure, (sessions.load convert env (.contents bytes)).1 = .error failure →
      ∀ ticket, ticket ∈ (sessions.load convert env (.contents bytes)).2.tickets.entries ↔
        ticket ∈ sessions.tickets.entries) ↔
      (ending = .threw → ∀ ticket, ticket ∈ sessions.tickets.entries ↔
        ticket ∈ ((Table.empty : TicketTable).insertAll
          (whole.filter (SessionTicket.isValid · env.now))).entries) := by
  rcases loadTickets_eq convert env count good with ⟨loaded, threw⟩
  rw [ends] at loaded threw
  have inserted : insertions convert env bytes =
      (whole ++ ending.cutTicket).filter (SessionTicket.isValid · env.now) := by
    rw [insertions, start]
    exact loaded
  rw [load_of_start convert env sessions start, inserted]
  cases finished : (loadTickets convert env count stream).2 with
  | true =>
      have ended : ending ≠ .threw := by
        intro late
        rw [threw.mpr late] at finished
        contradiction
      simp [ended]
  | false =>
      obtain rfl := threw.mp finished
      simp only [Bool.false_eq_true, if_false, forall_const, RecordsEnd.cutTicket, List.append_nil]
      constructor
      · exact fun kept ticket => (kept _ rfl ticket).symm
      · exact fun same _ _ ticket => (same ticket).symm

end

/-- For every file, a load keeps its promises exactly if the records of the file end well. -/
theorem loadSound_iff (convert : MillisConversion) (env : LoadEnvironment)
    (sessions : FileSessionStore) (bytes : Bytes) :
    LoadSound convert env sessions bytes ↔ RecordsEndWell convert env sessions bytes := by
  cases start : ticketsStart bytes with
  | none =>
      apply iff_of_true
      · refine ⟨.inl (by rw [insertions, start]), ?_⟩
        intro failure failed ticket
        rcases load_of_no_start convert env sessions start with
          same | emptied
        · rw [same]
        · rw [emptied] at failed
          contradiction
      · intro count stream started
        rw [start] at started
        contradiction
  | some result =>
      rcases result with ⟨count, stream⟩
      by_cases good : stream.good = true
      · cases ends : wholeTickets convert env.allocates count stream with
        | mk whole ending =>
            have endWell : RecordsEndWell convert env sessions bytes ↔
                EndsWell env sessions (whole, ending) := by
              constructor
              · intro well
                rw [← ends]
                exact well count stream start good
              · intro well other rest started _
                cases Option.some.inj (start.symm.trans started)
                rwa [ends]
            have sound : LoadSound convert env sessions bytes ↔ _ ∧ _ :=
              ⟨fun sound => ⟨sound.present, sound.kept⟩, fun both => ⟨both.1, both.2⟩⟩
            rw [endWell, sound, present_iff start good ends, kept_iff start good ends]
            cases ending <;> simp [EndsWell, RecordsEnd.cutTicket]
      · have stops : loadTickets convert env count stream = ([], true) := by
          cases count with
          | zero => rfl
          | succ count => rw [loadTickets, if_pos good]
        apply iff_of_true
        · refine ⟨.inl (by simp only [insertions, start, stops]), ?_⟩
          intro failure failed
          rw [load_of_start convert env sessions start, stops] at failed
          contradiction
        · intro other rest started fresh
          cases Option.some.inj (start.symm.trans started)
          exact absurd fresh good

/-! ## Files that are not what they seem -/

namespace CorruptionSample

/-- A ticket that is valid at the start of the epoch. -/
def ticket : SessionTicket :=
  ⟨[0x61], [1, 2], 0, 2000000, 16384, [], [0x61, 0x62]⟩

/-- The ticket without the last letter of its name. -/
def torn : SessionTicket :=
  { ticket with serverName := [0x61, 0] }

/-- A store that has the ticket. -/
def holder : FileSessionStore :=
  ⟨.default, ⟨[ticket], by decide⟩, false⟩

/-- Its file without the last byte. -/
def tornFile : Bytes :=
  (serializeTickets holder.tickets).dropLast

/-- A file with a length of 2 ^ 32 - 1 bytes in its only record. -/
def hugeFile : Bytes :=
  uint32.encode magicNumber ++ uint32.encode formatVersion ++ uint32.encode 1 ++
    uint32.encode 0xffffffff

/-- Memory for a megabyte at a time. -/
def tight : LoadEnvironment :=
  ⟨0, fun _ size => size ≤ 2 ^ 20, Text.ascii "std::bad_alloc"⟩

end CorruptionSample

open CorruptionSample in
/-- A file that was cut short gives a ticket that it does not have; a length that is too large
empties the store. -/
theorem corrupt_files_break :
    ¬ LoadSound .wrapping (.ample 0) holder tornFile ∧
      ¬ LoadSound .wrapping tight holder hugeFile := by
  constructor
  · intro sound
    have start : ticketsStart tornFile = some (1, ⟨tornFile.drop 12, true⟩) := by decide
    have ends : wholeTickets .wrapping (fun _ _ => true) 1 ⟨tornFile.drop 12, true⟩ =
        ([], .cut torn) := by decide
    exact (present_iff start rfl ends).mp sound.present torn (by decide) (by decide)
  · intro sound
    have kept := sound.kept ⟨.fileReadError, Text.ascii
      "Failed to load session tickets: std::bad_alloc"⟩ (by decide) ticket
    have empty : (holder.load .wrapping tight (.contents hugeFile)).2.tickets.entries = [] := by
      decide
    rw [empty] at kept
    exact List.not_mem_nil (kept.mpr (by decide))

end FileTrans.Transport
