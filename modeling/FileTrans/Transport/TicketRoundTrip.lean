import FileTrans.Transport.TicketFile

/-!
# Tickets that are saved and loaded

The file holds the tickets in the order of the iteration, under a count of 32
bits.  A new store loads as many of them as the count says, and keeps those
that are still valid; their times come back truncated to milliseconds.
-/

namespace FileTrans.Transport

open FileTrans.Core FileTrans.Binary FileTrans.Collections

namespace SessionTicket

/-- Every string of the ticket is shorter than 2 ^ 32 bytes. -/
def Short (ticket : SessionTicket) : Prop :=
  ticket.serverId.length < 2 ^ 32 ∧ ticket.ticketData.length < 2 ^ 32 ∧
    ticket.alpnProtocol.length < 2 ^ 32 ∧ ticket.serverName.length < 2 ^ 32

instance (ticket : SessionTicket) : Decidable ticket.Short :=
  inferInstanceAs (Decidable (_ ∧ _))

/-- The ticket with its times truncated to milliseconds. -/
def truncateTimes (ticket : SessionTicket) : SessionTicket :=
  { ticket with
    issuedAt := ticket.issuedAt.truncate, expiresAt := ticket.expiresAt.truncate }

theorem serverId_with (ticket : SessionTicket) (issuedAt expiresAt : TimePoint) :
    { ticket with issuedAt, expiresAt }.serverId = ticket.serverId :=
  rfl

-- By the lemma for any two times: by computation, the times themselves would be compared.
theorem serverId_truncateTimes (ticket : SessionTicket) :
    ticket.truncateTimes.serverId = ticket.serverId :=
  serverId_with ticket _ _

theorem toTicket_toRecord (convert : MillisConversion) {ticket : SessionTicket}
    (short : ticket.Short) : ticket.toRecord.toTicket convert = ticket.truncateTimes := by
  rcases short with ⟨serverId, ticketData, alpnProtocol, serverName⟩
  simp only [toRecord, TicketRecord.toTicket, truncateTimes, toTimePoint_millis,
    ShortBytes.cut_eq_self, serverId, ticketData, alpnProtocol, serverName]

end SessionTicket

/-- The tickets that a new store has at some time, after another one saved its own, are those
that are valid then by an expiry truncated to milliseconds, with their times truncated. -/
def SurvivesSave (convert : MillisConversion) (sessions : FileSessionStore) (file : TicketFile)
    (now : TimePoint) (config : SessionStoreConfig) : Prop :=
  ∀ ticket, ticket ∈ (FileSessionStore.create convert (.ample now) config
      (sessions.save file .writes).2.2).tickets.entries ↔
    ∃ original ∈ sessions.tickets.entries, now < original.expiresAt.truncate ∧
      ticket = original.truncateTimes

section

variable {convert : MillisConversion} {tickets : TicketTable} {now : TimePoint}

theorem insertions_serializeTickets (short : ∀ ticket ∈ tickets.entries, ticket.Short) :
    insertions convert (.ample now) (serializeTickets tickets) =
      ((tickets.entries.take (tickets.size % 2 ^ 32)).map SessionTicket.truncateTimes).filter
        (SessionTicket.isValid · now) := by
  have fits : tickets.size % 2 ^ 32 ≤ (tickets.entries.map SessionTicket.toRecord).length := by
    rw [List.length_map]
    exact Nat.mod_le _ _
  have read := (loadTickets_records convert (.ample now)
    (tickets.entries.map SessionTicket.toRecord) [] fits).2 fun _ _ => rfl
  rw [List.append_nil] at read
  have back : ((tickets.entries.take (tickets.size % 2 ^ 32)).map
      SessionTicket.toRecord).map (TicketRecord.toTicket convert) =
        (tickets.entries.take (tickets.size % 2 ^ 32)).map SessionTicket.truncateTimes := by
    rw [List.map_map]
    apply List.map_congr_left
    intro ticket mem
    exact SessionTicket.toTicket_toRecord convert (short ticket (List.mem_of_mem_take mem))
  simp only [insertions, ticketsStart_serializeTickets, read, ← List.map_take, back]
  rfl

theorem mem_create_iff (short : ∀ ticket ∈ tickets.entries, ticket.Short)
    (config : SessionStoreConfig) {ticket : SessionTicket} :
    ticket ∈ (FileSessionStore.create convert (.ample now) config
        (.contents (serializeTickets tickets))).tickets.entries ↔
      ∃ original ∈ tickets.entries.take (tickets.size % 2 ^ 32),
        now < original.expiresAt.truncate ∧ ticket = original.truncateTimes := by
  have distinct : ((insertions convert (.ample now) (serializeTickets tickets)).map
      SessionTicket.serverId).Nodup := by
    rw [insertions_serializeTickets short]
    have names : SessionTicket.serverId ∘ SessionTicket.truncateTimes = SessionTicket.serverId :=
      funext SessionTicket.serverId_truncateTimes
    apply List.Nodup.sublist (List.filter_sublist.map _)
    rw [List.map_map, names]
    exact tickets.nodup.sublist ((List.take_sublist _ _).map _)
  rw [tickets_create_of_start config (ticketsStart_serializeTickets tickets),
    Table.mem_insertAll distinct (by simp [Table.empty]), insertions_serializeTickets short]
  simp only [Table.empty, List.not_mem_nil, false_or, List.mem_filter, List.mem_map,
    SessionTicket.isValid, decide_eq_true_eq]
  constructor
  · rintro ⟨⟨original, mem, rfl⟩, valid⟩
    exact ⟨original, mem, valid, rfl⟩
  · rintro ⟨original, mem, valid, rfl⟩
    exact ⟨⟨original, mem, rfl⟩, valid⟩

variable (convert now) in
theorem mem_create_save_iff {sessions : FileSessionStore} (file : TicketFile)
    (config : SessionStoreConfig) (ticket : SessionTicket)
    (short : ∀ ticket ∈ sessions.tickets.entries, ticket.Short) :
    ticket ∈ (FileSessionStore.create convert (.ample now) config
        (sessions.save file .writes).2.2).tickets.entries ↔
      ∃ original ∈ sessions.tickets.entries.take (sessions.tickets.size % 2 ^ 32),
        now < original.expiresAt.truncate ∧ ticket = original.truncateTimes := by
  have saved : (sessions.save file .writes).2.2 = .contents (serializeTickets sessions.tickets) :=
    rfl
  rw [saved]
  exact mem_create_iff short config

end

/-- The tickets survive exactly if those that the count of 32 bits leaves out are expired. -/
theorem survivesSave_iff (convert : MillisConversion) (sessions : FileSessionStore)
    (file : TicketFile) (now : TimePoint) (config : SessionStoreConfig)
    (short : ∀ ticket ∈ sessions.tickets.entries, ticket.Short) :
    SurvivesSave convert sessions file now config ↔
      ∀ ticket ∈ sessions.tickets.entries.drop (sessions.tickets.size % 2 ^ 32),
        ticket.expiresAt.truncate ≤ now := by
  have created := fun ticket => mem_create_save_iff convert now file config ticket short
  constructor
  · intro survives ticket left
    by_contra late
    have valid : now < ticket.expiresAt.truncate := Int64.not_le.mp late
    have there := (survives ticket.truncateTimes).mpr
      ⟨ticket, List.mem_of_mem_drop left, valid, rfl⟩
    rcases (created _).mp there with ⟨original, counted, -, same⟩
    have server := congrArg SessionTicket.serverId same
    rw [SessionTicket.serverId_truncateTimes, SessionTicket.serverId_truncateTimes] at server
    have twice := sessions.tickets.nodup
    rw [← List.take_append_drop (sessions.tickets.size % 2 ^ 32) sessions.tickets.entries,
      List.map_append] at twice
    exact List.disjoint_of_nodup_append twice (List.mem_map_of_mem counted)
      (List.mem_map.mpr ⟨ticket, left, server⟩)
  · intro expired ticket
    refine (created ticket).trans ?_
    constructor
    · rintro ⟨original, counted, valid, rfl⟩
      exact ⟨original, List.mem_of_mem_take counted, valid, rfl⟩
    · rintro ⟨original, mem, valid, rfl⟩
      rw [← List.take_append_drop (sessions.tickets.size % 2 ^ 32) sessions.tickets.entries,
        List.mem_append] at mem
      rcases mem with counted | left
      · exact ⟨original, counted, valid, rfl⟩
      · exact absurd (expired original left) (Int64.not_le.mpr valid)

/-! ## Tickets that survive, and tickets that do not -/

namespace TicketSample

/-- A ticket for a server that is named by a number. -/
def numbered (number : Nat) (expiresAt : TimePoint) : SessionTicket :=
  ⟨littleEndian 8 number, [1, 2], 1234567, expiresAt, 16384, [0x66, 0x74], []⟩

/-- So many tickets, all valid at the start of the epoch. -/
def many (count : Nat) (small : count ≤ 256 ^ 8) : TicketTable where
  entries := (List.range count).map (numbered · 2000000)
  nodup := by
    rw [List.map_map]
    apply List.Nodup.map_on _ List.nodup_range
    intro first low second high same
    have numbers := congrArg ofLittleEndian same
    simp only [Function.comp_apply, numbered, ofLittleEndian_littleEndian] at numbers
    rwa [Nat.mod_eq_of_lt ((List.mem_range.mp low).trans_le small),
      Nat.mod_eq_of_lt ((List.mem_range.mp high).trans_le small)] at numbers

theorem mem_many_iff {count : Nat} (small : count ≤ 256 ^ 8) {ticket : SessionTicket} :
    ticket ∈ (many count small).entries ↔ ∃ number < count, numbered number 2000000 = ticket := by
  simp [many]

theorem size_many (count : Nat) (small : count ≤ 256 ^ 8) : (many count small).size = count := by
  simp [many, Table.size]

theorem short_numbered (number : Nat) (expiresAt : TimePoint) :
    (numbered number expiresAt).Short := by
  simp [SessionTicket.Short, numbered]

/-- A store with an expired ticket and a valid one. -/
def two : FileSessionStore where
  config := .default
  tickets := ⟨[numbered 1 1999999, numbered 2 3999999], by decide⟩
  dirty := true

def manyStore (count : Nat) (small : count ≤ 256 ^ 8) : FileSessionStore :=
  ⟨.default, many count small, true⟩

theorem short_many {count : Nat} (small : count ≤ 256 ^ 8) :
    ∀ ticket ∈ (manyStore count small).tickets.entries, ticket.Short := by
  intro ticket mem
  rcases (mem_many_iff small).mp mem with ⟨number, -, rfl⟩
  exact short_numbered number 2000000

theorem many_lost {count : Nat} (small : count ≤ 256 ^ 8) (positive : 0 < count)
    (wraps : count % 2 ^ 32 = 0) :
    ¬ SurvivesSave .wrapping (manyStore count small) .absent 0 .default := by
  intro survives
  have first : numbered 0 2000000 ∈ (manyStore count small).tickets.entries :=
    (mem_many_iff small).mpr ⟨0, positive, rfl⟩
  have there := (survives (numbered 0 2000000).truncateTimes).mpr
    ⟨numbered 0 2000000, first, by decide, rfl⟩
  rcases (mem_create_save_iff _ _ _ _ _ (short_many small)).mp there with ⟨original, counted, -⟩
  have size : (manyStore count small).tickets.size = count := size_many count small
  rw [size, wraps, List.take_zero] at counted
  exact List.not_mem_nil counted

/-- A store with 2 ^ 32 tickets. -/
def crowded : FileSessionStore :=
  manyStore (2 ^ 32) (by norm_num)

end TicketSample

open TicketSample in
theorem survivesSave_sample :
    (∀ ticket ∈ two.tickets.entries, ticket.Short) ∧
      SurvivesSave .wrapping two .absent 1000000 .default := by
  have short : ∀ ticket ∈ two.tickets.entries, ticket.Short := by decide
  exact ⟨short, (survivesSave_iff .wrapping two .absent 1000000 .default short).mpr (by decide)⟩

open TicketSample in
/-- Of 2 ^ 32 tickets the count is zero, and none is loaded. -/
theorem crowded_lost :
    (∀ ticket ∈ crowded.tickets.entries, ticket.Short) ∧
      ¬ SurvivesSave .wrapping crowded .absent 0 .default :=
  ⟨short_many _, many_lost _ (Nat.two_pow_pos 32) (Nat.mod_self _)⟩

end FileTrans.Transport
