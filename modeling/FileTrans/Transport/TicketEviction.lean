import FileTrans.Transport.TicketFile
import FileTrans.Transition.Run

/-!
# Making room for tickets

A full store drops a ticket before it takes another one, whether or not the new
one replaces a ticket of the same server.  A load takes all tickets of the file
that are valid, whatever the limit.
-/

namespace FileTrans.Transport

open FileTrans.Core FileTrans.Binary FileTrans.Collections FileTrans.Transition

/-! ## The ticket that goes -/

section

variable {now : TimePoint} {tickets : TicketTable}

theorem findOldest_cases (now : TimePoint) (list : List SessionTicket)
    (oldest : Option SessionTicket) (time : TimePoint) :
    (∃ ticket ∈ list, ¬ ticket.isValid now ∧ findOldest now list oldest time = some ticket) ∨
    (∀ ticket ∈ list, ticket.isValid now) ∧
      ((∀ ticket ∈ list, time ≤ ticket.issuedAt) ∧ findOldest now list oldest time = oldest ∨
        ∃ ticket ∈ list, ticket.issuedAt < time ∧
          (∀ other ∈ list, ticket.issuedAt ≤ other.issuedAt) ∧
          findOldest now list oldest time = some ticket) := by
  induction list generalizing oldest time with
  | nil => simp [findOldest]
  | cons head rest ih =>
      rw [findOldest]
      by_cases valid : head.isValid now = true
      · rw [if_neg (not_not.mpr valid)]
        by_cases earlier : head.issuedAt < time
        · rw [if_pos earlier]
          rcases ih (some head) head.issuedAt with
            ⟨ticket, mem, expired, found⟩ |
            ⟨all, ⟨later, found⟩ | ⟨ticket, mem, before, first, found⟩⟩
          · exact .inl ⟨ticket, List.mem_cons_of_mem _ mem, expired, found⟩
          · refine .inr ⟨List.forall_mem_cons.mpr ⟨valid, all⟩, .inr ?_⟩
            exact ⟨head, List.mem_cons_self, earlier,
              List.forall_mem_cons.mpr ⟨Int64.le_refl _, later⟩, found⟩
          · refine .inr ⟨List.forall_mem_cons.mpr ⟨valid, all⟩, .inr ?_⟩
            exact ⟨ticket, List.mem_cons_of_mem _ mem, Int64.lt_trans before earlier,
              List.forall_mem_cons.mpr ⟨Int64.le_of_lt before, first⟩, found⟩
        · rw [if_neg earlier]
          have late : time ≤ head.issuedAt := Int64.not_lt.mp earlier
          rcases ih oldest time with
            ⟨ticket, mem, expired, found⟩ |
            ⟨all, ⟨later, found⟩ | ⟨ticket, mem, before, first, found⟩⟩
          · exact .inl ⟨ticket, List.mem_cons_of_mem _ mem, expired, found⟩
          · exact .inr ⟨List.forall_mem_cons.mpr ⟨valid, all⟩, .inl
              ⟨List.forall_mem_cons.mpr ⟨late, later⟩, found⟩⟩
          · refine .inr ⟨List.forall_mem_cons.mpr ⟨valid, all⟩, .inr ?_⟩
            have ordered := Int64.le_trans (Int64.le_of_lt before) late
            exact ⟨ticket, List.mem_cons_of_mem _ mem, before,
              List.forall_mem_cons.mpr ⟨ordered, first⟩, found⟩
      · rw [if_pos valid]
        exact .inl ⟨head, List.mem_cons_self, valid, rfl⟩

theorem of_oldestTicket {oldest : SessionTicket} (found : oldestTicket now tickets = some oldest) :
    oldest ∈ tickets.entries ∧
      (¬ oldest.isValid now ∨ (∀ ticket ∈ tickets.entries, ticket.isValid now) ∧
        ∀ ticket ∈ tickets.entries, oldest.issuedAt ≤ ticket.issuedAt) := by
  rw [oldestTicket] at found
  rcases findOldest_cases now tickets.entries none .max with
    ⟨ticket, mem, expired, same⟩ | ⟨all, ⟨-, same⟩ | ⟨ticket, mem, -, first, same⟩⟩
  · rw [found, Option.some.injEq] at same
    rw [same]
    exact ⟨mem, .inl expired⟩
  · rw [found] at same
    contradiction
  · rw [found, Option.some.injEq] at same
    rw [same]
    exact ⟨mem, .inr ⟨all, first⟩⟩

theorem oldestTicket_ne_none
    (exists_old : ∃ ticket ∈ tickets.entries, ¬ ticket.isValid now ∨ ticket.issuedAt < .max) :
    oldestTicket now tickets ≠ none := by
  intro none
  rw [oldestTicket] at none
  rcases exists_old with ⟨old, there, why⟩
  rcases findOldest_cases now tickets.entries Option.none .max with
    ⟨ticket, -, -, same⟩ | ⟨all, ⟨late, -⟩ | ⟨ticket, -, -, -, same⟩⟩
  · rw [none] at same
    contradiction
  · rcases why with expired | early
    · exact expired (all old there)
    · exact Int64.not_lt.mpr (late old there) early
  · rw [none] at same
    contradiction

end

/-! ## What `store` promises -/

/-- The new ticket is there.  One other ticket is gone at most, and only if the server had none
and the store was full; it is expired, or none is and it was issued first. -/
structure StoreLaw (config : SessionStoreConfig) (now : TimePoint) (ticket : SessionTicket)
    (before after : TicketTable) : Prop where
  stored : after.find ticket.serverId = some ticket
  others : ∃ dropped : Option SessionTicket,
    (∀ serverId, serverId ≠ ticket.serverId →
      after.find serverId = (before.find serverId).filter fun other => some other ≠ dropped) ∧
    ∀ gone ∈ dropped, gone ∈ before.entries ∧ before.find ticket.serverId = none ∧
      config.maxTickets.toNat ≤ before.size ∧
      (¬ gone.isValid now ∨ (∀ other ∈ before.entries, other.isValid now) ∧
        ∀ other ∈ before.entries, gone.issuedAt ≤ other.issuedAt)

section

variable {config : SessionStoreConfig} {now : TimePoint} {ticket : SessionTicket}
  {tickets : TicketTable}

/-- A store that is full takes a ticket of a server that it does not know, in place of one that
is expired or was not issued at the end of time. -/
def HasRoom (config : SessionStoreConfig) (now : TimePoint) (ticket : SessionTicket)
    (tickets : TicketTable) : Prop :=
  config.maxTickets.toNat ≤ tickets.size → tickets.find ticket.serverId = none ∧
    ∃ old ∈ tickets.entries, ¬ old.isValid now ∨ old.issuedAt < .max

theorem makeRoom_of_full (full : isFull config tickets) (room : HasRoom config now ticket tickets) :
    ∃ oldest, oldestTicket now tickets = some oldest ∧
      makeRoom config now tickets = tickets.erase oldest.serverId := by
  rcases Option.ne_none_iff_exists'.mp (oldestTicket_ne_none (room full.2).2) with
    ⟨oldest, found⟩
  refine ⟨oldest, found, ?_⟩
  simp only [makeRoom, full, if_true, found]

instance : Decidable (HasRoom config now ticket tickets) :=
  inferInstanceAs (Decidable (_ → _ ∧ _))

theorem storeLaw_of_hasRoom (room : HasRoom config now ticket tickets) :
    StoreLaw config now ticket tickets (storeTicket config now ticket tickets) := by
  refine ⟨Table.find_insert, ?_⟩
  have elsewhere : ∀ serverId, serverId ≠ ticket.serverId →
      (storeTicket config now ticket tickets).find serverId =
        (makeRoom config now tickets).find serverId :=
    fun serverId other => Table.find_insert_of_ne other
  by_cases full : isFull config tickets
  · rcases makeRoom_of_full full room with ⟨oldest, found, made⟩
    refine ⟨some oldest, ?_, ?_⟩
    · intro serverId other
      rw [elsewhere serverId other, made, Table.erase, Table.find_keep]
      cases held : tickets.find serverId with
      | none => rfl
      | some entry =>
          have mem := (Table.find_eq_some_iff.mp held).1
          have same : entry.serverId = oldest.serverId ↔ entry = oldest :=
            ⟨Table.eq_of_key_eq mem (of_oldestTicket found).1, fun equal => by rw [equal]⟩
          simp [Option.filter, same]
    · intro gone dropped
      obtain rfl := Option.some.inj dropped
      rcases of_oldestTicket found with ⟨mem, why⟩
      exact ⟨mem, (room full.2).1, full.2, why⟩
  · refine ⟨none, ?_, fun gone dropped => absurd dropped (Option.not_mem_none gone)⟩
    intro serverId other
    rw [elsewhere serverId other, makeRoom, if_neg full]
    cases tickets.find serverId <;> simp [Option.filter]

theorem size_storeTicket_le (positive : 0 < config.maxTickets)
    (limit : tickets.size ≤ config.maxTickets.toNat) (room : HasRoom config now ticket tickets) :
    (storeTicket config now ticket tickets).size ≤ config.maxTickets.toNat := by
  by_cases full : isFull config tickets
  · rcases makeRoom_of_full full room with ⟨oldest, found, made⟩
    have absent := (room full.2).1
    have mem := (of_oldestTicket found).1
    have differ : ticket.serverId ≠ oldest.serverId :=
      fun same => Table.find_eq_none_iff.mp absent oldest mem same.symm
    have gone : (tickets.erase oldest.serverId).find ticket.serverId = none :=
      (Table.find_erase_of_ne differ).trans absent
    rw [storeTicket, made, Table.size_insert_of_absent gone, Table.size_erase_of_mem mem]
    exact limit
  · have below : tickets.size < config.maxTickets.toNat :=
      Nat.not_le.mp fun reached => full ⟨positive, reached⟩
    rw [storeTicket, makeRoom, if_neg full]
    cases held : tickets.find ticket.serverId with
    | none =>
        rw [Table.size_insert_of_absent held]
        exact below
    | some entry =>
        rcases Table.find_eq_some_iff.mp held with ⟨mem, same⟩
        rw [Table.size_insert_of_present mem same]
        exact limit

end

/-! ## Runs of either store -/

/-- `session_store`: one of its two implementations. -/
inductive SessionStore where
  | memory (sessions : MemorySessionStore)
  | file (sessions : FileSessionStore)

namespace SessionStore

/-- The map of the store. -/
def tickets : SessionStore → TicketTable
  | .memory sessions => sessions.tickets
  | .file sessions => sessions.tickets

/-- The configuration of the store. -/
def config : SessionStore → SessionStoreConfig
  | .memory sessions => sessions.config
  | .file sessions => sessions.config

def store (sessions : SessionStore) (file : TicketFile) (now : TimePoint) (ticket : SessionTicket)
    (outcome : SaveOutcome) : SessionStore :=
  match sessions with
  | .memory sessions => .memory (sessions.store now ticket).2
  | .file sessions => .file (sessions.store file now ticket outcome).2.1

def retrieve (sessions : SessionStore) (now : TimePoint) (serverId : Bytes) : SessionStore :=
  match sessions with
  | .memory sessions => .memory (sessions.retrieve now serverId).2
  | .file sessions => .file (sessions.retrieve now serverId).2

def remove (sessions : SessionStore) (serverId : Bytes) : SessionStore :=
  match sessions with
  | .memory sessions => .memory (sessions.remove serverId).2
  | .file sessions => .file (sessions.remove serverId).2

def cleanupExpired (sessions : SessionStore) (now : TimePoint) : SessionStore :=
  match sessions with
  | .memory sessions => .memory (sessions.cleanupExpired now).2
  | .file sessions => .file (sessions.cleanupExpired now).2

def clear : SessionStore → SessionStore
  | .memory sessions => .memory sessions.clear
  | .file sessions => .file sessions.clear

/-- `file_session_store::load`; the store in memory has none. -/
def load (convert : MillisConversion) (env : LoadEnvironment) (file : TicketFile) :
    SessionStore → SessionStore
  | .memory sessions => .memory sessions
  | .file sessions => .file (sessions.load convert env file).2

/-- The unordered map is iterated in another order. -/
def rehash (order : List SessionTicket) (sessions : SessionStore) : SessionStore :=
  if perm : order.Perm sessions.tickets.entries then
    match sessions with
    | .memory sessions => .memory { sessions with tickets := sessions.tickets.reorder order perm }
    | .file sessions => .file { sessions with tickets := sessions.tickets.reorder order perm }
  else sessions

end SessionStore

/-- A call, with what it meets: the time, the file and what becomes of a write to it. -/
inductive StoreEvent where
  | store (file : TicketFile) (now : TimePoint) (ticket : SessionTicket) (outcome : SaveOutcome)
  | retrieve (now : TimePoint) (serverId : Bytes)
  | remove (serverId : Bytes)
  | cleanupExpired (now : TimePoint)
  | clear
  | load (env : LoadEnvironment) (file : TicketFile)
  | rehash (order : List SessionTicket)

/-- One call. -/
def storeStep (convert : MillisConversion) : Step SessionStore StoreEvent Unit :=
  fun sessions event => ((), match event with
  | .store file now ticket outcome => sessions.store file now ticket outcome
  | .retrieve now serverId => sessions.retrieve now serverId
  | .remove serverId => sessions.remove serverId
  | .cleanupExpired now => sessions.cleanupExpired now
  | .clear => sessions.clear
  | .load env file => sessions.load convert env file
  | .rehash order => sessions.rehash order)

/-- The file names no more servers in valid tickets than a store may have. -/
def FileFits (convert : MillisConversion) (env : LoadEnvironment) (config : SessionStoreConfig) :
    TicketFile → Prop
  | .contents bytes => ((insertions convert env bytes).map SessionTicket.serverId).dedup.length ≤
      config.maxTickets.toNat
  | .absent | .unreadable => True

/-- A store that was just created, from a file within the limit. -/
inductive Created (convert : MillisConversion) : SessionStore → Prop
  | memory (config : SessionStoreConfig) : Created convert (.memory (.create config))
  | file (env : LoadEnvironment) (config : SessionStoreConfig) (file : TicketFile)
      (fits : FileFits convert env config file) :
      Created convert (.file (.create convert env config file))

/-- A store has room for the ticket that it takes, and a file that is loaded is within the
limit. -/
def Admits (convert : MillisConversion) (sessions : SessionStore) : StoreEvent → Prop
  | .store _ now ticket _ => HasRoom sessions.config now ticket sessions.tickets
  | .load env file => FileFits convert env sessions.config file
  | _ => True

section

variable {convert : MillisConversion}

theorem tickets_store (sessions : SessionStore) (file : TicketFile) (now : TimePoint)
    (ticket : SessionTicket) (outcome : SaveOutcome) :
    (sessions.store file now ticket outcome).tickets =
      storeTicket sessions.config now ticket sessions.tickets := by
  cases sessions with
  | memory sessions => rfl
  | file sessions => cases outcome <;> rfl

theorem config_load (convert : MillisConversion) (env : LoadEnvironment) (file : TicketFile)
    (sessions : FileSessionStore) :
    (sessions.load convert env file).2.config = sessions.config := by
  cases file with
  | absent => rfl
  | unreadable => rfl
  | contents bytes =>
      cases start : ticketsStart bytes with
      | none =>
          rcases load_of_no_start convert env sessions start with same | emptied
          · rw [same]
          · rw [emptied]
      | some result => rw [load_of_start convert env _ start]

theorem size_load_le {env : LoadEnvironment} {file : TicketFile} {sessions : FileSessionStore}
    (limit : sessions.tickets.size ≤ sessions.config.maxTickets.toNat)
    (fits : FileFits convert env sessions.config file) :
    (sessions.load convert env file).2.tickets.size ≤ sessions.config.maxTickets.toNat := by
  cases file with
  | absent => exact limit
  | unreadable => exact limit
  | contents bytes =>
      cases start : ticketsStart bytes with
      | none =>
          rcases load_of_no_start convert env sessions start with same | emptied
          · rw [same]
            exact limit
          · rw [emptied]
            exact Nat.zero_le _
      | some result =>
          rw [load_of_start convert env _ start]
          exact (Table.size_insertAll_empty _).trans_le fits

theorem config_storeStep (sessions : SessionStore) (event : StoreEvent) :
    (storeStep convert sessions event).2.config = sessions.config := by
  cases event with
  | store file now ticket outcome =>
      cases sessions with
      | memory sessions => rfl
      | file sessions => cases outcome <;> rfl
  | load env file =>
      cases sessions with
      | memory sessions => rfl
      | file sessions => exact config_load convert env file sessions
  | rehash order =>
      simp only [storeStep, SessionStore.rehash]
      split
      · cases sessions <;> rfl
      · rfl
  | _ => cases sessions <;> rfl

theorem size_retrieveTicket_le (config : SessionStoreConfig) (now : TimePoint) (serverId : Bytes)
    (tickets : TicketTable) :
    (retrieveTicket config now serverId tickets).2.size ≤ tickets.size := by
  rw [retrieveTicket]
  split
  · exact Nat.le_refl _
  · split
    · exact Table.size_keep_le _
    · split
      · exact Table.size_keep_le _
      · exact Nat.le_refl _

theorem limit_storeStep {sessions : SessionStore} {event : StoreEvent}
    (positive : 0 < sessions.config.maxTickets)
    (limit : sessions.tickets.size ≤ sessions.config.maxTickets.toNat)
    (admits : Admits convert sessions event) :
    (storeStep convert sessions event).2.tickets.size ≤ sessions.config.maxTickets.toNat := by
  cases event with
  | store file now ticket outcome =>
      change (sessions.store file now ticket outcome).tickets.size ≤ _
      rw [tickets_store]
      exact size_storeTicket_le positive limit admits
  | retrieve now serverId =>
      cases sessions <;> exact (size_retrieveTicket_le _ _ _ _).trans limit
  | remove serverId => cases sessions <;> exact (Table.size_keep_le _).trans limit
  | cleanupExpired now => cases sessions <;> exact (Table.size_keep_le _).trans limit
  | clear => cases sessions <;> exact Nat.zero_le _
  | load env file =>
      cases sessions with
      | memory sessions => exact limit
      | file sessions => exact size_load_le limit admits
  | rehash order =>
      simp only [storeStep, SessionStore.rehash]
      split
      · rename_i perm
        cases sessions <;> exact perm.length_eq.trans_le limit
      · exact limit

theorem Created.limit {sessions : SessionStore} (created : Created convert sessions) :
    sessions.tickets.size ≤ sessions.config.maxTickets.toNat := by
  cases created with
  | memory config => exact Nat.zero_le _
  | file env config file fits =>
      have size := @size_load_le convert env file ⟨config, .empty, false⟩ (Nat.zero_le _) fits
      have same := config_load convert env file ⟨config, .empty, false⟩
      exact size.trans_eq (congrArg (fun config => config.maxTickets.toNat) same.symm)

/-- In every state of the run the store keeps the limit, and every `store` keeps its promise. -/
def EvictsSoundly (convert : MillisConversion) (start : SessionStore) (events : List StoreEvent) :
    Prop :=
  (∀ first rest, events = first ++ rest →
    (final (storeStep convert) start first).tickets.size ≤ start.config.maxTickets.toNat) ∧
  ∀ first file now ticket outcome rest,
    events = first ++ .store file now ticket outcome :: rest →
      StoreLaw start.config now ticket (final (storeStep convert) start first).tickets
        (final (storeStep convert) start (first ++ [.store file now ticket outcome])).tickets

/-- In every run of either store, all of whose calls are admitted, eviction is sound. -/
theorem evictsSoundly_of_admits (convert : MillisConversion) {start : SessionStore}
    (created : Created convert start) (positive : 0 < start.config.maxTickets)
    {events : List StoreEvent}
    (guarded : Guarded (storeStep convert) (Admits convert) start events) :
    EvictsSoundly convert start events := by
  have reached : ∀ first rest, events = first ++ rest →
      (final (storeStep convert) start first).config = start.config ∧
        (final (storeStep convert) start first).tickets.size ≤
          start.config.maxTickets.toNat := by
    rintro first rest rfl
    apply guarded.firstPart.invariant (fun sessions => sessions.config = start.config ∧
      sessions.tickets.size ≤ start.config.maxTickets.toNat) _ ⟨rfl, created.limit⟩
    rintro sessions event ⟨same, limit⟩ admits
    rw [← same] at positive limit ⊢
    exact ⟨config_storeStep sessions event, limit_storeStep positive limit admits⟩
  refine ⟨fun first rest split => (reached first rest split).2, ?_⟩
  rintro first file now ticket outcome rest rfl
  have admits := guarded_iff_forall_split.mp guarded first _ rest rfl
  have same := (reached first _ rfl).1
  have stepped : (final (storeStep convert) start
      (first ++ [.store file now ticket outcome])).tickets =
        storeTicket start.config now ticket (final (storeStep convert) start first).tickets := by
    rw [final_concat, ← same]
    exact tickets_store _ file now ticket outcome
  rw [stepped]
  apply storeLaw_of_hasRoom
  rw [← same]
  exact admits

end

/-! ## Runs that evict soundly, and runs that do not -/

namespace EvictionSample

/-- A ticket that was issued at some time and is valid for a millisecond. -/
def issued (serverId : Bytes) (time : TimePoint) : SessionTicket :=
  ⟨serverId, [], time, time + 1000000, 0, [], []⟩

/-- A limit of two tickets. -/
def two : SessionStoreConfig :=
  { SessionStoreConfig.default with maxTickets := 2 }

/-- Three servers send a ticket each; the first ticket makes room for the last. -/
def three : List StoreEvent :=
  [.store .absent 0 (issued [1] 0) .writes, .store .absent 1 (issued [2] 1) .writes,
    .store .absent 2 (issued [3] 2) .writes]

/-- A full store takes a new ticket of the server that it knows last. -/
def renewed : List StoreEvent :=
  [.store .absent 0 (issued [1] 0) .writes, .store .absent 1 (issued [2] 1) .writes,
    .store .absent 2 (issued [2] 2) .writes]

/-- A file with three tickets. -/
def crowdedFile : TicketFile :=
  .contents (serializeTickets ⟨[issued [1] 0, issued [2] 0, issued [3] 0], by decide⟩)

end EvictionSample

open EvictionSample in
theorem evictsSoundly_sample :
    Created .wrapping (.memory (.create two)) ∧ 0 < two.maxTickets ∧
      Guarded (storeStep .wrapping) (Admits .wrapping) (.memory (.create two)) three ∧
      EvictsSoundly .wrapping (.memory (.create two)) three := by
  have first : HasRoom two 0 (issued [1] 0) .empty := by decide
  have second : HasRoom two 1 (issued [2] 1) ⟨[issued [1] 0], by decide⟩ := by decide
  have third : HasRoom two 2 (issued [3] 2) ⟨[issued [1] 0, issued [2] 1], by decide⟩ := by decide
  have guarded : Guarded (storeStep .wrapping) (Admits .wrapping) (.memory (.create two)) three :=
    ⟨first, second, third, trivial⟩
  exact ⟨.memory two, by decide, guarded,
    evictsSoundly_of_admits .wrapping (.memory two) (by decide) guarded⟩

open EvictionSample in
set_option maxRecDepth 2000 in
/-- A ticket that is renewed in a full store drops another one; a load goes over the limit. -/
theorem eviction_breaks :
    ¬ EvictsSoundly .wrapping (.memory (.create two)) renewed ∧
      ¬ EvictsSoundly .wrapping (.file (.create .wrapping (.ample 0) two .absent))
        [.load (.ample 0) crowdedFile] := by
  constructor
  · intro sound
    rcases (sound.2 (renewed.take 2) .absent 2 (issued [2] 2) .writes [] rfl).others with
      ⟨dropped, others, why⟩
    have gone := others [1] (by decide)
    cases dropped with
    | none => exact absurd gone (by decide)
    | some ticket => exact absurd (why ticket rfl).2.1 (by decide)
  · intro sound
    exact absurd (sound.1 [.load (.ample 0) crowdedFile] [] rfl) (by decide)

end FileTrans.Transport
