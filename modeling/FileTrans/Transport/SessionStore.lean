import FileTrans.Collections.Table
import FileTrans.Transport.SessionTicket

/-!
# Session stores

The two stores keep their tickets in an unordered map under the server of the
ticket, and share the rules for making room, for retrieving and for cleaning
up.  The file store writes the tickets to a file after every `store`; what it
removes is written with the next one, or by `save`.  The path of the file is
never empty: without a path there is no file store.

The manager keeps the tickets of its servers in a file store, under the host
and the port of the server.
-/

namespace FileTrans.Transport

open FileTrans.Core FileTrans.Binary FileTrans.Collections

/-- `unordered_map<string, session_ticket>`, in the order of an iteration. -/
abbrev TicketTable := Table SessionTicket.serverId

/-- `session_store_config`, as far as the stores read it; times are in seconds. -/
structure SessionStoreConfig where
  maxTickets : UInt64
  defaultLifetime : Int64
  minRemainingLifetime : Int64
  deriving DecidableEq

/-- The default of `session_store_config`. -/
def SessionStoreConfig.default : SessionStoreConfig where
  maxTickets := 1000
  defaultLifetime := 7 * 24 * 3600
  minRemainingLifetime := 60

/-! ## What the stores share -/

/-- The loop of `store` that looks for the ticket to remove: the first one that is not valid, or
one that was issued first. -/
def findOldest (now : TimePoint) :
    List SessionTicket → Option SessionTicket → TimePoint → Option SessionTicket
  | [], oldest, _ => oldest
  | ticket :: rest, oldest, oldestTime =>
      if ¬ ticket.isValid now then some ticket
      else if ticket.issuedAt < oldestTime then findOldest now rest (some ticket) ticket.issuedAt
      else findOldest now rest oldest oldestTime

/-- The ticket that `store` removes from a full map. -/
def oldestTicket (now : TimePoint) (tickets : TicketTable) : Option SessionTicket :=
  findOldest now tickets.entries none .max

/-- The map has as many tickets as it may have. -/
def isFull (config : SessionStoreConfig) (tickets : TicketTable) : Prop :=
  config.maxTickets > 0 ∧ config.maxTickets.toNat ≤ tickets.size

instance (config : SessionStoreConfig) (tickets : TicketTable) :
    Decidable (isFull config tickets) :=
  inferInstanceAs (Decidable (_ ∧ _))

/-- The check of the capacity in `store`. -/
def makeRoom (config : SessionStoreConfig) (now : TimePoint) (tickets : TicketTable) :
    TicketTable :=
  if isFull config tickets then
    match oldestTicket now tickets with
    | some oldest => tickets.erase oldest.serverId
    | none => tickets
  else tickets

/-- The map after `store`. -/
def storeTicket (config : SessionStoreConfig) (now : TimePoint) (ticket : SessionTicket)
    (tickets : TicketTable) : TicketTable :=
  (makeRoom config now tickets).insert ticket

/-- The ticket that `retrieve` gives, and the map after it. -/
def retrieveTicket (config : SessionStoreConfig) (now : TimePoint) (serverId : Bytes)
    (tickets : TicketTable) : Option SessionTicket × TicketTable :=
  match tickets.find serverId with
  | none => (none, tickets)
  | some ticket =>
      if ¬ ticket.isValid now then (none, tickets.erase serverId)
      else if ticket.timeUntilExpiry now < config.minRemainingLifetime.toInt then
        (none, tickets.erase serverId)
      else (some ticket, tickets)

/-- The map after `cleanup_expired`. -/
def cleanupTickets (now : TimePoint) (tickets : TicketTable) : TicketTable :=
  tickets.keep fun ticket => ¬ ticket.expiresAt ≤ now

/-! ## The store in memory -/

structure MemorySessionStore where
  config : SessionStoreConfig
  tickets : TicketTable

namespace MemorySessionStore

def create (config : SessionStoreConfig) : MemorySessionStore :=
  ⟨config, .empty⟩

def store (sessions : MemorySessionStore) (now : TimePoint) (ticket : SessionTicket) :
    Result Unit × MemorySessionStore :=
  (.ok (), { sessions with tickets := storeTicket sessions.config now ticket sessions.tickets })

def retrieve (sessions : MemorySessionStore) (now : TimePoint) (serverId : Bytes) :
    Option SessionTicket × MemorySessionStore :=
  let found := retrieveTicket sessions.config now serverId sessions.tickets
  (found.1, { sessions with tickets := found.2 })

def remove (sessions : MemorySessionStore) (serverId : Bytes) : Bool × MemorySessionStore :=
  ((sessions.tickets.find serverId).isSome,
    { sessions with tickets := sessions.tickets.erase serverId })

def cleanupExpired (sessions : MemorySessionStore) (now : TimePoint) : Nat × MemorySessionStore :=
  let left := cleanupTickets now sessions.tickets
  (sessions.tickets.size - left.size, { sessions with tickets := left })

def clear (sessions : MemorySessionStore) : MemorySessionStore :=
  { sessions with tickets := .empty }

end MemorySessionStore

/-! ## The store in a file -/

/-- What is at the path of the store. -/
inductive TicketFile where
  | absent
  | unreadable
  | contents (bytes : Bytes)

/-- What becomes of an attempt to write the file; one that fails leaves the file as it is. -/
inductive SaveOutcome where
  | writes
  | cannotOpen
  | throws (what : Bytes)

/-- What `load` meets: the time, the memory that can be had, depending on what is left to read,
and the text of the exception where there is none. -/
structure LoadEnvironment where
  now : TimePoint
  allocates : Nat → Nat → Bool
  what : Bytes

/-- Memory for every buffer. -/
def LoadEnvironment.ample (now : TimePoint) : LoadEnvironment :=
  ⟨now, fun _ _ => true, []⟩

/-- `MAGIC`. -/
def magicNumber : UInt32 := 0x51534553

/-- `VERSION`. -/
def formatVersion : UInt32 := 1

/-- What `save_internal` writes; the number of tickets is cast to 32 bits. -/
def serializeTickets (tickets : TicketTable) : Bytes :=
  uint32.encode magicNumber ++ uint32.encode formatVersion ++
    uint32.encode (UInt32.ofNat tickets.size) ++ tickets.entries.flatMap serializeTicket

/-- A value of fixed width at the front of the stream. -/
def deserializeValue {α : Type} (representation : Representation α) (stream : InputStream) :
    α × InputStream :=
  let read := stream.read representation.width
  (representation.decode read.1, read.2)

/-- The loop of `load_internal`: the tickets that it puts into the map, and whether it ends
without an exception. -/
def loadTickets (convert : MillisConversion) (env : LoadEnvironment) :
    Nat → InputStream → List SessionTicket × Bool
  | 0, _ => ([], true)
  | count + 1, stream =>
      if ¬ stream.good then ([], true)
      else
        match deserializeTicket convert env.allocates stream with
        | none => ([], false)
        | some (ticket, next) =>
            let rest := loadTickets convert env count next
            (if ticket.isValid env.now then ticket :: rest.1 else rest.1, rest.2)

structure FileSessionStore where
  config : SessionStoreConfig
  tickets : TicketTable
  dirty : Bool

namespace FileSessionStore

def saveInternal (sessions : FileSessionStore) (file : TicketFile) (outcome : SaveOutcome) :
    Result Unit × FileSessionStore × TicketFile :=
  match outcome with
  | .writes => (.ok (), { sessions with dirty := false },
      .contents (serializeTickets sessions.tickets))
  | .cannotOpen =>
      (unexpected .fileWriteError "Failed to open session file for writing", sessions, file)
  | .throws what =>
      (.error ⟨.fileWriteError, Text.ascii "Failed to save session tickets: " ++ what⟩,
        sessions, file)

def loadInternal (convert : MillisConversion) (env : LoadEnvironment)
    (sessions : FileSessionStore) (file : TicketFile) : Result Unit × FileSessionStore :=
  match file with
  | .absent => (.ok (), sessions)
  | .unreadable =>
      (unexpected .fileReadError "Failed to open session file for reading", sessions)
  | .contents bytes =>
      let (magic, stream) := deserializeValue uint32 ⟨bytes, true⟩
      if magic ≠ magicNumber then
        (unexpected .invalidConfiguration "Invalid session file format", sessions)
      else
        let (version, stream) := deserializeValue uint32 stream
        if version ≠ formatVersion then (.ok (), { sessions with tickets := .empty })
        else
          let (count, stream) := deserializeValue uint32 stream
          let (loaded, finished) := loadTickets convert env count.toNat stream
          let sessions := { sessions with tickets := Table.empty.insertAll loaded }
          if finished then (.ok (), sessions)
          else (.error ⟨.fileReadError, Text.ascii "Failed to load session tickets: " ++ env.what⟩,
            sessions)

/-- `file_session_store::create`; the result of the load is ignored. -/
def create (convert : MillisConversion) (env : LoadEnvironment) (config : SessionStoreConfig)
    (file : TicketFile) : FileSessionStore :=
  (loadInternal convert env ⟨config, .empty, false⟩ file).2

/-- `file_session_store::store`; whether the tickets were saved does not matter to the result. -/
def store (sessions : FileSessionStore) (file : TicketFile) (now : TimePoint)
    (ticket : SessionTicket) (outcome : SaveOutcome) :
    Result Unit × FileSessionStore × TicketFile :=
  let stored := { sessions with
    tickets := storeTicket sessions.config now ticket sessions.tickets, dirty := true }
  (.ok (), (stored.saveInternal file outcome).2)

def retrieve (sessions : FileSessionStore) (now : TimePoint) (serverId : Bytes) :
    Option SessionTicket × FileSessionStore :=
  let found := retrieveTicket sessions.config now serverId sessions.tickets
  (found.1, { sessions with
    tickets := found.2
    dirty := sessions.dirty || (found.1.isNone && (sessions.tickets.find serverId).isSome) })

def remove (sessions : FileSessionStore) (serverId : Bytes) : Bool × FileSessionStore :=
  let erased := (sessions.tickets.find serverId).isSome
  (erased, { sessions with
    tickets := sessions.tickets.erase serverId, dirty := sessions.dirty || erased })

def cleanupExpired (sessions : FileSessionStore) (now : TimePoint) : Nat × FileSessionStore :=
  let left := cleanupTickets now sessions.tickets
  let removed := sessions.tickets.size - left.size
  (removed, { sessions with tickets := left, dirty := sessions.dirty || removed > 0 })

def clear (sessions : FileSessionStore) : FileSessionStore :=
  { sessions with tickets := .empty, dirty := true }

def save (sessions : FileSessionStore) (file : TicketFile) (outcome : SaveOutcome) :
    Result Unit × FileSessionStore × TicketFile :=
  sessions.saveInternal file outcome

def load (convert : MillisConversion) (env : LoadEnvironment) (sessions : FileSessionStore)
    (file : TicketFile) : Result Unit × FileSessionStore :=
  sessions.loadInternal convert env file

end FileSessionStore

/-! ## The session resumption manager -/

/-- A point in time some seconds later; what it is is only known where nothing overflows. -/
structure LifetimeSum where
  add : TimePoint → Int64 → TimePoint
  exact : ∀ (issuedAt : TimePoint) (lifetime : Int64),
    -2 ^ 63 ≤ lifetime.toInt * 1000000000 → lifetime.toInt * 1000000000 < 2 ^ 63 →
    -2 ^ 63 ≤ issuedAt.toInt + lifetime.toInt * 1000000000 →
    issuedAt.toInt + lifetime.toInt * 1000000000 < 2 ^ 63 →
    (add issuedAt lifetime).toInt = issuedAt.toInt + lifetime.toInt * 1000000000

/-- The sum that wraps around. -/
def LifetimeSum.wrapping : LifetimeSum where
  add issuedAt lifetime := issuedAt + lifetime * 1000000000
  exact issuedAt lifetime low high least most := by
    have factor : (1000000000 : Int64).toInt = 1000000000 := rfl
    have product : (lifetime * 1000000000).toInt = lifetime.toInt * 1000000000 := by
      rw [Int64.toInt_mul, factor]
      exact Int.bmod_eq_of_le (by omega) (by omega)
    rw [Int64.toInt_add, product]
    exact Int.bmod_eq_of_le (by omega) (by omega)

structure SessionResumptionConfig where
  enable0rtt : Bool
  storeConfig : SessionStoreConfig

/-- The default of `session_resumption_config`. -/
def SessionResumptionConfig.default : SessionResumptionConfig where
  enable0rtt := true
  storeConfig := .default

/-- `session_resumption_manager`, with a store in a file. -/
structure SessionResumptionManager where
  config : SessionResumptionConfig
  store : FileSessionStore

namespace SessionResumptionManager

def makeServerId (host : Bytes) (port : UInt16) : Bytes :=
  host ++ Text.ascii ":" ++ Text.decimal port.toNat

def create (convert : MillisConversion) (env : LoadEnvironment) (config : SessionResumptionConfig)
    (file : TicketFile) : SessionResumptionManager :=
  ⟨config, .create convert env config.storeConfig file⟩

/-- `get_ticket_for_server`; the clock is read again for `allows_early_data`. -/
def getTicketForServer (manager : SessionResumptionManager) (now later : TimePoint) (host : Bytes)
    (port : UInt16) : Option Bytes × SessionResumptionManager :=
  if ¬ manager.config.enable0rtt then (none, manager)
  else
    let (ticket, store) := manager.store.retrieve now (makeServerId host port)
    match ticket with
    | none => (none, { manager with store })
    | some ticket =>
        if ¬ ticket.allowsEarlyData later then (none, { manager with store })
        else (some ticket.ticketData, { manager with store })

/-- `store_ticket`; the time is that of the ticket, and that of `store`. -/
def storeTicket (sum : LifetimeSum) (manager : SessionResumptionManager) (file : TicketFile)
    (issuedAt now : TimePoint) (host : Bytes) (port : UInt16) (ticketData : Bytes)
    (lifetime : Option Int64) (maxEarlyData : UInt32) (alpn : Bytes) (outcome : SaveOutcome) :
    Result Unit × SessionResumptionManager × TicketFile :=
  let ticket : SessionTicket := {
    serverId := makeServerId host port
    ticketData
    issuedAt
    expiresAt := sum.add issuedAt (lifetime.getD manager.config.storeConfig.defaultLifetime)
    maxEarlyDataSize := maxEarlyData
    alpnProtocol := alpn
    serverName := host }
  let (result, store, file) := manager.store.store file now ticket outcome
  (result, { manager with store }, file)

def on0rttRejected (manager : SessionResumptionManager) (host : Bytes) (port : UInt16) :
    SessionResumptionManager :=
  { manager with store := (manager.store.remove (makeServerId host port)).2 }

end SessionResumptionManager

end FileTrans.Transport
