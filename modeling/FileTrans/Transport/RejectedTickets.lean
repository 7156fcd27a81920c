import FileTrans.Transport.TicketFile
import FileTrans.Transition.Run

/-!
# Rejected tickets

A ticket that the server rejected is removed from the map, not from the file.
It stays away as long as the file is written before it is read again.
-/

namespace FileTrans.Transport

open FileTrans.Core FileTrans.Binary FileTrans.Collections FileTrans.Transition
open SessionResumptionManager (makeServerId)

/-! ## Runs of a manager -/

/-- A process with a manager and its file, and the servers whose tickets were removed since the
file was written. -/
structure ResumptionProcess where
  manager : SessionResumptionManager
  file : TicketFile
  unsaved : List Bytes

/-- A call, with the times it meets; or a crash, after which the file is opened again. -/
inductive ResumptionEvent where
  | storeTicket (issuedAt now : TimePoint) (host : Bytes) (port : UInt16) (ticketData : Bytes)
      (lifetime : Option Int64) (maxEarlyData : UInt32) (alpn : Bytes)
  | getTicketForServer (now later : TimePoint) (host : Bytes) (port : UInt16)
  | on0rttRejected (host : Bytes) (port : UInt16)
  | remove (serverId : Bytes)
  | save
  | load (env : LoadEnvironment)
  | crash (env : LoadEnvironment)
  | rehash (order : List SessionTicket)

namespace ResumptionEvent

/-- The server whose ticket is stored. -/
def stores : ResumptionEvent → Option Bytes
  | .storeTicket _ _ host port .. => some (makeServerId host port)
  | _ => none

/-- The server whose ticket is removed. -/
def removes : ResumptionEvent → Option Bytes
  | .on0rttRejected host port => some (makeServerId host port)
  | .remove serverId => some serverId
  | _ => none

/-- What is met when the file is read. -/
def reads : ResumptionEvent → Option LoadEnvironment
  | .load env => some env
  | .crash env => some env
  | _ => none

end ResumptionEvent

namespace ResumptionProcess

/-- The map of the store. -/
def tickets (process : ResumptionProcess) : TicketTable :=
  process.manager.store.tickets

/-- The process with another store. -/
def withStore (process : ResumptionProcess) (store : FileSessionStore) : ResumptionProcess :=
  { process with manager := { process.manager with store } }

/-- The process when the file was written. -/
def written (process : ResumptionProcess) (store : FileSessionStore) (file : TicketFile) :
    ResumptionProcess :=
  ⟨{ process.manager with store }, file, []⟩

/-- The unordered map is iterated in another order. -/
def rehash (process : ResumptionProcess) (order : List SessionTicket) : ResumptionProcess :=
  if perm : order.Perm process.tickets.entries then
    process.withStore { process.manager.store with
      tickets := process.tickets.reorder order perm }
  else process

/-- A process that opens a file. -/
def opened (convert : MillisConversion) (env : LoadEnvironment) (config : SessionResumptionConfig)
    (file : TicketFile) : ResumptionProcess :=
  ⟨.create convert env config file, file, []⟩

end ResumptionProcess

open ResumptionProcess in
/-- One call; every write of the file succeeds. -/
def resumptionStep (convert : MillisConversion) (sum : LifetimeSum) :
    Step ResumptionProcess ResumptionEvent (Option Bytes) :=
  fun process event => match event with
  | .storeTicket issuedAt now host port ticketData lifetime maxEarlyData alpn =>
      let stored := (process.manager.storeTicket sum process.file issuedAt now host port ticketData
        lifetime maxEarlyData alpn .writes).2
      (none, process.written stored.1.store stored.2)
  | .getTicketForServer now later host port =>
      let asked := process.manager.getTicketForServer now later host port
      (asked.1, { process with manager := asked.2 })
  | .on0rttRejected host port =>
      (none, { process with
        manager := process.manager.on0rttRejected host port
        unsaved := makeServerId host port :: process.unsaved })
  | .remove serverId =>
      (none, { process.withStore (process.manager.store.remove serverId).2 with
        unsaved := serverId :: process.unsaved })
  | .save =>
      let saved := (process.manager.store.save process.file .writes).2
      (none, process.written saved.1 saved.2)
  | .load env => (none, process.withStore (process.manager.store.load convert env process.file).2)
  | .crash env =>
      (none, { process with manager := .create convert env process.manager.config process.file })
  | .rehash order => (none, process.rehash order)

/-- No ticket is returned for a server after its ticket was removed, until one is stored again. -/
def StaysRejected (convert : MillisConversion) (sum : LifetimeSum) (start : ResumptionProcess)
    (events : List ResumptionEvent) : Prop :=
  ∀ before removing middle now later host port rest,
    events = before ++ removing :: (middle ++ .getTicketForServer now later host port :: rest) →
    removing.removes = some (makeServerId host port) →
    (∀ event ∈ middle, event.stores ≠ some (makeServerId host port)) →
    (resumptionStep convert sum
      (final (resumptionStep convert sum) start (before ++ removing :: middle))
      (.getTicketForServer now later host port)).1 = none

/-! ## The servers of a map and of a file -/

/-- The servers that have a ticket in the map. -/
def servers (tickets : TicketTable) : List Bytes :=
  tickets.entries.map SessionTicket.serverId

/-- The servers of the tickets that a load puts into the map. -/
def TicketFile.servers (convert : MillisConversion) (env : LoadEnvironment) :
    TicketFile → List Bytes
  | .contents bytes => (insertions convert env bytes).map SessionTicket.serverId
  | .absent | .unreadable => []

/-- The file is not read while it has a ticket that was removed since it was written; and no
name of a server is too long for the file. -/
def Durable (convert : MillisConversion) (process : ResumptionProcess) : ResumptionEvent → Prop
  | .storeTicket _ _ host port .. => (makeServerId host port).length < 2 ^ 32
  | .load env | .crash env =>
      ∀ serverId ∈ process.unsaved, serverId ∉ process.file.servers convert env
  | _ => True

section

variable {convert : MillisConversion} {env : LoadEnvironment} {config : SessionStoreConfig}
  {tickets : TicketTable} {serverId : Bytes}

theorem find_eq_none_iff_not_mem_servers :
    tickets.find serverId = none ↔ serverId ∉ servers tickets :=
  Table.find_eq_none_iff_not_mem

theorem servers_keep_subset (test : SessionTicket → Bool) :
    servers (tickets.keep test) ⊆ servers tickets :=
  (List.filter_sublist.map _).subset

theorem not_mem_servers_erase : serverId ∉ servers (tickets.erase serverId) :=
  find_eq_none_iff_not_mem_servers.mp Table.find_erase

theorem servers_makeRoom_subset (now : TimePoint) :
    servers (makeRoom config now tickets) ⊆ servers tickets := by
  rw [makeRoom]
  split
  · split
    · exact servers_keep_subset _
    · exact List.Subset.refl _
  · exact List.Subset.refl _

variable {ticket : SessionTicket} {stream : InputStream}

theorem mem_servers_storeTicket {now : TimePoint}
    (mem : serverId ∈ servers (storeTicket config now ticket tickets)) :
    serverId = ticket.serverId ∨ serverId ∈ servers tickets := by
  rcases List.mem_map.mp mem with ⟨found, there, rfl⟩
  rcases Table.mem_insert.mp there with rfl | ⟨old, -⟩
  · exact .inl rfl
  · exact .inr (servers_makeRoom_subset now (List.mem_map.mpr ⟨found, old, rfl⟩))

theorem servers_retrieveTicket_subset (config : SessionStoreConfig) (now : TimePoint)
    (wanted : Bytes) (tickets : TicketTable) :
    servers (retrieveTicket config now wanted tickets).2 ⊆ servers tickets := by
  rw [retrieveTicket]
  split
  · exact List.Subset.refl _
  · split
    · exact servers_keep_subset _
    · split
      · exact servers_keep_subset _
      · exact List.Subset.refl _

theorem mem_servers_load {sessions : FileSessionStore} {file : TicketFile}
    (mem : serverId ∈ servers (sessions.load convert env file).2.tickets) :
    serverId ∈ servers sessions.tickets ∨ serverId ∈ file.servers convert env := by
  cases file with
  | absent => exact .inl mem
  | unreadable => exact .inl mem
  | contents bytes =>
      cases start : ticketsStart bytes with
      | none =>
          rcases load_of_no_start convert env sessions start with same | emptied
          · rw [same] at mem
            exact .inl mem
          · rw [emptied] at mem
            contradiction
      | some result =>
          rw [load_of_start convert env sessions start] at mem
          rcases Table.mem_map_insertAll.mp mem with old | inserted
          · contradiction
          · exact .inr inserted

theorem length_of_deserializeString {allocates : Nat → Nat → Bool} {next : InputStream}
    {text : Bytes} (read : deserializeString allocates stream = some (text, next)) :
    text.length < 2 ^ 32 := by
  rcases Parser.bind_eq_some_iff.mp read with ⟨len, _, -, buffered⟩
  rcases Parser.bind_eq_some_iff.mp buffered with ⟨_, last, -, taken⟩
  have same : (last.read len.toNat).1 = text := congrArg Prod.fst (Option.some.inj taken)
  rw [← same, InputStream.length_read]
  exact len.toNat_lt

theorem length_of_deserializeTicket {allocates : Nat → Nat → Bool} {next : InputStream}
    (read : deserializeTicket convert allocates stream = some (ticket, next)) :
    ticket.serverId.length < 2 ^ 32 := by
  simp only [deserializeTicket, Parser.bind_eq_some_iff] at read
  rcases read with ⟨serverId, _, named, _, _, _, _, _, _, _, _, _, _, _, _, _, _, _, _, _, _, made⟩
  rw [← (Prod.mk.inj (Option.some.inj made)).1]
  exact length_of_deserializeString named

theorem length_of_mem_loadTickets {count : Nat}
    (mem : ticket ∈ (loadTickets convert env count stream).1) :
    ticket.serverId.length < 2 ^ 32 := by
  induction count generalizing stream with
  | zero => contradiction
  | succ count ih =>
      rw [loadTickets] at mem
      split at mem
      · contradiction
      · split at mem
        · contradiction
        · rename_i read
          dsimp only at mem
          split at mem
          · rcases List.mem_cons.mp mem with rfl | later
            · exact length_of_deserializeTicket read
            · exact ih later
          · exact ih mem

theorem length_of_mem_servers {file : TicketFile} (mem : serverId ∈ file.servers convert env) :
    serverId.length < 2 ^ 32 := by
  cases file with
  | absent => contradiction
  | unreadable => contradiction
  | contents bytes =>
      rcases List.mem_map.mp mem with ⟨ticket, inserted, rfl⟩
      rw [insertions] at inserted
      split at inserted
      · contradiction
      · exact length_of_mem_loadTickets inserted

theorem servers_serializeTickets_subset
    (short : ∀ serverId ∈ servers tickets, serverId.length < 2 ^ 32) :
    (TicketFile.contents (serializeTickets tickets)).servers convert env ⊆ servers tickets := by
  intro serverId mem
  rcases List.mem_map.mp mem with ⟨ticket, inserted, rfl⟩
  have fits : tickets.size % 2 ^ 32 ≤ (tickets.entries.map SessionTicket.toRecord).length := by
    rw [List.length_map]
    exact Nat.mod_le _ _
  have counted := (loadTickets_records convert env
    (tickets.entries.map SessionTicket.toRecord) [] fits).1
  rw [List.append_nil] at counted
  rw [insertions, ticketsStart_serializeTickets] at inserted
  rcases List.mem_map.mp (counted inserted) with ⟨record, taken, rfl⟩
  rcases List.mem_map.mp (List.mem_of_mem_take taken) with ⟨original, there, rfl⟩
  have name : original.serverId ∈ servers tickets := List.mem_map_of_mem there
  rw [TicketRecord.toTicket, SessionTicket.toRecord, ShortBytes.cut_eq_self (short _ name)]
  exact name

end

/-! ## What a step does -/

section

variable {convert : MillisConversion} {sum : LifetimeSum} {process : ResumptionProcess}
  {event : ResumptionEvent} {serverId : Bytes}

theorem servers_getTicketForServer_subset {manager : SessionResumptionManager}
    (now later : TimePoint) (host : Bytes) (port : UInt16) :
    servers (manager.getTicketForServer now later host port).2.store.tickets ⊆
      servers manager.store.tickets := by
  have retrieved := servers_retrieveTicket_subset manager.store.config now
    (makeServerId host port) manager.store.tickets
  rw [SessionResumptionManager.getTicketForServer]
  split
  · exact List.Subset.refl _
  · dsimp only [FileSessionStore.retrieve]
    split
    · exact retrieved
    · split
      · exact retrieved
      · exact retrieved

theorem getTicketForServer_eq_none {manager : SessionResumptionManager} {now later : TimePoint}
    {host : Bytes} {port : UInt16}
    (absent : makeServerId host port ∉ servers manager.store.tickets) :
    (manager.getTicketForServer now later host port).1 = none := by
  have missing := find_eq_none_iff_not_mem_servers.mpr absent
  rw [SessionResumptionManager.getTicketForServer]
  split
  · rfl
  · simp [FileSessionStore.retrieve, retrieveTicket, missing]

theorem servers_rehash (order : List SessionTicket) :
    (servers (process.rehash order).tickets).Perm (servers process.tickets) := by
  rw [ResumptionProcess.rehash]
  split
  · rename_i perm
    exact perm.map SessionTicket.serverId
  · exact List.Perm.refl _

theorem mem_servers_step
    (mem : serverId ∈ servers (resumptionStep convert sum process event).2.tickets) :
    serverId ∈ servers process.tickets ∨ event.stores = some serverId ∨
      ∃ env, event.reads = some env ∧ serverId ∈ process.file.servers convert env := by
  cases event with
  | storeTicket issuedAt now host port ticketData lifetime maxEarlyData alpn =>
      rcases mem_servers_storeTicket mem with rfl | old
      · exact .inr (.inl rfl)
      · exact .inl old
  | getTicketForServer now later host port =>
      exact .inl (servers_getTicketForServer_subset now later host port mem)
  | on0rttRejected host port => exact .inl (servers_keep_subset _ mem)
  | remove other => exact .inl (servers_keep_subset _ mem)
  | save => exact .inl mem
  | load env =>
      rcases mem_servers_load mem with old | inserted
      · exact .inl old
      · exact .inr (.inr ⟨env, rfl, inserted⟩)
  | crash env =>
      rcases mem_servers_load mem with old | inserted
      · contradiction
      · exact .inr (.inr ⟨env, rfl, inserted⟩)
  | rehash order => exact .inl ((servers_rehash order).subset mem)

variable (convert sum process event) in
theorem file_step :
    (resumptionStep convert sum process event).2.file = process.file ∧
        process.unsaved ⊆ (resumptionStep convert sum process event).2.unsaved ∨
      (resumptionStep convert sum process event).2.file =
        .contents (serializeTickets (resumptionStep convert sum process event).2.tickets) := by
  cases event with
  | storeTicket issuedAt now host port ticketData lifetime maxEarlyData alpn => exact .inr rfl
  | getTicketForServer now later host port => exact .inl ⟨rfl, List.Subset.refl _⟩
  | on0rttRejected host port => exact .inl ⟨rfl, List.subset_cons_self _ _⟩
  | remove other => exact .inl ⟨rfl, List.subset_cons_self _ _⟩
  | save => exact .inr rfl
  | load env => exact .inl ⟨rfl, List.Subset.refl _⟩
  | crash env => exact .inl ⟨rfl, List.Subset.refl _⟩
  | rehash order =>
      simp only [resumptionStep, ResumptionProcess.rehash]
      split
      · exact .inl ⟨rfl, List.Subset.refl _⟩
      · exact .inl ⟨rfl, List.Subset.refl _⟩

/-! ## Removed tickets -/

/-- The names of the servers in the map are short enough for the file. -/
def NamesFit (process : ResumptionProcess) : Prop :=
  ∀ serverId ∈ servers process.tickets, serverId.length < 2 ^ 32

/-- The server has no ticket in the map, and none in the file that is not known to be removed. -/
structure Gone (convert : MillisConversion) (serverId : Bytes) (process : ResumptionProcess) :
    Prop where
  notHeld : serverId ∉ servers process.tickets
  notSaved : serverId ∈ process.unsaved ∨ ∀ env, serverId ∉ process.file.servers convert env

theorem namesFit_step (fit : NamesFit process) (durable : Durable convert process event) :
    NamesFit (resumptionStep convert sum process event).2 := by
  intro serverId mem
  rcases mem_servers_step mem with old | stored | ⟨env, -, inserted⟩
  · exact fit serverId old
  · cases event with
    | storeTicket issuedAt now host port ticketData lifetime maxEarlyData alpn =>
        rw [← Option.some.inj stored]
        exact durable
    | _ => contradiction
  · exact length_of_mem_servers inserted

theorem namesFit_opened (env : LoadEnvironment) (config : SessionResumptionConfig)
    (file : TicketFile) : NamesFit (.opened convert env config file) := by
  intro serverId mem
  rcases mem_servers_load mem with old | inserted
  · contradiction
  · exact length_of_mem_servers inserted

theorem Gone.not_mem_of_reads {env : LoadEnvironment} (gone : Gone convert serverId process)
    (durable : Durable convert process event) (reads : event.reads = some env) :
    serverId ∉ process.file.servers convert env := by
  have clean : ∀ serverId ∈ process.unsaved, serverId ∉ process.file.servers convert env := by
    cases event with
    | load met =>
        rw [← Option.some.inj reads]
        exact durable
    | crash met =>
        rw [← Option.some.inj reads]
        exact durable
    | _ => contradiction
  rcases gone.notSaved with unsaved | missing
  · exact clean serverId unsaved
  · exact missing env

theorem Gone.step (gone : Gone convert serverId process) (fit : NamesFit process)
    (durable : Durable convert process event) (other : event.stores ≠ some serverId) :
    Gone convert serverId (resumptionStep convert sum process event).2 := by
  have notHeld : serverId ∉ servers (resumptionStep convert sum process event).2.tickets := by
    intro mem
    rcases mem_servers_step mem with old | stored | ⟨env, reads, inserted⟩
    · exact gone.notHeld old
    · exact other stored
    · exact gone.not_mem_of_reads durable reads inserted
  refine ⟨notHeld, ?_⟩
  rcases file_step convert sum process event with ⟨same, kept⟩ | written
  · rw [same]
    exact gone.notSaved.imp_left (kept ·)
  · right
    intro env mem
    rw [written] at mem
    exact notHeld (servers_serializeTickets_subset (namesFit_step fit durable) mem)

theorem gone_of_removes (removes : event.removes = some serverId) :
    Gone convert serverId (resumptionStep convert sum process event).2 := by
  cases event with
  | on0rttRejected host port =>
      cases Option.some.inj removes
      exact ⟨not_mem_servers_erase, .inl List.mem_cons_self⟩
  | remove removed =>
      cases Option.some.inj removes
      exact ⟨not_mem_servers_erase, .inl List.mem_cons_self⟩
  | _ => contradiction

end

/-- In every run that reads the file only without removals to save, rejected tickets stay away. -/
theorem staysRejected_of_durable (convert : MillisConversion) (sum : LifetimeSum)
    (env : LoadEnvironment) (config : SessionResumptionConfig) (file : TicketFile)
    {events : List ResumptionEvent}
    (guarded : Guarded (resumptionStep convert sum) (Durable convert)
      (.opened convert env config file) events) :
    StaysRejected convert sum (.opened convert env config file) events := by
  rintro before removing middle now later host port rest rfl removes notStored
  apply getTicketForServer_eq_none
  rw [guarded_append_iff, guarded_cons_iff, guarded_append_iff] at guarded
  rcases guarded with ⟨first, removed, between, -⟩
  have fit : NamesFit (final (resumptionStep convert sum) (.opened convert env config file)
      before) :=
    first.invariant NamesFit (fun _ _ fit durable => namesFit_step fit durable)
      (namesFit_opened env config file)
  have kept := (between.and_mem notStored).invariant
    (fun process => NamesFit process ∧ Gone convert (makeServerId host port) process)
    (fun process event holds allowed =>
      ⟨namesFit_step holds.1 allowed.1, holds.2.step holds.1 allowed.1 allowed.2⟩)
    ⟨namesFit_step fit removed, gone_of_removes removes⟩
  rw [final_append, final_cons]
  exact kept.2.notHeld

/-! ## Runs in which rejected tickets stay away, and come back -/

namespace RejectedSample

/-- The host of a server. -/
def host : Bytes :=
  [0x61]

/-- A process without a file. -/
def start : ResumptionProcess :=
  .opened .wrapping (.ample 0) .default .absent

/-- A ticket for early data. -/
def stored : ResumptionEvent :=
  .storeTicket 0 0 host 443 [7] none 16384 []

/-- Ask for the ticket of the server. -/
def asked : ResumptionEvent :=
  .getTicketForServer 0 0 host 443

/-- The server rejects its ticket, and the tickets are saved before a crash. -/
def saved : List ResumptionEvent :=
  [stored, .on0rttRejected host 443, .save, .crash (.ample 0), asked]

/-- The server rejects its ticket, and the process crashes. -/
def crashed : List ResumptionEvent :=
  [stored, .on0rttRejected host 443, .crash (.ample 0), asked]

/-- The server rejects its ticket, and the file is loaded. -/
def reloaded : List ResumptionEvent :=
  [stored, .on0rttRejected host 443, .load (.ample 0), asked]

end RejectedSample

open RejectedSample in
theorem staysRejected_sample :
    Guarded (resumptionStep .wrapping .wrapping) (Durable .wrapping) start saved ∧
      StaysRejected .wrapping .wrapping start saved := by
  have short : (makeServerId host 443).length < 2 ^ 32 := by decide
  have guarded : Guarded (resumptionStep .wrapping .wrapping) (Durable .wrapping) start saved :=
    ⟨short, trivial, trivial, List.forall_mem_nil _, trivial, trivial⟩
  exact ⟨guarded, staysRejected_of_durable .wrapping .wrapping (.ample 0) .default .absent guarded⟩

open RejectedSample in
set_option maxRecDepth 2000 in
/-- A rejected ticket comes back from the file after a crash, and when the file is loaded. -/
theorem rejected_returns :
    ¬ StaysRejected .wrapping .wrapping start crashed ∧
      ¬ StaysRejected .wrapping .wrapping start reloaded := by
  constructor
  · intro stays
    exact absurd (stays [stored] (.on0rttRejected host 443) [.crash (.ample 0)] 0 0 host 443 []
      rfl rfl (by simp [ResumptionEvent.stores])) (by decide)
  · intro stays
    exact absurd (stays [stored] (.on0rttRejected host 443) [.load (.ample 0)] 0 0 host 443 []
      rfl rfl (by simp [ResumptionEvent.stores])) (by decide)

end FileTrans.Transport
