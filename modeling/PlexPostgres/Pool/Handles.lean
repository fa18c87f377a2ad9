import PlexPostgres.Pool.Acquire

/-!
# What a handle does with the pool

A SQLite handle is mapped to a slot when it is used (`pool_lookup.rs`), gives the slot back when
it is closed and has its connection checked after an error (`pool_runtime.rs`), and runs its
transactions on the connection they are pinned to, or on the one it finds (`txn.rs`).

The threads of the process call these programs and the acquisition itself, any number of them at
the same time: `system` is what they do to the pool, one atomic operation at a time.
-/

namespace PlexPostgres.Pool

open Txn (ConnId DbId TxnCmd)
open Threads.Prog (onlyIf firstOf)

/-- Map a handle to a slot if the slot holds the connection. -/
def trackHandle (db : DbId) (conn : ConnId) (i : ℕ) : Prog (Option Unit) := do
  let held ← loadConn i
  if held = conn then
    aside (.assign db i)
    pure (some ())
  else pure none

/-- What the thread's cache says of the slot is said of the handle from now on. -/
def retagCache (db : DbId) : Prog Unit := do
  match ← aside (.cacheGet 0) with
  | some (i, generation) => aside (.cacheSet db i generation)
  | none => pure ()

/-- **Use a handle**: acquire a connection and map the handle to the slot that holds it. -/
def poolFindConnectionForDb (maxRetries : ℕ) (t : Thread) (db : DbId) (dbPath : Text) :
    Prog ConnId := do
  if isLibraryDb dbPath = true then
    let conn ← acquireOn maxRetries t maxRetries dbPath 0
    if ← ask .pgActive conn then
      let size ← poolSize
      let _ ← firstOf (List.range size) (trackHandle db conn)
      retagCache db
      pure conn
    else pure 0
  else pure 0

/-- Leave a connection idle before its slot is given back: no stream in flight, no transaction
open. -/
def settleConnectionBeforeRelease (conn : ConnId) : Prog Unit := do
  if conn = 0 then pure ()
  else
    let streaming ← ask .streamingActive conn
    onlyIf (streaming = true) (attempt .cancelAndDrain conn)
    rollbackOpen conn
    aside (.forgetConnection conn)

/-- A READY slot this thread owns goes back to FREE. -/
def giveBack (t : Thread) (i : ℕ) : Prog Unit := do
  let size ← poolSize
  if i < size then
    let owner ← loadOwner i
    if threadsEqual owner t then
      let state ← loadState i
      if state = .ready then
        let conn ← loadConn i
        settleConnectionBeforeRelease conn
        storeOwner i none
        storeState i .free
      else pure ()
    else pure ()
  else pure ()

/-- The slot a handle was mapped to, if it was mapped to one. -/
def giveBackMapped (t : Thread) : Option ℕ → Prog Unit
  | some i => giveBack t i
  | none => pure ()

/-- **Close a handle**: the slot it was mapped to goes back if this thread owns it. -/
def poolReleaseForDbInner (t : Thread) (db : DbId) : Prog Unit := do
  aside (.forgetDb db)
  let slot ← aside (.releaseDb db)
  giveBackMapped t slot
  aside .cacheClear

/-- A connection works again: the slot counts as just used. -/
def republish (i : ℕ) : Prog Unit := do
  let now ← aside .clock
  aside (.storeLastUsed i now)
  markReady i

/-- Reset the connection of a claimed slot, or connect it anew. -/
def restoreSlot (conn : ConnId) (i : ℕ) : Prog Unit := do
  stmtCacheClear conn
  if ← resetConn conn then republish i
  else if ← reconnectConn conn then republish i
  else markError i

/-- One slot of the search for a broken connection; `some` ends it. -/
def checkHealthSlot (t : Thread) (conn : ConnId) (i : ℕ) : Prog (Option Bool) := do
  let held ← loadConn i
  if held ≠ conn then pure none
  else
    let owner ← loadOwner i
    if threadsEqual owner t then
      if ← tryBeginReconnect i then
        restoreSlot conn i
        pure (some true)
      else pure (some false)
    else pure none

/-- **Check a connection**: whether it was broken, and was reset in a slot of this thread. -/
def poolCheckHealthInner (t : Thread) (conn : ConnId) : Prog Bool := do
  if conn = 0 then pure false
  else if ← ask .connOk conn then pure false
  else
    let size ← poolSize
    let found ← firstOf (List.range size) (checkHealthSlot t conn)
    pure (found.getD false)

/-- `rust_pg_find_connection`, for a handle opened on `dbPath`. -/
def findConnection (maxRetries : ℕ) (t : Thread) (db : DbId) (dbPath : Text) : Prog ConnId := do
  let handleConn ← aside (.findRegistered db)
  if handleConn = (0 : ConnId) then pure 0
  else if isLibraryDb dbPath = true then poolFindConnectionForDb maxRetries t db dbPath
  else if ← ask .pgActive handleConn then pure handleConn
  else pure 0

/-- `txn::run`. -/
def runTxn (conn : ConnId) (db : DbId) (cmd : TxnCmd) : Prog Unit := do
  if ← ask .hasSocket conn then
    let current ← aside (.loadTxn conn)
    let planned := Txn.plan current cmd
    if ← work .execute conn then
      aside (.recordTxn conn db (Txn.World.withHandle planned.2 db))
    else
      -- What PostgreSQL thinks is what counts from here.
      let stillOpen ← ask .inTransaction conn
      onlyIf (stillOpen = false) (aside (.forgetConnection conn))
  else pure ()

/-- **Run a transaction command for a handle**, on the connection its transaction is on or on the
one it finds. -/
def transact (maxRetries : ℕ) (t : Thread) (db : DbId) (dbPath : Text) (cmd : TxnCmd) :
    Prog Unit := do
  let pinned ← aside (.pinnedConn db)
  if pinned ≠ (0 : ConnId) then runTxn pinned db cmd
  else
    let conn ← findConnection maxRetries t db dbPath
    runTxn conn db cmd

/-! ### The calls the threads make -/

/-- **A call into the pool.** -/
inductive Call where
  | acquire (dbPath : Text) (excludeConn : ConnId)
  | find (db : DbId) (dbPath : Text)
  | close (db : DbId)
  | checkHealth (conn : ConnId)
  | transact (db : DbId) (dbPath : Text) (cmd : TxnCmd)
  deriving DecidableEq

/-- The program of a call; it ends with the connection handed to the caller, null if none is. -/
def Call.program (maxRetries : ℕ) (t : Thread) : Call → Prog ConnId
  | .acquire dbPath excludeConn => acquireOn maxRetries t maxRetries dbPath excludeConn
  | .find db dbPath => poolFindConnectionForDb maxRetries t db dbPath
  | .close db => do
      poolReleaseForDbInner t db
      pure 0
  | .checkHealth conn => do
      let _ ← poolCheckHealthInner t conn
      pure 0
  | .transact db dbPath cmd => do
      Pool.transact maxRetries t db dbPath cmd
      pure 0

abbrev State := Threads.State Thread Op Op.Ans Memory Call ConnId

abbrev Move := Threads.Move Thread Choice Call

/-- **The threads and the pool they share**, with `maxRetries` retries for an acquisition. -/
def system (maxRetries : ℕ) : Threads.System Thread Op Op.Ans Memory Choice Call ConnId where
  answer t op choice m := m.pool.answer t choice op
  effect t op answer m := ⟨m.pool.effect t op answer, m.history.record m.pool t op answer⟩
  program t call := call.program maxRetries t
  finish t _ conn m := { m with history := m.history.hand t conn }

/-- **A pool nobody has used yet.** -/
def start (poolSize poolMax : ℕ) : State where
  memory := ⟨PoolManager.new poolSize poolMax, History.new⟩
  running _ := none

end PlexPostgres.Pool
