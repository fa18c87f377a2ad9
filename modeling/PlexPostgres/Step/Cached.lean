import PlexPostgres.Exec.Path
import PlexPostgres.Step.Call

/-!
# Statements the shim never registered

A statement prepared before its handle was known, or by a way the shim does not see, has
no entry in the registry.  `sqlite3_step` of it takes a path of its own: the text is
asked back from SQLite with the parameters written into it, and is run on the thread's
connection.  What is kept of an execution is an entry in a cache of the thread's.

Such a call makes one attempt: the retry wrapper looks for a registered statement and
finds none.  The thread's connection-error mark is set all the same.
-/

namespace PlexPostgres.Step

open Postgres Txn Routing

variable {ω : Type*}

/-- What the thread's cache has for a statement. -/
structure CachedEntry where
  writeExecuted : Bool
  result : Option Rows

/-- **A statement that is not registered.** -/
structure Unregistered (ω : Type*) where
  db : DbId
  sql : Text
  /-- `sqlite3_expanded_sql`: the text with the values of its parameters. -/
  expanded : Option Text
  effect : ω
  /-- It assigns a row's `id` itself. -/
  assignsId : Bool
  entry : Option CachedEntry

/-- The text that is looked at and run. -/
def Unregistered.text (u : Unregistered ω) : Text := u.expanded.getD u.sql

/-- What is sent of it is what is sent of a registered write with this text. -/
def Unregistered.asWrite (u : Unregistered ω) : Stmt ω :=
  { Stmt.prepared .write u.text (some u.text) u.effect u.db with
    usePrepared := true, assignsId := u.assignsId }

/-- The settings of the process that this path reads too. -/
structure CachedConfig extends Config where
  /-- `PLEX_PG_DEBUG_SKIP_CONTAINS`. -/
  debug : Option Text
  /-- The thread's cache of statements is off: nothing is ever found in it. -/
  cacheDisabled : Bool

/-- The settings as `sqlite3_exec` reads them. -/
def CachedConfig.exec (cfg : CachedConfig) : Exec.ExecConfig :=
  ⟨cfg.forwarding, cfg.maxRetries, cfg.debug⟩

/-- **What one call meets**, beside what any attempt does. -/
structure CachedEnv extends Env where
  /-- The handle's file is the library's, so any library connection will do. -/
  libraryFile : Bool
  anyLibrary : ConnId
  /-- Real SQLite answers its statement with a row or with its end. -/
  shadowSteps : Bool
  translates : Bool

/-- What real SQLite answers. -/
def CachedEnv.shadowRc (env : CachedEnv) : Rc :=
  .shadow (!env.shadowSteps && env.lookup.shadowFails)

/-- **The outcome of a call**: the answer, the cache's entry and the world after it, and
whether the thread's connection-error mark was set. -/
structure CachedCall (ω : Type*) where
  rc : Rc
  entry : Option CachedEntry
  world : World ω
  connError : Bool

/-! ### The connection -/

/-- The connection of the handle, or any of the library's. -/
def cachedBase (env : CachedEnv) : ConnId :=
  if env.lookup.found ≠ 0 then env.lookup.found
  else if env.libraryFile then env.anyLibrary
  else 0

/-- The path is open to a statement whose handle has this connection. -/
def serves (w : World ω) (base : ConnId) (env : CachedEnv) : Bool :=
  isUsable w base && (w.conns base).active && env.lookup.served

/-- **The connection a statement is run on**, `rust_step_pick_thread_connection`: the
pool's for this thread, whatever transaction the handle has open. -/
def pickThreadConnection (w : World ω) (base : ConnId) (env : CachedEnv) : ConnId :=
  if env.lookup.served && isUsable w env.lookup.pooled && (w.conns env.lookup.pooled).active then
    env.lookup.pooled
  else base

/-- What follows a failure, by the class of its error: `noted` is the world with the message
left. -/
def failCached (noted : Text → World ω) (w : World ω) (entry : Option CachedEntry) (conn : ConnId)
    (result : Option (Option Text)) (env : CachedEnv) : CachedCall ω :=
  let message := resultMessage result env.error.connMessage
  match failureClass w conn result env.error with
  | .stalePlan => ⟨.error, entry, w, true⟩
  | .retry => ⟨.error, entry, checkHealth w conn env.health, true⟩
  | .fail => ⟨.error, entry, noted message, false⟩

/-! ### Writes -/

/-- The message is left on both connections. -/
def noteCachedError (w : World ω) (base conn : ConnId) (message : Text) : World ω :=
  let w := noteError w conn message
  if base = conn then w else noteError w base message

/-- The entry of a write that was run. -/
def noteExecuted (cfg : CachedConfig) : Option CachedEntry → Option CachedEntry
  | some entry => some { entry with writeExecuted := true }
  | none => if cfg.cacheDisabled then none else some ⟨true, none⟩

/-- **Run a write and answer**, `rust_step_cached_write_execute_and_finalize`.  A
connection that is lost is not reset first. -/
def cachedExecute (cfg : CachedConfig) (w : World ω) (u : Unregistered ω) (base conn : ConnId)
    (env : CachedEnv) : CachedCall ω :=
  if !isUsable w conn then ⟨.error, u.entry, w, true⟩
  else
    let w := afterRace w conn env.connect.raced
    if !isUsable w conn then ⟨.error, u.entry, w, true⟩
    else
      let out := sent cfg.toConfig w u.asWrite conn env.toEnv
      let w := w.after conn out.link out.committed
      match out.answer with
      | .ok => ⟨.done, noteExecuted cfg u.entry, w, false⟩
      | .failed result => failCached (noteCachedError w base conn) w u.entry conn result env

/-- **The write branch**, `handle_cached_write`. -/
def cachedWrite (cfg : CachedConfig) (w : World ω) (u : Unregistered ω) (base : ConnId)
    (env : CachedEnv) : CachedCall ω :=
  if Exec.isJunkMetadataInsert u.text then ⟨.done, u.entry, w, false⟩
  else if u.entry.any (·.writeExecuted) then ⟨.done, u.entry, w, false⟩
  else if isTxnTerminator u.text &&
      !(w.link (pickThreadConnection w base env)).inTransaction then
    ⟨.done, u.entry, w, false⟩
  else if !env.translates then
    ⟨.error, u.entry, noteError w base ("PG cached write translation failed: ".toList ++
      u.text.take 220), false⟩
  else cachedExecute cfg w u base (pickThreadConnection w base env) env

/-! ### Reads -/

/-- The next of the rows that are here. -/
def cachedAdvance (w : World ω) (entry : CachedEntry) (rows : Rows) : CachedCall ω :=
  if rows.count ≤ rows.current + 1 then ⟨.done, some { entry with result := none }, w, false⟩
  else
    ⟨.row, some { entry with result := some { rows with current := rows.current + 1 } }, w, false⟩

/-- The entry of a read about to be run. -/
def noteRead (cfg : CachedConfig) : Option CachedEntry → Option CachedEntry
  | some entry => some entry
  | none => if cfg.cacheDisabled then none else some ⟨false, none⟩

/-- **Run a read and take all its rows**, `rust_step_cached_read_execute`. -/
def cachedFetch (w : World ω) (entry : Option CachedEntry) (conn : ConnId) (env : CachedEnv) :
    CachedCall ω :=
  if !isUsable w conn then ⟨env.shadowRc, entry, w, false⟩
  else
    let w := afterRace w conn env.connect.raced
    if !isUsable w conn then ⟨.error, entry, w, true⟩
    else
      let planned := if env.read.planCached then .nothing (w.link conn)
        else (w.link conn).query env.read.prepare
      let out := planned.andThen (·.query env.read.exec)
      let w := w.after conn out.link out.committed
      match out.answer with
      | .failed result => failCached (noteError w conn) w entry conn result env
      | .ok =>
        ⟨if 0 < env.read.rows then .row else .done,
          entry.map ({ · with result := some ⟨0, env.read.rows, false⟩ }), w, false⟩

/-- **The read branch**, `handle_cached_read`: real SQLite steps its own statement first,
and only its row or its end lets the read through to PostgreSQL. -/
def cachedRead (cfg : CachedConfig) (w : World ω) (u : Unregistered ω) (base : ConnId)
    (env : CachedEnv) : CachedCall ω :=
  if !env.shadowSteps then ⟨env.shadowRc, u.entry, w, false⟩
  else
    match u.entry.bind fun entry => entry.result.map (entry, ·) with
    | some (entry, rows) => cachedAdvance w entry rows
    | none =>
      if !env.translates then ⟨env.shadowRc, u.entry, w, false⟩
      else cachedFetch w (noteRead cfg u.entry) (pickThreadConnection w base env) env

/-! ### The call -/

/-- **Transaction control** that was never registered is forwarded all the same; its
error message is not kept. -/
def cachedControl (w : World ω) (u : Unregistered ω) (cmd : TxnCmd) (env : CachedEnv) :
    CachedCall ω :=
  match transactionConnection w u.db env.lookup with
  | (conn, w) =>
    match w.run conn u.db cmd env.control with
    | (.ok (), w) => ⟨.done, u.entry, w, false⟩
    | (.error _, w) => ⟨.error, u.entry, w, false⟩

/-- What is done with a statement whose handle the path is open to. -/
def cachedDispatch (cfg : CachedConfig) (w : World ω) (u : Unregistered ω) (env : CachedEnv) :
    CachedCall ω :=
  match if cfg.forwarding then classifySql u.sql else none with
  | some cmd => cachedControl w u cmd env
  | none =>
    if isSqlitePassthrough u.text then ⟨env.shadowRc, u.entry, w, false⟩
    else if isWriteOperation u.text && !shouldSkip cfg.debug u.text &&
        !shouldSkip cfg.debug u.sql then
      cachedWrite cfg w u (cachedBase env) env
    else if isReadOperation u.text && !shouldSkip cfg.debug u.text then
      cachedRead cfg w u (cachedBase env) env
    else ⟨env.shadowRc, u.entry, w, false⟩

/-- **A call of `sqlite3_step`** on a statement that is not registered. -/
def cachedStep (cfg : CachedConfig) (w : World ω) (u : Unregistered ω) (env : CachedEnv) :
    CachedCall ω :=
  if env.lookup.inResolve || isSqlitePassthrough u.sql || !serves w (cachedBase env) env then
    ⟨env.shadowRc, u.entry, w, false⟩
  else cachedDispatch cfg w u env

/-- Nothing goes wrong, and every lookup finds `conn`. -/
def CachedEnv.calm (conn : ConnId) : CachedEnv :=
  { Env.calm conn with
    libraryFile := true, anyLibrary := conn, shadowSteps := true, translates := true }

end PlexPostgres.Step
