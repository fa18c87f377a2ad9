import PlexPostgres.Conn.StmtCache
import PlexPostgres.Exec.Path
import PlexPostgres.Postgres.Transaction

/-!
# A connection and the session behind it

A connection outlives its server session: the session is lost, reset and connected anew, in
eight places of the source.  A new session has the server's default settings and no prepared
statement; what the connection itself keeps, the cache of statement names, is only emptied
where the source says so.

Each of these places is a function here, under its own rule.
-/

namespace PlexPostgres.Conn

open Postgres

variable {ω : Type*}

/-- Whose a connection is: the pool's, or a handle's own.  A Live TV guide has a schema of its
own. -/
inductive Owner where
  | pool
  | handle (guide : Option Text)
  deriving DecidableEq, Repr

/-- The schema of the database a connection is for; `library` is the configured one. -/
def Owner.schema (library : Text) : Owner → Text
  | .pool | .handle none => library
  | .handle (some guide) => guide

/-- **What a session was told**: the schema of its search path, and that it has the shim's
statement timeout. -/
structure Settings where
  searchPath : Option Text
  timeout : Bool
  deriving DecidableEq, Repr

/-- **A connection**: the session behind it, what that was told, the statements prepared on it
by their names, with the hash of the SQL, and the connection's cache of names. -/
structure Backend (ω : Type*) where
  owner : Owner
  link : Link ω
  settings : Settings
  prepared : StmtName → Option ℕ
  cache : StmtCache

/-- The fates of the settings' statements. -/
structure SettingsEnv where
  searchPath : Fate
  /-- DEALLOCATE ALL, where it is sent. -/
  deallocateAll : Fate
  timeout : Fate
  deriving DecidableEq, Repr

/-- What making a connection ready meets. -/
structure ReadyEnv where
  resetOk : Bool
  /-- The configuration is loaded. -/
  configured : Bool
  connectOk : Bool
  settings : SettingsEnv
  /-- The second round of settings, where there is one. -/
  again : SettingsEnv
  /-- The fates of the DEALLOCATEs of names that are forgotten. -/
  deallocate : ℕ → Fate

/-- What the pool meets when it sees to a connection. -/
structure PoolEnv where
  /-- The slot is this thread's, and its reconnect could begin. -/
  slotOwned : Bool
  /-- The ROLLBACK of an abandoned transaction. -/
  rollback : Fate
  resetOk : Bool
  connectOk : Bool
  settings : SettingsEnv
  again : SettingsEnv
  deallocate : ℕ → Fate

/-- A statement the server would accept is an error. -/
def errorFate (fate : Fate) : Fate :=
  if fate.verdict = .accept then ⟨.refuse false, fate.message⟩ else fate

namespace Backend

variable (b : Backend ω)

/-! ### Sessions -/

/-- `PQreset` or `PQconnectdb` that succeeds: a session with default settings and nothing
prepared. -/
def begin : Backend ω :=
  { b with link := .up .idle, settings := ⟨none, false⟩, prepared := fun _ => none }

/-- `PQfinish`. -/
def finish : Backend ω := { b with link := .closed }

/-- SET search_path. -/
def setSearchPath (schema : Text) (fate : Fate) : Backend ω :=
  let out := b.link.query fate
  { b with
    link := out.link
    settings := { b.settings with
      searchPath := if out.answer = .ok then some schema else b.settings.searchPath } }

/-- SET statement_timeout. -/
def setTimeout (fate : Fate) : Backend ω :=
  let out := b.link.query fate
  { b with
    link := out.link
    settings := { b.settings with
      timeout := if out.answer = .ok then true else b.settings.timeout } }

/-- DEALLOCATE ALL. -/
def deallocateAll (fate : Fate) : Backend ω :=
  let out := b.link.query fate
  { b with
    link := out.link
    prepared := if out.answer = .ok then fun _ => none else b.prepared }

/-- **The settings of a session**; whether they were accepted is not asked. -/
def applySettings (schema : Text) (env : SettingsEnv) : Backend ω :=
  (b.setSearchPath schema env.searchPath).setTimeout env.timeout

/-! ### The cache of names -/

/-- DEALLOCATE of a statement; of one that is not there it is an error. -/
def deallocate (name : StmtName) (fate : Fate) : Backend ω :=
  let out := b.link.query (if (b.prepared name).isSome then fate else errorFate fate)
  { b with
    link := out.link
    prepared := if out.answer = .ok then Function.update b.prepared name none else b.prepared }

/-- DEALLOCATE of one statement after the other. -/
def deallocateEach : Backend ω → List StmtName → (ℕ → Fate) → Backend ω
  | b, [], _ => b
  | b, name :: names, fates =>
    deallocateEach (b.deallocate name (fates 0)) names fun i => fates (i + 1)

/-- `rust_stmt_cache_clear`. -/
def cacheClear (fates : ℕ → Fate) : Backend ω :=
  deallocateEach { b with cache := b.cache.clear.2 } b.cache.clear.1 fates

/-- `rust_stmt_cache_clear_local`, and `rust_stmt_cache_drop`: the server is not told. -/
def cacheForget : Backend ω := { b with cache := b.cache.clear.2 }

/-- `rust_stmt_cache_lookup`: the name the cache has for a hash, which counts as used now. -/
def cacheLookup (sqlHash : ℕ) (now : ℤ) : Option StmtName × Backend ω :=
  ((b.cache.lookup sqlHash).map StmtCacheEntry.stmtName,
    { b with cache := b.cache.touch sqlHash now })

/-- `rust_stmt_cache_add`: an entry that has to make room is deallocated. -/
def cacheAdd (e : StmtCacheEntry) (fate : Fate) : Backend ω :=
  let added := b.cache.add e
  let b := { b with cache := added.cache }
  match added.evicted with
  | none => b
  | some name => b.deallocate name fate

/-- `PQprepare`: done, refused because the name is taken, or failed. -/
inductive Prepared where
  | done
  | duplicate
  | failed
  deriving DecidableEq, Repr

def prepare (name : StmtName) (fate : Fate) : Prepared × Backend ω :=
  if (b.prepared name).isSome then
    let out := b.link.query (errorFate fate)
    -- The server says "duplicate" only when nothing else is wrong.
    (if fate.verdict = .accept && (b.link.query fate).answer = .ok then .duplicate else .failed,
      { b with link := out.link })
  else
    let out := b.link.query fate
    if out.answer = .ok then
      (.done, { b with
        link := out.link
        prepared := Function.update b.prepared name (some name.sqlHash) })
    else (.failed, { b with link := out.link })

/-- **A statement is looked up, or prepared and added**: its name, if it can be run by it. -/
def fetch (name : StmtName) (paramCount now : ℤ) (fate deallocate : Fate) :
    Option StmtName × Backend ω :=
  match b.cacheLookup name.sqlHash now with
  | (some found, b) => (some found, b)
  | (none, b) =>
    match b.prepare name fate with
    | (.failed, b) => (none, b)
    | (.done, b) | (.duplicate, b) =>
      (some name, b.cacheAdd ⟨name.sqlHash, name, paramCount, now⟩ deallocate)

/-! ### The statements' paths -/

/-- A reset that failed: the names are forgotten, and a new connection is tried. -/
def connectFresh (library : Text) (env : ReadyEnv) : Bool × Backend ω :=
  let b := (b.cacheClear env.deallocate).finish
  if env.configured && env.connectOk then
    (true, b.begin.applySettings (b.owner.schema library) env.settings)
  else (false, b)

/-- **A write's connection**, `rust_step_write_prepare_connection`: one that a reset brings back
is used as it is. -/
def prepareWrite (library : Text) (env : ReadyEnv) : Bool × Backend ω :=
  if b.link.isOk then (true, b)
  else if env.resetOk then (true, b.begin)
  else b.connectFresh library env

/-- **A read's connection**, `ensure_connection_ready`: the settings are applied after a reset
too.  After a new connection they are applied once. -/
def prepareRead (library : Text) (env : ReadyEnv) : Bool × Backend ω :=
  if b.link.isOk then (true, b)
  else if env.resetOk then
    (true, if env.configured then b.begin.applySettings (b.owner.schema library) env.settings
      else b.begin)
  else b.connectFresh library env

/-- **A script's connection**, the pre-flight of `exec_via_postgres`.  After a reset that failed
the settings are applied twice. -/
def preflight (library : Text) (env : ReadyEnv) : Bool × Backend ω :=
  if b.link.isOk then (true, b)
  else if b.link.isClosed then
    if env.configured && env.connectOk then
      (true, b.begin.applySettings (b.owner.schema library) env.settings)
    else (false, b)
  else if env.resetOk then
    (true, if env.configured then b.begin.applySettings (b.owner.schema library) env.settings
      else b.begin)
  else
    match b.connectFresh library env with
    | (true, b) => (true, b.applySettings (b.owner.schema library) env.again)
    | (false, b) => (false, b)

/-! ### The pool -/

/-- `reset_conn`. -/
def resetConn (library : Text) (resetOk : Bool) (env : SettingsEnv) : Bool × Backend ω :=
  if b.link.isClosed then (false, b)
  else if resetOk then (true, b.begin.applySettings library env)
  else (false, { b with link := .down })

/-- `reconnect_conn`. -/
def reconnectConn (library : Text) (connectOk : Bool) (env : SettingsEnv) : Bool × Backend ω :=
  if connectOk then (true, b.finish.begin.applySettings library env) else (false, b.finish)

/-- `pool_check_health_inner`. -/
def checkHealth (library : Text) (env : PoolEnv) : Backend ω :=
  if b.link.isOk || !env.slotOwned then b
  else
    match (b.cacheClear env.deallocate).resetConn library env.resetOk env.settings with
    | (true, b) => b
    | (false, b) => (b.reconnectConn library env.connectOk env.again).2

/-- A thread's own slot is acquired: a connection that is not up is connected anew. -/
def acquire (library : Text) (env : PoolEnv) : Backend ω :=
  if b.link.isOk then b
  else ((b.cacheClear env.deallocate).reconnectConn library env.connectOk env.settings).2

/-- A free slot is acquired: what was abandoned is rolled back, and the connection is reset. -/
def reuse (library : Text) (env : PoolEnv) : Backend ω :=
  let b := if b.link.inTransaction then
    { b with link := (b.link.exec Txn.rollbackSql env.rollback).link } else b
  match (b.cacheClear env.deallocate).resetConn library env.resetOk env.settings with
  | (true, b) => b
  | (false, b) =>
    ((b.cacheClear env.deallocate).reconnectConn library env.connectOk env.again).2

end Backend

/-- `create_pool_connection`. -/
def Backend.create (library : Text) (connectOk : Bool) (env : SettingsEnv) : Backend ω :=
  let b : Backend ω := ⟨.pool, .closed, ⟨none, false⟩, fun _ => none, .new⟩
  if connectOk then
    ((b.begin.setSearchPath library env.searchPath).deallocateAll env.deallocateAll).setTimeout
      env.timeout
  else b

/-- `rust_pg_connect` of a handle that is not the library's. -/
def Backend.connect (library : Text) (guide : Option Text) (connectOk : Bool) (env : SettingsEnv) :
    Backend ω :=
  let b : Backend ω := ⟨.handle guide, .closed, ⟨none, false⟩, fun _ => none, .new⟩
  if connectOk then b.begin.applySettings (b.owner.schema library) env else b

/-- `destroy_pool_connection` and `close_handle_connection`. -/
def Backend.destroy (b : Backend ω) : Backend ω := b.cacheForget.finish

/-! ### What happens to a connection -/

/-- The paths that send SQL. -/
inductive Path where
  | stepRead
  | stepWrite
  | cachedRead
  | cachedWrite
  | exec
  deriving DecidableEq, Repr

/-- **A path makes its connection ready.**  Only a script is run over a connection that was
closed; the cached paths take the connection as it is. -/
def Path.ready (library : Text) (path : Path) (b : Backend ω) (env : ReadyEnv) :
    Bool × Backend ω :=
  match path with
  | .exec => b.preflight library env
  | .stepRead => if b.link.isClosed then (false, b) else b.prepareRead library env
  | .stepWrite => if b.link.isClosed then (false, b) else b.prepareWrite library env
  | .cachedRead | .cachedWrite => (!b.link.isClosed, b)

/-- **All that happens to a connection.** -/
inductive Event (ω : Type*) where
  /-- A path makes it ready, to send a statement. -/
  | ready (path : Path) (env : ReadyEnv)
  /-- Statements change the session, or it is lost. -/
  | traffic (after : Session ω → Option (Session ω))
  | lookup (sqlHash : ℕ) (now : ℤ)
  | fetch (name : StmtName) (paramCount now : ℤ) (fate deallocate : Fate)
  | clear (fates : ℕ → Fate)
  | clearLocal
  | health (env : PoolEnv)
  | acquire (env : PoolEnv)
  | reuse (env : PoolEnv)
  | create (connectOk : Bool) (env : SettingsEnv)
  | connect (guide : Option Text) (connectOk : Bool) (env : SettingsEnv)
  | destroy

/-- The session goes on, or is lost. -/
def Backend.traffic (b : Backend ω) (after : Session ω → Option (Session ω)) : Backend ω :=
  match b.link with
  | .up s => { b with link := match after s with | some s' => .up s' | none => .down }
  | .closed | .down => b

/-- **What is left of a connection after an event.**  The pool sees to its own connections
only. -/
def Backend.next (library : Text) (b : Backend ω) : Event ω → Backend ω
  | .ready path env => (path.ready library b env).2
  | .traffic after => b.traffic after
  | .lookup sqlHash now => (b.cacheLookup sqlHash now).2
  | .fetch name paramCount now fate deallocate =>
    (b.fetch name paramCount now fate deallocate).2
  | .clear fates => b.cacheClear fates
  | .clearLocal => b.cacheForget
  | .health env => if b.owner = .pool then b.checkHealth library env else b
  | .acquire env => if b.owner = .pool then b.acquire library env else b
  | .reuse env => if b.owner = .pool then b.reuse library env else b
  | .create connectOk env => .create library connectOk env
  | .connect guide connectOk env => .connect library guide connectOk env
  | .destroy => b.destroy

/-! ### Owners and links -/

/-- A connection that is neither up nor closed has lost its session. -/
theorem eq_down {l : Link ω} (lost : ¬l.isOk = true) (opened : ¬l.isClosed = true) :
    l = .down := by
  cases l with
  | closed => exact absurd rfl opened
  | down => rfl
  | up s => exact absurd rfl lost

namespace Backend

variable (b : Backend ω)

@[simp] theorem begin_cache : b.begin.cache = b.cache := rfl

@[simp] theorem finish_owner : b.finish.owner = b.owner := rfl

variable {b}

theorem deallocateEach_spec (names : List StmtName) (fates : ℕ → Fate) :
    (b.deallocateEach names fates).owner = b.owner ∧
      (b.deallocateEach names fates).cache = b.cache ∧
      (b.deallocateEach names fates).settings = b.settings := by
  induction names generalizing b fates with
  | nil => exact ⟨rfl, rfl, rfl⟩
  | cons name names ih => exact ih _

@[simp] theorem cacheClear_owner (fates : ℕ → Fate) : (b.cacheClear fates).owner = b.owner :=
  (deallocateEach_spec _ fates).1

@[simp] theorem cacheClear_cache (fates : ℕ → Fate) : (b.cacheClear fates).cache = .new :=
  (deallocateEach_spec _ fates).2.1

@[simp] theorem connectFresh_owner (library : Text) (env : ReadyEnv) :
    (b.connectFresh library env).2.owner = b.owner := by
  have closed : (b.cacheClear env.deallocate).finish.owner = b.owner := by
    rw [finish_owner, cacheClear_owner]
  unfold connectFresh
  generalize (b.cacheClear env.deallocate).finish = b' at closed ⊢
  dsimp only
  split <;> exact closed

theorem prepareWrite_owner (library : Text) (env : ReadyEnv) :
    (b.prepareWrite library env).2.owner = b.owner := by
  unfold prepareWrite
  split_ifs with up reset
  · rfl
  · rfl
  · exact connectFresh_owner library env

theorem prepareRead_owner (library : Text) (env : ReadyEnv) :
    (b.prepareRead library env).2.owner = b.owner := by
  unfold prepareRead
  split_ifs with up reset
  · rfl
  · rfl
  · rfl
  · exact connectFresh_owner library env

theorem preflight_owner (library : Text) (env : ReadyEnv) :
    (b.preflight library env).2.owner = b.owner := by
  have fresh := b.connectFresh_owner library env
  unfold preflight
  split_ifs with up closed connects reset
  · rfl
  · rfl
  · rfl
  · rfl
  · rfl
  · generalize b.connectFresh library env = connected at fresh ⊢
    obtain ⟨_ | _, b'⟩ := connected <;> exact fresh

end Backend

/-- A connection that is made ready is still for the same database. -/
theorem Path.ready_owner (library : Text) (path : Path) (b : Backend ω) (env : ReadyEnv) :
    (path.ready library b env).2.owner = b.owner := by
  cases path with
  | exec => exact b.preflight_owner library env
  | stepRead =>
    show (if b.link.isClosed then (false, b) else _ : Bool × Backend ω).2.owner = b.owner
    split
    · rfl
    · exact b.prepareRead_owner library env
  | stepWrite =>
    show (if b.link.isClosed then (false, b) else _ : Bool × Backend ω).2.owner = b.owner
    split
    · rfl
    · exact b.prepareWrite_owner library env
  | cachedRead | cachedWrite => rfl

end PlexPostgres.Conn
