import PlexPostgres.Step.SkipRules
import PlexPostgres.Txn.Registry

/-!
# Registered statements, and what a step of one can meet

`sqlite3_step` of a statement the shim registered runs it on PostgreSQL.  This module
has the data of that: the statement with the marks an execution leaves on it, the
answers, and the outcomes the shim has no hand in — which connection a lookup finds,
what happens to each statement sent, whether a reset or a reconnect works.

Those outcomes are gathered in one record, `Env`, for each *attempt*: a call that is
retried meets a new one.
-/

namespace PlexPostgres.Step

open Postgres Txn

/-- `is_pg`: left to SQLite, a write, a read, or skipped (which transaction control
is registered as). -/
inductive Kind where
  | sqlite
  | write
  | read
  | skipped
  deriving DecidableEq, Repr

/-- **What `sqlite3_step` answers.**  `shadow` is whatever real SQLite answers for the
shadow statement, an error or not. -/
inductive Rc where
  | row
  | done
  | error
  | shadow (fails : Bool)
  deriving DecidableEq, Repr

/-- Is the code `SQLITE_ERROR`? -/
def Rc.isError : Rc → Bool
  | .error | .shadow true => true
  | .row | .done | .shadow false => false

/-- Is it an answer of the shim's own that says success? -/
def Rc.isSuccess : Rc → Bool
  | .row | .done => true
  | .error | .shadow _ => false

theorem Rc.isError_of_isSuccess {rc : Rc} (success : rc.isSuccess = true) :
    rc.isError = false := by
  cases rc with
  | row | done => rfl
  | error | shadow => cases success

/-- The rows a statement holds: the current one, their number, and whether they were
fetched for the column metadata only. -/
structure Rows where
  current : ℕ
  count : ℕ
  metadataOnly : Bool
  deriving DecidableEq, Repr

/-- **A registered statement.** -/
structure Stmt (ω : Type*) where
  kind : Kind
  sql : Text
  /-- The translated text. -/
  pgSql : Option Text
  /-- What it does to the data, its parameters bound. -/
  effect : ω
  params : List (Option Text)
  /-- It has a name to be prepared under. -/
  usePrepared : Bool
  /-- `LIMIT 1` stands in it as a token, so its rows are never streamed. -/
  limitOne : Bool
  /-- It assigns a row's `id` itself (`guide_load::id_assignment`). -/
  assignsId : Bool
  /-- The SQLite handle of its shadow statement, if it has one. -/
  shadow : Option DbId
  conn : ConnId
  resultConn : ConnId
  writeExecuted : Bool
  readDone : Bool
  /-- The connection its rows are being streamed from. -/
  streaming : Option ConnId
  result : Option Rows
  needsRequery : Bool
  deriving DecidableEq, Repr

namespace Stmt

variable {ω : Type*}

/-- A statement as prepared for handle `db`. -/
def prepared (kind : Kind) (sql : Text) (pgSql : Option Text) (effect : ω) (db : DbId) :
    Stmt ω where
  kind := kind
  sql := sql
  pgSql := pgSql
  effect := effect
  params := []
  usePrepared := false
  limitOne := false
  assignsId := false
  shadow := some db
  conn := 0
  resultConn := 0
  writeExecuted := false
  readDone := false
  streaming := none
  result := none
  needsRequery := false

/-- `rust_stmt_clear_result`, on the statement's side: every mark of an execution is
gone. -/
def cleared (s : Stmt ω) : Stmt ω :=
  { s with
    resultConn := 0, writeExecuted := false, readDone := false, streaming := none,
    result := none }

end Stmt

/-! ### Errors -/

/-- What to do with a failed statement. -/
inductive ErrorClass where
  | retry
  | stalePlan
  | fail
  deriving DecidableEq, Repr

/-- A prepared statement the server no longer has, or can no longer run as planned. -/
def isStalePlan (sqlstate message : Text) : Bool :=
  sqlstate = "26000".toList ||
    (sqlstate = "0A000".toList &&
      Text.contains "cached plan must not change result type".toList message)

/-- The SQLSTATEs that say the statement may be run again as it is. -/
def retryStates : List Text :=
  ["57P01".toList, "57P02".toList, "57P03".toList, "40001".toList, "40P01".toList]

/-- **What to do about a failure**, `error_class::classify`. -/
def classifyError (connOk : Bool) (sqlstate message : Text) : ErrorClass :=
  if !connOk then .retry
  else if isStalePlan sqlstate message then .stalePlan
  else if Text.startsWith "08".toList sqlstate || sqlstate ∈ retryStates then .retry
  else .fail

/-- The message Plex reads: the result's own, else the connection's. -/
def resultMessage (result : Option (Option Text)) (connMessage : Text) : Text :=
  let own := result.join.getD []
  let message := if Text.trim own = [] then connMessage else own
  Text.trimEnd
    (if Text.trim message = [] then "PostgreSQL error (no message)".toList else message)

/-! ### Settings and outcomes -/

/-- The settings of the process. -/
structure Config where
  /-- `PLEX_PG_TRANSACTIONS`: transaction control is forwarded. -/
  forwarding : Bool
  /-- The number of retries configured. -/
  maxRetries : ℕ
  /-- Guide loads wrap each write in a savepoint. -/
  savepoints : Bool
  /-- `PLEX_PG_SKIP_STATS_RESOURCES_UPDATE`. -/
  skipStatsResources : Bool
  /-- `PLEX_PG_DISABLE_STREAMING`. -/
  disableStreaming : Bool

/-- Looking for the connection a statement runs on. -/
structure LookupEnv where
  /-- The thread is resolving column tables: the shim is out of the way. -/
  inResolve : Bool
  /-- Real SQLite fails, should the shadow statement be stepped. -/
  shadowFails : Bool
  /-- The thread that steps is the one that started the stream. -/
  sameThread : Bool
  /-- `rust_pg_find_connection`. -/
  found : ConnId
  /-- The path of the connection found is a library's, a blobs' or a guide's. -/
  served : Bool
  /-- `rust_pool_get_connection`. -/
  pooled : ConnId

/-- Making a connection ready. -/
structure ConnectEnv where
  /-- The second lookup finds a connection with a path. -/
  foundAgain : Bool
  pooledAgain : ConnId
  /-- Another thread closes the connection before its lock is taken. -/
  raced : Bool
  /-- The path for an alternate connection is known. -/
  altPath : Bool
  alt : ConnId
  altRaced : Bool
  resetOk : Bool
  configured : Bool
  connectOk : Bool

/-- The health check of a connection a statement failed on. -/
structure HealthEnv where
  /-- The connection's slot is this thread's and its reconnect could begin. -/
  slotOwned : Bool
  resetOk : Bool
  connectOk : Bool

/-- What a failed result says beside its message. -/
structure ErrorEnv where
  sqlstate : Text
  connMessage : Text

/-- Running a write: the fates of everything it may send. -/
structure WriteEnv where
  /-- The connection's path is a guide load's. -/
  isLoad : Bool
  /-- The plan is in the connection's statement cache. -/
  planCached : Bool
  sequence : Fate
  savepoint : Fate
  prepare : Fate
  exec : Fate
  rollbackTo : Fate
  release : Fate
  resyncSavepoint : Fate
  resync : Fate
  resyncRollbackTo : Fate
  resyncRelease : Fate
  /-- The rows a successful result holds, if it holds rows. -/
  rows : Option ℕ

/-- The next result of a stream: a row, its end, no result at all because the
connection dropped, or an error, with or without the connection. -/
inductive NextResult where
  | row
  | finished
  | missing
  | failed (lost : Bool) (message : Option Text)
  deriving DecidableEq, Repr

/-- Running a read. -/
structure ReadEnv where
  /-- The connection's statement timeout is set again before each read. -/
  resetsTimeout : Bool
  timeout : Fate
  planCached : Bool
  prepare : Fate
  /-- `PQsendQueryParams` took the statement. -/
  sendOk : Bool
  /-- Another stream of this thread is open. -/
  otherStreaming : Bool
  /-- `PQsetSingleRowMode` worked. -/
  singleRow : Bool
  exec : Fate
  rows : ℕ
  next : NextResult

/-- **Everything one attempt meets.** -/
structure Env where
  lookup : LookupEnv
  connect : ConnectEnv
  health : HealthEnv
  error : ErrorEnv
  write : WriteEnv
  read : ReadEnv
  /-- The fates of the statements of a transaction command. -/
  control : ℕ → Fate

/-- Nothing goes wrong, and every lookup finds `conn`. -/
def Env.calm (conn : ConnId) : Env where
  lookup := ⟨false, false, true, conn, true, conn⟩
  connect := ⟨true, conn, false, true, conn, false, true, true, true⟩
  health := ⟨true, true, true⟩
  error := ⟨[], []⟩
  write :=
    ⟨false, false, .fine, .fine, .fine, .fine, .fine, .fine, .fine, .fine, .fine, .fine, none⟩
  read := ⟨false, .fine, false, .fine, true, false, true, .fine, 0, .finished⟩
  control _ := .fine

end PlexPostgres.Step
