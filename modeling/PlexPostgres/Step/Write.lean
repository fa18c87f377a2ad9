import PlexPostgres.Step.Statement

/-!
# Running a write

The write path of `sqlite3_step`: make the connection ready, run the statement on it,
and settle the outcome.  Making it ready is where a transaction can be lost from sight:
a connection that turns out to be lost is reset, the registry forgets it, and the
statement runs on the fresh session; one that streams is replaced by another.
-/

namespace PlexPostgres.Step

open Postgres Txn

variable {ω : Type*}

/-! ### The connection -/

/-- Is there a libpq connection behind the pointer? -/
def isUsable (w : World ω) (conn : ConnId) : Bool := conn ≠ 0 && !(w.link conn).isClosed

/-- Set the server side of a connection. -/
def setLink (w : World ω) (conn : ConnId) (link : Link ω) : World ω :=
  w.setConn conn fun c => { c with link }

/-- `PQreset`, after which the registry forgets the connection. -/
def resetConnection (w : World ω) (conn : ConnId) (ok : Bool) : World ω :=
  (setLink w conn (if ok then .up .idle else .down)).mapRegistry (·.forgetConnection conn)

/-- Connect anew; a connection that cannot is no longer active. -/
def connectAnew (w : World ω) (conn : ConnId) (ok : Bool) : World ω :=
  if ok then w.setConn conn fun c => { c with link := .up .idle, active := true }
  else w.setConn conn fun c => { c with link := .closed, active := false }

/-- The connection looked for, once more if there is nothing behind the first. -/
def lookAgain (w : World ω) (conn : ConnId) (env : ConnectEnv) : ConnId :=
  if isUsable w conn || !env.foundAgain then conn else env.pooledAgain

/-- Another thread may have closed a connection before its lock is taken. -/
def afterRace (w : World ω) (conn : ConnId) (raced : Bool) : World ω :=
  if raced then setLink w conn .closed else w

/-- Another connection for one that streams. -/
def alternateConnection (w : World ω) (conn : ConnId) (env : ConnectEnv) :
    Option ConnId × World ω :=
  if env.altPath && isUsable w env.alt && env.alt ≠ conn && !(w.conns env.alt).streaming then
    let w := afterRace w env.alt env.altRaced
    (if isUsable w env.alt then some env.alt else none, w)
  else (none, w)

/-- **The connection to use**, none if there is none: `conn`, or what the pool gives if
`conn` is gone, or another one if it streams. -/
def lockConnection (w : World ω) (conn : ConnId) (env : ConnectEnv) : Option ConnId × World ω :=
  let conn := lookAgain w conn env
  if !isUsable w conn then (none, w)
  else
    -- The pointer is read again under the connection's lock.
    let w := afterRace w conn env.raced
    if !isUsable w conn then (none, w)
    else if (w.conns conn).streaming then alternateConnection w conn env
    else (some conn, w)

/-- **Is the connection up?**  A lost one is reset, or else connected anew. -/
def readyConnection (w : World ω) (conn : ConnId) (env : ConnectEnv) : Bool × World ω :=
  if (w.link conn).isOk then (true, w)
  else
    let w := resetConnection w conn env.resetOk
    if env.resetOk then (true, w)
    else (env.configured && env.connectOk, connectAnew w conn (env.configured && env.connectOk))

/-- **The health check**: a connection found lost is reset or connected anew, by the
thread that owns its slot; the stream and the transaction it had are forgotten. -/
def checkHealth (w : World ω) (conn : ConnId) (env : HealthEnv) : World ω :=
  if (w.link conn).isOk || !env.slotOwned then w
  else
    let w := (w.setConn conn fun c => { c with streaming := false }).mapRegistry
      (·.forgetConnection conn)
    if env.resetOk && !(w.link conn).isClosed then setLink w conn (.up .idle)
    else connectAnew w conn env.connectOk

/-! ### The statement -/

/-- The savepoint a guide load wraps each write in. -/
def statementSavepoint : Text := "plex_pg_stmt".toList

/-- The savepoint a guide load's sequence update runs in. -/
def resyncSavepoint : Text := "plex_pg_resync".toList

/-- End a savepoint the shim set around a statement: after a failure it is rolled back
to first. -/
def endSavepoint (name : Text) (out : Outcome ω) (rollbackTo release : Fate) : Outcome ω :=
  let out :=
    if out.answer = .ok then out else out.followedBy (·.exec (rollbackToSql name) rollbackTo)
  out.followedBy (·.exec (releaseSql name) release)

/-- `end_statement_savepoint`. -/
def endStatementSavepoint (out : Outcome ω) (env : WriteEnv) : Outcome ω :=
  endSavepoint statementSavepoint out env.rollbackTo env.release

/-- `resync_sequence`: inside a transaction it runs in a savepoint of its own. -/
def resyncSequence (l : Link ω) (inTxn : Bool) (env : WriteEnv) : Outcome ω :=
  let opened :=
    if inTxn then l.exec (savepointSql resyncSavepoint) env.resyncSavepoint else .nothing l
  let ran := opened.andThen (·.query env.resync)
  if inTxn && opened.answer = .ok then
    endSavepoint resyncSavepoint ran env.resyncRollbackTo env.resyncRelease
  else ran

/-- The statement itself, its plan before it if that is not prepared yet. -/
def runStatement (stmt : Stmt ω) (opened : Outcome ω) (env : WriteEnv) : Outcome ω :=
  let planned :=
    if stmt.usePrepared && !env.planCached then opened.andThen (·.query env.prepare) else opened
  planned.andThen (·.write stmt.effect env.exec)

/-- The statement, on a guide load in a savepoint of its own. -/
def runWrapped (stmt : Stmt ω) (l : Link ω) (wraps : Bool) (env : WriteEnv) : Outcome ω :=
  let opened :=
    if wraps then l.exec (savepointSql statementSavepoint) env.savepoint else .nothing l
  let ran := runStatement stmt opened env
  if wraps && opened.answer = .ok then endStatementSavepoint ran env else ran

/-- **Everything sent for a write**, in order: the statement, on a guide load in a
savepoint, and the sequence update a guide load's own ids ask for.  The answer is the
statement's. -/
def runWrite (stmt : Stmt ω) (l : Link ω) (wraps inTxn : Bool) (env : WriteEnv) : Outcome ω :=
  let ended := runWrapped stmt l wraps env
  if env.isLoad && stmt.assignsId && ended.answer = .ok then
    ended.followedBy fun l => resyncSequence l inTxn env
  else ended

/-- What an attempt made of the statement: nothing, PostgreSQL accepted it, or a skip
rule of the write path applied. -/
inductive Served where
  | no
  | accepted
  | skipped
  deriving DecidableEq, Repr

/-- **The outcome of an attempt**: the answer, the statement and the world after it,
whether it asks for a retry (`note_pg_conn_error`), and what became of the statement. -/
structure Attempt (ω : Type*) where
  rc : Rc
  stmt : Stmt ω
  world : World ω
  connError : Bool
  served : Served

/-- What `sqlite3_errmsg` will say. -/
def noteError (w : World ω) (conn : ConnId) (message : Text) : World ω :=
  w.setConn conn fun c => { c with lastError := some message }

/-- **The class of a failed result** on a connection. -/
def failureClass (w : World ω) (conn : ConnId) (result : Option (Option Text))
    (error : ErrorEnv) : ErrorClass :=
  classifyError (w.link conn).isOk (if result = none then [] else error.sqlstate)
    (resultMessage result error.connMessage)

/-- What follows a failed write, by the class of its error. -/
def failWrite (w : World ω) (stmt : Stmt ω) (conn : ConnId) (result : Option (Option Text))
    (env : Env) : Attempt ω :=
  let message := resultMessage result env.error.connMessage
  let stmt := { stmt with writeExecuted := true }
  match failureClass w conn result env.error with
  | .stalePlan => ⟨.error, stmt, w, true, .no⟩
  | .retry => ⟨.error, stmt, checkHealth w conn env.health, true, .no⟩
  | .fail => ⟨.error, stmt, noteError w conn message, false, .no⟩

/-- What follows a successful write: rows of its own are Plex's to read first. -/
def finishWrite (w : World ω) (stmt : Stmt ω) (conn : ConnId) (rows : Option ℕ) : Attempt ω :=
  if plexReadsReturningRows stmt.sql rows then
    ⟨.row, { stmt with
      writeExecuted := true, result := rows.map (⟨0, ·, false⟩), resultConn := conn },
      w, false, .accepted⟩
  else ⟨.done, { stmt with writeExecuted := true }, w, false, .accepted⟩

/-- What is sent for a write on a connection, and the outcome. -/
def sent (cfg : Config) (w : World ω) (stmt : Stmt ω) (conn : ConnId) (env : Env) : Outcome ω :=
  runWrite stmt (w.link conn) (cfg.savepoints && w.inTransaction conn && env.write.isLoad)
    (w.inTransaction conn) env.write

/-- The world after it. -/
abbrev afterSent (cfg : Config) (w : World ω) (stmt : Stmt ω) (conn : ConnId) (env : Env) :
    World ω :=
  w.after conn (sent cfg w stmt conn env).link (sent cfg w stmt conn env).committed

/-- Answer a write by the result it got. -/
def settleWrite (w : World ω) (stmt : Stmt ω) (conn : ConnId) (answer : Answer) (env : Env) :
    Attempt ω :=
  match answer with
  | .ok => finishWrite w stmt conn env.write.rows
  | .failed result => failWrite w stmt conn result env

/-- **Run a write and answer**, `rust_step_write_execute_and_finalize`. -/
def executeAndFinalize (cfg : Config) (w : World ω) (stmt : Stmt ω) (conn : ConnId) (env : Env) :
    Attempt ω :=
  if !isUsable w conn then ⟨.error, { stmt with writeExecuted := true }, w, true, .no⟩
  else if cfg.skipStatsResources && stmt.pgSql.any isStatsResourcesUpdate then
    ⟨.done, { stmt with writeExecuted := true }, w, false, .no⟩
  else
    let out := sent cfg w stmt conn env
    settleWrite (w.after conn out.link out.committed) stmt conn out.answer env

/-- The sequence a skipped special insert takes an id from, so that ids go on. -/
def takeSequence (w : World ω) (conn : ConnId) (env : Env) : World ω :=
  if (w.link conn).isOk then
    let out := (w.link conn).query env.write.sequence
    w.after conn out.link out.committed
  else w

/-- **The write branch of one attempt**, on the connection chosen for it. -/
def writeAttempt (cfg : Config) (w : World ω) (stmt : Stmt ω) (pgSql : Text) (conn : ConnId)
    (env : Env) : Attempt ω :=
  if stmt.writeExecuted then ⟨.done, stmt, w, false, .no⟩
  else if isTxnTerminator pgSql && !(w.link conn).inTransaction then
    ⟨.done, { stmt with writeExecuted := true }, w, false, .skipped⟩
  else if isSpecialInsert pgSql stmt.params then
    ⟨.done, { stmt with writeExecuted := true }, takeSequence w conn env, false, .skipped⟩
  else
    match lockConnection w conn env.connect with
    | (none, w) => ⟨.error, { stmt with writeExecuted := true }, w, true, .no⟩
    | (some conn, w) =>
      let stmt := { stmt with conn }
      match readyConnection w conn env.connect with
      | (false, w) => ⟨.error, { stmt with writeExecuted := true }, w, true, .no⟩
      | (true, w) => executeAndFinalize cfg w stmt conn env

end PlexPostgres.Step
