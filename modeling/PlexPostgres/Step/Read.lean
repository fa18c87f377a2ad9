import PlexPostgres.Step.Write

/-!
# Running a read

The read path of `sqlite3_step`.  The first step sends the query and takes its rows one
by one from the connection (*streaming*) or all at once (*eager*); the later steps hand
out what is there.  A statement stepped on another connection than it streams from has
crossed threads and is run again, eagerly.
-/

namespace PlexPostgres.Step

open Postgres Txn

variable {ω : Type*}

/-- A connection no longer streams. -/
def stopStream (w : World ω) (conn : ConnId) : World ω :=
  w.setConn conn fun c => { c with streaming := false }

/-- `rust_stmt_clear_result`: a stream in flight is cancelled with it. -/
def clearResult (w : World ω) (stmt : Stmt ω) : World ω × Stmt ω :=
  (match stmt.streaming with
    | none => w
    | some conn => stopStream w conn,
    stmt.cleared)

/-- `rust_step_read_prepare_reexecution_state`: a stream that is not this connection's is
given up, rows already here are adopted, rows fetched for metadata are dropped. -/
def prepareReexecution (w : World ω) (stmt : Stmt ω) (conn : ConnId) : World ω × Stmt ω :=
  let (w, stmt) :=
    if stmt.streaming.isSome && stmt.resultConn ≠ conn then
      clearResult w { stmt with needsRequery := true }
    else if stmt.result.isSome && stmt.streaming.isNone then (w, { stmt with resultConn := conn })
    else (w, stmt)
  (w, if stmt.result.any (·.metadataOnly) then { stmt with result := none } else stmt)

/-! ### The later steps -/

/-- The next row of a stream.  Past the first row nothing can be run again, so an error
is an error whatever its class. -/
def streamingNext (w : World ω) (stmt : Stmt ω) (conn : ConnId) (env : Env) : Attempt ω :=
  let ended := { stmt with streaming := none, result := none, readDone := true }
  let failed (w : World ω) (result : Option (Option Text)) : Attempt ω :=
    ⟨.error, ended, noteError (stopStream w conn) conn
      (resultMessage result env.error.connMessage), false, .no⟩
  if (w.link conn).isClosed then
    ⟨.done, { ended with resultConn := 0 }, stopStream w conn, false, .no⟩
  else
    match env.read.next with
    | .row => ⟨.row, { stmt with result := some ⟨0, 1, false⟩ }, w, false, .no⟩
    | .finished => ⟨.done, ended, stopStream w conn, false, .no⟩
    | .missing => failed (setLink w conn .down) none
    | .failed lost message => failed (if lost then setLink w conn .down else w) (some message)

/-- The next of the rows fetched at once. -/
def eagerNext (w : World ω) (stmt : Stmt ω) (rows : Rows) : Attempt ω :=
  if rows.count ≤ rows.current + 1 then
    ⟨.done, { stmt with result := none, resultConn := 0, readDone := true }, w, false, .no⟩
  else
    ⟨.row, { stmt with result := some { rows with current := rows.current + 1 } }, w, false, .no⟩

/-! ### The first step -/

/-- What follows a query that failed, by the class of its error. -/
def failRead (w : World ω) (stmt : Stmt ω) (conn : ConnId) (result : Option (Option Text))
    (env : Env) : Attempt ω :=
  let message := resultMessage result env.error.connMessage
  let stmt := { stmt with result := none }
  match failureClass w conn result env.error with
  | .stalePlan => ⟨.error, stmt, w, true, .no⟩
  | .retry => ⟨.error, stmt, checkHealth w conn env.health, true, .no⟩
  | .fail => ⟨.error, { stmt with readDone := true }, noteError w conn message, false, .no⟩

/-- Take the first row of a stream.  No result at all is answered as no rows. -/
def streamingFetch (w : World ω) (stmt : Stmt ω) (conn : ConnId) (env : Env) : Attempt ω :=
  let out := (w.link conn).query env.read.exec
  let w := w.after conn out.link out.committed
  let stmt := { stmt with resultConn := conn, streaming := none }
  match out.answer with
  | .failed none => ⟨.done, { stmt with readDone := true }, stopStream w conn, false, .no⟩
  | .failed (some message) => failRead (stopStream w conn) stmt conn (some message) env
  | .ok =>
    if env.read.rows = 0 then
      ⟨.done, { stmt with readDone := true }, stopStream w conn, false, .accepted⟩
    else
      ⟨.row, { stmt with streaming := some conn, result := some ⟨0, 1, false⟩ },
        w.setConn conn fun c => { c with streaming := true }, false, .accepted⟩

/-- Take every row at once. -/
def eagerFetch (w : World ω) (stmt : Stmt ω) (conn : ConnId) (env : Env) : Attempt ω :=
  let out := (w.link conn).query env.read.exec
  let w := w.after conn out.link out.committed
  match out.answer with
  | .failed result => failRead w stmt conn result env
  | .ok =>
    let stmt := { stmt with resultConn := conn, result := some ⟨0, env.read.rows, false⟩ }
    if env.read.rows = 0 then ⟨.done, { stmt with readDone := true }, w, false, .accepted⟩
    else ⟨.row, stmt, w, false, .accepted⟩

/-- May the rows be streamed?  Inside a transaction they may not: a stream in flight and
the next statement cannot share the connection. -/
def usesStreaming (cfg : Config) (w : World ω) (stmt : Stmt ω) (conn : ConnId) (env : ReadEnv) :
    Bool :=
  !cfg.disableStreaming && !stmt.needsRequery && !stmt.limitOne && !env.otherStreaming &&
    !w.inTransaction conn && env.singleRow

/-- What is sent before the query: a timeout is reset, and a statement not yet planned is. -/
def setUpRead (link : Link ω) (stmt : Stmt ω) (env : ReadEnv) : Outcome ω :=
  let setUp := if env.resetsTimeout then link.query env.timeout else .nothing link
  if stmt.usePrepared && !env.planCached then setUp.andThen (·.query env.prepare) else setUp

/-- Send the query and take its result. -/
def sendRead (cfg : Config) (w : World ω) (stmt : Stmt ω) (conn : ConnId) (env : Env) :
    Attempt ω :=
  let planned := setUpRead (w.link conn) stmt env.read
  let w := w.after conn planned.link planned.committed
  if !env.read.sendOk then failRead w stmt conn none env
  else if usesStreaming cfg w stmt conn env.read then streamingFetch w stmt conn env
  else eagerFetch w stmt conn env

/-- **The first step of a read**, `rust_step_read_first_execute`. -/
def firstExecute (cfg : Config) (w : World ω) (stmt : Stmt ω) (conn : ConnId) (env : Env) :
    Attempt ω :=
  match lockConnection w conn env.connect with
  | (none, w) => ⟨.error, stmt, w, true, .no⟩
  | (some conn, w) =>
    let stmt := { stmt with conn }
    match readyConnection w conn env.connect with
    | (false, w) => ⟨.error, stmt, w, true, .no⟩
    | (true, w) => sendRead cfg w stmt conn env

/-- **The read branch of one attempt**, on the connection chosen for it. -/
def readAttempt (cfg : Config) (w : World ω) (stmt : Stmt ω) (conn : ConnId) (env : Env) :
    Attempt ω :=
  if stmt.readDone then ⟨.done, stmt, w, false, .no⟩
  else
    match prepareReexecution w stmt conn with
    | (w, stmt) =>
      match stmt.streaming, stmt.result with
      | some source, _ => streamingNext w stmt source env
      | none, some rows => eagerNext w stmt rows
      | none, none => firstExecute cfg w stmt conn env

/-! The branches of a read, by what is kept of an execution in progress. -/

section Branch

variable {cfg : Config} {w w' : World ω} {stmt s : Stmt ω} {conn : ConnId} {env : Env}
  (more : stmt.readDone = false) (kept : prepareReexecution w stmt conn = (w', s))
include more kept

theorem readAttempt_streams {source : ConnId} (streams : s.streaming = some source) :
    readAttempt cfg w stmt conn env = streamingNext w' s source env := by
  rw [readAttempt, more, if_neg Bool.false_ne_true, kept]
  simp only [streams]

theorem readAttempt_fetched {rows : Rows} (whole : s.streaming = none)
    (held : s.result = some rows) : readAttempt cfg w stmt conn env = eagerNext w' s rows := by
  rw [readAttempt, more, if_neg Bool.false_ne_true, kept]
  simp only [whole, held]

theorem readAttempt_first (whole : s.streaming = none) (none : s.result = none) :
    readAttempt cfg w stmt conn env = firstExecute cfg w' s conn env := by
  rw [readAttempt, more, if_neg Bool.false_ne_true, kept]
  simp only [whole, none]

end Branch

end PlexPostgres.Step
