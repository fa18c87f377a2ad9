import PlexPostgres.Step.Effects

/-!
# Where an attempt sends its statement

An attempt looks for a connection, makes it ready and sends the statement there, or ends
before anything is sent.  `writePlace` and `readPlace` follow it to that point and give the
connection, with the world as it is when the statement is sent; `writeAttempt_of_place` and
`readAttempt_of_place` say that this is what the attempt does.
-/

namespace PlexPostgres.Step

open Postgres Txn

variable {ω : Type*}

/-- Nothing is sent for a write that a skip rule of the write path is about. -/
def isSkippedWrite (w : World ω) (stmt : Stmt ω) (pgSql : Text) (conn : ConnId) : Bool :=
  stmt.writeExecuted || (isTxnTerminator pgSql && !(w.link conn).inTransaction) ||
    isSpecialInsert pgSql stmt.params

/-- Nothing is sent for a statistics update that is left out. -/
def isSkippedUpdate (cfg : Config) (stmt : Stmt ω) : Bool :=
  cfg.skipStatsResources && stmt.pgSql.any isStatsResourcesUpdate

/-- The connection made ready for an attempt. -/
def readyPlace (w : World ω) (conn : ConnId) (env : ConnectEnv) : Option (ConnId × World ω) :=
  match lockConnection w conn env with
  | (none, _) => none
  | (some conn, w) =>
    match readyConnection w conn env with
    | (false, _) => none
    | (true, w) => if isUsable w conn then some (conn, w) else none

/-- **Where a write is sent**, on the connection chosen for the attempt. -/
def writePlace (cfg : Config) (w : World ω) (stmt : Stmt ω) (pgSql : Text) (conn : ConnId)
    (env : Env) : Option (ConnId × World ω) :=
  if isSkippedWrite w stmt pgSql conn || isSkippedUpdate cfg stmt then none
  else readyPlace w conn env.connect

/-- Where a write attempt sends anything: the write, or the query for the id that a special insert
takes when it is skipped. -/
def writeSends (cfg : Config) (w : World ω) (stmt : Stmt ω) (pgSql : Text) (conn : ConnId)
    (env : Env) : Option ConnId :=
  if !stmt.writeExecuted && !(isTxnTerminator pgSql && !(w.link conn).inTransaction) &&
      isSpecialInsert pgSql stmt.params && (w.link conn).isOk then some conn
  else (writePlace cfg w stmt pgSql conn env).map Prod.fst

/-- **Where a read is sent**, if it is not rows already here that are handed out; with the
statement as it is then. -/
def readPlace (w : World ω) (stmt : Stmt ω) (conn : ConnId) (env : Env) :
    Option (ConnId × World ω × Stmt ω) :=
  if stmt.readDone then none
  else
    match prepareReexecution w stmt conn with
    | (w, stmt) =>
      match stmt.streaming, stmt.result with
      | none, none =>
        (readyPlace w conn env.connect).map fun place =>
          (place.1, place.2, { stmt with conn := place.1 })
      | _, _ => none

/-- **Where transaction control is sent**, if anything is. -/
def controlPlace (cfg : Config) (w : World ω) (stmt : Stmt ω) (env : Env) : Option ConnId :=
  match classifySql stmt.sql with
  | none => none
  | some _ =>
    if cfg.forwarding && (transactionConnection w (stmt.shadow.getD 0) env.lookup).1 ≠ 0 then
      some (transactionConnection w (stmt.shadow.getD 0) env.lookup).1
    else none

/-- **The connection an attempt sends on**, if it sends anything. -/
def attemptPlace (cfg : Config) (w : World ω) (stmt : Stmt ω) (env : Env) : Option ConnId :=
  if env.lookup.inResolve then none
  else
    match stmt.kind, stmt.pgSql, chooseConn w stmt env.lookup with
    | .skipped, _, _ => controlPlace cfg w stmt env
    | .write, some pgSql, (conn, w) =>
      if conn = 0 then none else writeSends cfg w stmt pgSql conn env
    | .read, some _, (conn, w) =>
      if conn = 0 then none else (readPlace w stmt conn env).map Prod.fst
    | _, _, _ => none

/-! ### The attempt goes there -/

variable {w : World ω} {conn : ConnId} {env : ConnectEnv}

/-- A connection that is up and free is the place. -/
theorem readyPlace_of_up (nonNull : conn ≠ 0) (up : (w.link conn).isOk = true)
    (free : (w.conns conn).streaming = false) (alone : env.raced = false) :
    readyPlace w conn env = some (conn, w) := by
  simp only [readyPlace, lockConnection_of_up nonNull up free alone, readyConnection_of_up up,
    isUsable_of_up nonNull up, if_true]

/-- A connection made ready: it was locked, and is up. -/
theorem readyPlace_eq_some {w' : World ω} {d : ConnId}
    (place : readyPlace w conn env = some (d, w')) :
    ∃ w'', lockConnection w conn env = (some d, w'') ∧ readyConnection w'' d env = (true, w') ∧
      isUsable w' d = true := by
  unfold readyPlace at place
  split at place
  · cases place
  next d' w'' locked =>
    split at place
    · cases place
    next w''' ready =>
      split at place
      next usable =>
        cases place
        exact ⟨w'', locked, ready, usable⟩
      · cases place

/-- A connection that was locked and is ready is the place. -/
theorem readyPlace_of_ready {w' w'' : World ω} {d : ConnId}
    (locked : lockConnection w conn env = (some d, w'))
    (ready : readyConnection w' d env = (true, w'')) : readyPlace w conn env = some (d, w'') := by
  have nonNull : d ≠ 0 := by
    simpa using (Bool.and_eq_true_iff.mp (lockConnection_some locked).1).1
  have up : ((readyConnection w' d env).2.link d).isOk = true :=
    readyConnection_isOk (by rw [ready])
  rw [ready] at up
  simp only [readyPlace, locked, ready, isUsable_of_up nonNull up, if_true]

/-- **A write with a place is sent there.** -/
theorem writeAttempt_of_place {cfg : Config} {w' : World ω} {stmt : Stmt ω} {pgSql : Text}
    {d : ConnId} {env : Env} (place : writePlace cfg w stmt pgSql conn env = some (d, w')) :
    writeAttempt cfg w stmt pgSql conn env =
      settleWrite (afterSent cfg w' stmt d env)
        { stmt with conn := d } d (sent cfg w' stmt d env).answer env := by
  unfold writePlace at place
  split at place
  · cases place
  next runs =>
    obtain ⟨w'', locked, ready, usable⟩ := readyPlace_eq_some place
    simp only [isSkippedWrite, isSkippedUpdate, Bool.or_eq_true, not_or] at runs
    obtain ⟨⟨⟨fresh, proceeds⟩, ordinary⟩, counted⟩ := runs
    rw [writeAttempt, if_neg fresh, if_neg proceeds, if_neg ordinary, locked]
    dsimp only
    rw [ready]
    dsimp only
    rw [executeAndFinalize, if_neg (by simp [usable]), if_neg counted]
    rfl

/-- **A read with a place is sent there.** -/
theorem readAttempt_of_place {cfg : Config} {w' : World ω} {stmt s : Stmt ω} {d : ConnId}
    {env : Env} (place : readPlace w stmt conn env = some (d, w', s)) :
    readAttempt cfg w stmt conn env = sendRead cfg w' s d env := by
  unfold readPlace at place
  split at place
  · cases place
  next unfinished =>
    rw [readAttempt, if_neg unfinished]
    rcases kept : prepareReexecution w stmt conn with ⟨w₁, s₁⟩
    rw [kept] at place
    dsimp only at place ⊢
    split at place
    next stream rows =>
      obtain ⟨⟨d', w₂⟩, found, same⟩ := Option.map_eq_some_iff.mp place
      cases same
      obtain ⟨w'', locked, ready, -⟩ := readyPlace_eq_some found
      simp only [stream, rows, firstExecute, locked, ready]
    · cases place

end PlexPostgres.Step
