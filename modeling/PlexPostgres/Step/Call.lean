import PlexPostgres.Library.Attempts
import PlexPostgres.Step.Read
import PlexPostgres.Txn.Classify

/-!
# One call of `sqlite3_step`

A call is a sequence of attempts: `attempt` is `my_sqlite3_step_impl`, and an attempt
that answers `SQLITE_ERROR` while the thread's connection-error mark is set is followed
by another, as often as the configuration allows.  Each attempt starts from a statement
whose marks are cleared and from the world the one before it left.

The mark is a property of the thread: it outlives the call that set it.
-/

namespace PlexPostgres.Step

open Postgres Txn

variable {ω : Type*}

/-! ### Choosing the connection -/

/-- The connection a statement in mid-stream stays on, 0 if it is not this thread's. -/
def streamingConn (w : World ω) (stmt : Stmt ω) (env : LookupEnv) : ConnId :=
  match stmt.streaming with
  | none => 0
  | some conn => if isUsable w conn && env.sameThread then conn else 0

/-- The connection of a handle without a transaction: its own, or one of the pool. -/
def handleConn (w : World ω) (env : LookupEnv) : ConnId :=
  if env.found ≠ 0 && (w.conns env.found).active && env.served then
    if isUsable w env.found then env.found
    else if isUsable w env.pooled && (w.conns env.pooled).active then env.pooled
    else 0
  else 0

/-- **The connection an attempt runs on**, 0 if there is none. -/
def chooseConn (w : World ω) (stmt : Stmt ω) (env : LookupEnv) : ConnId × World ω :=
  let source := streamingConn w stmt env
  if source ≠ 0 then (source, w)
  else
    match stmt.shadow with
    | none => (0, w)
    | some db =>
      match w.pinnedConn db with
      | (pinned, w) =>
        -- Inside a transaction every statement of the handle runs where BEGIN went.
        if isUsable w pinned then (pinned, w) else (handleConn w env, w)

/-- **The connection a transaction command of `db` runs on.** -/
def transactionConnection (w : World ω) (db : DbId) (env : LookupEnv) : ConnId × World ω :=
  match w.pinnedConn db with
  | (pinned, w) =>
    if isUsable w pinned then (pinned, w)
    else if isUsable w env.found && (w.conns env.found).active then (env.found, w)
    else (0, w)

/-! ### One attempt -/

/-- Set the error message of the statement's connection, if it has one. -/
def noteStmtError (w : World ω) (stmt : Stmt ω) (message : Text) : World ω :=
  if stmt.conn = 0 then w else noteError w stmt.conn message

/-- **Transaction control** is forwarded; any other skipped statement is answered. -/
def controlAttempt (cfg : Config) (w : World ω) (stmt : Stmt ω) (env : Env) : Attempt ω :=
  match classifySql stmt.sql with
  | none => ⟨.done, stmt, w, false, .skipped⟩
  | some cmd =>
    if !cfg.forwarding then ⟨.done, stmt, w, false, .skipped⟩
    else
      let db := stmt.shadow.getD 0
      match transactionConnection w db env.lookup with
      | (conn, w) =>
        match w.run conn db cmd env.control with
        | (.ok (), w) => ⟨.done, stmt, w, false, .accepted⟩
        | (.error reason, w) =>
          let message := "PG transaction control failed: ".toList ++ stmt.sql ++
            " :: ".toList ++ reason
          let w := noteStmtError w stmt message
          ⟨.error, stmt, if conn = 0 then w else noteError w conn message, false, .no⟩

/-- **One attempt**, `my_sqlite3_step_impl` for a registered statement. -/
def attempt (cfg : Config) (w : World ω) (stmt : Stmt ω) (env : Env) : Attempt ω :=
  let shadow (w : World ω) : Attempt ω := ⟨.shadow env.lookup.shadowFails, stmt, w, false, .no⟩
  if env.lookup.inResolve then shadow w
  else
    match stmt.kind, stmt.pgSql with
    | .skipped, _ => controlAttempt cfg w stmt env
    | .sqlite, _ => shadow (chooseConn w stmt env.lookup).2
    | .write, none | .read, none =>
      let message := "PG step missing translated SQL: ".toList ++ stmt.sql.take 220
      ⟨.error, stmt, noteStmtError w stmt message, false, .no⟩
    | .write, some pgSql =>
      match chooseConn w stmt env.lookup with
      -- Nothing to run it on: the write is answered as done.
      | (0, w) => ⟨.done, stmt, w, false, .no⟩
      | (conn, w) => writeAttempt cfg w stmt pgSql conn env
    | .read, some _ =>
      match chooseConn w stmt env.lookup with
      | (0, w) => shadow w
      | (conn, w) => readAttempt cfg w stmt conn env

/-! ### The call -/

/-- A step that returns a row or finishes clears an earlier failure's message. -/
def forgetError (w : World ω) (stmt : Stmt ω) (rc : Rc) : World ω :=
  if rc.isError then w
  else
    let clear (w : World ω) (conn : ConnId) : World ω :=
      if conn = 0 then w else w.setConn conn fun c => { c with lastError := none }
    clear (clear w stmt.conn) stmt.resultConn

/-- **The outcome of a call**: the answer, the statement, the world and the thread's
connection-error mark after it, and what became of the statement. -/
structure Call (ω : Type*) where
  rc : Rc
  stmt : Stmt ω
  world : World ω
  connError : Bool
  served : Served

/-- Is an attempt followed by another?  `mark` is the connection-error mark after it. -/
def Attempt.isRetried (a : Attempt ω) (mark : Bool) : Bool :=
  a.rc.isError && mark && a.stmt.kind ≠ .sqlite

/-- A call that ends with this attempt. -/
def Attempt.finish (a : Attempt ω) (mark : Bool) : Call ω :=
  ⟨a.rc, a.stmt, forgetError a.world a.stmt a.rc, mark, a.served⟩

/-- **A call with `retries` retries left**, `rust_my_sqlite3_step`; `envs` has what each
attempt meets. -/
def stepTimes (cfg : Config) : ℕ → World ω → Bool → Stmt ω → (ℕ → Env) → Call ω
  | 0, w, mark, stmt, envs =>
    let a := attempt cfg w stmt (envs 0)
    a.finish (mark || a.connError)
  | retries + 1, w, mark, stmt, envs =>
    let a := attempt cfg w stmt (envs 0)
    if a.isRetried (mark || a.connError) then
      let (w, stmt) := clearResult a.world a.stmt
      stepTimes cfg retries w false stmt fun i => envs (i + 1)
    else a.finish (mark || a.connError)

/-- **A call of `sqlite3_step`**; `mark` is the thread's connection-error mark. -/
def step (cfg : Config) (w : World ω) (mark : Bool) (stmt : Stmt ω) (envs : ℕ → Env) : Call ω :=
  stepTimes cfg cfg.maxRetries w mark stmt envs

/-- The attempts of a call. -/
def attempts (cfg : Config) : Attempts (World ω × Stmt ω) Env where
  isRetried s mark env :=
    let a := attempt cfg s.1 s.2 env
    a.isRetried (mark || a.connError)
  next s env :=
    let a := attempt cfg s.1 s.2 env
    clearResult a.world a.stmt

/-- **What the attempts of a call meet**: those that are followed by another `again`, the
last one `last`. -/
def AttemptsMeet (cfg : Config) (again last : World ω → Stmt ω → Env → Prop) (retries : ℕ)
    (w : World ω) (mark : Bool) (stmt : Stmt ω) (envs : ℕ → Env) : Prop :=
  (attempts cfg).Meet (fun s => again s.1 s.2) (fun s => last s.1 s.2) retries (w, stmt) mark envs

/-- Every attempt of a call meets `ok`. -/
def EachAttempt (cfg : Config) (ok : World ω → Stmt ω → Env → Prop) (w : World ω) (mark : Bool)
    (stmt : Stmt ω) (envs : ℕ → Env) : Prop :=
  AttemptsMeet cfg ok ok cfg.maxRetries w mark stmt envs

/-- Every attempt that is followed by another meets `ok`. -/
def EachRetried (cfg : Config) (ok : World ω → Stmt ω → Env → Prop) (w : World ω) (mark : Bool)
    (stmt : Stmt ω) (envs : ℕ → Env) : Prop :=
  AttemptsMeet cfg ok (fun _ _ _ => True) cfg.maxRetries w mark stmt envs

variable {cfg : Config} {w : World ω} {mark : Bool} {stmt : Stmt ω} {envs : ℕ → Env}

/-- **The rule for a call**: what an attempt that is retried preserves holds before every
attempt, so what follows from it for one attempt is true of the last. -/
theorem AttemptsMeet.call {again last : World ω → Stmt ω → Env → Prop}
    (Inv : World ω → Stmt ω → Prop) (Post : Call ω → Prop)
    (retried : ∀ w stmt env, Inv w stmt → again w stmt env →
      (attempt cfg w stmt env).rc.isError = true →
      Inv (clearResult (attempt cfg w stmt env).world (attempt cfg w stmt env).stmt).1
        (clearResult (attempt cfg w stmt env).world (attempt cfg w stmt env).stmt).2)
    (finished : ∀ w stmt env mark, Inv w stmt → last w stmt env →
      Post ((attempt cfg w stmt env).finish mark)) {retries : ℕ}
    (meet : AttemptsMeet cfg again last retries w mark stmt envs) (start : Inv w stmt) :
    Post (stepTimes cfg retries w mark stmt envs) := by
  induction retries generalizing w mark stmt envs with
  | zero => exact finished w stmt (envs 0) _ start meet
  | succ retries ih =>
    rw [stepTimes]
    dsimp only
    split
    next isRetried =>
      have failed : (attempt cfg w stmt (envs 0)).rc.isError = true := by
        simp only [Attempt.isRetried, Bool.and_eq_true] at isRetried
        exact isRetried.1.1
      obtain ⟨ok, rest⟩ := meet.2 isRetried
      exact ih rest (retried w stmt (envs 0) start ok failed)
    next notRetried =>
      exact finished w stmt (envs 0) _ start (meet.1 (Bool.eq_false_iff.mpr notRetried))

variable {ok : World ω → Stmt ω → Env → Prop}

/-- A call makes at least one attempt. -/
theorem EachAttempt.first (each : EachAttempt cfg ok w mark stmt envs) :
    ok w stmt (envs 0) := by
  unfold EachAttempt at each
  cases retries : cfg.maxRetries with
  | zero =>
    rw [retries] at each
    exact each
  | succ n =>
    rw [retries] at each
    cases isRetried : (attempt cfg w stmt (envs 0)).isRetried
        (mark || (attempt cfg w stmt (envs 0)).connError) with
    | true => exact (each.2 isRetried).1
    | false => exact each.1 isRetried

/-- A condition that always holds is met by every attempt. -/
theorem EachAttempt.of_forall (always : ∀ w stmt env, ok w stmt env) (w : World ω) (mark : Bool)
    (stmt : Stmt ω) (envs : ℕ → Env) : EachAttempt cfg ok w mark stmt envs := by
  unfold EachAttempt
  induction cfg.maxRetries generalizing w mark stmt envs with
  | zero => exact always w stmt (envs 0)
  | succ n ih => exact ⟨fun _ => always w stmt (envs 0),
    fun _ => ⟨always w stmt (envs 0), ih _ _ _ _⟩⟩

/-- A call whose first attempt meets the condition and is not followed by another. -/
theorem EachAttempt.of_first (first : ok w stmt (envs 0))
    (only : (attempt cfg w stmt (envs 0)).isRetried
      (mark || (attempt cfg w stmt (envs 0)).connError) = false) :
    EachAttempt cfg ok w mark stmt envs := by
  unfold EachAttempt
  cases cfg.maxRetries with
  | zero => exact first
  | succ n =>
    exact ⟨fun _ => first, fun isRetried => absurd (only.symm.trans isRetried) Bool.false_ne_true⟩

end PlexPostgres.Step
