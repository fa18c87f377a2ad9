import PlexPostgres.Step.Answers

/-!
# The rows a statement answers

A statement that yields rows — a read, or a write whose own text has a RETURNING clause —
is stepped until it is done.  The rows answered ought to be those PostgreSQL produced for
one execution, each once and in order.

`Reading` follows a statement between resets and keeps what PostgreSQL did beside what was
answered: how often the statement was executed, how many rows the latest execution has,
and which row of which execution each answer was.  The server decides whether a stream has
a next row or has ended; only whether it breaks is left open.

A statement stepped by another thread, on another connection, is executed again and
answers its first row again; and of the rows of a RETURNING clause only the first is
answered (`rows_repeated_and_lost`).  `rows_exact`: in every run that keeps clear of these
and of what `Answerable` names, the rows are exact.
-/

namespace PlexPostgres.Step

open Postgres Txn

variable {ω : Type*}

/-! ### The last attempt of a call -/

/-- The state before an attempt, what it meets, and the connection-error mark after it. -/
structure Before (ω : Type*) where
  world : World ω
  stmt : Stmt ω
  env : Env
  mark : Bool

/-- **The attempt that answers for a call.** -/
def lastAttempt (cfg : Config) : ℕ → World ω → Bool → Stmt ω → (ℕ → Env) → Before ω
  | 0, w, mark, stmt, envs =>
    ⟨w, stmt, envs 0, mark || (attempt cfg w stmt (envs 0)).connError⟩
  | retries + 1, w, mark, stmt, envs =>
    let a := attempt cfg w stmt (envs 0)
    if a.isRetried (mark || a.connError) then
      lastAttempt cfg retries (clearResult a.world a.stmt).1 false
        (clearResult a.world a.stmt).2 fun i => envs (i + 1)
    else ⟨w, stmt, envs 0, mark || a.connError⟩

theorem stepTimes_eq_lastAttempt (cfg : Config) (retries : ℕ) (w : World ω) (mark : Bool)
    (stmt : Stmt ω) (envs : ℕ → Env) :
    stepTimes cfg retries w mark stmt envs =
      (attempt cfg (lastAttempt cfg retries w mark stmt envs).world
        (lastAttempt cfg retries w mark stmt envs).stmt
        (lastAttempt cfg retries w mark stmt envs).env).finish
          (lastAttempt cfg retries w mark stmt envs).mark := by
  induction retries generalizing w mark stmt envs with
  | zero => rfl
  | succ retries ih =>
    rw [stepTimes, lastAttempt]
    dsimp only
    split
    · exact ih _ _ _ _
    · rfl

variable {mark : Bool} {envs : ℕ → Env}

/-- What every attempt that is retried preserves holds before the last one. -/
theorem AttemptsMeet.lastAttempt {cfg : Config} {again last : World ω → Stmt ω → Env → Prop}
    (Inv : Stmt ω → Prop)
    (retried : ∀ w stmt env, Inv stmt → again w stmt env →
      Inv (attempt cfg w stmt env).stmt.cleared) {retries : ℕ} {w : World ω} {stmt : Stmt ω}
    (meet : AttemptsMeet cfg again last retries w mark stmt envs) (start : Inv stmt) :
    Inv (lastAttempt cfg retries w mark stmt envs).stmt ∧
      last (lastAttempt cfg retries w mark stmt envs).world
        (lastAttempt cfg retries w mark stmt envs).stmt
        (lastAttempt cfg retries w mark stmt envs).env := by
  induction retries generalizing w mark stmt envs with
  | zero => exact ⟨start, meet⟩
  | succ retries ih =>
    rw [Step.lastAttempt]
    split
    next isRetried =>
      obtain ⟨ok, rest⟩ := meet.2 isRetried
      exact ih rest (retried w stmt (envs 0) start ok)
    next only => exact ⟨start, meet.1 (Bool.eq_false_iff.mpr only)⟩

/-- An attempt that is not retried is the last. -/
theorem lastAttempt_of_only {cfg : Config} {w : World ω} {stmt : Stmt ω} (envs : ℕ → Env)
    (only : (attempt cfg w stmt (envs 0)).isRetried
      (mark || (attempt cfg w stmt (envs 0)).connError) = false) (retries : ℕ) :
    lastAttempt cfg retries w mark stmt envs =
      ⟨w, stmt, envs 0, mark || (attempt cfg w stmt (envs 0)).connError⟩ := by
  cases retries with
  | zero => rfl
  | succ retries =>
    rw [lastAttempt, if_neg (by simp [only])]

/-! ### What was answered -/

/-- **A statement between two resets**, and what it answered: how often PostgreSQL executed
it, the rows of the latest execution, how many of them were handed out, the row and the
execution of each answer, and whether a step of it failed. -/
structure Reading (ω : Type*) where
  stmt : Stmt ω
  execution : ℕ
  total : ℕ
  taken : ℕ
  answered : List (ℕ × ℕ)
  failed : Bool

/-- The rows PostgreSQL produces for an execution. -/
def rowsOf (stmt : Stmt ω) (env : Env) : ℕ :=
  if stmt.kind = .write then env.write.rows.getD 0 else env.read.rows

/-- The row of an execution the statement is at: a stream is at its latest, rows fetched at
once are at the current one. -/
def currentRow (stmt : Stmt ω) (streamed : ℕ) : ℕ :=
  if stmt.streaming.isSome then streamed else (stmt.result.map (·.current)).getD 0

/-- Does a stream break where it should go on? -/
def NextResult.breaks : NextResult → Bool
  | .row | .finished => false
  | .missing | .failed _ _ => true

namespace Reading

/-- As prepared. -/
def start (stmt : Stmt ω) : Reading ω := ⟨stmt.cleared, 0, 0, 0, [], false⟩

/-- **The server's part**: a stream that does not break gives its next row while there is
one, and then its end. -/
def supply (r : Reading ω) (env : Env) : Env :=
  { env with read := { env.read with
    next := if env.read.next.breaks then env.read.next
      else if r.taken < r.total then .row else .finished } }

/-- The reading after a call of `sqlite3_step`. -/
def after (r : Reading ω) (c : Call ω) (env : Env) : Reading ω :=
  let anew := c.served = .accepted
  let execution := if anew then r.execution + 1 else r.execution
  let streamed := if anew then 0 else r.taken
  { stmt := c.stmt
    execution
    total := if anew then rowsOf c.stmt env else r.total
    taken := if c.rc = .row then streamed + 1 else streamed
    answered := if c.rc = .row then r.answered ++ [(execution, currentRow c.stmt streamed)]
      else r.answered
    failed := c.rc.isError || r.failed && !anew }

/-- The answer to a step. -/
def call (cfg : Config) (r : Reading ω) (w : World ω) (mark : Bool) (envs : ℕ → Env) : Call ω :=
  Step.step cfg w mark r.stmt fun i => r.supply (envs i)

/-- **One use.** -/
def next (cfg : Config) (r : Reading ω) : Use ω → Reading ω
  | .reset => start r.stmt
  | .metadata conn rows =>
    if r.stmt.result.isSome then r
    else { r with stmt :=
      { r.stmt with result := some ⟨0, rows, true⟩, resultConn := conn } }
  | .step w mark envs =>
    r.after (r.call cfg w mark envs)
      (lastAttempt cfg cfg.maxRetries w mark r.stmt fun i => r.supply (envs i)).env

end Reading

/-! ### A statement at a row -/

/-- **A statement at a row**: `taken` rows of an execution that has `total` were handed
out. -/
inductive Stmt.At (total : ℕ) : ℕ → Stmt ω → Prop
  | written {stmt : Stmt ω} (kind : stmt.kind = .write) (executed : stmt.writeExecuted = true)
      (whole : stmt.streaming = none) : At total total stmt
  | finished {stmt : Stmt ω} (kind : stmt.kind = .read) (done : stmt.readDone = true)
      (whole : stmt.streaming = none) : At total total stmt
  | streaming {stmt : Stmt ω} {taken : ℕ} (kind : stmt.kind = .read)
      (more : stmt.readDone = false) (source : ConnId) (streams : stmt.streaming = some source)
      (own : stmt.resultConn = source) (row : stmt.result = some ⟨0, 1, false⟩)
      (within : taken ≤ total) : At total taken stmt
  | fetched {stmt : Stmt ω} {current : ℕ} (kind : stmt.kind = .read)
      (more : stmt.readDone = false) (whole : stmt.streaming = none)
      (row : stmt.result = some ⟨current, total, false⟩) (within : current < total) :
      At total (current + 1) stmt

namespace Stmt.At

variable {total taken : ℕ} {stmt : Stmt ω}

theorem le (at' : stmt.At total taken) : taken ≤ total := by
  cases at' with
  | written | finished => exact Nat.le_refl _
  | streaming _ _ _ _ _ _ within => exact within
  | fetched _ _ _ _ within => exact within

theorem marked (at' : stmt.At total taken) : stmt.Marked := by
  cases at' with
  | written _ executed => exact .inl executed
  | finished _ done => exact .inr (.inl done)
  | streaming _ _ _ streams => exact .inr (.inr (.inl (by simp [streams])))
  | fetched _ _ _ row => exact .inr (.inr (.inr (by simp [row])))

/-- A statement that holds no rows is done, so rows fetched for its metadata do not move
it. -/
theorem metadata (at' : stmt.At total taken) (empty : stmt.result = none) (conn : ConnId)
    (rows : ℕ) :
    ({ stmt with result := some ⟨0, rows, true⟩, resultConn := conn } : Stmt ω).At total taken := by
  cases at' with
  | written kind executed whole => exact .written kind executed whole
  | finished kind done whole => exact .finished kind done whole
  | streaming _ _ _ _ _ row =>
    rw [empty] at row
    cases row
  | fetched _ _ _ row =>
    rw [empty] at row
    cases row

end Stmt.At

/-- **The condition on an attempt** beside `Answerable`: a stream is stepped on its own
connection, which is open; and a write is sent, and has one row at most. -/
structure Deliverable (cfg : Config) (w : World ω) (stmt : Stmt ω) (env : Env) : Prop
    extends Answerable cfg w stmt env where
  onStream : ∀ source, stmt.streaming = some source →
    (chooseConn w stmt env.lookup).1 = source ∧ (w.link source).isClosed = false
  sends : stmt.kind = .write → ∀ pgSql, stmt.pgSql = some pgSql →
    isTxnTerminator pgSql = false ∧ isSpecialInsert pgSql stmt.params = false
  oneRow : stmt.kind = .write → ∀ rows, env.write.rows = some rows → rows ≤ 1

/-! ### One attempt -/

/-- **Where an attempt leaves a statement** of which `taken` rows were handed out: it fails,
all rows were handed out, or the next one is answered. -/
inductive Goes (total taken : ℕ) (a : Attempt ω) : Prop
  | failed (rc : a.rc = .error)
  | done (rc : a.rc = .done) (all : taken = total) (at' : a.stmt.At total total)
  | row (rc : a.rc = .row) (at' : a.stmt.At total (taken + 1))
      (here : currentRow a.stmt taken = taken)

variable {a : Attempt ω}

section Attempt

variable {cfg : Config} {w : World ω} {stmt : Stmt ω} {env : Env} {total taken : ℕ}

/-- **A later step** goes on with the execution: nothing is sent, and a failure leaves the
marks of the execution. -/
structure Continues (total taken : ℕ) (stmt : Stmt ω) (env : Env) (a : Attempt ω) : Prop where
  goes : Goes total taken a
  served : a.served = .no
  connError : a.connError = false
  marked : a.rc = .error → a.stmt.Marked
  broken : stmt.streaming.isSome = true → env.read.next.breaks = true → a.rc = .error

/-- **A later row of a stream.** -/
theorem streamingNext_continues {source : ConnId} (at' : stmt.At total taken)
    (streams : stmt.streaming = some source) (kind : stmt.kind = .read)
    (own : stmt.resultConn = source) (more : stmt.readDone = false)
    (isOpen : (w.link source).isClosed = false)
    (supplied : env.read.next.breaks = false →
      env.read.next = if taken < total then .row else .finished) :
    Continues total taken stmt env (streamingNext w stmt source env) := by
  unfold streamingNext
  dsimp only
  rw [isOpen, if_neg Bool.false_ne_true]
  cases next : env.read.next with
  | row =>
    have within : taken < total := by
      by_contra past
      have ended := supplied (by rw [next]; rfl)
      rw [next, if_neg past] at ended
      cases ended
    refine ⟨.row rfl (.streaming kind more source streams own rfl within) ?_, rfl, rfl, ?_, ?_⟩
    · simp [currentRow, streams]
    · intro failed
      cases failed
    · intro _ breaks
      rw [next] at breaks
      cases breaks
  | finished =>
    have all : taken = total := by
      by_contra fewer
      have within : taken < total := Nat.lt_of_le_of_ne at'.le fewer
      have given := supplied (by rw [next]; rfl)
      rw [next, if_pos within] at given
      cases given
    refine ⟨.done rfl all (.finished kind rfl rfl), rfl, rfl, ?_, ?_⟩
    · intro failed
      cases failed
    · intro _ breaks
      rw [next] at breaks
      cases breaks
  | missing => exact ⟨.failed rfl, rfl, rfl, fun _ => .inr (.inl rfl), fun _ _ => rfl⟩
  | failed lost message =>
    exact ⟨.failed rfl, rfl, rfl, fun _ => .inr (.inl rfl), fun _ _ => rfl⟩

/-- **A later one of the rows fetched at once.** -/
theorem eagerNext_continues {current : ℕ} (kind : stmt.kind = .read)
    (more : stmt.readDone = false) (whole : stmt.streaming = none) (within : current < total) :
    Continues total (current + 1) stmt env (eagerNext w stmt ⟨current, total, false⟩) := by
  have noStream (a : Attempt ω) :
      stmt.streaming.isSome = true → env.read.next.breaks = true → a.rc = .error := by
    intro streams
    rw [whole] at streams
    cases streams
  unfold eagerNext
  dsimp only
  split
  next last =>
    refine ⟨.done rfl ?_ (.finished kind rfl whole), rfl, rfl, ?_, noStream _⟩
    · omega
    · intro failed
      cases failed
  next notLast =>
    refine ⟨.row rfl (.fetched kind more whole rfl ?_) ?_, rfl, rfl, ?_, noStream _⟩
    · omega
    · simp [currentRow, whole]
    · intro failed
      cases failed

/-- A statement that is done is done again. -/
theorem continues_done (at' : stmt.At total total) (whole : stmt.streaming = none)
    (w : World ω) : Continues total total stmt env ⟨.done, stmt, w, false, .no⟩ := by
  refine ⟨.done rfl rfl at', rfl, rfl, ?_, ?_⟩
  · intro failed
    cases failed
  · intro streams
    rw [whole] at streams
    cases streams

/-- **A later step goes on with the execution**, a stream on its own connection. -/
theorem attempt_continues (at' : stmt.At total taken) (translated : stmt.Translated)
    (ok : Deliverable cfg w stmt env)
    (supplied : env.read.next.breaks = false →
      env.read.next = if taken < total then .row else .finished) :
    Continues total taken stmt env (attempt cfg w stmt env) := by
  obtain ⟨pgSql, conn, w', text, chosen, write, read⟩ := ok.attempt_eq translated
  have conns : w'.conns = w.conns := by
    have same := chooseConn_conns w stmt env.lookup
    rwa [chosen] at same
  cases at' with
  | written kind executed whole =>
    rw [write kind, writeAttempt, if_pos executed]
    exact continues_done (.written kind executed whole) whole w'
  | finished kind done whole =>
    rw [read kind, readAttempt, if_pos done]
    exact continues_done (.finished kind done whole) whole w'
  | streaming kind more source streams own row within =>
    obtain ⟨onIt, isOpen⟩ := ok.onStream source streams
    obtain rfl : conn = source := by rwa [chosen] at onIt
    have kept : prepareReexecution w' stmt conn = (w', stmt) := by
      simp [prepareReexecution, streams, own, row]
    have isOpen' : (w'.link conn).isClosed = false := by
      rw [World.link, conns]
      exact isOpen
    rw [read kind,
      readAttempt_streams more kept streams]
    exact streamingNext_continues (.streaming kind more conn streams own row within) streams kind
      own more isOpen' supplied
  | @fetched _ current kind more whole row within =>
    have kept : prepareReexecution w' stmt conn = (w', { stmt with resultConn := conn }) := by
      simp [prepareReexecution, whole, row]
    rw [read kind,
      readAttempt_fetched more kept whole row]
    have adopted : Continues total (current + 1) { stmt with resultConn := conn } env
        (eagerNext w' { stmt with resultConn := conn } ⟨current, total, false⟩) :=
      eagerNext_continues kind more whole within
    exact ⟨adopted.goes, adopted.served, adopted.connError, adopted.marked, adopted.broken⟩

/-! ### The first step -/

/-- **The first step** fails, or PostgreSQL accepts the statement and its rows begin. -/
structure Begins (total : ℕ) (a : Attempt ω) : Prop where
  goes : Goes total 0 a
  served : a.rc ≠ .error → a.served = .accepted

theorem begins_of_failed (failed : a.rc = .error) : Begins total a :=
  ⟨.failed failed, fun not => absurd failed not⟩

theorem firstExecute_begins (kind : stmt.kind = .read) (more : stmt.readDone = false)
    (whole : stmt.streaming = none) (conn : ConnId) (first : FirstResult cfg stmt env.read) :
    Begins env.read.rows (firstExecute cfg w stmt conn env) := by
  have ran := firstExecute_ran cfg w stmt conn env
  generalize firstExecute cfg w stmt conn env = a at ran ⊢
  cases ran with
  | failed => exact begins_of_failed rfl
  | missing conn w w' uses applied lost =>
    exact absurd lost (first (mayStream_of_usesStreaming uses) applied)
  | empty s w zero like stream done =>
    rw [zero]
    have whole' : s.streaming = none := by simpa [whole] using stream
    exact ⟨.done rfl rfl (.finished (like.same.1.trans kind) done whole'), fun _ => rfl⟩
  | streams conn w some =>
    refine ⟨.row rfl (.streaming kind more conn rfl rfl rfl ?_) ?_, fun _ => rfl⟩
    · omega
    · simp [currentRow]
  | fetched conn w some =>
    refine ⟨.row rfl (.fetched kind more whole rfl ?_) ?_, fun _ => rfl⟩
    · omega
    · simp [currentRow, whole]

/-- **The first step of a read**, whatever was fetched for its metadata before. -/
theorem readAttempt_begins (kind : stmt.kind = .read) (fresh : ¬ stmt.Marked) (conn : ConnId)
    (first : FirstResult cfg stmt env.read) :
    Begins env.read.rows (readAttempt cfg w stmt conn env) := by
  simp only [Stmt.Marked, not_or, Bool.not_eq_true, Option.isSome_eq_false_iff,
    Option.isNone_iff_eq_none] at fresh
  obtain ⟨-, more, whole, metadata⟩ := fresh
  have dropped : ∃ s, prepareReexecution w stmt conn = (w, s) ∧ s.kind = .read ∧
      s.readDone = false ∧ s.streaming = none ∧ s.result = none ∧
      FirstResult cfg s env.read := by
    cases result : stmt.result with
    | none => exact ⟨stmt, by simp [prepareReexecution, whole, result], kind, more, whole,
      result, first⟩
    | some rows =>
      have only : rows.metadataOnly = true := by simpa [result] using metadata
      exact ⟨{ stmt with resultConn := conn, result := none },
        by simp [prepareReexecution, whole, result, only], kind, more, whole, rfl, first⟩
  obtain ⟨s, prepared, kind', more', whole', none, first'⟩ := dropped
  rw [readAttempt_first more prepared whole' none]
  exact firstExecute_begins kind' more' whole' conn first'

/-- **The first step of a write with a RETURNING clause**, one row at most. -/
theorem writeAttempt_begins {pgSql : Text} (kind : stmt.kind = .write) (fresh : ¬ stmt.Marked)
    (returning : Text.containsIcase "RETURNING".toList stmt.sql = true)
    (text : stmt.pgSql = some pgSql) (conn : ConnId) (ok : Deliverable cfg w stmt env)
    (w' : World ω) :
    Begins (env.write.rows.getD 0) (writeAttempt cfg w' stmt pgSql conn env) := by
  simp only [Stmt.Marked, not_or, Bool.not_eq_true, Option.isSome_eq_false_iff,
    Option.isNone_iff_eq_none] at fresh
  obtain ⟨unexecuted, -, whole, -⟩ := fresh
  obtain ⟨notTerminator, notSpecial⟩ := ok.sends kind pgSql text
  have finishes (w : World ω) (conn : ConnId) :
      Begins (env.write.rows.getD 0) (finishWrite w { stmt with conn } conn env.write.rows) := by
    unfold finishWrite plexReadsReturningRows
    dsimp only
    rw [returning, Bool.and_true]
    cases rows : env.write.rows with
    | none => exact ⟨.done rfl rfl (.written kind rfl whole), fun _ => rfl⟩
    | some n =>
      have few := ok.oneRow kind n rows
      split
      next some =>
        obtain rfl : n = 1 := by
          simp only [Option.any_some, decide_eq_true_eq] at some
          omega
        refine ⟨.row rfl (.written kind rfl whole) ?_, fun _ => rfl⟩
        simp [currentRow, whole]
      next none =>
        obtain rfl : n = 0 := by
          simp only [Option.any_some, decide_eq_true_eq] at none
          omega
        exact ⟨.done rfl rfl (.written kind rfl whole), fun _ => rfl⟩
  have ran := writeAttempt_ran cfg w' text conn env
  generalize writeAttempt cfg w' stmt pgSql conn env = a at ran ⊢
  cases ran with
  | again executed => cases unexecuted.symm.trans executed
  | terminator applies => cases notTerminator.symm.trans applies
  | special _ applies => cases notSpecial.symm.trans applies
  | stats _ _ _ asked applies =>
    have kept := ok.kept kind asked
    simp [text, applies] at kept
  | noConnection | refused => exact begins_of_failed rfl
  | accepted d _ _ _ _ _ _ _ _ _ finished =>
    rw [← finished]
    exact finishes _ d

/-- **The first step of a statement that yields rows.** -/
theorem attempt_begins (translated : stmt.Translated) (fresh : ¬ stmt.Marked)
    (returning : stmt.kind = .write → Text.containsIcase "RETURNING".toList stmt.sql = true)
    (ok : Deliverable cfg w stmt env) : Begins (rowsOf stmt env) (attempt cfg w stmt env) := by
  obtain ⟨pgSql, conn, w', text, -, write, read⟩ := ok.attempt_eq translated
  unfold rowsOf
  rcases translated.kind with kind | kind
  · rw [if_pos kind, write kind]
    exact writeAttempt_begins kind fresh (returning kind) text conn ok w'
  · rw [if_neg (by simp [kind]), read kind]
    exact readAttempt_begins kind fresh conn ok.first

theorem Goes.done_of_not (goes : Goes total taken a) (succeeds : a.rc ≠ .error)
    (notRow : a.rc ≠ .row) : a.rc = .done := by
  cases goes with
  | failed rc => exact absurd rc succeeds
  | done rc => exact rc
  | row rc => exact absurd rc notRow

/-- What an attempt that succeeds adds to the rows answered so far. -/
theorem Goes.exact (goes : Goes total taken a) (succeeds : a.rc ≠ .error)
    {answered : List (ℕ × ℕ)} {execution : ℕ}
    (before : answered = (List.range taken).map (Prod.mk execution)) :
    a.stmt.At total (if a.rc = .row then taken + 1 else taken) ∧
      (if a.rc = .row then answered ++ [(execution, currentRow a.stmt taken)] else answered) =
        (List.range (if a.rc = .row then taken + 1 else taken)).map (Prod.mk execution) ∧
      (a.rc = .done → taken = total) := by
  cases goes with
  | failed rc => exact absurd rc succeeds
  | done rc all at' =>
    have notRow : a.rc ≠ .row := by
      rw [rc]
      exact Rc.noConfusion
    rw [if_neg notRow, if_neg notRow, all]
    exact ⟨at', before.trans (by rw [all]), fun _ => rfl⟩
  | row rc at' here =>
    rw [if_pos rc, if_pos rc, here, before, List.range_succ, List.map_append]
    refine ⟨at', rfl, fun isDone => ?_⟩
    rw [rc] at isDone
    cases isDone

end Attempt

/-- An attempt leaves the statement what it is. -/
theorem attempt_same {cfg : Config} {w : World ω} {stmt : Stmt ω} {env : Env}
    (translated : stmt.Translated) (ok : Answerable cfg w stmt env) :
    (attempt cfg w stmt env).stmt.Translated ∧
      (attempt cfg w stmt env).stmt.kind = stmt.kind ∧
      (attempt cfg w stmt env).stmt.sql = stmt.sql := by
  have justified : Justified true stmt (attempt cfg w stmt env) :=
    attempt_justified translated ok fun _ => rfl
  exact ⟨justified.translated translated, justified.kind, justified.sql⟩

/-! ### Whole runs -/

namespace Reading

variable {cfg : Config} {r : Reading ω}

/-- **The condition on a use**: a statement with marks on it is stepped only if they are not
those of a failed execution and no connection-error mark is left from an earlier call; and
each attempt is deliverable. -/
def UseOk (cfg : Config) (r : Reading ω) : Use ω → Prop
  | .reset | .metadata _ _ => True
  | .step w mark envs =>
    (r.stmt.Marked → r.failed = false ∧ mark = false) ∧
      EachAttempt cfg (Deliverable cfg) w mark r.stmt fun i => r.supply (envs i)

/-- **The rows answered are those of the latest execution**, each once and in order. -/
def InOrder (r : Reading ω) : Prop := r.answered = (List.range r.taken).map (Prod.mk r.execution)

/-- Nothing was answered before the first execution, and during one the rows are in
order. -/
structure Sound (r : Reading ω) : Prop where
  translated : r.stmt.Translated
  returning : r.stmt.kind = .write → Text.containsIcase "RETURNING".toList r.stmt.sql = true
  unread : ¬ r.stmt.Marked → r.answered = []
  exact : r.stmt.Marked → r.failed = false → r.stmt.At r.total r.taken ∧ r.InOrder

theorem supplied (r : Reading ω) (env : Env) (goesOn : (r.supply env).read.next.breaks = false) :
    (r.supply env).read.next = if r.taken < r.total then .row else .finished := by
  unfold supply at goesOn ⊢
  dsimp only at goesOn ⊢
  split
  next breaks =>
    rw [if_pos breaks, breaks] at goesOn
    cases goesOn
  · rfl

/-- **What answers for a step**: the statement before the last attempt is still the same,
and that attempt goes on with the execution or begins one. -/
structure Answers (cfg : Config) (r : Reading ω) (first : Env) (last : Before ω) : Prop where
  same : last.stmt.kind = r.stmt.kind ∧ last.stmt.sql = r.stmt.sql
  translated : last.stmt.Translated
  deliverable : Deliverable cfg last.world last.stmt last.env
  answer : r.stmt.Marked ∧ last.env = r.supply first ∧
      Continues r.total r.taken r.stmt last.env (attempt cfg last.world last.stmt last.env) ∨
    ¬ r.stmt.Marked ∧
      Begins (rowsOf r.stmt last.env) (attempt cfg last.world last.stmt last.env)

theorem Sound.answers (sound : r.Sound) {w : World ω} (ok : UseOk cfg r (.step w mark envs)) :
    Answers cfg r (envs 0)
      (lastAttempt cfg cfg.maxRetries w mark r.stmt fun i => r.supply (envs i)) := by
  by_cases marked : r.stmt.Marked
  · obtain ⟨unfailed, unmarked⟩ := ok.1 marked
    have deliverable := ok.2.first
    have continues : Continues r.total r.taken r.stmt (r.supply (envs 0))
        (attempt cfg w r.stmt (r.supply (envs 0))) :=
      attempt_continues (sound.exact marked unfailed).1 sound.translated deliverable
        (r.supplied (envs 0))
    have only : (attempt cfg w r.stmt (r.supply (envs 0))).isRetried
        (mark || (attempt cfg w r.stmt (r.supply (envs 0))).connError) = false := by
      rw [unmarked, continues.connError]
      simp [Attempt.isRetried]
    rw [lastAttempt_of_only (fun i => r.supply (envs i)) only]
    exact ⟨⟨rfl, rfl⟩, sound.translated, deliverable, .inl ⟨marked, rfl, continues⟩⟩
  · obtain ⟨⟨translated, kind, sql, fresh⟩, deliverable⟩ := AttemptsMeet.lastAttempt
      (fun s => s.Translated ∧ s.kind = r.stmt.kind ∧ s.sql = r.stmt.sql ∧ ¬ s.Marked)
      (fun w s env before ok => by
        obtain ⟨after, kind, sql⟩ := attempt_same before.1 ok.toAnswerable
        exact ⟨⟨after.kind, after.text⟩, kind.trans before.2.1, sql.trans before.2.2.1,
          Stmt.not_marked_cleared _⟩)
      ok.2 ⟨sound.translated, rfl, rfl, marked⟩
    refine ⟨⟨kind, sql⟩, translated, deliverable, .inr ⟨marked, ?_⟩⟩
    have begins := attempt_begins translated fresh ?_ deliverable
    · have rows : rowsOf r.stmt = rowsOf (lastAttempt cfg cfg.maxRetries w mark r.stmt
          fun i => r.supply (envs i)).stmt := by
        unfold rowsOf
        rw [kind]
      rw [rows]
      exact begins
    · rw [kind, sql]
      exact sound.returning

/-- What an attempt that succeeds makes of a reading. -/
theorem after_exact {env : Env} {total : ℕ}
    (goes : Goes total (if a.served = .accepted then 0 else r.taken) a) (succeeds : a.rc ≠ .error)
    (rows : (r.after (a.finish mark) env).total = total)
    (before : r.answered =
      (List.range (if a.served = .accepted then 0 else r.taken)).map
        (Prod.mk (if a.served = .accepted then r.execution + 1 else r.execution))) :
    let r' := r.after (a.finish mark) env
    r'.stmt.At r'.total r'.taken ∧ r'.InOrder ∧ (a.rc = .done → r'.taken = r'.total) := by
  obtain ⟨at', inOrder, all⟩ := goes.exact succeeds before
  refine ⟨?_, inOrder, fun isDone => ?_⟩
  · rw [rows]
    exact at'
  · have notRow : a.rc ≠ .row := by
      rw [isDone]
      exact Rc.noConfusion
    rw [rows]
    show (if a.rc = .row then _ else _) = total
    rw [if_neg notRow]
    exact all isDone

/-- **A step that meets the condition** fails, or its rows are in order, all of them if it
is done; a stream that breaks makes it fail. -/
theorem Sound.step (sound : r.Sound) {w : World ω} (ok : UseOk cfg r (.step w mark envs)) :
    let c := r.call cfg w mark envs
    let r' := r.next cfg (.step w mark envs)
    (c.rc = .error ∨ (c.rc = .row ∧ r'.taken ≤ r'.total ∨ c.rc = .done ∧ r'.taken = r'.total) ∧
        r'.InOrder) ∧
      (r.stmt.streaming.isSome = true → (envs 0).read.next.breaks = true → c.rc = .error) ∧
      r'.Sound := by
  have answers := sound.answers ok
  have called : r.call cfg w mark envs = _ :=
    stepTimes_eq_lastAttempt cfg cfg.maxRetries w mark r.stmt fun i => r.supply (envs i)
  intro c r'
  have after : r' = r.after (r.call cfg w mark envs) (lastAttempt cfg cfg.maxRetries w mark r.stmt
      fun i => r.supply (envs i)).env := rfl
  have same : c = r.call cfg w mark envs := rfl
  clear_value c r'
  subst same after
  rw [called]
  generalize lastAttempt cfg cfg.maxRetries w mark r.stmt (fun i => r.supply (envs i)) = last
    at answers
  obtain ⟨⟨kind, sql⟩, translated, deliverable, answer⟩ := answers
  obtain ⟨after, kind', sql'⟩ := attempt_same translated deliverable.toAnswerable
  generalize attempt cfg last.world last.stmt last.env = a at *
  have returning : a.stmt.kind = .write →
      Text.containsIcase "RETURNING".toList a.stmt.sql = true := by
    rw [kind', kind, sql', sql]
    exact sound.returning
  by_cases failed : a.rc = .error
  · -- A failure adds no row; during an execution it leaves the marks, before one none.
    refine ⟨.inl failed, fun _ _ => failed, ⟨after, returning, fun unmarked => ?_, ?_⟩⟩
    · have unread : ¬ r.stmt.Marked := by
        rcases answer with ⟨-, -, continues⟩ | ⟨unread, -⟩
        · exact absurd (continues.marked failed) unmarked
        · exact unread
      show (if a.rc = .row then _ else r.answered) = []
      rw [failed]
      exact sound.unread unread
    · intro _ unfailed
      have broke : (a.rc.isError || r.failed && !(a.served = .accepted)) = false := unfailed
      rw [failed, Bool.or_eq_false_iff] at broke
      cases broke.1
  · have exact : let r' := r.after (a.finish last.mark) last.env
        r'.stmt.At r'.total r'.taken ∧ r'.InOrder ∧ (a.rc = .done → r'.taken = r'.total) := by
      rcases answer with ⟨marked, -, continues⟩ | ⟨unread, begins⟩
      · have unfailed := (ok.1 marked).1
        have notAnew : a.served ≠ .accepted := by
          rw [continues.served]
          exact Served.noConfusion
        refine after_exact ?_ failed (if_neg notAnew) ?_
        · rw [if_neg notAnew]
          exact continues.goes
        · rw [if_neg notAnew, if_neg notAnew]
          exact (sound.exact marked unfailed).2
      · have anew := begins.served failed
        have rows : rowsOf a.stmt last.env = rowsOf r.stmt last.env := by
          unfold rowsOf
          rw [kind', kind]
        refine after_exact ?_ failed ((if_pos anew).trans rows) ?_
        · rw [if_pos anew]
          exact begins.goes
        · rw [if_pos anew, if_pos anew]
          exact sound.unread unread
    obtain ⟨at', inOrder, all⟩ := exact
    refine ⟨.inr ⟨?_, inOrder⟩, fun streams breaks => ?_, ⟨after, returning, ?_, ?_⟩⟩
    · by_cases isRow : a.rc = .row
      · exact .inl ⟨isRow, at'.le⟩
      · have isDone : a.rc = .done := by
          rcases answer with ⟨-, -, continues⟩ | ⟨-, begins⟩
          · exact continues.goes.done_of_not failed isRow
          · exact begins.goes.done_of_not failed isRow
        exact .inr ⟨isDone, all isDone⟩
    · rcases answer with ⟨-, env, continues⟩ | ⟨unread, -⟩
      · refine absurd (continues.broken streams ?_) failed
        rw [env, supply, if_pos breaks]
        exact breaks
      · exact absurd (.inr (.inr (.inl streams))) unread
    · exact fun unmarked => absurd at'.marked unmarked
    · exact fun _ _ => ⟨at', inOrder⟩

theorem sound_start {stmt : Stmt ω} (translated : stmt.Translated)
    (returning : stmt.kind = .write → Text.containsIcase "RETURNING".toList stmt.sql = true) :
    (start stmt).Sound where
  translated := ⟨translated.kind, translated.text⟩
  returning := returning
  unread _ := rfl
  exact marked := absurd marked (Stmt.not_marked_cleared stmt)

/-- Every use keeps it so. -/
theorem Sound.next (sound : r.Sound) {use : Use ω} (ok : UseOk cfg r use) :
    (r.next cfg use).Sound := by
  cases use with
  | reset => exact sound_start sound.translated sound.returning
  | metadata conn rows =>
    rw [Reading.next]
    split
    · exact sound
    next absent =>
      have empty : r.stmt.result = none := by simpa using absent
      -- Rows fetched for the metadata are no mark, and a statement with rows has them.
      have same : ({ r.stmt with result := some ⟨0, rows, true⟩, resultConn := conn } :
          Stmt ω).Marked ↔ r.stmt.Marked := by
        simp [Stmt.Marked, empty]
      refine ⟨⟨sound.translated.kind, sound.translated.text⟩, sound.returning, ?_, ?_⟩
      · intro unmarked
        exact sound.unread fun marked => unmarked (same.mpr marked)
      · intro marked unfailed
        obtain ⟨at', inOrder⟩ := sound.exact (same.mp marked) unfailed
        exact ⟨at'.metadata empty conn rows, inOrder⟩
  | step w mark envs => exact (sound.step ok).2.2

end Reading

open Reading in
/-- **The rows are exact**: in every run of uses that meet the condition, a step that is done
has answered, since the last reset, every row of one execution, each once and in order; a
step that answers a row has answered the first rows of one, in order; a step whose stream
breaks fails; and none is left to the shadow statement. -/
theorem rows_exact (cfg : Config) (stmt : Stmt ω) (translated : stmt.Translated)
    (returning : stmt.kind = .write → Text.containsIcase "RETURNING".toList stmt.sql = true)
    (uses : List (Use ω)) (meets : Runs.Meets (next cfg) (UseOk cfg) (start stmt) uses)
    (earlier : List (Use ω)) (w : World ω) (mark : Bool) (envs : ℕ → Env)
    (reached : earlier ++ [.step w mark envs] <+: uses) :
    let r := Runs.final (next cfg) (start stmt) earlier
    let c := r.call cfg w mark envs
    let r' := r.next cfg (.step w mark envs)
    (c.rc = .done → r'.answered = (List.range r'.total).map (Prod.mk r'.execution)) ∧
      (c.rc = .row → r'.answered = (List.range r'.taken).map (Prod.mk r'.execution) ∧
        r'.taken ≤ r'.total) ∧
      (r.stmt.streaming.isSome = true → (envs 0).read.next.breaks = true → c.rc = .error) ∧
      ∀ fails, c.rc ≠ .shadow fails := by
  obtain ⟨before, now⟩ := (Runs.meets_append _ _ _).mp (meets.shorter reached)
  have sound : (Runs.final (next cfg) (start stmt) earlier).Sound :=
    before.invariant Sound (fun _ _ sound ok => sound.next ok) (sound_start translated returning)
  obtain ⟨answer, broken, -⟩ := sound.step now.1
  intro r c r'
  refine ⟨fun isDone => ?_, fun isRow => ?_, broken, fun fails isShadow => ?_⟩
  · rcases answer with failed | ⟨⟨isRow, -⟩ | ⟨-, all⟩, inOrder⟩
    · rw [isDone] at failed
      cases failed
    · rw [isDone] at isRow
      cases isRow
    · rw [← all]
      exact inOrder
  · rcases answer with failed | ⟨⟨-, within⟩ | ⟨isDone, -⟩, inOrder⟩
    · rw [isRow] at failed
      cases failed
    · exact ⟨inOrder, within⟩
    · rw [isRow] at isDone
      cases isDone
  · rcases answer with failed | ⟨⟨isRow, -⟩ | ⟨isDone, -⟩, -⟩
    · rw [isShadow] at failed
      cases failed
    · rw [isShadow] at isRow
      cases isRow
    · rw [isShadow] at isDone
      cases isDone

/-- Two rows to read, and nothing goes wrong. -/
def Env.twoRows (conn : ConnId) : Env :=
  { Env.calm conn with read := { (Env.calm conn).read with rows := 2 } }

/-- The columns are asked for, then both rows are taken, then the end. -/
def readTwo : List (Use ℕ) :=
  .metadata 1 0 :: List.replicate 3 (.step .fresh false fun _ => .twoRows 1)

theorem chooseConn_twoRows {stmt : Stmt ℕ} (shadow : stmt.shadow = some 7)
    (source : stmt.streaming = none ∨ stmt.streaming = some 1) :
    chooseConn .fresh stmt (Env.twoRows 1).lookup = (1, .fresh) := by
  rcases source with none | streams
  · simp only [chooseConn, streamingConn, none, shadow]
    rfl
  · simp only [chooseConn, streamingConn, streams]
    rfl

theorem deliverable_twoRows {r : Reading ℕ} (kind : r.stmt.kind = .read)
    (shadow : r.stmt.shadow = some 7)
    (source : r.stmt.streaming = none ∨ r.stmt.streaming = some 1) :
    Deliverable forwarding .fresh r.stmt (r.supply (.twoRows 1)) where
  inShim := rfl
  connected := by
    show (chooseConn .fresh r.stmt (Env.twoRows 1).lookup).1 ≠ 0
    rw [chooseConn_twoRows shadow source]
    exact Nat.one_ne_zero
  kept write := by
    rw [kind] at write
    cases write
  first _ applied lost := by cases lost
  onStream conn streams := by
    show (chooseConn .fresh r.stmt (Env.twoRows 1).lookup).1 = conn ∧ _
    rw [chooseConn_twoRows shadow source]
    rcases source with none | one
    · rw [none] at streams
      cases streams
    · rw [one] at streams
      cases streams
      exact ⟨rfl, rfl⟩
  sends write := by
    rw [kind] at write
    cases write
  oneRow write := by
    rw [kind] at write
    cases write

theorem rows_exact_of_two :
    Runs.Meets (Reading.next forwarding) (Reading.UseOk forwarding) (.start selection) readTwo ∧
      (Runs.final (Reading.next forwarding) (.start selection) readTwo).answered =
        [(1, 0), (1, 1)] := by
  have useOk (r : Reading ℕ) (kind : r.stmt.kind = .read) (shadow : r.stmt.shadow = some 7)
      (source : r.stmt.streaming = none ∨ r.stmt.streaming = some 1) (unfailed : r.failed = false)
      (only : (attempt forwarding .fresh r.stmt (r.supply (.twoRows 1))).rc.isError = false) :
      r.UseOk forwarding (.step .fresh false fun _ => .twoRows 1) :=
    ⟨fun _ => ⟨unfailed, rfl⟩, .of_first (deliverable_twoRows kind shadow source)
      (by simp [Attempt.isRetried, only])⟩
  have met : Runs.Meets (Reading.next forwarding) (Reading.UseOk forwarding) (.start selection)
      readTwo :=
    ⟨trivial, useOk _ rfl rfl (by decide) rfl (by decide),
      useOk _ (by decide) (by decide) (by decide) (by decide) (by decide),
      useOk _ (by decide) (by decide) (by decide) (by decide) (by decide), trivial⟩
  have exact := rows_exact forwarding selection ⟨.inr rfl, rfl⟩ (by decide) readTwo met
    (.metadata 1 0 :: List.replicate 2 (.step .fresh false fun _ => .twoRows 1)) .fresh false
    (fun _ => .twoRows 1) List.prefix_rfl
  exact ⟨met, exact.1 (by decide)⟩

/-- The other thread steps, and the pool hands it connection 2. -/
def Env.otherThread : Env :=
  { Env.twoRows 2 with lookup := { (Env.twoRows 2).lookup with sameThread := false } }

/-- A write whose own text returns rows; it changes two. -/
def updateReturning : Stmt ℕ :=
  .prepared .write "UPDATE t SET a = 1 RETURNING id".toList
    (some "UPDATE t SET a = 1 RETURNING id".toList) 0 7

/-- Two rows come back from a write. -/
def Env.returnsTwo : Env :=
  { Env.calm 1 with write := { (Env.calm 1).write with rows := some 2 } }

/-- **Rows repeated, and rows lost.**  A read of two rows that crosses threads after the
first is done after three; a write that returns two rows is done after one. -/
theorem rows_repeated_and_lost :
    let own : Use ℕ := .step .fresh false fun _ => .twoRows 1
    let other : Use ℕ := .step .fresh false fun _ => .otherThread
    let crossed := Runs.final (Reading.next forwarding) (.start selection) [own, other, other]
    let write : Use ℕ := .step .fresh false fun _ => .returnsTwo
    let returned := Runs.final (Reading.next forwarding) (.start updateReturning) [write]
    ((crossed.call forwarding .fresh false fun _ => .otherThread).rc = .done ∧
        crossed.answered = [(1, 0), (2, 0), (2, 1)] ∧ crossed.total = 2) ∧
      (returned.call forwarding .fresh false fun _ => .returnsTwo).rc = .done ∧
        returned.answered = [(1, 0)] ∧ returned.total = 2 := by
  refine ⟨⟨?_, ?_, ?_⟩, ?_, ?_, ?_⟩ <;> decide

end PlexPostgres.Step
