import PlexPostgres.Step.Call

/-!
# What an attempt can do to the world

Two relations say what the parts of an attempt that send nothing can change:
`Unmoved`, where only error messages differ, and `Tended`, where connections may have
been closed, reset or connected anew — they lose their session and the registry may
forget them, but nothing is sent and nothing becomes durable.

`WriteRan` lists everything a write attempt can be; `writeAttempt_ran` is the inversion
that the proofs about writes start from.  `FirstRan` and `firstExecute_ran` are the same for
the first step of a read.
-/

namespace PlexPostgres.Step

open Postgres Txn

variable {ω : Type*}

/-! ### Messages -/

/-- **Only error messages differ.** -/
structure Unmoved (w w' : World ω) : Prop where
  link : ∀ d, w'.link d = w.link d
  active : ∀ d, (w'.conns d).active = (w.conns d).active
  streaming : ∀ d, (w'.conns d).streaming = (w.conns d).streaming
  registry : w'.registry = w.registry
  durable : w'.durable = w.durable

namespace Unmoved

theorem refl (w : World ω) : Unmoved w w := ⟨fun _ => rfl, fun _ => rfl, fun _ => rfl, rfl, rfl⟩

theorem trans {w w' w'' : World ω} (h : Unmoved w w') (h' : Unmoved w' w'') : Unmoved w w'' where
  link d := (h'.link d).trans (h.link d)
  active d := (h'.active d).trans (h.active d)
  streaming d := (h'.streaming d).trans (h.streaming d)
  registry := h'.registry.trans h.registry
  durable := h'.durable.trans h.durable

/-- Changing the message of one connection. -/
theorem setConn (w : World ω) (conn : ConnId) (message : Option Text) :
    Unmoved w (w.setConn conn fun c => { c with lastError := message }) where
  link := w.setConn_rel (r := fun c c' => c'.link = c.link) (fun _ => rfl) conn rfl
  active := w.setConn_rel (r := fun c c' => c'.active = c.active) (fun _ => rfl) conn rfl
  streaming := w.setConn_rel (r := fun c c' => c'.streaming = c.streaming) (fun _ => rfl) conn rfl
  registry := rfl
  durable := rfl

end Unmoved

theorem noteError_unmoved (w : World ω) (conn : ConnId) (message : Text) :
    Unmoved w (noteError w conn message) := .setConn w conn _

theorem noteStmtError_unmoved (w : World ω) (stmt : Stmt ω) (message : Text) :
    Unmoved w (noteStmtError w stmt message) := by
  unfold noteStmtError
  split
  · exact .refl w
  · exact noteError_unmoved w _ _

theorem forgetError_unmoved (w : World ω) (stmt : Stmt ω) (rc : Rc) :
    Unmoved w (forgetError w stmt rc) := by
  have clear : ∀ (w : World ω) (conn : ConnId),
      Unmoved w (if conn = 0 then w else w.setConn conn fun c => { c with lastError := none }) := by
    intro w conn
    split
    · exact .refl w
    · exact .setConn w conn none
  unfold forgetError
  split
  · exact .refl w
  · exact (clear w stmt.conn).trans (clear _ stmt.resultConn)

/-! ### Connections looked after -/

/-- **Connections were looked after**: each is as before or has lost its session, the
registry knows the same or less, and nothing became durable. -/
structure Tended (w w' : World ω) : Prop where
  link : ∀ d, w'.link d = w.link d ∨ (w'.link d).inTransaction = false
  streaming : ∀ d, (w'.conns d).streaming = true → (w.conns d).streaming = true
  byConn : ∀ d, w'.registry.byConn d = w.registry.byConn d ∨ w'.registry.byConn d = none
  pins : ∀ db, w'.registry.pins db = w.registry.pins db ∨ w'.registry.pins db = none
  durable : w'.durable = w.durable

namespace Tended

theorem of_unmoved {w w' : World ω} (h : Unmoved w w') : Tended w w' where
  link d := .inl (h.link d)
  streaming d on := (h.streaming d).symm.trans on
  byConn d := .inl (by rw [h.registry])
  pins db := .inl (by rw [h.registry])
  durable := h.durable

theorem refl (w : World ω) : Tended w w := .of_unmoved (.refl w)

theorem trans {w w' w'' : World ω} (h : Tended w w') (h' : Tended w' w'') : Tended w w'' where
  link d := by
    rcases h'.link d with same | fresh
    · rw [same]
      exact h.link d
    · exact .inr fresh
  streaming d on := h.streaming d (h'.streaming d on)
  byConn d := by
    rcases h'.byConn d with same | gone
    · rw [same]
      exact h.byConn d
    · exact .inr gone
  pins db := by
    rcases h'.pins db with same | gone
    · rw [same]
      exact h.pins db
    · exact .inr gone
  durable := h'.durable.trans h.durable

/-- A change of one connection that leaves its session alone or takes it away. -/
theorem setConn (w : World ω) (conn : ConnId) {f : Connection ω → Connection ω}
    (link : ∀ c, (f c).link = c.link ∨ (f c).link.inTransaction = false)
    (streaming : ∀ c, (f c).streaming = true → c.streaming = true) :
    Tended w (w.setConn conn f) where
  link := w.setConn_rel (r := fun c c' => c'.link = c.link ∨ c'.link.inTransaction = false)
    (fun _ => .inl rfl) conn (link _)
  streaming := w.setConn_rel (r := fun c c' => c'.streaming = true → c.streaming = true)
    (fun _ on => on) conn (streaming _)
  byConn _ := .inl rfl
  pins _ := .inl rfl
  durable := rfl

/-- A statement after which a connection is as before or has lost its session. -/
theorem after (w : World ω) (conn : ConnId) {link : Link ω}
    (same : link = w.link conn ∨ link.inTransaction = false) : Tended w (w.after conn link []) where
  link := w.setConn_rel (r := fun c c' => c'.link = c.link ∨ c'.link.inTransaction = false)
    (fun _ => .inl rfl) conn (f := ({ · with link })) same
  streaming := w.setConn_rel (r := fun c c' => c'.streaming = true → c.streaming = true)
    (fun _ on => on) conn (f := ({ · with link })) id
  byConn _ := .inl rfl
  pins _ := .inl rfl
  durable := by simp

theorem forget (w : World ω) (conn : ConnId) :
    Tended w (w.mapRegistry (·.forgetConnection conn)) where
  link _ := .inl rfl
  streaming _ on := on
  byConn d := by
    by_cases here : d = conn
    · exact .inr (by simp [Registry.forgetConnection, here])
    · exact .inl (by simp [Registry.forgetConnection, here])
  pins db := by
    cases pin : w.registry.pins db with
    | none => exact .inr (by simp [Registry.forgetConnection, pin])
    | some d =>
      by_cases here : d = conn
      · exact .inr (by simp [Registry.forgetConnection, pin, here])
      · exact .inl (by simp [Registry.forgetConnection, pin, here])
  durable := rfl

theorem setLink {link : Link ω} (fresh : link.inTransaction = false) (w : World ω)
    (conn : ConnId) : Tended w (Step.setLink w conn link) := by
  unfold Step.setLink
  exact .setConn w conn (fun _ => .inr fresh) fun _ on => on

theorem reset (w : World ω) (conn : ConnId) (ok : Bool) :
    Tended w (resetConnection w conn ok) := by
  refine (setLink ?_ w conn).trans (.forget _ conn)
  cases ok <;> rfl

theorem anew (w : World ω) (conn : ConnId) (ok : Bool) : Tended w (connectAnew w conn ok) := by
  unfold connectAnew
  split
  · exact .setConn w conn (fun _ => .inr rfl) fun _ on => on
  · exact .setConn w conn (fun _ => .inr rfl) fun _ on => on

end Tended

section

variable (w : World ω)
include w

theorem afterRace_tended (conn : ConnId) (raced : Bool) :
    Tended w (afterRace w conn raced) := by
  cases raced with
  | false => exact .refl w
  | true => exact .setLink rfl w conn

theorem lockConnection_tended (conn : ConnId) (env : ConnectEnv) :
    Tended w (lockConnection w conn env).2 := by
  have raced := afterRace_tended w (lookAgain w conn env) env.raced
  unfold lockConnection
  dsimp only
  split
  · exact .refl w
  split
  · exact raced
  split
  · refine raced.trans ?_
    unfold alternateConnection
    split
    · exact afterRace_tended _ _ _
    · exact .refl _
  · exact raced

theorem readyConnection_tended (conn : ConnId) (env : ConnectEnv) :
    Tended w (readyConnection w conn env).2 := by
  unfold readyConnection
  split
  · exact .refl w
  · dsimp only
    split
    · exact .reset w conn _
    · exact (Tended.reset w conn _).trans (.anew _ conn _)

theorem checkHealth_tended (conn : ConnId) (env : HealthEnv) :
    Tended w (checkHealth w conn env) := by
  unfold checkHealth
  split
  · exact .refl w
  · have stopped : Tended w (w.setConn conn fun c => { c with streaming := false }) :=
      .setConn w conn (fun _ => .inl rfl) fun _ off => by cases off
    have quiet := stopped.trans (.forget _ conn)
    dsimp only
    split
    · exact quiet.trans (.setLink rfl _ conn)
    · exact quiet.trans (.anew _ conn _)

theorem pinnedConn_tended (db : DbId) : Tended w (w.pinnedConn db).2 := by
  unfold World.pinnedConn
  split
  · exact .refl w
  split
  · exact .refl w
  · dsimp only
    split
    · exact .refl w
    · refine ⟨fun _ => .inl rfl, fun _ on => on, fun _ => .inl rfl, fun other => ?_, rfl⟩
      by_cases here : other = db
      · exact .inr (by simp [here])
      · exact .inl (by simp [here])

/-- Asking for the pin changes no connection. -/
@[simp] theorem pinnedConn_conns (db : DbId) :
    (w.pinnedConn db).2.conns = w.conns := by
  unfold World.pinnedConn
  split
  · rfl
  split
  · rfl
  · dsimp only
    split <;> rfl

/-- Nor does choosing the connection of an attempt. -/
theorem chooseConn_conns (stmt : Stmt ω) (env : LookupEnv) :
    (chooseConn w stmt env).2.conns = w.conns := by
  unfold chooseConn
  dsimp only
  split
  · rfl
  split
  · rfl
  · split <;> exact pinnedConn_conns w _

end

/-! ### Looking for a connection -/

/-- **Looking for a connection**: a stale pin is dropped, a stream is given up. -/
inductive Looks (w : World ω) : World ω → Prop
  | refl : Looks w w
  | pinned {w₁ : World ω} (looks : Looks w w₁) (db : DbId) : Looks w (w₁.pinnedConn db).2
  | stopped {w₁ : World ω} (looks : Looks w w₁) (d : ConnId) : Looks w (stopStream w₁ d)

theorem Tended.stop (w : World ω) (d : ConnId) : Tended w (stopStream w d) :=
  .setConn w d (fun _ => .inl rfl) fun _ off => by cases off

theorem Looks.tended {w w' : World ω} (looks : Looks w w') : Tended w w' := by
  induction looks with
  | refl => exact .refl w
  | pinned _ db ih => exact ih.trans (pinnedConn_tended _ db)
  | stopped _ d ih => exact ih.trans (.stop _ d)

theorem chooseConn_looks (w : World ω) (stmt : Stmt ω) (env : LookupEnv) :
    Looks w (chooseConn w stmt env).2 := by
  unfold chooseConn
  dsimp only
  split
  · exact .refl
  split
  · exact .refl
  · split <;> exact .pinned .refl _

theorem transactionConnection_looks (w : World ω) (db : DbId) (env : LookupEnv) :
    Looks w (transactionConnection w db env).2 := by
  unfold transactionConnection
  dsimp only
  split
  · exact .pinned .refl db
  · split <;> exact .pinned .refl db

theorem clearResult_looks (w : World ω) (stmt : Stmt ω) : Looks w (clearResult w stmt).1 := by
  unfold clearResult
  dsimp only
  split
  · exact .refl
  · exact .stopped .refl _

/-! ### Giving up a stream -/

variable {cfg : Config} {w w' : World ω} {stmt : Stmt ω} {conn : ConnId} {pgSql : Text} {env : Env}

/-- What is given up before a read is run again is a stream at most. -/
theorem prepareReexecution_world (w : World ω) (stmt : Stmt ω) (conn : ConnId) :
    (prepareReexecution w stmt conn).1 = w ∨
      ∃ source, (prepareReexecution w stmt conn).1 = stopStream w source := by
  unfold prepareReexecution
  by_cases crossed : (stmt.streaming.isSome && stmt.resultConn ≠ conn) = true
  · rw [if_pos crossed]
    cases stream : stmt.streaming with
    | none => simp [stream] at crossed
    | some source => exact .inr ⟨source, by simp [clearResult]⟩
  · rw [if_neg crossed]
    split
    next kept =>
      refine .inl ?_
      split at kept <;> cases kept <;> rfl

theorem Looks.prepareReexecution {w₁ : World ω} (looks : Looks w w₁) (stmt : Stmt ω)
    (conn : ConnId) : Looks w (prepareReexecution w₁ stmt conn).1 := by
  rcases prepareReexecution_world w₁ stmt conn with same | ⟨source, stopped⟩
  · rw [same]
    exact looks
  · rw [stopped]
    exact looks.stopped source

theorem stopStream_link (w : World ω) (source conn : ConnId) :
    (stopStream w source).link conn = w.link conn :=
  w.setConn_rel (r := fun c c' => c'.link = c.link) (fun _ => rfl) source rfl conn

theorem stopStream_streaming (free : (w.conns conn).streaming = false) (source : ConnId) :
    ((stopStream w source).conns conn).streaming = false :=
  w.setConn_rel (r := fun c c' => c.streaming = false → c'.streaming = false) (fun _ => id) source
    (fun _ => rfl) conn free

/-! ### A connection that is there -/

section Up

variable {env : ConnectEnv}

theorem isUsable_of_up (nonNull : conn ≠ 0) (up : (w.link conn).isOk = true) :
    isUsable w conn = true := by
  obtain ⟨s, link⟩ := Link.exists_of_isOk up
  simp [isUsable, nonNull, link, Link.isClosed]

/-- It is the one used, unless it streams. -/
theorem lockConnection_of_up (nonNull : conn ≠ 0) (up : (w.link conn).isOk = true)
    (free : (w.conns conn).streaming = false) (alone : env.raced = false) :
    lockConnection w conn env = (some conn, w) := by
  have usable := isUsable_of_up nonNull up
  simp [lockConnection, lookAgain, usable, afterRace, alone, free]

/-- It is left as it is. -/
theorem readyConnection_of_up (up : (w.link conn).isOk = true) :
    readyConnection w conn env = (true, w) := by
  rw [readyConnection, if_pos up]

end Up

/-- A connection found ready is up. -/
theorem readyConnection_isOk {env : ConnectEnv} (ready : (readyConnection w conn env).1 = true) :
    ((readyConnection w conn env).2.link conn).isOk = true := by
  unfold readyConnection at ready ⊢
  dsimp only at ready ⊢
  split
  · assumption
  split
  next resetOk => simp [resetConnection, setLink, World.link, resetOk, Link.isOk]
  next failed lost =>
    rw [if_neg failed, if_neg lost] at ready
    simp [connectAnew, World.link, Link.isOk,
      show (env.configured && env.connectOk) = true from ready]

/-- A connection that is locked is usable, and as it was. -/
theorem lockConnection_some {d : ConnId} {env : ConnectEnv}
    (locked : lockConnection w conn env = (some d, w')) :
    isUsable w' d = true ∧ w'.link d = w.link d := by
  have unraced (w : World ω) (d : ConnId) (raced : Bool)
      (usable : isUsable (afterRace w d raced) d = true) : afterRace w d raced = w := by
    cases raced with
    | false => rfl
    | true => simp [isUsable, afterRace, setLink, World.link, Link.isClosed] at usable
  unfold lockConnection at locked
  dsimp only at locked
  split at locked
  · cases locked
  split at locked
  · cases locked
  next usable =>
    rw [Bool.not_eq_true, Bool.not_eq_false'] at usable
    rw [unraced _ _ _ usable] at locked usable
    split at locked
    · unfold alternateConnection at locked
      split at locked
      · dsimp only at locked
        split at locked
        next altUsable =>
          cases locked
          exact ⟨altUsable, by rw [unraced _ _ _ altUsable]⟩
        · cases locked
      · cases locked
    · cases locked
      exact ⟨usable, rfl⟩

/-! ### Attempts that send nothing -/

/-- While the thread resolves column tables, real SQLite answers. -/
theorem attempt_of_inResolve (cfg : Config) (w : World ω) (stmt : Stmt ω)
    (inResolve : env.lookup.inResolve = true) :
    attempt cfg w stmt env = ⟨.shadow env.lookup.shadowFails, stmt, w, false, .no⟩ := by
  simp [attempt, inResolve]

/-- A statement without translated text is answered with an error. -/
theorem attempt_of_untranslated (cfg : Config) (w : World ω)
    (kind : stmt.kind = .write ∨ stmt.kind = .read) (text : stmt.pgSql = none)
    (inShim : env.lookup.inResolve = false) :
    ∃ w', Unmoved w w' ∧ attempt cfg w stmt env = ⟨.error, stmt, w', false, .no⟩ := by
  refine ⟨_, noteStmtError_unmoved w stmt
    ("PG step missing translated SQL: ".toList ++ stmt.sql.take 220), ?_⟩
  rcases kind with kind | kind
  · simp only [attempt, inShim, kind, text]
    rfl
  · simp only [attempt, inShim, kind, text]
    rfl

/-! ### The write branch -/

section

variable (cfg) (kind : stmt.kind = .write) (text : stmt.pgSql = some pgSql)
  (inShim : env.lookup.inResolve = false)

include kind text inShim

theorem attempt_write_of_chosen (chosen : chooseConn w stmt env.lookup = (conn, w'))
    (nonNull : conn ≠ 0) : attempt cfg w stmt env = writeAttempt cfg w' stmt pgSql conn env := by
  simp only [attempt, inShim, kind, text, chosen]
  cases conn with
  | zero => exact absurd rfl nonNull
  | succ n => rfl

/-- Without a connection a write is answered as done. -/
theorem attempt_write_of_none (chosen : chooseConn w stmt env.lookup = (0, w')) :
    attempt cfg w stmt env = ⟨.done, stmt, w', false, .no⟩ := by
  simp only [attempt, inShim, kind, text, chosen]
  rfl

end

theorem attempt_read_of_chosen (kind : stmt.kind = .read) (text : stmt.pgSql = some pgSql)
    (inShim : env.lookup.inResolve = false) (chosen : chooseConn w stmt env.lookup = (conn, w'))
    (nonNull : conn ≠ 0) : attempt cfg w stmt env = readAttempt cfg w' stmt conn env := by
  simp only [attempt, inShim, kind, text, chosen]
  cases conn with
  | zero => exact absurd rfl nonNull
  | succ n => rfl

/-- Transaction control leaves the statement as it is, and does not mark the thread. -/
theorem controlAttempt_spec (cfg : Config) (w : World ω) (stmt : Stmt ω) (env : Env) :
    (controlAttempt cfg w stmt env).stmt = stmt ∧
      (controlAttempt cfg w stmt env).connError = false := by
  unfold controlAttempt
  split
  · exact ⟨rfl, rfl⟩
  split
  · exact ⟨rfl, rfl⟩
  · dsimp only
    split <;> exact ⟨rfl, rfl⟩

/-- **Everything an attempt can be**: answered at once, transaction control or what is
skipped with it, a write or a read on the connection chosen. -/
inductive Attempted (cfg : Config) (w : World ω) (stmt : Stmt ω) (env : Env) :
    Attempt ω → Prop
  | answered (rc : Rc) (w' : World ω)
      (world : Unmoved w w' ∨ w' = (chooseConn w stmt env.lookup).2) :
      Attempted cfg w stmt env ⟨rc, stmt, w', false, .no⟩
  | control (kind : stmt.kind = .skipped) (inShim : env.lookup.inResolve = false) :
      Attempted cfg w stmt env (controlAttempt cfg w stmt env)
  | write (pgSql : Text) (conn : ConnId) (w' : World ω) (kind : stmt.kind = .write)
      (text : stmt.pgSql = some pgSql) (inShim : env.lookup.inResolve = false)
      (chosen : chooseConn w stmt env.lookup = (conn, w')) (nonNull : conn ≠ 0) :
      Attempted cfg w stmt env (writeAttempt cfg w' stmt pgSql conn env)
  | read (pgSql : Text) (conn : ConnId) (w' : World ω) (kind : stmt.kind = .read)
      (text : stmt.pgSql = some pgSql) (inShim : env.lookup.inResolve = false)
      (chosen : chooseConn w stmt env.lookup = (conn, w')) (nonNull : conn ≠ 0) :
      Attempted cfg w stmt env (readAttempt cfg w' stmt conn env)

/-- **Inversion of an attempt.** -/
theorem attempt_attempted (cfg : Config) (w : World ω) (stmt : Stmt ω) (env : Env) :
    Attempted cfg w stmt env (attempt cfg w stmt env) := by
  cases resolving : env.lookup.inResolve with
  | true =>
    rw [attempt_of_inResolve cfg w stmt resolving]
    exact .answered _ w (.inl (.refl w))
  | false =>
    have noted := noteStmtError_unmoved w stmt
      ("PG step missing translated SQL: ".toList ++ stmt.sql.take 220)
    rcases chosen : chooseConn w stmt env.lookup with ⟨conn, w'⟩
    cases kind : stmt.kind with
    | sqlite =>
      simp only [attempt, resolving, kind]
      exact .answered _ _ (.inr rfl)
    | skipped =>
      simp only [attempt, resolving, kind]
      exact .control kind resolving
    | write =>
      cases text : stmt.pgSql with
      | none =>
        simp only [attempt, resolving, kind, text]
        exact .answered _ _ (.inl noted)
      | some pgSql =>
        by_cases null : conn = 0
        · subst null
          rw [attempt_write_of_none cfg kind text resolving chosen]
          exact .answered _ _ (.inr (by rw [chosen]))
        · rw [attempt_write_of_chosen cfg kind text resolving chosen null]
          exact .write pgSql conn w' kind text resolving chosen null
    | read =>
      cases text : stmt.pgSql with
      | none =>
        simp only [attempt, resolving, kind, text]
        exact .answered _ _ (.inl noted)
      | some pgSql =>
        by_cases null : conn = 0
        · subst null
          simp only [attempt, resolving, kind, text, chosen]
          exact .answered _ _ (.inr (by rw [chosen]))
        · rw [attempt_read_of_chosen kind text resolving chosen null]
          exact .read pgSql conn w' kind text resolving chosen null

/-! ### Everything a write attempt can be -/

/-- The same statement, the marks of an execution and its connection apart. -/
def Stmt.Like (s s' : Stmt ω) : Prop := s'.cleared = { s.cleared with conn := s'.conn }

namespace Stmt.Like

theorem refl (s : Stmt ω) : s.Like s := rfl

theorem trans {s s' s'' : Stmt ω} (h : s.Like s') (h' : s'.Like s'') : s.Like s'' := by
  rw [Stmt.Like, h', h]

theorem cleared {s s' : Stmt ω} (h : s.Like s') : s.Like s'.cleared := h.trans rfl

/-- What an execution never changes. -/
theorem same {s s' : Stmt ω} (h : s.Like s') :
    s'.kind = s.kind ∧ s'.sql = s.sql ∧ s'.pgSql = s.pgSql ∧ s'.effect = s.effect ∧
      s'.params = s.params ∧ s'.shadow = s.shadow := by
  have same : s'.cleared = { s.cleared with conn := s'.conn } := h
  simp only [Stmt.cleared, Stmt.mk.injEq] at same
  tauto

end Stmt.Like

/-- **Everything a write attempt can be.** -/
inductive WriteRan (cfg : Config) (w : World ω) (stmt : Stmt ω) (pgSql : Text) (env : Env) :
    Attempt ω → Prop
  | again (executed : stmt.writeExecuted = true) :
      WriteRan cfg w stmt pgSql env ⟨.done, stmt, w, false, .no⟩
  | terminator (applies : isTxnTerminator pgSql = true) :
      WriteRan cfg w stmt pgSql env
        ⟨.done, { stmt with writeExecuted := true }, w, false, .skipped⟩
  | special (conn : ConnId) (applies : isSpecialInsert pgSql stmt.params = true) :
      WriteRan cfg w stmt pgSql env
        ⟨.done, { stmt with writeExecuted := true }, takeSequence w conn env, false, .skipped⟩
  | stats (conn : ConnId) (w' : World ω) (tended : Tended w w')
      (asked : cfg.skipStatsResources = true) (applies : isStatsResourcesUpdate pgSql = true) :
      WriteRan cfg w stmt pgSql env
        ⟨.done, { stmt with conn, writeExecuted := true }, w', false, .no⟩
  | noConnection (conn : ConnId) (w' : World ω) (tended : Tended w w') :
      WriteRan cfg w stmt pgSql env
        ⟨.error, { stmt with conn, writeExecuted := true }, w', true, .no⟩
  | accepted (conn : ConnId) (w' : World ω) (tended : Tended w w')
      (isOk : (w'.link conn).isOk = true) (ok : (sent cfg w' stmt conn env).answer = .ok)
      (rc : Rc) (success : rc.isSuccess = true) (stmt' : Stmt ω) (like : stmt.Like stmt')
      (streaming : stmt'.streaming = stmt.streaming)
      (finished : finishWrite (afterSent cfg w' stmt conn env) { stmt with conn } conn
        env.write.rows = ⟨rc, stmt', afterSent cfg w' stmt conn env, false, .accepted⟩) :
      WriteRan cfg w stmt pgSql env
        ⟨rc, stmt', afterSent cfg w' stmt conn env, false, .accepted⟩
  | refused (conn : ConnId) (w' w'' : World ω) (tended : Tended w w')
      (isOk : (w'.link conn).isOk = true) {result : Option (Option Text)}
      (failed : (sent cfg w' stmt conn env).answer = .failed result)
      (after : Tended (afterSent cfg w' stmt conn env) w'') (connError : Bool) :
      WriteRan cfg w stmt pgSql env
        ⟨.error, { stmt with conn, writeExecuted := true }, w'', connError, .no⟩

/-- It is still the same statement. -/
theorem WriteRan.like {a : Attempt ω} (ran : WriteRan cfg w stmt pgSql env a) :
    stmt.Like a.stmt := by
  cases ran with
  | again | terminator | special | stats | noConnection | refused => exact rfl
  | accepted _ _ _ _ _ _ _ _ like => exact like

/-- A write attempt starts no stream. -/
theorem WriteRan.streaming {a : Attempt ω} (ran : WriteRan cfg w stmt pgSql env a) :
    a.stmt.streaming = stmt.streaming := by
  cases ran with
  | again | terminator | special | stats | noConnection | refused => rfl
  | accepted _ _ _ _ _ _ _ _ _ streaming => exact streaming

theorem finishWrite_spec (w : World ω) (stmt : Stmt ω) (conn : ConnId) (rows : Option ℕ) :
    ∃ rc stmt', finishWrite w stmt conn rows = ⟨rc, stmt', w, false, .accepted⟩ ∧
      rc.isSuccess = true ∧ stmt'.cleared = stmt.cleared ∧ stmt'.conn = stmt.conn ∧
      stmt'.streaming = stmt.streaming := by
  unfold finishWrite
  split
  · exact ⟨_, _, rfl, rfl, rfl, rfl, rfl⟩
  · exact ⟨_, _, rfl, rfl, rfl, rfl, rfl⟩

/-- A write that failed: on a connection that holds, only a message is left. -/
theorem failWrite_spec (w : World ω) (stmt : Stmt ω) (conn : ConnId)
    (result : Option (Option Text)) (env : Env) :
    ∃ w' connError, failWrite w stmt conn result env =
      ⟨.error, { stmt with writeExecuted := true }, w', connError, .no⟩ ∧
        Tended w w' ∧ ((w.link conn).isOk = true → Unmoved w w') := by
  unfold failWrite
  dsimp only
  split
  · exact ⟨w, true, rfl, .refl w, fun _ => .refl w⟩
  · refine ⟨_, true, rfl, checkHealth_tended w conn env.health, fun isOk => ?_⟩
    rw [checkHealth, isOk]
    exact .refl w
  · have noted := noteError_unmoved w conn (resultMessage result env.error.connMessage)
    exact ⟨_, false, rfl, .of_unmoved noted, fun _ => noted⟩

theorem executeAndFinalize_ran (cfg : Config) (tended : Tended w w')
    (text : stmt.pgSql = some pgSql) (isOk : (w'.link conn).isOk = true) (env : Env) :
    WriteRan cfg w stmt pgSql env
      (executeAndFinalize cfg w' { stmt with conn } conn env) := by
  unfold executeAndFinalize
  split
  · exact .noConnection conn w' tended
  split
  next skip =>
    obtain ⟨asked, applies⟩ : cfg.skipStatsResources = true ∧
        isStatsResourcesUpdate pgSql = true := by simpa [text] using skip
    exact .stats conn w' tended asked applies
  · have same : sent cfg w' { stmt with conn } conn env = sent cfg w' stmt conn env := rfl
    rw [same]
    dsimp only
    cases answer : (sent cfg w' stmt conn env).answer with
    | ok =>
      obtain ⟨rc, stmt', finished, success, cleared, sameConn, streaming⟩ :=
        finishWrite_spec (afterSent cfg w' stmt conn env) { stmt with conn } conn env.write.rows
      have like : stmt.Like stmt' := by
        rw [Stmt.Like, cleared, sameConn]
        rfl
      rw [settleWrite, finished]
      exact .accepted conn w' tended isOk answer rc success stmt' like streaming finished
    | failed result =>
      obtain ⟨w'', connError, failed, after, -⟩ :=
        failWrite_spec (afterSent cfg w' stmt conn env) { stmt with conn } conn result env
      rw [settleWrite, failed]
      exact .refused conn w' w'' tended isOk answer after connError

/-- **Inversion of a write attempt.** -/
theorem writeAttempt_ran (cfg : Config) (w : World ω) (text : stmt.pgSql = some pgSql)
    (conn : ConnId) (env : Env) :
    WriteRan cfg w stmt pgSql env (writeAttempt cfg w stmt pgSql conn env) := by
  unfold writeAttempt
  split
  next executed => exact .again executed
  split
  next applies => exact .terminator (by simpa using (Bool.and_eq_true_iff.mp applies).1)
  split
  next applies => exact .special conn applies
  have locked := lockConnection_tended w conn env.connect
  split
  next w' lock =>
    rw [lock] at locked
    exact .noConnection stmt.conn w' locked
  next conn' w' lock =>
    rw [lock] at locked
    have ready := readyConnection_tended w' conn' env.connect
    dsimp only
    split
    next w'' notReady =>
      rw [notReady] at ready
      exact .noConnection conn' w'' (locked.trans ready)
    next w'' isReady =>
      have isOk : (w''.link conn').isOk = true := by
        have up : ((readyConnection w' conn' env.connect).2.link conn').isOk = true :=
          readyConnection_isOk (by rw [isReady])
        rwa [isReady] at up
      rw [isReady] at ready
      exact executeAndFinalize_ran cfg (locked.trans ready) text isOk env

/-- **A write attempt**: there is no connection for it, or it is run as `WriteRan` says. -/
theorem attempt_write_ran (cfg : Config) (w : World ω) (kind : stmt.kind = .write)
    (text : stmt.pgSql = some pgSql) (inShim : env.lookup.inResolve = false) :
    ∃ w', Tended w w' ∧
      (attempt cfg w stmt env = ⟨.done, stmt, w', false, .no⟩ ∨
        WriteRan cfg w' stmt pgSql env (attempt cfg w stmt env)) := by
  rcases chosen : chooseConn w stmt env.lookup with ⟨conn, w'⟩
  have tended := (chooseConn_looks w stmt env.lookup).tended
  rw [chosen] at tended
  refine ⟨w', tended, ?_⟩
  by_cases null : conn = 0
  · subst null
    exact .inl (attempt_write_of_none cfg kind text inShim chosen)
  · rw [attempt_write_of_chosen cfg kind text inShim chosen null]
    exact .inr (writeAttempt_ran cfg w' text conn env)

/-! ### The first step of a read -/

/-- **Everything the first step of a read can be.** -/
inductive FirstRan (cfg : Config) (stmt : Stmt ω) (env : Env) : Attempt ω → Prop
  | failed (s : Stmt ω) (w : World ω) (connError : Bool) (like : stmt.Like s)
      (stream : s.streaming = stmt.streaming ∨ s.streaming = none) :
      FirstRan cfg stmt env ⟨.error, s, w, connError, .no⟩
  | missing (conn : ConnId) (w w' : World ω) (uses : usesStreaming cfg w stmt conn env.read = true)
      (applied : Bool) (lost : env.read.exec.verdict = .lose applied true) :
      FirstRan cfg stmt env
        ⟨.done, { stmt with conn, resultConn := conn, streaming := none, readDone := true }, w',
          false,
          .no⟩
  | empty (s : Stmt ω) (w : World ω) (zero : env.read.rows = 0) (like : stmt.Like s)
      (stream : s.streaming = stmt.streaming ∨ s.streaming = none) (done : s.readDone = true) :
      FirstRan cfg stmt env ⟨.done, s, w, false, .accepted⟩
  | streams (conn : ConnId) (w : World ω) (some : env.read.rows ≠ 0) :
      FirstRan cfg stmt env
        ⟨.row, { stmt with
          conn, resultConn := conn, streaming := .some conn, result := .some ⟨0, 1, false⟩ },
          w, false, .accepted⟩
  | fetched (conn : ConnId) (w : World ω) (some : env.read.rows ≠ 0) :
      FirstRan cfg stmt env
        ⟨.row, { stmt with conn, resultConn := conn, result := .some ⟨0, env.read.rows, false⟩ },
          w, false, .accepted⟩

theorem failRead_ran {s : Stmt ω} (like : stmt.Like s)
    (stream : s.streaming = stmt.streaming ∨ s.streaming = none) (w : World ω) (conn : ConnId)
    (result : Option (Option Text)) (env : Env) :
    FirstRan cfg stmt env (failRead w s conn result env) := by
  unfold failRead
  dsimp only
  split <;> exact .failed _ _ _ (like.trans rfl) stream

/-- **Inversion of the first step of a read.** -/
theorem firstExecute_ran (cfg : Config) (w : World ω) (stmt : Stmt ω) (conn : ConnId) (env : Env) :
    FirstRan cfg stmt env (firstExecute cfg w stmt conn env) := by
  unfold firstExecute
  split
  · exact .failed stmt _ true rfl (.inl rfl)
  next d w' _ =>
    dsimp only
    split
    · exact .failed _ _ true rfl (.inl rfl)
    next w'' _ =>
      unfold sendRead
      extract_lets planned w₃
      split
      · exact failRead_ran (by rfl) (.inl (by rfl)) w₃ d none env
      split
      next uses =>
        unfold streamingFetch
        dsimp only
        split
        next none =>
          obtain ⟨applied, lost⟩ := Link.lose_of_no_result none
          exact .missing d w₃ _ uses applied lost
        · exact failRead_ran (by rfl) (.inr (by rfl)) _ d _ env
        split
        next zero => exact .empty _ _ zero rfl (.inr rfl) rfl
        next some => exact .streams d _ some
      · unfold eagerFetch
        dsimp only
        split
        · exact failRead_ran (by rfl) (.inl (by rfl)) _ d _ env
        split
        next zero => exact .empty _ _ zero rfl (.inl rfl) rfl
        next some => exact .fetched d _ some

/-! ### The control branch -/

/-- **Transaction control**: the command is run, and its outcome is the answer. -/
theorem attempt_control (forwards : cfg.forwarding = true) (w : World ω)
    (kind : stmt.kind = .skipped) {db : DbId} (shadow : stmt.shadow = some db) {cmd : TxnCmd}
    (classified : classifySql stmt.sql = some cmd) (inShim : env.lookup.inResolve = false) :
    let place := transactionConnection w db env.lookup
    let ran := place.2.run place.1 db cmd env.control
    (ran.1 = .ok () ∧ attempt cfg w stmt env = ⟨.done, stmt, ran.2, false, .accepted⟩) ∨
      ∃ message w', ran.1 = .error message ∧ Unmoved ran.2 w' ∧
        attempt cfg w stmt env = ⟨.error, stmt, w', false, .no⟩ := by
  intro place ran
  have control : attempt cfg w stmt env = controlAttempt cfg w stmt env := by
    simp [attempt, inShim, kind]
  rw [control]
  simp only [controlAttempt, classified, forwards, shadow, Option.getD_some]
  rcases outcome : ran with ⟨answer, w'⟩
  cases answer with
  | ok =>
    refine .inl ⟨rfl, ?_⟩
    simp only [ran, place] at outcome
    simp [outcome]
  | error message =>
    simp only [ran, place] at outcome
    let text := "PG transaction control failed: ".toList ++ stmt.sql ++ " :: ".toList ++ message
    let noted := noteStmtError w' stmt text
    refine .inr ⟨message, if place.1 = 0 then noted else noteError noted place.1 text, rfl, ?_, ?_⟩
    · refine (noteStmtError_unmoved w' stmt text).trans ?_
      split
      · exact .refl noted
      · exact noteError_unmoved noted _ text
    · simp only [outcome]
      rfl

/-! ### Running a command -/

theorem after_link_of_ne (w : World ω) {conn d : ConnId} (other : d ≠ conn) (link : Link ω)
    (committed : List ω) : (w.after conn link committed).link d = w.link d := by
  simp [World.link, World.after, World.setConn, other]

/-- **Everything `run` can do**: nothing, or the plan is sent, and the registry is left as it
is, forgets the connection, or records the transaction. -/
theorem run_cases (w : World ω) (conn : ConnId) (db : DbId) (cmd : TxnCmd) (fates : ℕ → Fate) :
    (w.run conn db cmd fates).2 = w ∨
      ∃ failure last committed,
        World.sendStatements (w.link conn) (plan (w.registry.stateOf conn) cmd).1 fates =
          (failure, last, committed) ∧
        (∀ d, d ≠ conn → (w.run conn db cmd fates).2.conns d = w.conns d) ∧
        (w.run conn db cmd fates).2.link conn = last ∧
        (w.run conn db cmd fates).2.durable = w.durable ++ committed ∧
        let next := World.withHandle (plan (w.registry.stateOf conn) cmd).2 db
        ((w.run conn db cmd fates).2.registry = w.registry ∧ last.inTransaction = true ∨
          (w.run conn db cmd fates).2.registry = w.registry.forgetConnection conn ∨
          failure = none ∧ next.isOpen = true ∧
            (w.run conn db cmd fates).2.registry = w.registry.record conn db next) := by
  by_cases null : conn = 0
  · exact .inl (by rw [World.run, if_pos null])
  by_cases closed : w.link conn = .closed
  · exact .inl (by rw [World.run, if_neg null, closed])
  refine .inr ?_
  rcases sent : World.sendStatements (w.link conn) (plan (w.registry.stateOf conn) cmd).1 fates with
    ⟨_ | result, last, committed⟩
  · refine ⟨none, last, committed, rfl, ?_⟩
    rw [World.run_of_sent null closed db sent]
    refine ⟨fun d other => ?_, w.after_link conn last committed, rfl, ?_⟩
    · simp [World.after, World.setConn, other]
    dsimp only
    split
    next opens => exact .inr (.inr ⟨rfl, opens, by simp⟩)
    · exact .inr (.inl (by simp))
  · refine ⟨some result, last, committed, rfl, ?_⟩
    rw [World.run_of_failed null closed db sent]
    dsimp only
    split
    next stays =>
      refine ⟨fun d other => ?_, ?_, rfl, .inl ⟨rfl, stays⟩⟩
      · simp [World.after, World.setConn, other]
      · simp [World.link, World.after]
    · refine ⟨fun d other => ?_, ?_, rfl, .inr (.inl rfl)⟩
      · simp [World.after, World.setConn, other]
      · simp [World.link, World.after]

/-- What it does not do: change another connection, or what is on record for it. -/
theorem run_other {conn d : ConnId} (other : d ≠ conn) (w : World ω) (db : DbId) (cmd : TxnCmd)
    (fates : ℕ → Fate) :
    (w.run conn db cmd fates).2.conns d = w.conns d ∧
      (w.run conn db cmd fates).2.registry.byConn d = w.registry.byConn d := by
  rcases run_cases w conn db cmd fates with same | ⟨_, _, _, -, others, -, -, registry⟩
  · rw [same]
    exact ⟨rfl, rfl⟩
  · refine ⟨others d other, ?_⟩
    rcases registry with ⟨same, -⟩ | forgotten | ⟨-, -, recorded⟩
    · rw [same]
    · simp [forgotten, Registry.forgetConnection, other]
    · simp [recorded, Registry.record, other]

end PlexPostgres.Step
