import PlexPostgres.Step.Effects

/-!
# No transaction open

As long as the registry knows of no transaction, nothing the write path does opens one on
the server: it sets its savepoints only inside a transaction it knows of.  `Resting` is
that state, for one connection.

The server may still be in an *aborted* transaction there: a SAVEPOINT that is refused
after its own BEGIN leaves one behind.  Nothing comes of it, every write is refused.
-/

namespace PlexPostgres.Step

open Postgres Txn

variable {ω : Type*} {w w' : World ω} {conn : ConnId}

/-- The server is in no sound transaction. -/
def Quiet (l : Link ω) : Prop := l.status ≠ .inTrans

variable {l : Link ω}

theorem quiet_of_not_inTransaction (idle : l.inTransaction = false) : Quiet l := by
  intro inTrans
  simp [Link.inTransaction, inTrans] at idle

/-- A statement that opens nothing leaves a quiet connection quiet. -/
theorem Quiet.send (quiet : Quiet l) {react : Session ω → Reply ω}
    (opensNothing : ∀ s, Quiet (.up s) → Quiet (.up (react s).session)) (fate : Fate) :
    Quiet (l.send false react fate).link := by
  cases l with
  | closed | down =>
    rw [(Link.send_of_not_up rfl false react fate).2.1]
    exact quiet
  | up s =>
    cases hv : fate.verdict with
    | accept =>
      rw [Link.send_accept s false react hv]
      exact opensNothing s quiet
    | refuse ends =>
      rw [Link.send_refuse s false react hv]
      cases s with
      | idle => exact quiet
      | inTxn aborted savepoints writes =>
        simp [Session.refused, Quiet, Link.status, Session.status]
    | lose applied noResult =>
      rw [Link.send_lose s false react hv]
      simp [Quiet, Link.status]

theorem Quiet.query (quiet : Quiet l) (fate : Fate) : Quiet (l.query fate).link := by
  refine quiet.send (fun s quiet => ?_) fate
  cases s with
  | idle => exact quiet
  | inTxn aborted savepoints writes => cases aborted <;> exact quiet

theorem Quiet.write (quiet : Quiet l) (effect : ω) (fate : Fate) :
    Quiet (l.write effect fate).link := by
  refine quiet.send (fun s quiet => ?_) fate
  cases s with
  | idle => exact quiet
  | inTxn aborted savepoints writes => cases aborted <;> exact quiet

/-- What is sent for a write outside a transaction opens none. -/
theorem Quiet.runWrite (quiet : Quiet l) (stmt : Stmt ω) (env : WriteEnv) :
    Quiet (runWrite stmt l false false env).link := by
  have statement : Quiet (runStatement stmt (.nothing l) env).link := by
    unfold runStatement
    dsimp only
    split
    · exact (quiet.query env.prepare).write stmt.effect env.exec
    · exact quiet.write stmt.effect env.exec
  have wrapped : runWrapped stmt l false env = runStatement stmt (.nothing l) env := rfl
  unfold Step.runWrite
  rw [wrapped]
  dsimp only
  split
  · exact statement.query env.resync
  · exact statement

/-- **No transaction is recorded anywhere**, and there is none on the connection, unless
an aborted one is left behind that nobody knows of. -/
structure Resting (w : World ω) (conn : ConnId) : Prop where
  registry : ∀ d, w.registry.byConn d = none
  quiet : Quiet (w.link conn)
  notStreaming : (w.conns conn).streaming = false

namespace Resting

section

variable (resting : Resting w conn)
include resting

theorem tended (h : Tended w w') : Resting w' conn where
  registry d := by
    rcases h.byConn d with same | gone
    · rw [same]
      exact resting.registry d
    · exact gone
  quiet := by
    rcases h.link conn with same | fresh
    · rw [same]
      exact resting.quiet
    · exact quiet_of_not_inTransaction fresh
  notStreaming := by
    rw [← Bool.not_eq_true]
    intro on
    have still := h.streaming conn on
    rw [resting.notStreaming] at still
    cases still

/-- A statement on some connection, after which it is quiet if it was. -/
theorem after {d : ConnId} {link : Link ω} {committed : List ω}
    (quiet : Quiet (w.link d) → Quiet link) : Resting (w.after d link committed) conn where
  registry := resting.registry
  quiet := w.setConn_rel (r := fun c c' => Quiet c.link → Quiet c'.link) (fun _ => id) d
    (f := ({ · with link })) quiet conn resting.quiet
  notStreaming := w.setConn_rel (r := fun c c' => c.streaming = false → c'.streaming = false)
    (fun _ => id) d (f := ({ · with link })) id conn resting.notStreaming

theorem stateOf (d : ConnId) : w.registry.stateOf d = .empty := by
  rw [Registry.stateOf, resting.registry d]
  rfl

theorem inTransaction (d : ConnId) : w.inTransaction d = false := by
  rw [World.inTransaction, resting.stateOf d]
  simp [TxnState.empty]

/-- What is sent for a write. -/
theorem sent (cfg : Config) (stmt : Stmt ω) (d : ConnId) (env : Env) :
    Resting (afterSent cfg w stmt d env) conn := by
  refine resting.after fun quiet => ?_
  rw [Step.sent, resting.inTransaction, Bool.and_false, Bool.false_and]
  exact quiet.runWrite stmt env.write

/-- **A write attempt with nothing open.** -/
theorem writeRan {cfg : Config} {stmt : Stmt ω} {pgSql : Text}
    {env : Env} {a : Attempt ω} (ran : WriteRan cfg w stmt pgSql env a) : Resting a.world conn := by
  cases ran with
  | again | terminator => exact resting
  | special d =>
    unfold takeSequence
    split
    · exact resting.after fun quiet => quiet.query env.write.sequence
    · exact resting
  | stats _ _ tended | noConnection _ _ tended => exact resting.tended tended
  | accepted d w' tended => exact (resting.tended tended).sent cfg stmt d env
  | refused d w' w'' tended isOk failed after =>
    exact ((resting.tended tended).sent cfg stmt d env).tended after

/-- No handle is pinned to a connection. -/
theorem pinnedConn (db : DbId) : (w.pinnedConn db).1 = 0 := by
  unfold World.pinnedConn
  split
  · rfl
  split
  · rfl
  · simp [resting.stateOf, TxnState.empty]

/-- So a command goes to the connection the handle has, or nowhere. -/
theorem transactionConnection (db : DbId) (env : LookupEnv) :
    (transactionConnection w db env).1 = 0 ∨
      (transactionConnection w db env).1 = env.found ∧
        ((transactionConnection w db env).2.conns env.found).active = true := by
  have unpinned : isUsable (w.pinnedConn db).2 (w.pinnedConn db).1 = false := by
    rw [resting.pinnedConn db]
    rfl
  unfold Step.transactionConnection
  dsimp only
  rw [unpinned, if_neg Bool.false_ne_true]
  split
  next usable => exact .inr ⟨rfl, (Bool.and_eq_true_iff.mp usable).2⟩
  · exact .inl rfl

end

end Resting

end PlexPostgres.Step
