import PlexPostgres.Step.OpenTransaction
import PlexPostgres.Txn.RunAgreement

/-!
# The record of an open transaction

A handle's transaction is recorded twice: the connection has its stack of frames, and the
handle is pinned to the connection.  `Held` is that record, together with the two facts
about the connection that let the handle's statements use it: it is active, and nothing
streams over it.

Whatever the process does meanwhile, on this handle or another, the record stays as long
as the server is in the transaction; only transaction control on the very connection
writes it.
-/

namespace PlexPostgres.Step

open Postgres Txn

variable {ω : Type*}

/-- **The transaction of `db` on `conn` is on record**, with frames as in `state`. -/
structure Held (db : DbId) (conn : ConnId) (state : TxnState) (w : World ω) : Prop where
  nonNull : conn ≠ 0
  handle : db ≠ 0
  isOpen : state.isOpen = true
  owner : state.db = db
  wellFormed : WellFormed state.frames
  pin : w.registry.pins db = some conn
  record : w.registry.byConn conn = some state
  active : (w.conns conn).active = true
  free : (w.conns conn).streaming = false

variable {d : ConnId}

namespace Held

variable {db : DbId} {conn : ConnId} {state : TxnState} {w : World ω}
  (held : Held db conn state w)

include held

theorem stateOf : w.registry.stateOf conn = state := by
  rw [Registry.stateOf, held.record]
  rfl

theorem inTransaction : w.inTransaction conn = true := by
  rw [World.inTransaction, held.stateOf, held.isOpen, decide_eq_true held.nonNull]
  rfl

/-- The record of a connection that is up makes the handle's statements go there. -/
theorem pinned (up : (w.link conn).isOk = true) :
    Pinned w db conn where
  nonNull := held.nonNull
  handle := held.handle
  pin := held.pin
  isOpen := by rw [held.stateOf]; exact held.isOpen
  owner := by rw [held.stateOf]; exact held.owner
  active := held.active
  isUp := up

/-! ### Nothing that counts changes -/

/-- The same record and the same flags. -/
theorem congr (pin : w'.registry.pins db = w.registry.pins db)
    (record : w'.registry.byConn conn = w.registry.byConn conn)
    (active : (w'.conns conn).active = (w.conns conn).active)
    (free : (w.conns conn).streaming = false → (w'.conns conn).streaming = false) :
    Held db conn state w' :=
  { held with
    pin := pin.trans held.pin
    record := record.trans held.record
    active := active.trans held.active
    free := free held.free }

theorem unmoved (h : Unmoved w w') : Held db conn state w' := by
  apply held.congr
  · rw [h.registry]
  · rw [h.registry]
  · exact h.active conn
  · exact fun free => (h.streaming conn).trans free

/-- Any change of another connection. -/
theorem setConn_other (other : d ≠ conn) (f : Connection ω → Connection ω) :
    Held db conn state (w.setConn d f) := by
  have same : (w.setConn d f).conns conn = w.conns conn := by
    simp [World.setConn, Function.update_of_ne other.symm]
  exact held.congr rfl rfl (by rw [same]) (by rw [same]; exact id)

/-- A change of a connection that neither switches it off nor starts a stream. -/
theorem setConn (d : ConnId) {f : Connection ω → Connection ω}
    (active : ∀ c, (f c).active = c.active)
    (streaming : ∀ c, c.streaming = false → (f c).streaming = false) :
    Held db conn state (w.setConn d f) :=
  held.congr rfl rfl
    (w.setConn_rel (r := fun c c' => c'.active = c.active) (fun _ => rfl) d (active _) conn)
    (w.setConn_rel (r := fun c c' => c.streaming = false → c'.streaming = false) (fun _ => id) d
      (streaming _) conn)

theorem setLink (d : ConnId) (link : Link ω) :
    Held db conn state (setLink w d link) :=
  held.setConn d (fun _ => rfl) fun _ free => free

theorem stopStream (d : ConnId) :
    Held db conn state (stopStream w d) :=
  held.setConn d (fun _ => rfl) fun _ _ => rfl

/-- A statement sent, on any connection. -/
theorem after (d : ConnId) (link : Link ω) (committed : List ω) :
    Held db conn state (w.after d link committed) := by
  have linked := held.setLink d link
  exact linked.congr rfl rfl rfl id

theorem afterRace (d : ConnId) (raced : Bool) :
    Held db conn state (afterRace w d raced) := by
  unfold Step.afterRace
  split
  · exact held.setLink d _
  · exact held

/-! ### Looking after connections -/

theorem forget (other : d ≠ conn) :
    Held db conn state (w.mapRegistry (·.forgetConnection d)) := by
  apply held.congr
  · simp [Registry.forgetConnection, held.pin, other.symm]
  · simp [Registry.forgetConnection, Function.update_of_ne other.symm]
  · rfl
  · exact id

theorem anew (other : d ≠ conn) (ok : Bool) :
    Held db conn state (connectAnew w d ok) := by
  unfold connectAnew
  split <;> exact held.setConn_other other _

theorem reset (other : d ≠ conn) (ok : Bool) :
    Held db conn state (resetConnection w d ok) :=
  (held.setLink d _).forget other

/-- Only a stale pin is dropped. -/
theorem pinnedConn (db' : DbId) :
    Held db conn state (w.pinnedConn db').2 := by
  have live : (w.registry.stateOf conn).isOpen = true ∧ (w.registry.stateOf conn).db = db := by
    rw [held.stateOf]
    exact ⟨held.isOpen, held.owner⟩
  unfold World.pinnedConn
  split
  · exact held
  split
  · exact held
  next pin other =>
    dsimp only
    split
    · exact held
    next stale =>
      have notOurs : db' ≠ db := by
        intro same
        rw [same, held.pin] at other
        cases other
        apply stale
        simp [live, same, held.nonNull, held.active]
      exact held.congr (by simp [Function.update_of_ne notOurs.symm]) rfl rfl id

theorem lockConnection (d : ConnId) (env : ConnectEnv) :
    Held db conn state (lockConnection w d env).2 := by
  unfold Step.lockConnection
  dsimp only
  split
  · exact held
  split
  · exact held.afterRace _ _
  split
  · unfold alternateConnection
    split
    · exact (held.afterRace _ _).afterRace _ _
    · exact held.afterRace _ _
  · exact held.afterRace _ _

theorem readyConnection (env : ConnectEnv) (up : d = conn → (w.link conn).isOk = true) :
    Held db conn state (readyConnection w d env).2 := by
  unfold Step.readyConnection
  split
  · exact held
  next lost =>
    have other : d ≠ conn := by
      intro same
      rw [same] at lost
      exact lost (up same)
    dsimp only
    split
    · exact held.reset other _
    · exact (held.reset other _).anew other _

end Held

/-- **A plan that is accepted and leaves a transaction open** puts it on record. -/
theorem held_of_sent {db : DbId} {conn : ConnId} {w : World ω} (nonNull : conn ≠ 0)
    (handle : db ≠ 0) (notClosed : w.link conn ≠ .closed)
    (wf : WellFormed (w.registry.stateOf conn).frames)
    (owner : (w.registry.stateOf conn).db = 0 ∨ (w.registry.stateOf conn).db = db)
    (active : (w.conns conn).active = true) (free : (w.conns conn).streaming = false)
    {cmd : TxnCmd} {fates : ℕ → Fate} {last : Link ω} {committed : List ω}
    (sent : World.sendStatements (w.link conn) (plan (w.registry.stateOf conn) cmd).1 fates =
      (none, last, committed))
    (isOpen : (plan (w.registry.stateOf conn) cmd).2.frames ≠ []) :
    ∃ state, Held db conn state (w.run conn db cmd fates).2 := by
  have recorded : (World.withHandle (plan (w.registry.stateOf conn) cmd).2 db).isOpen = true := by
    rw [withHandle_isOpen]
    simpa using isOpen
  rw [World.run_of_sent nonNull notClosed db sent]
  simp only [recorded, if_true]
  exact ⟨World.withHandle (plan (w.registry.stateOf conn) cmd).2 db,
    { nonNull := nonNull
      handle := handle
      isOpen := recorded
      owner := withHandle_db isOpen (by rwa [(plan_planned _ cmd).2])
      wellFormed := by
        rw [withHandle_frames]
        exact plan_wellFormed wf cmd
      pin := by simp [Registry.record]
      record := by simp [Registry.record]
      active := by simpa [World.after] using active
      free := by simpa [World.after] using free }⟩

/-- **The record is kept** for as long as the server is in the transaction. -/
def StaysHeld (db : DbId) (conn : ConnId) (state : TxnState) (w : World ω) : Prop :=
  (w.link conn).inTransaction = true → Held db conn state w

namespace Held

variable {db : DbId} {conn : ConnId} {state : TxnState} {w : World ω}
  (held : Held db conn state w)

include held

theorem keeps : StaysHeld db conn state w := fun _ => held

/-- The health check of the connection itself ends the transaction, if it does anything. -/
theorem checkHealth (d : ConnId) (env : HealthEnv) :
    StaysHeld db conn state (checkHealth w d env) := by
  unfold Step.checkHealth
  split
  · exact held.keeps
  dsimp only
  by_cases here : d = conn
  · subst here
    intro stays
    split at stays
    · simp [Step.setLink, World.link] at stays
    · unfold connectAnew at stays
      split at stays <;> simp [World.link] at stays
  · have stopped := (held.setConn_other here fun c => { c with streaming := false }).forget here
    split
    · exact (stopped.setLink d _).keeps
    · exact (stopped.anew here _).keeps

/-! ### Transaction control -/

/-- A command on another connection, for another handle. -/
theorem run_other (elsewhere : d ≠ conn) {db' : DbId} (other : db' ≠ db) (cmd : TxnCmd)
    (fates : ℕ → Fate) :
    Held db conn state (w.run d db' cmd fates).2 := by
  obtain ⟨conns, record⟩ := Step.run_other elsewhere.symm w db' cmd fates
  refine held.congr ?_ record (by rw [conns]) (by rw [conns]; exact id)
  rcases run_cases w d db' cmd fates with same | ⟨_, _, _, -, -, -, -, registry⟩
  · rw [same]
  rcases registry with ⟨same, -⟩ | forgotten | ⟨-, -, recorded⟩
  · rw [same]
  · simp [forgotten, Registry.forgetConnection, held.pin, elsewhere.symm]
  · simp [recorded, Registry.record, Function.update_of_ne other.symm]

/-- **A command of the handle itself** keeps the record up to date. -/
theorem run (up : (w.link conn).isOk = true) (cmd : TxnCmd) (fates : ℕ → Fate)
    (stays : ((w.run conn db cmd fates).2.link conn).inTransaction = true) :
    ∃ state', Held db conn state' (w.run conn db cmd fates).2 := by
  have notClosed : w.link conn ≠ .closed := by
    intro closed
    rw [closed] at up
    cases up
  have wf : WellFormed (w.registry.stateOf conn).frames := by
    rw [held.stateOf]
    exact held.wellFormed
  have framesOpen : (w.registry.stateOf conn).frames ≠ [] := by
    rw [held.stateOf]
    simpa using held.isOpen
  rcases sent : World.sendStatements (w.link conn) (plan (w.registry.stateOf conn) cmd).1 fates
    with ⟨_ | result, last, committed⟩
  · rcases (plan_planned (w.registry.stateOf conn) cmd).1.of_open wf framesOpen with
      ⟨-, stillOpen⟩ | ⟨init, final, split, -, finishes, -⟩
    · exact held_of_sent held.nonNull held.handle notClosed wf
        (.inr (by rw [held.stateOf]; exact held.owner)) held.active held.free sent stillOpen
    · -- The last statement was COMMIT or ROLLBACK: the server is in no transaction.
      have closed := sendStatements_finishes init finishes (w.link conn) fates
        (by rw [← split, sent])
      rw [World.run_of_sent held.nonNull notClosed db sent] at stays
      have lastOpen : last.inTransaction = true := by
        simpa [World.link, World.after] using stays
      rw [← split, sent, lastOpen] at closed
      cases closed
  · rw [World.run_of_failed held.nonNull notClosed db sent] at stays ⊢
    have noted := (held.after conn last committed).unmoved
      (.setConn _ conn (some (World.failureMessage result)))
    dsimp only at stays ⊢
    by_cases lastOpen : last.inTransaction = true
    · rw [if_pos lastOpen]
      exact ⟨state, noted⟩
    · rw [if_neg lastOpen] at stays
      simp [World.link, World.after, lastOpen] at stays

end Held

/-- BEGIN and SAVEPOINT open a transaction where none is. -/
def opens : TxnCmd → Bool
  | .begin | .savepoint _ => true
  | .commit | .rollback | .release _ | .rollbackTo _ => false

/-- **The command that opens the transaction** puts it on record. -/
theorem held_of_begun {db : DbId} {conn : ConnId} {w : World ω} (nonNull : conn ≠ 0)
    (handle : db ≠ 0) (unrecorded : w.registry.byConn conn = none)
    (active : (w.conns conn).active = true) (free : (w.conns conn).streaming = false)
    {cmd : TxnCmd} (opening : opens cmd = true) {fates : ℕ → Fate}
    (accepted : (w.run conn db cmd fates).1 = .ok ()) :
    ∃ state, Held db conn state (w.run conn db cmd fates).2 := by
  have notClosed : w.link conn ≠ .closed := by
    intro closed
    rw [World.run, if_neg nonNull, closed] at accepted
    cases accepted
  have empty : w.registry.stateOf conn = .empty := by
    rw [Registry.stateOf, unrecorded]
    rfl
  rcases sent : World.sendStatements (w.link conn) (plan (w.registry.stateOf conn) cmd).1 fates
    with ⟨_ | result, last, committed⟩
  · refine held_of_sent nonNull handle notClosed (by rw [empty]; exact wellFormed_nil)
      (.inl (by rw [empty]; rfl)) active free sent ?_
    rw [empty]
    cases cmd with
    | begin | savepoint => simp [plan, TxnState.empty]
    | commit | rollback | release | rollbackTo => cases opening
  · rw [World.run_of_failed nonNull notClosed db sent] at accepted
    cases accepted

end PlexPostgres.Step
