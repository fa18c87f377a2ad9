import PlexPostgres.Step.Durability
import PlexPostgres.Step.Inside

/-!
# All or nothing

A handle issues BEGIN, then writes, then COMMIT.  Between the statements its connection
may be lost, reset, or found busy with a stream.  Are its writes made durable together or
not at all?

Not when the connection is lost between two writes: the next write finds it lost, resets
it, and is made on the fresh session, where it is durable at once; COMMIT then has nothing
to do and is answered with success (`write_after_loss`).  `transaction_is_atomic` says
that it is so if at each write the connection still is in the transaction and free.
-/

namespace PlexPostgres.Step

open Postgres Txn

variable {ω : Type*}

/-! ### What happens -/

/-- What can happen between BEGIN and COMMIT. -/
inductive Event (ω : Type*) where
  /-- A connection is lost. -/
  | lost (d : ConnId)
  /-- It is reset, which may fail. -/
  | reset (d : ConnId) (ok : Bool)
  /-- A stream starts or ends on it. -/
  | stream (d : ConnId) (on : Bool)
  /-- The handle writes. -/
  | write (r : Request ω)

/-- The handle in its transaction: the world, the thread's connection-error mark, and the
writes issued. -/
structure Handle (ω : Type*) where
  world : World ω
  mark : Bool
  issued : List ω

/-- **One event.** -/
def Handle.next (cfg : Config) (h : Handle ω) : Event ω → Handle ω
  | .lost d => { h with world := loseLink h.world d }
  | .reset d ok => { h with world := resetConnection h.world d ok }
  | .stream d on => { h with world := h.world.setConn d fun c => { c with streaming := on } }
  | .write r =>
    let c := step cfg h.world h.mark r.stmt r.envs
    ⟨c.world, c.connError, h.issued ++ [r.stmt.effect]⟩

/-! ### The condition -/

/-- The condition on an event. -/
def EventOk (cfg : Config) (db : DbId) (conn : ConnId) (h : Handle ω) : Event ω → Prop
  | .lost _ | .reset _ _ | .stream _ _ => True
  | .write r => OrdinaryWrite cfg db r.stmt ∧
      EachAttempt cfg (fun w _ env => InTransaction cfg conn w env) h.world h.mark r.stmt r.envs

/-! ### Calls -/

variable {cfg : Config} {w w' : World ω} {db : DbId} {conn : ConnId} {issued : List ω}

variable {before : List ω} {r : Request ω} {mark : Bool}

/-- **A call of a write.** -/
theorem step_inside (inside : Inside w db conn issued) (durable : w.durable = before)
    (ordinary : OrdinaryWrite cfg db r.stmt)
    (each : EachAttempt cfg (fun w _ env => InTransaction cfg conn w env) w mark r.stmt r.envs) :
    Inside (step cfg w mark r.stmt r.envs).world db conn (issued ++ [r.stmt.effect]) ∧
      (step cfg w mark r.stmt r.envs).world.durable = before := by
  let Inv (w : World ω) (stmt : Stmt ω) : Prop :=
    Inside w db conn issued ∧ w.durable = before ∧ OrdinaryWrite cfg db stmt ∧
      stmt.effect = r.stmt.effect
  let Post (c : Call ω) : Prop :=
    Inside c.world db conn (issued ++ [r.stmt.effect]) ∧ c.world.durable = before
  have start : Inv w r.stmt := ⟨inside, durable, ordinary, rfl⟩
  refine AttemptsMeet.call Inv Post ?_ ?_ each start
  · rintro w stmt env ⟨inside, durable, ordinary, effect⟩ inTxn failed
    obtain ⟨-, unchanged, failure⟩ := inside.write ordinary inTxn
    obtain ⟨still, same⟩ := failure failed
    have cleared : clearResult (attempt cfg w stmt env).world (attempt cfg w stmt env).stmt =
        ((attempt cfg w stmt env).world, (attempt cfg w stmt env).stmt.cleared) := by
      rw [same]
      simp [clearResult, ordinary.idle]
    rw [cleared, same]
    exact ⟨still, unchanged.trans durable, ⟨ordinary.kind, ordinary.shadow, rfl, ordinary.text⟩,
      effect⟩
  · rintro w stmt env mark ⟨inside, durable, ordinary, effect⟩ inTxn
    obtain ⟨grown, unchanged, -⟩ := inside.write ordinary inTxn
    have same := forgetError_unmoved (attempt cfg w stmt env).world (attempt cfg w stmt env).stmt
      (attempt cfg w stmt env).rc
    rw [effect] at grown
    exact ⟨grown.unmoved same, same.durable.trans (unchanged.trans durable)⟩

/-- **One event**: the transaction has all the writes issued, or it is gone; and nothing
is durable yet. -/
theorem next_between {h : Handle ω} {e : Event ω}
    (between : (Inside h.world db conn h.issued ∨ Gone h.world conn) ∧ h.world.durable = before)
    (ok : EventOk cfg db conn h e) :
    (Inside (h.next cfg e).world db conn (h.next cfg e).issued ∨ Gone (h.next cfg e).world conn) ∧
      (h.next cfg e).world.durable = before := by
  obtain ⟨between, durable⟩ := between
  cases e with
  | lost d => exact ⟨between_lost d between, (loseLink_tended h.world d).durable.trans durable⟩
  | reset d works => exact ⟨between_reset d works between, durable⟩
  | stream d on => exact ⟨between_stream d on between, durable⟩
  | write r =>
    obtain ⟨ordinary, each⟩ := ok
    have isOpen : (h.world.link conn).inTransaction = true := each.first.isOpen
    rcases between with inside | gone
    · obtain ⟨grown, unchanged⟩ := step_inside inside durable ordinary each
      exact ⟨.inl grown, unchanged⟩
    · rw [gone.notOpen] at isOpen
      cases isOpen

/-- **An attempt of COMMIT.** -/
theorem attempt_commit_whole (forwards : cfg.forwarding = true) {stmt : Stmt ω}
    (control : ControlStmt db stmt) (isCommit : classifySql stmt.sql = some .commit) (env : Env)
    (whole : Whole before w db conn issued) :
    Whole before (attempt cfg w stmt env).world db conn issued ∧
      (attempt cfg w stmt env).stmt = stmt := by
  cases inShim : env.lookup.inResolve with
  | true =>
    rw [attempt_of_inResolve cfg w stmt inShim]
    exact ⟨whole, rfl⟩
  | false =>
    have ran : Whole before ((transactionConnection w db env.lookup).2.run
        (transactionConnection w db env.lookup).1 db .commit env.control).2 db conn issued := by
      rcases whole with ⟨inside, rfl⟩ | ⟨gone, durable⟩
      · rw [inside.transactionConnection]
        exact inside.commit env.control
      · have placed := (transactionConnection_looks w db env.lookup).tended
        have tended := (gone.tended placed).commit (transactionConnection w db env.lookup).1 db
          env.control
        refine .inr ⟨(gone.tended placed).tended tended, ?_⟩
        rw [tended.durable, placed.durable]
        exact durable
    rcases attempt_control forwards w control.kind control.shadow isCommit inShim with
      ⟨-, answered⟩ | ⟨message, w', -, same, answered⟩
    · rw [answered]
      exact ⟨ran, rfl⟩
    · rw [answered]
      refine ⟨ran.imp (fun inside => ⟨inside.1.unmoved same, same.durable.trans inside.2⟩)
        fun gone => ⟨gone.1.tended (.of_unmoved same), ?_⟩, rfl⟩
      rw [same.durable]
      exact gone.2

/-- **A call of COMMIT.** -/
theorem step_commit_whole (forwards : cfg.forwarding = true) (control : ControlStmt db r.stmt)
    (isCommit : classifySql r.stmt.sql = some .commit) (whole : Whole before w db conn issued) :
    Whole before (step cfg w mark r.stmt r.envs).world db conn issued := by
  let Inv (w : World ω) (stmt : Stmt ω) : Prop := Whole before w db conn issued ∧ stmt = r.stmt
  let Post (c : Call ω) : Prop := Whole before c.world db conn issued
  have each : EachAttempt cfg (fun _ _ _ => True) w mark r.stmt r.envs :=
    .of_forall (fun _ _ _ => trivial) _ _ _ _
  refine AttemptsMeet.call Inv Post ?_ ?_ each ⟨whole, rfl⟩
  · rintro w stmt env ⟨whole, rfl⟩ - -
    obtain ⟨still, same⟩ := attempt_commit_whole forwards control isCommit env whole
    rw [same, clearResult, control.idle, control.fresh]
    exact ⟨still, rfl⟩
  · rintro w stmt env mark ⟨whole, rfl⟩ -
    obtain ⟨still, -⟩ := attempt_commit_whole forwards control isCommit env whole
    have same := forgetError_unmoved (attempt cfg w r.stmt env).world
      (attempt cfg w r.stmt env).stmt (attempt cfg w r.stmt env).rc
    refine still.imp (fun inside => ⟨inside.1.unmoved same, same.durable.trans inside.2⟩)
      fun gone => ⟨gone.1.tended (.of_unmoved same), ?_⟩
    rw [Attempt.finish, same.durable]
    exact gone.2

/-- **An attempt of BEGIN.** -/
theorem attempt_begin (forwards : cfg.forwarding = true) (handle : db ≠ 0) (nonNull : conn ≠ 0)
    (resting : Resting w conn) {stmt : Stmt ω} (control : ControlStmt db stmt)
    (isBegin : classifySql stmt.sql = some .begin) {env : Env}
    (inShim : env.lookup.inResolve = false) (found : env.lookup.found = conn) :
    ((attempt cfg w stmt env).rc.isError = false →
        Inside (attempt cfg w stmt env).world db conn []) ∧
      ((attempt cfg w stmt env).rc.isError = true → Resting (attempt cfg w stmt env).world conn) ∧
      (attempt cfg w stmt env).stmt = stmt := by
  have rest := resting.tended (transactionConnection_looks w db env.lookup).tended
  have attempted := attempt_control forwards w control.kind control.shadow isBegin inShim
  have placed := resting.transactionConnection db env.lookup
  rw [found] at placed
  generalize transactionConnection w db env.lookup = place at rest attempted placed
  have outcome : ((place.2.run place.1 db .begin env.control).1 = .ok () ∧
        Inside (place.2.run place.1 db .begin env.control).2 db conn []) ∨
      ∃ message, (place.2.run place.1 db .begin env.control).1 = .error message ∧
        Resting (place.2.run place.1 db .begin env.control).2 conn := by
    rcases placed with null | ⟨here, active⟩
    · rw [null]
      exact .inr ⟨_, rfl, rest⟩
    · rw [here]
      exact rest.begin nonNull handle active env.control
  rcases attempted with ⟨ok, answered⟩ | ⟨message, w', error, same, answered⟩
  · rw [answered]
    rcases outcome with ⟨-, inside⟩ | ⟨message, error, -⟩
    · exact ⟨fun _ => inside, nofun, rfl⟩
    · rw [ok] at error
      cases error
  · rw [answered]
    rcases outcome with ⟨ok, -⟩ | ⟨-, -, still⟩
    · rw [ok] at error
      cases error
    · exact ⟨nofun, fun _ => still.tended (.of_unmoved same), rfl⟩

/-- The lookups of BEGIN find `conn`. -/
def Placed (cfg : Config) (conn : ConnId) (w : World ω) (mark : Bool) (r : Request ω) : Prop :=
  EachAttempt cfg (fun _ _ env => env.lookup.inResolve = false ∧ env.lookup.found = conn)
    w mark r.stmt r.envs

/-- **A call of BEGIN.** -/
theorem step_begin (forwards : cfg.forwarding = true) (handle : db ≠ 0) (nonNull : conn ≠ 0)
    (resting : Resting w conn) (control : ControlStmt db r.stmt)
    (isBegin : classifySql r.stmt.sql = some .begin) (placed : Placed cfg conn w mark r)
    (began : (step cfg w mark r.stmt r.envs).rc.isError = false) :
    Inside (step cfg w mark r.stmt r.envs).world db conn [] := by
  let Inv (w : World ω) (stmt : Stmt ω) : Prop := Resting w conn ∧ stmt = r.stmt
  let Post (c : Call ω) : Prop := c.rc.isError = false → Inside c.world db conn []
  unfold Placed at placed
  refine AttemptsMeet.call Inv Post ?_ ?_ placed ⟨resting, rfl⟩ began
  · rintro w stmt env ⟨resting, rfl⟩ ⟨inShim, found⟩ failed
    obtain ⟨-, still, same⟩ :=
      attempt_begin forwards handle nonNull resting control isBegin inShim found
    rw [same, clearResult, control.idle, control.fresh]
    exact ⟨still failed, rfl⟩
  · rintro w stmt env mark ⟨resting, rfl⟩ ⟨inShim, found⟩ succeeded
    obtain ⟨opened, -⟩ :=
      attempt_begin forwards handle nonNull resting control isBegin inShim found
    exact (opened succeeded).unmoved (forgetError_unmoved _ _ _)

/-! ### The whole transaction -/

/-- The handle after BEGIN. -/
def Handle.begun (cfg : Config) (w : World ω) (mark : Bool) (r : Request ω) : Handle ω :=
  ⟨(step cfg w mark r.stmt r.envs).world, (step cfg w mark r.stmt r.envs).connError, []⟩

/-- **All or nothing**: in every run of BEGIN, answered with success, writes, and COMMIT,
in which at each write the connection is still in the transaction and free, nothing is
durable before COMMIT, and after it all the writes issued are or none. -/
theorem transaction_is_atomic (cfg : Config) (forwards : cfg.forwarding = true) {db : DbId}
    (handle : db ≠ 0) {conn : ConnId} (nonNull : conn ≠ 0) {w : World ω}
    (nothingOpen : Resting w conn) (mark : Bool) {begin commit : Request ω}
    (isBegin : ControlStmt db begin.stmt ∧ classifySql begin.stmt.sql = some .begin)
    (isCommit : ControlStmt db commit.stmt ∧ classifySql commit.stmt.sql = some .commit)
    (placed : Placed cfg conn w mark begin)
    (began : (step cfg w mark begin.stmt begin.envs).rc.isError = false) (events : List (Event ω))
    (ok : Runs.Meets (Handle.next cfg) (EventOk cfg db conn) (.begun cfg w mark begin) events) :
    let start := Handle.begun cfg w mark begin
    let last := Runs.final (Handle.next cfg) start events
    let done := step cfg last.world last.mark commit.stmt commit.envs
    (∀ earlier, earlier <+: events →
        (Runs.final (Handle.next cfg) start earlier).world.durable = start.world.durable) ∧
      (done.world.durable = start.world.durable ∨
        done.world.durable = start.world.durable ++ last.issued) := by
  intro start last done
  have inside : Inside start.world db conn [] :=
    step_begin forwards handle nonNull nothingOpen isBegin.1 isBegin.2 placed began
  have between : ∀ earlier, earlier <+: events →
      (Inside (Runs.final (Handle.next cfg) start earlier).world db conn
          (Runs.final (Handle.next cfg) start earlier).issued ∨
        Gone (Runs.final (Handle.next cfg) start earlier).world conn) ∧
      (Runs.final (Handle.next cfg) start earlier).world.durable = start.world.durable := by
    intro earlier reached
    exact (ok.shorter reached).invariant
      (fun h => (Inside h.world db conn h.issued ∨ Gone h.world conn) ∧
        h.world.durable = start.world.durable)
      (fun h e => next_between) ⟨.inl inside, rfl⟩
  refine ⟨fun earlier reached => (between earlier reached).2, ?_⟩
  obtain ⟨where', durable⟩ := between events List.prefix_rfl
  have whole : Whole start.world.durable last.world db conn last.issued :=
    where'.imp (fun inside => ⟨inside, durable⟩) fun gone => ⟨gone, .inl durable⟩
  have after : Whole start.world.durable done.world db conn last.issued :=
    step_commit_whole forwards isCommit.1 isCommit.2 whole
  exact after.elim (fun inside => .inl inside.2) fun gone => gone.2

/-- Two writes, with a stream on another connection between them. -/
def undisturbed : List (Event ℕ) := [.write (update 5 (.calm 1)), .stream 2 true,
  .write (update 6 (.calm 1))]

theorem inTransaction_calm {conn : ConnId} {w : World ℕ}
    (isOpen : (w.link conn).inTransaction = true) (free : (w.conns conn).streaming = false) :
    InTransaction forwarding conn w (.calm conn) where
  inShim := rfl
  isOpen := isOpen
  notStreaming := free
  alone := rfl
  kept := by simp [WriteEnv.Kept, Env.calm]
  wrapped := nofun

/-- The handle after BEGIN, with nothing open before it. -/
def begunFresh : Handle ℕ := .begun forwarding .fresh false (control "BEGIN".toList (.calm 1))

theorem undisturbed_ok :
    Runs.Meets (Handle.next forwarding) (EventOk forwarding 7 1) begunFresh undisturbed := by
  exact ⟨⟨update_ordinary 5 _, .of_first (inTransaction_calm (by decide) (by decide)) (by decide)⟩,
    trivial,
    ⟨update_ordinary 6 _, .of_first (inTransaction_calm (by decide) (by decide)) (by decide)⟩,
    trivial⟩

theorem transaction_is_atomic_undisturbed :
    let last := Runs.final (Handle.next forwarding) begunFresh undisturbed
    let done := step forwarding last.world last.mark
      (control "COMMIT".toList (.calm 1)).stmt (control "COMMIT".toList (.calm 1)).envs
    last.issued = [5, 6] ∧ (done.world.durable = begunFresh.world.durable ∨
      done.world.durable = begunFresh.world.durable ++ last.issued) := by
  have isCommit : ControlStmt 7 (control "COMMIT".toList (.calm 1)).stmt ∧
      classifySql (control "COMMIT".toList (.calm 1)).stmt.sql = some .commit :=
    ⟨⟨rfl, rfl, rfl⟩, by decide⟩
  have atomic := transaction_is_atomic forwarding rfl (by decide) (by decide)
    ⟨fun _ => rfl, quiet_of_not_inTransaction rfl, rfl⟩ false ⟨⟨rfl, rfl, rfl⟩, by decide⟩
    isCommit (.of_first ⟨rfl, rfl⟩ (by decide)) (by decide) undisturbed undisturbed_ok
  exact ⟨by decide, atomic.2⟩

/-- Two writes, and the connection is lost between them. -/
def disturbed : List (Event ℕ) :=
  [.write (update 5 (.calm 1)), .lost 1, .write (update 6 (.calm 1))]

/-- **A write after the connection was lost** is made outside the transaction: every
statement is answered with success, and of the two writes only the second is durable. -/
theorem write_after_loss :
    let begin := control "BEGIN".toList (.calm 1)
    let commit := control "COMMIT".toList (.calm 1)
    let start := Handle.begun forwarding .fresh false begin
    let last := Runs.final (Handle.next forwarding) start disturbed
    (step forwarding .fresh false begin.stmt begin.envs).rc = .done ∧
      start.world.durable = [] ∧ last.issued = [5, 6] ∧ last.world.durable = [6] ∧
      (step forwarding last.world last.mark commit.stmt commit.envs).rc = .done ∧
      (step forwarding last.world last.mark commit.stmt commit.envs).world.durable = [6] := by
  decide

end PlexPostgres.Step
