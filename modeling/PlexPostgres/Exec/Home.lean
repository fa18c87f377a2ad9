import PlexPostgres.Exec.Retry
import PlexPostgres.Exec.Traffic
import PlexPostgres.Step.Held

/-!
# The connection of a transaction

Five paths send a handle's SQL, and each has its own rule for the connection: a registered
statement, one that is not registered, a script, transaction control, and a request for
column metadata.  While the handle has a transaction open all of them should use the
connection its BEGIN or SAVEPOINT was sent on, its *home*.

A run is made of deeds: single attempts, of any handle and on any thread, so a call that is
tried again is several deeds.  `home` is kept beside the process, from what was sent and
from the server's own view of the transaction.

Three paths ask the registry.  Two do not: a statement that is not registered and a request
for column metadata take what the pool has for the thread.
-/

namespace PlexPostgres

open Postgres Txn Routing
open Exec (Backed ExecConfig ExecEnv Translator acceptAll execConn forwardedAs keepText)
open Option (ite_none_left_eq_some map_eq_some_iff)

variable {ω : Type*}

/-! ### Statements in mid-stream -/

variable {w' : World ω} {d : ConnId}

namespace Step

/-- **A statement in mid-stream** is a read that holds a row of the connection it streams
from. -/
def Stmt.Flowing (stmt : Stmt ω) : Prop :=
  ∀ source, stmt.streaming = some source →
    stmt.kind = .read ∧ stmt.resultConn = source ∧ stmt.result.isSome = true

variable {stmt : Stmt ω}

theorem Stmt.flowing_of_none (idle : stmt.streaming = none) : stmt.Flowing := by
  intro source streams
  rw [idle] at streams
  cases streams

theorem Stmt.Flowing.idle (flowing : stmt.Flowing) (kind : stmt.kind ≠ .read) :
    stmt.streaming = none := by
  cases stream : stmt.streaming with
  | none => rfl
  | some source => exact absurd (flowing source stream).1 kind

theorem fetchMetadata_flowing (flowing : stmt.Flowing) (w : World ω) (env : MetadataEnv) :
    (fetchMetadata w stmt env).2.Flowing := by
  rcases fetchMetadata_cases w stmt env with
    same | ⟨conn, link, committed, place, same | ⟨count, fetched⟩⟩
  · rw [same]
    exact flowing
  · rw [same]
    exact flowing
  · rw [fetched]
    apply Stmt.flowing_of_none
    show stmt.streaming = none
    cases stream : stmt.streaming with
    | none => rfl
    | some source => simp [metadataPlace, (flowing source stream).2.2] at place

/-- A query that is sent leaves a stream of the connection it was sent on, or none. -/
theorem firstExecute_flowing (kind : stmt.kind = .read) (idle : stmt.streaming = none)
    (cfg : Config) (w : World ω) (conn : ConnId) (env : Env) :
    (firstExecute cfg w stmt conn env).stmt.Flowing := by
  have ran := firstExecute_ran cfg w stmt conn env
  generalize firstExecute cfg w stmt conn env = a at ran ⊢
  cases ran with
  | failed s w connError like stream =>
    exact Stmt.flowing_of_none (by simpa [idle] using stream)
  | empty s w zero like stream => exact Stmt.flowing_of_none (by simpa [idle] using stream)
  | missing => exact Stmt.flowing_of_none rfl
  | streams conn w some =>
    intro source streams
    cases streams
    exact ⟨kind, rfl, rfl⟩
  | fetched => exact Stmt.flowing_of_none idle

/-- A stream that is kept is the connection's own. -/
theorem prepareReexecution_stream {w : World ω} {s : Stmt ω} {conn : ConnId}
    (kept : prepareReexecution w stmt conn = (w', s)) :
    s.kind = stmt.kind ∧ ∀ source, s.streaming = some source →
      stmt.streaming = some source ∧ s.resultConn = stmt.resultConn ∧
        stmt.resultConn = conn := by
  unfold prepareReexecution at kept
  by_cases crossed : (stmt.streaming.isSome && stmt.resultConn ≠ conn) = true
  · rw [if_pos crossed] at kept
    simp only [clearResult, Stmt.cleared, Option.any_none] at kept
    cases kept
    refine ⟨rfl, fun source streams => ?_⟩
    cases streams
  · rw [if_neg crossed] at kept
    have here (source : ConnId) (streams : stmt.streaming = some source) :
        stmt.resultConn = conn := by
      simpa [streams] using crossed
    split at kept
    next w₁ s₁ adopted =>
      split at adopted <;> cases adopted
      next rows =>
        have idle : stmt.streaming = none := by simpa using (Bool.and_eq_true_iff.mp rows).2
        split at kept <;> cases kept <;>
          exact ⟨rfl, fun source streams => by rw [idle] at streams; cases streams⟩
      next =>
        split at kept <;> cases kept <;>
          exact ⟨rfl, fun source streams => ⟨streams, rfl, here source streams⟩⟩

/-- The connection's own stream is kept. -/
theorem prepareReexecution_keeps {source conn : ConnId} (w : World ω)
    (streams : stmt.streaming = some source) (here : stmt.resultConn = conn) :
    (prepareReexecution w stmt conn).2.streaming = some source := by
  unfold prepareReexecution
  simp only [streams, here, ne_eq, not_true_eq_false, decide_false, Bool.and_false,
    Option.isNone_some, Bool.false_eq_true, if_false]
  split
  · rfl
  · exact streams

theorem streamingNext_flowing {source : ConnId} (kind : stmt.kind = .read)
    (streams : stmt.streaming = some source) (here : stmt.resultConn = source) (w : World ω)
    (env : Env) : (streamingNext w stmt source env).stmt.Flowing := by
  unfold streamingNext
  dsimp only
  split
  · exact Stmt.flowing_of_none rfl
  split
  · intro source' streams'
    cases streams.symm.trans streams'
    exact ⟨kind, here, rfl⟩
  · exact Stmt.flowing_of_none rfl
  · exact Stmt.flowing_of_none rfl
  · exact Stmt.flowing_of_none rfl

theorem readAttempt_flowing (kind : stmt.kind = .read) (flowing : stmt.Flowing) (cfg : Config)
    (w : World ω) (conn : ConnId) (env : Env) :
    (readAttempt cfg w stmt conn env).stmt.Flowing := by
  unfold readAttempt
  split
  · exact flowing
  · rcases kept : prepareReexecution w stmt conn with ⟨w', s⟩
    obtain ⟨sameKind, stream⟩ := prepareReexecution_stream kept
    dsimp only
    split
    next _ source streams =>
      obtain ⟨before, same, -⟩ := stream source streams
      exact streamingNext_flowing (sameKind.trans kind) streams
        (same.trans (flowing source before).2.1) w' env
    next rows streams _ =>
      unfold eagerNext
      split <;> exact Stmt.flowing_of_none streams
    next streams _ => exact firstExecute_flowing (sameKind.trans kind) streams cfg w' conn env

/-- **A registered statement stays so**, whatever an attempt does. -/
theorem attempt_flowing (flowing : stmt.Flowing) (cfg : Config) (w : World ω) (env : Env) :
    (attempt cfg w stmt env).stmt.Flowing := by
  have attempted := attempt_attempted cfg w stmt env
  generalize attempt cfg w stmt env = a at attempted ⊢
  cases attempted with
  | answered => exact flowing
  | control =>
    rw [(controlAttempt_spec cfg w stmt env).1]
    exact flowing
  | write pgSql conn w' kind text =>
    apply Stmt.flowing_of_none
    rw [(writeAttempt_ran cfg w' text conn env).streaming]
    exact flowing.idle (by rw [kind]; decide)
  | read pgSql conn w' kind => exact readAttempt_flowing kind flowing cfg w' conn env

variable {env : Env}

/-- **Transaction control of a registered statement** is run on its connection; a message
may be left. -/
theorem attempt_control_unmoved {cfg : Config} {w : World ω}
    (inShim : env.lookup.inResolve = false) {cmd : TxnCmd} (command : stmt.command cfg = some cmd) :
    let place := transactionConnection w (stmt.shadow.getD 0) env.lookup
    Unmoved (place.2.run place.1 (stmt.shadow.getD 0) cmd env.control).2
      (attempt cfg w stmt env).world := by
  intro place
  unfold Stmt.command at command
  split at command
  next isControl =>
    simp only [Bool.and_eq_true, decide_eq_true_eq] at isControl
    obtain ⟨kind, forwarding⟩ := isControl
    simp only [attempt, inShim, kind, controlAttempt, command, forwarding]
    rcases chosen : transactionConnection w (stmt.shadow.getD 0) env.lookup with ⟨conn, w'⟩
    simp only [place, chosen]
    rcases w'.run conn (stmt.shadow.getD 0) cmd env.control with ⟨reason | _, w''⟩
    · simp only [Bool.false_eq_true, if_false, Bool.not_true]
      split
      · exact noteStmtError_unmoved ..
      · exact (noteStmtError_unmoved ..).trans (noteError_unmoved ..)
    · exact .refl w''
  · cases command

/-! ### The record along the other paths -/

namespace Held

variable {db : DbId} {conn : ConnId} {state : TxnState} {w : World ω}
  (held : Held db conn state w)

include held

theorem preflight (env : ExecEnv) (up : d = conn → (w.link conn).isOk = true) :
    Held db conn state (Exec.preflight w d env).2 := by
  unfold Exec.preflight
  dsimp only
  split
  · exact held
  next lost =>
    have other : d ≠ conn := by
      intro same
      rw [same] at lost
      exact lost (up same)
    split
    · exact held.anew other _
    split
    · exact held.reset other _
    · exact (held.reset other _).anew other _

theorem looks (looks : Looks w w') :
    Held db conn state w' ∧ w'.link conn = w.link conn := by
  induction looks with
  | refl => exact ⟨held, rfl⟩
  | pinned _ db' ih =>
    refine ⟨ih.1.pinnedConn db', ?_⟩
    rw [World.link, pinnedConn_conns]
    exact ih.2
  | stopped _ d ih => exact ⟨ih.1.stopStream d, (stopStream_link _ d conn).trans ih.2⟩

variable {place : Option ConnId}

/-- **The record along an attempt**: a connection that is up is not reset. -/
theorem passes (up : (w.link conn).isOk = true) (passes : Passes place w w') :
    Held db conn state w' := by
  induction passes with
  | looked looks => exact (held.looks looks).1
  | @locked w₁ w₂ d env found looks lock =>
    have locked := (held.looks looks).1.lockConnection d env
    rw [lock] at locked
    exact locked
  | @readied w₁ w₂ w₃ d d' env isUp looks lock ready =>
    obtain ⟨held, same⟩ := held.looks looks
    have locked := held.lockConnection d env
    rw [lock] at locked
    have readied := locked.readyConnection (d := d') env fun here => by
      rw [← here, (lockConnection_some lock).2, here, same]
      exact up
    rw [ready] at readied
    exact readied
  | @preflight w₁ w₂ d env isUp looks ready =>
    obtain ⟨held, same⟩ := held.looks looks
    have readied := held.preflight (d := d) env fun _ => by
      rw [same]
      exact up
    rw [ready] at readied
    exact readied
  | raced _ d lost ih => exact ih.afterRace d lost
  | noted _ same ih => exact ih.unmoved same
  | lost _ d ih => exact ih.setLink d .down
  | stopped _ d ih => exact ih.stopStream d
  | streams _ outside ih =>
    refine ih.setConn_other ?_ _
    rintro rfl
    rw [ih.inTransaction] at outside
    cases outside
  | sent _ _ link committed ih => exact ih.after _ link committed

theorem ends (up : (w.link conn).isOk = true) (ends : Ends place w w') :
    StaysHeld db conn state w' := by
  cases ends with
  | passes passes => exact (held.passes up passes).keeps
  | checked passes d env => exact (held.passes up passes).checkHealth d env

/-! ### Where the handle's own statements go -/

section

variable (up : (w.link conn).isOk = true)

include up

theorem readyPlace_eq {env : ConnectEnv} (place : readyPlace w conn env = some (d, w')) :
    d = conn := by
  obtain ⟨w'', locked, -, -⟩ := readyPlace_eq_some place
  have raced := held.afterRace conn env.raced
  have usable := isUsable_of_up held.nonNull up
  simp only [Step.lockConnection, lookAgain, usable, Bool.true_or, if_true, Bool.not_true,
    raced.free] at locked
  split at locked
  · cases locked
  split at locked
  · cases locked
  · cases locked
    rfl

/-- A read that is sent: it was not in mid-stream on another connection. -/
theorem readPlace_eq {s : Stmt ω} (flowing : stmt.Flowing) (shadow : stmt.shadow = some db)
    {chosen : ConnId} {w₁ w₂ : World ω}
    (choice : Step.chooseConn w stmt env.lookup = (chosen, w₁))
    (place : readPlace w₁ stmt chosen env = some (d, w₂, s)) : d = conn := by
  have pinned := held.pinned up
  by_cases source : streamingConn w stmt env.lookup = 0
  · have home : Step.chooseConn w stmt env.lookup = (conn, w) := by
      simp [Step.chooseConn, source, shadow, pinned.pinnedConn, pinned.isUsable]
    cases home.symm.trans choice
    unfold readPlace at place
    split at place
    · cases place
    · rcases kept : Step.prepareReexecution w stmt conn with ⟨w', s'⟩
      have looks := Looks.refl.prepareReexecution (w := w) stmt conn
      rw [kept] at place looks
      obtain ⟨heldAfter, linkAfter⟩ := held.looks looks
      dsimp only at place
      split at place
      · obtain ⟨⟨d', w₂'⟩, found, same⟩ := map_eq_some_iff.mp place
        cases same
        exact heldAfter.readyPlace_eq (by rw [linkAfter]; exact up) found
      · cases place
  · -- The row after the one it holds comes from where it streams: nothing is sent.
    exfalso
    unfold streamingConn at source
    split at source
    · exact source rfl
    next source₀ streams =>
      obtain ⟨-, here, -⟩ := flowing source₀ streams
      have goes : Step.chooseConn w stmt env.lookup = (source₀, w) := by
        split at source
        next usable =>
          simp [Step.chooseConn, streamingConn, streams, usable, source]
        · exact absurd rfl source
      cases goes.symm.trans choice
      unfold readPlace at place
      split at place
      · cases place
      · have stream := prepareReexecution_keeps w streams here
        rcases kept : Step.prepareReexecution w stmt chosen with ⟨w', s'⟩
        rw [kept] at place stream
        dsimp only at place
        split at place
        next idle _ =>
          rw [idle] at stream
          cases stream
        · cases place

theorem attemptPlace_eq {cfg : Config} (flowing : stmt.Flowing)
    (shadow : stmt.shadow = some db) (place : attemptPlace cfg w stmt env = some d) : d = conn := by
  have pinned := held.pinned up
  rw [attemptPlace, ite_none_left_eq_some] at place
  replace place := place.2
  split at place
  · unfold controlPlace at place
    rw [shadow, Option.getD_some, pinned.transactionConnection] at place
    split at place
    · cases place
    · exact (Option.some.inj (Option.ite_none_right_eq_some.mp place).2).symm
  next pgSql chosen w₁ kind text choice =>
    cases (pinned.chooseConn shadow (flowing.idle (by rw [kind]; decide)) env.lookup).symm.trans
      choice
    split at place
    · cases place
    unfold writeSends at place
    split at place
    · exact (Option.some.inj place).symm
    · obtain ⟨⟨d', w'⟩, found, same⟩ := map_eq_some_iff.mp place
      cases same
      rw [writePlace, ite_none_left_eq_some] at found
      exact held.readyPlace_eq up found.2
  next pgSql chosen w₁ kind text choice =>
    split at place
    · cases place
    · obtain ⟨⟨d', w', s⟩, found, same⟩ := map_eq_some_iff.mp place
      cases same
      exact held.readPlace_eq up flowing shadow choice found
  · cases place

theorem metadataPlace_eq {env : MetadataEnv} (pooled : env.pooled = conn)
    (excluding : env.excluding = conn) (place : metadataPlace w stmt env = some d) : d = conn := by
  have home : metadataConn w stmt env = conn := by
    simp [metadataConn, pooled, excluding, isUsable_of_up held.nonNull up, held.active]
  simp only [metadataPlace, home, ite_none_left_eq_some] at place
  exact (Option.some.inj place.2.2.2).symm

theorem cachedPlace_eq {cfg : CachedConfig} {u : Unregistered ω}
    {env : CachedEnv} (own : u.db = db)
    (pooled : (if env.lookup.served then env.lookup.pooled else cachedBase env) = conn)
    (place : cachedPlace cfg w u env = some d) : d = conn := by
  have home : pickThreadConnection w (cachedBase env) env = conn := by
    unfold pickThreadConnection
    cases served : env.lookup.served with
    | false => simpa [served] using pooled
    | true =>
      have given : env.lookup.pooled = conn := by simpa [served] using pooled
      simp [given, isUsable_of_up held.nonNull up, held.active]
  have write : cachedWritePlace w u env = some d → d = conn := by
    intro place
    simp only [cachedWritePlace, home, ite_none_left_eq_some] at place
    exact (Option.some.inj place.2).symm
  have read : cachedReadPlace w u env = some d → d = conn := by
    intro place
    simp only [cachedReadPlace, home, ite_none_left_eq_some] at place
    exact (Option.some.inj place.2).symm
  rw [cachedPlace, own, (held.pinned up).transactionConnection,
    ite_none_left_eq_some] at place
  replace place := place.2
  split at place
  · exact (Option.some.inj place).symm
  rw [ite_none_left_eq_some] at place
  replace place := place.2
  split at place
  · exact write place
  split at place
  · exact read place
  · cases place

theorem execConn_eq (env : ExecEnv) : execConn w db env = conn := by
  rw [execConn, (held.pinned up).pinnedConn, if_neg held.nonNull]

theorem execPlace_eq {cfg : ExecConfig}
    {tr : Translator} {sql : Text} {env : ExecEnv}
    (place : Exec.execPlace cfg tr w db sql env = some d) : d = conn := by
  simp only [Exec.execPlace, held.execConn_eq up, ite_none_left_eq_some] at place
  replace place := place.2.2
  split at place
  · exact (Option.some.inj place).symm
  replace place := (ite_none_left_eq_some.mp place).2
  split at place
  · cases place
  · exact (Option.some.inj (ite_none_left_eq_some.mp place).2).symm

end

end Held

end Step

/-! ### The connections commands go to -/

namespace Step

variable {w : World ω} {db : DbId} {conn : ConnId}

theorem pinnedConn_active (nonNull : (w.pinnedConn db).1 ≠ 0) :
    (w.conns (w.pinnedConn db).1).active = true := by
  unfold World.pinnedConn at nonNull ⊢
  split at nonNull
  · exact absurd rfl nonNull
  next handle =>
    rw [if_neg handle]
    split at nonNull
    · exact absurd rfl nonNull
    next conn pin =>
      dsimp only at nonNull ⊢
      split at nonNull
      next live =>
        rw [if_pos live]
        exact (Bool.and_eq_true_iff.mp live).2
      · exact absurd rfl nonNull

theorem transactionConnection_active {env : LookupEnv}
    (chosen : transactionConnection w db env = (conn, w')) (nonNull : conn ≠ 0) :
    (w'.conns conn).active = true := by
  have kept := pinnedConn_conns w db
  have active : (w.pinnedConn db).1 ≠ 0 → (w.conns (w.pinnedConn db).1).active = true :=
    pinnedConn_active
  unfold transactionConnection at chosen
  split at chosen
  next pinned w₁ found =>
    rw [found] at kept active
    split at chosen
    · cases chosen
      rw [kept]
      exact active nonNull
    split at chosen
    next own =>
      cases chosen
      exact (Bool.and_eq_true_iff.mp own).2
    · cases chosen
      exact absurd rfl nonNull

theorem preflight_active {env : ExecEnv} (active : (w.conns conn).active = true)
    (ready : Exec.preflight w conn env = (true, w')) : (w'.conns conn).active = true := by
  have connected (w₀ w' : World ω) (ok : Bool) (made : (ok, connectAnew w₀ conn ok) = (true, w')) :
      (w'.conns conn).active = true := by
    obtain ⟨rfl, rfl⟩ := Prod.mk.inj made
    simp [connectAnew]
  unfold Exec.preflight at ready
  dsimp only at ready
  split at ready
  · cases ready
    exact active
  split at ready
  · exact connected _ _ _ ready
  split at ready
  · cases ready
    simpa [resetConnection, setLink] using active
  · exact connected _ _ _ ready

end Step

open Step

/-! ### Deeds -/

/-- **What happens in the process**, one attempt at a time. -/
inductive Deed (ω : Type*) where
  /-- A statement is registered under a number. -/
  | register (id : ℕ) (stmt : Stmt ω)
  /-- A registered statement is stepped, once. -/
  | attempt (id : ℕ) (env : Env)
  /-- It is reset, by Plex or before it is tried again. -/
  | clear (id : ℕ)
  /-- Its columns are asked for. -/
  | metadata (id : ℕ) (env : MetadataEnv)
  /-- A statement that is not registered is stepped. -/
  | cached (u : Unregistered ω) (env : CachedEnv)
  /-- A script is run, once. -/
  | exec (db : DbId) (sql : Text) (env : ExecEnv)

/-- **The process**: the world, the registered statements, and the connection the handle's
open transaction was begun on. -/
structure Process (ω : Type*) where
  world : World ω
  stmts : ℕ → Stmt ω
  home : Option ConnId

/-- The transaction command of a deed: for which handle, on which connection, in which
world. -/
structure Forwarded (ω : Type*) where
  db : DbId
  conn : ConnId
  cmd : TxnCmd
  world : World ω
  fates : ℕ → Fate

/-- It is run. -/
def Forwarded.outcome (f : Forwarded ω) : Except Text Unit × World ω :=
  f.world.run f.conn f.db f.cmd f.fates

namespace Process

variable (cfg : CachedConfig) (tr : Translator)
  (server : Text → Session ω → Reply ω)

/-- **The transaction command a deed forwards**, if it is transaction control. -/
def forwarded (s : Process ω) : Deed ω → Option (Forwarded ω)
  | .attempt id env =>
    let db := (s.stmts id).shadow.getD 0
    let place := transactionConnection s.world db env.lookup
    if env.lookup.inResolve then none
    else ((s.stmts id).command cfg.toConfig).map fun cmd =>
      ⟨db, place.1, cmd, place.2, env.control⟩
  | .cached u env =>
    let place := transactionConnection s.world u.db env.lookup
    if isLeftAlone s.world u env then none
    else (if cfg.forwarding then classifySql u.sql else none).map fun cmd =>
      ⟨u.db, place.1, cmd, place.2, env.control⟩
  | .exec db sql env =>
    let conn := execConn s.world db env
    let ready := Exec.preflight (s.world.pinnedConn db).2 conn env
    if Backed s.world db env ∧ isSqlitePassthrough sql = false ∧ ready.1 = true then
      (forwardedAs cfg.exec sql).map fun cmd => ⟨db, conn, cmd, ready.2, env.control⟩
    else none
  | .register _ _ | .clear _ | .metadata _ _ => none

/-- **The connection a deed sends on**, if it sends anything. -/
def place (s : Process ω) : Deed ω → Option ConnId
  | .attempt id env => attemptPlace cfg.toConfig s.world (s.stmts id) env
  | .metadata id env => metadataPlace s.world (s.stmts id) env
  | .cached u env => cachedPlace cfg s.world u env
  | .exec db sql env => Exec.execPlace cfg.exec tr s.world db sql env
  | .register _ _ | .clear _ => none

/-- The handle a deed is for. -/
def IssuedBy (db : DbId) (s : Process ω) : Deed ω → Prop
  | .attempt id _ | .metadata id _ => (s.stmts id).shadow = some db
  | .cached u _ => u.db = db
  | .exec db' _ _ => db' = db
  | .register _ _ | .clear _ => False

/-- The world after a deed. -/
def worldAfter (s : Process ω) : Deed ω → World ω
  | .register _ _ => s.world
  | .attempt id env => (attempt cfg.toConfig s.world (s.stmts id) env).world
  | .clear id => (clearResult s.world (s.stmts id)).1
  | .metadata id env => (fetchMetadata s.world (s.stmts id) env).1
  | .cached u env => (cachedStep cfg s.world u env).world
  | .exec db sql env => (Exec.execAttempt cfg.exec tr server s.world db sql env).world

/-- The registered statements after a deed. -/
def stmtsAfter (s : Process ω) : Deed ω → ℕ → Stmt ω
  | .register id stmt => Function.update s.stmts id stmt.cleared
  | .attempt id env =>
    Function.update s.stmts id (attempt cfg.toConfig s.world (s.stmts id) env).stmt
  | .clear id => Function.update s.stmts id (s.stmts id).cleared
  | .metadata id env =>
    Function.update s.stmts id (fetchMetadata s.world (s.stmts id) env).2
  | .cached _ _ | .exec _ _ _ => s.stmts

/-- The connection a deed begins a transaction of `db` on. -/
def begunOn (db : DbId) (s : Process ω) (deed : Deed ω) : Option ConnId :=
  ((forwarded cfg s deed).filter fun f =>
    f.db = db && opens f.cmd && f.outcome.1.isOk).map (·.conn)

/-- **A deed is done.**  The transaction of `db` is at home where it was begun, for as long
as the server is in it. -/
def next (db : DbId) (s : Process ω) (deed : Deed ω) : Process ω where
  world := worldAfter cfg tr server s deed
  stmts := stmtsAfter cfg s deed
  home := (s.home.orElse fun _ => begunOn cfg db s deed).filter fun conn =>
    ((worldAfter cfg tr server s deed).link conn).inTransaction

/-- **The condition on a deed.**  A transaction is begun on a connection that has none and
does not stream; no other handle's transaction control comes to it; and the pool gives the
handle's thread the connection of its transaction, when a statement that is not registered
is stepped or columns are asked for. -/
structure Steady (db : DbId) (s : Process ω) (deed : Deed ω) : Prop where
  begins : s.home = none → ∀ f ∈ forwarded cfg s deed, f.db = db → opens f.cmd = true →
    f.world.registry.byConn f.conn = none ∧ (f.world.conns f.conn).streaming = false
  apart : ∀ conn ∈ s.home, ∀ f ∈ forwarded cfg s deed, f.db ≠ db → f.conn ≠ conn
  pooled : ∀ conn ∈ s.home, IssuedBy db s deed →
    match deed with
    | .cached _ env =>
      (if env.lookup.served then env.lookup.pooled else cachedBase env) = conn
    | .metadata _ env => env.pooled = conn ∧ env.excluding = conn
    | _ => True

end Process

/-! ### The record along a run -/

namespace Process

variable {cfg : CachedConfig} {tr : Translator} {server : Text → Session ω → Reply ω}
  {db : DbId} {conn : ConnId} {state : TxnState} {s : Process ω} {deed : Deed ω}

variable {f : Forwarded ω}

/-- **Where a forwarded command goes**: to the connection of the transaction, or to the
handle's own that is found active. -/
theorem forwarded_place (forwards : forwarded cfg s deed = some f) :
    (∃ env, transactionConnection s.world f.db env = (f.conn, f.world)) ∨
      ∃ env, Backed s.world f.db env ∧ f.conn = execConn s.world f.db env ∧
        Exec.preflight (s.world.pinnedConn f.db).2 f.conn env = (true, f.world) := by
  cases deed with
  | register | clear | metadata => cases forwards
  | attempt | cached =>
    simp only [forwarded, ite_none_left_eq_some, map_eq_some_iff] at forwards
    obtain ⟨-, cmd, -, rfl⟩ := forwards
    exact .inl ⟨_, rfl⟩
  | exec db' sql env =>
    simp only [forwarded, Option.ite_none_right_eq_some, map_eq_some_iff] at forwards
    obtain ⟨⟨backed, -, ready⟩, cmd, -, rfl⟩ := forwards
    exact .inr ⟨env, backed, rfl, Prod.ext ready rfl⟩

/-- **A forwarded command is run**; after that only a message is left. -/
theorem forwarded_worldAfter (forwards : forwarded cfg s deed = some f) :
    Unmoved f.outcome.2 (worldAfter cfg tr server s deed) := by
  cases deed with
  | register | clear | metadata => cases forwards
  | attempt id env =>
    simp only [forwarded, ite_none_left_eq_some, map_eq_some_iff] at forwards
    obtain ⟨inShim, cmd, command, rfl⟩ := forwards
    exact attempt_control_unmoved (by simpa using inShim) command
  | cached u env =>
    simp only [forwarded, ite_none_left_eq_some, map_eq_some_iff] at forwards
    obtain ⟨reached, cmd, command, rfl⟩ := forwards
    show Unmoved _ (cachedStep cfg s.world u env).world
    rw [cachedStep, if_neg (by simpa [isLeftAlone] using reached), cachedDispatch, command]
    simp only [cachedControl, Forwarded.outcome]
    generalize World.run _ _ _ _ _ = out
    rcases out with ⟨_ | _, w⟩ <;> exact .refl w
  | exec db' sql env =>
    simp only [forwarded, Option.ite_none_right_eq_some, map_eq_some_iff] at forwards
    obtain ⟨⟨backed, ours, ready⟩, cmd, command, rfl⟩ := forwards
    show Unmoved _ (Exec.execAttempt cfg.exec tr server s.world db' sql env).world
    simp only [Exec.execAttempt, if_pos backed, ours, Bool.false_eq_true, if_false,
      Exec.execViaPostgres, Forwarded.outcome]
    generalize Exec.preflight _ _ _ = readied at ready ⊢
    obtain ⟨isReady, w⟩ := readied
    cases ready
    simp only [Exec.carryOut, command]
    generalize World.run _ _ _ _ _ = out
    rcases out with ⟨_ | _, w⟩ <;> exact .refl w

/-- **Any other deed** sends at its place only. -/
theorem worldAfter_ends (ordinary : forwarded cfg s deed = none) :
    Ends (place cfg tr s deed) s.world (worldAfter cfg tr server s deed) := by
  cases deed with
  | register => exact .passes (.looked .refl)
  | clear id => exact .passes (.looked (clearResult_looks _ _))
  | metadata id env => exact fetchMetadata_ends _ _ env
  | attempt id env =>
    refine attempt_ends cfg.toConfig s.world fun inShim => ?_
    simpa [forwarded, inShim] using ordinary
  | cached u env =>
    refine cachedStep_ends cfg s.world fun reached => ?_
    simpa [forwarded, reached] using ordinary
  | exec db' sql env =>
    refine execAttempt_ends cfg.exec tr server s.world fun backed ours ready => ?_
    simpa [forwarded, backed, ours, ready] using ordinary

/-- On the way to it nothing is sent. -/
theorem forwarded_passes {place : Option ConnId} (forwards : forwarded cfg s deed = some f) :
    Passes place s.world f.world := by
  rcases forwarded_place forwards with ⟨env, chosen⟩ | ⟨env, -, -, ready⟩
  · have looks := transactionConnection_looks s.world f.db env
    rw [chosen] at looks
    exact .looked looks
  · exact .preflight (.pinned .refl f.db) ready

theorem place_of_forwarded (forwards : forwarded cfg s deed = some f) (nonNull : f.conn ≠ 0) :
    place cfg tr s deed = some f.conn := by
  cases deed with
  | register | clear | metadata => cases forwards
  | attempt id env =>
    simp only [forwarded, ite_none_left_eq_some, map_eq_some_iff, Stmt.command,
      Option.ite_none_right_eq_some, Bool.and_eq_true, decide_eq_true_eq] at forwards
    obtain ⟨inShim, cmd, ⟨⟨kind, forwarding⟩, classified⟩, rfl⟩ := forwards
    simp [place, attemptPlace, inShim, kind, controlPlace, classified, forwarding, nonNull]
  | cached u env =>
    simp only [forwarded, ite_none_left_eq_some, map_eq_some_iff,
      Option.ite_none_right_eq_some] at forwards
    obtain ⟨reached, cmd, ⟨forwarding, classified⟩, rfl⟩ := forwards
    simp [place, cachedPlace, reached, forwarding, classified]
  | exec db' sql env =>
    simp only [forwarded, Option.ite_none_right_eq_some, map_eq_some_iff] at forwards
    obtain ⟨⟨backed, ours, ready⟩, cmd, command, rfl⟩ := forwards
    simp [place, Exec.execPlace, backed, ours, ready, command]

/-- **What a deed sends goes to its place**, and a deed without a place sends nothing. -/
theorem sent_at_place : SentAt (place cfg tr s deed) s.world (worldAfter cfg tr server s deed) := by
  cases forwards : forwarded cfg s deed with
  | none => exact (worldAfter_ends forwards).sentAt
  | some f =>
    have passes : SentAt (place cfg tr s deed) s.world f.world := (forwarded_passes forwards).sentAt
    have unmoved : Unmoved f.outcome.2 (worldAfter cfg tr server s deed) :=
      forwarded_worldAfter forwards
    by_cases null : f.conn = 0
    · rw [Forwarded.outcome, World.run, if_pos null] at unmoved
      exact passes.tended (.of_unmoved unmoved)
    · rw [place_of_forwarded forwards null] at passes ⊢
      refine ⟨fun d away => ?_, fun h => by cases h⟩
      have other : d ≠ f.conn := fun here => away (by rw [here])
      rw [unmoved.link, Forwarded.outcome, World.link, (run_other other ..).1]
      exact passes.link d away

/-- The handle's own commands run where its transaction is. -/
theorem forwarded_own (pinned : Pinned s.world db conn) (forwards : forwarded cfg s deed = some f)
    (own : f.db = db) : f.conn = conn ∧ f.world = s.world := by
  rcases forwarded_place forwards with ⟨env, chosen⟩ | ⟨env, -, chosen, ready⟩
  · rw [own, pinned.transactionConnection] at chosen
    exact ⟨(congrArg Prod.fst chosen).symm, (congrArg Prod.snd chosen).symm⟩
  · have here : f.conn = conn := by
      rw [chosen, own, execConn, pinned.pinnedConn, if_neg pinned.nonNull]
    rw [own, pinned.pinnedConn, here, Exec.preflight, if_pos pinned.isUp] at ready
    exact ⟨here, (congrArg Prod.snd ready).symm⟩

/-- A command that is sent goes to an active connection. -/
theorem forwarded_active (forwards : forwarded cfg s deed = some f) (nonNull : f.conn ≠ 0) :
    (f.world.conns f.conn).active = true := by
  rcases forwarded_place forwards with ⟨env, chosen⟩ | ⟨env, backed, chosen, ready⟩
  · exact transactionConnection_active chosen nonNull
  · have active := backed.2
    rw [← chosen] at active
    exact preflight_active active ready

/-- The command that opens the transaction puts it on record. -/
theorem held_of_begunOn (handle : db ≠ 0) (steady : Steady cfg db s deed) (homeless : s.home = none)
    (begun : begunOn cfg db s deed = some conn) :
    ∃ state, Held db conn state (worldAfter cfg tr server s deed) := by
  obtain ⟨f, filtered, here⟩ := map_eq_some_iff.mp begun
  obtain ⟨forwards, counts⟩ := Option.filter_eq_some_iff.mp filtered
  simp only [Bool.and_eq_true, decide_eq_true_eq] at counts
  obtain ⟨⟨own, opening⟩, accepted⟩ := counts
  obtain ⟨unrecorded, free⟩ := steady.begins homeless f forwards own opening
  have ok : f.outcome.1 = .ok () := by
    cases answered : f.outcome.1 with
    | ok => rfl
    | error => rw [answered] at accepted; cases accepted
  have nonNull : f.conn ≠ 0 := by
    intro null
    rw [Forwarded.outcome, World.run, if_pos null] at ok
    cases ok
  rw [Forwarded.outcome, own] at ok
  obtain ⟨state, held⟩ := held_of_begun nonNull handle unrecorded
    (forwarded_active forwards nonNull) free opening ok
  subst here
  rw [← own] at held ⊢
  exact ⟨state, held.unmoved (forwarded_worldAfter forwards)⟩

/-- **The record follows the transaction**, as long as the server is in it. -/
theorem held_of_stays (held : Held db conn state s.world) (up : (s.world.link conn).isOk = true)
    (steady : Steady cfg db s deed) (home : s.home = some conn)
    (stays : ((worldAfter cfg tr server s deed).link conn).inTransaction = true) :
    ∃ state', Held db conn state' (worldAfter cfg tr server s deed) := by
  cases forwards : forwarded cfg s deed with
  | some f =>
    have unmoved : Unmoved f.outcome.2 (worldAfter cfg tr server s deed) :=
      forwarded_worldAfter forwards
    by_cases own : f.db = db
    · obtain ⟨here, same⟩ := forwarded_own (held.pinned up) forwards own
      rw [unmoved.link, Forwarded.outcome, here, same, own] at stays
      rw [Forwarded.outcome, here, same, own] at unmoved
      obtain ⟨state', after⟩ := held.run up f.cmd f.fates stays
      exact ⟨state', after.unmoved unmoved⟩
    · have elsewhere := steady.apart conn home f forwards own
      have there := held.passes up (forwarded_passes forwards : Passes none s.world f.world)
      have after := there.run_other elsewhere own f.cmd f.fates
      exact ⟨state, after.unmoved unmoved⟩
  | none =>
    exact ⟨state, held.ends up (worldAfter_ends forwards) stays⟩

/-- **What holds along a run**: the handle's transaction is on record, on its home, and no
statement streams from a connection it holds no row of. -/
structure Settled (db : DbId) (s : Process ω) : Prop where
  flowing : ∀ id, (s.stmts id).Flowing
  home : ∀ conn, s.home = some conn →
    (s.world.link conn).isOk = true ∧ ∃ state, Held db conn state s.world

theorem stmtsAfter_flowing (flowing : ∀ id, (s.stmts id).Flowing) (id : ℕ) :
    (stmtsAfter cfg s deed id).Flowing := by
  have updated (k : ℕ) {stmt : Stmt ω} (flows : stmt.Flowing) :
      (Function.update s.stmts k stmt id).Flowing := by
    by_cases same : id = k
    · rw [same, Function.update_self]
      exact flows
    · rw [Function.update_of_ne same]
      exact flowing id
  cases deed with
  | register k stmt => exact updated k (Stmt.flowing_of_none rfl)
  | attempt k env => exact updated k (attempt_flowing (flowing k) _ _ _)
  | clear k => exact updated k (Stmt.flowing_of_none rfl)
  | metadata k env => exact updated k (fetchMetadata_flowing (flowing k) _ _)
  | cached | exec => exact flowing id

theorem Settled.next (handle : db ≠ 0) (settled : Settled db s) (steady : Steady cfg db s deed) :
    Settled db (Process.next cfg tr server db s deed) where
  flowing := stmtsAfter_flowing settled.flowing
  home := by
    intro conn home
    obtain ⟨whose, stays⟩ := Option.filter_eq_some_iff.mp home
    obtain ⟨aborted, savepoints, writes, link⟩ := (Link.inTransaction_iff _).mp stays
    refine ⟨by rw [Process.next, link]; rfl, ?_⟩
    cases homed : s.home with
    | none =>
      rw [homed] at whose
      exact held_of_begunOn handle steady homed whose
    | some c =>
      rw [homed] at whose
      cases whose
      obtain ⟨up, state, held⟩ := settled.home conn homed
      exact held_of_stays held up steady homed stays

theorem Settled.place_eq (settled : Settled db s) (steady : Steady cfg db s deed)
    (home : s.home = some conn) (issued : IssuedBy db s deed)
    (sent : place cfg tr s deed = some d) :
    d = conn := by
  obtain ⟨up, state, held⟩ := settled.home conn home
  have pooled := steady.pooled conn home issued
  cases deed with
  | register | clear => cases sent
  | attempt id env => exact held.attemptPlace_eq up (settled.flowing id) issued sent
  | metadata id env => exact held.metadataPlace_eq up pooled.1 pooled.2 sent
  | cached u env => exact held.cachedPlace_eq up issued pooled sent
  | exec db' sql env =>
    cases issued
    exact held.execPlace_eq up sent

end Process

/-- **Statements stay at home.**  In a run whose deeds all meet the condition, what the
handle sends while it has a transaction open goes to the connection its BEGIN or SAVEPOINT
was sent on, and to no other. -/
theorem Process.statements_stay_home (cfg : CachedConfig) (tr : Translator)
    (server : Text → Session ω → Reply ω) (db : DbId) (handle : db ≠ 0) (s : Process ω)
    (homeless : s.home = none) (idle : ∀ id, (s.stmts id).streaming = none)
    (deeds : List (Deed ω)) (steady : Runs.Meets (next cfg tr server db) (Steady cfg db) s deeds)
    (before : List (Deed ω)) (deed : Deed ω) (later : List (Deed ω))
    (split : deeds = before ++ deed :: later) :
    let now := Runs.final (next cfg tr server db) s before
    ∀ conn, now.home = some conn → IssuedBy db now deed →
      (∀ d, place cfg tr now deed = some d → d = conn) ∧
        SentAt (some conn) now.world (worldAfter cfg tr server now deed) := by
  intro now conn home issued
  subst split
  obtain ⟨earlier, here, -⟩ := (Runs.meets_append s before (deed :: later)).mp steady
  have settled : Settled db now := by
    refine earlier.invariant (Settled db) (fun _ _ settled ok => settled.next handle ok) ?_
    refine ⟨fun id => Stmt.flowing_of_none (idle id), fun conn home => ?_⟩
    rw [homeless] at home
    cases home
  have stays (d : ConnId) (sent : place cfg tr now deed = some d) : d = conn :=
    settled.place_eq here home issued sent
  exact ⟨stays, fun d away => sent_at_place.link d fun there => away (by rw [stays d there]), nofun⟩

/-! ### Two runs -/

namespace Process

open Thread (retrying)

/-- Handle 7 has a BEGIN and an UPDATE prepared, and nothing is open. -/
def prepared : Process ℕ where
  world := .fresh
  stmts id := if id = 0 then (control "BEGIN".toList (.calm 1)).stmt else (update 5 (.calm 1)).stmt
  home := none

/-- The BEGIN is stepped, and connection 1 found for it. -/
def begins : Deed ℕ := .attempt 0 (.calm 1)

/-- The handle has its transaction open. -/
def begun : Process ℕ := next retrying keepText (acceptAll ℕ) 7 prepared begins

theorem begun_home : begun.home = some 1 := by decide

/-- The UPDATE is stepped, and connection 2 found for it. -/
def updates : Deed ℕ := .attempt 1 (.calm 2)

theorem statements_stay_home_of_update :
    begun.home = some 1 ∧ place retrying keepText begun updates = some 1 := by
  have forwardsBegin : forwarded retrying prepared begins =
      some ⟨7, 1, .begin, .fresh, (Env.calm 1).control⟩ := by rfl
  have steady : Runs.Meets (next retrying keepText (acceptAll ℕ) 7) (Steady retrying 7)
      prepared [begins, updates] := by
    refine ⟨⟨fun _ f forwards _ _ => ?_, fun conn home => ?_, fun conn home => ?_⟩,
      ⟨fun homeless => ?_, fun conn _ f forwards => ?_, fun _ _ _ => trivial⟩, trivial⟩
    · cases forwardsBegin.symm.trans forwards
      exact ⟨rfl, rfl⟩
    · cases home
    · cases home
    · cases begun_home.symm.trans homeless
    · cases forwards
  have sent : (place retrying keepText begun updates).isSome = true := by decide
  obtain ⟨d, there⟩ := Option.isSome_iff_exists.mp sent
  obtain ⟨here, -⟩ := statements_stay_home retrying keepText (acceptAll ℕ) 7 (by decide) prepared
    rfl (fun id => by rw [prepared]; dsimp only; split <;> rfl) [begins, updates] steady [begins]
    updates [] rfl 1 begun_home rfl
  exact ⟨begun_home, by rw [there, here d there]⟩

/-- **A statement away from home.**  Handle 7 has a transaction open on connection 1.  Its
UPDATE that is not registered is sent on connection 2, which the pool has for the thread, and
is committed there; so is the query for the columns of a statement it has prepared. -/
theorem statement_away_from_home :
    let unregistered : Deed ℕ := .cached
      ⟨7, "UPDATE t SET a = 1".toList, none, 5, false, none⟩ (.calm 2)
    let columns : Deed ℕ := .metadata 1
      ⟨false, true, 2, 2, false, true, false, .fine, false, .fine, 0⟩
    let now := next retrying keepText (acceptAll ℕ) 7 begun updates
    begun.home = some 1 ∧ now.home = some 1 ∧
      IssuedBy 7 now unregistered ∧ place retrying keepText now unregistered = some 2 ∧
      (worldAfter retrying keepText (acceptAll ℕ) now unregistered).durable = [5] ∧
      IssuedBy 7 now columns ∧ place retrying keepText now columns = some 2 := by
  intro unregistered columns now
  refine ⟨begun_home, ?_, rfl, ?_, ?_, rfl, ?_⟩
  all_goals decide +kernel

end Process

end PlexPostgres
