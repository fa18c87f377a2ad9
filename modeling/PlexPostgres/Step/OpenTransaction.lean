import PlexPostgres.Postgres.Transaction
import PlexPostgres.Step.Effects
import PlexPostgres.Txn.Simulation

/-!
# A write inside an open transaction

While a handle's transaction is recorded as open on a connection that is up and not
streaming, a write of the handle runs on that connection and nowhere else, and what is
sent for it stays inside the transaction, savepoints of the shim's own included.
-/

namespace PlexPostgres.Step

open Postgres Txn
open Link (query_inTxn refusal send_takes)
open Outcome (andThen followedBy)
open Text (asciiLower)

variable {ω : Type*}

/-! ### What is sent -/

/-- The connection is not lost with anything sent for a write. -/
def WriteEnv.Kept (env : WriteEnv) : Prop :=
  ∀ fate ∈ [env.savepoint, env.prepare, env.exec, env.rollbackTo, env.release,
    env.resyncSavepoint, env.resync, env.resyncRollbackTo, env.resyncRelease], fate.Kept

section

variable (aborted : Bool) (savepoints : List (Savepoint ω)) (writes : List ω) {fate : Fate}

/-- Setting a savepoint. -/
theorem exec_savepoint_inTxn (kept : fate.Kept) (name : Text) :
    (Link.up (.inTxn aborted savepoints writes)).exec (savepointSql name) fate =
      if aborted = false ∧ fate.verdict = .accept then
        ⟨.ok, .up (.inTxn false (savepoints ++ [⟨asciiLower name, writes⟩]) writes), []⟩
      else refusal fate savepoints writes := by
  rw [Link.exec_control (parseControl_savepointSql name) rfl]
  exact send_takes aborted kept (by cases aborted <;> rfl)

/-- Releasing the topmost savepoint. -/
theorem exec_release_top (kept : fate.Kept) (name : Text) (mark : List ω) :
    (Link.up (.inTxn aborted (savepoints ++ [⟨asciiLower name, mark⟩]) writes)).exec
        (releaseSql name) fate =
      if aborted = false ∧ fate.verdict = .accept then
        ⟨.ok, .up (.inTxn false savepoints writes), []⟩
      else refusal fate (savepoints ++ [⟨asciiLower name, mark⟩]) writes := by
  rw [Link.exec_control (parseControl_releaseSql name) rfl]
  refine send_takes aborted kept ?_
  cases aborted <;> simp [Session.control, Stack.innermost_append_singleton]

/-- Rolling back to the topmost savepoint makes the transaction sound. -/
theorem exec_rollbackTo_top (kept : fate.Kept) (name : Text) (mark : List ω) :
    (Link.up (.inTxn aborted (savepoints ++ [⟨asciiLower name, mark⟩]) writes)).exec
        (rollbackToSql name) fate =
      if fate.verdict = .accept then
        ⟨.ok, .up (.inTxn false (savepoints ++ [⟨asciiLower name, mark⟩]) mark), []⟩
      else refusal fate (savepoints ++ [⟨asciiLower name, mark⟩]) writes := by
  rw [Link.exec_control (parseControl_rollbackToSql name) rfl]
  calc
    _ = if True ∧ fate.verdict = .accept then
          ⟨.ok, .up (.inTxn false (savepoints ++ [⟨asciiLower name, mark⟩]) mark), []⟩
        else _ := by
      refine send_takes aborted kept ?_
      cases aborted <;> simp [Session.control, Stack.innermost_append_singleton]
    _ = _ := by simp only [true_and]

/-- **Ending a savepoint after the statement succeeded**: its writes are kept, or the
release was refused and the transaction is aborted. -/
theorem endSavepoint_of_ok (added : List ω) (name : Text) (rollbackTo : Fate) {release : Fate}
    (kept : release.Kept) :
    endSavepoint name ⟨.ok, .up (.inTxn false (savepoints ++ [⟨asciiLower name, writes⟩])
        (writes ++ added)), []⟩ rollbackTo release =
      ⟨.ok, .up (if release.verdict = .accept then .inTxn false savepoints (writes ++ added)
        else .inTxn true (savepoints ++ [⟨asciiLower name, writes⟩]) (writes ++ added)), []⟩ := by
  simp only [endSavepoint, if_true, followedBy, andThen, exec_release_top _ _ _ kept]
  by_cases released : release.verdict = .accept <;> simp [released, refusal]

/-- **Ending a savepoint after the statement failed**: everything is as before it, or the
transaction is aborted. -/
theorem endSavepoint_of_failed (name : Text) {rollbackTo release : Fate}
    (keptTo : rollbackTo.Kept) (kept : release.Kept) (result : Option (Option Text)) :
    endSavepoint name ⟨.failed result, .up (.inTxn true
        (savepoints ++ [⟨asciiLower name, writes⟩]) writes), []⟩ rollbackTo release =
      ⟨.failed result, .up (if rollbackTo.verdict = .accept ∧ release.verdict = .accept then
          .inTxn false savepoints writes
        else .inTxn true (savepoints ++ [⟨asciiLower name, writes⟩]) writes), []⟩ := by
  simp only [endSavepoint, reduceCtorEq, if_false, followedBy, andThen,
    exec_rollbackTo_top _ _ _ keptTo]
  by_cases back : rollbackTo.verdict = .accept
  · by_cases released : release.verdict = .accept <;>
      simp [back, released, refusal, exec_release_top _ _ _ kept]
  · simp [back, refusal, exec_release_top _ _ _ kept]

variable {env : WriteEnv}

/-- The server takes the statement, and its plan if that is not prepared yet. -/
def WriteEnv.Takes (env : WriteEnv) (stmt : Stmt ω) : Prop :=
  ((stmt.usePrepared && !env.planCached) = true → env.prepare.verdict = .accept) ∧
    env.exec.verdict = .accept

instance (stmt : Stmt ω) : Decidable (env.Takes stmt) := inferInstanceAs (Decidable (_ ∧ _))

/-- The statement inside a transaction: made, or refused with the transaction aborted. -/
theorem runStatement_inTxn (stmt : Stmt ω) (kept : env.Kept) (answer : Answer) :
    runStatement stmt ⟨answer, .up (.inTxn aborted savepoints writes), []⟩ env =
      if aborted = false ∧ env.Takes stmt then
        ⟨.ok, .up (.inTxn false savepoints (writes ++ [stmt.effect])), []⟩
      else refusal env.exec savepoints writes := by
  have written := fun a => @Link.write_inTxn _ a savepoints writes _
    (kept env.exec (by simp)) stmt.effect
  unfold runStatement WriteEnv.Takes
  split
  next plans =>
    simp only [andThen, query_inTxn _ (kept env.prepare (by simp)), plans, true_implies]
    by_cases planned : aborted = false ∧ env.prepare.verdict = .accept
    · rw [if_pos planned]
      simp [written, planned.1, planned.2]
    · have untaken : ¬ (aborted = false ∧ env.prepare.verdict = .accept ∧
          env.exec.verdict = .accept) := fun taken => planned ⟨taken.1, taken.2.1⟩
      rw [if_neg planned, if_neg untaken]
      simp [refusal, written]
  next cached => simp [andThen, written, cached]

/-- The sequence update, where the transaction is known of. -/
theorem resyncSequence_known (kept : env.Kept) :
    resyncSequence (.up (.inTxn aborted savepoints writes)) true env =
      if aborted = false ∧ env.resyncSavepoint.verdict = .accept then
        ⟨if env.resync.verdict = .accept then .ok else .failed (some env.resync.message),
          .up (if (env.resync.verdict = .accept ∨ env.resyncRollbackTo.verdict = .accept) ∧
              env.resyncRelease.verdict = .accept then .inTxn false savepoints writes
            else .inTxn true (savepoints ++ [⟨asciiLower resyncSavepoint, writes⟩]) writes), []⟩
      else refusal env.resync savepoints writes := by
  have keptQuery : env.resync.Kept := kept _ (by simp)
  have keptRelease : env.resyncRelease.Kept := kept _ (by simp)
  simp only [resyncSequence, if_true, Bool.true_and, andThen,
    exec_savepoint_inTxn _ _ _ (kept env.resyncSavepoint (by simp))]
  split
  · simp only [query_inTxn _ keptQuery, true_and, List.nil_append, decide_true, if_true]
    by_cases ran : env.resync.verdict = .accept
    · simpa [ran] using endSavepoint_of_ok savepoints writes [] resyncSavepoint
        env.resyncRollbackTo keptRelease
    · simpa [ran, refusal] using endSavepoint_of_failed savepoints writes resyncSavepoint
        (kept env.resyncRollbackTo (by simp)) keptRelease (some env.resync.message)
  · simp [refusal, query_inTxn _ keptQuery]

/-- The sequence update changes nothing, or aborts the transaction. -/
theorem resyncSequence_inTxn (kept : env.Kept) (inTxn : Bool) :
    (resyncSequence (.up (.inTxn aborted savepoints writes)) inTxn env).committed = [] ∧
      Grows aborted savepoints writes []
        (resyncSequence (.up (.inTxn aborted savepoints writes)) inTxn env).link := by
  cases inTxn with
  | false =>
    have plain : resyncSequence (.up (.inTxn aborted savepoints writes)) false env =
        (Link.up (.inTxn aborted savepoints writes)).query env.resync := rfl
    rw [plain, query_inTxn _ (kept env.resync (by simp))]
    split
    next sound => exact ⟨rfl, sound.1 ▸ .of_nothing⟩
    · exact ⟨rfl, .of_aborted⟩
  | true =>
    rw [resyncSequence_known aborted savepoints writes kept]
    split
    next opened =>
      refine ⟨rfl, ?_⟩
      dsimp only
      split
      · exact opened.1 ▸ .of_nothing
      · exact .of_aborted_above List.prefix_rfl
    · exact ⟨rfl, .of_aborted⟩

/-- An outcome inside a transaction: nothing became durable, and the transaction has the
write exactly if it was accepted. -/
def Contained (out : Outcome ω) (effect : ω) : Prop :=
  out.committed = [] ∧
    ((out.answer = .ok ∧ Grows aborted savepoints writes [effect] out.link) ∨
      ∃ result, out.answer = .failed result ∧ Grows aborted savepoints writes [] out.link)

/-- **The statement in its savepoint**: kept, or undone; or the transaction is aborted. -/
theorem runWrapped_wrapped (stmt : Stmt ω) (kept : env.Kept) :
    runWrapped stmt (.up (.inTxn aborted savepoints writes)) true env =
      if aborted = false ∧ env.savepoint.verdict = .accept then
        if env.Takes stmt then
          ⟨.ok, .up (if env.release.verdict = .accept then
              .inTxn false savepoints (writes ++ [stmt.effect])
            else .inTxn true (savepoints ++ [⟨asciiLower statementSavepoint, writes⟩])
              (writes ++ [stmt.effect])), []⟩
        else
          ⟨.failed (some env.exec.message),
            .up (if env.rollbackTo.verdict = .accept ∧ env.release.verdict = .accept then
              .inTxn false savepoints writes
            else .inTxn true (savepoints ++ [⟨asciiLower statementSavepoint, writes⟩])
              writes), []⟩
      else refusal env.exec savepoints writes := by
  have keptRelease : env.release.Kept := kept _ (by simp)
  simp only [runWrapped, if_true, Bool.true_and,
    exec_savepoint_inTxn _ _ _ (kept env.savepoint (by simp))]
  split
  · simp only [runStatement_inTxn _ _ _ stmt kept, true_and, decide_true, if_true,
      endStatementSavepoint]
    split
    · exact endSavepoint_of_ok savepoints writes [stmt.effect] statementSavepoint env.rollbackTo
        keptRelease
    · exact endSavepoint_of_failed savepoints writes statementSavepoint
        (kept env.rollbackTo (by simp)) keptRelease (some env.exec.message)
  · simp [refusal, runStatement_inTxn _ _ _ stmt kept]

/-- The statement and the savepoint around it. -/
theorem runWrapped_inTxn (stmt : Stmt ω) (kept : env.Kept) (wraps : Bool) :
    Contained aborted savepoints writes
      (runWrapped stmt (.up (.inTxn aborted savepoints writes)) wraps env) stmt.effect := by
  cases wraps with
  | false =>
    have plain : runWrapped stmt (.up (.inTxn aborted savepoints writes)) false env =
        runStatement stmt ⟨.ok, .up (.inTxn aborted savepoints writes), []⟩ env := rfl
    rw [plain, runStatement_inTxn aborted savepoints writes stmt kept]
    split
    next sound => exact ⟨rfl, .inl ⟨rfl, sound.1 ▸ .of_added⟩⟩
    · exact ⟨rfl, .inr ⟨_, rfl, .of_aborted⟩⟩
  | true =>
    rw [runWrapped_wrapped aborted savepoints writes stmt kept]
    split
    next opened =>
      split
      · refine ⟨rfl, .inl ⟨rfl, ?_⟩⟩
        dsimp only
        split
        · exact opened.1 ▸ .of_added
        · exact .of_aborted_above (List.prefix_append _ _)
      · refine ⟨rfl, .inr ⟨_, rfl, ?_⟩⟩
        dsimp only
        split
        · exact opened.1 ▸ .of_nothing
        · exact .of_aborted_above List.prefix_rfl
    · exact ⟨rfl, .inr ⟨_, rfl, .of_aborted⟩⟩

/-- **What is sent for a write stays in the transaction.** -/
theorem runWrite_inTxn (stmt : Stmt ω) (kept : env.Kept) (wraps inTxn : Bool) :
    Contained aborted savepoints writes
      (runWrite stmt (.up (.inTxn aborted savepoints writes)) wraps inTxn env) stmt.effect := by
  obtain ⟨committed, result⟩ := runWrapped_inTxn aborted savepoints writes stmt kept wraps
  unfold runWrite
  dsimp only
  split
  next resyncs =>
    have ok : (runWrapped stmt (.up (.inTxn aborted savepoints writes)) wraps env).answer =
      .ok := by
      simpa using (Bool.and_eq_true_iff.mp resyncs).2
    rcases result with ⟨-, grows⟩ | ⟨r, failed, -⟩
    · have grown := grows
      obtain ⟨aborted', savepoints', writes', isUp, -⟩ := grown
      obtain ⟨nothing, -⟩ := resyncSequence_inTxn aborted' savepoints' writes' kept inTxn
      refine ⟨?_, .inl ⟨ok, ?_⟩⟩
      · simp [followedBy, andThen, committed, isUp, nothing]
      · have both := grows.andThen (fun l => (resyncSequence l inTxn env).link)
          fun a s w isUp => isUp ▸ (resyncSequence_inTxn a s w kept inTxn).2
        rwa [List.append_nil] at both
    · rw [ok] at failed
      cases failed
  · exact ⟨committed, result⟩

/-- **The server accepts what the shim sends around a write**: the savepoint and its release, the
rollback to it after a write that is not taken, and likewise around the sequence update that
follows one with an id of its own. -/
def WriteEnv.Settles (env : WriteEnv) (stmt : Stmt ω) : Prop :=
  env.savepoint.verdict = .accept ∧ env.release.verdict = .accept ∧
    if env.Takes stmt then
      (env.isLoad && stmt.assignsId) = true →
        env.resyncSavepoint.verdict = .accept ∧ env.resyncRelease.verdict = .accept ∧
          (env.resync.verdict = .accept ∨ env.resyncRollbackTo.verdict = .accept)
    else env.rollbackTo.verdict = .accept

/-- **A write in its savepoint** leaves the transaction sound, with the savepoints it had and with
the write if that succeeded, exactly if it was sound and the server accepts the rest. -/
theorem runWrite_wrapped_iff (stmt : Stmt ω) (kept : env.Kept) :
    let out := runWrite stmt (.up (.inTxn aborted savepoints writes)) true true env
    out.link = .up (.inTxn false savepoints
        (if out.answer = .ok then writes ++ [stmt.effect] else writes)) ↔
      aborted = false ∧ env.Settles stmt := by
  simp only [runWrite, runWrapped_wrapped aborted savepoints writes stmt kept, WriteEnv.Settles]
  by_cases opened : aborted = false ∧ env.savepoint.verdict = .accept
  · obtain ⟨rfl, set⟩ := opened
    by_cases takes : env.Takes stmt
    · by_cases released : env.release.verdict = .accept
      · by_cases resyncs : (env.isLoad && stmt.assignsId) = true
        · simp only [set, takes, released, resyncs, followedBy, andThen]
          by_cases saved : env.resyncSavepoint.verdict = .accept <;>
            simp [resyncSequence_known _ _ _ kept, saved, refusal, and_comm,
              or_iff_not_imp_left]
        · simp [set, takes, released, resyncs]
      · -- An aborted transaction stays aborted through the sequence update.
        simp [set, takes, released, followedBy, andThen,
          resyncSequence_known _ _ _ kept, refusal]
    · simp [set, takes, and_comm]
  · simp only [if_neg opened, refusal]
    refine iff_of_false (by simp) fun settles => opened ⟨settles.1, settles.2.1⟩

/-- A write of a guide load. -/
def loadWrite : Stmt ℕ := .prepared .write "UPDATE t SET a = 1".toList none 5 7

theorem loadWrite_made :
    (runWrite loadWrite (.up (.inTxn false [] [])) true true (Env.calm 1).write).link =
      .up (.inTxn false [] [5]) :=
  (runWrite_wrapped_iff false [] [] loadWrite (by simp [WriteEnv.Kept, Env.calm])).mpr
    ⟨rfl, by simp [WriteEnv.Settles, Env.calm, Fate.fine, loadWrite, Stmt.prepared]⟩

/-- **The savepoint is refused**, and the write leaves an aborted transaction behind. -/
theorem loadWrite_aborts :
    runWrite loadWrite (.up (.inTxn false [] [])) true true
        { (Env.calm 1).write with savepoint := ⟨.refuse false, none⟩ } =
      ⟨.failed (some none), .up (.inTxn true [] []), []⟩ := by
  decide

end

/-! ### Where it is sent -/

/-- **A handle's transaction is open on `conn`**, as far as the registry knows, and the
connection is active and up. -/
structure Pinned (w : World ω) (db : DbId) (conn : ConnId) : Prop where
  nonNull : conn ≠ 0
  handle : db ≠ 0
  pin : w.registry.pins db = some conn
  isOpen : (w.registry.stateOf conn).isOpen = true
  owner : (w.registry.stateOf conn).db = db
  active : (w.conns conn).active = true
  isUp : (w.link conn).isOk = true

variable {stmt : Stmt ω}

namespace Pinned

variable {w : World ω} {db : DbId} {conn : ConnId}

section

variable (pinned : Pinned w db conn)
include pinned

theorem isUsable : isUsable w conn = true :=
  isUsable_of_up pinned.nonNull pinned.isUp

theorem pinnedConn : w.pinnedConn db = (conn, w) := by
  simp only [World.pinnedConn, if_neg pinned.handle, pinned.pin, pinned.isOpen, pinned.owner,
    pinned.active, decide_eq_true pinned.nonNull, decide_true, Bool.and_self, if_true]

theorem chooseConn (shadow : stmt.shadow = some db)
    (idle : stmt.streaming = none) (env : LookupEnv) : chooseConn w stmt env = (conn, w) := by
  have noSource : streamingConn w stmt env = 0 := by rw [streamingConn, idle]
  simp [Step.chooseConn, noSource, shadow, pinned.pinnedConn, pinned.isUsable]

theorem transactionConnection (env : LookupEnv) :
    transactionConnection w db env = (conn, w) := by
  simp [Step.transactionConnection, pinned.pinnedConn, pinned.isUsable]

/-- The connection is used as it is, unless it streams. -/
theorem lockConnection (free : (w.conns conn).streaming = false)
    {env : ConnectEnv} (alone : env.raced = false) :
    lockConnection w conn env = (some conn, w) :=
  lockConnection_of_up pinned.nonNull pinned.isUp free alone

theorem readyConnection (env : ConnectEnv) :
    readyConnection w conn env = (true, w) :=
  readyConnection_of_up pinned.isUp

end

end Pinned

/-- **An ordinary write** of handle `db`, not run yet: no skip rule is about it. -/
structure OrdinaryWrite (cfg : Config) (db : DbId) (stmt : Stmt ω) : Prop where
  kind : stmt.kind = .write
  shadow : stmt.shadow = some db
  fresh : stmt.cleared = stmt
  text : ∃ pgSql, stmt.pgSql = some pgSql ∧ isTxnTerminator pgSql = false ∧
    isSpecialInsert pgSql stmt.params = false ∧
    (cfg.skipStatsResources && isStatsResourcesUpdate pgSql) = false

theorem OrdinaryWrite.idle {cfg : Config} {db : DbId} (ordinary : OrdinaryWrite cfg db stmt) :
    stmt.streaming = none := by
  rw [← ordinary.fresh]
  rfl

/-- **An attempt of a write inside a transaction** sends it on the transaction's
connection and answers by the result. -/
theorem attempt_write_of_pinned {cfg : Config} {w : World ω} {db : DbId} {conn : ConnId}
    (pinned : Pinned w db conn) (free : (w.conns conn).streaming = false)
    (ordinary : OrdinaryWrite cfg db stmt) {env : Env} (inShim : env.lookup.inResolve = false)
    (alone : env.connect.raced = false) :
    attempt cfg w stmt env =
      settleWrite (afterSent cfg w stmt conn env) { stmt with conn } conn
        (sent cfg w stmt conn env).answer env := by
  obtain ⟨pgSql, text, noTerminator, noSpecial, noStats⟩ := ordinary.text
  have notRun : stmt.writeExecuted = false := by rw [← ordinary.fresh]; rfl
  have chosen := pinned.chooseConn ordinary.shadow ordinary.idle env.lookup
  have executes : writeAttempt cfg w stmt pgSql conn env =
      executeAndFinalize cfg w { stmt with conn } conn env := by
    simp [writeAttempt, notRun, noTerminator, noSpecial, pinned.lockConnection free alone,
      pinned.readyConnection]
  rw [attempt_write_of_chosen cfg ordinary.kind text inShim chosen pinned.nonNull, executes,
    executeAndFinalize, if_neg (by simp [pinned.isUsable]), if_neg (by simp [text, noStats])]
  rfl

end PlexPostgres.Step
