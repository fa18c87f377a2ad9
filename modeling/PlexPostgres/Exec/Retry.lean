import PlexPostgres.Exec.Whole
import PlexPostgres.Step.Cached
import PlexPostgres.Step.Durability
import PlexPostgres.Step.Place

/-!
# What a call is tried again for

`sqlite3_step` and `sqlite3_exec` run a call again when it failed while a mark of the
thread's is set.  The mark is set deep in the call, where a failed result is classified,
and is cleared by the wrapper when it tries again — and only then.  So it tells of the
attempt just made only if it was clear before: a call that used up its retries, and a call
on a statement that is not registered, leave it set for the next one.

`attemptClass` and `scriptClass` follow one attempt to the result that failed and give the
class it got, nothing where no result was classified.
-/

namespace PlexPostgres

open Postgres Txn
open Exec (acceptAll keepText)

variable {ω : Type*}

variable {conn : ConnId} {retries : ℕ}

namespace Step

/-- The class asks for another attempt. -/
def AsksAgain (c : Option ErrorClass) : Prop := c = some .retry ∨ c = some .stalePlan

instance (c : Option ErrorClass) : Decidable (AsksAgain c) := inferInstanceAs (Decidable (_ ∨ _))

/-! ### The class an attempt's failure got -/

/-- The class of the answer to what was sent, if it failed. -/
def answerClass (w : World ω) (conn : ConnId) (answer : Answer) (error : ErrorEnv) :
    Option ErrorClass :=
  match answer with
  | .ok => none
  | .failed result => some (failureClass w conn result error)

/-- A write attempt. -/
def writeClass (cfg : Config) (w : World ω) (stmt : Stmt ω) (pgSql : Text) (conn : ConnId)
    (env : Env) : Option ErrorClass :=
  (writePlace cfg w stmt pgSql conn env).bind fun place =>
    let out := sent cfg place.2 stmt place.1 env
    answerClass (place.2.after place.1 out.link out.committed) place.1 out.answer env.error

/-- A query that is sent.  A stream without a first result is answered, not classified. -/
def sendClass (cfg : Config) (w : World ω) (stmt : Stmt ω) (conn : ConnId) (env : Env) :
    Option ErrorClass :=
  let planned := setUpRead (w.link conn) stmt env.read
  let w := w.after conn planned.link planned.committed
  let out := (w.link conn).query env.read.exec
  if !env.read.sendOk then some (failureClass w conn none env.error)
  else if usesStreaming cfg w stmt conn env.read && out.answer = .failed none then none
  else answerClass (w.after conn out.link out.committed) conn out.answer env.error

/-- A read attempt.  A row that does not come is an error whatever its class. -/
def readClass (cfg : Config) (w : World ω) (stmt : Stmt ω) (conn : ConnId) (env : Env) :
    Option ErrorClass :=
  (readPlace w stmt conn env).bind fun place => sendClass cfg place.2.1 place.2.2 place.1 env

/-- **The class an attempt's failure got**, if a result was classified. -/
def attemptClass (cfg : Config) (w : World ω) (stmt : Stmt ω) (env : Env) : Option ErrorClass :=
  if env.lookup.inResolve then none
  else
    match stmt.kind, stmt.pgSql, chooseConn w stmt env.lookup with
    | .write, some pgSql, (conn, w) =>
      if conn = 0 then none else writeClass cfg w stmt pgSql conn env
    | .read, some _, (conn, w) => if conn = 0 then none else readClass cfg w stmt conn env
    | _, _, _ => none

/-- **The attempt finds its connection**: up, not streaming, and not closed by another
thread. -/
def Connected (w : World ω) (stmt : Stmt ω) (env : Env) : Prop :=
  ∀ conn, (chooseConn w stmt env.lookup).1 = conn → conn ≠ 0 →
    (w.link conn).isOk = true ∧ (w.conns conn).streaming = false ∧ env.connect.raced = false

/-! ### The mark is set where the class asks for it -/

theorem failRead_connError (w : World ω) (stmt : Stmt ω) (conn : ConnId)
    (result : Option (Option Text)) (env : Env) :
    (failRead w stmt conn result env).connError = true ↔
      AsksAgain (some (failureClass w conn result env.error)) := by
  unfold failRead
  dsimp only
  generalize failureClass _ _ _ _ = c
  cases c <;> simp [AsksAgain]

variable {cfg : Config} {w : World ω} {stmt : Stmt ω} {pgSql : Text} {env : Env}

theorem settleWrite_asks {answer : Answer}
    (marked : (settleWrite w stmt conn answer env).connError = true) :
    AsksAgain (answerClass w conn answer env.error) := by
  cases answer with
  | ok =>
    obtain ⟨rc, stmt', finished, -⟩ := finishWrite_spec w stmt conn env.write.rows
    rw [settleWrite, finished] at marked
    cases marked
  | failed result =>
    rw [settleWrite, failWrite] at marked
    rw [answerClass]
    generalize failureClass _ _ _ _ = c at marked ⊢
    cases c <;> simp_all [AsksAgain]

/-- A write that is skipped does not set the mark. -/
theorem writeAttempt_of_skipped (skipped : isSkippedWrite w stmt pgSql conn = true) :
    (writeAttempt cfg w stmt pgSql conn env).connError = false := by
  unfold writeAttempt
  split
  · rfl
  next fresh =>
  split
  · rfl
  next proceeds =>
  split
  · rfl
  next ordinary => simp [isSkippedWrite, fresh, proceeds, ordinary] at skipped

theorem writeAttempt_asks (nonNull : conn ≠ 0) (up : (w.link conn).isOk = true)
    (free : (w.conns conn).streaming = false) (alone : env.connect.raced = false)
    (marked : (writeAttempt cfg w stmt pgSql conn env).connError = true) :
    AsksAgain (writeClass cfg w stmt pgSql conn env) := by
  have found := readyPlace_of_up nonNull up free alone
  by_cases skipped : isSkippedWrite w stmt pgSql conn = true
  · rw [writeAttempt_of_skipped skipped] at marked
    cases marked
  by_cases counted : isSkippedUpdate cfg stmt = true
  · have applies : (cfg.skipStatsResources && stmt.pgSql.any isStatsResourcesUpdate) = true :=
      counted
    have unmarked : (writeAttempt cfg w stmt pgSql conn env).connError = false := by
      simp only [isSkippedWrite, Bool.or_eq_true, not_or] at skipped
      rw [writeAttempt, if_neg skipped.1.1, if_neg skipped.1.2, if_neg skipped.2]
      simp only [lockConnection_of_up nonNull up free alone, readyConnection_of_up up]
      rw [executeAndFinalize, if_neg (by simp [isUsable_of_up nonNull up]), if_pos applies]
    rw [unmarked] at marked
    cases marked
  have place : writePlace cfg w stmt pgSql conn env = some (conn, w) := by
    rw [writePlace, if_neg (by simp [skipped, counted]), found]
  rw [writeAttempt_of_place place] at marked
  rw [writeClass, place]
  exact settleWrite_asks marked

theorem streamingFetch_asks (marked : (streamingFetch w stmt conn env).connError = true) :
    ((w.link conn).query env.read.exec).answer ≠ .failed none ∧
      AsksAgain (answerClass (w.after conn ((w.link conn).query env.read.exec).link
        ((w.link conn).query env.read.exec).committed) conn
        ((w.link conn).query env.read.exec).answer env.error) := by
  unfold streamingFetch at marked
  dsimp only at marked
  split at marked
  next => cases marked
  next message failed =>
    rw [failed]
    refine ⟨by simp, ?_⟩
    have asks := (failRead_connError _ _ _ _ _).mp marked
    -- The stream is given up first, which leaves the connection's state as it is.
    simpa [answerClass, failureClass, stopStream, World.link] using asks
  next =>
    split at marked <;> cases marked

theorem eagerFetch_asks (marked : (eagerFetch w stmt conn env).connError = true) :
    AsksAgain (answerClass (w.after conn ((w.link conn).query env.read.exec).link
      ((w.link conn).query env.read.exec).committed) conn
      ((w.link conn).query env.read.exec).answer env.error) := by
  unfold eagerFetch at marked
  dsimp only at marked
  split at marked
  next result failed =>
    rw [failed]
    exact (failRead_connError _ _ _ _ _).mp marked
  next =>
    split at marked <;> cases marked

theorem sendRead_asks (marked : (sendRead cfg w stmt conn env).connError = true) :
    AsksAgain (sendClass cfg w stmt conn env) := by
  unfold sendRead at marked
  unfold sendClass
  dsimp only at marked ⊢
  -- What was sent before the query does not matter any more.
  generalize w.after conn _ _ = w' at marked ⊢
  split at marked
  next unsent =>
    rw [if_pos unsent]
    exact (failRead_connError _ _ _ _ _).mp marked
  next isSent =>
  rw [if_neg isSent]
  split at marked
  next streams =>
    obtain ⟨someResult, asks⟩ := streamingFetch_asks marked
    rw [streams, if_neg (by simpa using someResult)]
    exact asks
  next eager =>
    rw [if_neg (by simp [eager])]
    exact eagerFetch_asks marked

theorem readAttempt_asks (nonNull : conn ≠ 0) (up : (w.link conn).isOk = true)
    (free : (w.conns conn).streaming = false) (alone : env.connect.raced = false)
    (marked : (readAttempt cfg w stmt conn env).connError = true) :
    AsksAgain (readClass cfg w stmt conn env) := by
  obtain ⟨up', free'⟩ : ((prepareReexecution w stmt conn).1.link conn).isOk = true ∧
      ((prepareReexecution w stmt conn).1.conns conn).streaming = false := by
    rcases prepareReexecution_world w stmt conn with same | ⟨source, stopped⟩
    · rw [same]
      exact ⟨up, free⟩
    · rw [stopped, stopStream_link]
      exact ⟨up, stopStream_streaming free source⟩
  have found := readyPlace_of_up nonNull up' free' alone
  by_cases finished : stmt.readDone = true
  · rw [readAttempt, if_pos finished] at marked
    cases marked
  have more : stmt.readDone = false := by simpa using finished
  rcases kept : prepareReexecution w stmt conn with ⟨w', s⟩
  rw [kept] at found
  cases stream : s.streaming with
  | some source =>
    simp only [readAttempt_streams more kept stream, streamingNext] at marked
    split at marked
    · cases marked
    · split at marked <;> cases marked
  | none =>
    cases result : s.result with
    | some rows =>
      simp only [readAttempt_fetched more kept stream result, eagerNext] at marked
      split at marked <;> cases marked
    | none =>
      have place : readPlace w stmt conn env = some (conn, w', { s with conn }) := by
        simp only [readPlace, if_neg finished, kept, stream, result, found, Option.map_some]
      rw [readAttempt_of_place place] at marked
      rw [readClass, place]
      exact sendRead_asks marked

/-- **An attempt that finds its connection sets the mark for a classified result only.** -/
theorem attempt_asks (connected : Connected w stmt env)
    (marked : (attempt cfg w stmt env).connError = true) :
    AsksAgain (attemptClass cfg w stmt env) := by
  have conns := chooseConn_conns w stmt env.lookup
  have found (conn : ConnId) (w' : World ω) (chosen : chooseConn w stmt env.lookup = (conn, w'))
      (nonNull : conn ≠ 0) : (w'.link conn).isOk = true ∧ (w'.conns conn).streaming = false ∧
        env.connect.raced = false := by
    rw [chosen] at conns
    rw [World.link, conns]
    exact connected conn (by rw [chosen]) nonNull
  have attempted := attempt_attempted cfg w stmt env
  generalize attempt cfg w stmt env = a at attempted marked
  cases attempted with
  | answered => cases marked
  | control =>
    rw [(controlAttempt_spec cfg w stmt env).2] at marked
    cases marked
  | write pgSql conn w' kind text inShim chosen nonNull =>
    obtain ⟨up, free, alone⟩ := found conn w' chosen nonNull
    simp only [attemptClass, inShim, kind, text, chosen, if_neg nonNull]
    exact writeAttempt_asks nonNull up free alone marked
  | read pgSql conn w' kind text inShim chosen nonNull =>
    obtain ⟨up, free, alone⟩ := found conn w' chosen nonNull
    simp only [attemptClass, inShim, kind, text, chosen, if_neg nonNull]
    exact readAttempt_asks nonNull up free alone marked

/-- **What a call on a clear mark is tried again for.** -/
theorem retried_asks {envs : ℕ → Env}
    (connected : AttemptsMeet cfg Connected Connected retries w false stmt envs) :
    AttemptsMeet cfg (fun w stmt env => AsksAgain (attemptClass cfg w stmt env))
      (fun _ _ _ => True) retries w false stmt envs := by
  refine connected.retried fun s env isRetried found => ?_
  have marked : (attempt cfg s.1 s.2 env).connError = true := by
    simp only [attempts, Attempt.isRetried, Bool.and_eq_true, Bool.false_or] at isRetried
    exact isRetried.1.2
  exact attempt_asks found marked

end Step

namespace Exec

open Step (failureClass answerClass AsksAgain)

/-- The class of a script's failure, once its connection is up. -/
def carryOutClass (cfg : ExecConfig) (tr : Translator) (server : Text → Session ω → Reply ω)
    (w : World ω) (conn : ConnId) (sql : Text) (env : ExecEnv) : Option Step.ErrorClass :=
  if (forwardedAs cfg sql).isSome || Routing.shouldSkip cfg.debug sql ||
      isJunkMetadataInsert sql then none
  else
    match tr sql with
    | .error _ => none
    | .ok texts =>
      let out := sendScript server (w.link conn) (sentText sql texts) env
      answerClass (w.after conn out.link out.committed) conn out.answer env.error

/-- **The class an attempt's failure got**, if a result was classified.  What SQLite
answers is not. -/
def scriptClass (cfg : ExecConfig) (tr : Translator) (server : Text → Session ω → Reply ω)
    (w : World ω) (db : DbId) (sql : Text) (env : ExecEnv) : Option Step.ErrorClass :=
  if Backed w db env ∧ Routing.isSqlitePassthrough sql = false then
    match preflight (w.pinnedConn db).2 (execConn w db env) env with
    | (false, _) => none
    | (true, w') => carryOutClass cfg tr server w' (execConn w db env) sql env
  else none

/-- **The attempt finds its connection up.** -/
def Connected (w : World ω) (db : DbId) (env : ExecEnv) : Prop :=
  Backed w db env → (w.link (execConn w db env)).isOk = true

theorem settleScript_connError (w : World ω) (conn : ConnId) (sql : Text) (texts : List Text)
    (answer : Answer) (env : ExecEnv)
    (marked : (settleScript w conn sql texts answer env).connError = true) :
    AsksAgain (answerClass w conn answer env.error) := by
  cases answer with
  | ok =>
    simp only [settleScript] at marked
    split at marked <;> cases marked
  | failed result =>
    simp only [settleScript] at marked
    simp only [answerClass]
    generalize failureClass _ _ _ _ = c at marked ⊢
    cases c <;> simp [AsksAgain] at marked ⊢

section

variable {cfg : ExecConfig} {tr : Translator} {server : Text → Session ω → Reply ω}
  {w : World ω} {db : DbId} {sql : Text}

theorem carryOut_asks {env : ExecEnv}
    (marked : (carryOut cfg tr server w conn db sql env).connError = true) :
    AsksAgain (carryOutClass cfg tr server w conn sql env) := by
  unfold carryOut at marked
  unfold carryOutClass
  cases forwarded : forwardedAs cfg sql with
  | some cmd =>
    simp only [forwarded] at marked
    split at marked <;> cases marked
  | none =>
    simp only [forwarded] at marked
    split at marked
    · cases marked
    next runs =>
    split at marked
    · cases marked
    next allowed =>
    rw [if_neg (by simp [runs, allowed])]
    unfold runScript at marked
    cases translated : tr sql with
    | error reason =>
      rw [translated] at marked
      cases marked
    | ok texts =>
      rw [translated] at marked
      exact settleScript_connError _ _ _ _ _ _ marked

/-- **An attempt that finds its connection sets the mark for a classified result only.** -/
theorem execAttempt_asks {env : ExecEnv} (connected : Connected w db env)
    (marked : (execAttempt cfg tr server w db sql env).connError = true) :
    AsksAgain (scriptClass cfg tr server w db sql env) := by
  unfold execAttempt at marked
  unfold scriptClass
  split at marked
  next backed =>
    split at marked
    · cases marked
    next routed =>
      have up : (((w.pinnedConn db).2).link (execConn w db env)).isOk = true := by
        rw [World.link, Step.pinnedConn_conns]
        exact connected backed
      have ready : preflight (w.pinnedConn db).2 (execConn w db env) env =
          (true, (w.pinnedConn db).2) := by
        rw [preflight, if_pos up]
      rw [if_pos ⟨backed, by simpa using routed⟩]
      rw [execViaPostgres, ready] at marked
      rw [ready]
      exact carryOut_asks marked
  next => cases marked

/-- **What a call on a clear mark is tried again for.** -/
theorem retried_asks {envs : ℕ → ExecEnv}
    (connected : AttemptsMeet cfg tr server db sql (fun w env => Connected w db env)
      (fun w env => Connected w db env) retries w false envs) :
    AttemptsMeet cfg tr server db sql
      (fun w env => AsksAgain (scriptClass cfg tr server w db sql env)) (fun _ _ => True) retries
      w false envs := by
  refine connected.retried fun w env isRetried found => ?_
  have marked : (execAttempt cfg tr server w db sql env).connError = true := by
    simp only [attempts, Attempt.isRetried, Bool.and_eq_true, Bool.false_or] at isRetried
    exact isRetried.2
  exact execAttempt_asks found marked

end

end Exec

/-! ### The calls of one thread -/

/-- **The marks of a thread**: one for its steps, one for its scripts. -/
structure Thread where
  stepMark : Bool
  execMark : Bool
  deriving DecidableEq, Repr

/-- **A call made on the thread**, in any world and with any outcomes: a step of a
registered statement, a step of one that is not, a script. -/
inductive ThreadCall (ω : Type*) where
  | step (w : World ω) (stmt : Step.Stmt ω) (envs : ℕ → Step.Env)
  | cachedStep (w : World ω) (u : Step.Unregistered ω) (env : Step.CachedEnv)
  | exec (w : World ω) (db : DbId) (sql : Text) (envs : ℕ → Exec.ExecEnv)

namespace Thread

/-- No call has left its mark. -/
def clear : Thread := ⟨false, false⟩

variable (cfg : Step.CachedConfig) (tr : Exec.Translator)
  (server : Text → Session ω → Reply ω)

/-- **The marks after a call.**  A step of a statement that is not registered sets the mark
of the steps and is not tried again. -/
def next (t : Thread) : ThreadCall ω → Thread
  | .step w stmt envs =>
    { t with stepMark := (Step.step cfg.toConfig w t.stepMark stmt envs).connError }
  | .cachedStep w u env =>
    { t with stepMark := t.stepMark || (Step.cachedStep cfg w u env).connError }
  | .exec w db sql envs =>
    { t with execMark := (Exec.exec cfg.exec tr server w t.execMark db sql envs).connError }

/-- **Every attempt that is run again was classified so in this call.** -/
def Warranted (t : Thread) : ThreadCall ω → Prop
  | .step w stmt envs =>
    Step.EachRetried cfg.toConfig
      (fun w stmt env => Step.AsksAgain (Step.attemptClass cfg.toConfig w stmt env))
      w t.stepMark stmt envs
  | .cachedStep _ _ _ => True
  | .exec w db sql envs =>
    Exec.AttemptsMeet cfg.exec tr server db sql
      (fun w env => Step.AsksAgain (Exec.scriptClass cfg.exec tr server w db sql env))
      (fun _ _ => True) cfg.maxRetries w t.execMark envs

/-- **The call starts on a clear mark, and its attempts find their connection.** -/
def StartsClear (t : Thread) : ThreadCall ω → Prop
  | .step w stmt envs =>
    t.stepMark = false ∧ Step.EachAttempt cfg.toConfig Step.Connected w false stmt envs
  | .cachedStep _ _ _ => True
  | .exec w db sql envs =>
    t.execMark = false ∧ Exec.AttemptsMeet cfg.exec tr server db sql
      (fun w env => Exec.Connected w db env) (fun w env => Exec.Connected w db env)
      cfg.maxRetries w false envs

variable {cfg tr server}

theorem StartsClear.warranted {t : Thread} {call : ThreadCall ω}
    (ok : StartsClear cfg tr server t call) : Warranted cfg tr server t call := by
  cases call with
  | step w stmt envs =>
    obtain ⟨clear, connected⟩ := ok
    simp only [Warranted, clear]
    exact Step.retried_asks connected
  | cachedStep => trivial
  | exec w db sql envs =>
    obtain ⟨clear, connected⟩ := ok
    simp only [Warranted, clear]
    exact Exec.retried_asks connected

/-- **No attempt is run again for a failure that is not its own**, in a run whose calls
all start on a clear mark. -/
theorem retried_for_its_own_failure (cfg : Step.CachedConfig) (tr : Exec.Translator)
    (server : Text → Session ω → Reply ω) (t : Thread) (calls : List (ThreadCall ω))
    (ok : Runs.Meets (next cfg tr server) (StartsClear cfg tr server) t calls)
    (earlier : List (ThreadCall ω)) (call : ThreadCall ω) (later : List (ThreadCall ω))
    (among : calls = earlier ++ call :: later) :
    Warranted cfg tr server (Runs.final (next cfg tr server) t earlier) call := by
  subst among
  exact ((Runs.meets_append t earlier _).mp ok).2.1.warranted

/-! ### Two runs -/

/-- Transaction control is forwarded, and a call is tried again twice. -/
def retrying : Step.CachedConfig := { Step.forwarding with debug := none, cacheDisabled := false }

/-- The connection is lost with the write. -/
def losing (conn : ConnId) : Step.Env :=
  { Step.Env.calm conn with
    write := { (Step.Env.calm conn).write with exec := ⟨.lose false true, none⟩ } }

/-- The connection is lost with the script. -/
def losingExec (conn : ConnId) : Exec.ExecEnv :=
  { Exec.ExecEnv.calm conn with exec := ⟨.lose false true, none⟩ }

/-- A write tried twice: the connection is lost with the first attempt. -/
def lostOnce : ThreadCall ℕ :=
  .step .fresh (Step.update 5 (.calm 1)).stmt fun
    | 0 => losing 1
    | _ => .calm 1

theorem retried_for_its_own_failure_of_lostOnce :
    Runs.Meets (next retrying keepText (acceptAll ℕ))
        (StartsClear retrying keepText (acceptAll ℕ)) clear [lostOnce] ∧
      Warranted retrying keepText (acceptAll ℕ) clear lostOnce := by
  have found (w : World ℕ) (stmt : Step.Stmt ℕ) (env : Step.Env)
      (one : (Step.chooseConn w stmt env.lookup).1 = 1) (up : (w.link 1).isOk = true)
      (free : (w.conns 1).streaming = false) (alone : env.connect.raced = false) :
      Step.Connected w stmt env := by
    intro conn chosen _
    rw [one] at chosen
    subst chosen
    exact ⟨up, free, alone⟩
  have met : Runs.Meets (next retrying keepText (acceptAll ℕ))
      (StartsClear retrying keepText (acceptAll ℕ)) clear [lostOnce] := by
    refine ⟨⟨rfl, fun _ => found _ _ _ rfl rfl rfl rfl,
      fun _ => ⟨found _ _ _ rfl rfl rfl rfl, fun _ => ?_, fun again => ?_⟩⟩, trivial⟩
    · exact found _ _ _ (by decide) (by decide) (by decide) rfl
    · exact absurd again (by decide)
  exact ⟨met, retried_for_its_own_failure retrying keepText (acceptAll ℕ) clear
    [lostOnce] met [] lostOnce [] rfl⟩

/-- **A failure for good that is run again.**  A write uses up its retries on lost
connections and leaves the mark; the next write violates a constraint, and is run again
and accepted.  A script that SQLite refuses is run again after a script that lost its
connections. -/
theorem failed_for_good_run_again :
    let lost : ThreadCall ℕ := .step .fresh (Step.update 5 (.calm 1)).stmt fun _ => losing 1
    let refused : ThreadCall ℕ := .step .fresh (Step.update 6 (.calm 1)).stmt fun
      | 0 => .refusing 1
      | _ => .calm 1
    let lostExec : ThreadCall ℕ := .exec .fresh 7 "DELETE FROM t".toList fun _ => losingExec 1
    let plain : ThreadCall ℕ := .exec .fresh 8 "DELETE FROM t".toList fun _ =>
      { Exec.ExecEnv.calm 0 with sqlite := .error }
    let after := Runs.final (next retrying keepText (acceptAll ℕ)) clear
      [lost, lostExec]
    after = ⟨true, true⟩ ∧
      Step.attemptClass Step.forwarding .fresh (Step.update 6 (.calm 1)).stmt (.refusing 1) =
        some .fail ∧
      (Step.step Step.forwarding .fresh after.stepMark (Step.update 6 (.calm 1)).stmt fun
        | 0 => .refusing 1
        | _ => .calm 1).world.durable = [6] ∧
      ¬ Warranted retrying keepText (acceptAll ℕ) after refused ∧
      ¬ Warranted retrying keepText (acceptAll ℕ) after plain := by
  intro lost refused lostExec plain after
  have marks : after = ⟨true, true⟩ := by decide +kernel
  rw [marks]
  refine ⟨rfl, by decide +kernel, by decide +kernel, fun warranted => ?_, fun warranted => ?_⟩
  · exact absurd (warranted.2 (by decide +kernel)).1 (by decide +kernel)
  · exact absurd (warranted.2 (by decide +kernel)).1 (by decide +kernel)

end Thread

end PlexPostgres
