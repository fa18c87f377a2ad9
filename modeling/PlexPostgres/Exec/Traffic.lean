import PlexPostgres.Step.Cached
import PlexPostgres.Step.Metadata
import PlexPostgres.Step.Place

/-!
# What an attempt sends, and where

Each path to PostgreSQL has its own rule for the connection.  `attemptPlace`, `metadataPlace`,
`cachedPlace` and `execPlace` follow a path to the point where something is sent, and give the
connection.

`Ends` lists what an attempt can do to the world if it sends nothing but there.  Every path is
followed once, and what an attempt keeps is read off the list.  Transaction control is not on it:
a command is sent by `World.run`.
-/

namespace PlexPostgres

open Postgres Txn Routing
open Exec (Backed ExecConfig ExecEnv Translator execConn forwardedAs)

variable {ω : Type*}

/-! ### Where the other paths send -/

namespace Step

/-- The transaction command a registered statement is forwarded as. -/
def Stmt.command (cfg : Config) (stmt : Stmt ω) : Option TxnCmd :=
  if stmt.kind = .skipped && cfg.forwarding then classifySql stmt.sql else none

/-- Where a write that is not registered is sent. -/
def cachedWritePlace (w : World ω) (u : Unregistered ω) (env : CachedEnv) : Option ConnId :=
  let conn := pickThreadConnection w (cachedBase env) env
  if Exec.isJunkMetadataInsert u.text || u.entry.any (·.writeExecuted) ||
      (isTxnTerminator u.text && !(w.link conn).inTransaction) || !env.translates ||
      !isUsable (afterRace w conn env.connect.raced) conn then none
  else some conn

/-- Where a read that is not registered is sent. -/
def cachedReadPlace (w : World ω) (u : Unregistered ω) (env : CachedEnv) : Option ConnId :=
  let conn := pickThreadConnection w (cachedBase env) env
  if !env.shadowSteps || (u.entry.bind (·.result)).isSome || !env.translates ||
      !isUsable (afterRace w conn env.connect.raced) conn then none
  else some conn

/-- Nothing of a statement that is not registered gets past real SQLite. -/
def isLeftAlone (w : World ω) (u : Unregistered ω) (env : CachedEnv) : Bool :=
  env.lookup.inResolve || isSqlitePassthrough u.sql || !serves w (cachedBase env) env

/-- **Where a statement that is not registered is sent.** -/
def cachedPlace (cfg : CachedConfig) (w : World ω) (u : Unregistered ω) (env : CachedEnv) :
    Option ConnId :=
  if isLeftAlone w u env then none
  else if cfg.forwarding && (classifySql u.sql).isSome then
    some (transactionConnection w u.db env.lookup).1
  else if isSqlitePassthrough u.text then none
  else if isWriteOperation u.text && !shouldSkip cfg.debug u.text && !shouldSkip cfg.debug u.sql
    then cachedWritePlace w u env
  else if isReadOperation u.text && !shouldSkip cfg.debug u.text then cachedReadPlace w u env
  else none

end Step

/-- **Where a script is sent.** -/
def Exec.execPlace (cfg : ExecConfig) (tr : Translator) (w : World ω) (db : DbId)
    (sql : Text) (env : ExecEnv) : Option ConnId :=
  if ¬ Backed w db env ∨ isSqlitePassthrough sql = true then none
  else if (Exec.preflight (w.pinnedConn db).2 (execConn w db env) env).1 = false then none
  else if (forwardedAs cfg sql).isSome then some (execConn w db env)
  else if shouldSkip cfg.debug sql || Exec.isJunkMetadataInsert sql then none
  else
    match tr sql with
    | .error _ => none
    | .ok texts => if Exec.sentText sql texts = [] then none else some (execConn w db env)

namespace Step

/-! ### What an attempt can do -/

/-- **Where an attempt can get to** if it sends on `place` only.  Connections are made ready
before anything is sent. -/
inductive Passes (place : Option ConnId) (w : World ω) : World ω → Prop
  | looked {w₁ : World ω} (looks : Looks w w₁) : Passes place w w₁
  | locked {w₁ w₂ : World ω} {d : ConnId} {env : ConnectEnv} {found : Option ConnId}
      (looks : Looks w w₁) (lock : lockConnection w₁ d env = (found, w₂)) : Passes place w w₂
  | readied {w₁ w₂ w₃ : World ω} {d d' : ConnId} {env : ConnectEnv} {isUp : Bool}
      (looks : Looks w w₁) (lock : lockConnection w₁ d env = (some d', w₂))
      (ready : readyConnection w₂ d' env = (isUp, w₃)) : Passes place w w₃
  | preflight {w₁ w₂ : World ω} {d : ConnId} {env : ExecEnv} {isUp : Bool} (looks : Looks w w₁)
      (ready : Exec.preflight w₁ d env = (isUp, w₂)) : Passes place w w₂
  | raced {w₁ : World ω} (passes : Passes place w w₁) (d : ConnId) (lost : Bool) :
      Passes place w (afterRace w₁ d lost)
  | noted {w₁ w₂ : World ω} (passes : Passes place w w₁) (same : Unmoved w₁ w₂) : Passes place w w₂
  | lost {w₁ : World ω} (passes : Passes place w w₁) (d : ConnId) :
      Passes place w (setLink w₁ d .down)
  | stopped {w₁ : World ω} (passes : Passes place w w₁) (d : ConnId) :
      Passes place w (stopStream w₁ d)
  | streams {w₁ : World ω} (passes : Passes place w w₁) {d : ConnId}
      (outside : w₁.inTransaction d = false) :
      Passes place w (w₁.setConn d fun c => { c with streaming := true })
  | sent {w₁ : World ω} (passes : Passes place w w₁) {d : ConnId} (here : place = some d)
      (link : Link ω) (committed : List ω) : Passes place w (w₁.after d link committed)

/-- **What an attempt can end with**: a failure may be followed by a check of the connection. -/
inductive Ends (place : Option ConnId) (w : World ω) : World ω → Prop
  | passes {w₁ : World ω} (passes : Passes place w w₁) : Ends place w w₁
  | checked {w₁ : World ω} (passes : Passes place w w₁) (d : ConnId) (env : HealthEnv) :
      Ends place w (checkHealth w₁ d env)

variable {place : Option ConnId} {w w₁ : World ω} {d : ConnId}

/-! ### The write branch -/

theorem Passes.settleWrite (passes : Passes place w w₁) (stmt : Stmt ω) (d : ConnId)
    (answer : Answer) (env : Env) : Ends place w (settleWrite w₁ stmt d answer env).world := by
  cases answer with
  | failed result =>
    unfold Step.settleWrite failWrite
    dsimp only
    split
    · exact .passes passes
    · exact .checked passes d env.health
    · exact .passes (passes.noted (noteError_unmoved _ d _))
  | ok =>
    obtain ⟨rc, stmt', finished, -⟩ := finishWrite_spec w₁ stmt d env.write.rows
    rw [Step.settleWrite, finished]
    exact .passes passes

/-- **A write attempt** on the connection chosen for it. -/
theorem Looks.writeAttempt (looks : Looks w w₁) (cfg : Config) (stmt : Stmt ω) (pgSql : Text)
    (conn : ConnId) (env : Env) :
    Ends (writeSends cfg w₁ stmt pgSql conn env) w
      (writeAttempt cfg w₁ stmt pgSql conn env).world := by
  unfold Step.writeAttempt
  split
  · exact .passes (.looked looks)
  next fresh =>
  split
  · exact .passes (.looked looks)
  next proceeds =>
  split
  next special =>
    unfold takeSequence
    split
    next up =>
      exact .passes (.sent (.looked looks) (by simp [writeSends, fresh, proceeds, special, up]) _ _)
    · exact .passes (.looked looks)
  next ordinary =>
  rcases lock : lockConnection w₁ conn env.connect with ⟨_ | d, w₂⟩
  · exact .passes (.locked looks lock)
  dsimp only
  rcases ready : readyConnection w₂ d env.connect with ⟨_ | _, w₃⟩
  · exact .passes (.readied looks lock ready)
  have readied : Passes (writeSends cfg w₁ stmt pgSql conn env) w w₃ := .readied looks lock ready
  simp only [executeAndFinalize]
  split
  · exact .passes readied
  split
  · exact .passes readied
  next counted =>
    refine (readied.sent ?_ _ _).settleWrite _ d _ env
    rw [writeSends, if_neg (by simp [ordinary]), writePlace,
      if_neg (by simp_all [isSkippedWrite, isSkippedUpdate]), readyPlace_of_ready lock ready]
    rfl

/-! ### The read branch -/

theorem Passes.failRead (passes : Passes place w w₁) (stmt : Stmt ω) (d : ConnId)
    (result : Option (Option Text)) (env : Env) :
    Ends place w (failRead w₁ stmt d result env).world := by
  unfold Step.failRead
  dsimp only
  split
  · exact .passes passes
  · exact .checked passes d env.health
  · exact .passes (passes.noted (noteError_unmoved _ d _))

/-- **The query is sent** on a connection that was made ready. -/
theorem Passes.sendRead (passes : Passes (some d) w w₁) (cfg : Config) (stmt : Stmt ω) (env : Env) :
    Ends (some d) w (sendRead cfg w₁ stmt d env).world := by
  have send (w₂ : World ω) (passes : Passes (some d) w w₂) :=
    passes.sent rfl ((w₂.link d).query env.read.exec).link
      ((w₂.link d).query env.read.exec).committed
  unfold Step.sendRead
  extract_lets planned w₂
  have planning : Passes (some d) w w₂ := passes.sent rfl planned.link planned.committed
  split
  · exact planning.failRead stmt d none env
  split
  next streaming =>
    have outside : w₂.inTransaction d = false := by
      simp only [usesStreaming, Bool.and_eq_true, Bool.not_eq_true'] at streaming
      exact streaming.1.2
    unfold streamingFetch
    dsimp only
    split
    · exact .passes ((send w₂ planning).stopped d)
    · exact ((send w₂ planning).stopped d).failRead _ d _ env
    split
    · exact .passes ((send w₂ planning).stopped d)
    · exact .passes ((send w₂ planning).streams outside)
  · unfold eagerFetch
    dsimp only
    split
    · exact (send w₂ planning).failRead _ d _ env
    · split <;> exact .passes (send w₂ planning)

theorem Passes.streamingNext (passes : Passes place w w₁) (stmt : Stmt ω) (d : ConnId) (env : Env) :
    Passes place w (streamingNext w₁ stmt d env).world := by
  unfold Step.streamingNext
  dsimp only
  split
  · exact passes.stopped d
  split
  · exact passes
  · exact passes.stopped d
  · exact ((passes.lost d).stopped d).noted (noteError_unmoved _ d _)
  next lost message _ =>
    refine (Passes.stopped ?_ d).noted (noteError_unmoved _ d _)
    split
    · exact passes.lost d
    · exact passes

/-- **A read attempt** on the connection chosen for it. -/
theorem Looks.readAttempt (looks : Looks w w₁) (cfg : Config) (stmt : Stmt ω) (conn : ConnId)
    (env : Env) :
    Ends ((readPlace w₁ stmt conn env).map Prod.fst) w
      (readAttempt cfg w₁ stmt conn env).world := by
  have kept := looks.prepareReexecution stmt conn
  unfold Step.readAttempt
  split
  · exact .passes (.looked looks)
  next more =>
  rcases prepared : Step.prepareReexecution w₁ stmt conn with ⟨w₂, s⟩
  rw [prepared] at kept
  dsimp only
  split
  · exact .passes ((Passes.looked kept).streamingNext s _ env)
  · unfold eagerNext
    split <;> exact .passes (.looked kept)
  next idle none =>
    unfold firstExecute
    rcases lock : lockConnection w₂ conn env.connect with ⟨_ | d, w₃⟩
    · exact .passes (.locked kept lock)
    dsimp only
    rcases ready : readyConnection w₃ d env.connect with ⟨_ | _, w₄⟩
    · exact .passes (.readied kept lock ready)
    have readied : Passes (some d) w w₄ := .readied kept lock ready
    simp only [readPlace, if_neg more, prepared, idle, none, readyPlace_of_ready lock ready]
    exact readied.sendRead cfg _ env

/-- **An attempt of a registered statement** that is not transaction control. -/
theorem attempt_ends (cfg : Config) (w : World ω) {stmt : Stmt ω} {env : Env}
    (ordinary : env.lookup.inResolve = false → stmt.command cfg = none) :
    Ends (attemptPlace cfg w stmt env) w (attempt cfg w stmt env).world := by
  have looks := chooseConn_looks w stmt env.lookup
  have attempted := attempt_attempted cfg w stmt env
  generalize attempt cfg w stmt env = a at attempted ⊢
  cases attempted with
  | answered rc w' world =>
    rcases world with unmoved | same
    · exact .passes (.noted (.looked .refl) unmoved)
    · exact .passes (same ▸ .looked looks)
  | control kind inShim =>
    have skipped : controlAttempt cfg w stmt env = ⟨.done, stmt, w, false, .skipped⟩ := by
      have none := ordinary inShim
      unfold controlAttempt
      split
      · rfl
      next cmd classified =>
        have off : cfg.forwarding = false := by
          simpa [Stmt.command, kind, classified] using none
        simp [off]
    rw [skipped]
    exact .passes (.looked .refl)
  | write pgSql conn w' kind text inShim chosen nonNull =>
    have place : attemptPlace cfg w stmt env = writeSends cfg w' stmt pgSql conn env := by
      simp [attemptPlace, inShim, kind, text, chosen, nonNull]
    rw [chosen] at looks
    exact place ▸ looks.writeAttempt cfg stmt pgSql conn env
  | read pgSql conn w' kind text inShim chosen nonNull =>
    have place : attemptPlace cfg w stmt env = (readPlace w' stmt conn env).map Prod.fst := by
      simp [attemptPlace, inShim, kind, text, chosen, nonNull]
    rw [chosen] at looks
    exact place ▸ looks.readAttempt cfg stmt conn env

theorem fetchMetadata_ends (w : World ω) (stmt : Stmt ω) (env : MetadataEnv) :
    Ends (metadataPlace w stmt env) w (fetchMetadata w stmt env).1 := by
  rcases fetchMetadata_cases w stmt env with
    same | ⟨d, link, committed, here, same | ⟨count, fetched⟩⟩
  · rw [same]
    exact .passes (.looked .refl)
  · rw [same]
    exact .passes (.sent (.looked .refl) here link committed)
  · rw [fetched]
    exact .passes (.sent (.looked .refl) here link committed)

/-! ### Statements that are not registered -/

theorem Passes.failCached (passes : Passes place w w₁) {noted : Text → World ω}
    (unmoved : ∀ message, Unmoved w₁ (noted message)) (entry : Option CachedEntry) (d : ConnId)
    (result : Option (Option Text)) (env : CachedEnv) :
    Ends place w (failCached noted w₁ entry d result env).world := by
  unfold Step.failCached
  dsimp only
  split
  · exact .passes passes
  · exact .checked passes d env.health
  · exact .passes (passes.noted (unmoved _))

theorem cachedWrite_ends (cfg : CachedConfig) (w : World ω) (u : Unregistered ω) (env : CachedEnv) :
    Ends (cachedWritePlace w u env) w (cachedWrite cfg w u (cachedBase env) env).world := by
  let conn := pickThreadConnection w (cachedBase env) env
  have begun : Passes (cachedWritePlace w u env) w w := .looked .refl
  unfold cachedWrite
  split
  · exact .passes begun
  next kept =>
  split
  · exact .passes begun
  next fresh =>
  split
  · exact .passes begun
  next proceeds =>
  split
  · exact .passes (begun.noted (noteError_unmoved ..))
  next translates =>
  unfold cachedExecute
  split
  · exact .passes begun
  have raced := begun.raced conn env.connect.raced
  dsimp only
  split
  · exact .passes raced
  next usable =>
  generalize sent cfg.toConfig _ u.asWrite _ env.toEnv = out
  have sent := raced.sent (d := conn) (by simp_all [cachedWritePlace, conn]) out.link out.committed
  split
  · exact .passes sent
  refine sent.failCached (fun message => ?_) _ conn _ env
  unfold noteCachedError
  dsimp only
  split
  · exact noteError_unmoved ..
  · exact (noteError_unmoved ..).trans (noteError_unmoved ..)

theorem cachedRead_ends (cfg : CachedConfig) (w : World ω) (u : Unregistered ω) (env : CachedEnv) :
    Ends (cachedReadPlace w u env) w (cachedRead cfg w u (cachedBase env) env).world := by
  let conn := pickThreadConnection w (cachedBase env) env
  have begun : Passes (cachedReadPlace w u env) w w := .looked .refl
  unfold cachedRead
  split
  · exact .passes begun
  next steps =>
  split
  · unfold cachedAdvance
    split <;> exact .passes begun
  next fresh =>
  split
  · exact .passes begun
  next translates =>
  unfold cachedFetch
  split
  · exact .passes begun
  have raced := begun.raced conn env.connect.raced
  dsimp only
  split
  · exact .passes raced
  next usable =>
  generalize (if env.read.planCached = true then _ else _ : Outcome ω) = planned
  generalize planned.andThen _ = out
  have unfetched : u.entry.bind (·.result) = none := by
    cases entry : u.entry <;> simp_all
  have sent := raced.sent (d := conn) (by simp_all [cachedReadPlace, conn]) out.link out.committed
  split
  · exact sent.failCached (noteError_unmoved _ conn) _ conn _ env
  · exact .passes sent

/-- **A step of a statement that is not registered** and not transaction control. -/
theorem cachedStep_ends (cfg : CachedConfig) (w : World ω) {u : Unregistered ω} {env : CachedEnv}
    (ordinary : isLeftAlone w u env = false →
      (if cfg.forwarding = true then classifySql u.sql else none) = none) :
    Ends (cachedPlace cfg w u env) w (cachedStep cfg w u env).world := by
  have begun {place : Option ConnId} : Passes place w w := .looked .refl
  unfold cachedStep
  split
  · exact .passes begun
  next reached =>
  have alone : isLeftAlone w u env = false := by simpa [isLeftAlone] using reached
  have plain : (cfg.forwarding && (classifySql u.sql).isSome) = false := by
    have none := ordinary alone
    cases on : cfg.forwarding <;> simp_all
  rw [cachedPlace, alone, if_neg Bool.false_ne_true, plain, if_neg Bool.false_ne_true,
    cachedDispatch, ordinary alone]
  dsimp only
  split
  · exact .passes begun
  split
  · exact cachedWrite_ends cfg w u env
  split
  · exact cachedRead_ends cfg w u env
  · exact .passes begun

/-! ### Scripts -/

theorem preflight_tended (w : World ω) (d : ConnId) (env : ExecEnv) :
    Tended w (Exec.preflight w d env).2 := by
  unfold Exec.preflight
  dsimp only
  split
  · exact .refl w
  split
  · exact .anew w d _
  split
  · exact .reset w d _
  · exact (Tended.reset w d _).trans (.anew _ d _)

theorem after_self (w : World ω) (d : ConnId) : w.after d (w.link d) [] = w := by
  simp [World.after, World.setConn, World.link]

theorem Passes.settleScript (passes : Passes place w w₁) (d : ConnId) (sql : Text)
    (texts : List Text) (answer : Answer) (env : ExecEnv) :
    Ends place w (Exec.settleScript w₁ d sql texts answer env).world := by
  unfold Exec.settleScript
  split
  · split
    · exact .passes (passes.noted (noteError_unmoved ..))
    · exact .passes passes
  dsimp only
  split
  · exact .passes passes
  · exact .checked passes d env.health
  · exact .passes (passes.noted (noteError_unmoved ..))

/-- **A script** that is not transaction control. -/
theorem execAttempt_ends (cfg : ExecConfig) (tr : Translator) (server : Text → Session ω → Reply ω)
    (w : World ω) {db : DbId} {sql : Text} {env : ExecEnv}
    (ordinary : Backed w db env → isSqlitePassthrough sql = false →
      (Exec.preflight (w.pinnedConn db).2 (execConn w db env) env).1 = true →
        forwardedAs cfg sql = none) :
    Ends (Exec.execPlace cfg tr w db sql env) w
      (Exec.execAttempt cfg tr server w db sql env).world := by
  have pinned : Looks w (w.pinnedConn db).2 := .pinned .refl db
  unfold Exec.execAttempt
  dsimp only
  split
  next backed =>
    split
    · exact .passes (.looked pinned)
    next ours =>
    have plain := ordinary backed (by simpa using ours)
    rcases ready : Exec.preflight (w.pinnedConn db).2 (execConn w db env) env with ⟨_ | _, w₁⟩
    · simp only [Exec.execViaPostgres, ready]
      exact .passes (.preflight pinned ready)
    have readied {place : Option ConnId} : Passes place w w₁ := .preflight pinned ready
    rw [ready] at plain
    simp only [Exec.execViaPostgres, ready, Exec.carryOut, plain rfl]
    split
    · exact .passes readied
    next kept =>
    split
    · exact .passes readied
    next notJunk =>
    unfold Exec.runScript
    split
    · exact .passes (readied.noted (noteError_unmoved ..))
    next texts translated =>
      refine Passes.settleScript ?_ ..
      unfold Exec.sendScript
      split
      · rw [after_self]
        exact readied
      next text =>
        refine readied.sent ?_ _ _
        simp_all [Exec.execPlace, plain rfl]
  · exact .passes (.looked pinned)

/-! ### Nothing is sent elsewhere -/

/-- **All that is sent passes to `place`**: any other connection is as before or has lost its
session, and without a place nothing becomes durable. -/
structure SentAt (place : Option ConnId) (w w₁ : World ω) : Prop where
  link : ∀ d, place ≠ some d → w₁.link d = w.link d ∨ (w₁.link d).inTransaction = false
  durable : place = none → w₁.durable = w.durable

theorem SentAt.tended {w₂ : World ω} (sent : SentAt place w w₁) (tended : Tended w₁ w₂) :
    SentAt place w w₂ where
  link d away := by
    rcases tended.link d with same | gone
    · rw [same]
      exact sent.link d away
    · exact .inr gone
  durable none := tended.durable.trans (sent.durable none)

theorem SentAt.of_tended (tended : Tended w w₁) : SentAt place w w₁ :=
  ⟨fun d _ => tended.link d, fun _ => tended.durable⟩

theorem Passes.sentAt (passes : Passes place w w₁) : SentAt place w w₁ := by
  induction passes with
  | looked looks => exact .of_tended looks.tended
  | @locked w₁ w₂ d env found looks lock =>
    have locked := lockConnection_tended w₁ d env
    rw [lock] at locked
    exact .of_tended (looks.tended.trans locked)
  | @readied w₁ w₂ w₃ d d' env isUp looks lock ready =>
    have locked := lockConnection_tended w₁ d env
    have readied := readyConnection_tended w₂ d' env
    rw [lock] at locked
    rw [ready] at readied
    exact .of_tended ((looks.tended.trans locked).trans readied)
  | @preflight w₁ w₂ d env isUp looks ready =>
    have readied := preflight_tended w₁ d env
    rw [ready] at readied
    exact .of_tended (looks.tended.trans readied)
  | raced _ d lost ih => exact ih.tended (afterRace_tended _ d lost)
  | noted _ same ih => exact ih.tended (.of_unmoved same)
  | lost _ d ih => exact ih.tended (.setLink rfl _ d)
  | stopped _ d ih => exact ih.tended (.stop _ d)
  | @streams w₁ _ d _ ih =>
    have same (e : ConnId) := w₁.setConn_rel (r := fun c c' => c'.link = c.link) (fun _ => rfl) d
      (f := ({ · with streaming := true })) rfl e
    exact ⟨fun e away => by rw [World.link, same e]; exact ih.link e away, ih.durable⟩
  | @sent w₁ _ d here link committed ih =>
    subst here
    refine ⟨fun e away => ?_, fun h => by cases h⟩
    have other : e ≠ d := fun here => away (by rw [here])
    rw [after_link_of_ne w₁ other]
    exact ih.link e away

theorem Ends.sentAt (ends : Ends place w w₁) : SentAt place w w₁ := by
  cases ends with
  | passes passes => exact passes.sentAt
  | checked passes d env => exact passes.sentAt.tended (checkHealth_tended _ d env)

end Step

end PlexPostgres
