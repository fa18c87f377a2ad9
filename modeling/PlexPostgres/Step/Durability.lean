import PlexPostgres.Step.Progress

/-!
# What a COMMIT answered with success makes durable

A client makes writes and issues transaction commands, all of one handle and on one
connection, and keeps account of them by the answers alone (`Ledger`).  When a command
that commits is answered with success, is every write of the account durable?

Not in general: COMMIT of a transaction that PostgreSQL aborted is answered with success
and rolls it back, and the shim passes the answer on (`commit_of_aborted`).  It is so in
every run in which the transaction's connection is not lost and no commit meets an
aborted transaction (`commit_is_durable`).
-/

namespace PlexPostgres.Step

open Postgres Txn
open scoped List

variable {ω : Type*}

/-! ### The client -/

/-- What a statement answered with success does to the account. -/
def Ledger.note (g : Ledger ω) (stmt : Stmt ω) : Ledger ω :=
  match stmt.kind with
  | .write => g.write stmt.effect
  | .skipped => (classifySql stmt.sql).elim g g.step
  | .read | .sqlite => g

/-- A call: the statement stepped, and what each attempt of it meets. -/
structure Request (ω : Type*) where
  stmt : Stmt ω
  envs : ℕ → Env

/-- **A client**: the world, the connection-error mark of its thread, and its account. -/
structure Client (ω : Type*) where
  world : World ω
  mark : Bool
  ledger : Ledger ω

/-- The outcome of a call. -/
def Client.outcome (cfg : Config) (s : Client ω) (r : Request ω) : Call ω :=
  step cfg s.world s.mark r.stmt r.envs

/-- **A call**: the account moves on if it is answered with success. -/
def Client.call (cfg : Config) (s : Client ω) (r : Request ω) : Client ω where
  world := (s.outcome cfg r).world
  mark := (s.outcome cfg r).connError
  ledger := if (s.outcome cfg r).rc.isError then s.ledger else s.ledger.note r.stmt

/-- **Does a statement, answered with success, end the transaction and keep its writes?** -/
def Ledger.isCommit (g : Ledger ω) (stmt : Stmt ω) : Prop :=
  ∃ cmd, stmt.kind = .skipped ∧ classifySql stmt.sql = some cmd ∧ g.commits cmd = true

/-! ### The condition -/

/-- **The condition on an attempt**: it runs for the connection `conn`; inside a
transaction the connection is not lost, and a command that commits is sent to a sound
transaction and its COMMIT is accepted. -/
structure Careful (conn : ConnId) (g : Ledger ω) (w : World ω) (stmt : Stmt ω) (env : Env) :
    Prop where
  inShim : env.lookup.inResolve = false
  found : env.lookup.found = conn
  holds : g.levels ≠ [] →
    env.connect.raced = false ∧ env.write.Kept ∧ ∀ i, (env.control i).Kept
  sound : ∀ cmd, classifySql stmt.sql = some cmd → g.commits cmd = true →
    (cmd = .commit → (w.link conn).status ≠ .inError) ∧
      (env.control (commitAt cmd)).verdict = .accept

/-- Transaction control of handle `db`, or any other statement that is skipped. -/
structure ControlStmt (db : DbId) (stmt : Stmt ω) : Prop where
  kind : stmt.kind = .skipped
  shadow : stmt.shadow = some db
  fresh : stmt.cleared = stmt

/-- What the client issues: ordinary writes, and transaction control. -/
def Issued (cfg : Config) (db : DbId) (stmt : Stmt ω) : Prop :=
  OrdinaryWrite cfg db stmt ∨ ControlStmt db stmt

/-- **The condition on a call.** -/
def CarefulCall (cfg : Config) (db : DbId) (conn : ConnId) (s : Client ω) (r : Request ω) : Prop :=
  Issued cfg db r.stmt ∧
    EachAttempt cfg (Careful conn s.ledger) s.world s.mark r.stmt r.envs

/-! ### One attempt -/

section

variable {cfg : Config} {db : DbId} {conn : ConnId} {g : Ledger ω} {w : World ω} {stmt : Stmt ω}
  {env : Env}

/-- The statement a retry runs. -/
theorem Issued.retried (issued : Issued cfg db stmt) {stmt' : Stmt ω} (like : stmt.Like stmt') :
    Issued cfg db stmt'.cleared := by
  obtain ⟨kind, -, pgSql, -, params, shadow⟩ := like.same
  rcases issued with ordinary | control
  · refine .inl ⟨kind.trans ordinary.kind, shadow.trans ordinary.shadow, rfl, ?_⟩
    obtain ⟨sql, text, rest⟩ := ordinary.text
    refine ⟨sql, pgSql.trans text, ?_⟩
    rwa [show stmt'.cleared.params = stmt.params from params]
  · exact .inr ⟨kind.trans control.kind, shadow.trans control.shadow, rfl⟩

theorem ControlStmt.idle (control : ControlStmt db stmt) : stmt.streaming = none := by
  rw [← control.fresh]
  rfl

theorem note_of_like {stmt' : Stmt ω} (like : stmt.Like stmt') : g.note stmt' = g.note stmt := by
  obtain ⟨kind, sql, -, effect, -⟩ := like.same
  rw [Ledger.note, Ledger.note, kind, sql, effect]

/-- **What stands before every attempt of a call**: nothing is open, or the account's
transaction is and nothing has become durable yet. -/
def Standing (g : Ledger ω) (before : List ω) (db : DbId) (conn : ConnId) (w : World ω) : Prop :=
  (g.levels = [] ∧ Resting w conn) ∨ (InProgress g w db conn ∧ w.durable = before)

/-- What an attempt answered with success leaves. -/
structure Settled (g : Ledger ω) (before : List ω) (db : DbId) (conn : ConnId) (stmt : Stmt ω)
    (w : World ω) : Prop where
  accounted : Accounted (g.note stmt) w db conn
  durable : g.isCommit stmt → ∃ committed, w.durable = before ++ committed ∧ g.writes <+ committed

/-- What an attempt leaves: settled, or standing as before for the same statement. -/
structure Answered (g : Ledger ω) (before : List ω) (db : DbId) (conn : ConnId) (stmt : Stmt ω)
    (a : Attempt ω) : Prop where
  success : a.rc.isError = false → Settled g before db conn stmt a.world
  failure : a.rc.isError = true →
    Standing g before db conn a.world ∧ stmt.Like a.stmt ∧ a.stmt.streaming = none

theorem not_isCommit_of_closed (closed : g.levels = []) : ¬ g.isCommit stmt := by
  rintro ⟨cmd, -, -, commits⟩
  simp [Ledger.commits, closed] at commits

/-- A write with nothing open. -/
theorem answered_write_resting (resting : Resting w conn) (closed : g.levels = [])
    (ordinary : OrdinaryWrite cfg db stmt) (inShim : env.lookup.inResolve = false)
    (before : List ω) : Answered g before db conn stmt (attempt cfg w stmt env) := by
  obtain ⟨pgSql, text, -⟩ := ordinary.text
  obtain ⟨w', tended, ran⟩ := attempt_write_ran cfg w ordinary.kind text inShim
  have noted : g.note stmt = g := by simp [Ledger.note, ordinary.kind, Ledger.write, closed]
  have after : Resting (attempt cfg w stmt env).world conn := by
    rcases ran with none | ran
    · rw [none]
      exact resting.tended tended
    · exact (resting.tended tended).writeRan ran
  refine ⟨fun _ => ⟨?_, fun commits => absurd commits (not_isCommit_of_closed closed)⟩,
    fun failed => ⟨.inl ⟨closed, after⟩, ?_⟩⟩
  · rw [noted]
    exact .inl ⟨closed, after⟩
  · have idle : stmt.streaming = none := ordinary.idle
    rcases ran with none | ran
    · rw [none] at failed
      cases failed
    · exact ⟨ran.like, ran.streaming.trans idle⟩

/-- A write inside the transaction. -/
theorem answered_write_progress (progress : InProgress g w db conn)
    (ordinary : OrdinaryWrite cfg db stmt) (careful : Careful conn g w stmt env) :
    Answered g w.durable db conn stmt (attempt cfg w stmt env) := by
  obtain ⟨alone, kept, -⟩ := careful.holds progress.levels_ne
  have noted : g.note stmt = g.write stmt.effect := by rw [Ledger.note, ordinary.kind]
  rcases progress.write ordinary careful.inShim alone kept with
    ⟨ok, after⟩ | ⟨error, after, durable, same⟩
  · refine ⟨fun _ => ⟨?_, ?_⟩, ?_⟩
    · rw [noted]
      exact .inr after
    · rintro ⟨cmd, skipped, -⟩
      cases ordinary.kind.symm.trans skipped
    · intro failed
      rw [ok] at failed
      cases failed
  · have idle : stmt.streaming = none := ordinary.idle
    refine ⟨fun succeeded => ?_, fun _ => ⟨.inr ⟨after, durable⟩, ?_⟩⟩
    · rw [error] at succeeded
      cases succeeded
    · rw [same]
      exact ⟨rfl, idle⟩

variable {cmd : TxnCmd}

theorem note_control (control : ControlStmt db stmt)
    (classified : classifySql stmt.sql = some cmd) : g.note stmt = g.step cmd := by
  rw [Ledger.note, control.kind, classified]
  rfl

/-- A command with nothing open. -/
theorem answered_control_resting (forwards : cfg.forwarding = true) (nonNull : conn ≠ 0)
    (handle : db ≠ 0) (resting : Resting w conn) (closed : g.levels = [])
    (control : ControlStmt db stmt) (classified : classifySql stmt.sql = some cmd)
    (careful : Careful conn g w stmt env) (before : List ω) :
    Answered g before db conn stmt (attempt cfg w stmt env) := by
  have rest := resting.tended (transactionConnection_looks w db env.lookup).tended
  have placed := resting.transactionConnection db env.lookup
  have attempted :=
    attempt_control forwards w control.kind control.shadow classified careful.inShim
  rw [careful.found] at placed
  generalize transactionConnection w db env.lookup = place at rest placed attempted
  -- Where there is no connection to run it on, the command fails and nothing changes.
  have outcome : ((place.2.run place.1 db cmd env.control).1 = .ok () ∧
        Accounted (g.step cmd) (place.2.run place.1 db cmd env.control).2 db conn) ∨
      ∃ message, (place.2.run place.1 db cmd env.control).1 = .error message ∧
        Resting (place.2.run place.1 db cmd env.control).2 conn := by
    rcases placed with null | ⟨here, active⟩
    · rw [null]
      exact .inr ⟨_, rfl, rest⟩
    · rw [here]
      exact rest.run nonNull handle active closed
        (fun n => classifySql_noNul classified) env.control
  rcases attempted with ⟨ok, answered⟩ | ⟨message, w', error, same, answered⟩
  · rw [answered]
    refine ⟨fun _ => ⟨?_, fun commits => absurd commits (not_isCommit_of_closed closed)⟩, nofun⟩
    rw [note_control control classified]
    rcases outcome with ⟨-, accounted⟩ | ⟨message, error, -⟩
    · exact accounted
    · rw [ok] at error
      cases error
  · rw [answered]
    refine ⟨nofun, fun _ => ⟨.inl ⟨closed, ?_⟩, rfl, control.idle⟩⟩
    rcases outcome with ⟨ok, -⟩ | ⟨-, -, resting⟩
    · rw [ok] at error
      cases error
    · exact resting.tended (.of_unmoved same)

/-- A command inside the transaction. -/
theorem answered_control_progress (forwards : cfg.forwarding = true)
    (progress : InProgress g w db conn) (control : ControlStmt db stmt)
    (classified : classifySql stmt.sql = some cmd) (careful : Careful conn g w stmt env) :
    Answered g w.durable db conn stmt (attempt cfg w stmt env) := by
  have idle : stmt.streaming = none := control.idle
  have noted : g.note stmt = g.step cmd := note_control control classified
  have attempted :=
    attempt_control forwards w control.kind control.shadow classified careful.inShim
  rw [progress.transactionConnection] at attempted
  have outcome := progress.run (fun n => classifySql_noNul classified)
    (careful.holds progress.levels_ne).2.2 (careful.sound cmd classified)
  rcases attempted with ⟨ok, answered⟩ | ⟨message, w', error, same, answered⟩
  · rcases outcome with ⟨-, accounted, durable⟩ | ⟨message, error, -⟩
    · rw [answered]
      refine ⟨fun _ => ⟨?_, fun commits => ?_⟩, nofun⟩
      · rwa [noted]
      · exact durable (by simpa [Ledger.isCommit, control.kind, classified] using commits)
    · rw [ok] at error
      cases error
  · rcases outcome with ⟨ok, -⟩ | ⟨-, -, still, durable⟩
    · rw [ok] at error
      cases error
    · rw [answered]
      refine ⟨nofun, fun _ => ⟨.inr ⟨still.unmoved same, ?_⟩, rfl, idle⟩⟩
      rw [same.durable]
      exact durable

variable {before : List ω}

/-- **One attempt.** -/
theorem attempt_answered (forwards : cfg.forwarding = true) (nonNull : conn ≠ 0) (handle : db ≠ 0)
    (standing : Standing g before db conn w) (issued : Issued cfg db stmt)
    (careful : Careful conn g w stmt env) :
    Answered g before db conn stmt (attempt cfg w stmt env) := by
  rcases issued with ordinary | control
  · rcases standing with ⟨closed, resting⟩ | ⟨progress, rfl⟩
    · exact answered_write_resting resting closed ordinary careful.inShim before
    · exact answered_write_progress progress ordinary careful
  · cases classified : classifySql stmt.sql with
    | some cmd =>
      rcases standing with ⟨closed, resting⟩ | ⟨progress, rfl⟩
      · exact answered_control_resting forwards nonNull handle resting closed control classified
          careful before
      · exact answered_control_progress forwards progress control classified careful
    | none =>
      -- Skipped, and no transaction control: it is answered and nothing happens.
      have answered : attempt cfg w stmt env = ⟨.done, stmt, w, false, .skipped⟩ := by
        simp [attempt, careful.inShim, control.kind, controlAttempt, classified]
      have noted : g.note stmt = g := by
        rw [Ledger.note, control.kind, classified]
        rfl
      rw [answered]
      refine ⟨fun _ => ⟨?_, ?_⟩, fun failed => by cases failed⟩
      · rw [noted]
        exact standing.imp_right And.left
      · rintro ⟨cmd, -, some, -⟩
        rw [classified] at some
        cases some

/-! ### A call, and a run of calls -/

theorem Standing.unmoved (standing : Standing g before db conn w) {w' : World ω}
    (h : Unmoved w w') : Standing g before db conn w' := by
  rcases standing with ⟨closed, resting⟩ | ⟨progress, durable⟩
  · exact .inl ⟨closed, resting.tended (.of_unmoved h)⟩
  · exact .inr ⟨progress.unmoved h, h.durable.trans durable⟩

theorem Settled.unmoved (settled : Settled g before db conn stmt w) {w' : World ω}
    (h : Unmoved w w') : Settled g before db conn stmt w' where
  accounted := settled.accounted.imp
    (fun closed => ⟨closed.1, closed.2.tended (.of_unmoved h)⟩) fun progress => progress.unmoved h
  durable commits := by
    rw [h.durable]
    exact settled.durable commits

/-- **One call**: it is settled, or it failed and everything stands as before. -/
theorem outcome_answered (forwards : cfg.forwarding = true) (nonNull : conn ≠ 0) (handle : db ≠ 0)
    {s : Client ω} {r : Request ω} (accounted : Accounted s.ledger s.world db conn)
    (careful : CarefulCall cfg db conn s r) :
    ((s.outcome cfg r).rc.isError = false →
        Settled s.ledger s.world.durable db conn r.stmt (s.outcome cfg r).world) ∧
      ((s.outcome cfg r).rc.isError = true →
        Standing s.ledger s.world.durable db conn (s.outcome cfg r).world) := by
  let Inv (w : World ω) (stmt : Stmt ω) : Prop :=
    Standing s.ledger s.world.durable db conn w ∧ r.stmt.Like stmt ∧ Issued cfg db stmt
  let Post (c : Call ω) : Prop :=
    (c.rc.isError = false → Settled s.ledger s.world.durable db conn r.stmt c.world) ∧
      (c.rc.isError = true → Standing s.ledger s.world.durable db conn c.world)
  have start : Inv s.world r.stmt := by
    refine ⟨?_, .refl _, careful.1⟩
    exact accounted.imp_right fun progress => ⟨progress, rfl⟩
  refine AttemptsMeet.call Inv Post ?_ ?_ careful.2 start
  · rintro w stmt env ⟨standing, like, issued⟩ ok failed
    have answered := attempt_answered forwards nonNull handle standing issued ok
    obtain ⟨still, like', idle⟩ := answered.failure failed
    have unchanged : clearResult (attempt cfg w stmt env).world (attempt cfg w stmt env).stmt =
        ((attempt cfg w stmt env).world, (attempt cfg w stmt env).stmt.cleared) := by
      simp [clearResult, idle]
    rw [unchanged]
    exact ⟨still, (like.trans like').cleared, issued.retried like'⟩
  · rintro w stmt env mark ⟨standing, like, issued⟩ ok
    have answered := attempt_answered forwards nonNull handle standing issued ok
    have same := forgetError_unmoved (attempt cfg w stmt env).world (attempt cfg w stmt env).stmt
      (attempt cfg w stmt env).rc
    refine ⟨fun succeeded => ?_, fun failed => (answered.failure failed).1.unmoved same⟩
    have settled := (answered.success succeeded).unmoved same
    refine ⟨?_, fun commits => settled.durable ?_⟩
    · rw [← note_of_like like]
      exact settled.accounted
    · obtain ⟨cmd, skipped, classified, commits⟩ := commits
      exact ⟨cmd, like.same.1.trans skipped, (congrArg classifySql like.same.2.1).trans classified,
        commits⟩

/-- The account and the world agree after every call. -/
theorem call_accounted (forwards : cfg.forwarding = true) (nonNull : conn ≠ 0) (handle : db ≠ 0)
    (s : Client ω) (r : Request ω) (accounted : Accounted s.ledger s.world db conn)
    (careful : CarefulCall cfg db conn s r) :
    Accounted (s.call cfg r).ledger (s.call cfg r).world db conn := by
  obtain ⟨success, failure⟩ := outcome_answered forwards nonNull handle accounted careful
  rw [Client.call]
  dsimp only
  cases answer : (s.outcome cfg r).rc.isError with
  | false => exact (success answer).accounted
  | true => exact (failure answer).imp_right And.left

end

/-- **What a commit answered with success makes durable**: in every run of ordinary writes
and transaction control of one handle that meets the condition, from any world with no
transaction open, a command that commits and is answered with success makes every write
of the client's account durable. -/
theorem commit_is_durable (cfg : Config) (forwards : cfg.forwarding = true) {db : DbId}
    (handle : db ≠ 0) {conn : ConnId} (nonNull : conn ≠ 0) (s : Client ω)
    (nothingOpen : s.ledger.levels = [] ∧ Resting s.world conn) (calls : List (Request ω))
    (careful : Runs.Meets (Client.call cfg) (CarefulCall cfg db conn) s calls)
    {earlier : List (Request ω)} {r : Request ω} (reached : earlier ++ [r] <+: calls) :
    let s' := Runs.final (Client.call cfg) s earlier
    s'.ledger.isCommit r.stmt → (s'.outcome cfg r).rc.isError = false →
      ∃ committed, (s'.outcome cfg r).world.durable = s'.world.durable ++ committed ∧
        s'.ledger.writes <+ committed := by
  intro s' commits succeeded
  have met := careful.shorter reached
  rw [Runs.meets_append] at met
  have accounted : Accounted s'.ledger s'.world db conn :=
    met.1.invariant (fun s => Accounted s.ledger s.world db conn)
      (fun s r => call_accounted forwards nonNull handle s r) (.inl nothingOpen)
  obtain ⟨success, -⟩ := outcome_answered forwards nonNull handle accounted met.2.1
  exact (success succeeded).durable commits

/-! ### Two runs -/

/-- Transaction control is forwarded, and a call is retried twice. -/
def forwarding : Config := ⟨true, 2, false, false, false⟩

/-- A write of handle 7. -/
def update (effect : ℕ) (env : Env) : Request ℕ where
  stmt := .prepared .write "UPDATE t SET a = 1".toList (some "UPDATE t SET a = 1".toList) effect 7
  envs _ := env

/-- Transaction control of handle 7. -/
def control (sql : Text) (env : Env) : Request ℕ where
  stmt := .prepared .skipped sql none 0 7
  envs _ := env

theorem update_ordinary (effect : ℕ) (env : Env) :
    OrdinaryWrite forwarding 7 (update effect env).stmt := by
  refine ⟨rfl, rfl, rfl, "UPDATE t SET a = 1".toList, rfl, by decide, ?_, by decide⟩
  show isSpecialInsert "UPDATE t SET a = 1".toList [] = false
  decide

/-- The server refuses the write: a constraint is violated. -/
def Env.refusing (conn : ConnId) : Env :=
  { Env.calm conn with
    error := ⟨"23505".toList, []⟩
    write := { (Env.calm conn).write with exec := ⟨.refuse false, none⟩ } }

/-- A client with nothing open. -/
def Client.fresh : Client ℕ := ⟨.fresh, false, .closed⟩

/-- BEGIN, a write and COMMIT, with nothing going wrong. -/
def committedRun : List (Request ℕ) :=
  [control "BEGIN".toList (.calm 1), update 5 (.calm 1), control "COMMIT".toList (.calm 1)]

theorem careful_calm {conn : ConnId} {g : Ledger ℕ} {w : World ℕ} {stmt : Stmt ℕ}
    (sound : (w.link conn).status ≠ .inError) : Careful conn g w stmt (.calm conn) where
  inShim := rfl
  found := rfl
  holds _ := ⟨rfl, by simp [WriteEnv.Kept, Env.calm], fun _ => Fate.kept_fine⟩
  sound _ _ _ := ⟨fun _ => sound, rfl⟩

theorem commit_is_durable_of_one_write :
    Runs.Meets (Client.call forwarding) (CarefulCall forwarding 7 1) .fresh committedRun ∧
      ∃ committed, (Runs.final (Client.call forwarding) .fresh committedRun).world.durable =
        [] ++ committed ∧ [5] <+ committed := by
  have met : Runs.Meets (Client.call forwarding) (CarefulCall forwarding 7 1) .fresh
      committedRun := by
    exact ⟨⟨.inr ⟨rfl, rfl, rfl⟩, .of_first (careful_calm (by decide)) (by decide)⟩,
      ⟨.inl (update_ordinary 5 _), .of_first (careful_calm (by decide)) (by decide)⟩,
      ⟨.inr ⟨rfl, rfl, rfl⟩, .of_first (careful_calm (by decide)) (by decide)⟩, trivial⟩
  have whole : [control "BEGIN".toList (.calm 1), update 5 (.calm 1)] ++
      [control "COMMIT".toList (.calm 1)] <+: committedRun := List.prefix_rfl
  exact ⟨met, commit_is_durable forwarding rfl (by decide) (by decide) .fresh
    ⟨rfl, fun _ => rfl, quiet_of_not_inTransaction rfl, rfl⟩ committedRun met whole
    ⟨.commit, rfl, by decide, by decide⟩ (by decide)⟩

/-- BEGIN, a write, and another that the server refuses. -/
def abortedRun : List (Request ℕ) :=
  [control "BEGIN".toList (.calm 1), update 5 (.calm 1), update 6 (.refusing 1)]

/-- **A commit that loses a write.**  The first write is answered with success, the second
is refused, which aborts the transaction; COMMIT is answered with success, and nothing is
durable. -/
theorem commit_of_aborted :
    let s := Runs.final (Client.call forwarding) .fresh abortedRun
    let commit := control "COMMIT".toList (.calm 1)
    s.ledger.writes = [5] ∧ s.ledger.isCommit commit.stmt ∧
      (s.outcome forwarding commit).rc = .done ∧
      (s.outcome forwarding commit).world.durable = [] := by
  intro s commit
  exact ⟨by decide, ⟨.commit, rfl, by decide, by decide⟩, by decide, by decide⟩

end PlexPostgres.Step
