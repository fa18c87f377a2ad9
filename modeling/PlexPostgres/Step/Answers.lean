import PlexPostgres.Step.Durability

/-!
# What a successful answer stands for

A statement registered for PostgreSQL is stepped, asked for its columns and reset, in any
order.  `SQLITE_ROW` and `SQLITE_DONE` ought to say that PostgreSQL accepted it since the
last reset, or that a skip rule of the write path applied.  An attempt has ways out that
say neither: a write without a connection is answered as done (`done_without_connection`),
a read without one is left to the shadow statement, a stream without a first result is
answered as empty, and a statement that failed is marked as executed, so that the next
step of it is done.

`success_is_backed`: in every run that keeps clear of those, no call is left to the shadow
statement, and each one that succeeds is backed.
-/

namespace PlexPostgres.Step

open Postgres Txn

variable {ω : Type*}

/-- A statement that PostgreSQL is to run, with translated text. -/
structure Stmt.Translated (stmt : Stmt ω) : Prop where
  kind : stmt.kind = .write ∨ stmt.kind = .read
  text : stmt.pgSql.isSome = true

/-- **The marks of an execution**, by which a step goes on with it. -/
def Stmt.Marked (stmt : Stmt ω) : Prop :=
  stmt.writeExecuted = true ∨ stmt.readDone = true ∨ stmt.streaming.isSome = true ∨
    stmt.result.any (!·.metadataOnly) = true

theorem Stmt.not_marked_cleared (stmt : Stmt ω) : ¬ stmt.cleared.Marked := by
  simp [Stmt.Marked, Stmt.cleared]

/-- **An attempt that does not mislead**: it fails, or it succeeds and the statement was
served, now or `earlier`. -/
structure Justified (earlier : Bool) (stmt : Stmt ω) (a : Attempt ω) : Prop where
  answer : a.rc = .error ∨ a.rc.isSuccess = true ∧ (earlier = true ∨ a.served ≠ .no)
  kind : a.stmt.kind = stmt.kind
  text : a.stmt.pgSql = stmt.pgSql
  sql : a.stmt.sql = stmt.sql

namespace Justified

variable {earlier : Bool} {stmt stmt' : Stmt ω} {a : Attempt ω}

theorem of_stmt (justified : Justified earlier stmt' a) (kind : stmt'.kind = stmt.kind)
    (text : stmt'.pgSql = stmt.pgSql) (sql : stmt'.sql = stmt.sql) : Justified earlier stmt a :=
  ⟨justified.answer, justified.kind.trans kind, justified.text.trans text,
    justified.sql.trans sql⟩

theorem translated (justified : Justified earlier stmt a) (translated : stmt.Translated) :
    a.stmt.Translated where
  kind := by
    rw [justified.kind]
    exact translated.kind
  text := by
    rw [justified.text]
    exact translated.text

end Justified

/-! ### Reads -/

section

variable {earlier : Bool} (w : World ω) (stmt : Stmt ω) (conn : ConnId) (env : Env)

/-- Whatever the transaction on the connection, may the rows be streamed? -/
def mayStream (cfg : Config) (stmt : Stmt ω) (env : ReadEnv) : Bool :=
  !cfg.disableStreaming && !stmt.needsRequery && !stmt.limitOne && !env.otherStreaming &&
    env.singleRow

theorem mayStream_of_usesStreaming {cfg : Config} {w : World ω} {stmt : Stmt ω} {conn : ConnId}
    {env : ReadEnv} (uses : usesStreaming cfg w stmt conn env = true) :
    mayStream cfg stmt env = true := by
  simp only [usesStreaming, Bool.and_eq_true] at uses
  simp only [mayStream, Bool.and_eq_true]
  tauto

/-- **The first result is there**, if it is to be the first of a stream. -/
def FirstResult (cfg : Config) (stmt : Stmt ω) (env : ReadEnv) : Prop :=
  mayStream cfg stmt env = true → ∀ applied, env.exec.verdict ≠ .lose applied true

/-- The first step of a read sends it, or fails.  A stream is answered as empty without having
been accepted when there is no result at all, and only then. -/
theorem firstExecute_justified {cfg : Config} (first : FirstResult cfg stmt env.read) :
    Justified earlier stmt (firstExecute cfg w stmt conn env) := by
  have ran := firstExecute_ran cfg w stmt conn env
  generalize firstExecute cfg w stmt conn env = a at ran ⊢
  cases ran with
  | failed s w connError like =>
    have same := like.same
    exact ⟨.inl rfl, same.1, same.2.2.1, same.2.1⟩
  | missing conn w w' uses applied lost =>
    exact absurd lost (first (mayStream_of_usesStreaming uses) applied)
  | empty s w zero like =>
    have same := like.same
    exact ⟨.inr ⟨rfl, .inr (by simp)⟩, same.1, same.2.2.1, same.2.1⟩
  | streams | fetched => exact ⟨.inr ⟨rfl, .inr (by simp)⟩, rfl, rfl, rfl⟩

/-- A later step hands out rows of an execution that was served. -/
theorem streamingNext_justified : Justified true stmt (streamingNext w stmt conn env) := by
  unfold streamingNext
  dsimp only
  split
  · exact ⟨.inr ⟨rfl, .inl rfl⟩, rfl, rfl, rfl⟩
  split
  · exact ⟨.inr ⟨rfl, .inl rfl⟩, rfl, rfl, rfl⟩
  · exact ⟨.inr ⟨rfl, .inl rfl⟩, rfl, rfl, rfl⟩
  · exact ⟨.inl rfl, rfl, rfl, rfl⟩
  · exact ⟨.inl rfl, rfl, rfl, rfl⟩

theorem eagerNext_justified (rows : Rows) : Justified true stmt (eagerNext w stmt rows) := by
  unfold eagerNext
  split
  · exact ⟨.inr ⟨rfl, .inl rfl⟩, rfl, rfl, rfl⟩
  · exact ⟨.inr ⟨rfl, .inl rfl⟩, rfl, rfl, rfl⟩

/-- What is kept of an execution in progress: no new mark, and no rows that were fetched
for the metadata only. -/
theorem prepareReexecution_spec {s : Stmt ω} (kept : (prepareReexecution w stmt conn).2 = s) :
    s.kind = stmt.kind ∧ s.pgSql = stmt.pgSql ∧ s.sql = stmt.sql ∧
      (s.streaming.isSome = true ∨ s.result.isSome = true → stmt.Marked) ∧
      ∀ cfg env, FirstResult cfg stmt env → FirstResult cfg s env := by
  subst kept
  have dropped (s : Stmt ω) (marked : s.Marked → stmt.Marked)
      (first : ∀ cfg env, FirstResult cfg stmt env → FirstResult cfg s env)
      (kind : s.kind = stmt.kind) (text : s.pgSql = stmt.pgSql) (sql : s.sql = stmt.sql) :
      let s' := if s.result.any (·.metadataOnly) = true then { s with result := none } else s
      s'.kind = stmt.kind ∧ s'.pgSql = stmt.pgSql ∧ s'.sql = stmt.sql ∧
        (s'.streaming.isSome = true ∨ s'.result.isSome = true → stmt.Marked) ∧
        ∀ cfg env, FirstResult cfg stmt env → FirstResult cfg s' env := by
    dsimp only
    split
    · refine ⟨kind, text, sql, ?_, first⟩
      rintro (streams | rows)
      · exact marked (.inr (.inr (.inl streams)))
      · cases rows
    next fetched =>
      refine ⟨kind, text, sql, ?_, first⟩
      rintro (streams | rows)
      · exact marked (.inr (.inr (.inl streams)))
      · obtain ⟨r, holds⟩ := Option.isSome_iff_exists.mp rows
        exact marked (.inr (.inr (.inr (by simpa [holds] using fetched))))
  unfold prepareReexecution
  dsimp only
  split
  · refine dropped _ (fun marked => absurd marked (Stmt.not_marked_cleared _)) ?_ rfl rfl rfl
    intro cfg env _ streams
    simp [clearResult, Stmt.cleared, mayStream] at streams
  split
  · exact dropped _ (fun marked => marked) (fun _ _ first => first) rfl rfl rfl
  · exact dropped stmt (fun marked => marked) (fun _ _ first => first) rfl rfl rfl

/-- **A read attempt on a connection.** -/
theorem readAttempt_justified {cfg : Config} (first : FirstResult cfg stmt env.read)
    (backed : stmt.Marked → earlier = true) :
    Justified earlier stmt (readAttempt cfg w stmt conn env) := by
  unfold readAttempt
  split
  next isDone => exact ⟨.inr ⟨rfl, .inl (backed (.inr (.inl isDone)))⟩, rfl, rfl, rfl⟩
  · split
    next w' s kept =>
      obtain ⟨kind, text, sql, marked, still⟩ :=
        prepareReexecution_spec w stmt conn (congrArg Prod.snd kept)
      split
      next source streams =>
        rw [backed (marked (.inl (by simp [streams])))]
        exact (streamingNext_justified w' s source env).of_stmt kind text sql
      next rows _ holds =>
        rw [backed (marked (.inr (by simp [holds])))]
        exact (eagerNext_justified w' s rows).of_stmt kind text sql
      · exact (firstExecute_justified w' s conn env (still cfg env.read first)).of_stmt
          kind text sql

end

/-! ### One attempt -/

/-- **The condition on an attempt**: the shim is in charge, a connection is found, the
statement is not an update of the statistics that the settings drop, and a stream begins
with a result. -/
structure Answerable (cfg : Config) (w : World ω) (stmt : Stmt ω) (env : Env) : Prop where
  inShim : env.lookup.inResolve = false
  connected : (chooseConn w stmt env.lookup).1 ≠ 0
  kept : stmt.kind = .write → cfg.skipStatsResources = true →
    stmt.pgSql.any isStatsResourcesUpdate = false
  first : FirstResult cfg stmt env.read

variable {mark : Bool} {envs : ℕ → Env}

section

variable {cfg : Config} {earlier : Bool} {w : World ω} {stmt : Stmt ω} {env : Env}

/-- The attempt is one of a write or of a read, on the connection that is found. -/
theorem Answerable.attempt_eq (ok : Answerable cfg w stmt env) (translated : stmt.Translated) :
    ∃ pgSql conn w', stmt.pgSql = some pgSql ∧ chooseConn w stmt env.lookup = (conn, w') ∧
      (stmt.kind = .write → attempt cfg w stmt env = writeAttempt cfg w' stmt pgSql conn env) ∧
      (stmt.kind = .read → attempt cfg w stmt env = readAttempt cfg w' stmt conn env) := by
  obtain ⟨pgSql, text⟩ := Option.isSome_iff_exists.mp translated.text
  refine ⟨pgSql, _, _, text, rfl, fun kind => ?_, fun kind => ?_⟩
  · exact attempt_write_of_chosen cfg kind text ok.inShim rfl ok.connected
  · exact attempt_read_of_chosen kind text ok.inShim rfl ok.connected

theorem writeRan_justified {pgSql : Text} (text : stmt.pgSql = some pgSql)
    (kept : cfg.skipStatsResources = true → stmt.pgSql.any isStatsResourcesUpdate = false)
    (backed : stmt.Marked → earlier = true) {a : Attempt ω}
    (ran : WriteRan cfg w stmt pgSql env a) : Justified earlier stmt a := by
  have same := ran.like.same
  refine ⟨?_, same.1, same.2.2.1, same.2.1⟩
  cases ran with
  | again executed => exact .inr ⟨rfl, .inl (backed (.inl executed))⟩
  | terminator | special => exact .inr ⟨rfl, .inr (by simp)⟩
  | stats _ _ _ asked applies =>
    rw [text] at kept
    simp [applies] at kept
    rw [kept] at asked
    cases asked
  | noConnection | refused => exact .inl rfl
  | accepted _ _ _ _ _ _ success => exact .inr ⟨success, .inr (by simp)⟩

/-- **One attempt**: what it answers is justified. -/
theorem attempt_justified (translated : stmt.Translated) (ok : Answerable cfg w stmt env)
    (backed : stmt.Marked → earlier = true) : Justified earlier stmt (attempt cfg w stmt env) := by
  obtain ⟨pgSql, conn, w', text, -, write, read⟩ := ok.attempt_eq translated
  rcases translated.kind with kind | kind
  · rw [write kind]
    exact writeRan_justified text (ok.kept kind) backed (writeAttempt_ran cfg w' text conn env)
  · rw [read kind]
    exact readAttempt_justified w' stmt conn env ok.first backed

/-- **A whole call**: however often it is retried, it fails, or it succeeds and the
statement was served. -/
theorem step_justified (translated : stmt.Translated) (backed : stmt.Marked → earlier = true)
    (each : EachAttempt cfg (Answerable cfg) w mark stmt envs) :
    let c := step cfg w mark stmt envs
    (c.rc = .error ∨ c.rc.isSuccess = true ∧ (earlier = true ∨ c.served ≠ .no)) ∧
      c.stmt.Translated := by
  -- Before every attempt the marks left on the statement are those of an execution served
  -- earlier: the marks of a failed attempt are cleared before the next.
  refine AttemptsMeet.call (fun _ s => s.Translated ∧ (s.Marked → earlier = true))
    (fun c => (c.rc = .error ∨ c.rc.isSuccess = true ∧ (earlier = true ∨ c.served ≠ .no)) ∧
      c.stmt.Translated) ?_ ?_ each ⟨translated, backed⟩
  · intro w s env before ok _
    have justified := attempt_justified before.1 ok before.2
    have after := justified.translated before.1
    exact ⟨⟨after.kind, after.text⟩, fun marked => absurd marked (Stmt.not_marked_cleared _)⟩
  · intro w s env mark before ok
    have justified := attempt_justified before.1 ok before.2
    exact ⟨justified.answer, justified.translated before.1⟩

end

/-! ### A statement and its uses -/

/-- **A statement between two resets**: whether it was served since the last one, and
whether a step of it failed. -/
structure Execution (ω : Type*) where
  stmt : Stmt ω
  served : Bool
  failed : Bool

/-- What is done with a statement.  A call may find any world: other statements and other
threads run in between. -/
inductive Use (ω : Type*) where
  /-- `sqlite3_reset`. -/
  | reset
  /-- A column is asked for before the first step: rows are fetched for the metadata. -/
  | metadata (conn : ConnId) (rows : ℕ)
  | step (w : World ω) (mark : Bool) (envs : ℕ → Env)

namespace Execution

variable {cfg : Config}

/-- As prepared. -/
def start (stmt : Stmt ω) : Execution ω := ⟨stmt.cleared, false, false⟩

/-- **One use.** -/
def next (cfg : Config) (e : Execution ω) : Use ω → Execution ω
  | .reset => start e.stmt
  | .metadata conn rows =>
    if e.stmt.result.isSome then e
    else { e with stmt :=
      { e.stmt with result := some ⟨0, rows, true⟩, resultConn := conn } }
  | .step w mark envs =>
    let c := Step.step cfg w mark e.stmt envs
    ⟨c.stmt, e.served || c.served ≠ .no, e.failed || c.rc.isError⟩

/-- **The condition on a use**: a statement is stepped only while the marks on it, if there
are any, are not those of a failed execution, and each attempt is answerable. -/
def UseOk (cfg : Config) (e : Execution ω) : Use ω → Prop
  | .reset | .metadata _ _ => True
  | .step w mark envs =>
    (e.stmt.Marked → e.failed = false) ∧
      EachAttempt cfg (Answerable cfg) w mark e.stmt envs

/-- The marks on a statement that has not failed are those of an execution that was
served. -/
structure Sound (e : Execution ω) : Prop where
  translated : e.stmt.Translated
  backed : e.failed = false → e.stmt.Marked → e.served = true

theorem sound_start {stmt : Stmt ω} (translated : stmt.Translated) : (start stmt).Sound where
  translated := ⟨translated.kind, translated.text⟩
  backed _ marked := absurd marked (Stmt.not_marked_cleared stmt)

/-- **A step that meets the condition** fails, or succeeds and is backed. -/
theorem Sound.step {e : Execution ω} (sound : e.Sound) {w : World ω}
    (ok : UseOk cfg e (.step w mark envs)) :
    let c := Step.step cfg w mark e.stmt envs
    (c.rc = .error ∨ c.rc.isSuccess = true ∧ (e.served = true ∨ c.served ≠ .no)) ∧
      c.stmt.Translated :=
  step_justified sound.translated (fun marked => sound.backed (ok.1 marked) marked) ok.2

/-- Every use keeps it so. -/
theorem Sound.next {e : Execution ω} (sound : e.Sound) {use : Use ω} (ok : UseOk cfg e use) :
    (e.next cfg use).Sound := by
  cases use with
  | reset => exact sound_start sound.translated
  | metadata conn rows =>
    rw [Execution.next]
    split
    · exact sound
    next absent =>
      refine ⟨⟨sound.translated.kind, sound.translated.text⟩, fun unfailed marked => ?_⟩
      refine sound.backed unfailed ?_
      have empty : e.stmt.result = none := by simpa using absent
      -- Rows fetched for the metadata are no mark.
      simpa [Stmt.Marked, empty] using marked
  | step w mark envs =>
    obtain ⟨answer, translated⟩ := sound.step ok
    refine ⟨translated, fun unfailed _ => ?_⟩
    rcases answer with failed | ⟨-, served⟩
    · simp [Execution.next, failed, Rc.isError] at unfailed
    · simpa [Execution.next] using served

end Execution

open Execution in
/-- **A successful answer is backed**: in every run of uses that meet the condition, a step
is never left to the shadow statement, and one that answers `SQLITE_ROW` or `SQLITE_DONE`
is of a statement that PostgreSQL accepted, or a skip rule of the write path answered,
since the last reset. -/
theorem success_is_backed (cfg : Config) (stmt : Stmt ω) (translated : stmt.Translated)
    (uses : List (Use ω)) (meets : Runs.Meets (next cfg) (UseOk cfg) (start stmt) uses)
    (earlier : List (Use ω)) (w : World ω) (mark : Bool) (envs : ℕ → Env)
    (reached : earlier ++ [.step w mark envs] <+: uses) :
    let e := Runs.final (next cfg) (start stmt) earlier
    let c := Step.step cfg w mark e.stmt envs
    (∀ fails, c.rc ≠ .shadow fails) ∧
      (c.rc.isSuccess = true → (e.next cfg (.step w mark envs)).served = true) := by
  obtain ⟨before, now⟩ := (Runs.meets_append _ _ _).mp (meets.shorter reached)
  have sound : (Runs.final (next cfg) (start stmt) earlier).Sound :=
    before.invariant Sound (fun _ _ sound ok => sound.next ok) (sound_start translated)
  obtain ⟨answer, -⟩ := sound.step now.1
  refine ⟨fun fails shadow => ?_, fun success => ?_⟩
  · rcases answer with failed | ⟨success, -⟩
    · rw [failed] at shadow
      cases shadow
    · rw [shadow] at success
      cases success
  · rcases answer with failed | ⟨-, served⟩
    · rw [failed] at success
      cases success
    · simpa [Execution.next] using served

/-- A read of handle 7. -/
def selection : Stmt ℕ :=
  .prepared .read "SELECT a FROM t".toList (some "SELECT a FROM t".toList) 0 7

/-- One row to read, and nothing goes wrong. -/
def Env.oneRow (conn : ConnId) : Env :=
  { Env.calm conn with read := { (Env.calm conn).read with rows := 1 } }

/-- The columns are asked for, then the row is taken, then the end. -/
def readThrough : List (Use ℕ) :=
  [.metadata 1 0, .step .fresh false fun _ => .oneRow 1, .step .fresh false fun _ => .oneRow 1]

theorem answerable_oneRow {w : World ℕ} {stmt : Stmt ℕ} (kind : stmt.kind = .read)
    (connected : (chooseConn w stmt (Env.oneRow 1).lookup).1 ≠ 0) :
    Answerable forwarding w stmt (.oneRow 1) where
  inShim := rfl
  connected := connected
  kept write := by
    rw [kind] at write
    cases write
  first _ applied lost := by cases lost

theorem success_is_backed_of_read :
    Runs.Meets (Execution.next forwarding) (Execution.UseOk forwarding) (.start selection)
      readThrough ∧
      (Runs.final (Execution.next forwarding) (.start selection) readThrough).served = true := by
  have met : Runs.Meets (Execution.next forwarding) (Execution.UseOk forwarding)
      (.start selection) readThrough :=
    ⟨trivial,
      ⟨fun _ => rfl, .of_first (answerable_oneRow rfl (by decide)) (by decide)⟩,
      ⟨fun _ => rfl, .of_first (answerable_oneRow rfl (by decide)) (by decide)⟩, trivial⟩
  have backed := success_is_backed forwarding selection ⟨.inr rfl, rfl⟩ readThrough met
    [.metadata 1 0, .step .fresh false fun _ => .oneRow 1] .fresh false (fun _ => .oneRow 1)
    List.prefix_rfl
  exact ⟨met, backed.2 (by decide)⟩

/-- No lookup finds a connection. -/
def Env.unconnected : Env :=
  { Env.calm 0 with lookup := ⟨false, false, true, 0, false, 0⟩ }

/-- **Success without a connection.**  A fresh write for which no connection is found is
answered as done: nothing was sent and no skip rule applied. -/
theorem done_without_connection :
    let e : Execution ℕ := .start (update 5 .unconnected).stmt
    let c := step forwarding World.fresh false e.stmt fun _ => .unconnected
    e.stmt.Translated ∧ c.rc = .done ∧ c.world.durable = [] ∧
      (e.next forwarding (.step .fresh false fun _ => .unconnected)).served = false := by
  exact ⟨⟨.inl rfl, rfl⟩, by decide, by decide, by decide⟩

end PlexPostgres.Step
