import PlexPostgres.Postgres.Writes
import PlexPostgres.Step.Durability

/-!
# How often a write is made

A call of a write may make several attempts.  An attempt that fails has, as a rule, not
made the write: the server refused it, or it was made in a transaction that is lost with
its connection.  The exception is a reply lost after the server made the write outside a
transaction.  The attempt then counts as failed, and the next one makes the write again
(`lost_reply_applied_twice`).

`applied_at_most_once`: if no attempt that is followed by another loses its reply in that
way, the effect of the statement is in the database at most once.
-/

namespace PlexPostgres.Step

open Postgres Txn

variable {ω : Type*}

/-! ### What follows the write -/

/-- Statements were sent that nobody looked at and that made no new list of writes. -/
structure Keeps (out out' : Outcome ω) : Prop where
  answer : out'.answer = out.answer
  committed : out'.committed = out.committed
  every : ∀ P : List ω → Prop, out.link.Every P → out'.link.Every P

variable {out out' : Outcome ω}

namespace Keeps

theorem trans {out'' : Outcome ω} (h : Keeps out out') (h' : Keeps out' out'') :
    Keeps out out'' where
  answer := h'.answer.trans h.answer
  committed := h'.committed.trans h.committed
  every P every := h'.every P (h.every P every)

/-- Another statement whose answer nobody looks at. -/
theorem followedBy (out : Outcome ω) {next : Link ω → Outcome ω}
    (keeps : ∀ P : List ω → Prop, ∀ l : Link ω, l.Every P →
      (next l).link.Every P ∧ (next l).committed = []) :
    Keeps out (out.followedBy next) where
  answer := rfl
  committed := by
    have nothing := (keeps (fun _ => True) out.link (Link.every_of_forall (by simp) _)).2
    simp [Outcome.followedBy, Outcome.andThen, nothing]
  every P every := (keeps P out.link every).1

theorem endSavepoint (name : Text) (out : Outcome ω) (rollbackTo release : Fate) :
    Keeps out (endSavepoint name out rollbackTo release) := by
  have back : ∀ out : Outcome ω,
    Keeps out (out.followedBy (·.exec (rollbackToSql name) rollbackTo)) :=
    fun out => .followedBy out fun _ _ every =>
      every.exec (parseControl_rollbackToSql name) rfl rollbackTo
  have released : ∀ out : Outcome ω,
    Keeps out (out.followedBy (·.exec (releaseSql name) release)) :=
    fun out => .followedBy out fun _ _ every =>
      every.exec (parseControl_releaseSql name) rfl release
  unfold Step.endSavepoint
  dsimp only
  split
  · exact released out
  · exact (back out).trans (released _)

end Keeps

variable {l : Link ω}

/-- The sequence update makes no new list and commits nothing. -/
theorem resyncSequence_every {P : List ω → Prop} (every : l.Every P) (inTxn : Bool)
    (env : WriteEnv) :
    (resyncSequence l inTxn env).link.Every P ∧ (resyncSequence l inTxn env).committed = [] := by
  have opened : ∀ set : Bool,
    ((if set then l.exec (savepointSql resyncSavepoint) env.resyncSavepoint
        else .nothing l : Outcome ω)).link.Every P ∧
      ((if set then l.exec (savepointSql resyncSavepoint) env.resyncSavepoint
        else .nothing l : Outcome ω)).committed = [] := by
    intro set
    cases set with
    | false => exact ⟨every, rfl⟩
    | true => exact every.exec (parseControl_savepointSql _) rfl _
  obtain ⟨kept, nothing⟩ := opened inTxn
  unfold resyncSequence
  dsimp only
  generalize (if inTxn then l.exec (savepointSql resyncSavepoint) env.resyncSavepoint
    else .nothing l : Outcome ω) = first at kept nothing
  obtain ⟨ranKept, ranNothing⟩ := kept.query env.resync
  have ran : (first.andThen (·.query env.resync)).link.Every P ∧
      (first.andThen (·.query env.resync)).committed = [] := by
    refine ⟨ranKept, ?_⟩
    simp [Outcome.andThen, nothing, ranNothing]
  split
  · have ended := Keeps.endSavepoint resyncSavepoint (first.andThen (·.query env.resync))
      env.resyncRollbackTo env.resyncRelease
    exact ⟨ended.every P ran.1, ended.committed.trans ran.2⟩
  · exact ran

/-! ### The write -/

section

variable [DecidableEq ω] {stmt : Stmt ω}

/-- What came of a write: it was made, or not. -/
def Decided (e : ω) (lost : Prop) (out : Outcome ω) : Prop :=
  (out.answer = .ok ∧ Made e out) ∨ ∃ result, out.answer = .failed result ∧ Unmade e out lost

theorem Decided.keeps {e : ω} {lost : Prop} (decided : Decided e lost out)
    (keeps : Keeps out out') : Decided e lost out' := by
  rcases decided with ⟨ok, made⟩ | ⟨result, failed, every, committed⟩
  · refine .inl ⟨keeps.answer.trans ok, made.imp ?_ ?_⟩
    · exact fun ⟨committed, every⟩ => ⟨keeps.committed.trans committed, keeps.every _ every⟩
    · exact fun ⟨committed, every⟩ => ⟨keeps.committed.trans committed, keeps.every _ every⟩
  · refine .inr ⟨result, keeps.answer.trans failed, keeps.every _ every, ?_⟩
    rwa [keeps.committed]

/-- The reply to a write is lost after the server made it. -/
def LostReply (env : WriteEnv) : Prop := ∃ noResult, env.exec.verdict = .lose true noResult

theorem runStatement_decided {opened : Outcome ω} (lacks : opened.link.Every (stmt.effect ∉ ·))
    (nothing : opened.committed = []) (env : WriteEnv) :
    Decided stmt.effect (LostReply env) (runStatement stmt opened env) := by
  have writes : ∀ planned : Outcome ω, planned.link.Every (stmt.effect ∉ ·) →
      planned.committed = [] →
      Decided stmt.effect (LostReply env) (planned.andThen (·.write stmt.effect env.exec)) := by
    intro planned lacks nothing
    have same : planned.andThen (·.write stmt.effect env.exec) =
        planned.link.write stmt.effect env.exec := by
      simp [Outcome.andThen, nothing]
    rw [same]
    exact Link.write_spec lacks env.exec
  unfold runStatement
  dsimp only
  split
  · obtain ⟨kept, plannedNothing⟩ := lacks.query env.prepare
    exact writes _ kept (by simp [Outcome.andThen, nothing, plannedNothing])
  · exact writes _ lacks nothing

/-- **Everything sent for a write** of an effect the connection does not hold. -/
theorem runWrite_decided (lacks : l.Every (stmt.effect ∉ ·)) (wraps inTxn : Bool) (env : WriteEnv) :
    Decided stmt.effect (LostReply env) (runWrite stmt l wraps inTxn env) := by
  have wrapped : Decided stmt.effect (LostReply env) (runWrapped stmt l wraps env) := by
    unfold runWrapped
    dsimp only
    cases wraps with
    | false => exact runStatement_decided lacks rfl env
    | true =>
      obtain ⟨kept, nothing⟩ :=
        lacks.exec (parseControl_savepointSql statementSavepoint) rfl env.savepoint
      have ran : Decided stmt.effect (LostReply env) (runStatement stmt
          (l.exec (savepointSql statementSavepoint) env.savepoint) env) :=
        runStatement_decided kept nothing env
      rw [if_pos rfl]
      split
      · exact ran.keeps (.endSavepoint _ _ _ _)
      · exact ran
  unfold runWrite
  dsimp only
  split
  · exact wrapped.keeps (.followedBy _ fun _ _ every => resyncSequence_every every inTxn env)
  · exact wrapped

end

/-! ### A write on a connection that is not idle -/

/-- The session is not idle: what is written there waits for a commit. -/
def Busy (l : Link ω) : Prop := l ≠ .up .idle

theorem Busy.send (busy : Busy l) {react : Session ω → Reply ω}
    (stays : ∀ aborted savepoints writes, ∃ aborted' savepoints' writes',
      (react (.inTxn aborted savepoints writes)).session = .inTxn aborted' savepoints' writes')
    (fate : Fate) : Busy (l.send false react fate).link := by
  cases isOk : l.isOk with
  | false =>
    rw [(Link.send_of_not_up isOk false react fate).2.1]
    exact busy
  | true =>
    obtain ⟨s, rfl⟩ := Link.exists_of_isOk isOk
    cases s with
    | idle => exact absurd rfl busy
    | inTxn aborted savepoints writes =>
      cases hv : fate.verdict with
      | accept =>
        obtain ⟨aborted', savepoints', writes', session⟩ := stays aborted savepoints writes
        rw [Link.send_accept _ false react hv, session]
        nofun
      | refuse ends =>
        rw [Link.send_refuse _ false react hv]
        nofun
      | lose applied noResult =>
        rw [Link.send_lose _ false react hv]
        nofun

theorem Busy.query (busy : Busy l) (fate : Fate) : Busy (l.query fate).link := by
  refine busy.send (fun aborted savepoints writes => ?_) fate
  cases aborted <;> exact ⟨_, _, _, rfl⟩

theorem Busy.savepoint (busy : Busy l) (name : Text) (fate : Fate) :
    Busy (l.exec (savepointSql name) fate).link := by
  rw [Link.exec_control (parseControl_savepointSql name) rfl]
  exact busy.send (Session.control_keeps rfl) fate

theorem Busy.write (busy : Busy l) (e : ω) (fate : Fate) :
    (l.write e fate).committed = [] := by
  cases isOk : l.isOk with
  | false => exact (Link.send_of_not_up isOk false (·.write e) fate).2.2
  | true =>
    obtain ⟨s, rfl⟩ := Link.exists_of_isOk isOk
    cases s with
    | idle => exact absurd rfl busy
    | inTxn aborted savepoints writes =>
      cases hv : fate.verdict with
      | accept => rw [Link.write, Link.send_accept _ _ _ hv]; cases aborted <;> rfl
      | refuse ends => rw [Link.write, Link.send_refuse _ _ _ hv]
      | lose applied noResult =>
        rw [Link.write, Link.send_lose _ _ _ hv]
        cases applied <;> cases aborted <;> rfl

/-- What is sent for a write over such a connection commits nothing. -/
theorem runWrite_committed_of_busy (busy : Busy l) (stmt : Stmt ω) (wraps inTxn : Bool)
    (env : WriteEnv) : (runWrite stmt l wraps inTxn env).committed = [] := by
  have trivially : ∀ l : Link ω, l.Every fun _ => True := Link.every_of_forall fun _ => trivial
  have statement : ∀ opened : Outcome ω, Busy opened.link → opened.committed = [] →
      (runStatement stmt opened env).committed = [] := by
    intro opened busy nothing
    unfold runStatement
    dsimp only
    split
    · simp [Outcome.andThen, nothing, ((trivially opened.link).query env.prepare).2,
        (busy.query env.prepare).write]
    · simp [Outcome.andThen, nothing, busy.write]
  have wrapped : (runWrapped stmt l wraps env).committed = [] := by
    unfold runWrapped
    dsimp only
    cases wraps with
    | false => exact statement (.nothing l) busy rfl
    | true =>
      have ran := statement _ (busy.savepoint statementSavepoint env.savepoint)
        ((trivially l).exec (parseControl_savepointSql _) rfl env.savepoint).2
      rw [if_pos rfl]
      split
      · exact (Keeps.endSavepoint _ _ _ _).committed.trans ran
      · exact ran
  unfold runWrite
  dsimp only
  split
  · refine (Keeps.followedBy _ fun _ _ every => ?_).committed.trans wrapped
    exact resyncSequence_every every inTxn env
  · exact wrapped

/-! ### Where an effect is -/

section

variable {e : ω} {w w' : World ω}

/-- **An effect is nowhere**: not durable, and in no list of writes. -/
def Absent (e : ω) (w : World ω) : Prop :=
  e ∉ w.durable ∧ ∀ d, (w.link d).Every (e ∉ ·)

theorem Absent.tended (absent : Absent e w) (h : Tended w w') : Absent e w' := by
  refine ⟨by rw [h.durable]; exact absent.1, fun d => ?_⟩
  rcases h.link d with same | fresh
  · rw [same]
    exact absent.2 d
  · exact Link.every_of_not_inTransaction fresh

/-- A statement that did not make the write. -/
theorem Absent.after_unmade (absent : Absent e w) {conn : ConnId} {link : Link ω}
    (lacks : link.Every (e ∉ ·)) : Absent e (w.after conn link []) := by
  refine ⟨by simpa using absent.1, fun d => ?_⟩
  by_cases here : d = conn
  · subst here
    rwa [World.after_link]
  · rw [after_link_of_ne w here]
    exact absent.2 d

variable [DecidableEq ω]

/-- **An effect is applied at most once**: what is durable and what waits for a commit on
some one connection have it once together, and no other connection has it. -/
def AtMostOnce (e : ω) (w : World ω) : Prop :=
  ∃ conn, (w.durable ++ (w.link conn).pending).count e ≤ 1 ∧
    ∀ d, d ≠ conn → e ∉ (w.link d).pending

theorem Absent.atMostOnce (absent : Absent e w) : AtMostOnce e w := by
  refine ⟨0, ?_, fun d _ => (absent.2 d).pending (by simp)⟩
  rw [List.count_eq_zero_of_not_mem]
  · decide
  · simpa using ⟨absent.1, (absent.2 0).pending (by simp)⟩

theorem AtMostOnce.tended (once : AtMostOnce e w) (h : Tended w w') : AtMostOnce e w' := by
  obtain ⟨conn, count, others⟩ := once
  refine ⟨conn, ?_, fun d other => ?_⟩
  · rw [h.durable]
    rcases h.link conn with same | fresh
    · rwa [same]
    · rw [Link.pending_of_not_inTransaction fresh, List.append_nil]
      rw [List.count_append] at count
      omega
  · rcases h.link d with same | fresh
    · rw [same]
      exact others d other
    · rw [Link.pending_of_not_inTransaction fresh]
      simp

/-- Everything sent for the write, on a connection. -/
theorem Absent.after (absent : Absent e w) (conn : ConnId) {lost : Prop}
    (decided : Decided e lost out) : AtMostOnce e (w.after conn out.link out.committed) := by
  refine ⟨conn, ?_, fun d other => ?_⟩
  · have before : w.durable.count e = 0 := List.count_eq_zero_of_not_mem absent.1
    have none : out.link.Every (e ∉ ·) → out.link.pending.count e = 0 := fun lacks =>
      List.count_eq_zero_of_not_mem (lacks.pending (by simp))
    rw [World.after_link, World.after_durable, List.count_append, List.count_append, before]
    rcases decided with ⟨-, ⟨committed, lacks⟩ | ⟨committed, atMost⟩⟩ | ⟨-, -, lacks, committed⟩
    · simp [committed, none lacks]
    · have pending : out.link.pending.count e ≤ 1 := atMost.pending (by simp)
      simpa [committed] using pending
    · rcases committed with committed | ⟨committed, -⟩
      · simp [committed, none lacks]
      · simp [committed, none lacks]
  · rw [after_link_of_ne w other]
    exact (absent.2 d).pending (by simp)

/-! ### One attempt -/

variable {cfg : Config} {stmt : Stmt ω} {env : Env}

/-- **The condition on an attempt that is followed by another**: it does not lose the reply
to a write the server made, or the write goes into the handle's open transaction, which
is lost with the connection. -/
def ReplySafe (cfg : Config) (w : World ω) (stmt : Stmt ω) (env : Env) : Prop :=
  ¬ LostReply env.write ∨ ∃ db conn, OrdinaryWrite cfg db stmt ∧ Pinned w db conn ∧
    (w.link conn).inTransaction = true ∧ (w.conns conn).streaming = false ∧
    env.connect.raced = false ∧ env.lookup.inResolve = false

theorem sent_decided (absent : Absent stmt.effect w) (conn : ConnId) :
    Decided stmt.effect (LostReply env.write) (sent cfg w stmt conn env) :=
  runWrite_decided (absent.2 conn) _ _ env.write

variable {pgSql : Text} {a : Attempt ω}

/-- A write attempt makes the write once at most. -/
theorem writeRan_once (absent : Absent stmt.effect w) (ran : WriteRan cfg w stmt pgSql env a) :
    AtMostOnce stmt.effect a.world := by
  cases ran with
  | again | terminator => exact absent.atMostOnce
  | special d =>
    unfold takeSequence
    split
    · obtain ⟨lacks, nothing⟩ := (absent.2 d).query env.write.sequence
      dsimp only
      rw [nothing]
      exact (absent.after_unmade lacks).atMostOnce
    · exact absent.atMostOnce
  | stats _ _ tended | noConnection _ _ tended => exact (absent.tended tended).atMostOnce
  | accepted d w' tended =>
    exact (absent.tended tended).after d (sent_decided (absent.tended tended) d)
  | refused d w' w'' tended isOk failed after =>
    exact ((absent.tended tended).after d (sent_decided (absent.tended tended) d)).tended after

/-- One that fails has not made it, unless its reply was lost. -/
theorem writeRan_failed (absent : Absent stmt.effect w) (ran : WriteRan cfg w stmt pgSql env a)
    (failed : a.rc.isError = true) (safe : ¬ LostReply env.write) : Absent stmt.effect a.world := by
  cases ran with
  | again | terminator | special | stats => cases failed
  | noConnection _ _ tended => exact absent.tended tended
  | accepted _ _ _ _ _ _ success =>
    rw [Rc.isError_of_isSuccess success] at failed
    cases failed
  | refused d w' w'' tended isOk answer after =>
    refine Absent.tended ?_ after
    have decided : Decided stmt.effect (LostReply env.write) (sent cfg w' stmt d env) :=
      sent_decided (absent.tended tended) d
    rcases decided with ⟨ok, -⟩ | ⟨result, -, lacks, committed⟩
    · rw [ok] at answer
      cases answer
    · rcases committed with nothing | ⟨-, lost⟩
      · rw [afterSent, nothing]
        exact (absent.tended tended).after_unmade lacks
      · exact absurd lost safe

/-- In the handle's transaction a write that fails is not made, however it failed. -/
theorem attempt_pinned_failed (absent : Absent stmt.effect w) {db : DbId} {conn : ConnId}
    (ordinary : OrdinaryWrite cfg db stmt) (pinned : Pinned w db conn)
    (isOpen : (w.link conn).inTransaction = true) (free : (w.conns conn).streaming = false)
    (alone : env.connect.raced = false) (inShim : env.lookup.inResolve = false)
    (failed : (attempt cfg w stmt env).rc.isError = true) :
    Absent stmt.effect (attempt cfg w stmt env).world := by
  have busy : Busy (w.link conn) := by
    intro idle
    rw [idle] at isOpen
    cases isOpen
  have nothing : (sent cfg w stmt conn env).committed = [] :=
    runWrite_committed_of_busy busy stmt _ _ env.write
  have decided : Decided stmt.effect (LostReply env.write) (sent cfg w stmt conn env) :=
    sent_decided absent conn
  rw [attempt_write_of_pinned pinned free ordinary inShim alone, afterSent, nothing] at failed ⊢
  generalize sent cfg w stmt conn env = out at decided failed ⊢
  rcases decided with ⟨ok, -⟩ | ⟨result, refused, lacks, -⟩
  · obtain ⟨rc, stmt', finished, success, -⟩ := finishWrite_spec
      (w.after conn out.link []) { stmt with conn } conn env.write.rows
    rw [ok, settleWrite, finished, Rc.isError_of_isSuccess success] at failed
    cases failed
  · obtain ⟨w', connError, answered, tended, -⟩ := failWrite_spec
      (w.after conn out.link []) { stmt with conn } conn result env
    rw [refused, settleWrite, answered]
    exact (absent.after_unmade lacks).tended tended

/-- **One attempt** makes the write once at most; and if it fails and the reply was not
lost, it has not made it. -/
theorem attempt_once (kind : stmt.kind = .write) (absent : Absent stmt.effect w) (env : Env) :
    AtMostOnce stmt.effect (attempt cfg w stmt env).world ∧
      stmt.Like (attempt cfg w stmt env).stmt ∧
      ((attempt cfg w stmt env).rc.isError = true → ReplySafe cfg w stmt env →
        Absent stmt.effect (attempt cfg w stmt env).world) := by
  -- Where nothing is sent, nothing is made.
  have unsent : ∀ {rc connError served} {w' : World ω}, Tended w w' →
      attempt cfg w stmt env = ⟨rc, stmt, w', connError, served⟩ →
      AtMostOnce stmt.effect (attempt cfg w stmt env).world ∧
        stmt.Like (attempt cfg w stmt env).stmt ∧
        ((attempt cfg w stmt env).rc.isError = true → ReplySafe cfg w stmt env →
          Absent stmt.effect (attempt cfg w stmt env).world) := by
    intro rc connError served w' tended answered
    rw [answered]
    exact ⟨(absent.tended tended).atMostOnce, .refl stmt, fun _ _ => absent.tended tended⟩
  cases inShim : env.lookup.inResolve with
  | true => exact unsent (.refl w) (attempt_of_inResolve cfg w stmt inShim)
  | false =>
    cases text : stmt.pgSql with
    | none =>
      obtain ⟨w', unmoved, answered⟩ :=
        attempt_of_untranslated cfg w (.inl kind) text inShim
      exact unsent (.of_unmoved unmoved) answered
    | some pgSql =>
      obtain ⟨w', tended, ran⟩ := attempt_write_ran cfg w kind text inShim
      rcases ran with none | ran
      · exact unsent tended none
      · refine ⟨writeRan_once (absent.tended tended) ran, ran.like, fun failed safe => ?_⟩
        rcases safe with kept | ⟨db, conn, ordinary, pinned, isOpen, free, alone, -⟩
        · exact writeRan_failed (absent.tended tended) ran failed kept
        · exact attempt_pinned_failed absent ordinary pinned isOpen free alone inShim failed

end

/-! ### The call -/

/-- **The effect of a write is applied at most once** in a call, however often it is
retried, if no attempt that is followed by another loses the reply to a write made outside
a transaction. -/
theorem applied_at_most_once [DecidableEq ω] (cfg : Config) {w : World ω} (mark : Bool)
    {stmt : Stmt ω} (kind : stmt.kind = .write) (absent : Absent stmt.effect w) (envs : ℕ → Env)
    (safe : EachRetried cfg (ReplySafe cfg) w mark stmt envs) :
    AtMostOnce stmt.effect (step cfg w mark stmt envs).world := by
  let Inv (w : World ω) (s : Stmt ω) : Prop :=
    Absent stmt.effect w ∧ s.kind = .write ∧ s.effect = stmt.effect
  let Post (c : Call ω) : Prop := AtMostOnce stmt.effect c.world
  refine AttemptsMeet.call Inv Post ?_ ?_ safe ⟨absent, kind, rfl⟩
  · rintro w s env ⟨absent, kind, effect⟩ safe failed
    rw [← effect] at absent
    obtain ⟨-, like, unmade⟩ := attempt_once kind absent env
    obtain ⟨sameKind, -, -, sameEffect, -⟩ := like.cleared.same
    refine ⟨?_, sameKind.trans kind, sameEffect.trans effect⟩
    rw [← effect]
    exact (unmade failed safe).tended (clearResult_looks _ _).tended
  · rintro w s env mark ⟨absent, kind, effect⟩ -
    rw [← effect] at absent
    have once : AtMostOnce s.effect (attempt cfg w s env).world :=
      (attempt_once kind absent env).1
    rw [effect] at once
    exact once.tended (.of_unmoved (forgetError_unmoved _ _ _))

/-- The connection is lost with the write, before the server made it or after. -/
def Env.losing (conn : ConnId) (applied : Bool) : Env :=
  { Env.calm conn with
    write := { (Env.calm conn).write with exec := ⟨.lose applied true, none⟩ } }

/-- The first attempt loses the connection, the second meets nothing. -/
def onceLost (applied : Bool) (i : ℕ) : Env := if i = 0 then .losing 1 applied else .calm 1

theorem applied_at_most_once_not_made :
    AtMostOnce 5 (step forwarding World.fresh false (update 5 (.calm 1)).stmt
      (onceLost false)).world := by
  have absent : Absent (update 5 (.calm 1)).stmt.effect (World.fresh : World ℕ) :=
    ⟨by decide, fun _ => trivial⟩
  refine applied_at_most_once forwarding false rfl absent (onceLost false) ?_
  refine ⟨fun _ => trivial, fun _ => ⟨.inl ?_, fun _ => trivial, fun again => ?_⟩⟩
  · rintro ⟨noResult, lost⟩
    cases lost
  · exact absurd again (by decide)

/-- **A lost reply.**  The server makes the write and the reply is lost; the connection is
reset and the write made once more.  The call is answered with success, and the effect
is there twice. -/
theorem lost_reply_applied_twice :
    let done := step forwarding World.fresh false (update 5 (.calm 1)).stmt (onceLost true)
    Absent 5 (World.fresh : World ℕ) ∧ done.rc = .done ∧ done.world.durable = [5, 5] := by
  exact ⟨⟨by decide, fun _ => trivial⟩, by decide, by decide⟩

end PlexPostgres.Step
