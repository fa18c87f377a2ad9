import PlexPostgres.Step.Progress

/-!
# The transaction a BEGIN opened

A transaction without savepoints of the handle's own: the writes issued in it are either
all in the session's transaction, or that is aborted, or it is gone.
-/

namespace PlexPostgres.Step

open Postgres Txn
open Registry (stateOf)

variable {ω : Type*}

/-! ### A write that fails aborts the transaction -/

section

variable (savepoints : List (Savepoint ω)) (writes : List ω) (stmt : Stmt ω) {env : WriteEnv}

variable {wraps : Bool} {result : Option (Option Text)}

theorem runWrapped_failed (aborted : Bool) (kept : env.Kept)
    (accepted : wraps = true → env.prepare.verdict = .accept ∧ env.exec.verdict = .accept)
    (failed : (runWrapped stmt (.up (.inTxn aborted savepoints writes)) wraps env).answer =
      .failed result) :
    (runWrapped stmt (.up (.inTxn aborted savepoints writes)) wraps env).link.status =
      .inError := by
  cases wraps with
  | false =>
    have plain : runWrapped stmt (.up (.inTxn aborted savepoints writes)) false env =
        runStatement stmt ⟨.ok, .up (.inTxn aborted savepoints writes), []⟩ env := rfl
    rw [plain, runStatement_inTxn aborted savepoints writes stmt kept] at failed ⊢
    split at failed
    · cases failed
    next refused => rw [if_neg refused]; rfl
  | true =>
    have takes : env.Takes stmt := ⟨fun _ => (accepted rfl).1, (accepted rfl).2⟩
    rw [runWrapped_wrapped aborted savepoints writes stmt kept, if_pos takes] at failed ⊢
    split at failed
    · cases failed
    next refused => rw [if_neg refused]; rfl

/-- **A write that fails leaves the transaction aborted.** -/
theorem runWrite_failed (aborted : Bool) (kept : env.Kept) (inTxn : Bool)
    (accepted : wraps = true → env.prepare.verdict = .accept ∧ env.exec.verdict = .accept)
    (failed : (runWrite stmt (.up (.inTxn aborted savepoints writes)) wraps inTxn env).answer =
      .failed result) :
    (runWrite stmt (.up (.inTxn aborted savepoints writes)) wraps inTxn env).link.status =
      .inError := by
  have answer : (runWrite stmt (.up (.inTxn aborted savepoints writes)) wraps inTxn env).answer =
      (runWrapped stmt (.up (.inTxn aborted savepoints writes)) wraps env).answer := by
    unfold runWrite
    dsimp only
    split
    · rfl
    · rfl
  rw [answer] at failed
  have same : runWrite stmt (.up (.inTxn aborted savepoints writes)) wraps inTxn env =
      runWrapped stmt (.up (.inTxn aborted savepoints writes)) wraps env := by
    simp [runWrite, failed]
  rw [same]
  exact runWrapped_failed savepoints writes stmt aborted kept accepted failed

end

/-! ### The transaction is there, or it is not -/

/-- **The transaction BEGIN opened is there**: it is recorded for the handle, and it has
all the writes issued unless it is aborted. -/
structure Inside (w : World ω) (db : DbId) (conn : ConnId) (issued : List ω) : Prop
    extends Pinned w db conn where
  frames : (w.registry.stateOf conn).frames = [.outer true]
  others : ∀ d, d ≠ conn → w.registry.byConn d = none
  session : ∃ aborted savepoints writes, w.link conn = .up (.inTxn aborted savepoints writes) ∧
    (aborted = false → writes = issued)

/-- **It is not**: the connection is in no transaction, whatever the registry has recorded
for it. -/
structure Gone (w : World ω) (conn : ConnId) : Prop where
  frames : (w.registry.stateOf conn).frames = [] ∨ (w.registry.stateOf conn).frames = [.outer true]
  others : ∀ d, d ≠ conn → w.registry.byConn d = none
  notOpen : (w.link conn).inTransaction = false

variable {cfg : Config} {w w' : World ω} {db : DbId} {conn : ConnId} {issued : List ω}

/-- A connection that is no longer in a transaction. -/
theorem gone_of_tended (frames : (w.registry.stateOf conn).frames = [] ∨
      (w.registry.stateOf conn).frames = [.outer true])
    (others : ∀ d, d ≠ conn → w.registry.byConn d = none) (h : Tended w w')
    (notOpen : (w'.link conn).inTransaction = false) : Gone w' conn where
  frames := by
    rcases h.byConn conn with same | none
    · rw [stateOf, same]
      exact frames
    · rw [stateOf, none]
      exact .inl rfl
  others d other := by
    rcases h.byConn d with same | none
    · rw [same]
      exact others d other
    · exact none
  notOpen := notOpen

theorem Gone.tended (gone : Gone w conn) (h : Tended w w') : Gone w' conn := by
  refine gone_of_tended gone.frames gone.others h ?_
  rcases h.link conn with same | fresh
  · rw [same]
    exact gone.notOpen
  · exact fresh

namespace Inside

section

variable (inside : Inside w db conn issued)
include inside

theorem gone (h : Tended w w') (fresh : (w'.link conn).inTransaction = false) : Gone w' conn :=
  gone_of_tended (.inr inside.frames) inside.others h fresh

/-- Nothing that counts here has changed. -/
theorem congr (w' : World ω) (active : (w'.conns conn).active = true)
    (byConn : w'.registry.byConn conn = w.registry.byConn conn)
    (others : ∀ d, d ≠ conn → w'.registry.byConn d = none)
    (pins : w'.registry.pins db = w.registry.pins db) {issued' : List ω}
    (session : ∃ aborted savepoints writes,
      w'.link conn = .up (.inTxn aborted savepoints writes) ∧
        (aborted = false → writes = issued')) :
    Inside w' db conn issued' where
  nonNull := inside.nonNull
  handle := inside.handle
  pin := pins.trans inside.pin
  isOpen := by rw [stateOf, byConn]; exact inside.isOpen
  owner := by rw [stateOf, byConn]; exact inside.owner
  active := active
  isUp := by
    obtain ⟨aborted, savepoints, writes, link, -⟩ := session
    rw [link]
    rfl
  frames := by rw [stateOf, byConn]; exact inside.frames
  others := others
  session := session

theorem unmoved (h : Unmoved w w') :
    Inside w' db conn issued := by
  refine inside.congr w' ?_ (by rw [h.registry]) ?_ (by rw [h.registry]) ?_
  · rw [h.active]
    exact inside.active
  · rw [h.registry]
    exact inside.others
  · rw [h.link]
    exact inside.session

/-- A statement on the connection that leaves the transaction open. -/
theorem after {link : Link ω} {issued' : List ω}
    (session : ∃ aborted savepoints writes, link = .up (.inTxn aborted savepoints writes) ∧
      (aborted = false → writes = issued')) (committed : List ω) :
    Inside (w.after conn link committed) db conn issued' := by
  refine inside.congr (w.after conn link committed) ?_ rfl inside.others rfl ?_
  · simpa [World.after] using inside.active
  · simpa using session

end

end Inside

/-! ### BEGIN -/

/-- BEGIN answered with success has opened an empty transaction. -/
theorem Resting.run_begin_link (resting : Resting w conn) (nonNull : conn ≠ 0)
    {fates : ℕ → Fate} (ok : (w.run conn db .begin fates).1 = .ok ()) :
    (w.run conn db .begin fates).2.link conn = .up (.inTxn false [] []) := by
  have planned : (plan (w.registry.stateOf conn) .begin).1 = [beginSql] := by
    rw [resting.stateOf]
    rfl
  have noNul : '\x00' ∉ beginSql := by decide
  have notClosed : w.link conn ≠ .closed := by
    intro closed
    rw [World.run, if_neg nonNull, closed] at ok
    cases ok
  rcases exec_begin_of_quiet resting.quiet (fates 0) with opened | ⟨result, failed, -⟩
  · have answer : ((w.link conn).exec beginSql (fates 0)).answer = .ok := by rw [opened]
    have sent := sendStatements_ok noNul [] answer
    rw [← planned, opened] at sent
    rw [World.run_of_sent nonNull notClosed db sent]
    simp [World.link, World.after, World.sendStatements]
  · have sent := sendStatements_failed noNul [] failed
    rw [← planned] at sent
    rw [World.run_of_failed nonNull notClosed db sent] at ok
    cases ok

/-- BEGIN with nothing open. -/
theorem Resting.begin (resting : Resting w conn) (nonNull : conn ≠ 0) (handle : db ≠ 0)
    (active : (w.conns conn).active = true) (fates : ℕ → Fate) :
    ((w.run conn db .begin fates).1 = .ok () ∧ Inside (w.run conn db .begin fates).2 db conn []) ∨
      ∃ message, (w.run conn db .begin fates).1 = .error message ∧
        Resting (w.run conn db .begin fates).2 conn := by
  have closed : (Ledger.closed : Ledger ω).levels = [] := rfl
  have named : ∀ n, TxnCmd.begin.name? = some n → '\x00' ∉ n := nofun
  refine (resting.run nonNull handle active closed named fates).imp_left ?_
  rintro ⟨ok, accounted⟩
  refine ⟨ok, ?_⟩
  rcases accounted with ⟨nothing, -⟩ | progress
  · cases nothing
  · exact ⟨progress.toPinned, progress.frames.symm, progress.others,
      false, [], [], resting.run_begin_link nonNull ok, fun _ => rfl⟩

/-! ### Between the statements -/

/-- A connection is lost, unless there is none. -/
def loseLink (w : World ω) (d : ConnId) : World ω :=
  if (w.link d).isClosed then w else setLink w d .down

/-- A stream starts or ends. -/
theorem between_stream (d : ConnId) (on : Bool)
    (between : Inside w db conn issued ∨ Gone w conn) :
    Inside (w.setConn d fun c => { c with streaming := on }) db conn issued ∨
      Gone (w.setConn d fun c => { c with streaming := on }) conn := by
  have same : ((w.setConn d fun c => { c with streaming := on }).conns conn).active =
        (w.conns conn).active ∧
      (w.setConn d fun c => { c with streaming := on }).link conn = w.link conn :=
    w.setConn_rel (r := fun c c' => c'.active = c.active ∧ c'.link = c.link)
      (fun _ => ⟨rfl, rfl⟩) d ⟨rfl, rfl⟩ conn
  refine between.imp (fun inside => ?_) fun gone => ⟨gone.frames, gone.others, ?_⟩
  · refine inside.congr _ (same.1.trans inside.active) rfl inside.others rfl ?_
    rw [same.2]
    exact inside.session
  · rw [same.2]
    exact gone.notOpen

theorem loseLink_tended (w : World ω) (d : ConnId) : Tended w (loseLink w d) := by
  unfold loseLink
  split
  · exact .refl w
  · exact .setLink rfl w d

/-- A connection is lost. -/
theorem between_lost (d : ConnId) (between : Inside w db conn issued ∨ Gone w conn) :
    Inside (loseLink w d) db conn issued ∨ Gone (loseLink w d) conn := by
  have tended := loseLink_tended w d
  unfold loseLink at tended ⊢
  split
  · exact between
  next notClosed =>
    rw [if_neg notClosed] at tended
    rcases between with inside | gone
    · by_cases here : conn = d
      · subst here
        exact .inr (inside.gone tended (by simp [setLink, World.link]))
      · have same : (setLink w d .down).conns conn = w.conns conn := by
          simp [setLink, World.setConn, here]
        refine .inl (inside.congr (setLink w d .down) ?_ rfl inside.others rfl ?_)
        · rw [same]
          exact inside.active
        · rw [World.link, same]
          exact inside.session
    · exact .inr (gone.tended tended)

/-- A connection is reset. -/
theorem between_reset (d : ConnId) (ok : Bool)
    (between : Inside w db conn issued ∨ Gone w conn) :
    Inside (resetConnection w d ok) db conn issued ∨ Gone (resetConnection w d ok) conn := by
  have tended := Tended.reset w d ok
  rcases between with inside | gone
  · by_cases here : conn = d
    · subst here
      refine .inr (inside.gone tended ?_)
      cases ok <;> simp [resetConnection, setLink, World.link]
    · have same : (resetConnection w d ok).conns conn = w.conns conn := by
        simp [resetConnection, setLink, World.setConn, here]
      refine .inl (inside.congr _ ?_ ?_ ?_ ?_ ?_)
      · rw [same]
        exact inside.active
      · simp [resetConnection, setLink, Registry.forgetConnection, here]
      · intro other notConn
        rcases tended.byConn other with unchanged | none
        · exact unchanged.trans (inside.others other notConn)
        · exact none
      · simp [resetConnection, setLink, Registry.forgetConnection, inside.pin, here]
      · rw [World.link, same]
        exact inside.session
  · exact .inr (gone.tended tended)

/-! ### A write -/

/-- **The condition on an attempt of a write**: the connection is in the transaction and
does not stream, it is not lost with the write, and where the shim wraps the write in a
savepoint of its own the server has nothing against the write. -/
structure InTransaction (cfg : Config) (conn : ConnId) (w : World ω) (env : Env) : Prop where
  inShim : env.lookup.inResolve = false
  isOpen : (w.link conn).inTransaction = true
  notStreaming : (w.conns conn).streaming = false
  alone : env.connect.raced = false
  kept : env.write.Kept
  wrapped : (cfg.savepoints && env.write.isLoad) = true →
    env.write.prepare.verdict = .accept ∧ env.write.exec.verdict = .accept

/-- **An attempt of a write**: it is in the transaction, or the transaction is aborted. -/
theorem Inside.write (inside : Inside w db conn issued) {stmt : Stmt ω}
    (ordinary : OrdinaryWrite cfg db stmt) {env : Env} (inTxn : InTransaction cfg conn w env) :
    Inside (attempt cfg w stmt env).world db conn (issued ++ [stmt.effect]) ∧
      (attempt cfg w stmt env).world.durable = w.durable ∧
      ((attempt cfg w stmt env).rc.isError = true →
        Inside (attempt cfg w stmt env).world db conn issued ∧
          (attempt cfg w stmt env).stmt = { stmt with conn, writeExecuted := true }) := by
  obtain ⟨aborted, savepoints, writes, link, all⟩ := inside.session
  have wraps : (cfg.savepoints && w.inTransaction conn && env.write.isLoad) = true →
      env.write.prepare.verdict = .accept ∧ env.write.exec.verdict = .accept := by
    intro wraps
    refine inTxn.wrapped ?_
    simp only [Bool.and_eq_true] at wraps ⊢
    exact ⟨wraps.1.1, wraps.2⟩
  have contained : Contained aborted savepoints writes (sent cfg w stmt conn env) stmt.effect := by
    rw [sent, link]
    exact runWrite_inTxn aborted savepoints writes stmt inTxn.kept _ _
  have aborts : ∀ result, (sent cfg w stmt conn env).answer = .failed result →
      (sent cfg w stmt conn env).link.status = .inError := by
    intro result failed
    rw [sent, link] at failed ⊢
    exact runWrite_failed savepoints writes stmt aborted inTxn.kept _ wraps failed
  obtain ⟨nothing, outcome⟩ := contained
  rw [attempt_write_of_pinned inside.toPinned inTxn.notStreaming ordinary inTxn.inShim inTxn.alone,
    afterSent, nothing]
  generalize sent cfg w stmt conn env = out at outcome aborts
  rcases outcome with ⟨ok, grows⟩ | ⟨result, failed, grows⟩
  · obtain ⟨aborted', savepoints', writes', isUp, -, -, sound⟩ := grows
    obtain ⟨rc, stmt', finished, success, -⟩ := finishWrite_spec
      (w.after conn out.link []) { stmt with conn } conn env.write.rows
    rw [ok, settleWrite, finished]
    refine ⟨inside.after ⟨aborted', savepoints', writes', isUp, fun still => ?_⟩ [], by simp, ?_⟩
    · obtain ⟨wasSound, rfl⟩ := sound still
      rw [all wasSound]
    · intro failed
      rw [Rc.isError_of_isSuccess success] at failed
      cases failed
  · obtain ⟨aborted', savepoints', writes', isUp, -⟩ := grows
    have isAborted : aborted' = true := by
      have status := aborts result failed
      rw [isUp] at status
      cases aborted' with
      | true => rfl
      | false => cases status
    subst isAborted
    have any : ∀ issued', Inside (w.after conn out.link []) db conn issued' := fun issued' =>
      inside.after ⟨true, savepoints', writes', isUp, by simp⟩ []
    have isOk : ((w.after conn out.link []).link conn).isOk = true := (any []).isUp
    obtain ⟨w', connError, answered, -, unmoved⟩ :=
      failWrite_spec (w.after conn out.link []) { stmt with conn } conn result env
    have same := unmoved isOk
    rw [failed, settleWrite, answered]
    exact ⟨(any _).unmoved same, by rw [same.durable]; simp,
      fun _ => ⟨(any _).unmoved same, rfl⟩⟩

/-! ### COMMIT -/

/-- COMMIT where nothing is open does nothing. -/
theorem exec_commit_of_idle {l : Link ω} (idle : l.inTransaction = false) (fate : Fate) :
    (l.exec commitSql fate).link.inTransaction = false ∧
      (l.exec commitSql fate).committed = [] := by
  cases isOk : l.isOk with
  | false =>
    obtain ⟨-, same, nothing⟩ := Link.send_of_not_up isOk
      (parseControl commitSql = some .commit) (·.exec commitSql) fate
    rw [Link.exec, same]
    exact ⟨idle, nothing⟩
  | true =>
    obtain ⟨s, rfl⟩ := Link.exists_of_isOk isOk
    cases s with
    | inTxn => simp at idle
    | idle =>
      cases hv : fate.verdict with
      | accept => simp [Link.exec, Link.send_accept _ _ _ hv, Session.exec, Session.control]
      | refuse ends => cases ends <;> simp [Link.exec, Link.send_refuse _ _ _ hv, Session.refused]
      | lose applied noResult =>
        simp [Link.exec, Link.send_lose _ _ _ hv, Session.exec, Session.control]

/-- COMMIT of a transaction ends it, and all its writes or none are durable; or it is
refused and the transaction is aborted. -/
theorem exec_commit_inTxn (aborted : Bool) (savepoints : List (Savepoint ω)) (writes : List ω)
    (fate : Fate) :
    let out := (Link.up (.inTxn aborted savepoints writes)).exec commitSql fate
    (out.link.inTransaction = false ∧
        (out.committed = [] ∨ (aborted = false ∧ out.committed = writes))) ∨
      Link.Refused out savepoints writes := by
  have reacts : ((Session.inTxn aborted savepoints writes).exec commitSql) =
      ⟨true, .idle, if aborted then [] else writes⟩ := by
    simp [Session.exec, Session.control]
  have all : (if aborted then [] else writes) = [] ∨
      aborted = false ∧ (if aborted then [] else writes) = writes := by
    cases aborted <;> simp
  intro out
  cases hv : fate.verdict with
  | accept =>
    refine .inl ?_
    simpa [out, Link.exec, Link.send_accept _ _ _ hv, reacts] using all
  | lose applied noResult =>
    refine .inl ?_
    cases applied with
    | false => simp [out, Link.exec, Link.send_lose _ _ _ hv]
    | true => simpa [out, Link.exec, Link.send_lose _ _ _ hv, reacts] using all
  | refuse ends =>
    cases ends with
    | true => exact .inl (by simp [out, Link.exec, Link.send_refuse _ _ _ hv])
    | false =>
      exact .inr ⟨some fate.message,
        by simp [out, Link.exec, Link.send_refuse _ _ _ hv, Session.refused]⟩

/-- **All or nothing**: the transaction is there and nothing is durable, or it is gone and
all its writes are durable or none. -/
def Whole (before : List ω) (w : World ω) (db : DbId) (conn : ConnId) (issued : List ω) : Prop :=
  (Inside w db conn issued ∧ w.durable = before) ∨
    (Gone w conn ∧ (w.durable = before ∨ w.durable = before ++ issued))

/-- With the transaction gone, COMMIT of the handle does nothing, wherever it goes. -/
theorem Gone.commit (gone : Gone w conn) (d : ConnId) (db : DbId) (fates : ℕ → Fate) :
    Tended w (w.run d db .commit fates).2 := by
  by_cases null : d = 0
  · subst null
    exact .refl w
  by_cases closed : w.link d = .closed
  · have unchanged : (w.run d db .commit fates).2 = w := by
      rw [World.run, if_neg null, closed]
    rw [unchanged]
    exact .refl w
  have state : (w.registry.stateOf d).frames = [] ∨
      (d = conn ∧ (w.registry.stateOf d).frames = [.outer true]) := by
    by_cases here : d = conn
    · subst here
      exact gone.frames.imp_right fun frames => ⟨rfl, frames⟩
    · rw [stateOf, gone.others d here]
      exact .inl rfl
  have closes : (plan (w.registry.stateOf d) .commit).2.isOpen = false := by
    rcases state with frames | ⟨-, frames⟩
    · simp [plan, frames]
    · simp [plan, frames]
  -- Nothing is sent, or a COMMIT that has nothing to do.
  obtain ⟨failure, last, sent, same⟩ : ∃ failure last,
      World.sendStatements (w.link d) (plan (w.registry.stateOf d) .commit).1 fates =
        (failure, last, []) ∧ (last = w.link d ∨ last.inTransaction = false) := by
    rcases state with frames | ⟨rfl, frames⟩
    · exact ⟨none, w.link d, by simp [plan, frames, World.sendStatements], .inl rfl⟩
    · have planned : (plan (w.registry.stateOf d) .commit).1 = [commitSql] := by
        simp [plan, frames]
      obtain ⟨idle, nothing⟩ := exec_commit_of_idle gone.notOpen (fates 0)
      rw [planned]
      cases answer : ((w.link d).exec commitSql (fates 0)).answer with
      | ok =>
        rw [sendStatements_ok (by decide) [] answer, nothing]
        exact ⟨none, _, rfl, .inr idle⟩
      | failed result =>
        rw [sendStatements_failed (by decide) [] answer, nothing]
        exact ⟨some result, _, rfl, .inr idle⟩
  have tended := Tended.after w d same
  cases failure with
  | none =>
    rw [World.run_of_sent null closed db sent]
    simp only [withHandle_isOpen, closes]
    exact tended.trans (.forget _ d)
  | some result =>
    rw [World.run_of_failed null closed db sent]
    dsimp only
    have noted := tended.trans (.of_unmoved (.setConn _ d
      (some (World.failureMessage result))))
    split
    · exact noted
    · exact noted.trans (.forget _ d)

theorem Inside.ended (inside : Inside w db conn issued) {last : Link ω}
    (ending : last.inTransaction = false) (committed : List ω) :
    Gone (w.after conn last committed) conn where
  frames := .inr inside.frames
  others := inside.others
  notOpen := by simpa using ending

/-- COMMIT of the transaction that is there. -/
theorem Inside.commit (inside : Inside w db conn issued) (fates : ℕ → Fate) :
    Whole w.durable (w.run conn db .commit fates).2 db conn issued := by
  obtain ⟨aborted, savepoints, writes, link, all⟩ := inside.session
  have notClosed : w.link conn ≠ .closed := by
    rw [link]
    nofun
  have planned : (plan (w.registry.stateOf conn) .commit).1 = [commitSql] := by
    simp [plan, inside.frames]
  have closes : (plan (w.registry.stateOf conn) .commit).2.isOpen = false := by
    simp [plan, inside.frames]
  have outcome := exec_commit_inTxn aborted savepoints writes (fates 0)
  have noNul : '\x00' ∉ commitSql := by decide
  rw [← link] at outcome
  have allOrNone : ∀ committed, committed = [] ∨ (aborted = false ∧ committed = writes) →
      w.durable ++ committed = w.durable ∨ w.durable ++ committed = w.durable ++ issued := by
    rintro committed (rfl | ⟨sound, rfl⟩)
    · exact .inl (List.append_nil _)
    · exact .inr (by rw [all sound])
  cases answer : ((w.link conn).exec commitSql (fates 0)).answer with
  | ok =>
    have sent := sendStatements_ok noNul [] answer
    rw [← planned] at sent
    rw [World.run_of_sent inside.nonNull notClosed db sent]
    simp only [withHandle_isOpen, closes]
    rcases outcome with ⟨ending, committed⟩ | ⟨result, refused⟩
    · refine .inr ⟨(inside.ended ending _).tended (.forget _ conn), ?_⟩
      simpa [World.sendStatements] using allOrNone _ committed
    · rw [refused] at answer
      cases answer
  | failed result =>
    have sent := sendStatements_failed noNul [] answer
    rw [← planned] at sent
    rw [World.run_of_failed inside.nonNull notClosed db sent]
    dsimp only
    rcases outcome with ⟨ending, committed⟩ | ⟨result, refused⟩
    · rw [if_neg (by simp [ending])]
      refine .inr ⟨((inside.ended ending _).tended (.of_unmoved (.setConn _ conn _))).tended
        (.forget _ conn), ?_⟩
      simpa using allOrNone _ committed
    · rw [refused, if_pos (by simp)]
      refine .inl ⟨(inside.after ⟨true, savepoints, writes, rfl, by simp⟩ []).unmoved
        (.setConn _ conn _), by simp⟩

end PlexPostgres.Step
