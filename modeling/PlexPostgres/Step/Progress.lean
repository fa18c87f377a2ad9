import PlexPostgres.Step.Carried
import PlexPostgres.Step.Resting

/-!
# The account and the world, command by command

Either no transaction is recorded anywhere and the client's account is empty, or the
handle's transaction is recorded on the connection and the session there keeps the
account: `Accounted`.  Commands and writes keep it that way, as long as the connection
holds and a COMMIT is not sent into an aborted transaction.
-/

namespace PlexPostgres.Step

open Postgres Txn
open scoped List

variable {ω : Type*} {w w' : World ω} {db : DbId} {conn : ConnId}

/-! ### A transaction of the client -/

/-- **The handle's transaction is recorded on the connection, and the session there keeps
the account.** -/
structure InProgress (g : Ledger ω) (w : World ω) (db : DbId) (conn : ConnId) : Prop
    extends Pinned w db conn where
  notStreaming : (w.conns conn).streaming = false
  frames : g.levels.map Prod.fst = (w.registry.stateOf conn).frames
  wellFormed : WellFormed (w.registry.stateOf conn).frames
  sendable : Sendable (w.registry.stateOf conn).frames
  others : ∀ d, d ≠ conn → w.registry.byConn d = none
  carried : CarriedBy g (w.link conn)

variable {g : Ledger ω}

variable {l : Link ω}

theorem CarriedBy.isOk (carried : CarriedBy g l) : l.isOk = true := by
  obtain ⟨_, _, _, rfl, -⟩ := carried
  rfl

theorem CarriedBy.inTransaction (carried : CarriedBy g l) :
    l.inTransaction = true := by
  obtain ⟨_, _, _, rfl, -⟩ := carried
  simp

variable {last : Link ω}

/-- A command was carried out and a transaction is open: that is recorded. -/
theorem inProgress_of_record (nonNull : conn ≠ 0) (handle : db ≠ 0)
    (active : (w.conns conn).active = true) (notStreaming : (w.conns conn).streaming = false)
    (others : ∀ d, d ≠ conn → w.registry.byConn d = none) {committed : List ω}
    (carried : CarriedBy g last) {next : TxnState} (frames : g.levels.map Prod.fst = next.frames)
    (isOpen : next.frames ≠ []) (owner : next.db = 0 ∨ next.db = db)
    (wellFormed : WellFormed next.frames) (sendable : Sendable next.frames) :
    InProgress g ((w.after conn last committed).mapRegistry
      (·.record conn db (World.withHandle next db))) db conn where
  nonNull := nonNull
  handle := handle
  pin := by simp [Registry.record]
  isOpen := by simpa [withHandle_isOpen] using isOpen
  owner := by simpa using withHandle_db isOpen owner
  active := by simpa [World.after] using active
  isUp := by simpa [World.link, World.after] using carried.isOk
  notStreaming := by simpa [World.after] using notStreaming
  frames := by simpa [withHandle_frames] using frames
  wellFormed := by simpa [withHandle_frames] using wellFormed
  sendable := by simpa [withHandle_frames] using sendable
  others d other := by simpa [Registry.record, other] using others d other
  carried := by simpa [World.link, World.after] using carried

/-- Ended, or never begun: the registry knows nothing of the connection. -/
theorem resting_of_forget (others : ∀ d, d ≠ conn → w.registry.byConn d = none)
    (notStreaming : (w.conns conn).streaming = false) (quiet : Quiet last) (committed : List ω) :
    Resting ((w.after conn last committed).mapRegistry (·.forgetConnection conn)) conn where
  registry d := by
    by_cases here : d = conn
    · simp [Registry.forgetConnection, here]
    · simpa [Registry.forgetConnection, here] using others d here
  quiet := by simpa [World.link, World.after] using quiet
  notStreaming := by simpa [World.after] using notStreaming

/-- **The account and the world agree**: nothing is open, or the transaction in progress is
the account's. -/
def Accounted (g : Ledger ω) (w : World ω) (db : DbId) (conn : ConnId) : Prop :=
  (g.levels = [] ∧ Resting w conn) ∨ InProgress g w db conn

/-! ### A command with nothing open -/

/-- BEGIN on a quiet connection opens an empty transaction, or fails and opens none. -/
theorem exec_begin_of_quiet (quiet : Quiet l) (fate : Fate) :
    l.exec beginSql fate = ⟨.ok, .up (.inTxn false [] []), []⟩ ∨
      ∃ result, (l.exec beginSql fate).answer = .failed result ∧
        Quiet (l.exec beginSql fate).link := by
  have reacts : ∀ s : Session ω, s.exec beginSql = s.control .begin := by
    intro s
    rw [Session.exec, parseControl_beginSql]
  cases isOk : l.isOk with
  | false =>
    obtain ⟨⟨result, failed⟩, same, -⟩ := Link.send_of_not_up isOk
      (parseControl beginSql = some .commit) (·.exec beginSql) fate
    refine .inr ⟨result, failed, ?_⟩
    rw [Link.exec, same]
    exact quiet
  | true =>
    obtain ⟨s, rfl⟩ := Link.exists_of_isOk isOk
    cases hv : fate.verdict with
    | accept =>
      rw [Link.exec, Link.send_accept _ _ _ hv, reacts]
      cases s with
      | idle => exact .inl rfl
      | inTxn aborted savepoints writes =>
        cases aborted with
        | true => exact .inr ⟨_, rfl, quiet⟩
        | false => exact absurd rfl quiet
    | refuse ends =>
      refine .inr ⟨_, by rw [Link.exec, Link.send_refuse _ _ _ hv], ?_⟩
      rw [Link.exec, Link.send_refuse _ _ _ hv]
      cases s with
      | idle => simpa [Session.refused] using quiet
      | inTxn aborted savepoints writes =>
        simp [Session.refused, Quiet, Link.status, Session.status]
    | lose applied noResult =>
      refine .inr ⟨_, by rw [Link.exec, Link.send_lose _ _ _ hv], ?_⟩
      rw [Link.exec, Link.send_lose _ _ _ hv]
      simp [Quiet, Link.status]

/-- SAVEPOINT in the transaction it opened: set, or the transaction is aborted or lost. -/
theorem exec_first_savepoint (n : Text) (fate : Fate) :
    (Link.up (.inTxn false [] []) : Link ω).exec (savepointSql n) fate =
        ⟨.ok, .up (.inTxn false [⟨Text.asciiLower n, []⟩] []), []⟩ ∨
      ∃ result, ((Link.up (.inTxn false [] []) : Link ω).exec (savepointSql n) fate).answer =
        .failed result ∧
          Quiet ((Link.up (.inTxn false [] []) : Link ω).exec (savepointSql n) fate).link := by
  by_cases lost : ∃ applied noResult, fate.verdict = .lose applied noResult
  · obtain ⟨applied, noResult, hv⟩ := lost
    refine .inr ⟨_, by rw [Link.exec, Link.send_lose _ _ _ hv], ?_⟩
    rw [Link.exec, Link.send_lose _ _ _ hv]
    simp [Quiet, Link.status]
  · have kept : fate.Kept := fun applied noResult hv => lost ⟨applied, noResult, hv⟩
    rw [exec_savepoint_inTxn false [] [] kept n]
    split
    · exact .inl rfl
    · exact .inr ⟨_, rfl, by simp [Link.refusal, Quiet, Link.status, Session.status]⟩

variable {cmd : TxnCmd}

/-- What is sent for a command with nothing open: it opens a transaction that keeps the
client's account, or it fails or has nothing to do, and there still is none. -/
theorem sendPlan_of_quiet (quiet : Quiet l) (closed : g.levels = [])
    (named : ∀ n, cmd.name? = some n → '\x00' ∉ n) (fates : ℕ → Fate) :
    let sent := World.sendStatements l (plan .empty cmd).1 fates
    (∃ result, sent.1 = some result ∧ Quiet sent.2.1) ∨
      (sent.1 = none ∧
        ((Quiet sent.2.1 ∧ (plan .empty cmd).2 = .empty ∧ (g.step cmd).levels = []) ∨
          (CarriedBy (g.step cmd) sent.2.1 ∧ (plan .empty cmd).2.frames ≠ [] ∧
            (g.step cmd).levels.map Prod.fst = (plan .empty cmd).2.frames))) := by
  have noNulBegin : '\x00' ∉ beginSql := by decide
  cases cmd with
  | commit | rollback | release | rollbackTo =>
    exact .inr ⟨rfl, .inl ⟨quiet, rfl, by simp [Ledger.step, closed]⟩⟩
  | begin =>
    have planned : (plan .empty .begin).1 = [beginSql] := rfl
    rw [planned]
    rcases exec_begin_of_quiet quiet (fates 0) with opened | ⟨result, failed, still⟩
    · rw [sendStatements_ok noNulBegin [] (by rw [opened]), opened]
      have step : g.step .begin = ⟨[(.outer true, [])], []⟩ := by
        simp [Ledger.step, closed, Ledger.push, Ledger.closed]
      rw [step]
      exact .inr ⟨rfl, .inr ⟨⟨_, _, _, rfl, .nil, nested_nil [], by simp⟩,
        by simp [plan, TxnState.empty], rfl⟩⟩
    · rw [sendStatements_failed noNulBegin [] failed]
      exact .inl ⟨result, rfl, still⟩
  | savepoint n =>
    have noNul : '\x00' ∉ savepointSql n := mt (nul_mem_savepointSql n).mp (named n rfl)
    have planned : (plan .empty (.savepoint n)).1 = [beginSql, savepointSql n] := rfl
    rw [planned]
    rcases exec_begin_of_quiet quiet (fates 0) with opened | ⟨result, failed, still⟩
    · rw [sendStatements_ok noNulBegin _ (by rw [opened]), opened]
      rcases exec_first_savepoint n (fates 1) with set | ⟨result, failed, still⟩
      · rw [sendStatements_ok noNul [] (by rw [set]), set]
        have step : g.step (.savepoint n) = ⟨[(.outer false, []), (.savepoint n, [])], []⟩ := by
          simp [Ledger.step, closed, Ledger.push, Ledger.closed]
        have marks : List.SublistForall₂ Marks [((.savepoint n : Frame), ([] : List ω))]
            [⟨Text.asciiLower n, []⟩] := .cons ⟨rfl, .slnil⟩ .nil
        rw [step]
        exact .inr ⟨rfl, .inr
          ⟨⟨_, _, _, rfl, marks, (nested_nil []).push List.prefix_rfl _, by simp⟩,
          by simp [plan, TxnState.empty], rfl⟩⟩
      · rw [sendStatements_failed noNul [] failed]
        exact .inl ⟨result, rfl, still⟩
    · rw [sendStatements_failed noNulBegin _ failed]
      exact .inl ⟨result, rfl, still⟩

/-- A failed command leaves a message, and the registry forgets a connection that is in no
transaction. -/
theorem resting_of_failed (resting : Resting w conn) (quiet : Quiet last) (committed : List ω)
    (message : Text) :
    Resting (if last.inTransaction then (w.after conn last committed).setConn conn fun c =>
        { c with lastError := some message }
      else ((w.after conn last committed).setConn conn fun c =>
        { c with lastError := some message }).mapRegistry (·.forgetConnection conn)) conn := by
  have sent : Resting (w.after conn last committed) conn :=
    resting.after fun _ => quiet
  have noted := sent.tended (.of_unmoved (.setConn _ conn (some message)))
  split
  · exact noted
  · exact noted.tended (.forget _ conn)

/-- **A command with nothing open.** -/
theorem Resting.run (resting : Resting w conn) (nonNull : conn ≠ 0) (handle : db ≠ 0)
    (active : (w.conns conn).active = true) (closed : g.levels = [])
    (named : ∀ n, cmd.name? = some n → '\x00' ∉ n) (fates : ℕ → Fate) :
    ((w.run conn db cmd fates).1 = .ok () ∧
        Accounted (g.step cmd) (w.run conn db cmd fates).2 db conn) ∨
      ∃ message, (w.run conn db cmd fates).1 = .error message ∧
        Resting (w.run conn db cmd fates).2 conn := by
  by_cases notClosed : w.link conn = .closed
  · have unchanged : w.run conn db cmd fates =
        (.error "PostgreSQL connection is closed".toList, w) := by
      rw [World.run, if_neg nonNull, notClosed]
    rw [unchanged]
    exact .inr ⟨_, rfl, resting⟩
  have state := resting.stateOf conn
  have outcomes := sendPlan_of_quiet resting.quiet closed named fates
  rcases sent : World.sendStatements (w.link conn) (plan .empty cmd).1 fates with
    ⟨failure, last, committed⟩
  rw [sent] at outcomes
  rcases outcomes with ⟨result, rfl, quiet⟩ | ⟨rfl, outcome⟩
  · rw [World.run_of_failed nonNull notClosed db (by rw [state]; exact sent)]
    exact .inr ⟨_, rfl, resting_of_failed resting quiet committed _⟩
  · rw [World.run_of_sent nonNull notClosed db (by rw [state]; exact sent), state]
    refine .inl ⟨rfl, ?_⟩
    rcases outcome with ⟨quiet, stays, levels⟩ | ⟨carried, isOpen, frames⟩
    · have notOpen : (World.withHandle (plan .empty cmd).2 db).isOpen = false := by
        rw [withHandle_isOpen, stays]
        rfl
      simp only [notOpen]
      exact .inl ⟨levels, resting_of_forget (fun d _ => resting.registry d) resting.notStreaming
        quiet committed⟩
    · have isOpen' : (World.withHandle (plan .empty cmd).2 db).isOpen = true := by
        rw [withHandle_isOpen]
        simpa using isOpen
      simp only [isOpen', if_true]
      have start : Sendable TxnState.empty.frames := by simp [Sendable, TxnState.empty]
      obtain ⟨planned, owner⟩ := plan_planned .empty cmd
      exact .inr (inProgress_of_record nonNull handle active resting.notStreaming
        (fun d _ => resting.registry d) carried frames isOpen (.inl owner)
        (plan_wellFormed wellFormed_nil cmd) (start.planned named planned).2)

/-! ### Inside the transaction -/

namespace InProgress

section

variable (progress : InProgress g w db conn)
include progress

theorem levels_ne : g.levels ≠ [] := by
  have isOpen : (w.registry.stateOf conn).frames ≠ [] := by simpa using progress.isOpen
  rw [← progress.frames] at isOpen
  simpa using isOpen

theorem unmoved (h : Unmoved w w') :
    InProgress g w' db conn where
  nonNull := progress.nonNull
  handle := progress.handle
  pin := by rw [h.registry]; exact progress.pin
  isOpen := by rw [h.registry]; exact progress.isOpen
  owner := by rw [h.registry]; exact progress.owner
  active := by rw [h.active]; exact progress.active
  isUp := by rw [h.link]; exact progress.isUp
  notStreaming := by rw [h.streaming]; exact progress.notStreaming
  frames := by rw [h.registry]; exact progress.frames
  wellFormed := by rw [h.registry]; exact progress.wellFormed
  sendable := by rw [h.registry]; exact progress.sendable
  others := by rw [h.registry]; exact progress.others
  carried := by rw [h.link]; exact progress.carried

/-- A statement on the connection after which the session keeps an account of the same
levels. -/
theorem after {g' : Ledger ω} {link : Link ω}
    (carried : CarriedBy g' link) (levels : g'.levels = g.levels) (committed : List ω) :
    InProgress g' (w.after conn link committed) db conn where
  nonNull := progress.nonNull
  handle := progress.handle
  pin := progress.pin
  isOpen := progress.isOpen
  owner := progress.owner
  active := by simpa [World.after] using progress.active
  isUp := by simpa using carried.isOk
  notStreaming := by simpa [World.after] using progress.notStreaming
  frames := by rw [levels]; exact progress.frames
  wellFormed := progress.wellFormed
  sendable := progress.sendable
  others := progress.others
  carried := by simpa using carried

theorem notClosed : w.link conn ≠ .closed := by
  intro closed
  have up := progress.isUp
  rw [closed] at up
  cases up

/-- **A command inside the transaction**: it fails and the account is as it was, or it
succeeds and the account moves on; if it commits, what the account had is durable. -/
theorem run (named : ∀ n, cmd.name? = some n → '\x00' ∉ n)
    {fates : ℕ → Fate} (kept : ∀ i, (fates i).Kept)
    (careful : g.commits cmd = true → (cmd = .commit → (w.link conn).status ≠ .inError) ∧
      (fates (commitAt cmd)).verdict = .accept) :
    ((w.run conn db cmd fates).1 = .ok () ∧
        Accounted (g.step cmd) (w.run conn db cmd fates).2 db conn ∧
        (g.commits cmd = true → ∃ committed,
          (w.run conn db cmd fates).2.durable = w.durable ++ committed ∧ g.writes <+ committed)) ∨
      ∃ message, (w.run conn db cmd fates).1 = .error message ∧
        InProgress g (w.run conn db cmd fates).2 db conn ∧
        (w.run conn db cmd fates).2.durable = w.durable := by
  have isOpen : (w.registry.stateOf conn).frames ≠ [] := by simpa using progress.isOpen
  obtain ⟨planned, owner⟩ := plan_planned (w.registry.stateOf conn) cmd
  obtain ⟨noted, frames⟩ := noted_of_planned progress.frames planned isOpen
  obtain ⟨noNul, sendable⟩ := progress.sendable.planned named planned
  obtain ⟨aborted, savepoints, writes, link, carries⟩ := progress.carried
  have sound : g.commits cmd = true →
      (cmd = .commit → aborted = false) ∧ (fates (commitAt cmd)).verdict = .accept := by
    intro commits
    refine ⟨fun isCommit => ?_, (careful commits).2⟩
    have notError := (careful commits).1 isCommit
    rw [link] at notError
    cases aborted with
    | false => rfl
    | true => exact absurd rfl notError
  have wf : WellFormed (g.levels.map Prod.fst) := by
    rw [progress.frames]
    exact progress.wellFormed
  have sent := sendPlan noted carries wf progress.levels_ne noNul kept sound
  rw [← link] at sent
  generalize outcome : World.sendStatements (w.link conn) (plan (w.registry.stateOf conn) cmd).1
    fates = result at sent
  cases sent with
  | refused result carried =>
    rw [World.run_of_failed progress.nonNull progress.notClosed db outcome]
    refine .inr ⟨_, rfl, ?_, ?_⟩
    · dsimp only
      rw [if_pos carried.inTransaction]
      exact (progress.after carried rfl []).unmoved (.setConn _ conn _)
    · simp [carried.inTransaction]
  | movedOn carried stillOpen =>
    have next : (plan (w.registry.stateOf conn) cmd).2.frames ≠ [] := by
      rw [← frames]
      simpa using stillOpen
    have next' : (World.withHandle (plan (w.registry.stateOf conn) cmd).2 db).isOpen = true := by
      rw [withHandle_isOpen]
      simpa using next
    rw [World.run_of_sent progress.nonNull progress.notClosed db outcome]
    refine .inl ⟨rfl, .inr ?_, ?_⟩
    · simp only [next', if_true]
      exact inProgress_of_record progress.nonNull progress.handle progress.active
        progress.notStreaming progress.others carried frames next
        (.inr (owner.trans progress.owner)) (plan_wellFormed progress.wellFormed cmd) sendable
    · intro commits
      simp [Ledger.commits, stillOpen] at commits
  | ended isClosed durable =>
    have next : (World.withHandle (plan (w.registry.stateOf conn) cmd).2 db).isOpen = false := by
      rw [withHandle_isOpen, TxnState.isOpen_eq_false_iff, ← frames, isClosed]
      rfl
    rw [World.run_of_sent progress.nonNull progress.notClosed db outcome]
    refine .inl ⟨rfl, .inl ⟨isClosed, ?_⟩, fun commits => ⟨_, rfl, durable commits⟩⟩
    simp only [next]
    exact resting_of_forget progress.others progress.notStreaming
      (quiet_of_not_inTransaction rfl) _

/-- **A write inside the transaction**: it is answered with success and the account has
it, or with an error and the account is as it was. -/
theorem write {cfg : Config} {stmt : Stmt ω}
    (ordinary : OrdinaryWrite cfg db stmt) {env : Env} (inShim : env.lookup.inResolve = false)
    (alone : env.connect.raced = false) (kept : env.write.Kept) :
    ((attempt cfg w stmt env).rc.isError = false ∧
        InProgress (g.write stmt.effect) (attempt cfg w stmt env).world db conn) ∨
      ((attempt cfg w stmt env).rc.isError = true ∧
        InProgress g (attempt cfg w stmt env).world db conn ∧
        (attempt cfg w stmt env).world.durable = w.durable ∧
        (attempt cfg w stmt env).stmt = { stmt with conn, writeExecuted := true }) := by
  obtain ⟨aborted, savepoints, writes, link, carries⟩ := progress.carried
  have contained : Contained aborted savepoints writes (sent cfg w stmt conn env) stmt.effect := by
    rw [sent, link]
    exact runWrite_inTxn aborted savepoints writes stmt kept _ _
  obtain ⟨nothing, outcome⟩ := contained
  rw [attempt_write_of_pinned progress.toPinned progress.notStreaming ordinary inShim alone,
    afterSent, nothing]
  generalize sent cfg w stmt conn env = out at outcome
  rcases outcome with ⟨ok, grows⟩ | ⟨result, failed, grows⟩
  · obtain ⟨aborted', savepoints', writes', isUp, carries'⟩ := carries.grow grows
    have noted : g.write stmt.effect = { g with writes := g.writes ++ [stmt.effect] } := by
      simp [Ledger.write, progress.levels_ne]
    obtain ⟨rc, stmt', finished, success, -⟩ := finishWrite_spec
      (w.after conn out.link []) { stmt with conn } conn env.write.rows
    rw [ok, settleWrite, finished, noted]
    exact .inl ⟨Rc.isError_of_isSuccess success, progress.after ⟨_, _, _, isUp, carries'⟩ rfl []⟩
  · obtain ⟨aborted', savepoints', writes', isUp, carries'⟩ := carries.grow grows
    rw [List.append_nil] at carries'
    have carried : CarriedBy g out.link := ⟨_, _, _, isUp, carries'⟩
    have isOk : ((w.after conn out.link []).link conn).isOk = true := by simpa using carried.isOk
    obtain ⟨w', connError, answered, -, unmoved⟩ :=
      failWrite_spec (w.after conn out.link []) { stmt with conn } conn result env
    have same := unmoved isOk
    rw [failed, settleWrite, answered]
    refine .inr ⟨rfl, (progress.after carried rfl []).unmoved same, ?_, rfl⟩
    rw [same.durable]
    simp

end

end InProgress

end PlexPostgres.Step
