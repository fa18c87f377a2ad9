import PlexPostgres.Txn.Registry
import PlexPostgres.Txn.Simulation

/-!
# The registry and the server, after a command

`run` sends the statements of a plan one by one, and any of them may be refused or
lost.  On success the registry takes the planned state; on failure it asks libpq
whether the server is still in a transaction and forgets its own if not.

That question is only asked one way.  If the server *is* in a transaction, the
registry keeps the state it had before the command, which is right whenever a
transaction was open then.  It is wrong in one case: a SAVEPOINT with nothing open
sends BEGIN and SAVEPOINT, and when the BEGIN succeeds and the SAVEPOINT is
refused, the server is in an aborted transaction the registry knows nothing of.
`run_agrees_iff` says that this is the only one.
-/

namespace PlexPostgres.Txn

open Postgres
open World (run_of_failed run_of_sent sendStatements withHandle)

variable {ω : Type*}

/-- **The registry agrees with the server** about a connection. -/
def Agrees (w : World ω) (conn : ConnId) : Prop :=
  (w.registry.stateOf conn).isOpen = true ↔ (w.link conn).inTransaction = true

instance (w : World ω) (conn : ConnId) : Decidable (Agrees w conn) :=
  inferInstanceAs (Decidable (_ ↔ _))

/-! ### What the planned statements do -/

/-- A statement that neither opens nor ends a transaction. -/
def KeepsOpen (sql : Text) : Prop := ∃ c, parseControl sql = some c ∧ c.keeps = true

theorem keepsOpen_savepointSql (n : Text) : KeepsOpen (savepointSql n) :=
  ⟨_, parseControl_savepointSql n, rfl⟩

theorem keepsOpen_releaseSql (n : Text) : KeepsOpen (releaseSql n) :=
  ⟨_, parseControl_releaseSql n, rfl⟩

theorem keepsOpen_rollbackToSql (n : Text) : KeepsOpen (rollbackToSql n) :=
  ⟨_, parseControl_rollbackToSql n, rfl⟩

/-- COMMIT or ROLLBACK. -/
def Finishes (sql : Text) : Prop := sql = commitSql ∨ sql = rollbackSql

variable {cmd : TxnCmd}

/-- **With a transaction open**, a plan consists of statements that keep it open, and
it stays open; or of such statements and a last one that ends it. -/
theorem Planned.of_open {frames after : List Frame} {sql : List Text}
    (planned : Planned frames cmd sql after) (wf : WellFormed frames) (isOpen : frames ≠ []) :
    ((∀ s ∈ sql, KeepsOpen s) ∧ after ≠ []) ∨
      ∃ init last, sql = init ++ [last] ∧ (∀ s ∈ init, KeepsOpen s) ∧ Finishes last ∧
        after = [] := by
  cases planned with
  | beginIdle | commitIdle | rollbackIdle | savepointIdle => exact absurd rfl isOpen
  | beginNested => exact .inl ⟨by simpa using keepsOpen_savepointSql _, by simp⟩
  | savepointInner _ n => exact .inl ⟨by simpa using keepsOpen_savepointSql n, by simp⟩
  | commitNested below n =>
    exact .inl ⟨by simpa using keepsOpen_releaseSql n, wf.ne_nil_of_named rfl⟩
  | rollbackNested below n =>
    exact .inl ⟨by simpa using ⟨keepsOpen_rollbackToSql n, keepsOpen_releaseSql n⟩,
      wf.ne_nil_of_named rfl⟩
  | commitOuter => exact .inr ⟨[], _, rfl, by simp, .inl rfl, rfl⟩
  | rollbackOuter => exact .inr ⟨[], _, rfl, by simp, .inr rfl, rfl⟩
  | releaseUnknown | rollbackToUnknown => exact .inl ⟨by simp, isOpen⟩
  | releaseOuter above n =>
    exact .inr ⟨[_], _, rfl, by simpa using keepsOpen_releaseSql n, .inl rfl, rfl⟩
  | releaseInner below above n =>
    exact .inl ⟨by simpa using keepsOpen_releaseSql n, wf.ne_nil_of_named rfl⟩
  | rollbackToKnown below above n => exact .inl ⟨by simpa using keepsOpen_rollbackToSql n, by simp⟩

/-! ### Sending them -/

variable {sql : Text}

theorem sendStatements_skip (nul : '\x00' ∈ sql) (l : Link ω) (rest : List Text)
    (fates : ℕ → Fate) :
    sendStatements l (sql :: rest) fates =
      sendStatements l rest fun i => fates (i + 1) := by
  simp [sendStatements, nul]

variable {l : Link ω} {fates : ℕ → Fate}

theorem sendStatements_failed (nul : '\x00' ∉ sql) (rest : List Text) {r : Option (Option Text)}
    (failed : (l.exec sql (fates 0)).answer = .failed r) :
    sendStatements l (sql :: rest) fates =
      (some r, (l.exec sql (fates 0)).link, (l.exec sql (fates 0)).committed) := by
  simp [sendStatements, nul, failed]

theorem sendStatements_ok (nul : '\x00' ∉ sql) (rest : List Text)
    (ok : (l.exec sql (fates 0)).answer = .ok) :
    sendStatements l (sql :: rest) fates =
      ((sendStatements (l.exec sql (fates 0)).link rest fun i => fates (i + 1)).1,
        (sendStatements (l.exec sql (fates 0)).link rest fun i => fates (i + 1)).2.1,
        (l.exec sql (fates 0)).committed ++
          (sendStatements (l.exec sql (fates 0)).link rest fun i => fates (i + 1)).2.2) := by
  simp [sendStatements, nul, ok]

/-- Statements that keep a transaction open, all of them successful, leave it open. -/
theorem sendStatements_keeps {stmts : List Text} (keeps : ∀ s ∈ stmts, KeepsOpen s)
    (isOpen : l.inTransaction = true) (fates : ℕ → Fate)
    (ok : (sendStatements l stmts fates).1 = none) :
    (sendStatements l stmts fates).2.1.inTransaction = true := by
  induction stmts generalizing l fates with
  | nil => exact isOpen
  | cons sql rest ih =>
    have keepsRest : ∀ s ∈ rest, KeepsOpen s := fun s hs => keeps s (by simp [hs])
    by_cases nul : '\x00' ∈ sql
    · rw [sendStatements_skip nul] at ok ⊢
      exact ih keepsRest isOpen _ ok
    · obtain ⟨c, parsed, keepsC⟩ := keeps sql (by simp)
      cases answer : (l.exec sql (fates 0)).answer with
      | failed r =>
        rw [sendStatements_failed nul rest answer] at ok
        cases ok
      | ok =>
        rw [sendStatements_ok nul rest answer] at ok ⊢
        have stillOpen : (l.exec sql (fates 0)).link.inTransaction = true := by
          rcases Link.exec_keeps parsed keepsC isOpen (fates 0) with h | ⟨r, failed⟩
          · exact h
          · rw [answer] at failed
            cases failed
        exact ih keepsRest stillOpen _ ok

/-- A list that ends in COMMIT or ROLLBACK, all of it successful, leaves nothing open. -/
theorem sendStatements_finishes (init : List Text) {last : Text} (finishes : Finishes last)
    (l : Link ω) (fates : ℕ → Fate)
    (ok : (sendStatements l (init ++ [last]) fates).1 = none) :
    (sendStatements l (init ++ [last]) fates).2.1.inTransaction = false := by
  induction init generalizing l fates with
  | nil =>
    have nul : '\x00' ∉ last := by rcases finishes with rfl | rfl <;> decide
    have parsed : parseControl last = some .commit ∨ parseControl last = some .rollback := by
      rcases finishes with rfl | rfl
      · exact .inl parseControl_commitSql
      · exact .inr parseControl_rollbackSql
    rw [List.nil_append] at ok ⊢
    cases answer : (l.exec last (fates 0)).answer with
    | failed r =>
      rw [sendStatements_failed nul [] answer] at ok
      cases ok
    | ok =>
      rw [sendStatements_ok nul [] answer]
      exact Link.exec_finishes parsed (fates 0) answer
  | cons sql init ih =>
    rw [List.cons_append] at ok ⊢
    by_cases nul : '\x00' ∈ sql
    · rw [sendStatements_skip nul] at ok ⊢
      exact ih l _ ok
    · cases answer : (l.exec sql (fates 0)).answer with
      | failed r =>
        rw [sendStatements_failed nul _ answer] at ok
        cases ok
      | ok =>
        rw [sendStatements_ok nul _ answer] at ok ⊢
        exact ih _ _ ok

/-! ### What `run` leaves behind -/

theorem withHandle_frames (next : TxnState) (db : DbId) :
    (withHandle next db).frames = next.frames := by
  simp only [withHandle]
  split
  · rfl
  · split <;> rfl

theorem withHandle_isOpen (next : TxnState) (db : DbId) :
    (withHandle next db).isOpen = next.isOpen := by
  simp [TxnState.isOpen, withHandle_frames]

/-- The handle recorded with an open transaction: the one it had, or the one given. -/
theorem withHandle_db {next : TxnState} (isOpen : next.frames ≠ []) {db : DbId}
    (owner : next.db = 0 ∨ next.db = db) : (withHandle next db).db = db := by
  have open' : next.isOpen = true := by simpa using isOpen
  simp only [withHandle, open']
  rcases owner with none | same
  · simp [none]
  · by_cases zero : next.db = 0
    · simp [zero]
    · simpa [zero] using same

variable {w : World ω} {conn : ConnId} {last : Link ω} {committed : List ω}

/-- **The one way to lose track**: a SAVEPOINT with nothing open, over a connection that
is up, whose BEGIN succeeds and whose SAVEPOINT is refused. -/
def RefusedAfterBegin (w : World ω) (conn : ConnId) (cmd : TxnCmd) (fates : ℕ → Fate) : Prop :=
  conn ≠ 0 ∧ (w.link conn).isOk = true ∧ (w.registry.stateOf conn).frames = [] ∧
    ∃ n, cmd = .savepoint n ∧ '\x00' ∉ n ∧ (fates 0).verdict = .accept ∧
      ∃ ends, (fates 1).verdict = .refuse ends

theorem nul_mem_savepointSql (n : Text) : '\x00' ∈ savepointSql n ↔ '\x00' ∈ n := by
  unfold savepointSql
  simp

/-- Where nothing is open, BEGIN succeeds over a connection that is up unless the server
refuses it or it is lost. -/
theorem exec_beginSql_ok_iff (idle : l.inTransaction = false) (fate : Fate) :
    (l.exec beginSql fate).answer = .ok ↔ l.isOk = true ∧ fate.verdict = .accept := by
  rw [Link.exec, Link.send_ok_iff]
  constructor
  · rintro ⟨s, rfl, accepted, -⟩
    exact ⟨rfl, accepted⟩
  · rintro ⟨isOk, accepted⟩
    cases l with
    | closed | down => cases isOk
    | up s => cases s with
      | inTxn => simp at idle
      | idle => exact ⟨.idle, rfl, accepted, by simp [Session.exec, Session.control]⟩

/-- And then an empty transaction is open. -/
theorem exec_beginSql_link (idle : l.inTransaction = false) {fate : Fate}
    (ok : (l.exec beginSql fate).answer = .ok) :
    (l.exec beginSql fate).link = .up (.inTxn false [] []) := by
  obtain ⟨isOk, accepted⟩ := (exec_beginSql_ok_iff idle fate).mp ok
  cases l with
  | closed | down => cases isOk
  | up s => cases s with
    | inTxn => simp at idle
    | idle =>
      rw [Link.exec, Link.send_accept _ _ _ accepted]
      simp [Session.exec, Session.control]

/-- A SAVEPOINT in a fresh transaction fails unless the server accepts it, and leaves the
transaction unless the connection is lost. -/
theorem sendStatements_savepoint {n : Text} (nul : '\x00' ∉ n) (fates : ℕ → Fate) :
    let sent := sendStatements (.up (.inTxn false [] []) : Link ω) [savepointSql n] fates
    (sent.1 = none ↔ (fates 0).verdict = .accept) ∧
      (sent.2.1.inTransaction = true ↔
        (fates 0).verdict = .accept ∨ ∃ ends, (fates 0).verdict = .refuse ends) := by
  have sendable := mt (nul_mem_savepointSql n).mp nul
  cases verdict : (fates 0).verdict with
  | accept =>
    simp [sendStatements, sendable, Link.exec, Link.send_accept _ _ _ verdict,
      Session.exec, Session.control]
  | refuse ends =>
    simp [sendStatements, sendable, Link.exec, Link.send_refuse _ _ _ verdict,
      Session.refused]
  | lose applied noResult =>
    simp [sendStatements, sendable, Link.exec, Link.send_lose _ _ _ verdict]

section Run

variable (nonNull : conn ≠ 0) (notClosed : w.link conn ≠ .closed) (db : DbId)
include nonNull notClosed

/-- After a failed command the registry agrees with the server, unless the server is
in a transaction and none was recorded before. -/
theorem agrees_of_failed {result : Option (Option Text)}
    (sent : sendStatements (w.link conn) (plan (w.registry.stateOf conn) cmd).1 fates =
      (some result, last, committed)) :
    Agrees (w.run conn db cmd fates).2 conn ↔
      (last.inTransaction = true → (w.registry.stateOf conn).isOpen = true) := by
  rw [run_of_failed nonNull notClosed db sent]
  cases open? : last.inTransaction with
  | true => simp [Agrees, World.link, World.after, open?]
  | false => simp [Agrees, World.link, World.after, open?, TxnState.empty]

/-- After a successful command the registry agrees with the server exactly when the
planned state does. -/
theorem agrees_of_sent
    (sent : sendStatements (w.link conn) (plan (w.registry.stateOf conn) cmd).1 fates =
      (none, last, committed)) :
    Agrees (w.run conn db cmd fates).2 conn ↔
      ((plan (w.registry.stateOf conn) cmd).2.isOpen = true ↔ last.inTransaction = true) := by
  rw [run_of_sent nonNull notClosed db sent]
  dsimp only
  rw [withHandle_isOpen]
  cases isOpen : (plan (w.registry.stateOf conn) cmd).2.isOpen with
  | true => simp [Agrees, World.link, World.after, withHandle_isOpen, isOpen]
  | false => simp [Agrees, World.link, World.after, TxnState.empty]

/-- With a transaction open, no command makes the registry and the server disagree. -/
theorem run_agrees_of_open (cmd : TxnCmd) (fates : ℕ → Fate)
    (wf : WellFormed (w.registry.stateOf conn).frames)
    (start : Agrees w conn) (isOpen : (w.registry.stateOf conn).frames ≠ []) :
    Agrees (w.run conn db cmd fates).2 conn := by
  have recorded : (w.registry.stateOf conn).isOpen = true := by simpa using isOpen
  have serverOpen : (w.link conn).inTransaction = true := start.mp recorded
  rcases sent : sendStatements (w.link conn) (plan (w.registry.stateOf conn) cmd).1 fates
    with ⟨_ | result, last, committed⟩
  · rw [agrees_of_sent nonNull notClosed db sent]
    rcases (plan_planned _ cmd).1.of_open wf isOpen with
      ⟨keeps, stays⟩ | ⟨init, final, split, -, finishes, ends⟩
    · have stillOpen := sendStatements_keeps keeps serverOpen fates (by rw [sent])
      rw [sent] at stillOpen
      simp [stillOpen, stays]
    · have closed := sendStatements_finishes init finishes (w.link conn) fates
        (by rw [← split, sent])
      rw [← split, sent] at closed
      simp [closed, ends]
  · rw [agrees_of_failed nonNull notClosed db sent]
    exact fun _ => recorded

/-- With nothing open, a SAVEPOINT disagrees exactly when it is refused after its BEGIN. -/
theorem run_savepoint_agrees_iff (n : Text) (fates : ℕ → Fate)
    (idle : (w.registry.stateOf conn).frames = [])
    (server : (w.link conn).inTransaction = false) :
    Agrees (w.run conn db (.savepoint n) fates).2 conn ↔
      ¬ RefusedAfterBegin w conn (.savepoint n) fates := by
  have planned : plan (w.registry.stateOf conn) (.savepoint n) =
      ([beginSql, savepointSql n],
        { w.registry.stateOf conn with frames := [.outer false, .savepoint n] }) := by
    simp [plan, idle]
  have notRecorded : (w.registry.stateOf conn).isOpen = false := by simpa using idle
  have nextOpen : (plan (w.registry.stateOf conn) (.savepoint n)).2.isOpen = true := by
    simp [planned]
  have noNul : '\x00' ∉ beginSql := by decide
  cases first : ((w.link conn).exec beginSql (fates 0)).answer with
  | failed r =>
    have stays : ((w.link conn).exec beginSql (fates 0)).link.inTransaction = false := by
      rw [← Bool.not_eq_true, Link.exec_begins parseControl_beginSql server, first]
      simp
    have sent := sendStatements_failed noNul [savepointSql n] first
    rw [agrees_of_failed nonNull notClosed db (by rw [planned]; exact sent)]
    refine iff_of_true (by simp [stays]) ?_
    rintro ⟨-, isOk, -, -, -, -, accepted, -⟩
    rw [(exec_beginSql_ok_iff server (fates 0)).mpr ⟨isOk, accepted⟩] at first
    cases first
  | ok =>
    obtain ⟨isOk, accepted⟩ := (exec_beginSql_ok_iff server (fates 0)).mp first
    have began := exec_beginSql_link server first
    have sent := sendStatements_ok noNul [savepointSql n] first
    rw [began] at sent
    by_cases nul : '\x00' ∈ n
    · -- The SAVEPOINT is never sent; the BEGIN alone is recorded.
      rw [sendStatements_skip ((nul_mem_savepointSql n).mpr nul)] at sent
      rw [agrees_of_sent nonNull notClosed db (by rw [planned]; exact sent), nextOpen]
      refine iff_of_true (by simp [sendStatements]) ?_
      rintro ⟨-, -, -, m, same, noNulM, -⟩
      cases same
      exact noNulM nul
    · obtain ⟨succeeds, inTxn⟩ := sendStatements_savepoint (ω := ω) nul fun i => fates (i + 1)
      generalize sendStatements (.up (.inTxn false [] []) : Link ω) [savepointSql n]
        (fun i => fates (i + 1)) = second at sent succeeds inTxn
      obtain ⟨_ | r, last, committed⟩ := second
      · rw [agrees_of_sent nonNull notClosed db (by rw [planned]; exact sent), nextOpen]
        have acceptedToo := succeeds.mp rfl
        refine iff_of_true (by simpa using inTxn.mpr (.inl acceptedToo)) ?_
        rintro ⟨-, -, -, m, same, -, -, ends, refused⟩
        rw [acceptedToo] at refused
        cases refused
      · rw [agrees_of_failed nonNull notClosed db (by rw [planned]; exact sent), notRecorded]
        have notAccepted := mt succeeds.mpr (by simp)
        simp only [or_iff_right notAccepted] at inTxn
        simp [RefusedAfterBegin, inTxn, nonNull, isOk, idle, accepted, nul]

/-- With nothing open, BEGIN never makes them disagree. -/
theorem run_begin_agrees (fates : ℕ → Fate) (idle : (w.registry.stateOf conn).frames = [])
    (server : (w.link conn).inTransaction = false) :
    Agrees (w.run conn db .begin fates).2 conn := by
  have planned : plan (w.registry.stateOf conn) .begin =
      ([beginSql], { w.registry.stateOf conn with frames := [.outer true] }) := by
    simp [plan, idle]
  have noNul : '\x00' ∉ beginSql := by decide
  have begins := Link.exec_begins parseControl_beginSql server (fates 0)
  cases first : ((w.link conn).exec beginSql (fates 0)).answer with
  | failed r =>
    rw [first] at begins
    have sent := sendStatements_failed noNul [] first
    rw [agrees_of_failed nonNull notClosed db (by rw [planned]; exact sent)]
    simp [begins]
  | ok =>
    rw [first] at begins
    have sent := sendStatements_ok noNul [] first
    rw [agrees_of_sent nonNull notClosed db (by rw [planned]; exact sent), planned]
    simp [sendStatements, begins]

end Run

/-- **The registry agrees with the server after every command**, whatever is refused or
lost, except after a SAVEPOINT that is refused once its own BEGIN has gone through. -/
theorem run_agrees_iff (w : World ω) (conn : ConnId) (db : DbId) (cmd : TxnCmd)
    (fates : ℕ → Fate) (wf : WellFormed (w.registry.stateOf conn).frames)
    (start : Agrees w conn) :
    Agrees (w.run conn db cmd fates).2 conn ↔ ¬ RefusedAfterBegin w conn cmd fates := by
  by_cases nonNull : conn = 0
  · subst nonNull
    exact iff_of_true start fun h => h.1 rfl
  by_cases notClosed : w.link conn = .closed
  · have unchanged : (w.run conn db cmd fates).2 = w := by
      rw [World.run, if_neg nonNull]
      simp [notClosed]
    rw [unchanged]
    refine iff_of_true start ?_
    rintro ⟨-, isOk, -⟩
    rw [notClosed] at isOk
    cases isOk
  by_cases idle : (w.registry.stateOf conn).frames = []
  · have notRecorded : (w.registry.stateOf conn).isOpen = false := by simpa using idle
    have server : (w.link conn).inTransaction = false := by
      rw [← Bool.not_eq_true]
      intro isOpen
      rw [start.mpr isOpen] at notRecorded
      cases notRecorded
    cases cmd with
    | savepoint n => exact run_savepoint_agrees_iff nonNull notClosed db n fates idle server
    | begin =>
      refine iff_of_true (run_begin_agrees nonNull notClosed db fates idle server) ?_
      rintro ⟨-, -, -, n, same, -⟩
      cases same
    | commit | rollback | release n | rollbackTo n =>
      refine iff_of_true ?_ ?_
      · rw [agrees_of_sent nonNull notClosed db (by simp [plan, idle, Stack.rposition]; rfl)]
        simp [plan, idle, Stack.rposition, notRecorded, server]
      · rintro ⟨-, -, -, m, same, -⟩
        cases same
  · refine iff_of_true (run_agrees_of_open nonNull notClosed db cmd fates wf start idle) ?_
    exact fun h => idle h.2.2.1

/-- A BEGIN the server refuses leaves both sides with nothing open. -/
theorem run_agrees_begin_refused :
    Agrees ((World.fresh : World Unit).run 1 7 .begin fun _ => ⟨.refuse false, none⟩).2 1 :=
  (run_agrees_iff _ 1 7 .begin _ (by decide) (by decide)).mpr fun h => by
    obtain ⟨-, -, -, n, same, -⟩ := h
    cases same

/-- The first statement succeeds, the second is refused. -/
def secondRefused (i : ℕ) : Fate := if i = 1 then ⟨.refuse false, none⟩ else .fine

/-- **A SAVEPOINT refused after its own BEGIN**: the server is left in an aborted
transaction, and the registry, which had none open before, has none open now. -/
theorem savepoint_refused_after_begin :
    let w : World Unit := World.fresh
    let w' := (w.run 1 7 (.savepoint "a".toList) secondRefused).2
    WellFormed (w.registry.stateOf 1).frames ∧ Agrees w 1 ∧
      (w'.link 1).status = .inError ∧ (w'.registry.stateOf 1).isOpen = false ∧ ¬ Agrees w' 1 := by
  decide

end PlexPostgres.Txn
