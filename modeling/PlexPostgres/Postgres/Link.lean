import PlexPostgres.Postgres.Session

/-!
# A connection to the server

What a client holds is not a session but a connection to one, which can be lost.
`Link` is the connection as libpq has it: closed, down, or up with a session behind
it.  Each statement sent over it meets a `Fate`, the part of its outcome that the
client cannot know before: the server may have reasons of its own to refuse the
statement, and the connection may be lost — before the server did the work, or
after it, when only the reply is missing.

A lost connection takes the session with it: whatever the session had not made
durable is rolled back.
-/

namespace PlexPostgres.Postgres

/-- What happens to a statement. -/
inductive Verdict where
  /-- The server does what the statement says, if the session lets it. -/
  | accept
  /-- The server refuses it.  A refused COMMIT may end the transaction (a deferred
  constraint does), any other refusal only aborts it. -/
  | refuse (ends : Bool)
  /-- The connection is lost, before or after the statement was carried out; libpq
  then has no result at all, or an error result. -/
  | lose (applied noResult : Bool)
  deriving DecidableEq, Repr

/-- **The fate of a statement**: the verdict, and the text of the error message should
there be one. -/
structure Fate where
  verdict : Verdict
  message : Option Text
  deriving DecidableEq, Repr

/-- Nothing goes wrong. -/
def Fate.fine : Fate := ⟨.accept, none⟩

/-- What the client gets back: success, or a failure with its error message, when
there is a result to ask for one. -/
inductive Answer where
  | ok
  | failed (result : Option (Option Text))
  deriving DecidableEq, Repr

/-- **A connection**: no libpq connection at all, one that is lost, or one with a
session behind it. -/
inductive Link (ω : Type*) where
  | closed
  | down
  | up (session : Session ω)
  deriving DecidableEq, Repr

/-- The outcome of sending a statement: the answer, the connection after it, and the
writes that became durable. -/
structure Outcome (ω : Type*) where
  answer : Answer
  link : Link ω
  committed : List ω
  deriving DecidableEq, Repr

namespace Link

variable {ω : Type*}

/-- `PQtransactionStatus`. -/
def status : Link ω → TxnStatus
  | up s => s.status
  | closed | down => .unknown

/-- Is the server in a transaction, sound or aborted? -/
def inTransaction (l : Link ω) : Bool := l.status = .inTrans || l.status = .inError

/-- `PQstatus` is `CONNECTION_OK`. -/
def isOk : Link ω → Bool
  | up _ => true
  | closed | down => false

variable {l : Link ω}

theorem exists_of_isOk (isOk : l.isOk = true) : ∃ s, l = up s := by
  cases l with
  | up s => exact ⟨s, rfl⟩
  | closed | down => cases isOk

/-- **Send a statement** the server reacts to with `react`. -/
def send (l : Link ω) (isCommit : Bool) (react : Session ω → Reply ω) (fate : Fate) : Outcome ω :=
  match l, fate.verdict with
  | up s, .accept =>
    let reply := react s
    ⟨if reply.ok then .ok else .failed (some fate.message), up reply.session, reply.committed⟩
  | up s, .refuse ends =>
    ⟨.failed (some fate.message), up (if isCommit && ends then .idle else s.refused), []⟩
  | up s, .lose applied noResult =>
    ⟨.failed (if noResult then none else some fate.message), down,
      if applied then (react s).committed else []⟩
  | l, .lose _ noResult => ⟨.failed (if noResult then none else some fate.message), l, []⟩
  | l, _ => ⟨.failed (some fate.message), l, []⟩

/-- A control statement, as text. -/
def exec (l : Link ω) (sql : Text) (fate : Fate) : Outcome ω :=
  l.send (parseControl sql = some .commit) (·.exec sql) fate

/-- A data-changing statement. -/
def write (l : Link ω) (w : ω) (fate : Fate) : Outcome ω := l.send false (·.write w) fate

/-- A statement that changes no data. -/
def query (l : Link ω) (fate : Fate) : Outcome ω := l.send false (·.query) fate

/-- No libpq connection behind it: the pointer is null. -/
def isClosed : Link ω → Bool
  | closed => true
  | down | up _ => false

/-! ### Transactions along a statement -/

theorem inTransaction_iff (l : Link ω) :
    l.inTransaction = true ↔ ∃ aborted savepoints writes,
      l = up (.inTxn aborted savepoints writes) := by
  cases l with
  | closed | down => simp [inTransaction, status]
  | up s => cases s with
    | idle => simp [inTransaction, status, Session.status]
    | inTxn aborted savepoints writes =>
      cases aborted <;> simp [inTransaction, status, Session.status]

@[simp] theorem inTransaction_down : (down : Link ω).inTransaction = false := rfl

@[simp] theorem inTransaction_closed : (closed : Link ω).inTransaction = false := rfl

@[simp] theorem inTransaction_idle : (up (.idle : Session ω)).inTransaction = false := rfl

@[simp] theorem inTransaction_inTxn (aborted : Bool) (savepoints : List (Savepoint ω))
    (writes : List ω) : (up (.inTxn aborted savepoints writes)).inTransaction = true := by
  cases aborted <;> rfl

/-- Over a connection that is not up every statement fails and nothing changes. -/
theorem send_of_not_up (notUp : l.isOk = false) (isCommit : Bool) (react : Session ω → Reply ω)
    (fate : Fate) :
    (∃ r, (l.send isCommit react fate).answer = .failed r) ∧
      (l.send isCommit react fate).link = l ∧ (l.send isCommit react fate).committed = [] := by
  cases l with
  | up s => cases notUp
  | closed | down => cases hv : fate.verdict <;> simp [send, hv]

variable {fate : Fate}

theorem send_accept (s : Session ω) (isCommit : Bool) (react : Session ω → Reply ω)
    (hv : fate.verdict = .accept) :
    (up s).send isCommit react fate =
      ⟨if (react s).ok then .ok else .failed (some fate.message), up (react s).session,
        (react s).committed⟩ := by
  simp [send, hv]

theorem send_refuse (s : Session ω) (isCommit : Bool) (react : Session ω → Reply ω) {ends : Bool}
    (hv : fate.verdict = .refuse ends) :
    (up s).send isCommit react fate =
      ⟨.failed (some fate.message), up (if isCommit && ends then .idle else s.refused), []⟩ := by
  simp [send, hv]

theorem send_lose (s : Session ω) (isCommit : Bool) (react : Session ω → Reply ω)
    {applied noResult : Bool} (hv : fate.verdict = .lose applied noResult) :
    (up s).send isCommit react fate =
      ⟨.failed (if noResult then none else some fate.message), down,
        if applied then (react s).committed else []⟩ := by
  simp [send, hv]

/-- A statement is answered with success only by a session that carried it out. -/
theorem send_ok_iff (isCommit : Bool) (react : Session ω → Reply ω) (fate : Fate) :
    (l.send isCommit react fate).answer = .ok ↔
      ∃ s, l = up s ∧ fate.verdict = .accept ∧ (react s).ok = true := by
  cases l with
  | closed | down => cases hv : fate.verdict <;> simp [send, hv]
  | up s =>
    cases hv : fate.verdict with
    | accept => cases hr : (react s).ok <;> simp [send_accept s isCommit react hv, hr]
    | refuse ends => simp [send_refuse s isCommit react hv]
    | lose applied noResult => simp [send_lose s isCommit react hv]

/-- There is no result at all only when the connection is lost. -/
theorem lose_of_no_result {isCommit : Bool} {react : Session ω → Reply ω}
    (missing : (l.send isCommit react fate).answer = .failed none) :
    ∃ applied, fate.verdict = .lose applied true := by
  cases hv : fate.verdict with
  | accept =>
    cases l with
    | closed | down => simp [send, hv] at missing
    | up s => cases hr : (react s).ok <;> simp [send, hv, hr] at missing
  | refuse => cases l <;> simp [send, hv] at missing
  | lose applied noResult =>
    cases noResult with
    | true => exact ⟨applied, rfl⟩
    | false => cases l <;> simp [send, hv] at missing

variable {sql : Text}

section

variable {c : Control} (parsed : parseControl sql = some c) (keeps : c.keeps = true)

include parsed keeps

/-- A savepoint statement, as the server reads it. -/
theorem exec_control (l : Link ω) : l.exec sql fate = l.send false (·.control c) fate := by
  have notCommit : decide (parseControl sql = some .commit) = false := by
    rw [parsed]
    cases c with
    | begin | commit | rollback => cases keeps
    | savepoint | release | rollbackTo => rfl
  have same : (fun s : Session ω => s.exec sql) = fun s => s.control c := by
    funext s
    simp [Session.exec, parsed]
  rw [exec, notCommit, same]

/-- A savepoint statement leaves an open transaction open, unless the connection is
lost with it. -/
theorem exec_keeps (isOpen : l.inTransaction = true) (fate : Fate) :
    (l.exec sql fate).link.inTransaction = true ∨ ∃ r, (l.exec sql fate).answer = .failed r := by
  obtain ⟨aborted, savepoints, writes, rfl⟩ := (inTransaction_iff l).mp isOpen
  rw [exec_control parsed keeps]
  cases hv : fate.verdict with
  | accept =>
    left
    obtain ⟨aborted', savepoints', writes', session⟩ :=
      Session.control_keeps keeps aborted savepoints writes
    simp [send_accept _ _ _ hv, session]
  | refuse ends =>
    left
    simp [send_refuse _ _ _ hv, Session.refused]
  | lose applied noResult =>
    right
    simp [send_lose _ _ _ hv]

end

/-- COMMIT and ROLLBACK that are answered with success leave nothing open. -/
theorem exec_finishes
    (parsed : parseControl sql = some .commit ∨ parseControl sql = some .rollback) (fate : Fate)
    (ok : (l.exec sql fate).answer = .ok) : (l.exec sql fate).link.inTransaction = false := by
  obtain ⟨s, rfl, accepted, -⟩ := (send_ok_iff _ _ fate).mp ok
  rw [exec, send_accept s _ _ accepted]
  rcases parsed with parsed | parsed <;> cases s <;> simp [Session.exec, parsed, Session.control]

/-- BEGIN with nothing open: a transaction is open exactly when it succeeds. -/
theorem exec_begins (parsed : parseControl sql = some .begin) (idle : l.inTransaction = false)
    (fate : Fate) :
    (l.exec sql fate).link.inTransaction = true ↔ (l.exec sql fate).answer = .ok := by
  cases ok : l.isOk with
  | false =>
    obtain ⟨⟨r, failed⟩, same, -⟩ := send_of_not_up ok (parseControl sql = some .commit)
      (·.exec sql) fate
    rw [exec, same, failed, idle]
    simp
  | true =>
    obtain ⟨s, rfl⟩ := exists_of_isOk ok
    cases s with
    | inTxn => simp at idle
    | idle =>
      cases hv : fate.verdict with
      | accept => simp [exec, send_accept _ _ _ hv, Session.exec, parsed, Session.control]
      | refuse ends => simp [exec, send_refuse _ _ _ hv, Session.refused]
      | lose applied noResult => simp [exec, send_lose _ _ _ hv]

end Link

/-! ### One statement after another -/

namespace Outcome

variable {ω : Type*}

/-- Nothing sent yet. -/
def nothing (l : Link ω) : Outcome ω := ⟨.ok, l, []⟩

/-- Send the next statement; its answer counts. -/
def andThen (out : Outcome ω) (next : Link ω → Outcome ω) : Outcome ω :=
  ⟨(next out.link).answer, (next out.link).link, out.committed ++ (next out.link).committed⟩

/-- Send another statement whose answer nobody looks at. -/
def followedBy (out : Outcome ω) (next : Link ω → Outcome ω) : Outcome ω :=
  { out.andThen next with answer := out.answer }

end Outcome

end PlexPostgres.Postgres
