import PlexPostgres.Library.Text
import PlexPostgres.Library.Stack

/-!
# A PostgreSQL session

The server's side of a connection, as far as transactions go: a session is idle,
or in a transaction that is sound or aborted.  An open transaction has the writes
made in it so far and a stack of savepoints, each with the writes that had been
made when it was set, so that rolling back to it is restoring them.

The type `ω` of writes is arbitrary: a write is whatever one data-changing
statement does, and only its identity matters.
-/

namespace PlexPostgres.Postgres

/-! ### Control statements -/

/-- A transaction-control statement, as the server reads it. -/
inductive Control where
  | begin
  | commit
  | rollback
  | savepoint (name : Text)
  | release (name : Text)
  | rollbackTo (name : Text)
  deriving DecidableEq, Repr

/-- The control statements that work inside a transaction and do not end it. -/
def Control.keeps : Control → Bool
  | .savepoint _ | .release _ | .rollbackTo _ => true
  | .begin | .commit | .rollback => false

/-- **Reading a control statement.** -/
def parseControl (sql : Text) : Option Control :=
  if sql = "BEGIN".toList then some .begin
  else if sql = "COMMIT".toList then some .commit
  else if sql = "ROLLBACK".toList then some .rollback
  else if let some name := sql.dropPrefix? "SAVEPOINT ".toList then
    some (.savepoint (Text.asciiLower name))
  else if let some name := sql.dropPrefix? "RELEASE SAVEPOINT ".toList then
    some (.release (Text.asciiLower name))
  else if let some name := sql.dropPrefix? "ROLLBACK TO SAVEPOINT ".toList then
    some (.rollbackTo (Text.asciiLower name))
  else none

/-! ### Sessions -/

/-- A savepoint: its name, and the transaction's writes when it was set. -/
structure Savepoint (ω : Type*) where
  name : Text
  writes : List ω
  deriving DecidableEq, Repr

/-- **A session**: idle, or in a transaction. -/
inductive Session (ω : Type*) where
  | idle
  | inTxn (aborted : Bool) (savepoints : List (Savepoint ω)) (writes : List ω)
  deriving DecidableEq, Repr

/-- What a client can ask about a session, `PQtransactionStatus`. -/
inductive TxnStatus where
  | idle
  | inTrans
  | inError
  | unknown
  deriving DecidableEq, Repr

/-- A reply: success or not, the session after it, and the writes that became
durable with it. -/
structure Reply (ω : Type*) where
  ok : Bool
  session : Session ω
  committed : List ω
  deriving DecidableEq, Repr

namespace Session

variable {ω : Type*}

def status : Session ω → TxnStatus
  | idle => .idle
  | inTxn false _ _ => .inTrans
  | inTxn true _ _ => .inError

/-- The session after a statement failed in it: an open transaction is aborted. -/
def refused : Session ω → Session ω
  | idle => idle
  | inTxn _ savepoints writes => inTxn true savepoints writes

/-- The names of the savepoints set, outermost first. -/
def savepointNames : Session ω → List Text
  | idle => []
  | inTxn _ savepoints _ => savepoints.map (·.name)

/-- The writes waiting for a commit. -/
def pending : Session ω → List ω
  | idle => []
  | inTxn _ _ writes => writes

/-- **The reaction to a control statement.** -/
def control (s : Session ω) (c : Control) : Reply ω :=
  match s, c with
  -- Nothing is open: BEGIN opens, COMMIT and ROLLBACK only warn.
  | idle, .begin => ⟨true, inTxn false [] [], []⟩
  | idle, .commit | idle, .rollback => ⟨true, idle, []⟩
  | idle, .savepoint _ | idle, .release _ | idle, .rollbackTo _ => ⟨false, idle, []⟩
  | inTxn _ _ _, .rollback => ⟨true, idle, []⟩
  | inTxn aborted _ writes, .commit => ⟨true, idle, if aborted then [] else writes⟩
  | inTxn _ savepoints writes, .rollbackTo name =>
    match Stack.innermost (·.name == name) savepoints with
    | none => ⟨false, inTxn true savepoints writes, []⟩
    | some (below, found) => ⟨true, inTxn false (below ++ [found]) found.writes, []⟩
  | inTxn true savepoints writes, _ => ⟨false, inTxn true savepoints writes, []⟩
  -- A nested BEGIN only warns.
  | inTxn false savepoints writes, .begin => ⟨true, inTxn false savepoints writes, []⟩
  | inTxn false savepoints writes, .savepoint name =>
    ⟨true, inTxn false (savepoints ++ [⟨name, writes⟩]) writes, []⟩
  | inTxn false savepoints writes, .release name =>
    match Stack.innermost (·.name == name) savepoints with
    | none => ⟨false, inTxn true savepoints writes, []⟩
    | some (below, _) => ⟨true, inTxn false below writes, []⟩

/-- **What a savepoint statement can do** in a transaction: it is refused, or it sets a savepoint,
releases one or goes back to one. -/
inductive Reacts (savepoints : List (Savepoint ω)) (writes : List ω) : Reply ω → Prop where
  | refused : Reacts savepoints writes ⟨false, inTxn true savepoints writes, []⟩
  | set {n : Text} :
      Reacts savepoints writes ⟨true, inTxn false (savepoints ++ [⟨n, writes⟩]) writes, []⟩
  | released {below above : List (Savepoint ω)} {found : Savepoint ω}
      (levels : savepoints = below ++ found :: above) :
      Reacts savepoints writes ⟨true, inTxn false below writes, []⟩
  | restored {below above : List (Savepoint ω)} {found : Savepoint ω}
      (levels : savepoints = below ++ found :: above) :
      Reacts savepoints writes ⟨true, inTxn false (below ++ [found]) found.writes, []⟩

section

variable {c : Control} (keeps : c.keeps = true) (aborted : Bool) (savepoints : List (Savepoint ω))
  (writes : List ω)

include keeps

theorem control_reacts :
    Reacts savepoints writes ((inTxn aborted savepoints writes).control c) := by
  cases c with
  | begin | commit | rollback => cases keeps
  | savepoint n =>
    cases aborted with
    | true => exact .refused
    | false => exact .set
  | release n =>
    cases aborted with
    | true => exact .refused
    | false =>
      cases found : Stack.innermost (·.name == n) savepoints with
      | none =>
        simp only [control, found]
        exact .refused
      | some r =>
        obtain ⟨-, above, levels, -⟩ := (Stack.innermost_eq_some_iff _ _ _ _).mp found
        simp only [control, found]
        exact .released levels
  | rollbackTo n =>
    cases found : Stack.innermost (·.name == n) savepoints with
    | none =>
      simp only [control, found]
      exact .refused
    | some r =>
      obtain ⟨-, above, levels, -⟩ := (Stack.innermost_eq_some_iff _ _ _ _).mp found
      simp only [control, found]
      exact .restored levels

/-- A savepoint statement leaves an open transaction open, whatever it answers. -/
theorem control_keeps :
    ∃ aborted' savepoints' writes',
      ((inTxn aborted savepoints writes).control c).session =
        inTxn aborted' savepoints' writes' := by
  have reacts := control_reacts keeps aborted savepoints writes
  generalize (inTxn aborted savepoints writes).control c = reply at reacts
  cases reacts <;> exact ⟨_, _, _, rfl⟩

end

/-- **The reaction to a statement sent as text**; what is no control statement is
a syntax error here. -/
def exec (s : Session ω) (sql : Text) : Reply ω :=
  match parseControl sql with
  | some c => s.control c
  | none => ⟨false, s.refused, []⟩

/-- **The reaction to a data-changing statement** the server has nothing against:
durable at once outside a transaction, kept with the transaction inside it. -/
def write (s : Session ω) (w : ω) : Reply ω :=
  match s with
  | idle => ⟨true, idle, [w]⟩
  | inTxn true savepoints writes => ⟨false, inTxn true savepoints writes, []⟩
  | inTxn false savepoints writes => ⟨true, inTxn false savepoints (writes ++ [w]), []⟩

/-- The reaction to a statement that changes no data: a SELECT, a PREPARE. -/
def query (s : Session ω) : Reply ω :=
  match s with
  | inTxn true savepoints writes => ⟨false, inTxn true savepoints writes, []⟩
  | s => ⟨true, s, []⟩

end Session

end PlexPostgres.Postgres
