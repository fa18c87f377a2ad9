import PlexPostgres.Postgres.Link
import PlexPostgres.Txn.Plan

/-!
# The registry of open transactions, and the world it lives in

The process keeps one registry: the transaction state of each PostgreSQL
connection, and for each SQLite handle the connection its transaction is *pinned*
to.  The world beside it is made of the connections themselves, with the server
sessions behind them, and of the writes that are durable on the server.

Connections and handles are the addresses the program keys its maps by; address 0
is the null pointer.
-/

namespace PlexPostgres.Txn

open Postgres

abbrev ConnId := ℕ

abbrev DbId := ℕ

/-- **The registry**: the transaction of a connection, and the connection a handle's
transaction is on. -/
structure Registry where
  byConn : ConnId → Option TxnState
  pins : DbId → Option ConnId

namespace Registry

/-- No transaction is known. -/
def empty : Registry := ⟨fun _ => none, fun _ => none⟩

/-- Drop whatever transaction state `conn` had, and every pin to it. -/
def forgetConnection (reg : Registry) (conn : ConnId) : Registry where
  byConn := Function.update reg.byConn conn none
  pins db := (reg.pins db).filter (· ≠ conn)

/-- Record an open transaction: the handle is pinned to the connection. -/
def record (reg : Registry) (conn : ConnId) (db : DbId) (state : TxnState) : Registry where
  byConn := Function.update reg.byConn conn (some state)
  pins := Function.update reg.pins db (some conn)

/-- Drop the pin `db` holds, when the handle closes. -/
def forgetDb (reg : Registry) (db : DbId) : Registry :=
  { reg with pins := Function.update reg.pins db none }

/-- The transaction of a connection, the empty one if none is recorded. -/
def stateOf (reg : Registry) (conn : ConnId) : TxnState := (reg.byConn conn).getD .empty

@[simp] theorem stateOf_forgetConnection (reg : Registry) (conn : ConnId) :
    (reg.forgetConnection conn).stateOf conn = .empty := by
  simp [stateOf, forgetConnection]

@[simp] theorem stateOf_record (reg : Registry) (conn : ConnId) (db : DbId) (state : TxnState) :
    (reg.record conn db state).stateOf conn = state := by
  simp [stateOf, record]

end Registry

/-- A connection of the pool, as far as the statements that run on it see it. -/
structure Connection (ω : Type*) where
  link : Link ω
  /-- `is_pg_active`. -/
  active : Bool
  /-- A result is being streamed over it. -/
  streaming : Bool
  /-- What `sqlite3_errmsg` will say. -/
  lastError : Option Text

/-- **The world**: the connections, the registry, and what is durable on the server. -/
structure World (ω : Type*) where
  conns : ConnId → Connection ω
  registry : Registry
  durable : List ω

namespace World

variable {ω : Type*}

/-- Every connection up and idle, no transaction recorded, nothing durable yet. -/
def fresh : World ω where
  conns _ := ⟨.up .idle, true, false, none⟩
  registry := .empty
  durable := []

/-- Change one connection. -/
def setConn (w : World ω) (conn : ConnId) (f : Connection ω → Connection ω) : World ω :=
  { w with conns := Function.update w.conns conn (f (w.conns conn)) }

/-- Change the registry. -/
def mapRegistry (w : World ω) (f : Registry → Registry) : World ω :=
  { w with registry := f w.registry }

/-- The server side of a connection. -/
def link (w : World ω) (conn : ConnId) : Link ω := (w.conns conn).link

/-- What sending a statement over `conn` changes: its link, and what is durable. -/
def after (w : World ω) (conn : ConnId) (link : Link ω) (committed : List ω) : World ω :=
  { w.setConn conn fun c => { c with link } with durable := w.durable ++ committed }

section

variable (w : World ω)
include w

@[simp] theorem setConn_conns (conn : ConnId) (f : Connection ω → Connection ω) :
    (w.setConn conn f).conns conn = f (w.conns conn) := by
  simp [setConn]

/-- **The frame rule**: what a change of one connection keeps, and no change breaks, is so of all.
-/
theorem setConn_rel {r : Connection ω → Connection ω → Prop} (refl : ∀ c, r c c) (conn : ConnId)
    {f : Connection ω → Connection ω} (here : r (w.conns conn) (f (w.conns conn))) (d : ConnId) :
    r (w.conns d) ((w.setConn conn f).conns d) := by
  by_cases same : d = conn
  · subst same
    rw [setConn_conns]
    exact here
  · simp only [setConn, Function.update_of_ne same]
    exact refl _

@[simp] theorem setConn_registry (conn : ConnId)
    (f : Connection ω → Connection ω) : (w.setConn conn f).registry = w.registry := rfl

@[simp] theorem setConn_durable (conn : ConnId)
    (f : Connection ω → Connection ω) : (w.setConn conn f).durable = w.durable := rfl

@[simp] theorem mapRegistry_conns (f : Registry → Registry) :
    (w.mapRegistry f).conns = w.conns := rfl

@[simp] theorem mapRegistry_registry (f : Registry → Registry) :
    (w.mapRegistry f).registry = f w.registry := rfl

@[simp] theorem mapRegistry_durable (f : Registry → Registry) :
    (w.mapRegistry f).durable = w.durable := rfl

@[simp] theorem after_link (conn : ConnId) (link : Link ω) (committed : List ω) :
    (w.after conn link committed).link conn = link := by
  simp [after, World.link]

@[simp] theorem after_registry (conn : ConnId) (link : Link ω)
    (committed : List ω) : (w.after conn link committed).registry = w.registry := rfl

@[simp] theorem after_durable (conn : ConnId) (link : Link ω)
    (committed : List ω) : (w.after conn link committed).durable = w.durable ++ committed := rfl

end

/-! ### The questions asked -/

/-- Whether a transaction is recorded as open on `conn`. -/
def inTransaction (w : World ω) (conn : ConnId) : Bool :=
  conn ≠ 0 && (w.registry.stateOf conn).isOpen

/-- **The connection `db`'s open transaction is on**, 0 if there is none.  A pin whose
connection no longer has it open for this handle, or is not active, is dropped. -/
def pinnedConn (w : World ω) (db : DbId) : ConnId × World ω :=
  if db = 0 then (0, w)
  else
    match w.registry.pins db with
    | none => (0, w)
    | some conn =>
      let state := w.registry.stateOf conn
      let live := state.isOpen && state.db = db && conn ≠ 0 && (w.conns conn).active
      if live then (conn, w)
      else (0, w.mapRegistry fun reg => { reg with pins := Function.update reg.pins db none })

/-! ### Running a command -/

/-- The message a failed statement leaves. -/
def failureMessage : Option (Option Text) → Text
  | none => "PostgreSQL connection lost".toList
  | some none => "PostgreSQL error".toList
  | some (some message) => Text.trimEnd message

/-- **Send the planned statements in order**, up to the first that fails: its result,
the connection after it, and what became durable.  A statement with a NUL in it
cannot be made a C string and is passed over. -/
def sendStatements : Link ω → List Text → (ℕ → Fate) →
    Option (Option (Option Text)) × Link ω × List ω
  | link, [], _ => (none, link, [])
  | link, sql :: rest, fates =>
    if '\x00' ∈ sql then sendStatements link rest fun i => fates (i + 1)
    else
      let out := link.exec sql (fates 0)
      match out.answer with
      | .failed result => (some result, out.link, out.committed)
      | .ok =>
        let (failure, last, committed) := sendStatements out.link rest fun i => fates (i + 1)
        (failure, last, out.committed ++ committed)

/-- The handle recorded with the state after a plan. -/
def withHandle (next : TxnState) (db : DbId) : TxnState :=
  if !next.isOpen then { next with db := 0 }
  else if next.db = 0 then { next with db }
  else next

/-- **Run a transaction command** for handle `db` on `conn`; `fates` are the fates of
the planned statements, by their position in the plan. -/
def run (w : World ω) (conn : ConnId) (db : DbId) (cmd : TxnCmd) (fates : ℕ → Fate) :
    Except Text Unit × World ω :=
  if conn = 0 then (.error "no PostgreSQL connection for transaction control".toList, w)
  else
    match w.link conn with
    | .closed => (.error "PostgreSQL connection is closed".toList, w)
    | link =>
      let planned := plan (w.registry.stateOf conn) cmd
      let next := withHandle planned.2 db
      match sendStatements link planned.1 fates with
      | (some result, last, committed) =>
        let message := failureMessage result
        let w := (w.after conn last committed).setConn conn fun c =>
          { c with lastError := some message }
        -- What PostgreSQL thinks is what counts from here.
        (.error message,
          if last.inTransaction then w else w.mapRegistry (·.forgetConnection conn))
      | (none, last, committed) =>
        (.ok (), (w.after conn last committed).mapRegistry fun reg =>
          if next.isOpen then reg.record conn db next else reg.forgetConnection conn)

section Run

variable {w : World ω} {conn : ConnId} (nonNull : conn ≠ 0) (notClosed : w.link conn ≠ .closed)
  (db : DbId) {cmd : TxnCmd} {fates : ℕ → Fate} {last : Link ω} {committed : List ω}

include nonNull notClosed

theorem run_of_failed {result : Option (Option Text)}
    (sent : sendStatements (w.link conn) (plan (w.registry.stateOf conn) cmd).1 fates =
      (some result, last, committed)) :
    w.run conn db cmd fates =
      (.error (failureMessage result),
        let failed := (w.after conn last committed).setConn conn fun c =>
          { c with lastError := some (failureMessage result) }
        if last.inTransaction then failed else failed.mapRegistry (·.forgetConnection conn)) := by
  rw [run, if_neg nonNull]
  cases hl : w.link conn with
  | closed => exact absurd hl notClosed
  | down | up => rw [hl] at sent; simp only [sent]

theorem run_of_sent
    (sent : sendStatements (w.link conn) (plan (w.registry.stateOf conn) cmd).1 fates =
      (none, last, committed)) :
    w.run conn db cmd fates =
      (.ok (), (w.after conn last committed).mapRegistry fun reg =>
        let next := withHandle (plan (w.registry.stateOf conn) cmd).2 db
        if next.isOpen then reg.record conn db next else reg.forgetConnection conn) := by
  rw [run, if_neg nonNull]
  cases hl : w.link conn with
  | closed => exact absurd hl notClosed
  | down | up => rw [hl] at sent; simp only [sent]

end Run

end World

end PlexPostgres.Txn
