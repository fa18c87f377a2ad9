import Mathlib.Algebra.Group.Int.Defs
import PlexPostgres.Exec.Home

/-!
# The row id of the last INSERT

`sqlite3_last_insert_rowid` is answered from two fields of a connection: the id the server
last returned for a write on it, and a mark that the last INSERT on it was refused.  Three paths
send writes, each with a rule of its own for the fields, and the connection that is asked is
found anew: the one the handle's transaction is pinned to, or what the pool has for the thread.

A run is made of deeds as in `Exec.Home`, each with what came back for it.  Beside the process
stand the fields of the connections, and `due`: what the handle should be told by what its own
INSERTs did.

A step keeps the first column of whatever rows a write returns.  A statement that is not
registered keeps nothing of what it inserts.
-/

namespace PlexPostgres

open Postgres Txn Routing
open Function (update update_eq_self update_of_ne update_self)

variable {ω : Type*}

/-! ### The fields -/

/-- **What a connection remembers of its inserts.** -/
structure InsertMemory where
  lastInsertRowid : ℤ
  lastInsertFailed : Bool
  deriving DecidableEq, Repr

namespace InsertMemory

/-- A connection nothing was inserted on. -/
def new : InsertMemory := ⟨0, false⟩

/-- What `sqlite3_last_insert_rowid` says by the fields. -/
def answer (m : InsertMemory) : ℤ :=
  if m.lastInsertFailed then 0
  else if 0 < m.lastInsertRowid then m.lastInsertRowid
  else 0

end InsertMemory

/-- The white space of C. -/
def isCSpace (c : Char) : Bool := c = ' ' || (9 ≤ c.toNat && c.toNat ≤ 13)

/-- The number that the digits at the front of a text say. -/
def leadingNumber (t : Text) : ℤ :=
  (t.takeWhile Char.isDigit).foldl (fun n c => 10 * n + (c.toNat - 48)) 0

/-- `atoll`, which stops at the ends of 64 bits. -/
def atoll (t : Text) : ℤ :=
  let n := match t.dropWhile isCSpace with
    | '-' :: t => -leadingNumber t
    | '+' :: t => leadingNumber t
    | t => leadingNumber t
  max (-2 ^ 63) (min n (2 ^ 63 - 1))

/-- `pg_text_to_int64_impl`. -/
def pgTextToInt64 (t : Text) : ℤ :=
  if t = ['t'] then 1 else if t = ['f'] then 0 else atoll t

/-- **The row id in the first column of the first row**, if it reads as a positive number; 63
bytes of it are looked at. -/
def returnedRowid (cell : Option Text) : Option ℤ :=
  (cell.map fun t => t.take 63).bind fun t =>
    if t ≠ [] ∧ 0 < pgTextToInt64 t then some (pgTextToInt64 t) else none

/-- Does the shim take a text for an INSERT? -/
def leadsInsert (sql : Text) : Bool := Text.startsWithIcase "INSERT".toList sql

namespace InsertMemory

/-- A row came back for a write. -/
def noteRow (m : InsertMemory) (cell : Option Text) : InsertMemory :=
  match returnedRowid cell with
  | some rowid => ⟨rowid, false⟩
  | none => m

/-- `note_failed_write`, as far as the fields go. -/
def noteFailedWrite (m : InsertMemory) (sql : Text) : InsertMemory :=
  if leadsInsert sql then { m with lastInsertFailed := true } else m

end InsertMemory

/-! ### The writes of the three paths -/

/-- The paths that send writes. -/
inductive WritePath where
  | step
  | cached
  | exec
  deriving DecidableEq, Repr

/-- **A write that was sent**: by which path and where, its text, and the class of its error,
if the server did not accept it. -/
structure Sent where
  path : WritePath
  conn : ConnId
  /-- The other connection a refusal is noted on. -/
  base : ConnId
  sql : Text
  failure : Option Step.ErrorClass
  deriving DecidableEq, Repr

/-- What came back for a statement. -/
structure Returned where
  /-- The first column of the first row, if there are rows and it is not null. -/
  cell : Option Text
  /-- It is an INSERT. -/
  isInsert : Bool
  /-- The ids of the rows it created, in order. -/
  created : List ℤ
  deriving DecidableEq, Repr

namespace Sent

/-- A write the server accepted, by the rule of its path: a step reads the row of any write, a
script that of an INSERT; a statement that is not registered reads none. -/
def noteAccepted (sent : Sent) (m : InsertMemory) (cell : Option Text) : InsertMemory :=
  match sent.path with
  | .step => m.noteRow cell
  | .exec => if leadsInsert sent.sql then m.noteRow cell else m
  | .cached => m

/-- **The fields after a write.** -/
def remember (sent : Sent) (cell : Option Text) (memory : ConnId → InsertMemory) :
    ConnId → InsertMemory :=
  match sent.failure with
  | none => update memory sent.conn (sent.noteAccepted (memory sent.conn) cell)
  | some .fail =>
    let memory := update memory sent.conn
      ((memory sent.conn).noteFailedWrite sent.sql)
    if sent.base = sent.conn then memory
    else update memory sent.base ((memory sent.base).noteFailedWrite sent.sql)
  | some .retry | some .stalePlan => memory

end Sent

namespace Step

/-- **The write of an attempt**, if it is sent. -/
def writeSent (cfg : Config) (w : World ω) (stmt : Stmt ω) (env : Env) : Option Sent :=
  if env.lookup.inResolve then none
  else
    match stmt.kind, stmt.pgSql, chooseConn w stmt env.lookup with
    | .write, some pgSql, (conn, w) =>
      if conn = 0 then none
      else (writePlace cfg w stmt pgSql conn env).map fun place =>
        ⟨.step, place.1, place.1, stmt.sql, writeClass cfg w stmt pgSql conn env⟩
    | _, _, _ => none

/-- **The write of a statement that is not registered**, if it is sent. -/
def cachedSent (cfg : CachedConfig) (w : World ω) (u : Unregistered ω) (env : CachedEnv) :
    Option Sent :=
  if isLeftAlone w u env || (cfg.forwarding && (classifySql u.sql).isSome) ||
      isSqlitePassthrough u.text ||
      !(isWriteOperation u.text && !shouldSkip cfg.debug u.text && !shouldSkip cfg.debug u.sql)
    then none
  else (cachedWritePlace w u env).map fun conn =>
    let w := afterRace w conn env.connect.raced
    let out := sent cfg.toConfig w u.asWrite conn env.toEnv
    ⟨.cached, conn, cachedBase env, u.text,
      answerClass (w.after conn out.link out.committed) conn out.answer env.error⟩

end Step

/-- **The text of a script**, if it is sent. -/
def Exec.scriptSent (cfg : Exec.ExecConfig) (tr : Exec.Translator)
    (server : Text → Session ω → Reply ω) (w : World ω) (db : DbId) (sql : Text)
    (env : Exec.ExecEnv) : Option Sent :=
  if (Exec.forwardedAs cfg sql).isSome then none
  else (Exec.execPlace cfg tr w db sql env).map fun conn =>
    ⟨.exec, conn, conn, sql, Exec.scriptClass cfg tr server w db sql env⟩

/-! ### Deeds and what is due -/

namespace Process

variable (cfg : Step.CachedConfig) (tr : Exec.Translator) (server : Text → Session ω → Reply ω)

/-- **The write a deed sends**, if it sends one. -/
def written (s : Process ω) : Deed ω → Option Sent
  | .attempt id env => Step.writeSent cfg.toConfig s.world (s.stmts id) env
  | .cached u env => Step.cachedSent cfg s.world u env
  | .exec db sql env => Exec.scriptSent cfg.exec tr server s.world db sql env
  | .register _ _ | .clear _ | .metadata _ _ => none

/-- A deed that is answered with an error, and whether it asks to be tried again. -/
def failure (s : Process ω) : Deed ω → Option Bool
  | .attempt id env =>
    let a := Step.attempt cfg.toConfig s.world (s.stmts id) env
    if a.rc = .error then some a.connError else none
  | .cached u env =>
    let c := Step.cachedStep cfg s.world u env
    if c.rc = .error then some c.connError else none
  | .exec db sql env =>
    let a := Exec.execAttempt cfg.exec tr server s.world db sql env
    if a.rc = .error then some a.connError else none
  | .register _ _ | .clear _ | .metadata _ _ => none

instance (db : DbId) (s : Process ω) (deed : Deed ω) : Decidable (IssuedBy db s deed) := by
  cases deed <;> unfold IssuedBy <;> infer_instance

end Process

/-- **The process with the fields of its connections**, and what the handle should be told:
nothing is known of an INSERT that was lost with its connection. -/
structure Books (ω : Type*) where
  process : Process ω
  memory : ConnId → InsertMemory
  due : Option ℤ

/-- What a call of `sqlite3_last_insert_rowid` meets. -/
structure AskEnv where
  /-- It comes from within the shim. -/
  nested : Bool
  /-- `peek_connection`. -/
  peeked : ConnId
  /-- What real SQLite says, if it can be asked. -/
  sqlite : Option ℤ
  /-- The row id of the whole process. -/
  global : ℤ
  deriving DecidableEq, Repr

/-- `write_conn`. -/
def writeConn (w : World ω) (db : DbId) (ask : AskEnv) : ConnId :=
  if (w.pinnedConn db).1 = 0 then ask.peeked else (w.pinnedConn db).1

namespace Books

/-- **`sqlite3_last_insert_rowid`.** -/
def lastInsertRowid (b : Books ω) (db : DbId) (ask : AskEnv) : ℤ :=
  if ask.nested then 0
  else if writeConn b.process.world db ask = 0 then
    ask.sqlite.getD (if 0 < ask.global then ask.global else 0)
  else (b.memory (writeConn b.process.world db ask)).answer

variable (cfg : Step.CachedConfig) (tr : Exec.Translator) (server : Text → Session ω → Reply ω)
  (db : DbId)

/-- **What is due** after a deed.  An INSERT that is accepted makes it the id of the last row it
created, one that fails for good makes it 0. -/
def dueAfter (b : Books ω) (deed : Deed ω) (returned : Returned) : Option ℤ :=
  if b.process.IssuedBy db deed ∧ returned.isInsert = true then
    match b.process.written cfg tr server deed with
    | some sent =>
      match sent.failure with
      | none => returned.created.getLast?.or b.due
      | some .fail => some 0
      | some .retry | some .stalePlan => none
    | none =>
      match b.process.failure cfg tr server deed with
      | none => b.due
      | some true => none
      | some false => some 0
  else b.due

/-- **A deed is done.** -/
def next (b : Books ω) (e : Deed ω × Returned) : Books ω where
  process := b.process.next cfg tr server db e.1
  memory :=
    match b.process.written cfg tr server e.1 with
    | some sent => sent.remember e.2.cell b.memory
    | none => b.memory
  due := b.dueAfter cfg tr server db e.1 e.2

/-- **The condition on a deed.**  The handle's INSERTs begin with that word and are sent on one
connection `conn`, on which no other handle writes.  An INSERT that is accepted returns the id
of the last row it created, and nothing if it created none; one that is not registered creates
none.  An INSERT that fails was sent.  Of the handle's other statements none begins with INSERT,
and those that are stepped return no number as their first column. -/
structure Kept (conn : ConnId) (b : Books ω) (e : Deed ω × Returned) : Prop where
  inserts : b.process.IssuedBy db e.1 → e.2.isInsert = true →
    ∀ sent ∈ b.process.written cfg tr server e.1, sent.conn = conn ∧ leadsInsert sent.sql = true ∧
      (sent.failure = none →
        if sent.path = .cached then e.2.created = []
        else returnedRowid e.2.cell = e.2.created.getLast?)
  sent : b.process.IssuedBy db e.1 → e.2.isInsert = true →
    b.process.failure cfg tr server e.1 = some false →
      (b.process.written cfg tr server e.1).isSome = true
  others : b.process.IssuedBy db e.1 → e.2.isInsert = false →
    ∀ sent ∈ b.process.written cfg tr server e.1, leadsInsert sent.sql = false ∧
      (sent.path = .step → returnedRowid e.2.cell = none)
  apart : ¬b.process.IssuedBy db e.1 →
    ∀ sent ∈ b.process.written cfg tr server e.1, sent.conn ≠ conn ∧ sent.base ≠ conn

end Books

/-! ### The fields after a write -/

variable {rowid : ℤ}

theorem returnedRowid_pos {cell : Option Text} (returned : returnedRowid cell = some rowid) :
    0 < rowid := by
  obtain ⟨t, -, reads⟩ := Option.bind_eq_some_iff.mp returned
  split at reads
  next positive =>
    cases reads
    exact positive.2
  · cases reads

namespace InsertMemory

theorem answer_noteRow (m : InsertMemory) {cell : Option Text}
    (returned : returnedRowid cell = some rowid) : (m.noteRow cell).answer = rowid := by
  simp only [noteRow, returned, answer, Bool.false_eq_true, if_false,
    if_pos (returnedRowid_pos returned)]

theorem noteRow_of_none (m : InsertMemory) {cell : Option Text}
    (nothing : returnedRowid cell = none) :
    m.noteRow cell = m := by
  simp only [noteRow, nothing]

end InsertMemory

namespace Sent

variable {sent : Sent} (cell : Option Text) (memory : ConnId → InsertMemory) {conn : ConnId}

/-- A write is not noted elsewhere. -/
theorem remember_elsewhere (elsewhere : sent.conn ≠ conn) (apart : sent.base ≠ conn) :
    sent.remember cell memory conn = memory conn := by
  unfold remember
  generalize sent.failure = failure
  rcases failure with _ | _ | _ | _
  · exact update_of_ne elsewhere.symm ..
  · rfl
  · rfl
  · dsimp only
    split
    · exact update_of_ne elsewhere.symm ..
    · rw [update_of_ne apart.symm, update_of_ne elsewhere.symm]

/-- A write that is no INSERT and returns no number is noted nowhere. -/
theorem remember_other (notInsert : leadsInsert sent.sql = false)
    (nothing : sent.path = .step → returnedRowid cell = none) :
    sent.remember cell memory conn = memory conn := by
  have refused (m : InsertMemory) : m.noteFailedWrite sent.sql = m := by
    rw [InsertMemory.noteFailedWrite, notInsert]
    rfl
  have accepted : sent.noteAccepted (memory sent.conn) cell = memory sent.conn := by
    unfold noteAccepted
    split
    next path => exact InsertMemory.noteRow_of_none _ (nothing path)
    · rw [notInsert]
      rfl
    · rfl
  unfold remember
  generalize sent.failure = failure
  rcases failure with _ | _ | _ | _
  · simp only [accepted, update_eq_self]
  · rfl
  · rfl
  · simp only [refused, update_eq_self, ite_self]

/-- **A refused INSERT** makes the answer 0. -/
theorem answer_remember_refused (refused : sent.failure = some .fail) (here : sent.conn = conn)
    (insert : leadsInsert sent.sql = true) : (sent.remember cell memory conn).answer = 0 := by
  have noted : sent.remember cell memory conn = (memory conn).noteFailedWrite sent.sql := by
    subst here
    simp only [remember, refused]
    split
    · rw [update_self]
    next apart => rw [update_of_ne (Ne.symm apart), update_self]
  rw [noted, InsertMemory.noteFailedWrite, insert]
  rfl

/-- **An accepted INSERT** makes it the id that came back. -/
theorem answer_remember_accepted (accepted : sent.failure = none) (here : sent.conn = conn)
    (insert : leadsInsert sent.sql = true) (path : sent.path ≠ .cached)
    (returned : returnedRowid cell = some rowid) :
    (sent.remember cell memory conn).answer = rowid := by
  subst here
  simp only [remember, accepted, update_self, noteAccepted]
  split
  · exact InsertMemory.answer_noteRow _ returned
  · rw [insert]
    exact InsertMemory.answer_noteRow _ returned
  next cached => exact absurd cached path

/-- An accepted INSERT that created no row leaves the answer as it is. -/
theorem remember_accepted_none (accepted : sent.failure = none)
    (nothing : sent.path ≠ .cached → returnedRowid cell = none) :
    sent.remember cell memory conn = memory conn := by
  have same : sent.noteAccepted (memory sent.conn) cell = memory sent.conn := by
    unfold noteAccepted
    split
    next path => exact InsertMemory.noteRow_of_none _ (nothing (by simp [path]))
    next path =>
      split
      · exact InsertMemory.noteRow_of_none _ (nothing (by simp [path]))
      · rfl
    · rfl
  simp only [remember, accepted, same, update_eq_self]

end Sent

/-! ### Runs -/

namespace Books

variable {cfg : Step.CachedConfig} {tr : Exec.Translator} {server : Text → Session ω → Reply ω}
  {db : DbId} {conn : ConnId} {b : Books ω}

/-- **What holds along a run**: the connection says what is due. -/
def Exact (conn : ConnId) (b : Books ω) : Prop := ∀ id ∈ b.due, (b.memory conn).answer = id

variable {e : Deed ω × Returned}

/-- A deed keeps to it: an INSERT of the handle's own. -/
theorem Exact.insert (told : Exact conn b) (kept : Kept cfg tr server db conn b e)
    (issued : b.process.IssuedBy db e.1) (insert : e.2.isInsert = true) :
    Exact conn (next cfg tr server db b e) := by
  intro id due
  simp only [next, dueAfter, issued, insert, and_self, if_true] at due ⊢
  cases writes : b.process.written cfg tr server e.1 with
  | some sent =>
    obtain ⟨here, leads, returns⟩ := kept.inserts issued insert sent writes
    rw [writes] at due
    dsimp only at due ⊢
    cases fared : sent.failure with
    | none =>
      have returns := returns fared
      rw [fared] at due
      dsimp only at due
      cases last : e.2.created.getLast? with
      | some rowid =>
        rw [last] at due returns
        cases due
        have path : sent.path ≠ .cached := by
          intro cached
          rw [if_pos cached] at returns
          rw [returns] at last
          cases last
        rw [if_neg path] at returns
        exact Sent.answer_remember_accepted _ _ fared here leads path returns
      | none =>
        rw [last] at due returns
        rw [Sent.remember_accepted_none _ _ fared fun path => by rwa [if_neg path] at returns]
        exact told id due
    | some c =>
      rw [fared] at due
      cases c with
      | fail =>
        cases due
        exact Sent.answer_remember_refused _ _ fared here leads
      | retry | stalePlan => cases due
  | none =>
    rw [writes] at due
    dsimp only at due ⊢
    cases failed : b.process.failure cfg tr server e.1 with
    | none =>
      rw [failed] at due
      exact told id due
    | some again =>
      rw [failed] at due
      cases again with
      | true => cases due
      | false =>
        have sent := kept.sent issued insert failed
        rw [writes] at sent
        cases sent

/-- **A deed keeps to it.** -/
theorem Exact.next (told : Exact conn b) (kept : Kept cfg tr server db conn b e) :
    Exact conn (next cfg tr server db b e) := by
  by_cases inserts : b.process.IssuedBy db e.1 ∧ e.2.isInsert = true
  · exact told.insert kept inserts.1 inserts.2
  · intro id due
    simp only [Books.next, dueAfter, inserts, if_false] at due ⊢
    cases writes : b.process.written cfg tr server e.1 with
    | none => exact told id due
    | some sent =>
      have same : sent.remember e.2.cell b.memory conn = b.memory conn := by
        by_cases issued : b.process.IssuedBy db e.1
        · obtain ⟨notInsert, nothing⟩ := kept.others issued (by simpa [issued] using inserts) sent
            writes
          exact Sent.remember_other _ _ notInsert nothing
        · obtain ⟨elsewhere, apart⟩ := kept.apart issued sent writes
          exact Sent.remember_elsewhere _ _ elsewhere apart
      dsimp only
      rw [same]
      exact told id due

end Books

/-- **The row id of the last INSERT.**  A connection starts with nothing inserted on it.  In
every run whose deeds all meet the condition, `sqlite3_last_insert_rowid` of the handle, asked
from outside the shim and of that connection, says what is due: the id of the row the handle's
last INSERT created, and 0 if that was refused or there was none. -/
theorem Books.last_insert_rowid_exact (cfg : Step.CachedConfig) (tr : Exec.Translator)
    (server : Text → Session ω → Reply ω) (db : DbId) (conn : ConnId) (nonNull : conn ≠ 0)
    (b : Books ω) (nothing : b.memory conn = .new) (start : b.due = some 0)
    (run : List (Deed ω × Returned))
    (kept : Runs.Meets (next cfg tr server db) (Kept cfg tr server db conn) b run)
    (ask : AskEnv) (outside : ask.nested = false)
    (asked : writeConn (Runs.final (next cfg tr server db) b run).process.world db ask = conn) :
    ∀ id ∈ (Runs.final (next cfg tr server db) b run).due,
      (Runs.final (next cfg tr server db) b run).lastInsertRowid db ask = id := by
  intro id due
  have told : Exact conn (Runs.final (next cfg tr server db) b run) := by
    refine kept.invariant (Exact conn) (fun _ _ told ok => told.next ok) ?_
    intro id due
    rw [start] at due
    cases due
    rw [nothing]
    rfl
  rw [lastInsertRowid, outside, asked, if_neg nonNull]
  exact told id due

/-! ### Two runs -/

namespace Books

open Step

open Thread (retrying)

/-- Handle 7 has an INSERT and an UPDATE prepared, and nothing is inserted yet. -/
def opened : Books ℕ where
  process :=
    { world := .fresh
      stmts := fun id =>
        if id = 0 then .prepared .write "INSERT INTO t (a) VALUES (1)".toList
          (some "INSERT INTO t (a) VALUES (1) RETURNING id".toList) 5 7
        else .prepared .write "UPDATE t SET a = 2 RETURNING id".toList
          (some "UPDATE t SET a = 2 RETURNING id".toList) 6 7
      home := none }
  memory _ := .new
  due := some 0

/-- Nothing goes wrong with a write on connection 1, and a row comes back. -/
def oneRow : Env := { Env.calm 1 with write := { (Env.calm 1).write with rows := some 1 } }

/-- The INSERT is stepped, and creates row 8. -/
def inserted : Deed ℕ × Returned := (.attempt 0 oneRow, ⟨some "8".toList, true, [8]⟩)

/-- The UPDATE is stepped, and changes row 3. -/
def updated : Deed ℕ × Returned := (.attempt 1 oneRow, ⟨some "3".toList, false, []⟩)

/-- An INSERT that is not registered creates row 9. -/
def insertedCached : Deed ℕ × Returned :=
  (.cached ⟨7, "INSERT INTO t (a) VALUES (3)".toList, none, 7, false, none⟩ (.calm 1),
    ⟨some "9".toList, true, [9]⟩)

/-- Connection 1 is asked. -/
def asks : AskEnv := ⟨false, 1, none, 0⟩

theorem last_insert_rowid_exact_of_insert :
    let now := Runs.final (next retrying Exec.keepText (Exec.acceptAll ℕ) 7) opened [inserted]
    now.due = some 8 ∧ now.lastInsertRowid 7 asks = 8 := by
  intro now
  have writes : opened.process.written retrying Exec.keepText (Exec.acceptAll ℕ) inserted.1 =
      some ⟨.step, 1, 1, "INSERT INTO t (a) VALUES (1)".toList, none⟩ := by decide +kernel
  have kept : Kept retrying Exec.keepText (Exec.acceptAll ℕ) 7 1 opened inserted := by
    refine ⟨fun _ _ sent same => ?_, fun _ _ _ => ?_, fun _ notInsert => ?_, fun other => ?_⟩
    · cases writes.symm.trans same
      exact ⟨rfl, by decide, fun _ => by decide⟩
    · rw [writes]
      rfl
    · cases notInsert
    · exact absurd rfl other
  have due : now.due = some 8 := by decide +kernel
  exact ⟨due, last_insert_rowid_exact retrying Exec.keepText (Exec.acceptAll ℕ) 7 1 (by decide)
    opened rfl rfl [inserted] ⟨kept, trivial⟩ asks rfl (by decide +kernel) 8 due⟩

/-- **The row id of another statement.**  The handle's INSERT created row 8.  An UPDATE that
returns row 3 makes the answer 3.  An INSERT that is not registered then creates row 9, and the
answer stays. -/
theorem rowid_of_another_row :
    let run := Runs.final (next retrying Exec.keepText (Exec.acceptAll ℕ) 7) opened
    (run [inserted, updated]).due = some 8 ∧
      (run [inserted, updated]).lastInsertRowid 7 asks = 3 ∧
      (run [inserted, updated, insertedCached]).due = some 9 ∧
      (run [inserted, updated, insertedCached]).lastInsertRowid 7 asks = 3 := by
  decide +kernel

end Books

end PlexPostgres
