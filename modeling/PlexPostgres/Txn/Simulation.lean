import PlexPostgres.Library.Runs
import PlexPostgres.Postgres.Session
import PlexPostgres.Txn.Plan

/-!
# The plan, followed by a PostgreSQL session

Every statement `plan` produces is sent to a server session that is otherwise
left alone.  The session follows the frame stack: it accepts every statement, is
in a transaction exactly when the stack is not empty, and its savepoints are the
frames above the outer one, in order.

The relation that carries this is `Tracks`.  It needs one fact about names that
is not visible in the stack's shape: a savepoint Plex named and one the shim
named never carry the same name (`Frame.Named`), for otherwise the innermost
savepoint of a name would not be the innermost frame `plan` found.
-/

namespace PlexPostgres.Txn

open Postgres

variable {ω : Type*}

/-! ### The server reads back what was planned -/

@[simp] theorem parseControl_beginSql : parseControl beginSql = some .begin := rfl

@[simp] theorem parseControl_commitSql : parseControl commitSql = some .commit := rfl

@[simp] theorem parseControl_rollbackSql : parseControl rollbackSql = some .rollback := rfl

@[simp] theorem parseControl_savepointSql (n : Text) :
    parseControl (savepointSql n) = some (.savepoint (Text.asciiLower n)) := by
  unfold parseControl savepointSql
  simp [List.dropPrefix?]

@[simp] theorem parseControl_releaseSql (n : Text) :
    parseControl (releaseSql n) = some (.release (Text.asciiLower n)) := by
  unfold parseControl releaseSql
  simp [List.dropPrefix?]

@[simp] theorem parseControl_rollbackToSql (n : Text) :
    parseControl (rollbackToSql n) = some (.rollbackTo (Text.asciiLower n)) := by
  unfold parseControl rollbackToSql
  simp [List.dropPrefix?]

/-! ### The two machines side by side -/

/-- Send a list of statements, one after the other: did all of them succeed, and
the session after them. -/
def sendAll : Session ω → List Text → Bool × Session ω
  | s, [] => (true, s)
  | s, sql :: rest =>
    let reply := s.exec sql
    let (ok, after) := sendAll reply.session rest
    (reply.ok && ok, after)

theorem sendAll_cons (s : Session ω) (sql : Text) (rest : List Text) :
    sendAll s (sql :: rest) =
      ((s.exec sql).ok && (sendAll (s.exec sql).session rest).1,
        (sendAll (s.exec sql).session rest).2) := rfl

/-- The frame stack and the session it is sent to, with a mark whether every
statement so far succeeded. -/
structure Pair (ω : Type*) where
  state : TxnState
  session : Session ω
  ok : Bool

namespace Pair

/-- Nothing begun, on either side. -/
def start : Pair ω := ⟨.empty, .idle, true⟩

/-- Plan a command and send what was planned. -/
def step (p : Pair ω) (cmd : TxnCmd) : Pair ω :=
  let planned := plan p.state cmd
  let sent := sendAll p.session planned.1
  ⟨planned.2, sent.2, p.ok && sent.1⟩

end Pair

/-! ### The relation between them -/

/-- A name Plex may give a savepoint so that it is told apart from the shim's own:
in lower case, and not beginning as they do. -/
def PlainName (n : Text) : Prop := Text.asciiLower n = n ∧ ¬ nestedLead <+: n

instance : DecidablePred PlainName := fun n =>
  inferInstanceAs (Decidable (Text.asciiLower n = n ∧ ¬ nestedLead <+: n))

/-- The commands whose savepoint names are plain. -/
def TxnCmd.Plain (cmd : TxnCmd) : Prop := ∀ n ∈ cmd.name?, PlainName n

instance : DecidablePred TxnCmd.Plain := fun cmd =>
  inferInstanceAs (Decidable (∀ n ∈ cmd.name?, PlainName n))

/-- A frame above the outer one, under the name it has on the server. -/
def Frame.Named : Frame → Prop
  | .outer _ => False
  | .savepoint n => PlainName n
  | .nestedBegin n => Text.asciiLower n = n ∧ nestedLead <+: n

/-- **The session follows the stack**: idle with nothing open; otherwise in a sound
transaction whose savepoints are the frames above the outer one. -/
inductive Tracks : List Frame → Session ω → Prop
  | idle : Tracks [] .idle
  | inTxn (explicit : Bool) (above : List Frame) (savepoints : List (Savepoint ω))
      (writes : List ω) (named : ∀ f ∈ above, f.Named)
      (same : above.map Frame.name? = savepoints.map fun sp => some sp.name) :
      Tracks (.outer explicit :: above) (.inTxn false savepoints writes)

theorem named_nestedName (depth : ℕ) : (Frame.nestedBegin (nestedName depth)).Named := by
  have lead_lower : Text.asciiLower nestedLead = nestedLead := by decide
  constructor
  · rw [nestedName, Text.asciiLower_append, Text.asciiLower_toDigits, lead_lower]
  · rw [nestedName]
    exact List.prefix_append _ _

variable {f : Frame} {n : Text}

/-- A frame above the outer one that carries a plain name is a savepoint frame. -/
theorem Frame.Named.eq_savepoint (h : f.Named) (hn : PlainName n) (name : f.name? = some n) :
    f = .savepoint n := by
  cases f with
  | outer e => cases name
  | savepoint m => simpa [Frame.name?] using name
  | nestedBegin m =>
    obtain rfl : m = n := by simpa [Frame.name?] using name
    exact absurd h.2 hn.2

variable {below above : List Frame} {s : Session ω}

/-- Below a savepoint frame lies the outer one, and the session's savepoints split
where the stack does. -/
theorem Tracks.split (h : Tracks (below ++ f :: above) s) (name : f.name? = some n) :
    ∃ explicit inner spBelow sp spAbove writes,
      below = .outer explicit :: inner ∧ s = .inTxn false (spBelow ++ sp :: spAbove) writes ∧
      sp.name = n ∧ (∀ g ∈ inner, g.Named) ∧ f.Named ∧
      inner.map Frame.name? = spBelow.map (fun sp => some sp.name) ∧
      above.map Frame.name? = spAbove.map fun sp => some sp.name := by
  generalize split : below ++ f :: above = frames at h
  cases h with
  | idle => simp at split
  | inTxn explicit rest savepoints writes named same =>
    cases below with
    | nil =>
      obtain ⟨rfl, -⟩ := List.cons.inj split
      cases name
    | cons bottom inner =>
      rw [List.cons_append] at split
      obtain ⟨rfl, rfl⟩ := List.cons.inj split
      rw [List.map_append, List.map_cons, name, eq_comm, List.map_eq_append_iff] at same
      obtain ⟨spBelow, spRest, rfl, sameBelow, sameRest⟩ := same
      obtain ⟨sp, spAbove, rfl, sameTop, sameAbove⟩ := List.map_eq_cons_iff.mp sameRest
      exact ⟨explicit, inner, spBelow, sp, spAbove, writes, rfl, rfl,
        Option.some.inj sameTop, fun g hg => named g (by simp [hg]), named f (by simp),
        sameBelow.symm, sameAbove.symm⟩

/-- The innermost frame of a name is the innermost savepoint of that name. -/
theorem innermost_of_split (spBelow : List (Savepoint ω)) {sp : Savepoint ω}
    {spAbove : List (Savepoint ω)} (found : sp.name = n)
    (sameAbove : above.map Frame.name? = spAbove.map fun sp => some sp.name)
    (innermost : ∀ g ∈ above, g.name? ≠ some n) :
    Stack.innermost (·.name == n) (spBelow ++ sp :: spAbove) = some (spBelow, sp) := by
  refine (Stack.innermost_eq_some_iff _ _ _ _).mpr ⟨by simp [found], spAbove, rfl, ?_⟩
  intro other mem
  have named : some other.name ∈ above.map Frame.name? := by
    rw [sameAbove]
    exact List.mem_map_of_mem mem
  obtain ⟨g, hg, hname⟩ := List.mem_map.mp named
  have differs := innermost g hg
  rw [hname] at differs
  simpa using differs

/-! ### One statement at a time -/

/-- The session accepts a statement, and then follows `frames`. -/
def Accepts (s : Session ω) (sql : Text) (frames : List Frame) : Prop :=
  (s.exec sql).ok = true ∧ Tracks frames (s.exec sql).session

theorem Tracks.opened (explicit : Bool) :
    Accepts (Session.idle : Session ω) beginSql [.outer explicit] := by
  simp only [Accepts, Session.exec, parseControl_beginSql, Session.control, true_and]
  exact .inTxn explicit [] [] [] (by simp) rfl

variable {frames : List Frame}

theorem Tracks.push (h : Tracks frames s) (isOpen : frames ≠ []) (named : f.Named)
    (name : f.name? = some n) (lower : Text.asciiLower n = n) :
    Accepts s (savepointSql n) (frames ++ [f]) := by
  cases h with
  | idle => exact absurd rfl isOpen
  | inTxn explicit above savepoints writes allNamed same =>
    simp only [Accepts, Session.exec, parseControl_savepointSql, lower, Session.control,
      true_and]
    refine .inTxn explicit (above ++ [f]) _ writes ?_ (by simp [same, name])
    exact List.forall_mem_append.mpr ⟨allNamed, List.forall_mem_singleton.mpr named⟩

theorem Tracks.release (h : Tracks (below ++ f :: above) s) (name : f.name? = some n)
    (lower : Text.asciiLower n = n) (innermost : ∀ g ∈ above, g.name? ≠ some n) :
    Accepts s (releaseSql n) below := by
  obtain ⟨explicit, inner, spBelow, sp, spAbove, writes, rfl, rfl, found, named, -, sameBelow,
    sameAbove⟩ := h.split name
  simp only [Accepts, Session.exec, parseControl_releaseSql, lower, Session.control,
    innermost_of_split spBelow found sameAbove innermost, true_and]
  exact .inTxn explicit inner spBelow writes named sameBelow

theorem Tracks.rollbackTo (h : Tracks (below ++ f :: above) s) (name : f.name? = some n)
    (lower : Text.asciiLower n = n) (innermost : ∀ g ∈ above, g.name? ≠ some n) :
    Accepts s (rollbackToSql n) (below ++ [f]) := by
  obtain ⟨explicit, inner, spBelow, sp, spAbove, writes, rfl, rfl, found, named, namedTop,
    sameBelow, sameAbove⟩ := h.split name
  simp only [Accepts, Session.exec, parseControl_rollbackToSql, lower, Session.control,
    innermost_of_split spBelow found sameAbove innermost, true_and]
  refine .inTxn explicit (inner ++ [f]) _ sp.writes ?_ (by simp [sameBelow, name, found])
  exact List.forall_mem_append.mpr ⟨named, List.forall_mem_singleton.mpr namedTop⟩

/-- COMMIT and ROLLBACK leave nothing open. -/
theorem Tracks.finish (h : Tracks frames s) :
    Accepts s commitSql [] ∧ Accepts s rollbackSql [] := by
  cases h <;>
    simp only [Accepts, Session.exec, parseControl_commitSql, parseControl_rollbackSql,
      Session.control, true_and] <;>
    exact ⟨.idle, .idle⟩

theorem Accepts.sendAll_one {sql : Text} (h : Accepts s sql frames) :
    (sendAll s [sql]).1 = true ∧ Tracks frames (sendAll s [sql]).2 := by
  rw [sendAll_cons, h.1]
  exact ⟨rfl, h.2⟩

theorem Accepts.sendAll_two {sql₁ sql₂ : Text} {between : List Frame}
    (first : Accepts s sql₁ between) (second : Accepts (s.exec sql₁).session sql₂ frames) :
    (sendAll s [sql₁, sql₂]).1 = true ∧ Tracks frames (sendAll s [sql₁, sql₂]).2 := by
  rw [sendAll_cons, first.1, Bool.true_and]
  exact second.sendAll_one

/-! ### One command, and every run -/

/-- Nothing above the innermost savepoint frame of a plain name carries it. -/
theorem Tracks.not_named_above (h : Tracks (below ++ .savepoint n :: above) s)
    (plain : PlainName n) (innermost : Frame.savepoint n ∉ above) :
    ∀ g ∈ above, g.name? ≠ some n := by
  intro g hg name
  have named : g.Named := by
    generalize split : below ++ .savepoint n :: above = frames at h
    cases h with
    | idle => simp at split
    | inTxn explicit rest savepoints writes named same =>
      cases below with
      | nil => cases (List.cons.inj split).1
      | cons bottom inner =>
        rw [List.cons_append] at split
        exact named g (by rw [← (List.cons.inj split).2]; simp [hg])
  exact innermost (named.eq_savepoint plain name ▸ hg)

/-- **One command**: all the statements planned for it succeed, and the session
follows the stack again. -/
theorem Tracks.sendAll_plan {state : TxnState} (h : Tracks state.frames s) {cmd : TxnCmd}
    (plain : cmd.Plain) :
    (sendAll s (plan state cmd).1).1 = true ∧
      Tracks (plan state cmd).2.frames (sendAll s (plan state cmd).1).2 := by
  have planned := (plan_planned state cmd).1
  generalize (plan state cmd).1 = sql, (plan state cmd).2.frames = after at planned ⊢
  generalize state.frames = frames at h planned
  cases planned with
  | beginIdle =>
    cases h
    exact (Tracks.opened true).sendAll_one
  | savepointIdle n =>
    cases h
    have opened : Accepts (Session.idle : Session ω) beginSql [.outer false] :=
      Tracks.opened false
    have set := opened.2.push (by simp) (f := .savepoint n) (plain n rfl) rfl (plain n rfl).1
    exact opened.sendAll_two set
  | beginNested _ isOpen =>
    have named := named_nestedName frames.length
    exact (h.push isOpen named rfl named.1).sendAll_one
  | savepointInner _ n isOpen =>
    exact (h.push isOpen (f := .savepoint n) (plain n rfl) rfl (plain n rfl).1).sendAll_one
  | commitNested below n =>
    obtain ⟨-, -, -, -, -, -, -, -, -, -, named, -⟩ := h.split rfl
    exact (h.release rfl named.1 (by simp)).sendAll_one
  | rollbackNested below n =>
    obtain ⟨-, -, -, -, -, -, -, -, -, -, named, -⟩ := h.split rfl
    have undone := h.rollbackTo rfl named.1 (by simp)
    exact undone.sendAll_two (undone.2.release rfl named.1 (by simp))
  | commitOuter => exact h.finish.1.sendAll_one
  | rollbackOuter => exact h.finish.2.sendAll_one
  | releaseOuter above n innermost =>
    change Tracks ([.outer false] ++ .savepoint n :: above) s at h
    have released := h.release rfl (plain n rfl).1 (h.not_named_above (plain n rfl) innermost)
    exact released.sendAll_two released.2.finish.1
  | releaseInner below above n innermost =>
    exact (h.release rfl (plain n rfl).1
      (h.not_named_above (plain n rfl) innermost)).sendAll_one
  | rollbackToKnown below above n innermost =>
    exact (h.rollbackTo rfl (plain n rfl).1
      (h.not_named_above (plain n rfl) innermost)).sendAll_one
  | commitIdle | rollbackIdle | releaseUnknown | rollbackToUnknown => exact ⟨rfl, h⟩

/-- What `Tracks` says to a client. -/
theorem Tracks.observed (h : Tracks frames s) :
    (s.status = .inTrans ↔ frames ≠ []) ∧
      s.savepointNames.map some = frames.tail.map Frame.name? := by
  cases h with
  | idle => simp [Session.status, Session.savepointNames]
  | inTxn explicit above savepoints writes named same =>
    refine ⟨by simp [Session.status], ?_⟩
    rw [List.tail_cons, same, Session.savepointNames, List.map_map]
    rfl

/-- **Every planned statement succeeds, and the session follows the stack**: for
every list of commands with plain savepoint names, after each of them, all the
statements sent so far succeeded, the session is in a transaction exactly when the
frame list is not empty, and its savepoints are the frames above the outer one. -/
theorem session_follows_plan (cmds sofar : List TxnCmd) (plain : ∀ cmd ∈ cmds, cmd.Plain)
    (part : sofar <+: cmds) :
    let p := Runs.final Pair.step (Pair.start : Pair ω) sofar
    p.ok = true ∧ (p.session.status = .inTrans ↔ p.state.frames ≠ []) ∧
      p.session.savepointNames.map some = p.state.frames.tail.map Frame.name? := by
  have meets : Runs.Meets Pair.step (fun _ cmd => cmd.Plain) (Pair.start : Pair ω) sofar :=
    (Runs.meets_of_forall plain).shorter part
  have invariant := meets.invariant
    (fun p => p.ok = true ∧ Tracks p.state.frames p.session)
    (fun p cmd inv plainCmd => by
      have sent := inv.2.sendAll_plan plainCmd
      exact ⟨by simp [Pair.step, inv.1, sent.1], sent.2⟩)
    ⟨rfl, .idle⟩
  exact ⟨invariant.1, invariant.2.observed⟩

/-- A nested transaction with a repeated savepoint name, and its outcome. -/
theorem session_follows_plan_nested :
    let cmds : List TxnCmd := [.begin, .savepoint ['a'], .begin, .savepoint ['a'],
      .release ['a'], .rollback, .rollbackTo ['a']]
    let p := Runs.final Pair.step (Pair.start : Pair Unit) cmds
    (p.ok = true ∧ (p.session.status = .inTrans ↔ p.state.frames ≠ []) ∧
      p.session.savepointNames.map some = p.state.frames.tail.map Frame.name?) ∧
      p.session.savepointNames = [['a']] :=
  ⟨session_follows_plan _ _ (by decide) (List.prefix_refl _), by decide⟩

end PlexPostgres.Txn
