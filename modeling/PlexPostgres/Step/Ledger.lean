import PlexPostgres.Step.OpenTransaction
import PlexPostgres.Txn.RunAgreement

/-!
# The client's account of its transaction

What a client that only sees answers believes: which levels of a transaction are open,
which writes it made, and which of them a rollback to each level would keep.  A
`Ledger` is that account, moved on by each command that was answered with success and
by each write that was.

`Carries` relates it to a session on the server: for each level the session has a
savepoint of its name, which keeps at least the writes the client thinks it keeps, and
as long as the transaction is sound it has at least the client's writes.  The session
may have more savepoints and more writes than the client knows of, and its savepoint of
a name may lie above the client's: names are compared without case there, and the shim
sets savepoints of its own.  A command then never undoes more on the server than in the
account.
-/

namespace PlexPostgres.Step

open Postgres Txn
open scoped List

variable {ω : Type*}

/-- **The client's account**: the levels of its transaction, each with the writes made
before it, and the writes made and not undone. -/
structure Ledger (ω : Type*) where
  levels : List (Frame × List ω)
  writes : List ω

namespace Ledger

/-- No transaction. -/
def closed : Ledger ω := ⟨[], []⟩

/-- A write was answered with success; outside a transaction there is nothing to note. -/
def write (g : Ledger ω) (w : ω) : Ledger ω :=
  if g.levels.isEmpty then g else { g with writes := g.writes ++ [w] }

/-- One more level. -/
def push (g : Ledger ω) (frame : Frame) : Ledger ω :=
  { g with levels := g.levels ++ [(frame, g.writes)] }

/-- **A command was answered with success.** -/
def step (g : Ledger ω) (cmd : TxnCmd) : Ledger ω :=
  match cmd with
  | .begin =>
    if g.levels.isEmpty then closed.push (.outer true)
    else g.push (.nestedBegin (nestedName g.levels.length))
  | .savepoint n =>
    if g.levels.isEmpty then (closed.push (.outer false)).push (.savepoint n)
    else g.push (.savepoint n)
  | .commit =>
    match g.levels.getLast? with
    | none => g
    | some (.nestedBegin _, _) => { g with levels := g.levels.dropLast }
    | some _ => closed
  | .rollback =>
    match g.levels.getLast? with
    | none => g
    | some (.nestedBegin _, mark) => ⟨g.levels.dropLast, mark⟩
    | some _ => closed
  | .release n =>
    match Stack.innermost (fun level => level.1.isSavepoint n) g.levels with
    | none => g
    | some (below, _) =>
      -- The savepoint that opened the transaction: its release is the commit.
      if below.map Prod.fst = [.outer false] then closed else { g with levels := below }
  | .rollbackTo n =>
    match Stack.innermost (fun level => level.1.isSavepoint n) g.levels with
    | none => g
    | some (below, level) => ⟨below ++ [level], level.2⟩

/-- **Does a command end the transaction and keep its writes?**  COMMIT does, unless it
ends a nested BEGIN, and the RELEASE of the savepoint that opened the transaction. -/
def commits (g : Ledger ω) (cmd : TxnCmd) : Bool :=
  !g.levels.isEmpty && (g.step cmd).levels.isEmpty && cmd != .rollback

end Ledger

/-! ### The account and a session -/

/-- A savepoint of the session stands for a level of the account. -/
def Marks (level : Frame × List ω) (sp : Savepoint ω) : Prop :=
  level.1.name?.map Text.asciiLower = some sp.name ∧ level.2 <+ sp.writes

/-- **A session keeps the account.** -/
structure Carries (g : Ledger ω) (aborted : Bool) (savepoints : List (Savepoint ω))
    (writes : List ω) : Prop where
  marks : List.SublistForall₂ Marks g.levels.tail savepoints
  nested : Nested savepoints writes
  writes : aborted = false → g.writes <+ writes

variable {frame : Frame} {n : Text}

namespace Carries

variable {g : Ledger ω} {aborted : Bool} {savepoints : List (Savepoint ω)} {writes : List ω}

/-- An aborted transaction has only its levels to keep. -/
theorem abort (carries : Carries g aborted savepoints writes) (kept : List ω) :
    Carries { g with writes := kept } true savepoints writes :=
  ⟨carries.marks, carries.nested, by simp⟩

/-- Statements of the shim's own, and writes. -/
theorem grow (carries : Carries g aborted savepoints writes) {added : List ω} {l : Link ω}
    (grows : Grows aborted savepoints writes added l) :
    ∃ aborted' savepoints' writes', l = .up (.inTxn aborted' savepoints' writes') ∧
      Carries { g with writes := g.writes ++ added } aborted' savepoints' writes' := by
  obtain ⟨aborted', savepoints', writes', isUp, longer, nested, sound⟩ := grows
  refine ⟨aborted', savepoints', writes', isUp, ?_, nested carries.nested, ?_⟩
  · exact Stack.sublistForall₂_mono carries.marks longer.sublist
  · intro stillSound
    obtain ⟨wasSound, rfl⟩ := sound stillSound
    exact (carries.writes wasSound).append_right added

/-- A savepoint is set for a new level. -/
theorem push (carries : Carries g false savepoints writes) (isOpen : g.levels ≠ [])
    (name : frame.name? = some n) :
    Carries (g.push frame) false (savepoints ++ [⟨Text.asciiLower n, writes⟩]) writes where
  marks := by
    rw [Ledger.push, List.tail_append_of_ne_nil isOpen]
    refine Stack.sublistForall₂_push carries.marks ⟨?_, carries.writes rfl⟩
    rw [name]
    rfl
  nested := carries.nested.push List.prefix_rfl _
  writes := carries.writes

variable {below above : List (Frame × List ω)}

/-- What of a session's savepoints stands for a level and those below it. -/
theorem split (carries : Carries g aborted savepoints writes) {level : Frame × List ω}
    (levels : g.levels = below ++ level :: above) (ne : below ≠ []) :
    ∃ under sp beyond, savepoints = under ++ sp :: beyond ∧
      List.SublistForall₂ Marks below.tail under ∧ Marks level sp := by
  have marks := carries.marks
  rw [levels, List.tail_append_of_ne_nil ne] at marks
  exact Stack.sublistForall₂_cut marks

/-- **Releasing a level**: the session's savepoint of the name is the level's or lies
above it, so every level below is kept. -/
theorem release (carries : Carries g false savepoints writes) {mark : List ω}
    (levels : g.levels = below ++ (frame, mark) :: above) (ne : below ≠ [])
    (name : frame.name? = some n) :
    ∃ savepoints', (Session.inTxn false savepoints writes).control
        (.release (Text.asciiLower n)) = ⟨true, .inTxn false savepoints' writes, []⟩ ∧
      Carries { g with levels := below } false savepoints' writes := by
  obtain ⟨under, sp, beyond, rfl, lower, sameName, -⟩ := carries.split levels ne
  have found : (sp.name == Text.asciiLower n) = true := by
    rw [name] at sameName
    simpa using sameName.symm
  have keeps : ∀ savepoints', under <+: savepoints' → savepoints' <+: under ++ sp :: beyond →
      Carries { g with levels := below } false savepoints' writes := by
    intro savepoints' longer shorter
    refine ⟨Stack.sublistForall₂_mono lower longer.sublist, ?_, carries.writes⟩
    exact carries.nested.sublist ((shorter.sublist.map _).append_right _)
  rcases Stack.innermost_at_or_above (·.name == Text.asciiLower n) under found beyond with
    here | ⟨between, b, above, rfl, -, there⟩
  · exact ⟨under, by simp only [Session.control, here], keeps _ List.prefix_rfl (by simp)⟩
  · refine ⟨under ++ sp :: between, by simp only [Session.control, there], keeps _ (by simp) ?_⟩
    exact ⟨b :: above, by simp⟩

/-- **Rolling back to a level**: at least the writes made before it are kept. -/
theorem rollbackTo (carries : Carries g aborted savepoints writes) {mark : List ω}
    (levels : g.levels = below ++ (frame, mark) :: above) (ne : below ≠ [])
    (name : frame.name? = some n) :
    ∃ savepoints' writes', (Session.inTxn aborted savepoints writes).control
        (.rollbackTo (Text.asciiLower n)) = ⟨true, .inTxn false savepoints' writes', []⟩ ∧
      Carries ⟨below ++ [(frame, mark)], mark⟩ false savepoints' writes' := by
  obtain ⟨under, sp, beyond, rfl, lower, sameName, sub⟩ := carries.split levels ne
  have found : (sp.name == Text.asciiLower n) = true := by
    rw [name] at sameName
    simpa using sameName.symm
  have marked : List.SublistForall₂ Marks (below.tail ++ [(frame, mark)]) (under ++ [sp]) :=
    Stack.sublistForall₂_push lower ⟨sameName, sub⟩
  rw [← List.tail_append_of_ne_nil ne] at marked
  rcases Stack.innermost_at_or_above (·.name == Text.asciiLower n) under found beyond with
    here | ⟨between, b, above, rfl, -, there⟩
  · exact ⟨under ++ [sp], sp.writes, by simp only [Session.control, here],
      marked, carries.nested.cut, fun _ => sub⟩
  · have nested : Nested ((under ++ sp :: between) ++ b :: above) writes := by
      simpa using carries.nested
    refine ⟨(under ++ sp :: between) ++ [b], b.writes, by simp only [Session.control, there], ?_,
      nested.cut, fun _ => sub.trans (nested.below (by simp)).sublist⟩
    refine Stack.sublistForall₂_mono marked ?_
    have shorter : under ++ [sp] <+: (under ++ sp :: between) ++ [b] := ⟨between ++ [b], by simp⟩
    exact shorter.sublist

end Carries

/-! ### What is sent for a command, and what it does to the account -/

/-- **The statements planned for a command with a transaction open**, by what they do to
the account: set a savepoint for a new level, release one, roll back to one, both, or
end the transaction. -/
inductive Noted (g : Ledger ω) : TxnCmd → List Text → Ledger ω → Prop
  | nothing (cmd : TxnCmd) : Noted g cmd [] g
  | push (cmd : TxnCmd) {frame : Frame} {n : Text} (name : frame.name? = some n) :
      Noted g cmd [savepointSql n] (g.push frame)
  | release (cmd : TxnCmd) {below above : List (Frame × List ω)} {frame : Frame} {mark : List ω}
      {n : Text} (levels : g.levels = below ++ (frame, mark) :: above)
      (name : frame.name? = some n) : Noted g cmd [releaseSql n] { g with levels := below }
  | rollbackTo (cmd : TxnCmd) {below above : List (Frame × List ω)} {frame : Frame}
      {mark : List ω} {n : Text} (levels : g.levels = below ++ (frame, mark) :: above)
      (name : frame.name? = some n) :
      Noted g cmd [rollbackToSql n] ⟨below ++ [(frame, mark)], mark⟩
  | rollbackNested {below : List (Frame × List ω)} {frame : Frame} {mark : List ω} {n : Text}
      (levels : g.levels = below ++ [(frame, mark)]) (name : frame.name? = some n) :
      Noted g .rollback [rollbackToSql n, releaseSql n] ⟨below, mark⟩
  | commit : Noted g .commit [commitSql] .closed
  | rollback : Noted g .rollback [rollbackSql] .closed
  | releaseOuter {bottom : Frame × List ω} {above : List (Frame × List ω)} {frame : Frame}
      {mark : List ω} {n : Text} (levels : g.levels = [bottom] ++ (frame, mark) :: above)
      (name : frame.name? = some n) : Noted g (.release n) [releaseSql n, commitSql] .closed

section

variable {g : Ledger ω} {frames : List Frame} (same : g.levels.map Prod.fst = frames)

include same

/-- The levels of the account seen from a frame of the stack. -/
theorem levels_split {below above : List Frame} (split : frames = below ++ frame :: above) :
    ∃ (under beyond : List (Frame × List ω)) (mark : List ω),
      g.levels = under ++ (frame, mark) :: beyond ∧ under.map Prod.fst = below ∧
        beyond.map Prod.fst = above := by
  rw [split, List.map_eq_append_iff] at same
  obtain ⟨under, rest, levels, hunder, hrest⟩ := same
  obtain ⟨level, beyond, rfl, hlevel, hover⟩ := List.map_eq_cons_iff.mp hrest
  obtain ⟨f, mark⟩ := level
  obtain rfl : f = frame := hlevel
  exact ⟨under, beyond, mark, levels, hunder, hover⟩

/-- The account finds the savepoint the shim finds. -/
theorem innermost_level {below above : List Frame}
    (split : frames = below ++ .savepoint n :: above) (rest : .savepoint n ∉ above) :
    ∃ (under beyond : List (Frame × List ω)) (mark : List ω),
      g.levels = under ++ (.savepoint n, mark) :: beyond ∧ under.map Prod.fst = below ∧
        Stack.innermost (fun level => level.1.isSavepoint n) g.levels =
          some (under, (.savepoint n, mark)) := by
  obtain ⟨under, beyond, mark, levels, hunder, rfl⟩ := levels_split same split
  refine ⟨under, beyond, mark, levels, hunder, ?_⟩
  refine (Stack.innermost_eq_some_iff _ _ _ _).mpr ⟨by simp [Frame.isSavepoint], beyond, levels, ?_⟩
  intro level mem
  exact (isSavepoint_eq_false_iff n level.1).mpr fun found =>
    rest (List.mem_map.mpr ⟨level, mem, found⟩)

/-- It finds none if the shim finds none. -/
theorem innermost_level_none (unknown : .savepoint n ∉ frames) :
    Stack.innermost (fun level => level.1.isSavepoint n) g.levels = none := by
  refine (Stack.innermost_eq_none_iff _ _).mpr fun level mem => ?_
  refine (isSavepoint_eq_false_iff n level.1).mpr fun found => unknown ?_
  rw [← same]
  exact List.mem_map.mpr ⟨level, mem, found⟩

/-- **The account follows the plan.** -/
theorem noted_of_planned {cmd : TxnCmd} {sql : List Text} {after : List Frame}
    (planned : Planned frames cmd sql after) (isOpen : frames ≠ []) :
    Noted g cmd sql (g.step cmd) ∧ (g.step cmd).levels.map Prod.fst = after := by
  have notEmpty : g.levels.isEmpty = false := by
    rw [← same] at isOpen
    simpa using isOpen
  have depth : g.levels.length = frames.length := by rw [← same, List.length_map]
  cases planned with
  | beginIdle | commitIdle | rollbackIdle | savepointIdle => exact absurd rfl isOpen
  | beginNested =>
    rw [Ledger.step, notEmpty, ← depth]
    exact ⟨.push .begin rfl, by simp [Ledger.push, same]⟩
  | savepointInner _ n =>
    rw [Ledger.step, notEmpty]
    exact ⟨.push (.savepoint n) rfl, by simp [Ledger.push, same]⟩
  | commitNested below n =>
    obtain ⟨under, beyond, mark, levels, rfl, hover⟩ := levels_split same rfl
    obtain rfl := List.map_eq_nil_iff.mp hover
    have step : g.step .commit = { g with levels := under } := by simp [Ledger.step, levels]
    rw [step]
    exact ⟨.release .commit levels rfl, rfl⟩
  | rollbackNested below n =>
    obtain ⟨under, beyond, mark, levels, rfl, hover⟩ := levels_split same rfl
    obtain rfl := List.map_eq_nil_iff.mp hover
    have step : g.step .rollback = ⟨under, mark⟩ := by simp [Ledger.step, levels]
    rw [step]
    exact ⟨.rollbackNested levels rfl, rfl⟩
  | commitOuter below top notNested =>
    obtain ⟨under, beyond, mark, levels, rfl, hover⟩ := levels_split same rfl
    obtain rfl := List.map_eq_nil_iff.mp hover
    have step : g.step .commit = .closed := by
      cases top with
      | nestedBegin n => exact absurd rfl (notNested n)
      | outer | savepoint => simp [Ledger.step, levels]
    rw [step]
    exact ⟨.commit, rfl⟩
  | rollbackOuter below top notNested =>
    obtain ⟨under, beyond, mark, levels, rfl, hover⟩ := levels_split same rfl
    obtain rfl := List.map_eq_nil_iff.mp hover
    have step : g.step .rollback = .closed := by
      cases top with
      | nestedBegin n => exact absurd rfl (notNested n)
      | outer | savepoint => simp [Ledger.step, levels]
    rw [step]
    exact ⟨.rollback, rfl⟩
  | releaseUnknown _ n unknown =>
    have step : g.step (.release n) = g := by
      simp [Ledger.step, innermost_level_none same unknown]
    rw [step]
    exact ⟨.nothing _, same⟩
  | rollbackToUnknown _ n unknown =>
    have step : g.step (.rollbackTo n) = g := by
      simp [Ledger.step, innermost_level_none same unknown]
    rw [step]
    exact ⟨.nothing _, same⟩
  | releaseOuter above n rest =>
    have split : Frame.outer false :: .savepoint n :: above =
        [.outer false] ++ .savepoint n :: above := rfl
    obtain ⟨under, beyond, mark, levels, hunder, found⟩ := innermost_level same split rest
    obtain ⟨bottom, rfl⟩ : ∃ bottom, under = [bottom] := by
      obtain ⟨bottom, rest, rfl, -, hrest⟩ := List.map_eq_cons_iff.mp hunder
      exact ⟨bottom, by rw [List.map_eq_nil_iff.mp hrest]⟩
    have step : g.step (.release n) = .closed := by simp [Ledger.step, found, hunder]
    rw [step]
    exact ⟨.releaseOuter levels rfl, rfl⟩
  | releaseInner below above n rest notOuter =>
    obtain ⟨under, beyond, mark, levels, hunder, found⟩ := innermost_level same rfl rest
    have step : g.step (.release n) = { g with levels := under } := by
      simp [Ledger.step, found, hunder, notOuter]
    rw [step]
    exact ⟨.release _ levels rfl, hunder⟩
  | rollbackToKnown below above n rest =>
    obtain ⟨under, beyond, mark, levels, hunder, found⟩ := innermost_level same rfl rest
    have step : g.step (.rollbackTo n) = ⟨under ++ [(.savepoint n, mark)], mark⟩ := by
      simp [Ledger.step, found]
    rw [step]
    exact ⟨.rollbackTo _ levels rfl, by simp [hunder]⟩

end

end PlexPostgres.Step
