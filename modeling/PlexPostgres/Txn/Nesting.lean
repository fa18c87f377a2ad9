import PlexPostgres.Library.Runs
import PlexPostgres.Txn.Plan

/-!
# Ending a nested BEGIN

Inside a transaction a second `BEGIN` becomes a savepoint, and the `COMMIT` or `ROLLBACK` that
ends it should end that savepoint, with those set after it, and nothing else.  `plan` looks at
the top of the stack only: a savepoint that was set inside the nested `BEGIN` hides it, and the
whole transaction is ended in its place.
-/

namespace PlexPostgres.Txn

/-- **The state after some commands**, on a connection no transaction was begun on. -/
def reached (cmds : List TxnCmd) : TxnState := Runs.final (fun s cmd => (plan s cmd).2) .empty cmds

theorem reached_wellFormed (cmds : List TxnCmd) : WellFormed (reached cmds).frames :=
  (Runs.meets_of_forall fun _ _ => trivial : Runs.Meets _ (fun _ _ => True) _ cmds).invariant
    (fun s : TxnState => WellFormed s.frames) (fun _ cmd well _ => plan_wellFormed well cmd) trivial

/-- Is a frame a nested `BEGIN`? -/
def Frame.isNestedBegin : Frame → Bool
  | .nestedBegin _ => true
  | .outer _ | .savepoint _ => false

/-- What ends a nested `BEGIN` on PostgreSQL. -/
def endNestedSql (cmd : TxnCmd) (name : Text) : List Text :=
  match cmd with
  | .rollback => [rollbackToSql name, releaseSql name]
  | _ => [releaseSql name]

/-- **A plan ends the innermost nested `BEGIN`**, with the savepoints above it, and leaves the
transaction open; the transaction is ended only if there is none. -/
structure EndsInnermost (s : TxnState) (cmd : TxnCmd) : Prop where
  innermost : ∀ below name above, s.frames = below ++ .nestedBegin name :: above →
    (∀ f ∈ above, f.isNestedBegin = false) →
    (plan s cmd).1 = endNestedSql cmd name ∧ (plan s cmd).2.frames = below ∧ below ≠ []
  whole : commitSql ∈ (plan s cmd).1 ∨ rollbackSql ∈ (plan s cmd).1 →
    ∀ f ∈ s.frames, f.isNestedBegin = false

variable {below : List Frame} {name : Text}

theorem isNestedBegin_eq_true_iff (f : Frame) :
    f.isNestedBegin = true ↔ ∃ name, f = .nestedBegin name := by
  cases f <;> simp [Frame.isNestedBegin]

variable {s : TxnState} {cmd : TxnCmd}

/-- A plan for a `COMMIT` or a `ROLLBACK`, by what is on top of the stack. -/
theorem plan_of_nested (ends : cmd = .commit ∨ cmd = .rollback)
    (top : s.frames = below ++ [.nestedBegin name]) :
    (plan s cmd).1 = endNestedSql cmd name ∧ (plan s cmd).2.frames = below := by
  rcases ends with rfl | rfl <;> simp [plan, top, endNestedSql]

/-- The statements that end a nested `BEGIN` are longer than those that end the transaction. -/
theorem length_of_mem_endNestedSql {sql : Text} (mem : sql ∈ endNestedSql cmd name) :
    8 < sql.length := by
  have release : 8 < (releaseSql name).length := by
    have lead : 8 < "RELEASE SAVEPOINT ".toList.length := by decide
    exact lead.trans_le (List.prefix_append _ name).length_le
  have rollback : 8 < (rollbackToSql name).length := by
    have lead : 8 < "ROLLBACK TO SAVEPOINT ".toList.length := by decide
    exact lead.trans_le (List.prefix_append _ name).length_le
  cases cmd <;> simp only [endNestedSql, List.mem_cons, List.not_mem_nil, or_false] at mem
  case rollback => rcases mem with rfl | rfl <;> assumption
  all_goals exact mem ▸ release

/-- A nested `BEGIN` on top is the one that is ended. -/
theorem endsInnermost_of_top (well : WellFormed s.frames) (ends : cmd = .commit ∨ cmd = .rollback)
    (top : s.frames = below ++ [.nestedBegin name]) : EndsInnermost s cmd := by
  obtain ⟨sql, after⟩ := plan_of_nested ends top
  constructor
  · intro below' name' above split free
    -- Nothing can be above it, since the top of the stack is a nested BEGIN.
    obtain rfl | ⟨above, last, rfl⟩ := List.eq_nil_or_concat' above
    · obtain ⟨rfl, same⟩ := List.append_inj' (top.symm.trans split) rfl
      obtain rfl : name = name' := by simpa using same
      exact ⟨sql, after, WellFormed.ne_nil_of_named (top ▸ well) rfl⟩
    · have last_eq := congrArg List.getLast? (top.symm.trans split)
      rw [← List.cons_append, ← List.append_assoc] at last_eq
      simp only [List.getLast?_append, List.getLast?_singleton, Option.some_or,
        Option.some.injEq] at last_eq
      exact absurd (free last (by simp)) (by rw [← last_eq]; simp [Frame.isNestedBegin])
  · rw [sql]
    rintro (mem | mem) <;> exact absurd (length_of_mem_endNestedSql mem) (by decide)

/-- **Only the top of the stack is looked at**: on a connection on which some commands were
planned, a `COMMIT` or `ROLLBACK` ends the innermost nested `BEGIN` if and only if there is none
or it is on top. -/
theorem endsInnermost_iff (cmds : List TxnCmd) {cmd : TxnCmd}
    (ends : cmd = .commit ∨ cmd = .rollback) :
    EndsInnermost (reached cmds) cmd ↔
      (∀ f ∈ (reached cmds).frames, f.isNestedBegin = false) ∨
        ∃ below name, (reached cmds).frames = below ++ [.nestedBegin name] := by
  have well := reached_wellFormed cmds
  generalize reached cmds = s at well ⊢
  constructor
  · intro endsInnermost
    obtain idle | ⟨below, top, frames⟩ := List.eq_nil_or_concat' s.frames
    · left
      simp [idle]
    · cases nested : top.isNestedBegin with
      | true =>
        obtain ⟨name, rfl⟩ := (isNestedBegin_eq_true_iff top).mp nested
        exact .inr ⟨below, name, frames⟩
      | false =>
        refine .inl (endsInnermost.whole ?_)
        cases top with
        | nestedBegin name => cases nested
        | outer explicit | savepoint name => rcases ends with rfl | rfl <;> simp [plan, frames]
  · rintro (none | ⟨below, name, top⟩)
    · constructor
      · intro below name above split _
        have mem : .nestedBegin name ∈ s.frames := by simp [split]
        exact absurd (none _ mem) (by simp [Frame.isNestedBegin])
      · exact fun _ => none
    · exact endsInnermost_of_top well ends top

/-- A nested `BEGIN` with a savepoint set and released in it is ended alone. -/
theorem endsInnermost_released :
    EndsInnermost (reached [.begin, .begin, .savepoint ['a'], .release ['a']]) .commit :=
  (endsInnermost_iff _ (.inl rfl)).mpr (.inr ⟨[.outer true], nestedName 1, by decide⟩)

/-- **A savepoint set inside a nested `BEGIN` hides it**: its `COMMIT` ends the transaction. -/
theorem savepoint_hides_nestedBegin :
    (reached [.begin, .begin, .savepoint ['a']]).frames =
        [.outer true, .nestedBegin (nestedName 1), .savepoint ['a']] ∧
      plan (reached [.begin, .begin, .savepoint ['a']]) .commit = ([commitSql], .empty) := by
  decide

end PlexPostgres.Txn
