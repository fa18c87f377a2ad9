import PlexPostgres.Translate.Ast

/-!
# Empty IN lists

SQLite takes `x IN ()` for false and `x NOT IN ()` for true; PostgreSQL refuses an empty list and
with it the whole statement.  The keyword pass replaces the list by a subquery without rows,
wherever it comes: it walks WHERE, HAVING and the projection through operators, CASE and IN, and
the derived tables and joined tables of FROM.  It does not walk ON, GROUP BY, ORDER BY, an
assignment, a function's arguments, a cast, an IS NULL test or a subquery inside an expression,
and once it has replaced a list it leaves the operand before it alone.
-/

open RoseTree

namespace PlexPostgres.Translate

/-- **The parts the keyword pass enters.** -/
def keywordEnters (t c : Ast) : Bool :=
  match t.label.form, c.label.role with
  | .insert, .source | .update, .selection | .delete, .selection => true
  | .query, .cte | .query, .body | .setOperation, .body => true
  | .select, .from | .select, .selection | .select, .projection _ | .select, .having => true
  | .tableWithJoins, .relation | .tableWithJoins, .joined | .derived, .subquery => true
  | .binary _, .operand | .unary, .operand | .nested, .operand | .inList, .operand
  | .inList, .listed | .inSubquery, .operand | .between, .operand => true
  | .case, .operand | .case, .condition | .case, .result | .case, .elseResult => true
  | _, _ => false

/-- `SELECT -1 WHERE FALSE`. -/
def falseSelect : Ast :=
  .node ⟨.subquery, .query⟩ [.node ⟨.body, .select⟩
    [.node ⟨.projection none, .unary⟩ [.node ⟨.operand, .value⟩ []],
      .node ⟨.selection, .value⟩ []]]

/-- `x IN ()` becomes `x IN (SELECT -1 WHERE FALSE)`. -/
def replaceEmptyIn (t : Ast) (children : List Ast) : Ast :=
  if t.label.form = .emptyIn then .node ⟨t.label.role, .inSubquery⟩ (children ++ [falseSelect])
  else .node t.label children

/-- **The keyword pass**, as far as IN is concerned. -/
def transformEmptyIn (t : Ast) : Ast :=
  visit id keywordEnters replaceEmptyIn (t.rank + 1) t

def isEmptyIn (label : Label) : Bool := label.form == .emptyIn

/-- **An empty list the pass misses**: it stands in a part that the pass does not enter. -/
abbrev MissesEmptyIn : Ast → Prop := Missed id keywordEnters isEmptyIn fun _ => False

theorem has_isEmptyIn_replaceEmptyIn (t : Ast) (children : List Ast) :
    has isEmptyIn (replaceEmptyIn t children) = true ↔
      False ∨ ∃ c ∈ children, has isEmptyIn c = true := by
  have clean : has isEmptyIn falseSelect = false := by decide
  unfold replaceEmptyIn
  split
  · simp [has_node, isEmptyIn, clean, or_and_right, exists_or]
  next other => simp [has_node, isEmptyIn, other]

/-- **No empty list is left exactly when none is missed.** -/
theorem no_emptyIn_left_iff (t : Ast) :
    has isEmptyIn (transformEmptyIn t) = false ↔ ¬ MissesEmptyIn t := by
  have falls : ∀ t c : Ast, c ∈ (id t).children → keywordEnters (id t) c = true →
      c.rank < t.rank := fun _ _ mem _ => rank_lt_of_mem sums mem
  rw [← Bool.not_eq_true]
  exact not_congr (has_visit_iff id keywordEnters replaceEmptyIn has_isEmptyIn_replaceEmptyIn
    falls (Nat.lt_succ_self _))

/-- `SELECT coalesce(id IN (), 0)`: the list in a function's argument is left. -/
theorem emptyIn_in_argument_left :
    has isEmptyIn (transformEmptyIn
      (.node ⟨.source, .query⟩ [.node ⟨.body, .select⟩
        [.node ⟨.projection none, .function "coalesce".toList⟩
          [.node ⟨.argument, .emptyIn⟩ [.node ⟨.operand, .identifier "id".toList⟩ []],
            .node ⟨.argument, .value⟩ []]]])) = true := by
  decide

end PlexPostgres.Translate
