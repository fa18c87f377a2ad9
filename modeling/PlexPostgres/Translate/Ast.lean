import PlexPostgres.Library.RoseTree
import PlexPostgres.Library.Text

/-!
# Syntax trees of statements

The passes over a parsed statement differ in which parts of it they enter, so a statement is a
tree in which every node carries the form of what stands there and the role it plays for its
parent.  A form lists what some pass asks about; two forms that every pass treats alike are one.
-/

open Text

namespace PlexPostgres.Translate

/-- The binary operators some pass singles out. -/
inductive BinaryOp where
  | and | or | match | custom (name : Text) | other
  deriving DecidableEq

/-- **What a node is.** -/
inductive Form where
  -- statements, a query being one of them
  | insert | update | delete | otherStatement
  -- queries and their bodies
  | query | select | setOperation | values | otherBody
  -- the entries of a FROM clause
  | tableWithJoins | table (name : Text) | derived | nestedJoin | otherRelation
  -- expressions; `emptyIn` is an IN list without members, `isTest` any of IS [NOT] NULL, TRUE
  -- and FALSE, `quantified` is ANY or ALL, `extract` also CEIL and FLOOR
  | identifier (name : Text) | compoundIdentifier (parts : List Text) | null | value
  | case | function (name : Text) | binary (op : BinaryOp) | unary | nested | cast
  | inList | emptyIn | inSubquery | exists | subquery | between | collate (name : Text)
  | like | ilike | similarTo | rlike | isTest | isUnknown | distinctFrom | quantified | tuple
  | extract | substring | trim | position | otherExpr
  deriving DecidableEq

/-- **What a node is for its parent.**  `aside` is every place that no pass looks at: LIMIT and
OFFSET, window definitions, OVER, a table function's arguments, RETURNING. -/
inductive Role where
  | source | assignment | cte | body | orderBy
  | from | selection | projection (name : Option Text) | groupBy | having
  | relation | joined | on | subquery
  | operand | listed | argument | filter | condition | result | elseResult
  | aside
  deriving DecidableEq

structure Label where
  role : Role
  form : Form
  deriving DecidableEq

/-- **A syntax tree.** -/
abbrev Ast := RoseTree Label

/-- The node with another role. -/
def Ast.playing (role : Role) (t : Ast) : Ast := .node ⟨role, t.label.form⟩ t.children

/-- A SELECT counts all its parts, since an alias may carry one part into another. -/
def sums (label : Label) : Bool := label.form == .select

abbrev Ast.rank (t : Ast) : ℕ := RoseTree.rank sums t

theorem Ast.rank_playing (role : Role) (t : Ast) : (t.playing role).rank = t.rank := by
  obtain ⟨⟨r, form⟩, ts⟩ := t
  rfl

/-! ### Projection aliases -/

/-- The aliases of a projection, lower-cased, with what they stand for. -/
def buildAliasMap (parts : List Ast) : List (Text × Ast) :=
  parts.filterMap fun e =>
    match e.label.role with
    | .projection (some name) => some (toLowercase name, e)
    | _ => none

/-- The operands that the alias expansion enters; a subquery is none of them. -/
def aliasesEnter (t c : Ast) : Bool :=
  match t.label.form, c.label.role with
  | .binary _, .operand | .unary, .operand | .nested, .operand | .cast, .operand
  | .isTest, .operand | .collate _, .operand | .distinctFrom, .operand | .between, .operand
  | .like, .operand | .ilike, .operand | .similarTo, .operand | .inSubquery, .operand
  | .inList, .operand | .inList, .listed | .emptyIn, .operand | .function _, .argument
  | .case, .operand | .case, .condition | .case, .result | .case, .elseResult => true
  | _, _ => false

/-- An identifier that is an alias becomes its expression. -/
def replaceAlias (aliases : List (Text × Ast)) (t : Ast) (children : List Ast) : Ast :=
  match t.label.form with
  | .identifier name =>
    match aliases.find? (·.1 == toLowercase name) with
    | some found => found.2.playing t.label.role
    | none => .node t.label children
  | _ => .node t.label children

/-- **Alias expansion** in one expression. -/
def expandAliases (aliases : List (Text × Ast)) (e : Ast) : Ast :=
  RoseTree.visit id aliasesEnter (replaceAlias aliases) (e.rank + 1) e

theorem replaceAlias_cases (aliases : List (Text × Ast)) (t : Ast) (children : List Ast) :
    replaceAlias aliases t children = .node t.label children ∨
      ∃ e ∈ aliases, replaceAlias aliases t children = e.2.playing t.label.role := by
  unfold replaceAlias
  split
  · split
    next found => exact .inr ⟨_, List.mem_of_find?_eq_some found, rfl⟩
    · exact .inl rfl
  · exact .inl rfl

theorem rank_expandAliases_le {aliases : List (Text × Ast)} {bound : ℕ}
    (bounded : ∀ e ∈ aliases, e.2.rank ≤ bound) (e : Ast) :
    (expandAliases aliases e).rank ≤ e.rank + bound := by
  refine RoseTree.rank_visit_le _ _ sums ?_ ?_ _ _
  · intro t c enters
    obtain ⟨⟨role, form⟩, ts⟩ := t
    cases form <;> first | rfl | simp [aliasesEnter] at enters
  · intro t cs
    rcases replaceAlias_cases aliases t cs with same | ⟨found, mem, replaced⟩
    · exact .inl same
    · refine .inr ?_
      rw [replaced]
      exact (Ast.rank_playing _ _).trans_le (bounded found mem)

end PlexPostgres.Translate
