import PlexPostgres.Translate.Ast

/-!
# Case-insensitive LIKE

SQLite's LIKE ignores the case of ASCII letters, so the query pass turns each LIKE it comes to
into ILIKE, unless `PRAGMA case_sensitive_like` is on.  The pass is one traversal of the
statement, and it does not come everywhere: the two sides of a full-text MATCH are moved as they
stand, although the parser reads `a MATCH 'x' AND b LIKE 'y'` as a match against the whole
conjunction; a CASE that looks like the pass's own JSON guard is left alone; a LIMIT, a window and
the expression forms the pass does not list are not entered.

What the pass does besides (collations, boolean results, casts, GREATEST and LEAST) moves, wraps
or copies operands and neither makes a LIKE nor removes one.
-/

open Text RoseTree

namespace PlexPostgres.Translate

/-! ### Projection aliases in WHERE and HAVING -/

/-- The tables of a FROM entry, joined ones included. -/
def scopedTables : Ast → List Text :=
  fold fun label names =>
    match label.form with
    | .table name => [toLowercase name]
    | .tableWithJoins | .nestedJoin => names.flatten
    | _ => []

section Aliases

variable (schema : Text → Text → Bool)

/-- Whether a table of the SELECT's own FROM has a column of this name. -/
def isKnownColumn (sel : Ast) (name : Text) : Bool :=
  toLowercase name == "id".toList ||
    ((sel.children.filter (·.label.role == .from)).flatMap scopedTables).any fun table =>
      schema table (toLowercase name)

/-- The alias merely repeats the column's own name. -/
def sameName (name : Text) (e : Ast) : Bool :=
  match e.label.form with
  | .identifier own => asciiLower own == asciiLower name
  | .compoundIdentifier parts =>
    parts.getLast?.any fun own => asciiLower own == asciiLower name
  | _ => false

def projectionAliases (sel : Ast) : List (Text × Ast) :=
  (buildAliasMap sel.children).filter fun entry =>
    !sameName entry.1 entry.2 && !isKnownColumn schema sel entry.1

/-- **Aliases first**: in WHERE and HAVING an alias stands for its expression. -/
def expandProjectionAliases (t : Ast) : Ast :=
  if t.label.form = .select then
    .node t.label (t.children.map fun c =>
      if c.label.role = .selection ∨ c.label.role = .having then
        expandAliases (projectionAliases schema t) c
      else c)
  else t

/-- A part of a SELECT that carries an alias. -/
def isNamed (e : Ast) : Bool :=
  match e.label.role with
  | .projection (some _) => true
  | _ => false

theorem rank_le_of_mem_projectionAliases {sel : Ast} {entry : Text × Ast}
    (mem : entry ∈ projectionAliases schema sel) :
    entry.2.rank ≤ ((sel.children.filter isNamed).map Ast.rank).sum := by
  obtain ⟨e, listed, found⟩ := List.mem_filterMap.mp (List.mem_filter.mp mem).1
  have named : isNamed e = true ∧ entry.2 = e := by
    split at found
    next role => cases found; exact ⟨by simp only [isNamed, role], rfl⟩
    · cases found
  rw [named.2]
  exact List.le_sum_of_mem (List.mem_map_of_mem (List.mem_filter.mpr ⟨listed, named.1⟩))

/-- The traversal falls: an expanded clause is lower than the SELECT it belongs to. -/
theorem rank_lt_of_mem_expanded {t c : Ast}
    (mem : c ∈ (expandProjectionAliases schema t).children) : c.rank < t.rank := by
  unfold expandProjectionAliases at mem
  split at mem
  next select =>
    obtain ⟨d, listed, rfl⟩ := List.mem_map.mp mem
    split
    next clause =>
      have out : isNamed d = false := by
        unfold isNamed
        rcases clause with role | role <;> rw [role]
      have low := rank_add_lt sums (by simp [sums, select]) listed isNamed out
      exact lt_of_le_of_lt (rank_expandAliases_le
        (fun _ named => rank_le_of_mem_projectionAliases schema named) d) low
    · exact rank_lt_of_mem sums listed
  · exact rank_lt_of_mem sums mem

end Aliases

/-! ### The pass -/

def isMatch (op : BinaryOp) : Bool := op == .match || op == .custom "MATCH".toList

def isJsonValidCall (e : Ast) : Bool :=
  match e.label.form with
  | .function name => toLowercase name == "json_valid".toList
  | _ => false

/-- `CASE WHEN json_valid(…) THEN … ELSE NULL END`, which the pass itself writes. -/
def isJsonGuard (t : Ast) : Bool :=
  t.children.all (·.label.role != .operand) &&
    match t.children.filter (·.label.role == .condition) with
    | [condition] => isJsonValidCall condition &&
        t.children.any fun c => c.label == ⟨.elseResult, .null⟩
    | _ => false

/-- **The parts the query pass enters.** -/
def queryEnters (t c : Ast) : Bool :=
  match t.label.form, c.label.role with
  | .insert, .source | .update, .relation | .update, .assignment | .update, .selection
  | .delete, .selection => true
  | .query, .cte | .query, .body | .query, .orderBy | .setOperation, .body => true
  | .select, .from | .select, .selection | .select, .projection _ | .select, .groupBy
  | .select, .having | .values, .listed => true
  | .tableWithJoins, .relation | .tableWithJoins, .joined | .tableWithJoins, .on
  | .derived, .subquery | .nestedJoin, .relation => true
  | .case, .operand | .case, .condition | .case, .result | .case, .elseResult => !isJsonGuard t
  | .function _, .argument | .function _, .filter => true
  | .binary op, .operand => !isMatch op
  | .unary, .operand | .nested, .operand | .cast, .operand | .inList, .operand
  | .inList, .listed | .emptyIn, .operand | .inSubquery, .operand | .inSubquery, .subquery
  | .exists, .subquery | .subquery, .subquery | .between, .operand | .collate _, .operand => true
  | .like, .operand | .ilike, .operand | .similarTo, .operand | .rlike, .operand
  | .isTest, .operand | .isUnknown, .operand | .distinctFrom, .operand | .quantified, .operand
  | .tuple, .listed | .extract, .operand | .substring, .operand | .trim, .operand
  | .trim, .listed | .position, .operand => true
  | _, _ => false

/-- `left MATCH right`: the term is the leftmost leaf of a conjunction the parser took for the
right side, and the rest stays outside the match. -/
def transformFtsMatch (role : Role) (left : Ast) : Ast → Ast
  | .node ⟨own, .binary op⟩ [termSide, rest] =>
    if op = .and ∨ op = .or then
      .node ⟨role, .binary op⟩ [transformFtsMatch .operand left termSide, rest]
    else search role left (.node ⟨own, .binary op⟩ [termSide, rest])
  | right => search role left right
where
  /-- `to_tsvector('simple', plex.fold(left)) @@ plex.fts_query(right)`. -/
  search (role : Role) (left right : Ast) : Ast :=
    .node ⟨role, .binary (.custom "@@".toList)⟩
      [.node ⟨.operand, .function "to_tsvector".toList⟩
        [.node ⟨.argument, .value⟩ [],
          .node ⟨.argument, .function "fold".toList⟩ [left.playing .argument]],
        .node ⟨.operand, .function "fts_query".toList⟩ [right.playing .argument]]

def isCollateNocase (e : Ast) : Bool :=
  match e.label.form with
  | .collate name => toLowercase name == "nocase".toList
  | _ => false

section Pass

variable (schema : Text → Text → Bool) (caseSensitiveLike : Bool)

/-- A LIKE that the pragma keeps: no operand is compared without case. -/
def keepsLike (t : Ast) : Bool :=
  t.label.form == .like && caseSensitiveLike && !t.children.any isCollateNocase

/-- **A node whose operands are done**: a LIKE becomes ILIKE, a MATCH a text search. -/
def finishExpr (t : Ast) (children : List Ast) : Ast :=
  match t.label.form, children with
  | .like, children =>
    if keepsLike caseSensitiveLike t then .node t.label children
    else .node ⟨t.label.role, .ilike⟩ children
  | .binary op, [left, right] =>
    if isMatch op then transformFtsMatch t.label.role left right
    else .node t.label [left, right]
  | _, children => .node t.label children

/-- **The query pass**, as far as LIKE is concerned. -/
def transformLike (t : Ast) : Ast :=
  visit (expandProjectionAliases schema) queryEnters (finishExpr caseSensitiveLike)
    (t.rank + 1) t

def isLike (label : Label) : Bool := label.form == .like

/-- **A LIKE the pass misses**: the pragma keeps it, or it stands, once the aliases are expanded,
in a part that the pass does not enter. -/
abbrev MissesLike : Ast → Prop :=
  Missed (expandProjectionAliases schema) queryEnters isLike
    fun t => keepsLike caseSensitiveLike t = true

theorem has_isLike_playing (role : Role) (t : Ast) :
    has isLike (t.playing role) = has isLike t := by
  obtain ⟨label, ts⟩ := t
  rfl

theorem has_isLike_transformFtsMatch (role : Role) (left right : Ast) :
    has isLike (transformFtsMatch role left right) = true ↔
      has isLike left = true ∨ has isLike right = true := by
  fun_induction transformFtsMatch role left right with
  | case1 role own op termSide rest logical ih =>
    simp [has_node, ih, isLike, or_assoc]
  | case2 | case3 => simp [transformFtsMatch.search, has_node, has_isLike_playing, isLike]

theorem has_isLike_finishExpr (t : Ast) (children : List Ast) :
    has isLike (finishExpr caseSensitiveLike t children) = true ↔
      keepsLike caseSensitiveLike t = true ∨ ∃ c ∈ children, has isLike c = true := by
  have kept : keepsLike caseSensitiveLike t = true → t.label.form = .like := by
    simp +contextual [keepsLike]
  unfold finishExpr
  split
  next form => split <;> simp_all [has_node, isLike]
  next form =>
    split
    · simp_all [has_isLike_transformFtsMatch]
    · simp_all [has_node, isLike]
  next other => simp_all [has_node, isLike]

/-- **No LIKE is left exactly when none is missed.** -/
theorem no_like_left_iff (t : Ast) :
    has isLike (transformLike schema caseSensitiveLike t) = false ↔
      ¬ MissesLike schema caseSensitiveLike t := by
  rw [← Bool.not_eq_true, transformLike,
    has_visit_iff _ _ _ (has_isLike_finishExpr caseSensitiveLike)
      (fun t c mem _ => rank_lt_of_mem_expanded schema mem) (Nat.lt_succ_self _)]

end Pass

/-- `title MATCH 'x' AND tag LIKE 'y'`, as the parser reads it: the LIKE beside the match is left
case-sensitive. -/
theorem like_beside_match_left :
    has isLike (transformLike (fun _ _ => false) false
      (.node ⟨.selection, .binary .match⟩
        [.node ⟨.operand, .identifier "title".toList⟩ [],
          .node ⟨.operand, .binary .and⟩
            [.node ⟨.operand, .value⟩ [],
              .node ⟨.operand, .like⟩
                [.node ⟨.operand, .identifier "tag".toList⟩ [],
                  .node ⟨.operand, .value⟩ []]]])) = true := by
  decide

end PlexPostgres.Translate
