import Mathlib.Algebra.Order.Ring.Int
import PlexPostgres.Library.Criteria
import PlexPostgres.Library.Text

/-!
# NULLs in an ORDER BY

SQLite holds a NULL to be less than every value: it stands first where a term ascends and
last where it descends.  PostgreSQL holds it to be greater.  Four passes touch the ORDER BY
of a query on its way.  The one for keywords only adds an ORDER BY where there is none, the one
for quotes puts names in double quotes; the one for GROUP BY marks the terms of a grouped query
NULLS FIRST, whichever way they go; the one for queries folds `x IS NULL, x` into one term with
the mark that has the same effect, and drops a bare `rowid`.  A query that is not grouped gets no
mark.

What an expression stands for is for the databases to say: a number is a position where it is a
term of its own and a constant in a test, a name may be a column or an output name, a count is
never NULL.  The results are for any such reading.
-/

namespace PlexPostgres.Translate

open Text Listing

/-! ### Queries and the passes over them -/

/-- **A name** and the mark it is quoted with. -/
structure Ident where
  value : Text
  quoteStyle : Option Char
  deriving DecidableEq, Repr

def Ident.print (i : Ident) : Text :=
  match i.quoteStyle with
  | none => i.value
  | some mark => mark :: i.value ++ [if mark = '[' then ']' else mark]

/-- **An ordering expression**: a column by the parts of its name, a number, one in parentheses, a
test for NULL, or anything else as it is printed, with the names in it. -/
inductive SortExpr where
  | column (parts : List Ident)
  | number (digits : Text)
  | other (printed : List (Text ⊕ Ident))
  | nested (inner : SortExpr)
  | isNull (inner : SortExpr)
  | isNotNull (inner : SortExpr)
  deriving DecidableEq, Repr

def SortExpr.print : SortExpr → Text
  | .column parts => List.intercalate ".".toList (parts.map Ident.print)
  | .number digits => digits
  | .other printed => printed.flatMap (Sum.elim id Ident.print)
  | .nested inner => "(".toList ++ inner.print ++ ")".toList
  | .isNull inner => inner.print ++ " IS NULL".toList
  | .isNotNull inner => inner.print ++ " IS NOT NULL".toList

/-- **`exprs_display_eq`.** -/
def exprsDisplayEq (a b : SortExpr) : Bool := toLowercase a.print = toLowercase b.print

/-- **A term of an ORDER BY** with its options. -/
structure OrderByExpr where
  expr : SortExpr
  asc : Option Bool
  nullsFirst : Option Bool
  deriving DecidableEq, Repr

def OrderByExpr.descending (t : OrderByExpr) : Bool := t.asc = some false

/-- An expression of a GROUP BY. -/
inductive GroupExpr where
  | null
  | expr
  deriving DecidableEq, Repr

/-- An item of a SELECT list: a call, with the expression as it is printed, or another one. -/
inductive SelectItem where
  | function (name : Text) (args : List SortExpr) (printed : List (Text ⊕ Ident))
  | other
  deriving DecidableEq, Repr

/-- **A SELECT**; `usesAggregates` says that an aggregate function occurs in its list, its
HAVING or its ORDER BY. -/
structure Select where
  distinct : Bool
  projection : List SelectItem
  groupBy : List GroupExpr
  usesAggregates : Bool
  deriving DecidableEq, Repr

/-- A SELECT, or a set operation or the like. -/
inductive SetExpr where
  | select (sel : Select)
  | other
  deriving DecidableEq, Repr

/-- **A query**; without an ORDER BY it has no terms. -/
structure Query where
  body : SetExpr
  orderBy : List OrderByExpr
  deriving DecidableEq, Repr

/-- `ORDER BY 1 NULLS FIRST`. -/
def firstColumn : OrderByExpr := ⟨.number "1".toList, none, some true⟩

/-- **`transform_query` of the keywords pass**: the NULLs leave the GROUP BY. -/
def keywordsPass (q : Query) : Query :=
  match q.body with
  | .select sel =>
    { body := .select { sel with groupBy := sel.groupBy.filter (· ≠ .null) }
      orderBy :=
        if sel.groupBy ≠ [] ∧ sel.groupBy.all (· = .null) ∧ q.orderBy = [] then [firstColumn]
        else q.orderBy }
  | .other => q

/-- **`fix_ident`**: PostgreSQL folds a name without quotes to lower case. -/
def fixIdent (i : Ident) : Ident :=
  if i.quoteStyle = some backQuote ∨ i.quoteStyle = some singleQuote ∨
      i.quoteStyle = none ∧ i.value.any (·.isUpper) then
    { i with quoteStyle := some '"' }
  else i

/-- The names of a printed expression put in quotes. -/
def fixPrinted (printed : List (Text ⊕ Ident)) : List (Text ⊕ Ident) :=
  printed.map (Sum.map id fixIdent)

/-- **`fix_expr`.** -/
def fixExpr : SortExpr → SortExpr
  | .column parts => .column (parts.map fixIdent)
  | .number digits => .number digits
  | .other printed => .other (fixPrinted printed)
  | .nested inner => .nested (fixExpr inner)
  | .isNull inner => .isNull (fixExpr inner)
  | .isNotNull inner => .isNotNull (fixExpr inner)

def fixItem : SelectItem → SelectItem
  | .function name args printed => .function name (args.map fixExpr) (fixPrinted printed)
  | .other => .other

/-- **`transform_query` of the quotes pass**, as far as the ORDER BY and what it is replaced by
go. -/
def quotesPass (q : Query) : Query where
  body :=
    match q.body with
    | .select sel => .select { sel with projection := sel.projection.map fixItem }
    | .other => .other
  orderBy := q.orderBy.map fun t => { t with expr := fixExpr t.expr }

/-- The aggregate functions. -/
def aggregateFunctions : List Text :=
  ["count", "sum", "avg", "min", "max", "group_concat", "string_agg", "array_agg", "bool_and",
    "bool_or", "every", "bit_and", "bit_or", "stddev", "stddev_pop", "stddev_samp", "variance",
    "var_pop", "var_samp", "percentile_cont", "percentile_disc", "first",
    "last"].map (·.toList)

def isAggregateName (name : Text) : Bool := toLowercase name ∈ aggregateFunctions

/-- **`expr_column_key`.** -/
def exprColumnKey : SortExpr → Option Text
  | .column parts => some (List.intercalate ".".toList (parts.map (toLowercase ·.value)))
  | .nested inner => exprColumnKey inner
  | _ => none

/-- What stands after the last dot. -/
def afterLastDot (key : Text) : Text := (key.reverse.takeWhile (· ≠ '.')).reverse

/-- **`build_agg_map_from_projection`**: the columns that are arguments of aggregates. -/
def buildAggMapFromProjection (projection : List SelectItem) : List (Text × SortExpr) :=
  projection.flatMap fun
    | .function name args printed =>
      if isAggregateName name then
        (args.filterMap exprColumnKey).map fun key => (afterLastDot key, .other printed)
      else []
    | .other => []

/-- **`find_agg_for_expr`.** -/
def findAggForExpr (expr : SortExpr) (aggMap : List (Text × SortExpr)) : Option SortExpr :=
  (exprColumnKey expr).bind fun key => aggMap.lookup (afterLastDot key)

/-- The query counts as grouped in the pass for GROUP BY: a DISTINCT without an aggregate
takes the GROUP BY away. -/
def Select.marked (sel : Select) : Bool :=
  sel.groupBy ≠ [] && !(sel.distinct && !sel.usesAggregates)

/-- What the pass makes of a term of a grouped query. -/
def markNullsFirst (aggMap : List (Text × SortExpr)) (t : OrderByExpr) : OrderByExpr :=
  { t with
    expr := (findAggForExpr t.expr aggMap).getD t.expr
    nullsFirst := some (t.nullsFirst.getD true) }

/-- **`transform_query` of the pass for GROUP BY**, as far as the ORDER BY goes. -/
def groupbyPass (q : Query) : List OrderByExpr :=
  match q.body with
  | .select sel =>
    if sel.marked then
      (if q.orderBy = [] then [firstColumn] else q.orderBy).map
        (markNullsFirst (buildAggMapFromProjection sel.projection))
    else q.orderBy
  | .other => q.orderBy

/-- A test for NULL: what is tested, and whether its NULLs come first if it ascends. -/
def SortExpr.nullTest : SortExpr → Option (SortExpr × Bool)
  | .isNull inner => some (inner, false)
  | .isNotNull inner => some (inner, true)
  | _ => none

/-- **`fix_order_by_is_null`.** -/
def fixOrderByIsNull : List OrderByExpr → List OrderByExpr
  | t :: next :: rest =>
    match t.expr.nullTest with
    | some (col, nullsFirstWhenAsc) =>
      if exprsDisplayEq next.expr col then
        { next with nullsFirst := some (nullsFirstWhenAsc != t.descending) } ::
          fixOrderByIsNull rest
      else t :: fixOrderByIsNull (next :: rest)
    | none => t :: fixOrderByIsNull (next :: rest)
  | terms => terms

/-- **`normalize_orderby_exprs`**: one pair of parentheses goes. -/
def normalizeOrderbyExprs (terms : List OrderByExpr) : List OrderByExpr :=
  terms.map fun t =>
    match t.expr with
    | .nested inner => { t with expr := inner }
    | _ => t

/-- The expression is just `rowid`. -/
def SortExpr.isRowid : SortExpr → Bool
  | .column parts => parts.map (toLowercase ·.value) = ["rowid".toList]
  | _ => false

/-- **`fix_order_by_rowid`.** -/
def fixOrderByRowid (terms : List OrderByExpr) : List OrderByExpr :=
  terms.filter fun t => !t.expr.isRowid

/-- **`transform_query` of the query pass**, as far as the ORDER BY goes. -/
def queryPass (terms : List OrderByExpr) : List OrderByExpr :=
  fixOrderByRowid (fixOrderByIsNull (normalizeOrderbyExprs terms))

/-- **The ORDER BY that PostgreSQL gets.**  The pass for GROUP BY reaches the statement, its
common table expressions and the derived tables of a FROM, and no query in an expression or
in a set operation. -/
def emit (reached : Bool) (q : Query) : List OrderByExpr :=
  let quoted := quotesPass (keywordsPass q)
  queryPass (if reached then groupbyPass quoted else quoted.orderBy)

/-! ### What an ordering means -/

/-- The expression without the parentheses around it. -/
def SortExpr.bare : SortExpr → SortExpr
  | .nested inner => inner.bare
  | e => e

/-- **What a database takes an expression for**: the field whose values a term compares, and the
one whose NULLs a test tells.  What is the same in every row has none; nor has, in a test, what is
never NULL, like another test. -/
structure Reading (F : Type*) where
  alone : SortExpr → Option F
  operand : SortExpr → Option F

/-- SQLite: NULLs are less than every value. -/
def sqliteRule (t : OrderByExpr) : Bool := t.nullsFirst.getD !t.descending

/-- PostgreSQL: NULLs are greater than every value. -/
def postgresRule (t : OrderByExpr) : Bool := t.nullsFirst.getD t.descending

section

variable {F V : Type*} [LinearOrder V]

namespace Reading

/-- Whether the expression is NULL in a row, if that is not the same in every row. -/
def isNull (ρ : Reading F) (e : SortExpr) (r : F → Option V) : Bool :=
  (ρ.operand e.bare).elim false fun f => (r f).isNone

/-- **Comparing by a term**, for a rule where its NULLs stand: tests are false before true. -/
def compare (ρ : Reading F) (rule : OrderByExpr → Bool) (t : OrderByExpr) (r s : F → Option V) :
    Ordering :=
  match t.expr.bare.nullTest with
  | some (col, negated) =>
    compareTest t.descending (xor negated (ρ.isNull col r)) (xor negated (ρ.isNull col s))
  | none => (ρ.alone t.expr.bare).elim .eq fun f =>
    compareNullable t.descending (rule t) (r f) (s f)

/-- **The order of some terms.** -/
def order (ρ : Reading F) (rule : OrderByExpr → Bool) (terms : List OrderByExpr) :
    (F → Option V) → (F → Option V) → Ordering :=
  lex (terms.map (ρ.compare rule))

end Reading

variable (V) in
/-- **A row**: what its fields hold, which is not NULL in those that are `total`. -/
def SortRow (total : F → Bool) : Type _ := {r : F → Option V // Admits total r}

/-- **The order in which SQLite gives the rows of a query.** -/
def sqliteOrder (ρ : Reading F) (q : Query) {total : F → Bool} (r s : SortRow V total) : Ordering :=
  ρ.order sqliteRule q.orderBy r.1 s.1

/-- **The order in which PostgreSQL gives the rows of the emitted query.** -/
def postgresOrder (σ : Reading F) (reached : Bool) (q : Query) {total : F → Bool}
    (r s : SortRow V total) : Ordering :=
  σ.order postgresRule (emit reached q) r.1 s.1

variable (V) in
/-- **The rows come in an order SQLite gives them**, whatever they are. -/
def ListsAlike (total : F → Bool) (ρ σ : Reading F) (reached : Bool) (q : Query) : Prop :=
  ∀ rows listing : List (SortRow V total),
    Lists (postgresOrder σ reached q) rows listing → Lists (sqliteOrder ρ q) rows listing

/-! ### What decides the order -/

variable {total : F → Bool}

/-- Whether a field is NULL, unless it never is. -/
def nullCriterion (total : F → Bool) (f : F) (first : Bool) : List (Criterion F) :=
  if total f then [] else [.null f first]

namespace Reading

variable (ρ : Reading F) (rule : OrderByExpr → Bool) (t : OrderByExpr) {r s : F → Option V}

/-- **What a term looks at**: a test at the NULLs of its operand, another one at the NULLs and then
at the values. -/
def criteria (total : F → Bool) : List (Criterion F) :=
  match t.expr.bare.nullTest with
  | some (col, negated) =>
    (ρ.operand col.bare).elim [] fun f => nullCriterion total f (negated != t.descending)
  | none => (ρ.alone t.expr.bare).elim [] fun f =>
    nullCriterion total f (rule t) ++ [.value f t.descending]

/-- What some terms look at, one after another. -/
def allCriteria (total : F → Bool) (terms : List OrderByExpr) : List (Criterion F) :=
  terms.flatMap (ρ.criteria rule · total)

/-- **What some terms add to an order** that has looked at `seen` before: what they look at and no
earlier one has. -/
def adds [DecidableEq F] (total : F → Bool) (seen : Finset (Bool × F)) (terms : List OrderByExpr) :
    List (Criterion F) :=
  fresh seen (ρ.allCriteria rule total terms)

/-- A term compares by what it looks at. -/
theorem compare_eq (left : Admits total r) (right : Admits total s) :
    ρ.compare rule t r s = Listing.order (ρ.criteria rule t total) r s := by
  have nulls (f : F) (first : Bool) : Listing.order (nullCriterion total f first) r s =
      compareTest first (r f).isNone (s f).isNone := by
    unfold nullCriterion
    split
    next never =>
      have there {r : F → Option V} (admits : Admits total r) : (r f).isNone = false :=
        Option.isNone_eq_false_iff.mpr (Option.isSome_iff_ne_none.mpr (admits f never))
      rw [there left, there right, compareTest_self]
      rfl
    next => exact order_singleton ..
  unfold compare criteria
  split
  next col negated _ =>
    unfold isNull
    cases ρ.operand col.bare with
    | none => exact compareTest_self ..
    | some f =>
      rw [Option.elim_some, Option.elim_some, Option.elim_some, nulls]
      cases negated <;> cases t.descending <;> cases (r f).isNone <;> cases (s f).isNone <;> rfl
  next =>
    cases ρ.alone t.expr.bare with
    | none => rfl
    | some f =>
      rw [Option.elim_some, Option.elim_some, order_append, nulls, order_singleton]
      exact (Criterion.null_then_value f ..).symm

/-- **The order of the terms is that of what they look at.** -/
theorem order_eq (terms : List OrderByExpr) (left : Admits total r) (right : Admits total s) :
    ρ.order rule terms r s = Listing.order (ρ.allCriteria rule total terms) r s := by
  induction terms with
  | nil => rfl
  | cons t terms ih =>
    have first : ρ.order rule (t :: terms) r s =
        (ρ.compare rule t r s).then (ρ.order rule terms r s) := rfl
    rw [first, ih, ρ.compare_eq rule t left right, allCriteria, allCriteria, List.flatMap_cons,
      order_append]

variable [DecidableEq F]

theorem adds_append (seen : Finset (Bool × F)) (before terms : List OrderByExpr) :
    ρ.adds rule total seen (before ++ terms) = ρ.adds rule total seen before ++
      ρ.adds rule total (seen ∪ subjects (ρ.allCriteria rule total before)) terms := by
  rw [adds, allCriteria, List.flatMap_append]
  exact fresh_append ..

theorem criteria_grounded : Grounded total ∅ (ρ.criteria rule t total) := by
  have nulls (f : F) (first : Bool) : Grounded total ∅ (nullCriterion total f first) := by
    unfold nullCriterion
    split
    next => trivial
    next may => exact ⟨Bool.eq_false_iff.mpr may, trivial⟩
  unfold criteria
  split
  next col _ _ =>
    cases ρ.operand col.bare with
    | none => trivial
    | some f => exact nulls f _
  next =>
    cases ρ.alone t.expr.bare with
    | none => trivial
    | some f =>
      simp only [Option.elim_some, nullCriterion]
      split
      next never => exact ⟨.inl never, trivial⟩
      next may => exact ⟨Bool.eq_false_iff.mpr may, .inr (Finset.mem_insert_self ..), trivial⟩

theorem allCriteria_grounded (terms : List OrderByExpr) :
    Grounded total ∅ (ρ.allCriteria rule total terms) := by
  induction terms with
  | nil => trivial
  | cons t terms ih => exact (ρ.criteria_grounded rule t).append ih

end Reading

variable [DecidableEq F]

/-- **The NULLs keep their place**: what decides the order for SQLite comes first, the same way
round, in what decides it for PostgreSQL. -/
def NullsKept (total : F → Bool) (ρ σ : Reading F) (reached : Bool) (q : Query) : Prop :=
  ρ.adds sqliteRule total ∅ q.orderBy <+: σ.adds postgresRule total ∅ (emit reached q)

instance (ρ σ : Reading F) (reached : Bool) (q : Query) :
    Decidable (NullsKept total ρ σ reached q) :=
  inferInstanceAs (Decidable (_ <+: _))

end

/-! ### Reading names -/

/-- What a row holds: columns by their names, the columns of the answer by their number, and what
other expressions come to. -/
inductive Field where
  | column (parts : List Text)
  | position (digits : Text)
  | other (printed : List (Text ⊕ Text))
  deriving DecidableEq, Repr

/-- **Every name is a column**, whatever its case and quotes. -/
def byName : Reading Field :=
  let operand : SortExpr → Option Field
    | .column parts => some (.column (parts.map (toLowercase ·.value)))
    | .other printed => some (.other (printed.map (Sum.map id (toLowercase ·.value))))
    | _ => none
  { operand
    alone := fun
      | .number digits => some (.position digits)
      | e => operand e }

/-- A column without quotes. -/
def SortExpr.named (name : String) : SortExpr := .column [⟨name.toList, none⟩]

/-- `SELECT … GROUP BY a ORDER BY b, c IS NULL, c DESC`. -/
def groupedQuery : Query where
  body := .select ⟨false, [], [.expr], false⟩
  orderBy :=
    [⟨.named "b", none, none⟩, ⟨.isNull (.named "c"), none, none⟩, ⟨.named "c", some false, none⟩]

/-- `SELECT … ORDER BY …`. -/
def plainQuery (orderBy : List OrderByExpr) : Query := ⟨.select ⟨false, [], [], false⟩, orderBy⟩

-- `1 IS NULL, 1` is folded though `1 IS NULL` says nothing, `a IS NULL, A` is not; a descending
-- count keeps its place, being never NULL.
example :
    ¬NullsKept (fun _ => false) byName byName true
        (plainQuery [⟨.isNull (.number ['1']), none, none⟩, ⟨.number ['1'], none, none⟩]) ∧
      NullsKept (fun _ => false) byName byName true
        (plainQuery [⟨.isNull (.named "a"), none, none⟩, ⟨.named "A", none, none⟩]) ∧
      NullsKept (fun f => f = .other [.inl "count(*)".toList]) byName byName true
        (plainQuery [⟨.other [.inl "count(*)".toList], some false, none⟩]) := by
  decide +kernel

/-- A row by its column `a`. -/
def plainRow (a : Option ℤ) : SortRow ℤ fun _ : Field => false :=
  ⟨fun f => if f = .column [['a']] then a else some 0, nofun⟩

end PlexPostgres.Translate
