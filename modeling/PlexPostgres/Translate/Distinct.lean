import Mathlib.Algebra.Order.BigOperators.Group.List
import Mathlib.Algebra.Order.Ring.Nat
import PlexPostgres.Library.Listing
import PlexPostgres.Library.Text

/-!
# SELECT DISTINCT with an ORDER BY

PostgreSQL refuses a SELECT DISTINCT that is ordered by something outside its select list, so
the query pass appends each ordering term that it does not find there.  It looks for a term by
what it prints, lower-cased and without blanks and parentheses.  A term that is appended is one
more column of the answer; a term that is found by its print may still be another expression,
and then PostgreSQL refuses the query as it stands.
-/

namespace PlexPostgres.Translate.Distinct

open Text

/-- **What is known of the expressions**: how one prints, which ones PostgreSQL takes for the
same, whether one is a bare name or a bare number, and what `*` or `t.*` stands for. -/
structure Dialect (E : Type*) where
  display : E → Text
  same : E → E → Bool
  name : E → Option Text
  position : E → Option ℕ
  starWidth : Option Text → ℕ
  starHas : Option Text → E → Bool

/-- An item of a select list; `nested` says that it is in parentheses. -/
inductive Item (E : Type*) where
  | expr (nested : Bool) (e : E) (name : Option Text)
  | star (table : Option Text)

/-- A term of an ORDER BY with its direction and its place for NULLs. -/
structure Term (E O : Type*) where
  nested : Bool
  e : E
  options : O

/-- **A SELECT DISTINCT.** -/
structure Query (E O : Type*) where
  items : List (Item E)
  terms : List (Term E O)

variable {E O : Type*} (d : Dialect E)

/-! ### The pass -/

/-- **`expr_to_key`.** -/
def exprToKey (e : E) : Text :=
  (toLowercase (d.display e)).filter fun c => c ≠ ' ' ∧ c ≠ '(' ∧ c ≠ ')'

/-- What an item is looked for by. -/
def Item.key : Item E → Text
  | .expr _ e _ => exprToKey d e
  | .star (some table) => table ++ ".*".toList
  | .star none => "*".toList

/-- The terms that are not found in the select list. -/
def missing (q : Query E O) : List (Term E O) :=
  q.terms.filter fun t => exprToKey d t.e ∉ q.items.map (Item.key d)

/-- An unnamed item loses its parentheses. -/
def Item.unwrapped : Item E → Item E
  | .expr _ e none => .expr false e none
  | item => item

/-- **`fix_distinct_orderby_not_in_select`.** -/
def fixDistinctOrderbyNotInSelect (q : Query E O) : Query E O :=
  if (missing d q).isEmpty then q
  else { q with
    items := q.items.map Item.unwrapped ++ (missing d q).map fun t => .expr t.nested t.e none }

/-- **`normalize_orderby_exprs`.** -/
def normalizeOrderbyExprs (q : Query E O) : Query E O :=
  { q with terms := q.terms.map ({ · with nested := false }) }

/-- The two passes over a query that is DISTINCT still: those for aggregates and for GROUP BY come
first, and may have taken it off. -/
def rewrite (q : Query E O) : Query E O :=
  normalizeOrderbyExprs (fixDistinctOrderbyNotInSelect d q)

/-! ### What a query answers -/

/-- The number of columns. -/
def width (items : List (Item E)) : ℕ :=
  (items.map fun | .expr _ _ _ => 1 | .star table => d.starWidth table).sum

/-- **PostgreSQL finds the term in the select list**: as a position, as an output name, or as
one of its expressions. -/
def Accepted (items : List (Item E)) (t : Term E O) : Prop :=
  (∃ n, d.position t.e = some n ∧ 1 ≤ n ∧ n ≤ width d items) ∨
    ∃ item ∈ items, match item with
      | .expr _ e name => d.same t.e e = true ∨ name.isSome ∧ d.name t.e = name
      | .star table => d.starHas table t.e = true

/-- **The contents of the tables**, as the expressions see them. -/
structure Content (E O R V : Type*) where
  eval : E → R → V
  star : Option Text → R → List V
  compare : O → V → V → Ordering

variable {R V : Type*} (content : Content E O R V)

/-- The row that a select list makes of a row of the tables. -/
def Content.tuple (items : List (Item E)) (r : R) : List V :=
  items.flatMap fun | .expr _ e _ => [content.eval e r] | .star table => content.star table r

/-- **The distinct rows**, each once, in an order that the terms allow at some row each comes
from. -/
structure Answers (q : Query E O) (rows : List R) (listing : List (List V)) : Prop where
  nodup : listing.Nodup
  mem : ∀ v, v ∈ listing ↔ ∃ r ∈ rows, content.tuple q.items r = v
  ordered : ∃ origin : List V → R,
    (∀ v ∈ listing, origin v ∈ rows ∧ content.tuple q.items (origin v) = v) ∧
    listing.Pairwise fun v w => Listing.lex (q.terms.map fun t r s =>
      content.compare t.options (content.eval t.e r) (content.eval t.e s))
        (origin v) (origin w) ≠ .gt

variable (R V) in
/-- **The query handed on is accepted, has as many columns and answers as the given one.** -/
structure Preserved (q : Query E O) : Prop where
  accepted : ∀ t ∈ (rewrite d q).terms, Accepted d (rewrite d q).items t
  width : width d (rewrite d q).items = width d q.items
  answers : ∀ (content : Content E O R V) (rows : List R) (listing : List (List V)),
    Answers content (rewrite d q) rows listing → Answers content q rows listing

variable {d}

theorem width_unwrapped (items : List (Item E)) :
    width d (items.map Item.unwrapped) = width d items := by
  unfold width
  rw [List.map_map]
  refine congrArg List.sum (List.map_congr_left fun item _ => ?_)
  rcases item with ⟨nested, e, _ | name⟩ | table <;> rfl

/-- Each term that is appended is a column more. -/
theorem width_rewrite (q : Query E O) :
    width d (rewrite d q).items = width d q.items + (missing d q).length := by
  unfold rewrite normalizeOrderbyExprs fixDistinctOrderbyNotInSelect
  split
  next none => simp [List.isEmpty_iff.mp none]
  · have appended : width d ((missing d q).map fun t => .expr t.nested t.e none) =
        (missing d q).length := by
      simp [width, Function.comp_def]
    rw [← appended, ← width_unwrapped q.items]
    simp [width]

/-- Without a term to append only parentheses go. -/
theorem rewrite_of_nothing_missing {q : Query E O} (none : missing d q = []) :
    rewrite d q = normalizeOrderbyExprs q := by
  rw [rewrite, fixDistinctOrderbyNotInSelect, if_pos (by simp [none])]

/-- **The answer is preserved exactly if every term is found by its print and PostgreSQL finds
it too.** -/
theorem preserved_iff (q : Query E O) :
    Preserved d R V q ↔ ∀ t ∈ q.terms,
      exprToKey d t.e ∈ q.items.map (Item.key d) ∧ Accepted d q.items t := by
  constructor
  · intro preserved
    have none : missing d q = [] := by
      have same := preserved.width
      rw [width_rewrite] at same
      exact List.eq_nil_of_length_eq_zero (by omega)
    have accepted := preserved.accepted
    rw [rewrite_of_nothing_missing none] at accepted
    intro t mem
    exact ⟨by simpa using List.filter_eq_nil_iff.mp none t mem,
      accepted { t with nested := false } (List.mem_map_of_mem mem)⟩
  · intro found
    have none : missing d q = [] :=
      List.filter_eq_nil_iff.mpr fun t mem => by simpa using (found t mem).1
    have same := rewrite_of_nothing_missing none
    refine ⟨fun t mem => ?_, by rw [width_rewrite, none]; rfl, fun content rows listing given => ?_⟩
    · rw [same] at mem ⊢
      obtain ⟨u, isTerm, rfl⟩ := List.mem_map.mp mem
      exact (found u isTerm).2
    · rw [same] at given
      refine ⟨given.nodup, given.mem, ?_⟩
      simpa only [normalizeOrderbyExprs, List.map_map, Function.comp_def] using given.ordered

/-- Columns that print their names. -/
def columns : Dialect Text := ⟨id, (· == ·), some, fun _ => none, fun _ => 0, fun _ _ => false⟩

/-- `SELECT DISTINCT id FROM t ORDER BY title`. -/
def idsByTitle : Query Text Unit :=
  ⟨[.expr false "id".toList none], [⟨false, "title".toList, ()⟩]⟩

/-- Rows of one id, each with a title of its own. -/
def sameId : Content Text Unit Bool Bool :=
  ⟨fun e title => e = "title".toList ∧ title, fun _ _ => [], fun _ => compare⟩

/-- **Ordering distinct ids by title** answers with two columns: an id that has two titles is
listed once by the given query and twice by the one handed on. -/
theorem distinct_gains_column :
    width columns (rewrite columns idsByTitle).items = 2 ∧
      ¬ Preserved columns Bool Bool idsByTitle ∧
      Answers sameId idsByTitle [false, true] [[false]] ∧
      Answers sameId (rewrite columns idsByTitle) [false, true]
        [[false, false], [false, true]] := by
  refine ⟨by decide, fun preserved => absurd preserved.width (by decide), ⟨by decide, ?_, ?_⟩,
    by decide, ?_, ?_⟩
  · intro v
    have tuples : [false, true].map (sameId.tuple idsByTitle.items) = [[false], [false]] := by
      decide
    rw [← List.mem_map, tuples]
    simp
  · exact ⟨fun _ => false, by decide, by decide⟩
  · intro v
    have tuples : [false, true].map (sameId.tuple (rewrite columns idsByTitle).items) =
        [[false, false], [false, true]] := by decide
    rw [← tuples, List.mem_map]
  · exact ⟨fun v => v.getLastD false, by decide, by decide⟩

end PlexPostgres.Translate.Distinct
