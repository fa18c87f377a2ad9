import Mathlib.Data.List.Perm.Basic
import Mathlib.Order.Compare

/-!
# Listing rows in an order

A result that is ordered by several terms is some arrangement of its rows in which no row
stands after a greater one, where the terms are compared one after another.  Rows that tie
on every term may stand in any order, so a comparison allows several listings.

A column that is compared may hold NULL, and where the NULLs stand is a choice apart from
the direction of the values.
-/

namespace Listing

variable {α β : Type*}

/-! ### Comparing by several terms -/

/-- **One comparison after another**: the first one that tells two rows apart decides. -/
def lex (comparisons : List (α → α → Ordering)) (a b : α) : Ordering :=
  comparisons.foldr (fun compare rest => (compare a b).then rest) .eq

@[simp] theorem lex_cons (c : α → α → Ordering) (cs : List (α → α → Ordering)) (a b : α) :
    lex (c :: cs) a b = (c a b).then (lex cs a b) := rfl

theorem lex_append (cs ds : List (α → α → Ordering)) (a b : α) :
    lex (cs ++ ds) a b = (lex cs a b).then (lex ds a b) := by
  induction cs with
  | nil => rfl
  | cons c cs ih =>
    simp only [List.cons_append, lex_cons, ih]
    cases c a b <;> rfl

/-! ### The listings of a comparison -/

/-- **A listing of some rows**: all of them, none after a greater one. -/
def Lists (compare : α → α → Ordering) (rows listing : List α) : Prop :=
  listing.Perm rows ∧ listing.Pairwise fun a b => compare a b ≠ .gt

theorem lists_pair {c : α → α → Ordering} {a b : α} : Lists c [a, b] [a, b] ↔ c a b ≠ .gt := by
  simp [Lists]

/-- **Every listing of one comparison is one of the other** exactly if what the first lets
stand in some order, the second does too. -/
theorem Lists.refines {c d : α → α → Ordering} :
    (∀ rows listing, Lists c rows listing → Lists d rows listing) ↔
      ∀ a b, c a b ≠ .gt → d a b ≠ .gt := by
  constructor
  · intro allowed a b inOrder
    exact lists_pair.mp (allowed [a, b] [a, b] (lists_pair.mpr inOrder))
  · intro weaker rows listing lists
    exact ⟨lists.1, lists.2.imp fun {a b} => weaker a b⟩

/-! ### Values and NULL -/

section

variable [LinearOrder β]

/-- **Comparing two columns that may be NULL**: `descending` turns the values round,
`nullsFirst` says at which end the NULLs stand. -/
def compareNullable (descending nullsFirst : Bool) : Option β → Option β → Ordering
  | some v, some w => if descending then compare w v else compare v w
  | none, some _ => if nullsFirst then .lt else .gt
  | some _, none => if nullsFirst then .gt else .lt
  | none, none => .eq

@[simp] theorem compareNullable_self (descending nullsFirst : Bool) (v : Option β) :
    compareNullable descending nullsFirst v v = .eq := by
  cases v <;> simp [compareNullable]

theorem compareNullable_eq_iff {descending nullsFirst : Bool} {v w : Option β} :
    compareNullable descending nullsFirst v w = .eq ↔ v = w := by
  cases v <;> cases w <;> cases nullsFirst <;> cases descending <;>
    simp only [compareNullable, compare_eq_iff_eq, Option.some.injEq, reduceIte, reduceCtorEq,
      Bool.false_eq_true]
  all_goals exact eq_comm

end

/-- **Comparing by a test**, `false` before `true` unless turned round. -/
def compareTest (descending : Bool) (p q : Bool) : Ordering :=
  if descending then compare q p else compare p q

@[simp] theorem compareTest_self (descending p : Bool) : compareTest descending p p = .eq := by
  cases descending <;> cases p <;> rfl

theorem compareTest_eq_iff {descending p q : Bool} : compareTest descending p q = .eq ↔ p = q := by
  cases descending <;> cases p <;> cases q <;> decide

end Listing
