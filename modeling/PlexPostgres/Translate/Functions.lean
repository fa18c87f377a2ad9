import PlexPostgres.Bind.Params

/-!
# The function pass: `iif` over a `typeof`, and `substr`

The pass takes `iif(typeof(x) IN (…), a, b)` for `a`, whatever the list says and whatever is
stored.  It writes `substr(x, -n, m)` as `LEFT(RIGHT(x, n), m)` where it sees the sign, and leaves
every other call.  In SQLite a negative length goes back from the start, and what lies before the
string counts as part of the length; PostgreSQL refuses a negative length.
-/

namespace PlexPostgres.Translate.Functions

open Text

/-! ### `iif` -/

variable {E δ : Type*}

/-- An expression, as far as the simplification looks at it: a test of a call against a list of
names, or any other. -/
inductive Expr (E : Type*) where
  | inList (function : Text) (argument : E) (list : List Text) (negated : Bool)
  | plain (e : E)
  deriving DecidableEq

/-- **`try_simplify_typeof`**, for the arguments of an `iif`; `none` is one that has a name. -/
def trySimplifyTypeof : List (Option (Expr E)) → Option (Expr E)
  | some (.inList function _ _ _) :: some thenExpr :: _ =>
    if toLowercase function = "typeof".toList then some thenExpr else none
  | _ => none

/-- `typeof`: the storage class. -/
def typeof : Bind.Value δ → Text
  | .null => "null".toList
  | .int _ => "integer".toList
  | .double _ => "real".toList
  | .text _ => "text".toList
  | .blob _ => "blob".toList

/-- **A row**: the values of its expressions, tests of other calls included, and what SQLite takes
for true. -/
structure Row (E δ : Type*) where
  value : E → Bind.Value δ
  otherTest : Text → E → List Text → Bool → Bind.Value δ
  holds : Bind.Value δ → Bool
  holds_int : ∀ n, holds (.int n) = decide (n.1 ≠ 0)

namespace Row

variable (row : Row E δ)

/-- The truth values are 1 and 0. -/
def ofBool (b : Bool) : Bind.Value δ := if b then .int ⟨1, by decide⟩ else .int ⟨0, by decide⟩

def eval : Expr E → Bind.Value δ
  | .plain e => row.value e
  | .inList function x list negated =>
    if toLowercase function = "typeof".toList then
      ofBool (decide (typeof (row.value x) ∈ list) != negated)
    else row.otherTest function x list negated

/-- **`iif`**: the branch of the first test that holds. -/
def iif : List (Option (Expr E)) → Bind.Value δ
  | some test :: some branch :: rest =>
    if row.holds (row.eval test) then row.eval branch else iif rest
  | [some otherwise] => row.eval otherwise
  | _ => .null

/-- The test holds, or what stands behind the branch has its value as well. -/
def Agrees : List (Option (Expr E)) → Prop
  | some (.inList _ x list negated) :: some branch :: rest =>
    (typeof (row.value x) ∈ list ↔ negated = false) ∨ row.iif rest = row.eval branch
  | _ => False

@[simp]
theorem holds_ofBool (b : Bool) : row.holds (ofBool b) = b := by
  cases b <;> simp [ofBool, row.holds_int]

end Row

/-- **A call that is simplified** keeps its value exactly if the test holds or the branches have
one value. -/
theorem simplified_alike_iff (row : Row E δ) (args : List (Option (Expr E))) (e : Expr E)
    (simplified : trySimplifyTypeof args = some e) :
    row.eval e = row.iif args ↔ row.Agrees args := by
  unfold trySimplifyTypeof at simplified
  split at simplified
  next function x list negated branch rest =>
    obtain ⟨isTypeof, ⟨⟩⟩ := Option.ite_none_right_eq_some.mp simplified
    have test : row.holds (row.eval (.inList function x list negated)) = true ↔
        (typeof (row.value x) ∈ list ↔ negated = false) := by
      simp only [Row.eval, if_pos isTypeof, Row.holds_ofBool]
      cases negated <;> simp
    rw [Row.iif, Row.Agrees, ← test]
    split
    next holds => simp [holds]
    next fails => simp [fails, eq_comm]
  · cases simplified

/-- The value of the column decides. -/
def oneColumn (v : Bind.Value ℕ) : Row Bool ℕ where
  value e := if e then v else .null
  otherTest _ _ _ _ := .null
  holds v := match v with
    | .int n => decide (n.1 ≠ 0)
    | _ => false
  holds_int _ := rfl

/-- `iif(typeof(x) IN ('integer'), x, NULL)`. -/
def integersOnly : List (Option (Expr Bool)) :=
  [some (.inList "typeof".toList true ["integer".toList] false), some (.plain true),
    some (.plain false)]

theorem integersOnly_integer :
    (oneColumn (.int ⟨3, by decide⟩)).eval (.plain true) =
      (oneColumn (.int ⟨3, by decide⟩)).iif integersOnly :=
  (simplified_alike_iff (oneColumn (.int ⟨3, by decide⟩)) integersOnly (.plain true)
    (by decide)).mpr (.inl (by decide))

/-- **A text is kept** where the call has no value. -/
theorem integersOnly_text :
    trySimplifyTypeof integersOnly = some (.plain true) ∧
      (oneColumn (.text [])).eval (.plain true) = .text [] ∧
      (oneColumn (.text [])).iif integersOnly = .null :=
  ⟨rfl, rfl, by decide⟩

/-! ### `substr` -/

/-- The start of a call: a number, one under a sign, or any other expression, by its value. -/
inductive Start where
  | number (n : ℕ)
  | minus (e : Start)
  | plus (e : Start)
  | other (value : ℤ)

def Start.value : Start → ℤ
  | .number n => n
  | .minus e => -e.value
  | .plus e => e.value
  | .other v => v

/-- **`numeric_literal`**: is it negative, and the digits. -/
def numericLiteral : Start → Option (Bool × ℕ)
  | .number n => some (false, n)
  | .minus e => (numericLiteral e).map fun (negative, n) => (!negative, n)
  | .plus e => numericLiteral e
  | .other _ => none

/-- **A call of `substr`**; with its name in quotes it is parsed as any function. -/
structure Call where
  quoted : Bool
  start : Start
  length : Option ℤ

/-- What takes its place: `RIGHT(x, n)`, in a `LEFT(…, length)` if there is one, or `SUBSTRING`. -/
inductive Rewritten where
  | fromEnd (n : ℕ) (length : Option ℤ)
  | substring (start : ℤ) (length : Option ℤ)

/-- **`rewrite_substring`**, or for a quoted name the arm of `rewrite_function`. -/
def Call.rewrite (c : Call) : Rewritten :=
  match c.quoted, numericLiteral c.start with
  | false, some (true, n) => .fromEnd n c.length
  | _, _ => .substring c.start.value c.length

/-- The characters from one position up to another, counted from 0. -/
def slice (s : Text) (window : ℤ × ℤ) : Text := (s.take window.2.toNat).drop window.1.toNat

/-- The last of `k` characters. -/
def right (k n : ℕ) : ℤ × ℤ := (max 0 (k - n), k)

/-- The first of some characters, or all but the last ones. -/
def left (window : ℤ × ℤ) (m : ℤ) : ℤ × ℤ :=
  (window.1, if m < 0 then window.2 + m else min window.2 (window.1 + m))

/-- Where PostgreSQL cuts a string of length `k`. -/
def Rewritten.window (k : ℕ) : Rewritten → ℤ × ℤ
  | .fromEnd n length => length.elim (right k n) (left (right k n))
  | .substring start length => (start - 1, length.elim k (start - 1 + ·))

/-- PostgreSQL's `integer`. -/
def Fits (v : ℤ) : Prop := -2 ^ 31 ≤ v ∧ v < 2 ^ 31

instance (v : ℤ) : Decidable (Fits v) := inferInstanceAs (Decidable (_ ∧ _))

/-- The arguments are integers, and the length of a `SUBSTRING` is not negative. -/
def Rewritten.Accepted : Rewritten → Prop
  | .fromEnd n length => Fits n ∧ ∀ m ∈ length, Fits m
  | .substring start length => Fits start ∧ ∀ m ∈ length, Fits m ∧ 0 ≤ m

instance : DecidablePred Rewritten.Accepted
  | .fromEnd n length => inferInstanceAs (Decidable (Fits n ∧ ∀ m ∈ length, Fits m))
  | .substring start length =>
    inferInstanceAs (Decidable (Fits start ∧ ∀ m ∈ length, Fits m ∧ 0 ≤ m))

/-- **PostgreSQL**; `none` is an error. -/
def Rewritten.eval (s : Text) (r : Rewritten) : Option Text :=
  if r.Accepted then some (slice s (r.window s.length)) else none

/-- Where SQLite cuts a string of length `k`. -/
def Call.window (c : Call) (k : ℕ) : ℤ × ℤ :=
  let start := c.start.value
  let first := if start < 0 then k + start else start - 1
  c.length.elim (first, (k : ℤ)) fun n => if n < 0 then (first + n, first) else (first, first + n)

/-- **SQLite.** -/
def Call.sqlite (c : Call) (s : Text) : Text := slice s (c.window s.length)

/-- **What cuts a string of length `k`** as the call does. -/
def Rewritten.Alike (k : ℕ) : Rewritten → Prop
  | .fromEnd n none => n ≠ 0 ∨ k = 0
  | .fromEnd n (some m) => m = 0 ∨ k = 0 ∨ (n = 0 ∧ m ≤ 1) ∨
      (0 ≤ m ∧ n ≠ 0 ∧ (n ≤ k ∨ n ≤ m)) ∨ (m < 0 ∧ k ≤ n ∧ k ≤ -m)
  | .substring start none => 0 ≤ start ∨ k ≤ -start
  | .substring start (some m) => 0 ≤ start ∨ m = 0 ∨ k = 0 ∨ k + m ≤ -start ∨
      (k ≤ -start ∧ k < start + m)

theorem value_of_numericLiteral {a : Start} {negative : Bool} {n : ℕ}
    (h : numericLiteral a = some (negative, n)) : a.value = if negative then -(n : ℤ) else n := by
  induction a generalizing negative n with
  | number m => simp_all [numericLiteral, Start.value]
  | minus e ih =>
    obtain ⟨⟨sign, m⟩, inner, rest⟩ := Option.map_eq_some_iff.mp h
    cases rest
    rw [Start.value, ih inner]
    cases sign <;> simp
  | plus e ih => exact ih h
  | other u => cases h

/-- Two slices are the same in every string of a length exactly if they are the same positions or
none. -/
theorem slices_alike_iff (k : ℕ) (v w : ℤ × ℤ) :
    (∀ s : Text, s.length = k → slice s v = slice s w) ↔
      (min v.2.toNat k ≤ v.1.toNat ∧ min w.2.toNat k ≤ w.1.toNat) ∨
        (v.1.toNat = w.1.toNat ∧ min v.2.toNat k = min w.2.toNat k) := by
  constructor
  · intro alike
    -- A string whose first character of the slice is none of the others.
    have told := alike ((List.range k).map fun i => if i = v.1.toNat then 'a' else 'b') (by simp)
    have long := congrArg List.length told
    have first := congrArg (·[0]?) told
    simp only [slice, List.length_drop, List.length_take, List.length_map,
      List.length_range] at long
    by_contra differ
    obtain ⟨inV, inW, other⟩ : v.1.toNat < min v.2.toNat k ∧ w.1.toNat < min w.2.toNat k ∧
        v.1.toNat ≠ w.1.toNat := by omega
    rw [Nat.lt_min] at inV inW
    simp [slice, inV, inW, other.symm] at first
  · rintro (⟨none, none'⟩ | ⟨start, stop⟩) s length
    · rw [slice, slice, List.drop_eq_nil_of_le (by simpa [length] using none),
        List.drop_eq_nil_of_le (by simpa [length] using none')]
    · have cut : s.take v.2.toNat = s.take w.2.toNat :=
        List.take_eq_take_iff.mpr (by rw [length, stop])
      rw [slice, slice, start, cut]

/-- The windows are the same, or nothing is in them, where the condition says so. -/
theorem Call.windows_alike (c : Call) (k : ℕ) (accepted : c.rewrite.Accepted) :
    (∀ s : Text, s.length = k → slice s (c.rewrite.window k) = slice s (c.window k)) ↔
      c.rewrite.Alike k := by
  rw [slices_alike_iff]
  unfold Call.rewrite at accepted ⊢
  unfold Call.window
  split at accepted
  next n quoted literal =>
    have start := value_of_numericLiteral literal
    cases c.length with
    | none =>
      simp only [start, Rewritten.window, right, Rewritten.Alike, Option.elim_none, if_true,
        Int.toNat_natCast, Nat.min_self, and_true]
      split <;> omega
    | some m =>
      simp only [start, Rewritten.window, right, left, Rewritten.Alike, Option.elim_some, if_true]
      split <;> split <;> dsimp only <;> omega
  · cases length : c.length with
    | none =>
      simp only [Rewritten.window, Rewritten.Alike, Option.elim_none, Int.toNat_natCast,
        Nat.min_self, and_true]
      split <;> omega
    | some m =>
      have natural : ¬ m < 0 := not_lt.mpr (accepted.2 m length).2
      simp only [Rewritten.window, Rewritten.Alike, Option.elim_some, if_neg natural]
      split <;> omega

/-- **The answers are the same for every string of a length** exactly if the call is accepted and
cuts the same there. -/
theorem rewrite_alike_iff (c : Call) (k : ℕ) :
    (∀ s : Text, s.length = k → c.rewrite.eval s = some (c.sqlite s)) ↔
      c.rewrite.Accepted ∧ c.rewrite.Alike k := by
  by_cases accepted : c.rewrite.Accepted
  · rw [← c.windows_alike k accepted]
    simp only [accepted, true_and]
    refine forall_congr' fun s => forall_congr' fun length => ?_
    rw [Rewritten.eval, if_pos accepted, Option.some.injEq, Call.sqlite, length]
  · have aString : ∃ s : Text, s.length = k := ⟨List.replicate k 'a', by simp⟩
    simp [Rewritten.eval, accepted, aString]

/-- **`substr('abc', -5, 3)`** is `a`, and `abc` once it is rewritten. -/
theorem beforeTheString :
    let c : Call := ⟨false, .minus (.number 5), some 3⟩
    c.sqlite "abc".toList = "a".toList ∧ c.rewrite.eval "abc".toList = some "abc".toList := by
  decide

end PlexPostgres.Translate.Functions
