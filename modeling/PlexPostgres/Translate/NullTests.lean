import PlexPostgres.Translate.OrderBy

/-!
# A test for NULL and its column

The query pass folds `x IS NULL, x` into `x` with its NULLs at one end, and takes a term for `x`
if it prints as the operand of the test does, case apart.  But `nullif(name, 'A')` and
`nullif(name, 'a')` are two expressions; and PostgreSQL reads a term that stands alone as a
position or an output name where it can, which it does not do inside a test.
-/

namespace PlexPostgres.Translate

open Listing

variable {F V : Type*} [LinearOrder V] {ρ : Reading F} {total : F → Bool}

variable (V) in
/-- **Folding the tests keeps the order** of any two rows, under the rules of PostgreSQL. -/
def Reading.MergedAlike (ρ : Reading F) (total : F → Bool) (terms : List OrderByExpr) : Prop :=
  ∀ r s : SortRow V total, ρ.order postgresRule (fixOrderByIsNull terms) r.1 s.1 =
    ρ.order postgresRule terms r.1 s.1

variable [DecidableEq F] {seen : Finset (Bool × F)}

/-- **Every two terms that the scan folds may be folded**: the folded term adds to the terms before
what the two add; or it adds nothing, and what the test adds comes first behind it anyway. -/
def Reading.foldsFit (ρ : Reading F) (total : F → Bool) :
    Finset (Bool × F) → List OrderByExpr → Bool
  | seen, t :: next :: rest =>
    match t.expr.nullTest with
    | some (col, nullsFirstWhenAsc) =>
      if exprsDisplayEq next.expr col then
        let folded := { next with nullsFirst := some (nullsFirstWhenAsc != t.descending) }
        decide (ρ.adds postgresRule total seen [t, next] = ρ.adds postgresRule total seen [folded] ∨
            ρ.adds postgresRule total seen [folded] = [] ∧
              ρ.adds postgresRule total seen [t, next] =
              (ρ.adds postgresRule total seen (fixOrderByIsNull rest)).take 1) &&
          ρ.foldsFit total (seen ∪ subjects (ρ.allCriteria postgresRule total [t, next])) rest
      else ρ.foldsFit total (seen ∪ subjects (ρ.allCriteria postgresRule total [t])) (next :: rest)
    | none =>
      ρ.foldsFit total (seen ∪ subjects (ρ.allCriteria postgresRule total [t])) (next :: rest)
  | _, _ => true

/-! ### Folding two terms -/

variable {t next : OrderByExpr}

omit [DecidableEq F] in
/-- A test looks at one thing at most. -/
theorem Reading.criteria_test (ρ : Reading F) (total : F → Bool) (rule : OrderByExpr → Bool)
    (test : t.expr.nullTest.isSome = true) :
    ρ.criteria rule t total = [] ∨ ∃ c, ρ.criteria rule t total = [c] := by
  obtain ⟨⟨col, negated⟩, isTest⟩ := Option.isSome_iff_exists.mp test
  have bare : t.expr.bare = t.expr := by
    cases h : t.expr <;> simp_all [SortExpr.nullTest, SortExpr.bare]
  simp only [Reading.criteria, bare, isTest]
  cases ρ.operand col.bare with
  | none => exact .inl rfl
  | some f =>
    simp only [Option.elim_some, nullCriterion]
    split
    · exact .inl rfl
    · exact .inr ⟨_, rfl⟩

omit [DecidableEq F] in
/-- A mark does not change what a term looks at. -/
theorem Reading.map_subject_criteria (ρ : Reading F) (total : F → Bool) (next : OrderByExpr)
    (mark : Option Bool) :
    (ρ.criteria postgresRule next total).map Criterion.subject =
      (ρ.criteria postgresRule { next with nullsFirst := mark } total).map Criterion.subject := by
  unfold Reading.criteria
  cases next.expr.bare.nullTest with
  | some test => rfl
  | none =>
    cases ρ.alone next.expr.bare with
    | none => rfl
    | some f =>
      simp only [Option.elim_some, nullCriterion]
      split <;> rfl

/-- **Two terms and the folded one** begin alike only if they add the same, or the folded one
adds nothing. -/
theorem Reading.adds_pair {mark : Option Bool} {more more' : List (Criterion F)}
    (test : t.expr.nullTest.isSome = true)
    (begun : ρ.adds postgresRule total seen [t, next] ++ more =
      ρ.adds postgresRule total seen [{ next with nullsFirst := mark }] ++ more') :
    ρ.adds postgresRule total seen [t, next] =
        ρ.adds postgresRule total seen [{ next with nullsFirst := mark }] ∨
      (∃ c, ρ.adds postgresRule total seen [t, next] = [c]) ∧
        ρ.adds postgresRule total seen [{ next with nullsFirst := mark }] = [] := by
  have same := ρ.map_subject_criteria total next mark
  simp only [Reading.adds, Reading.allCriteria, List.flatMap_cons, List.flatMap_nil,
    List.append_nil] at begun ⊢
  rcases ρ.criteria_test total postgresRule test with silent | ⟨c, tested⟩
  · rw [silent, List.nil_append] at begun ⊢
    exact .inl (List.append_inj_left begun (length_fresh same seen))
  · rw [tested] at begun ⊢
    exact (fresh_cons_begins same begun).imp_right (And.imp_left fun one => ⟨c, one⟩)

/-! ### Along the scan -/

/-- What one list of criteria or another decides, and more behind it, where the one begins as the
other does only if both decide the same or the other decides nothing. -/
theorem fresh_fold_iff {cs ds more more' : List (Criterion F)}
    (begun : fresh seen ds ++ fresh (seen ∪ subjects ds) more' =
      fresh seen cs ++ fresh (seen ∪ subjects cs) more →
        fresh seen cs = fresh seen ds ∨ (∃ c, fresh seen cs = [c]) ∧ fresh seen ds = []) :
    fresh seen ds ++ fresh (seen ∪ subjects ds) more' =
        fresh seen cs ++ fresh (seen ∪ subjects cs) more ↔
      (fresh seen cs = fresh seen ds ∨
          fresh seen ds = [] ∧ fresh seen cs = (fresh seen more').take 1) ∧
        fresh (seen ∪ subjects cs) more' = fresh (seen ∪ subjects cs) more := by
  rw [← union_subjects_fresh seen cs, ← union_subjects_fresh seen ds] at begun ⊢
  have one (c : Criterion F) : seen ∪ subjects [c] = insert c.subject seen := by
    rw [Finset.union_comm, Finset.insert_eq]
    rfl
  have zero : seen ∪ subjects ([] : List (Criterion F)) = seen := Finset.union_empty seen
  constructor
  · intro same
    rcases begun same with alike | ⟨⟨c, single⟩, nothing⟩
    · rw [alike, List.append_cancel_left_eq] at same
      exact ⟨.inl alike, alike ▸ same⟩
    · rw [single, nothing, zero, one, List.nil_append, List.singleton_append] at same
      rw [single, one]
      exact ⟨.inr ⟨nothing, by rw [same]; rfl⟩, fresh_insert same⟩
  · rintro ⟨alike | ⟨nothing, first⟩, later⟩
    · rw [← alike, later]
    · rw [nothing, zero, ← later, List.nil_append]
      cases ahead : fresh seen more' with
      | nil =>
        rw [ahead] at first
        rw [first, List.take_nil, zero, ahead, List.nil_append]
      | cons c ds =>
        rw [ahead] at first
        rw [first, List.take_succ_cons, List.take_zero, one, fresh_insert ahead]
        rfl

/-- **The same decides behind what has been looked at** exactly if the folds fit. -/
theorem Reading.adds_eq_iff (seen : Finset (Bool × F)) (terms : List OrderByExpr) :
    ρ.adds postgresRule total seen (fixOrderByIsNull terms) = ρ.adds postgresRule total seen terms ↔
      ρ.foldsFit total seen terms = true := by
  have later (seen : Finset (Bool × F)) (t : OrderByExpr) (terms terms' : List OrderByExpr) :
      ρ.adds postgresRule total seen (t :: terms) = ρ.adds postgresRule total seen (t :: terms') ↔
        ρ.adds postgresRule total (seen ∪ subjects (ρ.allCriteria postgresRule total [t])) terms =
          ρ.adds postgresRule total (seen ∪ subjects (ρ.allCriteria postgresRule total [t]))
            terms' := by
    rw [← List.singleton_append, ρ.adds_append, ← List.singleton_append (l := terms'),
      ρ.adds_append, List.append_cancel_left_eq]
  induction terms using fixOrderByIsNull.induct generalizing seen with
  | case1 t next rest col negated test same ih =>
    simp only [fixOrderByIsNull, Reading.foldsFit, test, same, reduceIte, Bool.and_eq_true,
      decide_eq_true_eq, ← ih]
    rw [← List.singleton_append, ρ.adds_append, ← List.singleton_append (l := next :: rest),
      ← List.singleton_append (l := rest), ← List.append_assoc, ρ.adds_append]
    exact fresh_fold_iff fun begun => Reading.adds_pair (by rw [test]; rfl) begun.symm
  | case2 t next rest col negated test differs ih =>
    simp only [fixOrderByIsNull, Reading.foldsFit, test, differs, later, ih,
      Bool.false_eq_true, reduceIte]
  | case3 t next rest noTest ih =>
    simp only [fixOrderByIsNull, Reading.foldsFit, noTest, later, ih]
  | case4 terms short => simp [fixOrderByIsNull, Reading.foldsFit]

/-- **The order is kept exactly if the folds fit.** -/
theorem mergedAlike_iff [Nontrivial V] (ρ : Reading F) (total : F → Bool)
    (terms : List OrderByExpr) : ρ.MergedAlike V total terms ↔ ρ.foldsFit total ∅ terms = true := by
  rw [← Reading.adds_eq_iff]
  refine Iff.trans ?_ (order_eq_iff (V := V) (ρ.allCriteria_grounded postgresRule _)
    (ρ.allCriteria_grounded postgresRule terms))
  constructor
  · intro alike r s left right
    rw [← ρ.order_eq postgresRule _ left right, ← ρ.order_eq postgresRule _ left right]
    exact alike ⟨r, left⟩ ⟨s, right⟩
  · intro alike r s
    rw [ρ.order_eq postgresRule _ r.2 s.2, ρ.order_eq postgresRule _ r.2 s.2]
    exact alike r.1 s.1 r.2 s.2

/-- `ORDER BY a IS NULL, b`. -/
def testBefore (a b : String) : List OrderByExpr :=
  [⟨.isNull (.other [.inl a.toList]), none, none⟩, ⟨.other [.inl b.toList], none, none⟩]

theorem testBefore_alike :
    byName.MergedAlike ℤ (fun _ => false) (testBefore "length(title)" "length(title)") :=
  (mergedAlike_iff byName _ _).mpr (by decide +kernel)

-- A fold that fits, the column behind it alone: `1 IS NULL IS NULL, 1 IS NULL, 1 DESC`.
example : byName.foldsFit (fun _ => false) ∅
    [⟨.isNull (.isNull (.number ['1'])), none, none⟩, ⟨.isNull (.number ['1']), none, none⟩,
      ⟨.number ['1'], some false, none⟩] = true := by
  decide +kernel

/-- The row of a name, by what the two expressions come to. -/
def nameRow (upper lower : Option ℤ) : SortRow ℤ fun _ : Field => false :=
  ⟨fun f => if f = .other [.inl "nullif(name, 'A')".toList] then upper else lower, nofun⟩

/-- **`ORDER BY nullif(name, 'A') IS NULL, nullif(name, 'a')`** lists the name `A` behind `b`; once
it is folded, `A` comes first. -/
theorem testBefore_turned :
    let terms := testBefore "nullif(name, 'A')" "nullif(name, 'a')"
    let r := nameRow none (some 0)
    let s := nameRow (some 1) (some 1)
    byName.order postgresRule terms r.1 s.1 = .gt ∧
      byName.order postgresRule (fixOrderByIsNull terms) r.1 s.1 = .lt := by
  decide +kernel

end PlexPostgres.Translate
