import Mathlib.Data.Finset.Lattice.Lemmas
import Mathlib.Logic.Nontrivial.Basic
import PlexPostgres.Library.Listing

/-!
# What decides an ordering

A term of an ordering looks at a field in two steps: whether it is NULL, and then at its value.
Each step is a criterion.  One whose subject an earlier criterion has looked at says nothing new;
the others, in their order, are what decides.

Rows have any values in their fields, apart from NULL in those that are `total`.
-/

namespace Listing

variable {F V : Type*}

/-- **A criterion**: whether a field is NULL, the NULLs at one of the two ends, or its value in one
of the two directions. -/
inductive Criterion (F : Type*) where
  | null (f : F) (first : Bool)
  | value (f : F) (descending : Bool)
  deriving DecidableEq, Repr

namespace Criterion

def field : Criterion F → F
  | null f _ | value f _ => f

/-- What a criterion looks at, whichever way round: a value, or whether it is NULL. -/
def subject : Criterion F → Bool × F
  | null f _ => (false, f)
  | value f _ => (true, f)

variable [LinearOrder V]

def compare : Criterion F → (F → Option V) → (F → Option V) → Ordering
  | null f first, r, s => compareTest first (r f).isNone (s f).isNone
  | value f descending, r, s => compareNullable descending true (r f) (s f)

variable {c d : Criterion F} {r s : F → Option V}

/-- Rows tie on a subject, whichever way round. -/
theorem compare_eq_congr (same : c.subject = d.subject) :
    c.compare r s = .eq ↔ d.compare r s = .eq := by
  cases c <;> cases d <;>
    simp_all [subject, compare, compareTest_eq_iff, compareNullable_eq_iff]

@[simp] theorem compare_self (c : Criterion F) (r : F → Option V) : c.compare r r = .eq := by
  cases c <;> simp [compare]

/-- What a criterion does not look at does not matter to it. -/
theorem compare_update_of_ne [DecidableEq F] {f : F} (other : c.field ≠ f) (x y : Option V) :
    c.compare (Function.update r f x) (Function.update s f y) = c.compare r s := by
  cases c <;> simp_all [compare, field, Function.update_of_ne]

/-- A field is NULL or not, and then has its value. -/
theorem null_then_value (f : F) (first descending : Bool) (r s : F → Option V) :
    ((null f first).compare r s).then ((value f descending).compare r s) =
      compareNullable descending first (r f) (s f) := by
  simp only [compare]
  cases r f <;> cases s f <;> cases first <;> rfl

end Criterion

/-- **The comparison by a list of criteria.** -/
def order [LinearOrder V] (cs : List (Criterion F)) : (F → Option V) → (F → Option V) → Ordering :=
  lex (cs.map Criterion.compare)

theorem order_append [LinearOrder V] (cs ds : List (Criterion F)) (r s : F → Option V) :
    order (cs ++ ds) r s = (order cs r s).then (order ds r s) := by
  rw [order, List.map_append, lex_append]
  rfl

@[simp] theorem order_singleton [LinearOrder V] (c : Criterion F) (r s : F → Option V) :
    order [c] r s = c.compare r s := by
  change (c.compare r s).then .eq = _
  cases c.compare r s <;> rfl

/-- What a list of criteria looks at. -/
def subjects [DecidableEq F] (cs : List (Criterion F)) : Finset (Bool × F) :=
  (cs.map Criterion.subject).toFinset

section

variable [DecidableEq F]

/-- **The criteria that decide**, those in `seen` having been looked at before. -/
def fresh : Finset (Bool × F) → List (Criterion F) → List (Criterion F)
  | _, [] => []
  | seen, c :: cs =>
    (if c.subject ∈ seen then [] else [c]) ++ fresh (insert c.subject seen) cs

variable {seen seen' : Finset (Bool × F)} {c d : Criterion F} {cs ds : List (Criterion F)}

theorem fresh_append (seen : Finset (Bool × F)) (cs ds : List (Criterion F)) :
    fresh seen (cs ++ ds) = fresh seen cs ++ fresh (seen ∪ subjects cs) ds := by
  induction cs generalizing seen with
  | nil => simp [fresh, subjects]
  | cons c cs ih =>
    have same : insert c.subject seen ∪ subjects cs = seen ∪ subjects (c :: cs) := by
      rw [Finset.insert_union_comm, subjects, subjects, List.map_cons, List.toFinset_cons]
    rw [List.cons_append, fresh, fresh, ih, same, List.append_assoc]

theorem union_subjects_fresh (seen : Finset (Bool × F)) (cs : List (Criterion F)) :
    seen ∪ subjects (fresh seen cs) = seen ∪ subjects cs := by
  induction cs generalizing seen with
  | nil => rfl
  | cons c cs ih =>
    have later := ih (insert c.subject seen)
    rw [Finset.insert_union_comm, Finset.insert_union_comm] at later
    have whole : subjects (c :: cs) = insert c.subject (subjects cs) := List.toFinset_cons
    rw [whole, ← later, fresh]
    split
    next old =>
      rw [List.nil_append, ← Finset.insert_union_comm, Finset.insert_eq_of_mem old]
    next => exact congrArg _ List.toFinset_cons

theorem fresh_eq_nil_iff : fresh seen cs = [] ↔ subjects cs ⊆ seen := by
  constructor
  · intro none
    have same := union_subjects_fresh seen cs
    rw [none, show subjects ([] : List (Criterion F)) = ∅ from rfl, Finset.union_empty] at same
    exact Finset.union_eq_left.mp same.symm
  · intro all
    induction cs with
    | nil => rfl
    | cons c cs ih =>
      rw [subjects, List.map_cons, List.toFinset_cons, Finset.insert_subset_iff] at all
      rw [fresh, if_pos all.1, Finset.insert_eq_of_mem all.1]
      exact ih all.2

/-- What decides once the first thing that decides has been looked at. -/
theorem fresh_insert (first : fresh seen cs = c :: ds) : fresh (insert c.subject seen) cs = ds := by
  induction cs generalizing seen with
  | nil => cases first
  | cons d cs ih =>
    rw [fresh] at first ⊢
    by_cases old : d.subject ∈ seen
    · rw [if_pos old, List.nil_append, Finset.insert_eq_of_mem old] at first
      rw [if_pos (Finset.mem_insert_of_mem old), List.nil_append, Finset.insert_comm,
        Finset.insert_eq_of_mem old]
      exact ih first
    · rw [if_neg old] at first
      obtain ⟨rfl, rest⟩ := List.cons.inj first
      rw [if_pos (Finset.mem_insert_self ..), Finset.insert_idem]
      exact rest

/-- Of lists that look at the same, the same part decides, be it the other way round. -/
theorem map_subject_fresh (same : cs.map Criterion.subject = ds.map Criterion.subject)
    (seen : Finset (Bool × F)) :
    (fresh seen cs).map Criterion.subject = (fresh seen ds).map Criterion.subject := by
  induction cs generalizing seen ds with
  | nil => rw [List.map_eq_nil_iff.mp same.symm]
  | cons c cs ih =>
    obtain ⟨d, ds, rfl, head, tail⟩ := List.map_eq_cons_iff.mp same.symm
    rw [fresh, fresh, head, List.map_append, List.map_append, ih tail.symm]
    split
    · rfl
    · rw [List.map_singleton, List.map_singleton, head]

theorem length_fresh (same : cs.map Criterion.subject = ds.map Criterion.subject)
    (seen : Finset (Bool × F)) : (fresh seen cs).length = (fresh seen ds).length := by
  rw [← List.length_map, map_subject_fresh same, List.length_map]

/-- **One criterion more in front**: if what decides begins alike with and without it, it is the
same, or nothing is left without it. -/
theorem fresh_cons_begins {more more' : List (Criterion F)}
    (same : cs.map Criterion.subject = ds.map Criterion.subject)
    (begun : fresh seen (c :: cs) ++ more = fresh seen ds ++ more') :
    fresh seen (c :: cs) = fresh seen ds ∨ fresh seen (c :: cs) = [c] ∧ fresh seen ds = [] := by
  rw [fresh] at begun ⊢
  by_cases old : c.subject ∈ seen
  · rw [if_pos old, Finset.insert_eq_of_mem old, List.nil_append] at begun ⊢
    exact .inl (List.append_inj_left begun (length_fresh same seen))
  rw [if_neg old] at begun ⊢
  cases first : fresh seen ds with
  | nil =>
    have looked := (fresh_eq_nil_iff.mp first).trans (Finset.subset_insert c.subject seen)
    have nothing := length_fresh same (insert c.subject seen)
    rw [fresh_eq_nil_iff.mpr looked, List.length_nil, List.length_eq_zero_iff] at nothing
    exact .inr ⟨by rw [nothing]; rfl, rfl⟩
  | cons d ds' =>
    rw [first] at begun
    obtain ⟨rfl, later⟩ := List.cons.inj begun
    have rest := length_fresh same (insert c.subject seen)
    rw [fresh_insert first] at rest
    exact .inl (congrArg _ (List.append_inj_left later rest))

variable [LinearOrder V] {r s : F → Option V}

/-- **Only what decides matters.** -/
theorem order_fresh (ties : ∀ c : Criterion F, c.subject ∈ seen → c.compare r s = .eq)
    (cs : List (Criterion F)) : order (fresh seen cs) r s = order cs r s := by
  induction cs generalizing seen with
  | nil => rfl
  | cons c cs ih =>
    have later (tie : c.compare r s = .eq) :
        order (fresh (insert c.subject seen) cs) r s = order cs r s := by
      refine ih fun d mem => ?_
      rcases Finset.mem_insert.mp mem with same | old
      · exact (Criterion.compare_eq_congr same).mpr tie
      · exact ties d old
    have whole : order (c :: cs) r s = (c.compare r s).then (order cs r s) := rfl
    rw [fresh, whole]
    split
    next old =>
      rw [List.nil_append, later (ties c old), ties c old]
      rfl
    next =>
      have first : order ([c] ++ fresh (insert c.subject seen) cs) r s =
          (c.compare r s).then (order (fresh (insert c.subject seen) cs) r s) := rfl
      rw [first]
      cases tie : c.compare r s with
      | lt | gt => rfl
      | eq => rw [later tie]

theorem order_fresh_empty (cs : List (Criterion F)) :
    order (fresh ∅ cs) r s = order cs r s :=
  order_fresh (fun _ mem => absurd mem (Finset.notMem_empty _)) cs

/-! ### Rows that tell two lists apart -/

variable (total : F → Bool)

/-- A row has no NULL where there can be none. -/
def Admits (r : F → Option V) : Prop := ∀ f, total f = true → r f ≠ none

/-- A criterion that stands where it may: a value behind the test for NULL, unless its field is
never NULL, and a test only where it may be. -/
def Criterion.Stands (seen : Finset (Bool × F)) : Criterion F → Prop
  | .null f _ => total f = false
  | .value f _ => total f = true ∨ (false, f) ∈ seen

/-- **Every criterion stands where it may.** -/
def Grounded : Finset (Bool × F) → List (Criterion F) → Prop
  | _, [] => True
  | seen, c :: cs => c.Stands total seen ∧ Grounded (insert c.subject seen) cs

/-- The same of criteria that all decide. -/
def Proper : Finset (Bool × F) → List (Criterion F) → Prop
  | _, [] => True
  | seen, c :: cs =>
    c.subject ∉ seen ∧ c.Stands total seen ∧ Proper (insert c.subject seen) cs

variable {total}

theorem Grounded.mono (ground : Grounded total seen cs) (more : seen ⊆ seen') :
    Grounded total seen' cs := by
  induction cs generalizing seen seen' with
  | nil => trivial
  | cons c cs ih =>
    refine ⟨?_, ih ground.2 (Finset.insert_subset_insert _ more)⟩
    cases c with
    | null f first => exact ground.1
    | value f descending => exact ground.1.imp_right (more ·)

theorem Grounded.append (ground : Grounded total seen cs) (later : Grounded total ∅ ds) :
    Grounded total seen (cs ++ ds) := by
  induction cs generalizing seen with
  | nil => exact later.mono (Finset.empty_subset _)
  | cons c cs ih => exact ⟨ground.1, ih ground.2⟩

theorem Grounded.fresh (ground : Grounded total seen cs) : Proper total seen (fresh seen cs) := by
  induction cs generalizing seen with
  | nil => trivial
  | cons c cs ih =>
    rw [Listing.fresh]
    split
    next old =>
      rw [Finset.insert_eq_of_mem old]
      exact ih (by simpa [Finset.insert_eq_of_mem old] using ground.2)
    next new => exact ⟨new, ground.1, ih ground.2⟩

/-- Where a value has been looked at, its field has been tested for NULL or never is. -/
def Closed (total : F → Bool) (seen : Finset (Bool × F)) : Prop :=
  ∀ f, (true, f) ∈ seen → total f = true ∨ (false, f) ∈ seen

theorem Closed.insert (closed : Closed total seen) (stands : c.Stands total seen) :
    Closed total (insert c.subject seen) := by
  intro f mem
  rcases Finset.mem_insert.mp mem with same | old
  · cases c with
    | null => cases same
    | value g =>
      obtain rfl : f = g := (Prod.mk.inj same).2
      exact Or.imp_right Finset.mem_insert_of_mem stands
  · exact (closed f old).imp_right Finset.mem_insert_of_mem

namespace Criterion

/-- The criterion the other way round. -/
def turn : Criterion F → Criterion F
  | null f first => null f !first
  | value f descending => value f !descending

omit [DecidableEq F]

@[simp] theorem field_turn (c : Criterion F) : c.turn.field = c.field := by cases c <;> rfl

@[simp] theorem subject_turn (c : Criterion F) : c.turn.subject = c.subject := by
  cases c <;> rfl

@[simp] theorem turn_turn (c : Criterion F) : c.turn.turn = c := by cases c <;> simp [turn]

@[simp] theorem stands_turn (c : Criterion F) :
    c.turn.Stands total seen ↔ c.Stands total seen := by
  cases c <;> rfl

theorem eq_turn (same : d.subject = c.subject) (ne : d ≠ c) : d = c.turn := by
  cases c <;> cases d <;> simp_all [subject, turn, Bool.eq_not_iff]

/-- What two rows have in its field if the first is greater; `v` is less than `w`. -/
def far (v w : V) : Criterion F → Option V × Option V
  | null _ first => if first then (some v, none) else (none, some v)
  | value _ descending => if descending then (some v, some w) else (some w, some v)

variable [DecidableEq F] {v w : V}

theorem compare_far (less : v < w) (c : Criterion F) (r s : F → Option V) :
    c.compare (Function.update r c.field (c.far v w).1)
      (Function.update s c.field (c.far v w).2) = .gt := by
  cases c with
  | null f first => cases first <;> simp [compare, field, far, compareTest] <;> decide
  | value f descending =>
    cases descending <;> simp [compare, field, far, compareNullable, compare_gt_iff_gt, less]

theorem compare_far_turn (less : v < w) (c : Criterion F) (r s : F → Option V) :
    c.compare (Function.update r c.field (c.turn.far v w).1)
      (Function.update s c.field (c.turn.far v w).2) = .lt := by
  cases c with
  | null f first => cases first <;> simp [compare, turn, field, far, compareTest] <;> decide
  | value f descending =>
    cases descending <;>
      simp [compare, turn, field, far, compareNullable, compare_lt_iff_lt, less]

end Criterion

omit [DecidableEq F] in
/-- Two subjects that both decide are of two fields. -/
theorem fields_ne (new : c.subject ∉ seen) (stands : c.Stands total seen)
    (new' : d.subject ∉ seen) (stands' : d.Stands total seen) (ne : c.subject ≠ d.subject) :
    c.field ≠ d.field := by
  intro same
  have apart {f : F} (may : total f = false) (unseen : (false, f) ∉ seen)
      (known : total f = true ∨ (false, f) ∈ seen) : False := by
    rcases known with never | before
    · exact Bool.false_ne_true (may.symm.trans never)
    · exact unseen before
  cases c with
  | null f first =>
    cases d with
    | null g => exact ne (congrArg (Prod.mk false) same)
    | value g =>
      obtain rfl : f = g := same
      exact apart stands new stands'
  | value f descending =>
    cases d with
    | value g => exact ne (congrArg (Prod.mk true) same)
    | null g =>
      obtain rfl : f = g := same
      exact apart stands' new' stands

/-- The rows tie on everything that has been looked at. -/
structure Tied (total : F → Bool) (seen : Finset (Bool × F)) (r s : F → Option V) : Prop where
  left : Admits total r
  right : Admits total s
  ties : ∀ c : Criterion F, c.subject ∈ seen → c.compare r s = .eq

omit [LinearOrder V] in
theorem Admits.update (admits : Admits total r) {f : F} {x : Option V}
    (there : total f = true → x ≠ none) : Admits total (Function.update r f x) := by
  intro g never
  by_cases same : g = f
  · subst same
    rw [Function.update_self]
    exact there never
  · rw [Function.update_of_ne same]
    exact admits g never

/-- **A criterion that decides tells rows apart** that tie on everything before it. -/
theorem Tied.update (tied : Tied total seen r s) (closed : Closed total seen)
    (new : c.subject ∉ seen) (stands : c.Stands total seen) (v w : V) :
    Tied total seen (Function.update r c.field (c.far v w).1)
      (Function.update s c.field (c.far v w).2) := by
  have there : total c.field = true → (c.far v w).1 ≠ none ∧ (c.far v w).2 ≠ none := by
    intro never
    cases c with
    | null f first => exact absurd (stands.symm.trans never) Bool.false_ne_true
    | value f descending => cases descending <;> simp [Criterion.far]
  refine ⟨tied.left.update fun never => (there never).1,
    tied.right.update fun never => (there never).2, fun d old => ?_⟩
  by_cases other : d.field = c.field
  · cases c with
    | null f first =>
      cases d with
      | null g =>
        obtain rfl : g = f := other
        exact absurd old new
      | value g =>
        obtain rfl : g = f := other
        rcases closed g old with never | before
        · exact absurd (stands.symm.trans never) Bool.false_ne_true
        · exact absurd before new
    | value f descending =>
      cases d with
      | value g =>
        obtain rfl : g = f := other
        exact absurd old new
      | null g =>
        obtain rfl : g = f := other
        cases descending <;> simp [Criterion.compare, Criterion.field, Criterion.far]
  · rw [Criterion.compare_update_of_ne other]
    exact tied.ties d old

omit [DecidableEq F] in
theorem order_cons_of_ne {o : Ordering} (decided : c.compare r s = o) (ne : o ≠ .eq)
    (cs : List (Criterion F)) : order (c :: cs) r s = o := by
  change (c.compare r s).then (order cs r s) = o
  rw [decided]
  cases o <;> simp_all [Ordering.then]

/-- **If what decides in one list does not come first in the other**, some rows must not stand by
the first as the second lets them. -/
theorem exists_gt_of_not_prefix [Nontrivial V] (closed : Closed total seen)
    (proper : Proper total seen cs) (proper' : Proper total seen ds) (apart : ¬ cs <+: ds) :
    ∃ r s : F → Option V, Tied total seen r s ∧ order cs r s = .gt ∧ order ds r s ≠ .gt := by
  obtain ⟨v, w, less⟩ := exists_pair_lt V
  have base (seen) : Tied total seen (fun _ : F => some v) fun _ => some v :=
    ⟨fun _ _ => nofun, fun _ _ => nofun, fun c _ => c.compare_self _⟩
  induction cs generalizing seen ds with
  | nil => exact absurd List.nil_prefix apart
  | cons c cs ih =>
    obtain ⟨new, stands, later⟩ := proper
    have tied := (base _).update closed new stands v w
    have greater := c.compare_far less (fun _ => some v) fun _ => some v
    cases ds with
    | nil => exact ⟨_, _, tied, order_cons_of_ne greater nofun cs, nofun⟩
    | cons d ds =>
      obtain ⟨new', stands', later'⟩ := proper'
      by_cases same : d = c
      · subst same
        obtain ⟨r, s, tied, gt, notGt⟩ := ih (closed.insert stands) later later'
          (fun lead => apart (List.prefix_cons_inj d |>.mpr lead))
        have tie := tied.ties d (Finset.mem_insert_self _ _)
        have first (es : List (Criterion F)) : order (d :: es) r s = order es r s := by
          change (d.compare r s).then (order es r s) = _
          rw [tie]
          rfl
        refine ⟨r, s, ⟨tied.left, tied.right, fun e old => ?_⟩, by rwa [first], by rwa [first]⟩
        exact tied.ties e (Finset.mem_insert_of_mem old)
      by_cases turned : d.subject = c.subject
      · have less' := d.compare_far_turn less (fun _ => some v) fun _ => some v
        rw [Criterion.eq_turn turned same, Criterion.turn_turn, Criterion.field_turn] at less'
        refine ⟨_, _, tied, order_cons_of_ne greater nofun cs, ?_⟩
        rw [Criterion.eq_turn turned same, order_cons_of_ne less' nofun ds]
        nofun
      -- Two subjects that both decide are of two fields, which may differ each in its own way.
      have fields : c.field ≠ d.field := fields_ne new stands new' stands' (Ne.symm turned)
      have both := tied.update closed (d.subject_turn ▸ new') (d.stands_turn.mpr stands') v w
      rw [d.field_turn] at both
      refine ⟨_, _, both, order_cons_of_ne ?_ (nofun : Ordering.gt ≠ .eq) cs, ?_⟩
      · rw [Criterion.compare_update_of_ne fields]
        exact greater
      · rw [order_cons_of_ne (d.compare_far_turn less _ _) nofun ds]
        nofun

variable [Nontrivial V]

/-- **One list of criteria lets rows stand as another does** exactly if what decides in the one
comes first in the other. -/
theorem refines_iff (ground : Grounded total ∅ cs) (ground' : Grounded total ∅ ds) :
    (∀ r s : F → Option V, Admits total r → Admits total s → order ds r s ≠ .gt →
      order cs r s ≠ .gt) ↔ fresh ∅ cs <+: fresh ∅ ds := by
  constructor
  · intro weaker
    by_contra apart
    obtain ⟨r, s, tied, gt, notGt⟩ := exists_gt_of_not_prefix (V := V)
      (fun f mem => absurd mem (Finset.notMem_empty _)) ground.fresh ground'.fresh apart
    rw [order_fresh_empty] at gt notGt
    exact weaker r s tied.left tied.right notGt gt
  · rintro ⟨more, whole⟩ r s - - notGt
    rw [← order_fresh_empty, ← whole, order_append] at notGt
    rw [← order_fresh_empty]
    intro gt
    rw [gt] at notGt
    exact notGt rfl

/-- **Two lists of criteria order rows alike** exactly if the same decides in both. -/
theorem order_eq_iff (ground : Grounded total ∅ cs) (ground' : Grounded total ∅ ds) :
    (∀ r s : F → Option V, Admits total r → Admits total s → order cs r s = order ds r s) ↔
      fresh ∅ cs = fresh ∅ ds := by
  constructor
  · intro alike
    have lead := (refines_iff (V := V) ground ground').mp
      fun r s left right notGt => alike r s left right ▸ notGt
    have lead' := (refines_iff (V := V) ground' ground).mp
      fun r s left right notGt => (alike r s left right).symm ▸ notGt
    exact lead.eq_of_length_le lead'.length_le
  · intro same r s _ _
    rw [← order_fresh_empty cs, same, order_fresh_empty]

end

end Listing
