import Mathlib.Data.List.Chain
import Mathlib.Data.List.Nodup
import PlexPostgres.Library.Text

/-!
# Moving joins ahead of the joins that name them

SQLite looks the names in an ON clause up in the whole FROM clause, PostgreSQL in the joins
before it.  The last pass over a text therefore moves an inner join ahead of the first join
whose ON clause names its alias.  It goes through the fragments from the left, and at each
place moves up what the fragment there needs, until that needs nothing more.  An outer join
is never moved, and the loop has a budget of steps; in either case the statement is left as
it came.

## The fragments that wait

At any moment the fragments still to be passed are a *chain* and an untouched rest: the first
of the chain was moved up because the second needs it, the second because the third does, and
the last is the fragment the loop came to.  A fragment is moved out of the untouched rest, or
else it is one of the chain and the references go round in a circle.  So without a circle no
fragment is moved twice, and twice as many steps as fragments are enough.
-/

namespace PlexPostgres.Preprocess

/-- **A join of the FROM clause**: its keywords, what follows them, the alias it defines, whether
it is an inner join, and the qualifiers its ON clause names. -/
structure Frag where
  keyword : Text
  body : Text
  aliasName : Text
  inner : Bool
  refs : List Text
  deriving DecidableEq, Repr

/-! ### The loop -/

/-- The first reference of a fragment that nothing before it defines and something behind it
does. -/
def neededRef (base : Text) (before : List Frag) (f : Frag) (later : List Frag) : Option Text :=
  f.refs.find? fun r =>
    !(r = base || before.any (·.aliasName = r)) && later.any (·.aliasName = r)

/-- **The loop of `hoist_forward_referenced_joins`**: `before` has been passed, and `none` is
giving up.  The first argument counts the steps that are left. -/
def hoistLoop (base : Text) : ℕ → Bool → List Frag → List Frag → Option (Bool × List Frag)
  | _, changed, before, [] => some (changed, before)
  | 0, _, _, _ :: _ => none
  | steps + 1, changed, before, f :: later =>
    match neededRef base before f later with
    | none => hoistLoop base steps changed (before ++ [f]) later
    | some r =>
      match later.find? (·.aliasName = r) with
      | none => none
      | some g =>
        if g.inner then
          hoistLoop base steps true before (g :: f :: later.eraseP (·.aliasName = r))
        else none

/-- **The fragments in their new order**, and whether it is one; `none` to leave the statement
as it came. -/
def hoist (base : Text) (frags : List Frag) : Option (Bool × List Frag) :=
  hoistLoop base (frags.length * frags.length + 1) false [] frags

/-! ### What the order should be -/

section Spec

variable (base : Text)

/-- **One fragment names another**, which is not the base. -/
def Needs (f g : Frag) : Prop :=
  g.aliasName ∈ f.refs ∧ g.aliasName ≠ f.aliasName ∧ g.aliasName ≠ base

/-- **Every reference to the base or to another fragment is to something earlier**; the base
stands before all of them. -/
def RefersBack (frags : List Frag) : Prop :=
  ∀ front f back, frags = front ++ f :: back → ∀ r ∈ f.refs,
    (∃ g ∈ frags, g.aliasName ≠ f.aliasName ∧ g.aliasName = r) →
      r = base ∨ ∃ g ∈ front, g.aliasName = r

/-- A fragment of the list names another of it. -/
def NeedsIn (frags : List Frag) (f g : Frag) : Prop := f ∈ frags ∧ g ∈ frags ∧ Needs base f g

/-- **The references go round in a circle.** -/
def Cyclic (frags : List Frag) : Prop :=
  ∃ f, Relation.TransGen (NeedsIn base frags) f f

/-- **An outer join is needed by a fragment before it**, itself or by what that one needs. -/
def NeedsOuter (frags : List Frag) : Prop :=
  ∃ f g, List.Sublist [f, g] frags ∧ g.inner = false ∧
    Relation.TransGen (NeedsIn base frags) f g

end Spec

variable {base : Text}

/-! ### One step -/

theorem neededRef_some {before later : List Frag} {f : Frag} {r : Text}
    (needed : neededRef base before f later = some r) :
    r ∈ f.refs ∧ r ≠ base ∧ (∀ g ∈ before, g.aliasName ≠ r) ∧ ∃ g ∈ later, g.aliasName = r := by
  have mem := List.mem_of_find?_eq_some needed
  have found := List.find?_some needed
  simp only [Bool.and_eq_true, Bool.not_eq_true', Bool.or_eq_false_iff, decide_eq_false_iff_not,
    List.any_eq_false, List.any_eq_true, decide_eq_true_eq] at found
  exact ⟨mem, found.1.1, found.1.2, found.2⟩

theorem neededRef_none {before later : List Frag} {f : Frag}
    (needed : neededRef base before f later = none) :
    ∀ r ∈ f.refs, (r = base ∨ ∃ g ∈ before, g.aliasName = r) ∨ ∀ g ∈ later, g.aliasName ≠ r := by
  intro r mem
  have unmet := List.find?_eq_none.mp needed r mem
  simp only [Bool.and_eq_true, Bool.not_eq_true', Bool.or_eq_false_iff, decide_eq_false_iff_not,
    List.any_eq_false, List.any_eq_true, decide_eq_true_eq, not_and, not_exists] at unmet
  by_cases known : r = base ∨ ∃ g ∈ before, g.aliasName = r
  · exact .inl known
  · rw [not_or] at known
    exact .inr (unmet ⟨known.1, fun g mem same => known.2 ⟨g, mem, same⟩⟩)

/-- **What a step of the loop does**: it passes a fragment that needs nothing, moves up one it
needs, or gives up for an outer join. -/
theorem hoistLoop_step (steps : ℕ) (changed : Bool) (before : List Frag) (f : Frag)
    (later : List Frag) :
    (neededRef base before f later = none ∧
      hoistLoop base (steps + 1) changed before (f :: later) =
        hoistLoop base steps changed (before ++ [f]) later) ∨
    ∃ g front back, later = front ++ g :: back ∧ g.aliasName ∈ f.refs ∧ g.aliasName ≠ base ∧
      if g.inner then
        hoistLoop base (steps + 1) changed before (f :: later) =
          hoistLoop base steps true before (g :: f :: (front ++ back))
      else hoistLoop base (steps + 1) changed before (f :: later) = none := by
  rw [hoistLoop]
  cases needed : neededRef base before f later with
  | none => exact .inl ⟨rfl, rfl⟩
  | some r =>
    obtain ⟨mem, notBase, -, g, inLater, rfl⟩ := neededRef_some needed
    cases found : later.find? (·.aliasName = g.aliasName) with
    | none => simpa using List.find?_eq_none.mp found g inLater
    | some h =>
      obtain ⟨same, front, back, rfl, others⟩ := List.find?_eq_some_iff_append.mp found
      have same' : h.aliasName = g.aliasName := by simpa using same
      have erased : (front ++ h :: back).eraseP (·.aliasName = g.aliasName) = front ++ back := by
        rw [List.eraseP_append_right _ (by simpa using others), List.eraseP_cons]
        simp [same']
      refine .inr ⟨h, front, back, rfl, same' ▸ mem, same' ▸ notBase, ?_⟩
      simp only [found, erased]
      cases h.inner with
      | true | false => rfl

/-- **Invariant rule**: what passing a fragment and moving one up preserve holds when the loop
has finished. -/
theorem hoistLoop_invariant (Inv : Bool → List Frag → List Frag → Prop)
    (pass : ∀ changed before f later, neededRef base before f later = none →
      Inv changed before (f :: later) → Inv changed (before ++ [f]) later)
    (move : ∀ changed before f front g back, g.inner = true →
      Inv changed before (f :: (front ++ g :: back)) → Inv true before (g :: f :: (front ++ back)))
    {steps : ℕ} {changed changed' : Bool} {before rest new : List Frag}
    (start : Inv changed before rest)
    (finished : hoistLoop base steps changed before rest = some (changed', new)) :
    Inv changed' new [] := by
  induction steps generalizing changed before rest with
  | zero =>
    cases rest with
    | nil =>
      rw [hoistLoop] at finished
      cases finished
      exact start
    | cons f later => cases finished
  | succ steps ih =>
    cases rest with
    | nil =>
      rw [hoistLoop] at finished
      cases finished
      exact start
    | cons f later =>
      rcases hoistLoop_step steps changed before f later with
        ⟨needed, step⟩ | ⟨g, front, back, rfl, -, -, step⟩
      · rw [step] at finished
        exact ih (pass _ _ _ _ needed start) finished
      · split at step
        · rename_i inner
          rw [step] at finished
          exact ih (move _ _ _ _ _ _ inner start) finished
        · rw [step] at finished
          cases finished

/-! ### What a finished loop leaves -/

section Finished

variable {frags new before rest : List Frag} {steps : ℕ} {changed changed' : Bool}

/-- A fragment moved up is still the same fragment. -/
theorem perm_move (f g : Frag) (before front back : List Frag) :
    List.Perm (before ++ g :: f :: (front ++ back)) (before ++ f :: (front ++ g :: back)) := by
  have behind : List.Perm (g :: (front ++ back)) (front ++ g :: back) := List.perm_middle.symm
  exact List.Perm.append_left before ((List.Perm.swap f g _).trans (behind.cons f))

theorem hoistLoop_perm (start : (before ++ rest).Perm frags)
    (finished : hoistLoop base steps changed before rest = some (changed', new)) :
    new.Perm frags := by
  have inv := hoistLoop_invariant (fun _ before rest => (before ++ rest).Perm frags)
    ?_ ?_ start finished
  · simpa using inv
  · intro _ before f later _ inv
    simpa using inv
  · intro _ before f front g back _ inv
    exact (perm_move f g before front back).trans inv

/-- **Outer joins keep their order.** -/
theorem hoistLoop_outer
    (finished : hoistLoop base steps changed before rest = some (changed', new)) :
    new.filter (!·.inner) = (before ++ rest).filter (!·.inner) := by
  have inv := hoistLoop_invariant
    (fun _ before' rest' => (before' ++ rest').filter (!·.inner) =
      (before ++ rest).filter (!·.inner)) ?_ ?_ rfl finished
  · simpa using inv
  · intro _ before f later _ inv
    simpa using inv
  · intro _ before f front g back inner inv
    rw [← inv]
    simp [List.filter_cons, inner]

/-- **A loop that moved nothing** leaves the list as it was. -/
theorem hoistLoop_unchanged
    (finished : hoistLoop base steps false before rest = some (false, new)) :
    new = before ++ rest := by
  have inv := hoistLoop_invariant
    (fun changed before' rest' => changed = false → before' ++ rest' = before ++ rest) ?_ ?_
    (fun _ => rfl) finished
  · simpa using inv rfl
  · intro _ before f later _ inv unchanged
    simpa using inv unchanged
  · intro _ _ _ _ _ _ _ _ impossible
    cases impossible

/-- **No fragment needs a later one** when the loop has finished. -/
theorem hoistLoop_ordered (distinct : (rest.map Frag.aliasName).Nodup)
    (finished : hoistLoop base steps changed [] rest = some (changed', new)) :
    new.Pairwise fun f g => ¬ Needs base f g := by
  have inv := hoistLoop_invariant
    (fun _ before rest => ((before ++ rest).map Frag.aliasName).Nodup ∧
      before.Pairwise (fun f g => ¬ Needs base f g) ∧
      ∀ f ∈ before, ∀ g ∈ rest, ¬ Needs base f g) ?_ ?_
    (by simpa using distinct) finished
  · exact inv.2.1
  · rintro _ before f later needed ⟨distinct, passed, ahead⟩
    have first : ∀ g ∈ later, ¬ Needs base f g := by
      rintro g inLater ⟨refers, -, notBase⟩
      rcases neededRef_none needed _ refers with (isBase | ⟨h, inBefore, same⟩) | undefined
      · exact notBase isBase
      · rw [List.map_append, List.nodup_append] at distinct
        exact distinct.2.2 _ (List.mem_map_of_mem inBefore) _
          (List.mem_map_of_mem (List.mem_cons_of_mem f inLater)) same
      · exact undefined g inLater rfl
    refine ⟨by simpa using distinct, ?_, ?_⟩
    · rw [List.pairwise_append]
      exact ⟨passed, List.pairwise_singleton _ f, fun h mem g isF => by
        rw [List.mem_singleton.mp isF]
        exact ahead h mem f List.mem_cons_self⟩
    · intro h mem g inLater
      rcases List.mem_append.mp mem with mem | mem
      · exact ahead h mem g (List.mem_cons_of_mem f inLater)
      · rw [List.mem_singleton.mp mem]
        exact first g inLater
  · rintro _ before f front g back - ⟨distinct, passed, ahead⟩
    have moved := perm_move f g before front back
    refine ⟨((moved.map _).nodup_iff).mpr distinct, passed, fun h mem k inRest => ?_⟩
    refine ahead h mem k ?_
    have behind := perm_move f g [] front back
    exact behind.subset inRest

/-- With distinct aliases, a list in which no fragment needs a later one refers back. -/
theorem refersBack_of_pairwise (ordered : new.Pairwise fun f g => ¬ Needs base f g) :
    RefersBack base new := by
  rintro front f back rfl r refers ⟨g, mem, other, rfl⟩
  by_contra unmet
  rw [not_or] at unmet
  rw [List.pairwise_append, List.pairwise_cons] at ordered
  rcases List.mem_append.mp mem with inFront | mem
  · exact unmet.2 ⟨g, inFront, rfl⟩
  · rcases List.mem_cons.mp mem with rfl | inBack
    · exact other rfl
    · exact ordered.2.1.1 g inBack ⟨refers, other, unmet.1⟩

end Finished

/-! ### Giving up -/

section GivingUp

variable {frags : List Frag}

/-- Along a chain, each of the others leads to the first. -/
theorem transGen_of_chain {α : Type*} {R : α → α → Prop} {a : α} {l : List α}
    (chain : List.IsChain (fun x y => R y x) (a :: l)) {b : α} (mem : b ∈ l) :
    Relation.TransGen R b a := by
  induction l generalizing a with
  | nil => cases mem
  | cons c l ih =>
    rw [List.isChain_cons_cons] at chain
    rcases List.mem_cons.mp mem with rfl | later
    · exact .single chain.1
    · exact (ih chain.2 later).tail chain.1

/-- **A loop with steps enough gives up only for a circle or an outer join.**  The fragments to
be passed are a chain, each needing the one before it, from the fragment `bottom` the loop came
to, and those not touched yet. -/
theorem hoistLoop_none {steps : ℕ} {changed : Bool} {before chain untouched : List Frag}
    {bottom : Frag} (distinct : (frags.map Frag.aliasName).Nodup)
    (members : (before ++ (chain ++ bottom :: untouched)).Perm frags)
    (waiting : List.IsChain (fun f g => NeedsIn base frags g f) (chain ++ [bottom]))
    (order : List.Sublist (bottom :: untouched) frags)
    (enough : 2 * untouched.length + chain.length < steps)
    (givesUp : hoistLoop base steps changed before (chain ++ bottom :: untouched) = none) :
    Cyclic base frags ∨ NeedsOuter base frags := by
  induction steps generalizing changed before chain untouched bottom with
  | zero => cases enough
  | succ steps ih =>
    obtain ⟨f, ahead, split⟩ : ∃ f ahead, chain ++ [bottom] = f :: ahead := by
      cases chain with
      | nil => exact ⟨bottom, [], rfl⟩
      | cons f chain => exact ⟨f, chain ++ [bottom], rfl⟩
    have list : ∀ rest, chain ++ bottom :: rest = f :: (ahead ++ rest) := fun rest => by
      rw [← List.cons_append, ← split, List.append_assoc, List.singleton_append]
    rw [list] at members givesUp
    rw [split] at waiting
    rcases hoistLoop_step steps changed before f (ahead ++ untouched) with
      ⟨-, step⟩ | ⟨g, front, back, parts, refers, notBase, step⟩
    · -- The first of the chain is passed; behind the last one the loop comes to a new fragment.
      rw [step] at givesUp
      cases chain with
      | nil =>
        cases split
        cases untouched with
        | nil => cases steps <;> cases givesUp
        | cons next untouched =>
          have alone : List.IsChain (fun f g => NeedsIn base frags g f) ([] ++ [next]) :=
            .singleton _
          refine ih (by simpa using members) alone ((List.sublist_cons_self _ _).trans order) ?_
            givesUp
          simp only [List.length_cons, List.length_nil] at enough ⊢
          omega
      | cons c chain =>
        rw [List.cons_append] at split
        obtain ⟨rfl, rfl⟩ := List.cons.inj split
        rw [List.append_assoc, List.singleton_append] at givesUp
        refine ih (by simpa using members) waiting.tail order ?_ givesUp
        simp only [List.length_cons] at enough
        omega
    · have inFrags : ∀ h ∈ f :: (ahead ++ untouched), h ∈ frags := fun h mem =>
        members.subset (List.mem_append_right before mem)
      have named : g ∈ ahead ++ untouched := by simp [parts]
      have others : g.aliasName ≠ f.aliasName := by
        have all := (members.map Frag.aliasName).nodup_iff.mpr distinct
        rw [List.map_append, List.nodup_append] at all
        intro same
        refine (List.nodup_cons.mp all.2.1).1 ?_
        rw [← same]
        exact List.mem_map_of_mem named
      have needs : NeedsIn base frags f g :=
        ⟨inFrags f List.mem_cons_self, inFrags g (List.mem_cons_of_mem f named), refers, others,
          notBase⟩
      have place : g ∈ ahead ∨ ∃ skipped, front = ahead ++ skipped ∧
          untouched = skipped ++ g :: back := by
        rcases List.append_eq_append_iff.mp parts with ⟨skipped, rfl, rfl⟩ | ⟨more, rfl, both⟩
        · exact .inr ⟨skipped, rfl, rfl⟩
        · cases more with
          | nil => exact .inr ⟨[], by simp, by simpa using both.symm⟩
          | cons h more =>
            cases both
            exact .inl (by simp)
      rcases place with inChain | ⟨skipped, rfl, rfl⟩
      · exact .inl ⟨g, (transGen_of_chain waiting inChain).tail needs⟩
      · split at step
        · rw [step] at givesUp
          rw [List.append_assoc, ← list, ← List.cons_append] at givesUp
          refine ih ?_ ?_ ?_ ?_ givesUp
          · rw [List.cons_append, list, ← List.append_assoc]
            exact (perm_move f g before (ahead ++ skipped) back).trans
              (by simpa using members)
          · rw [List.cons_append, split]
            exact List.isChain_cons_cons.mpr ⟨needs, waiting⟩
          · exact ((List.Sublist.refl skipped).append (List.sublist_cons_self g back)).cons_cons _
              |>.trans order
          · simp only [List.length_append, List.length_cons] at enough ⊢
            omega
        · rename_i outer
          have pair : List.Sublist [bottom, g] frags :=
            (List.Sublist.cons_cons bottom (List.singleton_sublist.mpr (by simp))).trans order
          have last : bottom ∈ f :: ahead := by simp [← split]
          refine .inr ⟨bottom, g, pair, by simpa using outer, ?_⟩
          rcases List.mem_cons.mp last with rfl | inChain
          · exact .single needs
          · exact (transGen_of_chain waiting inChain).tail needs

end GivingUp

/-- Twice as many steps as fragments are within the budget. -/
theorem budget_enough (n : ℕ) : 2 * n < (n + 1) * (n + 1) + 1 := by
  have square : (n + 1) * (n + 1) = n * n + n + (n + 1) := by
    rw [Nat.succ_mul, Nat.mul_succ]
  omega

/-- **The hoisting loop.**  For every base and every list of fragments with distinct aliases, a
finished loop leaves the same fragments with the outer joins in their order and every reference
to something earlier, and says so if it changed the list; it gives up only if the references
go round in a circle or an outer join is needed by a fragment before it. -/
theorem hoist_spec (base : Text) (frags : List Frag)
    (distinct : (frags.map Frag.aliasName).Nodup) :
    match hoist base frags with
    | some (changed, new) =>
      new.Perm frags ∧ new.filter (!·.inner) = frags.filter (!·.inner) ∧
        RefersBack base new ∧ (changed = false → new = frags)
    | none => Cyclic base frags ∨ NeedsOuter base frags := by
  cases result : hoist base frags with
  | some finished =>
    obtain ⟨changed, new⟩ := finished
    have all : ([] ++ frags).Perm frags := .refl frags
    refine ⟨hoistLoop_perm all result, hoistLoop_outer result,
      refersBack_of_pairwise (hoistLoop_ordered distinct result), ?_⟩
    rintro rfl
    exact hoistLoop_unchanged result
  | none =>
    cases frags with
    | nil => cases result
    | cons bottom untouched =>
      have all : ([] ++ ([] ++ bottom :: untouched)).Perm (bottom :: untouched) := .refl _
      have alone : List.IsChain (fun f g => NeedsIn base (bottom :: untouched) g f)
          ([] ++ [bottom]) := .singleton _
      exact hoistLoop_none distinct all alone (.refl _) (budget_enough untouched.length) result

/-- A hub's query: the items are joined on `g` before `c` and `g` are joined. -/
def forwardJoins : List Frag :=
  [⟨"JOIN".toList, "items ON items.id = g.id".toList, "items".toList, true,
      ["items".toList, "g".toList]⟩,
    ⟨"LEFT JOIN".toList, "tags ON tags.id = items.id".toList, "tags".toList, false,
      ["tags".toList, "items".toList]⟩,
    ⟨"JOIN".toList, "m AS c ON c.parent = base.id".toList, "c".toList, true,
      ["c".toList, "base".toList]⟩,
    ⟨"JOIN".toList, "m AS g ON g.parent = c.id".toList, "g".toList, true,
      ["g".toList, "c".toList]⟩]

/-- The loop moves `c` and `g` ahead of the items, and nothing needs a later fragment. -/
theorem forwardJoins_hoisted :
    (forwardJoins.map Frag.aliasName).Nodup ∧
      (hoist "base".toList forwardJoins).map (·.2.map Frag.aliasName) =
        some ["c".toList, "g".toList, "items".toList, "tags".toList] ∧
      match hoist "base".toList forwardJoins with
      | some (changed, new) =>
        new.Perm forwardJoins ∧ new.filter (!·.inner) = forwardJoins.filter (!·.inner) ∧
          RefersBack "base".toList new ∧ (changed = false → new = forwardJoins)
      | none => Cyclic "base".toList forwardJoins ∨ NeedsOuter "base".toList forwardJoins :=
  ⟨by decide, by decide +kernel, hoist_spec "base".toList forwardJoins (by decide)⟩

/-! ### Hoisting twice -/

/-- Each fragment passed has all it refers to before it, or nowhere. -/
def Settled (base : Text) (before rest : List Frag) : Prop :=
  ∀ front f back, before = front ++ f :: back → ∀ r ∈ f.refs,
    (r = base ∨ ∃ g ∈ front, g.aliasName = r) ∨ ∀ g ∈ back ++ rest, g.aliasName ≠ r

theorem hoistLoop_settled {steps : ℕ} {changed changed' : Bool} {rest new : List Frag}
    (finished : hoistLoop base steps changed [] rest = some (changed', new)) :
    Settled base new [] := by
  refine hoistLoop_invariant (fun _ => Settled base) ?_ ?_ (fun front f back => by simp) finished
  · intro _ before f later needed settled front g back split
    rcases List.eq_nil_or_concat' back with rfl | ⟨back, last, rfl⟩
    · obtain ⟨rfl, same⟩ := List.append_inj' split rfl
      cases same
      exact neededRef_none needed
    · rw [← List.cons_append, ← List.append_assoc] at split
      obtain ⟨rfl, same⟩ := List.append_inj' split rfl
      cases same
      simpa using settled front g back rfl
  · intro _ before f front g back _ settled front' h back' split r mem
    have moved := perm_move f g back' front back
    exact (settled front' h back' split r mem).imp_right fun none k inRest =>
      none k (moved.subset inRest)

theorem hoistLoop_of_settled {steps : ℕ} {before rest : List Frag}
    (settled : Settled base (before ++ rest) []) (enough : rest.length ≤ steps) :
    hoistLoop base steps false before rest = some (false, before ++ rest) := by
  induction rest generalizing steps before with
  | nil => simp [hoistLoop]
  | cons f later ih =>
    obtain ⟨steps, rfl⟩ : ∃ n, steps = n + 1 := ⟨steps - 1, by simp at enough; omega⟩
    have needed : neededRef base before f later = none := by
      rw [Option.eq_none_iff_forall_ne_some]
      intro r needed
      obtain ⟨mem, notBase, earlier, g, inLater, named⟩ := neededRef_some needed
      rcases settled before f later rfl r mem with (isBase | ⟨h, inBefore, same⟩) | none
      · exact notBase isBase
      · exact earlier h inBefore same
      · exact none g (by simpa using inLater) named
    have rest := @ih steps (before ++ [f]) (by simpa using settled) (Nat.le_of_succ_le_succ enough)
    simpa [hoistLoop, needed] using rest

/-- **Hoisting what was hoisted changes nothing**, for any aliases. -/
theorem hoist_hoist (base : Text) (frags : List Frag) :
    ((hoist base frags).bind fun first => hoist base first.2) =
      (hoist base frags).map fun first => (false, first.2) := by
  cases finished : hoist base frags with
  | none => rfl
  | some first =>
    obtain ⟨changed, new⟩ := first
    exact hoistLoop_of_settled (hoistLoop_settled finished)
      ((Nat.le_mul_self _).trans (Nat.le_succ _))

end PlexPostgres.Preprocess
