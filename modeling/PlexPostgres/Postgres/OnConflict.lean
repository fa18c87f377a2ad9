import PlexPostgres.Library.UniqueKeys

/-!
# PostgreSQL's ON CONFLICT

What `INSERT … ON CONFLICT` does with the rows of a table.  Conflicts are looked for on the
arbiters, the unique keys the clause names; a row that conflicts on another key fails the
statement.  `DO UPDATE` writes the row it conflicts with, and fails where the statement has
written it already.

A row carries a flag that this statement wrote it.  `none` is the failure of the statement,
which then leaves the table as it was.
-/

namespace PlexPostgres.Postgres

open UniqueKeys

variable {C V : Type*} [DecidableEq V]

/-- **A row of the table**, and whether the statement wrote it. -/
abbrev Tuple (C V : Type*) := Row C V × Bool

/-- **A row is inserted**, if it conflicts on no key. -/
def insertRow (keys : List (List C)) (st : List (Tuple C V)) (n : Row C V) :
    Option (List (Tuple C V)) :=
  if st.any fun s => clash keys n s.1 then none else some (st ++ [(n, true)])

/-- **One row with `ON CONFLICT … DO NOTHING`.** -/
def doNothing (arbiters keys : List (List C)) (st : List (Tuple C V)) (n : Row C V) :
    Option (List (Tuple C V)) :=
  if st.any fun s => clash arbiters n s.1 then some st else insertRow keys st n

variable [DecidableEq C]

/-- **The row with the assigned columns** from the row that was to be inserted. -/
def update (assigned : List C) (n r : Row C V) : Row C V :=
  fun c => if c ∈ assigned then n c else r c

/-- **One row with `ON CONFLICT (target) DO UPDATE SET c = excluded.c, …`.** -/
def doUpdate (keys : List (List C)) (target assigned : List C) (st : List (Tuple C V))
    (n : Row C V) : Option (List (Tuple C V)) :=
  match st.find? fun s => agree target n s.1 with
  | none => insertRow keys st n
  | some (_, true) => none
  | some (r, false) =>
    let rest := st.eraseP fun s => agree target n s.1
    if rest.any fun s => clash keys (update assigned n r) s.1 then none
    else some ((update assigned n r, true) :: rest)

section

variable {keys : List (List C)} {target assigned : List C} {st st' : List (Tuple C V)}
  {n r : Row C V}

omit [DecidableEq C] in
theorem any_clash_iff : (st.any fun s => clash keys n s.1) = true ↔
    ¬ ∀ s ∈ st, clash keys n s.1 = false := by
  rw [List.any_eq_true]
  constructor
  · rintro ⟨s, mem, clashes⟩ free
    rw [free s mem] at clashes
    cases clashes
  · intro some
    by_contra none
    exact some fun s mem => Bool.eq_false_iff.mpr fun clashes => none ⟨s, mem, clashes⟩

omit [DecidableEq C] in
theorem insertRow_of_free (free : ∀ s ∈ st, clash keys n s.1 = false) :
    insertRow keys st n = some (st ++ [(n, true)]) := by
  rw [insertRow, if_neg fun some => any_clash_iff.mp some free]

omit [DecidableEq C] in
theorem insertRow_eq_some (done : insertRow keys st n = some st') :
    (∀ s ∈ st, clash keys n s.1 = false) ∧ st' = st ++ [(n, true)] := by
  unfold insertRow at done
  split at done
  · cases done
  next free =>
    exact ⟨Decidable.not_not.mp fun some => free (any_clash_iff.mpr some),
      (Option.some.inj done).symm⟩

/-- The first of the rows that are looked for is taken out. -/
theorem perm_of_find {α : Type*} {p : α → Bool} {l : List α} {a : α} (found : l.find? p = some a) :
    l.Perm (a :: l.eraseP p) := by
  obtain ⟨isOne, before, after, rfl, none⟩ := List.find?_eq_some_iff_append.mp found
  rw [List.eraseP_append_right _ fun b mem => by simpa using none b mem,
    List.eraseP_cons_of_pos isOne]
  exact List.perm_middle

/-- **What a row that does not fail does**: it is inserted, or one row that it conflicts
with on the target is written. -/
theorem doUpdate_cases (done : doUpdate keys target assigned st n = some st') :
    ((∀ s ∈ st, agree target n s.1 = false) ∧ (∀ s ∈ st, clash keys n s.1 = false) ∧
        st' = st ++ [(n, true)]) ∨
      ∃ r rest, st.Perm ((r, false) :: rest) ∧ agree target n r = true ∧
        st' = (update assigned n r, true) :: rest := by
  unfold doUpdate at done
  split at done
  next none =>
    obtain ⟨free, same⟩ := insertRow_eq_some done
    refine .inl ⟨fun s mem => ?_, free, same⟩
    simpa using List.find?_eq_none.mp none s mem
  · cases done
  next r found =>
    dsimp only at done
    split at done
    · cases done
    · have conflicts : agree target n (r, false).1 = true :=
        List.find?_some (p := fun s : Tuple C V => agree target n s.1) found
      exact .inr ⟨r, _, perm_of_find found, conflicts, (Option.some.inj done).symm⟩

/-- A row that conflicts with one the statement did not write. -/
theorem doUpdate_of_found (found : st.find? (fun s => agree target n s.1) = some (r, false))
    (free : ∀ s ∈ st.eraseP (fun s => agree target n s.1),
      clash keys (update assigned n r) s.1 = false) :
    doUpdate keys target assigned st n =
      some ((update assigned n r, true) :: st.eraseP fun s => agree target n s.1) := by
  simp only [doUpdate, found]
  rw [if_neg fun some => any_clash_iff.mp some free]

end

end PlexPostgres.Postgres
