import PlexPostgres.Library.UniqueKeys

/-!
# SQLite's conflict resolution

What `INSERT OR IGNORE` and `INSERT OR REPLACE` do with the rows of a table, one new row
after the other: a row that conflicts on any unique key is skipped, or every row it
conflicts with is deleted first.  Neither fails.
-/

namespace PlexPostgres.Sqlite

open UniqueKeys

variable {C V : Type*} [DecidableEq V]

/-- **One row of `INSERT OR IGNORE`.** -/
def orIgnore (keys : List (List C)) (rows : List (Row C V)) (n : Row C V) : List (Row C V) :=
  if rows.any (clash keys n) then rows else rows ++ [n]

/-- **One row of `INSERT OR REPLACE`.** -/
def orReplace (keys : List (List C)) (rows : List (Row C V)) (n : Row C V) : List (Row C V) :=
  rows.filter (!clash keys n ·) ++ [n]

section

variable {keys : List (List C)} {rows : List (Row C V)} {n r : Row C V}

theorem mem_orReplace : r ∈ orReplace keys rows n ↔
    (r ∈ rows ∧ clash keys n r = false) ∨ r = n := by
  simp [orReplace]

/-- The rows stay apart. -/
theorem distinct_orReplace (apart : Distinct keys rows) :
    Distinct keys (orReplace keys rows n) := by
  refine List.pairwise_append.mpr ⟨apart.filter _, List.pairwise_singleton _ _, ?_⟩
  intro r kept s last
  obtain rfl : s = n := by simpa using last
  obtain ⟨-, free⟩ := List.mem_filter.mp kept
  rw [clash_comm]
  simpa using free

/-- **What is left of a table**: the new rows, and those of the old ones that none of them
conflicts with. -/
theorem mem_foldl_orReplace {ns : List (Row C V)} (mem : r ∈ ns.foldl (orReplace keys) rows) :
    r ∈ ns ∨ r ∈ rows ∧ ∀ n ∈ ns, clash keys n r = false := by
  induction ns generalizing rows with
  | nil => exact .inr ⟨mem, by simp⟩
  | cons n ns ih =>
    rcases ih mem with isNew | ⟨before, free⟩
    · exact .inl (by simp [isNew])
    · rcases mem_orReplace.mp before with ⟨old, kept⟩ | rfl
      · exact .inr ⟨old, by simpa [kept] using free⟩
      · exact .inl (by simp)

end

end PlexPostgres.Sqlite
