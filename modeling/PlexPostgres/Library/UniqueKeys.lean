import Mathlib.Data.List.Perm.Basic

/-!
# Rows and unique keys

A row gives a value or NULL to each column.  A key is a list of columns; two rows conflict
on it if neither has a NULL there and they agree on all of it.  A table keeps its rows
apart on every key.
-/

namespace UniqueKeys

variable {C V : Type*}

/-- **A row.** -/
abbrev Row (C V : Type*) := C → Option V

section

variable [DecidableEq V]

/-- **Two rows conflict on a key.**  A NULL conflicts with nothing. -/
def agree (key : List C) (r s : Row C V) : Bool := key.all fun c => (r c).isSome && r c = s c

/-- **Two rows conflict on one of the keys.** -/
def clash (keys : List (List C)) (r s : Row C V) : Bool := keys.any (agree · r s)

variable {key : List C} {keys : List (List C)} {r s t : Row C V}

theorem agree_iff : agree key r s = true ↔ ∀ c ∈ key, (r c).isSome = true ∧ r c = s c := by
  simp [agree]

theorem agree_symm (both : agree key r s = true) : agree key s r = true := by
  rw [agree_iff] at both ⊢
  intro c mem
  obtain ⟨some, same⟩ := both c mem
  exact ⟨same ▸ some, same.symm⟩

theorem agree_comm : agree key r s = agree key s r :=
  Bool.eq_iff_iff.mpr ⟨agree_symm, agree_symm⟩

theorem agree_trans (first : agree key r s = true) (second : agree key s t = true) :
    agree key r t = true := by
  rw [agree_iff] at first second ⊢
  intro c mem
  exact ⟨(first c mem).1, (first c mem).2.trans (second c mem).2⟩

/-- A row that conflicts on a key has no NULL there. -/
theorem agree_self (both : agree key r s = true) : agree key r r = true :=
  agree_trans both (agree_symm both)

theorem agree_mono {part : List C} (sub : part ⊆ key) (both : agree key r s = true) :
    agree part r s = true := by
  rw [agree_iff] at both ⊢
  exact fun c mem => both c (sub mem)

theorem clash_iff : clash keys r s = true ↔ ∃ key ∈ keys, agree key r s = true := by
  simp [clash]

theorem clash_eq_false_iff : clash keys r s = false ↔ ∀ key ∈ keys, agree key r s = false := by
  simp [clash]

theorem clash_comm : clash keys r s = clash keys s r := by
  simp only [clash, agree_comm (r := r)]

@[simp] theorem clash_singleton : clash [key] r s = agree key r s := by simp [clash]

/-! ### Tables -/

/-- **Rows that are kept apart** on every key. -/
def Distinct (keys : List (List C)) (rows : List (Row C V)) : Prop :=
  rows.Pairwise fun r s => clash keys r s = false

/-- **Only one row of a table conflicts with another on a key of the table.** -/
theorem Distinct.not_agree {rows : List (Row C V)} (apart : Distinct keys (r :: rows))
    (isKey : key ∈ keys) (first : agree key t r = true) :
    ∀ s ∈ rows, agree key t s = false := by
  intro s mem
  have none := clash_eq_false_iff.mp (List.rel_of_pairwise_cons apart mem) key isKey
  refine Bool.eq_false_iff.mpr fun second => ?_
  rw [agree_trans (agree_symm first) second] at none
  cases none

end

/-! ### Rows with NULLs -/

variable [DecidableEq C]

/-- **The row with NULL everywhere but in these columns.** -/
def only (columns : List C) (r : Row C V) : Row C V := fun c => if c ∈ columns then r c else none

theorem agree_only [DecidableEq V] {key : List C} {r : Row C V} (whole : agree key r r = true) :
    agree key r (only key r) = true := by
  rw [agree_iff] at whole ⊢
  intro c mem
  exact ⟨(whole c mem).1, by rw [only, if_pos mem]⟩

theorem not_agree_only [DecidableEq V] {key part : List C} {c : C} (mem : c ∈ part)
    (outside : c ∉ key) (r s : Row C V) : agree part s (only key r) = false := by
  refine Bool.eq_false_iff.mpr fun both => ?_
  obtain ⟨some, same⟩ := agree_iff.mp both c mem
  rw [same, only, if_neg outside] at some
  cases some

end UniqueKeys
