import Mathlib.Algebra.Order.Group.Int
import PlexPostgres.Library.Runs

/-!
# The statements a process knows

Two tables lead from a SQLite handle to the statement of the shim: the registry of the process, a
map in each direction, and a table of each thread, whose entries own references.  A null handle
or statement reaches neither.
-/

namespace PlexPostgres.Cache

/-! ### The registry -/

/-- **The registry**: the statement of a handle, and the handle of a statement. -/
structure StmtRegistry where
  forward : ℕ → Option ℕ
  reverse : ℕ → Option ℕ

inductive RegistryOp where
  | register (sqliteStmt pgStmt : ℕ)
  | unregister (sqliteStmt : ℕ)
  | clear

namespace StmtRegistry

open Function (update update_apply)

def new : StmtRegistry := ⟨fun _ => none, fun _ => none⟩

variable (r : StmtRegistry)

def register (h p : ℕ) : StmtRegistry where
  forward := update r.forward h (some p)
  reverse :=
    let kept := match r.forward h with
      | some old => if old ≠ p then update r.reverse old none else r.reverse
      | none => r.reverse
    update kept p (some h)

def unregister (h : ℕ) : StmtRegistry :=
  match r.forward h with
  | some p => ⟨update r.forward h none, update r.reverse p none⟩
  | none => r

def isOurs (p : ℕ) : Bool := (r.reverse p).isSome

def step : RegistryOp → StmtRegistry
  | .register h p => r.register h p
  | .unregister h => r.unregister h
  | .clear => new

/-- **Each map undoes the other.** -/
def Inverse : Prop := ∀ h p, r.forward h = some p ↔ r.reverse p = some h

/-- No other handle has the statement that is registered. -/
def Unshared : RegistryOp → Prop
  | .register h p => ∀ other, r.forward other = some p → other = h
  | .unregister _ | .clear => True

variable {r}

theorem Inverse.step_iff (inverse : r.Inverse) (op : RegistryOp) :
    (r.step op).Inverse ↔ r.Unshared op := by
  cases op with
  | clear => simp [step, Unshared, Inverse, new]
  | unregister h =>
    simp only [step, Unshared, iff_true, unregister]
    split
    next p found =>
      intro h' p'
      have := inverse h' p'
      have := inverse h p'
      have := inverse h' p
      simp only [update_apply]
      grind
    next => exact inverse
  | register h p =>
    constructor
    · intro after other found
      by_contra apart
      have there := after other p
      simp [step, register, apart, found, Ne.symm apart] at there
    · intro unshared h' p'
      have := inverse h' p'
      have := inverse h p'
      have := unshared h'
      cases found : r.forward h <;> simp only [step, register, found, update_apply] <;> grind

/-- **The maps are inverse throughout a run** if and only if no statement is registered that
another handle has. -/
theorem inverse_iff (ops : List RegistryOp) :
    (∀ before, before <+: ops → (Runs.final step new before).Inverse) ↔
      Runs.Meets step Unshared new ops := by
  constructor
  · intro inverse
    by_contra fails
    obtain ⟨before, op, after, rfl, -, shared⟩ := Runs.exists_first_of_not_meets fails
    have next := inverse (before ++ [op]) (by simp)
    rw [Runs.final_append] at next
    exact shared (((inverse before (by simp)).step_iff op).mp next)
  · intro met before part
    exact (met.shorter part).invariant Inverse (fun _ op inv => (inv.step_iff op).mpr)
      (by simp [Inverse, new])

-- Two handles share a statement, and one is unregistered.
example : let r := Runs.final step new [.register 1 9, .register 2 9, .unregister 1]
    r.forward 2 = some 9 ∧ r.isOurs 9 = false := by decide

end StmtRegistry

/-! ### The table of a thread -/

/-- `MAX_CACHED_STMTS_PER_THREAD`. -/
def maxCachedStmtsPerThread : ℕ := 64

/-- **The table of a thread**: handles and their statements, oldest first, and how many more
references on a statement it has taken than dropped. -/
structure ThreadCachedStmts where
  entries : List (ℕ × ℕ)
  refs : ℕ → ℤ

inductive CacheOp where
  | register (sqliteStmt pgStmt : ℕ)
  | clear (sqliteStmt : ℕ)
  | clearWeak (sqliteStmt : ℕ)

def stmtRef (refs : ℕ → ℤ) (p : ℕ) : ℕ → ℤ := fun q => if p = q then refs q + 1 else refs q

def stmtUnref (refs : ℕ → ℤ) (p : ℕ) : ℕ → ℤ := fun q => if p = q then refs q - 1 else refs q

namespace ThreadCachedStmts

def new : ThreadCachedStmts := ⟨[], fun _ => 0⟩

variable (t : ThreadCachedStmts)

def find (h : ℕ) : Option ℕ := t.entries.lookup h

def register (h p : ℕ) : ThreadCachedStmts :=
  match t.find h with
  | some old =>
    ⟨t.entries.replace (h, old) (h, p),
      stmtRef (if old ≠ p then stmtUnref t.refs old else t.refs) p⟩
  | none =>
    let refs := stmtRef t.refs p
    if t.entries.length < maxCachedStmtsPerThread then ⟨t.entries ++ [(h, p)], refs⟩
    else
      match t.entries with
      | [] => t
      | (_, old) :: rest => ⟨rest ++ [(h, p)], stmtUnref refs old⟩

/-- `clear`, and `clear_weak`, which drops no reference. -/
def remove (h : ℕ) (weak : Bool) : ThreadCachedStmts :=
  match t.find h with
  | some old => ⟨t.entries.erase (h, old), if weak then t.refs else stmtUnref t.refs old⟩
  | none => t

def step : CacheOp → ThreadCachedStmts
  | .register h p => t.register h p
  | .clear h => t.remove h false
  | .clearWeak h => t.remove h true

/-- `drop`, when the thread ends. -/
def drop : ℕ → ℤ := t.entries.foldl (fun refs e => stmtUnref refs e.2) t.refs

/-- How many entries stand for a statement. -/
def entriesOf (p : ℕ) : ℕ := (t.entries.map Prod.snd).count p

/-- **The references on `p` an operation leaves to no entry**: one for a pair registered again, one
for an entry weakly cleared. -/
def astray (p : ℕ) : CacheOp → ℕ
  | .register h q => if t.find h = some p ∧ q = p then 1 else 0
  | .clear _ => 0
  | .clearWeak h => if t.find h = some p then 1 else 0

/-- Those of a run. -/
def allAstray (p : ℕ) : ThreadCachedStmts → List CacheOp → ℕ
  | _, [] => 0
  | t, op :: ops => t.astray p op + allAstray p (t.step op) ops

variable {t}

theorem drop_apply (p : ℕ) : t.drop p = t.refs p - t.entriesOf p := by
  obtain ⟨entries, refs⟩ := t
  unfold drop entriesOf
  induction entries generalizing refs with
  | nil => simp
  | cons e entries ih =>
    rw [List.foldl_cons, ih]
    simp [stmtUnref, List.count_cons]
    grind

/-- **One operation.** -/
theorem drop_step (p : ℕ) (op : CacheOp) : (t.step op).drop p = t.drop p + t.astray p op := by
  simp only [drop_apply, entriesOf]
  cases op with
  | register h q =>
    rw [step, register, astray]
    cases found : t.find h with
    | some old =>
      obtain ⟨before, after, split, others⟩ := List.lookup_eq_some_iff.mp found
      have new : (h, old) ∉ before := fun mem => by simpa using others _ mem
      dsimp only
      rw [split, List.replace_append_right new, List.replace_cons_self]
      by_cases same : old = q <;> simp [stmtRef, stmtUnref, List.count_cons, same] <;> grind
    | none =>
      dsimp only
      split
      · simp [stmtRef, List.count_cons]
        grind
      next full =>
        split
        next none => simp [none, maxCachedStmtsPerThread] at full
        next entries =>
          simp [entries, stmtRef, stmtUnref, List.count_cons]
          grind
  | clear h | clearWeak h =>
    rw [step, remove, astray]
    cases found : t.find h with
    | none => simp
    | some old =>
      obtain ⟨before, after, split, -⟩ := List.lookup_eq_some_iff.mp found
      have mem : (h, old) ∈ t.entries := by simp [split]
      have count := ((List.perm_cons_erase mem).map Prod.snd).count_eq p
      simp [List.count_cons, stmtUnref] at count ⊢
      grind

/-- **Every entry owns a reference**, and those outlive the thread that were left to no entry. -/
theorem refs_final (ops : List CacheOp) (p : ℕ) :
    (Runs.final step new ops).entriesOf p ≤ (Runs.final step new ops).refs p ∧
      (Runs.final step new ops).drop p = allAstray p new ops := by
  have all (t : ThreadCachedStmts) :
      (Runs.final step t ops).drop p = t.drop p + allAstray p t ops := by
    induction ops generalizing t with
    | nil => simp [allAstray]
    | cons op ops ih =>
      rw [Runs.final_cons, ih, drop_step, allAstray]
      omega
  have total := (all new).trans (zero_add _)
  refine ⟨?_, total⟩
  rw [drop_apply] at total
  omega

end ThreadCachedStmts

end PlexPostgres.Cache
