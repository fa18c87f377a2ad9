import Mathlib.Data.Nat.Notation
import Mathlib.Tactic.TypeStar

/-!
# A call made in attempts

A call that fails may be tried again, a limited number of times.  Whether it is depends on the
state an attempt begins in, on a mark that is cleared before the next one, and on what the attempt
meets; the next attempt begins in the state the one before it left.
-/

/-- **Attempts at a call**, from states of type `σ` and meeting outcomes of type `ε`. -/
structure Attempts (σ ε : Type*) where
  isRetried : σ → Bool → ε → Bool
  next : σ → ε → σ

namespace Attempts

variable {σ ε : Type*}

/-- **What the attempts of a call meet**: those that are followed by another `again`, the last one
`last`; both are conditions on the state before the attempt and on what it meets. -/
def Meet (a : Attempts σ ε) (again last : σ → ε → Prop) : ℕ → σ → Bool → (ℕ → ε) → Prop
  | 0, s, _, envs => last s (envs 0)
  | retries + 1, s, mark, envs =>
    (a.isRetried s mark (envs 0) = false → last s (envs 0)) ∧
      (a.isRetried s mark (envs 0) = true → again s (envs 0) ∧
        a.Meet again last retries (a.next s (envs 0)) false fun i => envs (i + 1))

variable {a : Attempts σ ε} {again again' last : σ → ε → Prop} {retries : ℕ} {s : σ}
  {envs : ℕ → ε}

/-- What follows for an attempt that is tried again, from a clear mark, is met by every one. -/
theorem Meet.retried (follows : ∀ s env, a.isRetried s false env = true → again s env →
    again' s env) (meet : a.Meet again last retries s false envs) :
    a.Meet again' (fun _ _ => True) retries s false envs := by
  induction retries generalizing s envs with
  | zero => trivial
  | succ retries ih =>
    refine ⟨fun _ => trivial, fun isRetried => ?_⟩
    obtain ⟨ok, rest⟩ := meet.2 isRetried
    exact ⟨follows s (envs 0) isRetried ok, ih rest⟩

end Attempts
