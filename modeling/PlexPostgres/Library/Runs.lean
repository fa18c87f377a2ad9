import Mathlib.Data.List.Basic

/-!
# Runs of a deterministic machine

A machine is a step function `σ → ι → σ`; a run feeds it a list of inputs, and
the states it passes through are the folds over the prefixes of that list.
`Meets` says that every step of a run satisfies a condition on the state before
the step and the input it is given.  Two rules carry every result about runs:

* `Meets.invariant` — what one step preserves, a whole run preserves;
* `Meets.shorter` — a shorter run that starts the same way meets the condition
  too, so a property of the last state is one of every state passed through.
-/

namespace Runs

variable {σ ι : Type*} (step : σ → ι → σ)

/-- **The state a run ends in.** -/
def final (s : σ) (inputs : List ι) : σ := inputs.foldl step s

@[simp] theorem final_nil (s : σ) : final step s [] = s := rfl

@[simp] theorem final_cons (s : σ) (i : ι) (inputs : List ι) :
    final step s (i :: inputs) = final step (step s i) inputs := rfl

theorem final_append (s : σ) (inputs more : List ι) :
    final step s (inputs ++ more) = final step (final step s inputs) more :=
  List.foldl_append

/-- **Every step of the run meets `ok`**, a condition on the state before the
step and on its input. -/
def Meets (ok : σ → ι → Prop) : σ → List ι → Prop
  | _, [] => True
  | s, i :: inputs => ok s i ∧ Meets ok (step s i) inputs

variable {step} {ok : σ → ι → Prop}

instance decidableMeets [∀ s i, Decidable (ok s i)] :
    (s : σ) → (inputs : List ι) → Decidable (Meets step ok s inputs)
  | _, [] => .isTrue trivial
  | s, i :: inputs =>
    have := decidableMeets (step s i) inputs
    inferInstanceAs (Decidable (ok s i ∧ Meets step ok (step s i) inputs))

@[simp] theorem meets_nil (s : σ) : Meets step ok s [] := trivial

@[simp] theorem meets_cons (s : σ) (i : ι) (inputs : List ι) :
    Meets step ok s (i :: inputs) ↔ ok s i ∧ Meets step ok (step s i) inputs := Iff.rfl

theorem meets_append (s : σ) (inputs more : List ι) :
    Meets step ok s (inputs ++ more) ↔
      Meets step ok s inputs ∧ Meets step ok (final step s inputs) more := by
  induction inputs generalizing s with
  | nil => simp
  | cons i inputs ih => simp [ih, and_assoc]

variable {s : σ} {inputs : List ι}

theorem Meets.shorter {pre : List ι} (h : Meets step ok s inputs) (hpre : pre <+: inputs) :
    Meets step ok s pre := by
  obtain ⟨rest, rfl⟩ := hpre
  exact ((meets_append s pre rest).mp h).1

/-- **Invariant rule**: what each step that meets the condition preserves holds
at the end of every run that meets it. -/
theorem Meets.invariant (Inv : σ → Prop) (preserved : ∀ s i, Inv s → ok s i → Inv (step s i))
    (h : Meets step ok s inputs) (start : Inv s) :
    Inv (final step s inputs) := by
  induction inputs generalizing s with
  | nil => exact start
  | cons i inputs ih => exact ih h.2 (preserved s i start h.1)

/-- **A run that does not meet the condition** meets it up to some step. -/
theorem exists_first_of_not_meets (h : ¬ Meets step ok s inputs) :
    ∃ before i after, inputs = before ++ i :: after ∧ Meets step ok s before ∧
      ¬ ok (final step s before) i := by
  induction inputs generalizing s with
  | nil => exact absurd trivial h
  | cons i inputs ih =>
    by_cases first : ok s i
    · have later : ¬ Meets step ok (step s i) inputs := fun met => h ⟨first, met⟩
      obtain ⟨before, j, after, rfl, met, fails⟩ := ih later
      exact ⟨i :: before, j, after, rfl, ⟨first, met⟩, fails⟩
    · exact ⟨[], i, inputs, rfl, trivial, first⟩

variable {ok' : σ → ι → Prop}

theorem Meets.imp (weaker : ∀ s i, ok s i → ok' s i) (h : Meets step ok s inputs) :
    Meets step ok' s inputs := by
  induction inputs generalizing s with
  | nil => trivial
  | cons i inputs ih => exact ⟨weaker s i h.1, ih h.2⟩

theorem Meets.and (h : Meets step ok s inputs) (h' : Meets step ok' s inputs) :
    Meets step (fun s i => ok s i ∧ ok' s i) s inputs := by
  induction inputs generalizing s with
  | nil => trivial
  | cons i inputs ih => exact ⟨⟨h.1, h'.1⟩, ih h.2 h'.2⟩

/-- A condition that implies another in the states a run can be in. -/
theorem Meets.imp_of_invariant (Inv : σ → Prop) (weaker : ∀ s i, Inv s → ok s i → ok' s i)
    (preserved : ∀ s i, Inv s → ok s i → Inv (step s i)) (h : Meets step ok s inputs)
    (start : Inv s) : Meets step ok' s inputs := by
  induction inputs generalizing s with
  | nil => trivial
  | cons i inputs ih => exact ⟨weaker s i start h.1, ih h.2 (preserved s i start h.1)⟩

/-- **Two conditions that say the same** of the states a run can be in are met by the same
runs. -/
theorem meets_iff_of_invariant (Inv : σ → Prop) (agree : ∀ s i, Inv s → (ok s i ↔ ok' s i))
    (preserved : ∀ s i, Inv s → ok s i → Inv (step s i)) (start : Inv s) (inputs : List ι) :
    Meets step ok s inputs ↔ Meets step ok' s inputs := by
  constructor
  · intro h
    exact h.imp_of_invariant Inv (fun s i inv => (agree s i inv).mp) preserved start
  · intro h
    exact h.imp_of_invariant Inv (fun s i inv => (agree s i inv).mpr)
      (fun s i inv met => preserved s i inv ((agree s i inv).mpr met)) start

/-- A condition on the inputs alone is met as soon as every input satisfies it. -/
theorem meets_of_forall {good : ι → Prop} (h : ∀ i ∈ inputs, good i) :
    Meets step (fun _ i => good i) s inputs := by
  induction inputs generalizing s with
  | nil => trivial
  | cons i inputs ih =>
    exact ⟨h i (by simp), ih fun j hj => h j (by simp [hj])⟩

end Runs
