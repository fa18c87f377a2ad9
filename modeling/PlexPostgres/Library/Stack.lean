import Mathlib.Data.List.Forall2

/-!
# Stacks kept as lists, searched from the top

A stack is a list whose last element is its top, as a vector that grows at the
end is.  `innermost` finds the topmost element that satisfies a test, together
with what lies below it; `rposition` is its position, counted from the bottom.

Everything a caller needs is the split `innermost_eq_some_iff`: what lies below,
the element found, and a rest in which nothing satisfies the test.

One stack may be kept inside another with more on it (`List.SublistForall₂`); the last
section cuts and extends such a pair together.
-/

namespace Stack

variable {α : Type*}

/-- **The topmost element** at which `p` holds, with the elements below it. -/
def innermost (p : α → Bool) : List α → Option (List α × α)
  | [] => none
  | a :: l =>
    match innermost p l with
    | some (below, b) => some (a :: below, b)
    | none => if p a then some ([], a) else none

/-- The topmost position at which `p` holds. -/
def rposition (p : α → Bool) (l : List α) : Option ℕ :=
  (innermost p l).map fun found => found.1.length

@[simp] theorem innermost_nil (p : α → Bool) : innermost p [] = none := rfl

theorem innermost_eq_none_iff (p : α → Bool) (l : List α) :
    innermost p l = none ↔ ∀ a ∈ l, p a = false := by
  induction l with
  | nil => simp
  | cons a l ih =>
    cases found : innermost p l with
    | some r => simp [innermost, found, ← ih]
    | none =>
      have rest := ih.mp found
      by_cases ha : p a = true
      · simp [innermost, found, ha]
      · simpa [innermost, found, ha] using rest

/-- Nothing above the element found satisfies the test. -/
theorem innermost_eq_some_iff (p : α → Bool) (l below : List α) (a : α) :
    innermost p l = some (below, a) ↔
      p a = true ∧ ∃ above, l = below ++ a :: above ∧ ∀ b ∈ above, p b = false := by
  constructor
  · intro h
    induction l generalizing below with
    | nil => simp at h
    | cons c l ih =>
      cases found : innermost p l with
      | some r =>
        simp only [innermost, found, Option.some.injEq, Prod.mk.injEq] at h
        obtain ⟨rfl, rfl⟩ := h
        obtain ⟨ha, above, rfl, rest⟩ := ih r.1 found
        exact ⟨ha, above, rfl, rest⟩
      | none =>
        have rest := (innermost_eq_none_iff p l).mp found
        by_cases hc : p c = true
        · simp only [innermost, found, hc, if_true, Option.some.injEq, Prod.mk.injEq] at h
          obtain ⟨rfl, rfl⟩ := h
          exact ⟨hc, l, rfl, rest⟩
        · simp [innermost, found, hc] at h
  · rintro ⟨ha, above, rfl, rest⟩
    have none_above : innermost p above = none := (innermost_eq_none_iff p above).mpr rest
    induction below with
    | nil => simp [innermost, none_above, ha]
    | cons b below ih => simp [innermost, ih]

variable {p : α → Bool} {a : α}

theorem innermost_append_singleton (l : List α) (ha : p a = true) :
    innermost p (l ++ [a]) = some (l, a) :=
  (innermost_eq_some_iff p _ _ _).mpr ⟨ha, [], rfl, by simp⟩

variable {l : List α}

/-- A narrower test finds the same element as soon as it accepts the one the wider
test finds. -/
theorem innermost_eq_of_narrower {q : α → Bool} (narrower : ∀ a, q a = true → p a = true)
    (accepted : ∀ below a, innermost p l = some (below, a) → q a = true) :
    innermost q l = innermost p l := by
  have refused : ∀ a, p a = false → q a = false := fun a hp => by
    cases hq : q a with
    | false => rfl
    | true => rw [narrower a hq] at hp; cases hp
  cases found : innermost p l with
  | none =>
    rw [innermost_eq_none_iff] at found ⊢
    exact fun a ha => refused a (found a ha)
  | some r =>
    obtain ⟨below, a⟩ := r
    obtain ⟨-, above, split, rest⟩ := (innermost_eq_some_iff p l below a).mp found
    exact (innermost_eq_some_iff q l below a).mpr
      ⟨accepted below a found, above, split, fun b hb => refused b (rest b hb)⟩

theorem rposition_eq_none_iff (p : α → Bool) (l : List α) :
    rposition p l = none ↔ ∀ a ∈ l, p a = false := by
  rw [rposition, Option.map_eq_none_iff, innermost_eq_none_iff]

theorem rposition_eq_some_iff (p : α → Bool) (l : List α) (i : ℕ) :
    rposition p l = some i ↔
      ∃ below a above, l = below ++ a :: above ∧ below.length = i ∧ p a = true ∧
        ∀ b ∈ above, p b = false := by
  simp only [rposition, Option.map_eq_some_iff, Prod.exists, innermost_eq_some_iff]
  constructor
  · rintro ⟨below, a, ⟨ha, above, split, rest⟩, len⟩
    exact ⟨below, a, above, split, len, ha, rest⟩
  · rintro ⟨below, a, above, split, len, ha, rest⟩
    exact ⟨below, a, ⟨ha, above, split, rest⟩, len⟩

/-- The topmost element that satisfies a test, seen from one that does: it is that one, or
one above it. -/
theorem innermost_at_or_above (p : α → Bool) (l : List α) (ha : p a = true) (r : List α) :
    (innermost p (l ++ a :: r) = some (l, a)) ∨
      ∃ between b above, r = between ++ b :: above ∧ p b = true ∧
        innermost p (l ++ a :: r) = some (l ++ a :: between, b) := by
  cases found : innermost p r with
  | none =>
    exact .inl ((innermost_eq_some_iff p _ l a).mpr
      ⟨ha, r, rfl, (innermost_eq_none_iff p r).mp found⟩)
  | some top =>
    obtain ⟨between, b⟩ := top
    obtain ⟨hb, above, rfl, rest⟩ := (innermost_eq_some_iff p r between b).mp found
    refine .inr ⟨between, b, above, rfl, hb, ?_⟩
    exact (innermost_eq_some_iff p _ _ b).mpr ⟨hb, above, by simp, rest⟩

/-! ### A stack kept inside another -/

section Embedding

open scoped List

variable {β : Type*} {R : α → β → Prop}

theorem sublistForall₂_mono {m n : List β} (h : List.SublistForall₂ R l m) (longer : m <+ n) :
    List.SublistForall₂ R l n := by
  obtain ⟨k, all, sub⟩ := List.sublistForall₂_iff.mp h
  exact List.sublistForall₂_iff.mpr ⟨k, all, sub.trans longer⟩

/-- Push on both. -/
theorem sublistForall₂_push {m : List β} (h : List.SublistForall₂ R l m) {b : β} (related : R a b) :
    List.SublistForall₂ R (l ++ [a]) (m ++ [b]) := by
  obtain ⟨k, all, sub⟩ := List.sublistForall₂_iff.mp h
  refine List.sublistForall₂_iff.mpr ⟨k ++ [b], ?_, sub.append_right [b]⟩
  exact List.rel_append all (.cons related .nil)

/-- **Cut both at one element** of the inner stack. -/
theorem sublistForall₂_cut {below above : List α} {m : List β}
    (h : List.SublistForall₂ R (below ++ a :: above) m) :
    ∃ under b beyond, m = under ++ b :: beyond ∧ List.SublistForall₂ R below under ∧ R a b := by
  induction m generalizing below with
  | nil => cases below <;> cases h
  | cons c m ih =>
    -- The top of the outer stack is paired with one of the inner stack, or passed over.
    cases below with
    | nil =>
      cases h with
      | cons related rest => exact ⟨[], c, m, rfl, .nil, related⟩
      | cons_right rest =>
        obtain ⟨under, b, beyond, rfl, -, related⟩ := ih rest
        exact ⟨c :: under, b, beyond, rfl, .nil, related⟩
    | cons x below =>
      cases h with
      | cons paired rest =>
        obtain ⟨under, b, beyond, rfl, lower, related⟩ := ih rest
        exact ⟨c :: under, b, beyond, rfl, .cons paired lower, related⟩
      | cons_right rest =>
        obtain ⟨under, b, beyond, rfl, lower, related⟩ := ih rest
        exact ⟨c :: under, b, beyond, rfl, .cons_right lower, related⟩

end Embedding

end Stack
