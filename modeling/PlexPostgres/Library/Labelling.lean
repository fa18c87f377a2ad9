import Mathlib.Data.List.Forall2

/-!
# Labelling a list from front to back

A pass goes through a list once, gives every item a label and carries a state along that says
which labels are taken.  The numbering of the parameters of a statement is one.

Three rules carry the results about such passes:

* `final_invariant` — what every item preserves, the pass preserves;
* `labels_related` — two passes whose states stay related give related labels;
* `labels_settled` — if an item can be looked up in the state from the moment it is labelled,
  its label is what the state knows of it in the end.
-/

namespace Labelling

variable {σ τ α β γ δ : Type*} (step : σ → α → β × σ)

/-- **The labels**, one for each item. -/
def labels : σ → List α → List β
  | _, [] => []
  | s, a :: l => (step s a).1 :: labels (step s a).2 l

/-- **The state in the end.** -/
def final : σ → List α → σ
  | s, [] => s
  | s, a :: l => final (step s a).2 l

@[simp] theorem labels_cons (s : σ) (a : α) (l : List α) :
    labels step s (a :: l) = (step s a).1 :: labels step (step s a).2 l := rfl

@[simp] theorem final_cons (s : σ) (a : α) (l : List α) :
    final step s (a :: l) = final step (step s a).2 l := rfl

variable {l : List α}

/-- An item that is labelled `b` in every state. -/
theorem mem_labels {a : α} {b : β} (always : ∀ s, (step s a).1 = b) (mem : a ∈ l) (s : σ) :
    b ∈ labels step s l := by
  induction l generalizing s with
  | nil => cases mem
  | cons c l ih =>
    rcases List.mem_cons.mp mem with rfl | later
    · rw [labels_cons, always]
      exact List.mem_cons_self
    · exact List.mem_cons_of_mem _ (ih later _)

/-- A pass over what `g` makes of the items. -/
theorem labels_map (g : γ → α) (s : σ) (l : List γ) :
    labels step s (l.map g) = labels (fun s c => step s (g c)) s l := by
  induction l generalizing s with
  | nil => rfl
  | cons c l ih => rw [List.map_cons, labels_cons, labels_cons, ih]

theorem final_map (g : γ → α) (s : σ) (l : List γ) :
    final step s (l.map g) = final (fun s c => step s (g c)) s l := by
  induction l generalizing s with
  | nil => rfl
  | cons c l ih => rw [List.map_cons, final_cons, final_cons, ih]

variable {step}

/-- **Invariant rule**, for the items of one list. -/
theorem final_invariant (Inv : σ → Prop) {s : σ}
    (preserved : ∀ a ∈ l, ∀ s, Inv s → Inv (step s a).2) (start : Inv s) :
    Inv (final step s l) := by
  induction l generalizing s with
  | nil => exact start
  | cons a l ih =>
    apply ih
    · intro b mem
      exact preserved b (List.mem_cons_of_mem a mem)
    · exact preserved a List.mem_cons_self s start

/-- **Two passes side by side**, the second over what `g` makes of the items. -/
theorem labels_related {step' : τ → γ → δ × τ} (g : α → γ) (R : σ → τ → Prop)
    (same : β → δ → Prop) {s : σ} {t : τ}
    (related : ∀ a ∈ l, ∀ s t, R s t →
      same (step s a).1 (step' t (g a)).1 ∧ R (step s a).2 (step' t (g a)).2) (start : R s t) :
    List.Forall₂ same (labels step s l) (labels step' t (l.map g)) ∧
      R (final step s l) (final step' t (l.map g)) := by
  induction l generalizing s t with
  | nil => exact ⟨.nil, start⟩
  | cons a l ih =>
    obtain ⟨first, next⟩ := related a List.mem_cons_self s t start
    obtain ⟨rest, ends⟩ := ih (fun b mem => related b (List.mem_cons_of_mem a mem)) next
    exact ⟨.cons first rest, ends⟩

variable (step) in
/-- **What is looked up is kept**: the label of an item is what the last state knows of it. -/
theorem labels_settled (look : σ → α → Option β) (looked : α → Prop)
    (given : ∀ s a, looked a → look (step s a).2 a = some (step s a).1)
    (kept : ∀ s a b c, look s a = some b → look (step s c).2 a = some b) (s : σ) (l : List α) :
    List.Forall₂ (fun a b => looked a → look (final step s l) a = some b) l (labels step s l) := by
  have stays : ∀ (l : List α) s a b, look s a = some b → look (final step s l) a = some b := by
    intro l s a b known
    exact final_invariant (look · a = some b) (fun c _ s known => kept s a b c known) known
  induction l generalizing s with
  | nil => exact .nil
  | cons a l ih => exact .cons (fun ok => stays l _ a _ (given s a ok)) (ih (step s a).2)

end Labelling
