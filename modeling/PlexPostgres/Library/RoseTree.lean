import Mathlib.Algebra.Order.BigOperators.Group.List
import Mathlib.Algebra.Order.Ring.Nat
import Mathlib.Data.List.MinMax
import Mathlib.Order.Nat

/-!
# Labelled trees and the passes that walk them

A rose tree is a label with a list of children.  `visit` is the shape of a hand-written
rewriting pass: a node is prepared, the children the pass knows of are visited, the others stay
as they are, and the node is finished with the outcome.  A child of a prepared node need not be
a child of the node, so the pass runs on fuel; `rank` is a measure that falls along it.
-/

/-- **A tree** with a label and any number of children at each node. -/
inductive RoseTree (α : Type*) where
  | node (label : α) (children : List (RoseTree α))

namespace RoseTree

variable {α β : Type*}

def label : RoseTree α → α
  | node a _ => a

def children : RoseTree α → List (RoseTree α)
  | node _ ts => ts

@[simp] theorem label_node (a : α) (ts : List (RoseTree α)) : (node a ts).label = a := rfl

@[simp] theorem children_node (a : α) (ts : List (RoseTree α)) : (node a ts).children = ts := rfl

mutual

/-- **Recursion**: a node's value from its label and the values of its children. -/
def fold (f : α → List β → β) : RoseTree α → β
  | node a ts => f a (foldAll f ts)

/-- The values of a list of trees. -/
def foldAll (f : α → List β → β) : List (RoseTree α) → List β
  | [] => []
  | t :: ts => fold f t :: foldAll f ts

end

theorem foldAll_eq_map (f : α → List β → β) (ts : List (RoseTree α)) :
    foldAll f ts = ts.map (fold f) := by
  induction ts with
  | nil => rfl
  | cons t ts ih => rw [foldAll, ih, List.map_cons]

/-- A label with the mark `p` stands somewhere in the tree. -/
def has (p : α → Bool) : RoseTree α → Bool :=
  fold fun a found => p a || found.any id

theorem has_node (p : α → Bool) (a : α) (ts : List (RoseTree α)) :
    has p (node a ts) = true ↔ p a = true ∨ ∃ t ∈ ts, has p t = true := by
  simp [has, fold, foldAll_eq_map]

/-- **The height** of a tree, where a label chosen by `sums` counts all its children. -/
def rank (sums : α → Bool) : RoseTree α → ℕ :=
  fold fun a heights => (if sums a then heights.sum else heights.foldr max 0) + 1

variable {t : RoseTree α}

section Rank

variable (sums : α → Bool)

theorem rank_of_sums (h : sums t.label = true) :
    rank sums t = (t.children.map (rank sums)).sum + 1 := by
  obtain ⟨a, ts⟩ := t
  simp_all [rank, fold, foldAll_eq_map]

theorem rank_of_not_sums (h : sums t.label = false) :
    rank sums t = (t.children.map (rank sums)).foldr max 0 + 1 := by
  obtain ⟨a, ts⟩ := t
  simp_all [rank, fold, foldAll_eq_map]

theorem rank_lt_of_mem {c : RoseTree α} (mem : c ∈ t.children) :
    rank sums c < rank sums t := by
  have listed := List.mem_map_of_mem (f := rank sums) mem
  cases h : sums t.label with
  | true =>
    rw [rank_of_sums sums h]
    exact Nat.lt_succ_of_le (List.le_sum_of_mem listed)
  | false =>
    rw [rank_of_not_sums sums h]
    exact Nat.lt_succ_of_le (List.le_max_of_le listed le_rfl)

/-- A summing node is higher than one child and all the chosen others together. -/
theorem rank_add_lt {c : RoseTree α} (h : sums t.label = true) (mem : c ∈ t.children)
    (chosen : RoseTree α → Bool) (out : chosen c = false) :
    rank sums c + ((t.children.filter chosen).map (rank sums)).sum < rank sums t := by
  rw [rank_of_sums sums h]
  refine Nat.lt_succ_of_le ?_
  obtain ⟨a, listed⟩ := t
  simp only [children_node] at mem ⊢
  clear h
  induction listed with
  | nil => simp at mem
  | cons d ts ih =>
    have rest : ((ts.filter chosen).map (rank sums)).sum ≤ (ts.map (rank sums)).sum :=
      (List.filter_sublist.map _).sum_le_sum (fun _ _ => Nat.zero_le _)
    rcases List.mem_cons.mp mem with rfl | later
    · simpa [out] using rest
    · have := ih later
      by_cases hd : chosen d = true
      · simp only [List.filter_cons_of_pos hd, List.map_cons, List.sum_cons]
        omega
      · simp only [List.filter_cons_of_neg hd, List.map_cons, List.sum_cons]
        omega

end Rank

section Visit

variable (prepare : RoseTree α → RoseTree α) (enters : RoseTree α → RoseTree α → Bool)
  (finish : RoseTree α → List (RoseTree α) → RoseTree α)

/-- **A pass**: prepare the node, visit the children that are entered, finish the node. -/
def visit : ℕ → RoseTree α → RoseTree α
  | 0, t => t
  | n + 1, t =>
    finish (prepare t) ((prepare t).children.map fun c =>
      if enters (prepare t) c then visit n c else c)

/-- **A marked node the pass misses**: one it keeps as it is, or one below a child that it does
not enter. -/
inductive Missed (p : α → Bool) (keeps : RoseTree α → Prop) : RoseTree α → Prop
  | kept {t : RoseTree α} (h : keeps (prepare t)) : Missed p keeps t
  | apart {t c : RoseTree α} (mem : c ∈ (prepare t).children)
      (out : enters (prepare t) c = false) (h : has p c = true) : Missed p keeps t
  | inside {t c : RoseTree α} (mem : c ∈ (prepare t).children)
      (into : enters (prepare t) c = true) (h : Missed p keeps c) : Missed p keeps t

variable {p : α → Bool} {keeps : RoseTree α → Prop}

theorem missed_iff :
    Missed prepare enters p keeps t ↔ keeps (prepare t) ∨ ∃ c ∈ (prepare t).children,
      if enters (prepare t) c then Missed prepare enters p keeps c else has p c = true := by
  constructor
  · rintro (h | ⟨mem, out, h⟩ | ⟨mem, into, h⟩)
    · exact .inl h
    · exact .inr ⟨_, mem, by simpa [out] using h⟩
    · exact .inr ⟨_, mem, by simpa [into] using h⟩
  · rintro (h | ⟨c, mem, h⟩)
    · exact .kept h
    · split at h
      next into => exact .inside mem into h
      next out => exact .apart mem (by simpa using out) h

/-- **What a pass leaves behind** is exactly what it missed. -/
theorem has_visit_iff {height : RoseTree α → ℕ}
    (finished : ∀ t cs, has p (finish t cs) = true ↔ keeps t ∨ ∃ c ∈ cs, has p c = true)
    (falls : ∀ t c, c ∈ (prepare t).children → enters (prepare t) c = true → height c < height t)
    {n : ℕ} (fuel : height t < n) :
    has p (visit prepare enters finish n t) = true ↔ Missed prepare enters p keeps t := by
  induction n generalizing t with
  | zero => omega
  | succ n ih =>
    rw [visit, finished, missed_iff]
    simp only [List.mem_map, exists_exists_and_eq_and]
    refine or_congr Iff.rfl (exists_congr fun c => and_congr_right fun mem => ?_)
    split
    next into =>
      have := falls t c mem into
      exact ih (by omega)
    · rfl

/-- A pass that finishes a node with its own label, or replaces it by a tree of a bounded
height, makes a tree at most as much higher. -/
theorem rank_visit_le (sums : α → Bool) {bound : ℕ}
    (plain : ∀ t c, enters t c = true → sums t.label = false)
    (finished : ∀ t cs, finish t cs = node t.label cs ∨ rank sums (finish t cs) ≤ bound)
    (n : ℕ) (t : RoseTree α) :
    rank sums (visit id enters finish n t) ≤ rank sums t + bound := by
  induction n generalizing t with
  | zero => exact Nat.le_add_right _ _
  | succ n ih =>
    simp only [visit, id_eq]
    rcases finished t (t.children.map fun c =>
      if enters t c then visit id enters finish n c else c) with same | replaced
    · rw [same]
      cases h : sums t.label with
      | true =>
        have unchanged : (t.children.map fun c =>
            if enters t c then visit id enters finish n c else c) = t.children := by
          refine List.map_id'' (fun c => if_neg fun into => ?_) _
          rw [plain t c into] at h
          cases h
        rw [unchanged]
        obtain ⟨a, ts⟩ := t
        exact Nat.le_add_right _ _
      | false =>
        rw [rank_of_not_sums sums (t := node t.label _) h, rank_of_not_sums sums h,
          Nat.add_right_comm]
        refine Nat.succ_le_succ (List.max_le_of_forall_le _ _ fun height mem => ?_)
        simp only [children_node, List.map_map, List.mem_map, Function.comp_apply] at mem
        obtain ⟨c, listed, rfl⟩ := mem
        have lower := rank_lt_of_mem sums listed
        rw [rank_of_not_sums sums h] at lower
        split
        · have := ih c
          omega
        · omega
    · omega

end Visit

end RoseTree
