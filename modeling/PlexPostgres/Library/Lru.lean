import Mathlib.Data.List.Nodup
import Mathlib.Data.List.Perm.Basic

/-!
# Maps of bounded size with least-recently-used replacement

The entries stand in the order of their last use, the latest first.  Looking a key up brings
its entry to the front; adding one puts it there, and what no longer fits falls off the end.
-/

/-- **A map of bounded size**, its entries in the order of their last use. -/
structure Lru (κ ν : Type*) (capacity : ℕ) where
  entries : List (κ × ν)
  distinct : (entries.map Prod.fst).Nodup
  bounded : entries.length ≤ capacity

namespace Lru

variable {κ ν : Type*} {capacity : ℕ}

/-- Nothing is held. -/
def empty : Lru κ ν capacity := ⟨[], List.nodup_nil, Nat.zero_le capacity⟩

variable (m : Lru κ ν capacity)

/-- The entry whose last use is oldest. -/
def oldest : Option (κ × ν) := m.entries.getLast?

variable [DecidableEq κ] (k : κ)

/-- **What is held for a key.** -/
def lookup : Option ν := (m.entries.find? fun entry => entry.1 = k).map Prod.snd

/-- The entries of the other keys. -/
def others : List (κ × ν) := m.entries.filter fun entry => entry.1 ≠ k

/-- The entry of a key, if there is one, before the others. -/
def inFront : List (κ × ν) := (m.entries.filter fun entry => entry.1 = k) ++ m.others k

theorem inFront_perm : (m.inFront k).Perm m.entries := by
  have split := List.filter_append_perm (fun entry : κ × ν => decide (entry.1 = k)) m.entries
  simpa only [inFront, others, ne_eq, decide_not] using split

/-- **The entry of a key is used.** -/
def use : Lru κ ν capacity where
  entries := m.inFront k
  distinct := ((m.inFront_perm k).map Prod.fst).nodup_iff.mpr m.distinct
  bounded := (m.inFront_perm k).length_eq ▸ m.bounded

variable (v : ν)

theorem nodup_others : (((k, v) :: m.others k).map Prod.fst).Nodup := by
  rw [List.map_cons, List.nodup_cons]
  refine ⟨fun mem => ?_, m.distinct.sublist (List.filter_sublist.map Prod.fst)⟩
  obtain ⟨entry, kept, same⟩ := List.mem_map.mp mem
  simp only [others, List.mem_filter, decide_eq_true_eq] at kept
  exact kept.2 same

/-- **An entry is added**, and what does not fit any more falls off the end. -/
def add : Lru κ ν capacity where
  entries := ((k, v) :: m.others k).take capacity
  distinct := (m.nodup_others k v).sublist ((List.take_sublist _ _).map Prod.fst)
  bounded := List.length_take_le _ _

/-- The entry that makes room for one of a key, if the others leave none. -/
def evicted : Option (κ × ν) := if (m.others k).length < capacity then none else m.oldest

variable {m k v}

/-! ### What is held -/

omit [DecidableEq κ] in
theorem unique_of_mem {w w' : ν} (mem : (k, w) ∈ m.entries) (mem' : (k, w') ∈ m.entries) :
    w = w' := by
  have same := List.inj_on_of_nodup_map m.distinct mem mem' rfl
  exact congrArg Prod.snd same

theorem lookup_eq_some_iff : m.lookup k = some v ↔ (k, v) ∈ m.entries := by
  unfold lookup
  constructor
  · intro found
    obtain ⟨⟨k', w⟩, first, rfl⟩ := Option.map_eq_some_iff.mp found
    have same : k' = k := by simpa using List.find?_some first
    subst same
    exact List.mem_of_find?_eq_some first
  · intro mem
    cases first : m.entries.find? fun entry => entry.1 = k with
    | none =>
      have other := List.find?_eq_none.mp first (k, v) mem
      exact absurd (decide_eq_true rfl) other
    | some entry =>
      obtain ⟨k', w⟩ := entry
      have same : k' = k := by simpa using List.find?_some first
      subst same
      exact congrArg some (unique_of_mem (List.mem_of_find?_eq_some first) mem)

theorem lookup_eq_none_iff : m.lookup k = none ↔ ∀ w, (k, w) ∉ m.entries := by
  constructor
  · intro missing w mem
    rw [lookup_eq_some_iff.mpr mem] at missing
    cases missing
  · intro absent
    exact Option.eq_none_iff_forall_ne_some.mpr fun w found => absent w
      (lookup_eq_some_iff.mp found)

variable {entry : κ × ν}

theorem mem_others :
    entry ∈ m.others k ↔ entry ∈ m.entries ∧ entry.1 ≠ k := by
  simp [others]

theorem mem_use : entry ∈ (m.use k).entries ↔ entry ∈ m.entries :=
  (m.inFront_perm k).mem_iff

/-! ### Who makes room -/

theorem others_eq_of_full (full : ¬ (m.others k).length < capacity) :
    m.others k = m.entries ∧ m.entries.length = capacity := by
  have fewer : (m.others k).length ≤ m.entries.length := List.length_filter_le _ _
  have most := m.bounded
  have whole : m.others k = m.entries :=
    List.Sublist.eq_of_length_le List.filter_sublist (by omega)
  exact ⟨whole, by omega⟩

theorem lookup_eq_none_of_full (full : ¬ (m.others k).length < capacity) :
    m.lookup k = none := by
  refine lookup_eq_none_iff.mpr fun w mem => ?_
  rw [← (others_eq_of_full full).1] at mem
  exact (mem_others.mp mem).2 rfl

/-- There is no room for a key only if all the entries are other keys'. -/
theorem not_lt_of_full (full : m.entries.length = capacity) (absent : m.lookup k = none) :
    ¬ (m.others k).length < capacity := by
  have whole : m.others k = m.entries := by
    refine List.filter_eq_self.mpr fun entry mem => ?_
    rw [decide_eq_true_eq]
    rintro rfl
    exact lookup_eq_none_iff.mp absent entry.2 mem
  rw [whole, full]
  exact Nat.lt_irrefl capacity

/-- **What is held after an entry was added**: it, and the others but for the one evicted. -/
theorem mem_add (positive : 0 < capacity) :
    entry ∈ (m.add k v).entries ↔
      entry = (k, v) ∨ entry ∈ m.others k ∧ m.evicted k ≠ some entry := by
  obtain ⟨n, rfl⟩ : ∃ n, capacity = n + 1 := ⟨capacity - 1, by omega⟩
  have shown : (m.add k v).entries = (k, v) :: (m.others k).take n := rfl
  rw [shown, List.mem_cons]
  by_cases room : (m.others k).length < n + 1
  · rw [evicted, if_pos room, List.take_of_length_le (Nat.lt_succ_iff.mp room)]
    simp
  · obtain ⟨whole, full⟩ := others_eq_of_full room
    have nodup : m.entries.Nodup := m.distinct.of_map _
    obtain ⟨front, last, parts⟩ := List.eq_nil_or_concat' m.entries |>.resolve_left
      (fun none => by rw [none] at full; cases full)
    rw [evicted, if_neg room, whole, oldest]
    rw [parts, List.length_append, List.length_singleton] at full
    rw [parts, List.getLast?_append, List.take_append_of_le_length (by omega),
      List.take_of_length_le (by omega)]
    rw [parts, List.nodup_append] at nodup
    have apart : entry ∈ front → last ≠ entry :=
      fun mem same => nodup.2.2 entry mem last (List.mem_singleton_self last) same.symm
    simp only [List.getLast?_singleton, Option.some_or, List.mem_append, List.mem_singleton,
      Option.some.injEq, ne_eq]
    refine or_congr_right ⟨fun mem => ⟨.inl mem, apart mem⟩, ?_⟩
    rintro ⟨mem | rfl, other⟩
    · exact mem
    · exact absurd rfl other

/-- Only the oldest entry is evicted, and it is another key's. -/
theorem evicted_eq_some (gone : m.evicted k = some entry) :
    m.oldest = some entry ∧ entry ∈ m.entries ∧ m.lookup k = none ∧
      m.entries.length = capacity := by
  unfold evicted at gone
  split at gone
  · cases gone
  next full =>
    exact ⟨gone, List.mem_of_getLast? gone, lookup_eq_none_of_full full,
      (others_eq_of_full full).2⟩

end Lru
