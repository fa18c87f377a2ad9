import Mathlib.Data.Nat.ModEq

/-!
# Tables with linear probing

A table is a function from slot numbers.  The slots probed for a key are the ones from its
home on, once around; the first empty one ends the search.  Entries are put where the search
for their key ends, or over another entry when it ends nowhere, and are never taken out one
by one, so a search that ends at an empty slot has seen every entry with its key.
-/

namespace Probing

variable {ε κ : Type*} (key : ε → κ) (home : κ → ℕ) (size : ℕ)

/-- The slot probed for `k` after `i` others. -/
def slot (k : κ) (i : ℕ) : ℕ := (home k + i) % size

variable {home size} in
/-- The slots probed for a key are all there are. -/
theorem exists_slot {idx : ℕ} (inside : idx < size) (k : κ) :
    ∃ j < size, slot home size k j = idx := by
  have positive : 0 < size := Nat.zero_lt_of_lt inside
  have start : home k % size < size := Nat.mod_lt _ positive
  refine ⟨(idx + (size - home k % size)) % size, Nat.mod_lt _ positive, ?_⟩
  calc
    slot home size k ((idx + (size - home k % size)) % size)
        = (home k % size + (idx + (size - home k % size))) % size := by
          rw [slot, Nat.add_mod_mod, Nat.mod_add_mod]
    _ = (idx + size) % size := by
          congr 1
          omega
    _ = idx := by rw [Nat.add_mod_right, Nat.mod_eq_of_lt inside]

/-- Where an entry is to be put: over the one with its key, in an empty slot, or over the
oldest of a full table. -/
inductive Place where
  | existing (idx : ℕ)
  | empty (idx : ℕ)
  | full (oldest : Option ℕ)
  deriving DecidableEq, Repr

/-- No entry has the key. -/
def Absent (slots : ℕ → Option ε) (k : κ) : Prop :=
  ∀ idx e, slots idx = some e → key e ≠ k

/-- The first `i` slots probed for a key hold entries with other keys. -/
def Passed (slots : ℕ → Option ε) (k : κ) (i : ℕ) : Prop :=
  ∀ j < i, ∃ e, slots (slot home size k j) = some e ∧ key e ≠ k

/-- **The three ways the search for a place ends.** -/
def Ends (slots : ℕ → Option ε) (k : κ) : Place → Prop
  | .existing idx => ∃ e, slots idx = some e ∧ key e = k
  | .empty idx => slots idx = none ∧
      ∃ j < size, slot home size k j = idx ∧ Passed key home size slots k j
  | .full oldest => Passed key home size slots k size ∧
      ∀ o ∈ oldest, ∃ j < size, o = slot home size k j

/-- **A sound table**: the search for an entry's key passes only full slots on its way to the
entry, and no key has two entries. -/
structure Sound (slots : ℕ → Option ε) : Prop where
  reached : ∀ idx e, slots idx = some e →
    ∃ i < size, slot home size (key e) i = idx ∧ ∀ j < i, slots (slot home size (key e) j) ≠ none
  distinct : ∀ idx idx' e e', slots idx = some e → slots idx' = some e' → key e = key e' →
    idx = idx'

/-- A slot an entry with the key can be put in. -/
structure Fits (slots : ℕ → Option ε) (k : κ) (idx : ℕ) : Prop where
  alone : ∀ idx' e, slots idx' = some e → key e = k → idx' = idx
  reached : ∃ i < size, slot home size k i = idx ∧ ∀ j < i, slots (slot home size k j) ≠ none

variable {key home size} {slots : ℕ → Option ε} {k : κ} {n : ℕ} {e : ε}

theorem Passed.ne_none {i j : ℕ} (passed : Passed key home size slots k i) (before : j < i) :
    slots (slot home size k j) ≠ none := by
  obtain ⟨e, there, -⟩ := passed j before
  rw [there]
  exact Option.some_ne_none e

theorem Passed.succ {i : ℕ} (passed : Passed key home size slots k i)
    (there : slots (slot home size k i) = some e) (other : key e ≠ k) :
    Passed key home size slots k (i + 1) := by
  intro j before
  rcases Nat.lt_succ_iff_lt_or_eq.mp before with earlier | rfl
  · exact passed j earlier
  · exact ⟨e, there, other⟩

/-! ### The oldest entry -/

variable {oldest : Option ℕ}

section Oldest

variable {α : Type*} [LinearOrder α] (age : ε → α) (never : α)

/-- **The entry that makes room**: it is as old as any of the first `n` slots probed for the key,
and the first of those that are. -/
def Oldest (home : κ → ℕ) (size : ℕ) (slots : ℕ → Option ε) (k : κ) (n idx : ℕ) : Prop :=
  ∃ j < n, slot home size k j = idx ∧ ∃ e, slots idx = some e ∧ age e < never ∧
    ∀ i < n, ∀ e', slots (slot home size k i) = some e' →
      age e ≤ age e' ∧ (i < j → age e < age e')

variable {age never}

/-- No two entries are the oldest. -/
theorem Oldest.unique {idx idx' : ℕ} (old : Oldest age never home size slots k n idx)
    (old' : Oldest age never home size slots k n idx') : idx = idx' := by
  obtain ⟨j, inside, rfl, e, there, -, first⟩ := old
  obtain ⟨j', inside', rfl, e', there', -, first'⟩ := old'
  have further := first j' inside' e' there'
  have further' := first' j inside e there
  rcases Nat.lt_trichotomy j j' with before | rfl | after
  · exact absurd (further'.2 before) (not_lt.mpr further.1)
  · rfl
  · exact absurd (further.2 after) (not_lt.mpr further'.1)

/-- What the search for a place knows of the first `n` slots: none is older than `time`, which
is the age of the oldest entry if there is one. -/
structure Remembers (age : ε → α) (never : α) (home : κ → ℕ) (size : ℕ) (slots : ℕ → Option ε)
    (k : κ) (n : ℕ) (oldest : Option ℕ) (time : α) : Prop where
  floor : ∀ i < n, ∀ e, slots (slot home size k i) = some e → time ≤ age e
  unset : oldest = none → time = never
  first : ∀ idx ∈ oldest, ∃ j < n, slot home size k j = idx ∧
    (∃ e, slots idx = some e ∧ age e = time) ∧ time < never ∧
    ∀ i < j, ∀ e, slots (slot home size k i) = some e → time < age e

theorem remembers_zero : Remembers age never home size slots k 0 none never :=
  ⟨fun i before => absurd before (Nat.not_lt_zero i), fun _ => rfl, nofun⟩

variable {time : α}

variable (known : Remembers age never home size slots k n oldest time)
include known

theorem Remembers.le_never : time ≤ never := by
  cases oldest with
  | none => exact (known.unset rfl).le
  | some idx =>
    obtain ⟨-, -, -, -, below, -⟩ := known.first idx rfl
    exact below.le

/-- An entry older than all before it is remembered in their place. -/
theorem Remembers.older
    (there : slots (slot home size k n) = some e) (older : age e < time) :
    Remembers age never home size slots k (n + 1) (some (slot home size k n)) (age e) := by
  have later (i : ℕ) (before : i < n) (e' : ε) (there' : slots (slot home size k i) = some e') :
      age e < age e' :=
    older.trans_le (known.floor i before e' there')
  refine ⟨fun i before e' there' => ?_, nofun, fun idx mem => ?_⟩
  · rcases Nat.lt_succ_iff_lt_or_eq.mp before with earlier | rfl
    · exact (later i earlier e' there').le
    · rw [there] at there'
      exact (congrArg age (Option.some.inj there')).le
  · cases mem
    exact ⟨n, Nat.lt_succ_self n, rfl, ⟨e, there, rfl⟩, older.trans_le known.le_never, later⟩

/-- Any other entry changes nothing. -/
theorem Remembers.newer
    (there : slots (slot home size k n) = some e) (newer : ¬ age e < time) :
    Remembers age never home size slots k (n + 1) oldest time := by
  refine ⟨fun i before e' there' => ?_, known.unset, fun idx mem => ?_⟩
  · rcases Nat.lt_succ_iff_lt_or_eq.mp before with earlier | rfl
    · exact known.floor i earlier e' there'
    · rw [there] at there'
      rw [← Option.some.inj there']
      exact not_lt.mp newer
  · obtain ⟨j, before, rest⟩ := known.first idx mem
    exact ⟨j, Nat.lt_succ_of_lt before, rest⟩

/-- **What is remembered is the oldest entry.** -/
theorem Remembers.oldest_iff (idx : ℕ) :
    Oldest age never home size slots k n idx ↔ oldest = some idx := by
  have right (idx : ℕ) (mem : oldest = some idx) : Oldest age never home size slots k n idx := by
    obtain ⟨j, inside, here, ⟨e, there, rfl⟩, below, later⟩ := known.first idx mem
    exact ⟨j, inside, here, e, there, below, fun i before e' there' =>
      ⟨known.floor i before e' there', fun earlier => later i earlier e' there'⟩⟩
  constructor
  · intro old
    cases found : oldest with
    | none =>
      obtain ⟨j, inside, rfl, e, there, below, -⟩ := old
      have above := known.floor j inside e there
      rw [known.unset found] at above
      exact absurd below (not_lt.mpr above)
    | some idx' => rw [old.unique (right idx' found)]
  · exact right idx

end Oldest

/-! ### Sound tables -/

theorem sound_empty : Sound key home size (fun _ => none) where
  reached _ _ there := by cases there
  distinct _ _ _ _ there := by cases there

/-- A search that ended at an empty slot has seen every entry with its key. -/
theorem Sound.absent_of_empty (sound : Sound key home size slots) {j : ℕ}
    (hole : slots (slot home size k j) = none) (passed : Passed key home size slots k j) :
    Absent key slots k := by
  rintro idx e there rfl
  obtain ⟨i, -, here, before⟩ := sound.reached idx e there
  rcases Nat.lt_trichotomy i j with earlier | rfl | later
  · obtain ⟨e', there', other⟩ := passed i earlier
    rw [here, there] at there'
    cases there'
    exact other rfl
  · rw [here, there] at hole
    cases hole
  · exact before j later hole

/-- So has one that went all the way around. -/
theorem Sound.absent_of_passed (sound : Sound key home size slots)
    (passed : Passed key home size slots k size) : Absent key slots k := by
  rintro idx e there rfl
  obtain ⟨i, inside, here, -⟩ := sound.reached idx e there
  obtain ⟨e', there', other⟩ := passed i inside
  rw [here, there] at there'
  cases there'
  exact other rfl

theorem update_eq_some_iff {idx idx' : ℕ} {e' : ε} :
    Function.update slots idx (some e) idx' = some e' ↔
      idx' = idx ∧ e' = e ∨ idx' ≠ idx ∧ slots idx' = some e' := by
  by_cases here : idx' = idx
  · subst here
    simp [eq_comm]
  · simp [here]

/-- **An entry that is put where it fits** leaves a sound table. -/
theorem Sound.put (sound : Sound key home size slots) {idx : ℕ}
    (fits : Fits key home size slots (key e) idx) :
    Sound key home size (Function.update slots idx (some e)) := by
  have filled (idx' : ℕ) (full : slots idx' ≠ none) :
      Function.update slots idx (some e) idx' ≠ none := by
    by_cases here : idx' = idx
    · simp [here]
    · rw [Function.update_of_ne here]
      exact full
  constructor
  · intro idx' e' there
    rcases update_eq_some_iff.mp there with ⟨rfl, rfl⟩ | ⟨-, there⟩
    · obtain ⟨i, inside, here, before⟩ := fits.reached
      exact ⟨i, inside, here, fun j earlier => filled _ (before j earlier)⟩
    · obtain ⟨i, inside, here, before⟩ := sound.reached idx' e' there
      exact ⟨i, inside, here, fun j earlier => filled _ (before j earlier)⟩
  · intro idx₁ idx₂ e₁ e₂ there₁ there₂ same
    rcases update_eq_some_iff.mp there₁ with ⟨here₁, rfl⟩ | ⟨other₁, old₁⟩
    · rcases update_eq_some_iff.mp there₂ with ⟨here₂, -⟩ | ⟨other₂, old₂⟩
      · rw [here₁, here₂]
      · exact absurd (fits.alone idx₂ e₂ old₂ same.symm) other₂
    · rcases update_eq_some_iff.mp there₂ with ⟨-, rfl⟩ | ⟨-, old₂⟩
      · exact absurd (fits.alone idx₁ e₁ old₁ same) other₁
      · exact sound.distinct idx₁ idx₂ e₁ e₂ old₁ old₂ same

/-! ### Searching a table -/

variable [DecidableEq κ]

variable (key home size) in
/-- **Search for a key**, with `n` slots left after the `i` seen. -/
def find (slots : ℕ → Option ε) (k : κ) : (n i : ℕ) → Option ℕ
  | 0, _ => none
  | n + 1, i =>
    match slots (slot home size k i) with
    | none => none
    | some e => if key e = k then some (slot home size k i) else find slots k n (i + 1)

variable {τ : Type*} [LT τ] [DecidableLT τ] (age : ε → τ)

variable (key home size) in
/-- The search for a place, with the oldest entry seen so far and its age. -/
def scan (slots : ℕ → Option ε) (k : κ) : (n i : ℕ) → Option ℕ → τ → Place
  | 0, _, oldest, _ => .full oldest
  | n + 1, i, oldest, time =>
    match slots (slot home size k i) with
    | none => .empty (slot home size k i)
    | some e =>
      if key e = k then .existing (slot home size k i)
      else if age e < time then scan slots k n (i + 1) (some (slot home size k i)) (age e)
      else scan slots k n (i + 1) oldest time

variable (key home size) in
/-- **The place for a key**; `never` is the age of no entry. -/
def place (never : τ) (slots : ℕ → Option ε) (k : κ) : Place :=
  scan key home size age slots k size 0 none never

/-- What is found is an entry with the key. -/
theorem find_eq_some {i idx : ℕ} (found : find key home size slots k n i = some idx) :
    ∃ e, slots idx = some e ∧ key e = k := by
  induction n generalizing i with
  | zero => cases found
  | succ n ih =>
    unfold find at found
    split at found
    · cases found
    next e there =>
      split at found
      next same =>
        cases found
        exact ⟨e, there, same⟩
      · exact ih found

/-- **Every entry is found.** -/
theorem Sound.find_eq_some_iff (sound : Sound key home size slots) {idx : ℕ} :
    find key home size slots k size 0 = some idx ↔ ∃ e, slots idx = some e ∧ key e = k := by
  refine ⟨find_eq_some, ?_⟩
  rintro ⟨e, there, rfl⟩
  obtain ⟨i, inside, here, before⟩ := sound.reached idx e there
  -- The search passes full slots up to the entry, and stops at no other.
  have search (n j : ℕ) (upTo : j ≤ i) (left : i < j + n) :
      find key home size slots (key e) n j = some idx := by
    induction n generalizing j with
    | zero => omega
    | succ n ih =>
      unfold find
      cases seen : slots (slot home size (key e) j) with
      | none =>
        rcases Nat.lt_or_eq_of_le upTo with earlier | rfl
        · exact absurd seen (before j earlier)
        · rw [here, there] at seen
          cases seen
      | some e' =>
        dsimp only
        by_cases same : key e' = key e
        · rw [if_pos same, sound.distinct _ idx e' e seen there same]
        · rw [if_neg same]
          have further : j ≠ i := by
            rintro rfl
            rw [here, there] at seen
            exact same (congrArg key (Option.some.inj seen)).symm
          exact ih (j + 1) (by omega) (by omega)
  exact search size 0 (Nat.zero_le i) (by omega)

theorem scan_ends {i : ℕ} (rest : n + i = size) (passed : Passed key home size slots k i)
    (time : τ) (seen : ∀ o ∈ oldest, ∃ j < i, o = slot home size k j) :
    Ends key home size slots k (scan key home size age slots k n i oldest time) := by
  induction n generalizing i oldest time with
  | zero =>
    have whole : i = size := by omega
    subst whole
    exact ⟨passed, seen⟩
  | succ n ih =>
    unfold scan
    cases there : slots (slot home size k i) with
    | none => exact ⟨there, i, by omega, rfl, passed⟩
    | some e =>
      dsimp only
      by_cases same : key e = k
      · rw [if_pos same]
        exact ⟨e, there, same⟩
      · rw [if_neg same]
        have further := passed.succ there same
        by_cases older : age e < time
        · rw [if_pos older]
          refine ih (by omega) further (age e) fun o mem => ?_
          cases mem
          exact ⟨i, by omega, rfl⟩
        · rw [if_neg older]
          refine ih (by omega) further time fun o mem => ?_
          obtain ⟨j, before, same⟩ := seen o mem
          exact ⟨j, by omega, same⟩

variable (key home size) in
theorem place_ends (never : τ) (slots : ℕ → Option ε) (k : κ) :
    Ends key home size slots k (place key home size age never slots k) :=
  scan_ends age (Nat.add_zero size) (fun j before => absurd before (Nat.not_lt_zero j)) never nofun

/-- A key whose home is free is put there. -/
theorem place_of_home {never : τ} (positive : 0 < size)
    (hole : slots (slot home size k 0) = none) :
    place key home size age never slots k = .empty (slot home size k 0) := by
  obtain ⟨n, rfl⟩ : ∃ n, size = n + 1 := ⟨size - 1, by omega⟩
  rw [place, scan, hole]

variable {found : Option ℕ}

/-- A table is called full only if all of its slots are taken. -/
theorem ne_none_of_place {never : τ} (full : place key home size age never slots k = .full found)
    {idx : ℕ} (inside : idx < size) :
    slots idx ≠ none := by
  have ends := place_ends key home size age never slots k
  rw [full] at ends
  obtain ⟨j, before, here⟩ := exists_slot inside k
  rw [← here]
  exact ends.1.ne_none before

/-- **The place for a key fits**, and holds no entry of another key unless the table is
full. -/
theorem Sound.fits_of_place (sound : Sound key home size slots) {never : τ} {p : Place}
    (placed : place key home size age never slots k = p) :
    match p with
    | .existing idx => Fits key home size slots k idx ∧ ∃ e, slots idx = some e ∧ key e = k
    | .empty idx => Fits key home size slots k idx ∧ slots idx = none
    | .full oldest => Absent key slots k ∧ ∀ o ∈ oldest, Fits key home size slots k o := by
  have ends := place_ends key home size age never slots k
  rw [placed] at ends
  cases p with
  | existing idx =>
    obtain ⟨e, there, rfl⟩ := ends
    exact ⟨⟨fun idx' e' there' same => sound.distinct idx' idx e' e there' there same,
      sound.reached idx e there⟩, e, there, rfl⟩
  | empty idx =>
    obtain ⟨hole, j, inside, rfl, passed⟩ := ends
    have absent := sound.absent_of_empty hole passed
    exact ⟨⟨fun idx' e there same => absurd same (absent idx' e there), j, inside, rfl,
      fun _ before => passed.ne_none before⟩, hole⟩
  | full oldest =>
    obtain ⟨passed, seen⟩ := ends
    have absent := sound.absent_of_passed passed
    refine ⟨absent, fun o mem => ?_⟩
    obtain ⟨j, inside, rfl⟩ := seen o mem
    exact ⟨fun idx' e there same => absurd same (absent idx' e there), j, inside, rfl,
      fun i before => passed.ne_none (before.trans inside)⟩

section Oldest

variable {α : Type*} [LinearOrder α] {age : ε → α} {never time : α}

/-- **A full table's entry that makes room is the oldest.** -/
theorem oldest_iff_of_scan {i : ℕ} (rest : n + i = size)
    (known : Remembers age never home size slots k i oldest time)
    (ended : scan key home size age slots k n i oldest time = .full found) (idx : ℕ) :
    Oldest age never home size slots k size idx ↔ found = some idx := by
  induction n generalizing i oldest time with
  | zero =>
    cases ended
    have whole : i = size := by omega
    subst whole
    exact known.oldest_iff idx
  | succ n ih =>
    unfold scan at ended
    cases there : slots (slot home size k i) with
    | none =>
      rw [there] at ended
      cases ended
    | some e =>
      rw [there] at ended
      dsimp only at ended
      split at ended
      · cases ended
      split at ended
      next older => exact ih (by omega) (known.older there older) ended
      next newer => exact ih (by omega) (known.newer there newer) ended

theorem oldest_iff_of_place (full : place key home size age never slots k = .full found) (idx : ℕ) :
    Oldest age never home size slots k size idx ↔ found = some idx :=
  oldest_iff_of_scan (Nat.add_zero size) remembers_zero full idx

end Oldest

end Probing
