import Mathlib.Logic.Function.Basic

/-!
# A cache that is kept for one key at a time

Values computed from a state that moves on — a row, a frame, a generation — may be kept as
long as the state stands where it stood.  Such a cache has one key for all of its entries:
asked under another key it finds nothing, and storing under another key drops what it held.

The key says *where* the state stood, not *which* state it was.  So what is found under a key is
right only if the entries are `Sound`: made from the state that stands there now.
-/

/-- **A cache for one key at a time.** -/
structure Keyed (κ ι α : Type*) where
  key : κ
  entries : ι → Option α

namespace Keyed

variable {κ ι α : Type*}

/-- Nothing is kept. -/
def empty (k : κ) : Keyed κ ι α := ⟨k, fun _ => none⟩

/-- **Every entry is a value of `spec`**, whatever the key. -/
def Holds (spec : ι → Option α) (c : Keyed κ ι α) : Prop :=
  ∀ i a, c.entries i = some a → spec i = some a

/-- **What is kept under `k` is a value of `spec`.** -/
def Sound (spec : ι → Option α) (k : κ) (c : Keyed κ ι α) : Prop := c.key = k → c.Holds spec

theorem holds_empty (spec : ι → Option α) (k : κ) : (empty k : Keyed κ ι α).Holds spec := by
  intro i a kept
  cases kept

variable {spec : ι → Option α} {c : Keyed κ ι α}

theorem Holds.sound (holds : c.Holds spec) (k : κ) :
    c.Sound spec k :=
  fun _ => holds

variable {k : κ}

variable [DecidableEq κ]

/-- What is kept for an index under a key. -/
def find (c : Keyed κ ι α) (k : κ) (i : ι) : Option α :=
  if c.key = k then c.entries i else none

/-- The cache is turned to a key: what it held for another is dropped. -/
def turn (c : Keyed κ ι α) (k : κ) : Keyed κ ι α := if c.key = k then c else empty k

@[simp] theorem turn_key (c : Keyed κ ι α) (k : κ) : (c.turn k).key = k := by
  unfold turn
  split
  · assumption
  · rfl

/-- **What is found is what the specification says.** -/
theorem Sound.find (sound : c.Sound spec k) {i : ι} {a : α} (found : c.find k i = some a) :
    spec i = some a := by
  unfold Keyed.find at found
  split at found
  next same => exact sound same i a found
  · cases found

theorem Sound.turn (sound : c.Sound spec k) :
    (c.turn k).Holds spec := by
  unfold Keyed.turn
  split
  next same => exact sound same
  · exact holds_empty spec k

variable [DecidableEq ι]

/-- Keep a value under a key. -/
def put (c : Keyed κ ι α) (k : κ) (i : ι) (a : α) : Keyed κ ι α :=
  ⟨k, Function.update (c.turn k).entries i (some a)⟩

/-- **Keeping a value of the specification keeps every entry one.** -/
theorem Sound.put (sound : c.Sound spec k) {i : ι} {a : α} (right : spec i = some a) :
    (c.put k i a).Holds spec := by
  intro j b kept
  by_cases same : j = i
  · subst same
    simp only [Keyed.put, Function.update_self] at kept
    rwa [← kept]
  · simp only [Keyed.put, Function.update_of_ne same] at kept
    exact sound.turn j b kept

end Keyed
