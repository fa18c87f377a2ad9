import Mathlib.Data.List.Count
import PlexPostgres.Cache.QueryCache
import PlexPostgres.Library.Runs

/-!
# What holds of the query cache after any calls

One thread's cache is watched over any lookups, stores, invalidations and releases, at any times
and with any allocations failing.  With it goes what the cache does not keep: when the entry of a
slot was last stored, unless it was invalidated since.

Two things hold after any calls: no key has two active entries, and what a reader sees of an
entry that is referenced does not change.  Two hold only of runs with a condition.  A lookup that
finds its entry expired and frees it leaves it counted, and an invalidation that has to leave an
entry in place makes it look as old as the clock: which is not old in the clock's first second.
-/

namespace PlexPostgres.Cache

/-! ### Calls -/

/-- **A call on a thread's cache.**  The pointer given back may be any. -/
inductive Call where
  | lookup (cacheKey now : UInt64)
  | store (g : Given) (env : StoreEnv)
  | invalidate (cacheKey : UInt64)
  | release (ptr : Option ℕ)

/-- **The cache, watched**: when the entry of a slot was stored, unless it was invalidated
since. -/
structure Watched where
  cache : QueryCache
  stored : ℕ → Option UInt64

/-- Before any call. -/
def Watched.new : Watched := ⟨.new, fun _ => none⟩

namespace QueryCache

variable (cfg : Config) (c : QueryCache)

/-- What a call answers, and the cache after it. -/
def serve : Call → Option ℕ × QueryCache
  | .lookup cacheKey now => c.lookup cfg cacheKey now
  | .store g env => c.store cfg g env
  | .invalidate cacheKey => c.invalidate cfg cacheKey
  | .release ptr => (none, c.release cfg ptr)

end QueryCache

/-- What is noted of a call. -/
def noted (stored : ℕ → Option UInt64) (answer : Option ℕ) : Call → ℕ → Option UInt64
  | .store _ env => answer.elim stored fun i => Function.update stored i (some env.created)
  | .invalidate _ => answer.elim stored fun i => Function.update stored i none
  | _ => stored

/-- The cache as watched, over a call. -/
def Watched.next (cfg : QueryCache.Config) (w : Watched) (call : Call) : Watched where
  cache := (w.cache.serve cfg call).2
  stored := noted w.stored (w.cache.serve cfg call).1 call

variable {now : UInt64} {call : Call} {answer : Option ℕ} {c' : QueryCache}

namespace QueryCache

/-! ### One slot is written -/

section Set

variable {c : QueryCache} {i j : ℕ} {e old : CachedResult}

theorem get_set_self (there : c.entries[i]? = some old) : (c.set i e).entries[i]? = some e := by
  rw [set, List.getElem?_set_self (List.getElem?_eq_some_iff.mp there).1]

theorem get_set_of_ne (other : j ≠ i) : (c.set i e).entries[j]? = c.entries[j]? := by
  rw [set, List.getElem?_set_ne (Ne.symm other)]

theorem set_same (there : c.entries[i]? = some e) : c.set i e = c := by
  obtain ⟨entries, size, count⟩ := c
  obtain ⟨inside, here⟩ := List.getElem?_eq_some_iff.mp there
  subst here
  simp [set]

end Set

/-- **How many entries are active.** -/
def active (c : QueryCache) : ℕ := c.entries.countP CachedResult.isActive

theorem active_le (c : QueryCache) : c.active ≤ 64 := by
  have most := List.countP_le_length (p := CachedResult.isActive) (l := c.entries)
  rw [c.size] at most
  exact most

theorem active_set {c : QueryCache} {i : ℕ} {e old : CachedResult}
    (there : c.entries[i]? = some old) :
    (c.set i e).active + (if old.isActive then 1 else 0) =
      c.active + (if e.isActive then 1 else 0) := by
  obtain ⟨inside, rfl⟩ := List.getElem?_eq_some_iff.mp there
  have least : (if c.entries[i].isActive then 1 else 0) ≤ c.active := by
    split
    next on => exact List.one_le_countP_iff.mpr ⟨_, List.getElem_mem inside, on⟩
    · exact Nat.zero_le _
  have counted : (c.set i e).active = c.active - (if c.entries[i].isActive then 1 else 0) +
      (if e.isActive then 1 else 0) := List.countP_set inside
  omega

/-! ### What a call does -/

/-- The entry with a key that is no free slot's. -/
structure Finds (entries : List CachedResult) (cacheKey : UInt64) (i : ℕ) (e : CachedResult) :
    Prop where
  there : entries[i]? = some e
  same : e.cacheKey = cacheKey
  nonzero : cacheKey ≠ 0

theorem Finds.isActive {c : QueryCache} {cacheKey : UInt64} {i : ℕ} {e : CachedResult}
    (found : Finds c.entries cacheKey i e) : e.isActive = true := by
  rw [CachedResult.isActive, found.same]
  exact decide_eq_true found.nonzero

theorem finds_of_find {c : QueryCache} {cacheKey : UInt64} {i : ℕ} {e : CachedResult}
    (found : c.find cacheKey = some (i, e)) (nonzero : cacheKey ≠ 0) :
    Finds c.entries cacheKey i e := by
  simp only [find, bind, Option.bind_eq_some_iff, pure, Option.some.injEq, Prod.mk.injEq] at found
  obtain ⟨i', first, e', there, rfl, rfl⟩ := found
  obtain ⟨inside, same, -⟩ := List.findIdx?_eq_some_iff_getElem.mp first
  obtain ⟨_, here⟩ := List.getElem?_eq_some_iff.mp there
  rw [here] at same
  exact ⟨there, of_decide_eq_true same, nonzero⟩

theorem not_finds_of_find {c : QueryCache} {cacheKey : UInt64} (missing : c.find cacheKey = none)
    (i : ℕ) (e : CachedResult) : ¬ Finds c.entries cacheKey i e := by
  intro found
  cases first : c.entries.findIdx? (·.cacheKey = cacheKey) with
  | none =>
    have other := List.findIdx?_eq_none_iff.mp first e (List.mem_of_getElem? found.there)
    rw [found.same, decide_eq_true rfl] at other
    cases other
  | some j =>
    obtain ⟨inside, -⟩ := List.findIdx?_eq_some_iff_getElem.mp first
    simp only [find, first, bind, Option.bind_some, List.getElem?_eq_getElem inside] at missing
    cases missing

theorem freeData_of_referenced {e : CachedResult} (referenced : e.isReferenced = true) :
    e.freeData = (false, e) := by
  unfold CachedResult.freeData
  split
  · rfl
  · rfl

theorem freeData_of_not_referenced {e : CachedResult} (on : e.isActive = true)
    (free : ¬ e.isReferenced = true) :
    e.freeData = (true, { e with cacheKey := 0, content := .empty }) := by
  rw [CachedResult.freeData, if_neg (not_not.mpr on), if_neg free]

/-- The count after a slot was freed for another entry. -/
def countWithout (c : QueryCache) (e : CachedResult) : ℤ :=
  if e.isActive then max (c.count - 1) (-2 ^ 31) else c.count

/-- **What a call does**: to one slot at most. -/
inductive Does (cfg : Config) (c : QueryCache) : Call → Option ℕ → QueryCache → Prop where
  /-- There is no such entry, or the cache is off. -/
  | missed {cacheKey now} (missing : cfg.enabled = true → ∀ i e, ¬ Finds c.entries cacheKey i e) :
      Does cfg c (.lookup cacheKey now) none c
  | hit {cacheKey now i e} (on : cfg.enabled = true) (found : Finds c.entries cacheKey i e)
      (fresh : e.isFresh now = true) :
      Does cfg c (.lookup cacheKey now) (some i)
        (c.set i { e with refCount := i32 (e.refCount + 1) })
  /-- It is expired, and referenced. -/
  | kept {cacheKey now i e} (found : Finds c.entries cacheKey i e) (late : ¬ e.isFresh now = true)
      (referenced : e.isReferenced = true) : Does cfg c (.lookup cacheKey now) none c
  /-- It is expired, and freed. -/
  | expired {cacheKey now i e} (on : cfg.enabled = true) (found : Finds c.entries cacheKey i e)
      (late : ¬ e.isFresh now = true) (free : ¬ e.isReferenced = true) :
      Does cfg c (.lookup cacheKey now) none
        (c.set i { e with cacheKey := 0, content := .empty })
  | passed {g env} : Does cfg c (.store g env) none c
  | stored {g env i e e'} (there : c.entries[i]? = some e) (nonzero : g.cacheKey ≠ 0)
      (free : e.isActive = true → ¬ e.isReferenced = true)
      (alone : e.cacheKey = g.cacheKey ∨ ∀ j e, ¬ Finds c.entries g.cacheKey j e)
      (key : e'.cacheKey = g.cacheKey)
      (created : e'.createdMs = env.created) :
      Does cfg c (.store g env) (some i)
        { c.set i e' with count := i32 (c.countWithout e + 1) }
  /-- A store that failed leaves a free slot. -/
  | spoiled {g env i e e'} (there : c.entries[i]? = some e)
      (free : e.isActive = true → ¬ e.isReferenced = true) (off : e'.isActive = false) :
      Does cfg c (.store g env) none { c.set i e' with count := c.countWithout e }
  | absent {cacheKey} : Does cfg c (.invalidate cacheKey) none c
  | freed {cacheKey i e} (found : Finds c.entries cacheKey i e) (free : ¬ e.isReferenced = true) :
      Does cfg c (.invalidate cacheKey) (some i)
        { c.set i { e with cacheKey := 0, content := .empty } with count := c.countWithout e }
  | marked {cacheKey i e} (found : Finds c.entries cacheKey i e)
    (referenced : e.isReferenced = true) :
      Does cfg c (.invalidate cacheKey) (some i) (c.set i { e with createdMs := 0 })
  | ignored {ptr} : Does cfg c (.release ptr) none c
  | released {i e} (there : c.entries[i]? = some e) :
      Does cfg c (.release (some i)) none (c.set i { e with refCount := i32 (e.refCount - 1) })

variable {cfg : Config} {c : QueryCache} {cacheKey : UInt64} {i j : ℕ} {e e' old : CachedResult}

theorem does_lookup (cacheKey now : UInt64) :
    Does cfg c (.lookup cacheKey now) (c.lookup cfg cacheKey now).1
      (c.lookup cfg cacheKey now).2 := by
  unfold lookup
  split
  next off =>
    refine .missed fun on i e found => ?_
    rcases off with off | zero
    · exact off on
    · exact found.nonzero zero
  next on =>
    obtain ⟨enabled, nonzero⟩ := not_or.mp on
    split
    next missing => exact .missed fun _ => not_finds_of_find missing
    next i e search =>
      have found := finds_of_find search nonzero
      split
      next fresh => exact .hit (not_not.mp enabled) found fresh
      next late =>
        by_cases referenced : e.isReferenced = true
        · rw [freeData_of_referenced referenced, set_same found.there]
          exact .kept found late referenced
        · rw [freeData_of_not_referenced found.isActive referenced]
          exact .expired (not_not.mp enabled) found late referenced

theorem does_invalidate (cacheKey : UInt64) :
    Does cfg c (.invalidate cacheKey) (c.invalidate cfg cacheKey).1
      (c.invalidate cfg cacheKey).2 := by
  unfold invalidate
  split
  · exact .absent
  next on =>
    obtain ⟨-, nonzero⟩ := not_or.mp on
    split
    · exact .absent
    next i e search =>
      have found := finds_of_find search nonzero
      by_cases referenced : e.isReferenced = true
      · rw [freeData_of_referenced referenced, CachedResult.markExpired, if_pos found.isActive]
        exact .marked found referenced
      · rw [freeData_of_not_referenced found.isActive referenced]
        have freed : Does cfg c (.invalidate cacheKey) (some i) _ := .freed found referenced
        rw [countWithout, if_pos found.isActive] at freed
        exact freed

theorem does_release (ptr : Option ℕ) :
    Does cfg c (.release ptr) none (c.release cfg ptr) := by
  unfold release
  split
  · exact .ignored
  split
  · exact .ignored
  split
  · exact .ignored
  next there => exact .released there

/-! ### Where a result is stored -/

/-- A slot that may be filled. -/
def Takes (entries : List CachedResult) (i : ℕ) : Prop :=
  ∃ e, entries[i]? = some e ∧ (e.isActive = true → ¬ e.isReferenced = true)

/-- Every slot seen may be filled. -/
def SeenTakes (entries : List CachedResult) (seen : Seen) : Prop :=
  ∀ i, seen.empty = some i ∨ seen.expired = some i ∨ seen.oldest = some i → Takes entries i

theorem eq_of_orElse {a b : Option ℕ} (h : (a <|> b) = some i) : a = some i ∨ b = some i := by
  cases a with
  | some _ => exact .inl h
  | none => exact .inr h

section Seen

variable {entries : List CachedResult} {seen : Seen}

variable (takes : SeenTakes entries seen)
include takes

/-- One slot more is seen. -/
theorem SeenTakes.more {seen' : Seen} (here : Takes entries i)
    (grown : ∀ k, seen'.empty = some k ∨ seen'.expired = some k ∨ seen'.oldest = some k →
      i = k ∨ seen.empty = some k ∨ seen.expired = some k ∨ seen.oldest = some k) :
    SeenTakes entries seen' := by
  intro k slot
  rcases grown k slot with rfl | old
  · exact here
  · exact takes k old

/-- The slot chosen is one of those seen. -/
theorem SeenTakes.chosen
    (chosen : (seen.empty <|> seen.expired <|> seen.oldest) = some i) : Takes entries i := by
  exact takes i ((eq_of_orElse chosen).imp_right eq_of_orElse)

end Seen

/-- **The slot found** may be filled; and it has the key, or no slot has. -/
theorem findSlot_spec {entries before rest : List CachedResult} {seen : Seen}
    (parts : entries = before ++ rest) (others : ∀ e ∈ before, e.cacheKey ≠ cacheKey)
    (takes : SeenTakes entries seen)
    (found : findSlot cacheKey now rest before.length seen = some i) :
    Takes entries i ∧ ((∃ e, entries[i]? = some e ∧ e.cacheKey = cacheKey) ∨
      ∀ e ∈ entries, e.cacheKey ≠ cacheKey) := by
  induction rest generalizing before seen with
  | nil =>
    rw [List.append_nil] at parts
    subst parts
    exact ⟨takes.chosen found, .inr others⟩
  | cons e rest ih =>
    have here : entries[before.length]? = some e := by
      rw [parts, List.getElem?_append_right (Nat.le_refl _), Nat.sub_self]
      rfl
    -- The rest is searched knowing at most this slot more.
    have onward {seen' : Seen} (other : e.cacheKey ≠ cacheKey) (takes' : SeenTakes entries seen')
        (found : findSlot cacheKey now rest (before.length + 1) seen' = some i) := by
      have longer : (before ++ [e]).length = before.length + 1 := by simp
      rw [← longer] at found
      exact ih (by rw [parts, List.append_assoc]; rfl)
        (List.forall_mem_append.mpr ⟨others, List.forall_mem_singleton.mpr other⟩) takes' found
    unfold findSlot at found
    split at found
    next same =>
      split at found
      · cases found
      next free =>
        cases found
        exact ⟨⟨e, here, fun _ => free⟩, .inl ⟨e, here, same⟩⟩
    next other =>
      split at found
      next off =>
        have free : Takes entries before.length := ⟨e, here, fun on => absurd on off⟩
        refine onward other (takes.more free ?_) found
        rintro k (empty | others)
        · exact (eq_of_orElse empty).symm.imp Option.some.inj .inl
        · exact .inr (.inr others)
      · split at found
        next late =>
          simp only [Bool.and_eq_true, decide_eq_true_eq] at late
          refine onward other (takes.more ⟨e, here, fun _ => late.2⟩ ?_) found
          rintro k (empty | expired | oldest)
          · exact .inr (.inl empty)
          · exact (eq_of_orElse expired).symm.imp Option.some.inj (.inr ∘ .inl)
          · exact .inr (.inr (.inr oldest))
        · split at found
          next older =>
            simp only [Bool.and_eq_true, decide_eq_true_eq] at older
            exact onward other (takes.more ⟨e, here, fun _ => older.1⟩ (by grind)) found
          · exact onward other takes found

theorem isActive_cleanupPartial : e.cleanupPartial.isActive = false := by
  unfold CachedResult.cleanupPartial
  by_cases on : ({ e with refCount := 0 } : CachedResult).isActive = true
  · rw [freeData_of_not_referenced on (by simp [CachedResult.isReferenced])]
    rfl
  · rw [CachedResult.freeData, if_pos on]
    exact Bool.eq_false_iff.mpr on

/-- An entry that is filled has the key and the time; one that is not is free. -/
theorem fill_spec (off : e.isActive = false) (g : Given) (env : StoreEnv) :
    ((g.fill env e).1 = true → (g.fill env e).2.cacheKey = g.cacheKey ∧
        (g.fill env e).2.createdMs = env.created) ∧
      ((g.fill env e).1 = false → (g.fill env e).2.isActive = false) := by
  unfold Given.fill
  split
  · exact ⟨nofun, fun _ => off⟩
  · dsimp only
    split
    · exact ⟨nofun, fun _ => isActive_cleanupPartial⟩
    split
    · exact ⟨nofun, fun _ => isActive_cleanupPartial⟩
    split
    · exact ⟨nofun, fun _ => isActive_cleanupPartial⟩
    · exact ⟨fun _ => ⟨rfl, rfl⟩, nofun⟩

/-- **A free slot is filled**, or the attempt leaves it free. -/
theorem does_fillSlot {g : Given} {env : StoreEnv} {e₀ : CachedResult} {c₀ : QueryCache}
    (there : c.entries[i]? = some e) (nonzero : g.cacheKey ≠ 0)
    (free : e.isActive = true → ¬ e.isReferenced = true)
    (alone : e.cacheKey = g.cacheKey ∨ ∀ j e, ¬ Finds c.entries g.cacheKey j e)
    (off : e₀.isActive = false)
    (cleared : ∀ e', c₀.set i e' = { c.set i e' with count := c.countWithout e }) :
    Does cfg c (.store g env) (c₀.fillSlot i e₀ g env).1 (c₀.fillSlot i e₀ g env).2 := by
  have count : c₀.count = c.countWithout e := congrArg QueryCache.count (cleared e)
  obtain ⟨full, spoiled⟩ := fill_spec off g env
  unfold fillSlot
  dsimp only
  split
  next filled =>
    rw [cleared, count]
    exact .stored there nonzero free alone (full filled).1 (full filled).2
  next failed =>
    rw [cleared]
    exact .spoiled there free (spoiled (Bool.eq_false_iff.mpr failed))

theorem does_store (g : Given) (env : StoreEnv) :
    Does cfg c (.store g env) (c.store cfg g env).1 (c.store cfg g env).2 := by
  unfold store
  split
  · exact .passed
  next on =>
    obtain ⟨-, nonzero, -⟩ := not_or.mp on |>.imp_right not_or.mp
    split
    · exact .passed
    split
    · exact .passed
    next i search =>
      have clean : ∀ e ∈ ([] : List CachedResult), e.cacheKey ≠ g.cacheKey := by simp
      obtain ⟨⟨e, there, free⟩, whose⟩ := findSlot_spec (List.nil_append c.entries).symm clean
        (by rintro k (h | h | h) <;> cases h) search
      have alone : e.cacheKey = g.cacheKey ∨ ∀ j e, ¬ Finds c.entries g.cacheKey j e := by
        rcases whose with ⟨e', there', same⟩ | nobody
        · rw [there] at there'
          cases there'
          exact .inl same
        · exact .inr fun j e' found => nobody e' (List.mem_of_getElem? found.there) found.same
      rw [there]
      dsimp only
      by_cases on : e.isActive = true
      · have freed := freeData_of_not_referenced on (free on)
        rw [if_pos on, freed, if_pos rfl]
        refine does_fillSlot there nonzero free alone rfl fun e' => ?_
        simp [set, uncount, countWithout, on]
      · rw [if_neg on]
        refine does_fillSlot there nonzero free alone (Bool.eq_false_iff.mpr on) fun e' => ?_
        simp [set, countWithout, on]

theorem does_serve (call : Call) : Does cfg c call (c.serve cfg call).1 (c.serve cfg call).2 := by
  cases call with
  | lookup cacheKey now => exact does_lookup cacheKey now
  | store g env => exact does_store g env
  | invalidate cacheKey => exact does_invalidate cacheKey
  | release ptr => exact does_release ptr

/-! ### The four properties -/

/-- **The recorded count is the number of active entries.** -/
def Counted (c : QueryCache) : Prop := c.count = c.active

/-- **At most one active entry has a given key.** -/
def Unique (entries : List CachedResult) : Prop :=
  ∀ cacheKey i j e e', Finds entries cacheKey i e → Finds entries cacheKey j e' → i = j

/-- **The content of a referenced entry has not changed.** -/
def Undisturbed (entries entries' : List CachedResult) : Prop :=
  ∀ (i : ℕ) (e : CachedResult), entries[i]? = some e → e.isActive = true →
    e.isReferenced = true →
    ∃ e', entries'[i]? = some e' ∧ e'.cacheKey = e.cacheKey ∧ e'.content = e.content

theorem get_set_cases (there : c.entries[i]? = some old) (got : (c.set i e).entries[j]? = some e') :
    j = i ∧ e' = e ∨ j ≠ i ∧ c.entries[j]? = some e' := by
  by_cases here : j = i
  · subst here
    rw [get_set_self there] at got
    exact .inl ⟨rfl, (Option.some.inj got).symm⟩
  · rw [get_set_of_ne here] at got
    exact .inr ⟨here, got⟩

/-- A slot is written with the key it had, with none, or with one that no slot has. -/
theorem Unique.set (unique : Unique c.entries) (there : c.entries[i]? = some old)
    (own : e.cacheKey = old.cacheKey ∨ ∀ j e', ¬ Finds c.entries e.cacheKey j e') :
    Unique (c.set i e).entries := by
  -- An entry of the new key at another slot can only be the old one's.
  have alone (j : ℕ) (e' : CachedResult) (found : Finds c.entries e.cacheKey j e') : j = i := by
    rcases own with same | nobody
    · have mine : Finds c.entries e.cacheKey i old := ⟨there, same.symm, found.nonzero⟩
      exact unique _ j i e' old found mine
    · exact absurd found (nobody j e')
  intro cacheKey j k e₁ e₂ found₁ found₂
  obtain ⟨there₁, same₁, nonzero⟩ := found₁
  obtain ⟨there₂, same₂, -⟩ := found₂
  rcases get_set_cases there there₁ with ⟨rfl, rfl⟩ | ⟨-, old₁⟩
  · rcases get_set_cases there there₂ with ⟨rfl, rfl⟩ | ⟨-, old₂⟩
    · rfl
    · exact (alone k e₂ ⟨old₂, same₂.trans same₁.symm, same₁ ▸ nonzero⟩).symm
  · rcases get_set_cases there there₂ with ⟨rfl, rfl⟩ | ⟨-, old₂⟩
    · exact alone j e₁ ⟨old₁, same₁.trans same₂.symm, same₂ ▸ nonzero⟩
    · exact unique cacheKey j k e₁ e₂ ⟨old₁, same₁, nonzero⟩ ⟨old₂, same₂, nonzero⟩

/-- A free slot's key is nobody's. -/
theorem not_finds_of_off (off : e.isActive = false) (j : ℕ) (e' : CachedResult) :
    ¬ Finds c.entries e.cacheKey j e' := by
  intro found
  exact of_decide_eq_false off found.nonzero

theorem Does.unique (does : Does cfg c call answer c') (unique : Unique c.entries) :
    Unique c'.entries := by
  cases does with
  | missed | kept | passed | absent | ignored => exact unique
  | hit on found fresh => exact unique.set found.there (.inl rfl)
  | expired on found late free => exact unique.set found.there (.inr (not_finds_of_off rfl))
  | stored there nonzero free alone key created =>
    refine unique.set there ?_
    rw [key]
    exact alone.imp_left Eq.symm
  | spoiled there free off => exact unique.set there (.inr (not_finds_of_off off))
  | freed found free => exact unique.set found.there (.inr (not_finds_of_off rfl))
  | marked found referenced => exact unique.set found.there (.inl rfl)
  | released there => exact unique.set there (.inl rfl)

/-- A slot that is not referenced is written, or one is written with the content it had. -/
theorem undisturbed_set (there : c.entries[i]? = some old)
    (either : (old.isActive = true → ¬ old.isReferenced = true) ∨
      e.cacheKey = old.cacheKey ∧ e.content = old.content) :
    Undisturbed c.entries (c.set i e).entries := by
  intro j e' there' on referenced
  by_cases here : j = i
  · subst here
    rw [there] at there'
    cases there'
    rcases either with free | same
    · exact absurd referenced (free on)
    · exact ⟨e, get_set_self there, same⟩
  · exact ⟨e', (get_set_of_ne here).trans there', rfl, rfl⟩

theorem Does.undisturbed (does : Does cfg c call answer c') : Undisturbed c.entries c'.entries := by
  cases does with
  | missed | kept | passed | absent | ignored => exact fun _ e there _ _ => ⟨e, there, rfl, rfl⟩
  | hit on found fresh => exact undisturbed_set found.there (.inr ⟨rfl, rfl⟩)
  | expired on found late free => exact undisturbed_set found.there (.inl fun _ => free)
  | stored there nonzero free alone key created => exact undisturbed_set there (.inl free)
  | spoiled there free off => exact undisturbed_set there (.inl free)
  | freed found free => exact undisturbed_set found.there (.inl fun _ => free)
  | marked found referenced => exact undisturbed_set found.there (.inr ⟨rfl, rfl⟩)
  | released there => exact undisturbed_set there (.inr ⟨rfl, rfl⟩)

/-! ### The count -/

theorem i32_of_small {n : ℤ} (low : 0 ≤ n) (high : n ≤ 65) : i32 n = n := by
  rw [i32, Int.bmod_eq_of_le] <;> omega

/-- The count without the entry of a slot, if it was right. -/
theorem Counted.without (counted : c.Counted) (there : c.entries[i]? = some e)
    (off : e'.isActive = false) : c.countWithout e = (c.set i e').active := by
  have moved := active_set (e := e') there
  have small := c.active_le
  rw [off] at moved
  unfold Counted at counted
  unfold countWithout
  split
  next on =>
    rw [on] at moved
    simp only [if_true, Bool.false_eq_true, if_false] at moved
    omega
  next on =>
    simp only [on, Bool.false_eq_true, if_false] at moved
    omega

/-- A slot is written with an entry as active as the one it had. -/
theorem Counted.set (counted : c.Counted) (there : c.entries[i]? = some e)
    (same : e'.isActive = e.isActive) : (c.set i e').Counted := by
  have moved := active_set (e := e') there
  rw [same] at moved
  show c.count = _
  rw [counted, Nat.add_right_cancel moved]

theorem Counted.stored (counted : c.Counted) (there : c.entries[i]? = some e)
    (on : e'.isActive = true) : i32 (c.countWithout e + 1) = (c.set i e').active := by
  have moved := active_set (e := e') there
  have cleared := active_set (e := .empty) there
  have without : c.countWithout e = (c.set i .empty).active := counted.without there rfl
  have small := (c.set i e').active_le
  have off : CachedResult.empty.isActive = false := rfl
  rw [on, if_pos rfl] at moved
  simp only [off, Bool.false_eq_true, if_false] at cleared
  have one : (c.set i e').active = (c.set i .empty).active + 1 := by omega
  rw [without, i32_of_small (by omega) (by omega)]
  omega

/-- An expired entry that a lookup frees is still counted. -/
theorem Counted.not_of_freed (counted : c.Counted) (there : c.entries[i]? = some e)
    (on : e.isActive = true) (off : e'.isActive = false) : ¬ (c.set i e').Counted := by
  intro after
  have moved := active_set (e := e') there
  rw [on, off] at moved
  simp only [if_true, Bool.false_eq_true, if_false] at moved
  have same : ((c.set i e').active : ℤ) = c.active := after.symm.trans counted
  omega

end QueryCache

/-! ### Watched runs -/

open QueryCache (Config Finds Unique Undisturbed Does)

/-- **An answer that is current**: the entry a lookup points to was stored and not invalidated
since, and is not expired. -/
def Current (stored : ℕ → Option UInt64) (answer : Option ℕ) : Call → Prop
  | .lookup _ now =>
    ∀ i ∈ answer, ∃ time, stored i = some time ∧ ¬ time.toNat + 1000 ≤ now.toNat
  | _ => True

/-- **What a call has to keep.** -/
structure Sound (cfg : Config) (w : Watched) (call : Call) : Prop where
  counted : (w.next cfg call).cache.Counted
  unique : Unique (w.next cfg call).cache.entries
  undisturbed : Undisturbed w.cache.entries (w.next cfg call).cache.entries
  current : Current w.stored (w.cache.serve cfg call).1 call

/-- **A timely lookup** finds its entry referenced or fresh, and no invalidated one in the first
second of the clock. -/
def Timely (cfg : Config) (w : Watched) : Call → Prop
  | .lookup cacheKey now =>
    cfg.enabled = true → ∀ i e, Finds w.cache.entries cacheKey i e →
      (¬ e.isReferenced = true → e.isFresh now = true) ∧ (w.stored i = none → 1000 ≤ now.toNat)
  | _ => True

/-- What was noted is what the entries say, but for those that were made to look old. -/
def Dated (entries : List CachedResult) (stored : ℕ → Option UInt64) : Prop :=
  ∀ (i : ℕ) (e : CachedResult), entries[i]? = some e → e.isActive = true →
    stored i = some e.createdMs ∨ stored i = none ∧ e.createdMs = 0

section Dated

variable {cfg : Config} {c : QueryCache} {stored : ℕ → Option UInt64} {i : ℕ} {e old : CachedResult}

/-- A slot is written and noted. -/
theorem Dated.set (dated : Dated c.entries stored) (there : c.entries[i]? = some old)
    {stored' : ℕ → Option UInt64} (elsewhere : ∀ j, j ≠ i → stored' j = stored j)
    (here : e.isActive = true → stored' i = some e.createdMs ∨ stored' i = none ∧ e.createdMs = 0) :
    Dated (c.set i e).entries stored' := by
  intro j e' there' on
  rcases QueryCache.get_set_cases there there' with ⟨rfl, rfl⟩ | ⟨other, there'⟩
  · exact here on
  · rw [elsewhere j other]
    exact dated j e' there' on

theorem Dated.serve (dated : Dated c.entries stored) (does : Does cfg c call answer c') :
    Dated c'.entries (noted stored answer call) := by
  have updated (i : ℕ) (time : Option UInt64) (j : ℕ) (other : j ≠ i) :
      Function.update stored i time j = stored j := Function.update_of_ne other _ _
  cases does with
  | missed | kept | passed | absent | ignored => exact dated
  | @hit cacheKey now i e on found fresh =>
    have was := dated i e found.there found.isActive
    exact dated.set found.there (fun _ _ => rfl) fun _ => was
  | expired on found late free => exact dated.set found.there (fun _ _ => rfl) nofun
  | @stored g env i e e' there nonzero free alone key created =>
    refine dated.set there (updated i _) fun _ => .inl ?_
    rw [created]
    exact Function.update_self ..
  | spoiled there free off =>
    refine dated.set there (fun _ _ => rfl) fun on => ?_
    rw [off] at on
    cases on
  | @freed cacheKey i e found free => exact dated.set found.there (updated i _) nofun
  | @marked cacheKey i e found referenced =>
    exact dated.set found.there (updated i _) fun _ => .inr ⟨Function.update_self .., rfl⟩
  | @released i e there =>
    have was := dated i e there
    exact dated.set there (fun _ _ => rfl) was

end Dated

/-- An entry that was made to look old is fresh only in the first second. -/
theorem isFresh_of_zero {e : CachedResult} (old : e.createdMs = 0) :
    e.isFresh now = true ↔ now.toNat < 1000 := by
  rw [CachedResult.isFresh, old, decide_eq_true_eq, UInt64.sub_zero, queryCacheTtlMs,
    UInt64.lt_iff_toNat_lt]
  rfl

/-- What is fresh is not expired. -/
theorem not_expired_of_isFresh {e : CachedResult} (fresh : e.isFresh now = true) :
    ¬ e.createdMs.toNat + 1000 ≤ now.toNat := by
  rw [CachedResult.isFresh, decide_eq_true_eq, queryCacheTtlMs, UInt64.lt_iff_toNat_lt,
    UInt64.toNat_sub] at fresh
  have ttl : (1000 : UInt64).toNat = 1000 := rfl
  have small := now.toNat_lt
  have small' := e.createdMs.toNat_lt
  omega

/-- What holds of a watched cache: the properties of its state, and what was noted. -/
structure Watched.Good (w : Watched) : Prop where
  counted : w.cache.Counted
  unique : Unique w.cache.entries
  dated : Dated w.cache.entries w.stored

theorem good_new : Watched.new.Good := by
  have off (i : ℕ) (e : CachedResult) (there : QueryCache.new.entries[i]? = some e) :
      e = .empty := (List.mem_replicate.mp (List.mem_of_getElem? there)).2
  refine ⟨rfl, fun cacheKey i j e e' found _ => ?_, fun i e there on => ?_⟩
  · have zero : e.cacheKey = 0 := by rw [off i e found.there]; rfl
    exact absurd (found.same.symm.trans zero) found.nonzero
  · rw [off i e there] at on
    cases on

section Serve

variable {cfg : Config} {w : Watched}

theorem Watched.Good.next (good : w.Good) (sound : Sound cfg w call) :
    (w.next cfg call).Good :=
  ⟨sound.counted, sound.unique, good.dated.serve (QueryCache.does_serve call)⟩

/-- The count and the answer are right exactly when the call is timely. -/
theorem Watched.Good.counted_and_current_iff (good : w.Good)
    (does : Does cfg w.cache call answer c') :
    c'.Counted ∧ Current w.stored answer call ↔ Timely cfg w call := by
  have counted := good.counted
  cases does with
  | missed missing =>
    exact iff_of_true ⟨counted, nofun⟩ fun on i e found => absurd found (missing on i e)
  | @hit cacheKey now i e on found fresh =>
    have after : (w.cache.set i { e with refCount := i32 (e.refCount + 1) }).Counted :=
      counted.set found.there rfl
    have alone (j : ℕ) (e' : CachedResult) (found' : Finds w.cache.entries cacheKey j e') : j = i :=
      good.unique cacheKey j i e' e found' found
    rcases good.dated i e found.there found.isActive with time | ⟨invalidated, old⟩
    · refine iff_of_true ⟨after, ?_⟩ fun _ j e' found' => ?_
      · rintro j ⟨⟩
        exact ⟨e.createdMs, time, not_expired_of_isFresh fresh⟩
      · obtain rfl := alone j e' found'
        cases found.there.symm.trans found'.there
        refine ⟨fun _ => fresh, fun none => ?_⟩
        rw [time] at none
        cases none
    · refine iff_of_false ?_ fun timely => ?_
      · rintro ⟨-, current⟩
        obtain ⟨time, stored, -⟩ := current i rfl
        rw [invalidated] at stored
        cases stored
      · exact absurd ((isFresh_of_zero old).mp fresh)
          (not_lt.mpr ((timely on i e found).2 invalidated))
  | @kept cacheKey now i e found late referenced =>
    refine iff_of_true ⟨counted, nofun⟩ fun _ j e' found' => ?_
    obtain rfl := good.unique cacheKey j i e' e found' found
    cases found.there.symm.trans found'.there
    refine ⟨fun free => absurd referenced free, fun invalidated => ?_⟩
    rcases good.dated j e found.there found.isActive with time | ⟨-, old⟩
    · rw [time] at invalidated
      cases invalidated
    · exact not_lt.mp fun early => late ((isFresh_of_zero old).mpr early)
  | @expired cacheKey now i e on found late free =>
    refine iff_of_false ?_ fun timely => late ((timely on i e found).1 free)
    rintro ⟨after, -⟩
    exact counted.not_of_freed found.there found.isActive rfl after
  | passed | absent | ignored => exact iff_of_true ⟨counted, trivial⟩ trivial
  | @stored g env i e e' there nonzero free alone key created =>
    have on : e'.isActive = true := by
      rw [CachedResult.isActive, key]
      exact decide_eq_true nonzero
    exact iff_of_true ⟨counted.stored there on, trivial⟩ trivial
  | spoiled there free off => exact iff_of_true ⟨counted.without there off, trivial⟩ trivial
  | freed found free => exact iff_of_true ⟨counted.without found.there rfl, trivial⟩ trivial
  | marked found referenced => exact iff_of_true ⟨counted.set found.there rfl, trivial⟩ trivial
  | released there => exact iff_of_true ⟨counted.set there rfl, trivial⟩ trivial

/-- **One call**: it keeps the four properties exactly when it is timely. -/
theorem Watched.Good.sound_iff (good : w.Good) (call : Call) :
    Sound cfg w call ↔ Timely cfg w call := by
  have does : Does cfg w.cache call _ _ := QueryCache.does_serve call
  rw [← good.counted_and_current_iff does]
  constructor
  · intro sound
    exact ⟨sound.counted, sound.current⟩
  · rintro ⟨counted, current⟩
    exact ⟨counted, does.unique good.unique, does.undisturbed, current⟩

end Serve

/-! ### Whole runs -/

/-- Every call of a run, timely or not, leaves one entry a key and the referenced ones as they
were. -/
structure Kept (cfg : Config) (w : Watched) (call : Call) : Prop where
  unique : Unique (w.next cfg call).cache.entries
  undisturbed : Undisturbed w.cache.entries (w.next cfg call).cache.entries

theorem kept_of_unique {cfg : Config} {w : Watched} (unique : Unique w.cache.entries)
    (call : Call) : Kept cfg w call := by
  have does : Does cfg w.cache call _ _ := QueryCache.does_serve call
  exact ⟨does.unique unique, does.undisturbed⟩

/-- **The query cache over any calls.**  At most one active entry has a key and what is referenced
stays as it is, in every run.  All four properties hold, the count being that of the active
entries and no lookup answering with an entry that is expired or was invalidated after its last
store, exactly in the runs whose lookups are timely. -/
theorem keeps_iff (cfg : Config) (calls : List Call) :
    Runs.Meets (Watched.next cfg) (Kept cfg) .new calls ∧
      (Runs.Meets (Watched.next cfg) (Sound cfg) .new calls ↔
        Runs.Meets (Watched.next cfg) (Timely cfg) .new calls) := by
  constructor
  · have always : Runs.Meets (Watched.next cfg) (fun _ _ => True) .new calls :=
      Runs.meets_of_forall fun _ _ => trivial
    exact always.imp_of_invariant (fun w => Unique w.cache.entries)
      (fun w call unique _ => kept_of_unique unique call)
      (fun w call unique _ => (kept_of_unique unique call).unique) good_new.unique
  · exact Runs.meets_iff_of_invariant Watched.Good (fun _ call good => good.sound_iff call)
      (fun _ _ good sound => good.next sound) good_new calls

/-- A result of one column and one row. -/
def oneCell (cacheKey : UInt64) : Given where
  cacheKey := cacheKey
  numRows := 1
  numCols := 1
  colTypes _ := 25
  colNames _ := some [118]
  values _ := some [97]
  lengths _ := 1
  isNull _ := false

/-- A store at a time, with memory to spare. -/
def StoreEnv.calm (time : UInt64) : StoreEnv where
  now := time
  created := time
  typesAlloc := true
  namesAlloc := true
  nameAlloc _ := true
  rowsAlloc := true
  rowAlloc _ := true
  valueAlloc _ := true
  memory _ := []

/-- **Two lookups that are not timely.**  A result is stored and looked up a second later: it is
freed, and still counted.  A result is stored in the first second of the clock, looked up and,
while it is referenced, invalidated: the next lookup answers with it. -/
theorem expired_counted_and_invalidated_answered :
    (let late := Runs.final (Watched.next ⟨true⟩) .new
      [.store (oneCell 7) (.calm 5000), .lookup 7 6000]
    late.cache.count = 1 ∧ late.cache.active = 0) ∧
    let early := Runs.final (Watched.next ⟨true⟩) .new
      [.store (oneCell 7) (.calm 0), .lookup 7 0, .invalidate 7]
    early.stored 0 = none ∧ (early.cache.lookup ⟨true⟩ 7 0).1 = some 0 := by
  decide +kernel

end PlexPostgres.Cache
