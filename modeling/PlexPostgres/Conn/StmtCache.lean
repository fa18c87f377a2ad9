import PlexPostgres.Library.Probing

/-!
# The cache of prepared statements

A connection keeps the names of the statements it has prepared on the server, by the hash of
their SQL: a table of 512 slots with linear probing, whose least recently used entry makes
room when all of them are taken.

The hash of a text stands for the text: `rust_hash_sql` is taken to be injective.  A name is
its prefix and the hash, written in hexadecimal; it is well short of the 32 bytes kept.
-/

namespace PlexPostgres.Conn

/-- The prefix of a name says which path prepared the statement: `ps_`, `cr_`, `ce_` and
`nx_`. -/
inductive NamePrefix where
  | registered
  | cachedRead
  | cachedWrite
  | script
  deriving DecidableEq, Repr

/-- The name a statement is prepared under. -/
structure StmtName where
  kind : NamePrefix
  sqlHash : ℕ
  deriving DecidableEq, Repr

structure StmtCacheEntry where
  sqlHash : ℕ
  stmtName : StmtName
  paramCount : ℤ
  lastUsed : ℤ
  deriving DecidableEq, Repr

/-- `STMT_CACHE_SIZE`. -/
def stmtCacheSize : ℕ := 512

/-- A table of entries that is sound. -/
abbrev SoundEntries (entries : ℕ → Option StmtCacheEntry) : Prop :=
  Probing.Sound StmtCacheEntry.sqlHash id stmtCacheSize entries

/-- **The cache**: the slots, and how many of them are taken. -/
structure StmtCache where
  entries : ℕ → Option StmtCacheEntry
  count : ℕ
  sound : SoundEntries entries

namespace StmtCache

/-- A cache with nothing in it. -/
def new : StmtCache := ⟨fun _ => none, 0, Probing.sound_empty⟩

variable (c : StmtCache)

/-- The slot with the entry of a hash.  The hash 0 has none. -/
def find (sqlHash : ℕ) : Option ℕ :=
  if sqlHash = 0 then none
  else Probing.find StmtCacheEntry.sqlHash id stmtCacheSize c.entries sqlHash stmtCacheSize 0

/-- **The entry of a hash.** -/
def lookup (sqlHash : ℕ) : Option StmtCacheEntry := (c.find sqlHash).bind c.entries

/-- Where an entry is to be put; no entry is as old as the largest `i64`. -/
def place (sqlHash : ℕ) : Probing.Place :=
  Probing.place StmtCacheEntry.sqlHash id stmtCacheSize StmtCacheEntry.lastUsed (2 ^ 63 - 1)
    c.entries sqlHash

variable {c}

variable {sqlHash : ℕ} {e : StmtCacheEntry}

theorem lookup_eq_some (found : c.lookup sqlHash = some e) :
    e.sqlHash = sqlHash ∧ ∃ idx, c.entries idx = some e := by
  unfold lookup find at found
  split at found
  · cases found
  · obtain ⟨idx, search, there⟩ := Option.bind_eq_some_iff.mp found
    obtain ⟨e', there', same⟩ := Probing.find_eq_some search
    rw [there] at there'
    cases there'
    exact ⟨same, idx, there⟩

/-- An entry that is there fits where it is. -/
theorem fits_of_entry {idx : ℕ} (there : c.entries idx = some e) :
    Probing.Fits StmtCacheEntry.sqlHash id stmtCacheSize c.entries e.sqlHash idx where
  alone idx' e' there' same := c.sound.distinct idx' idx e' e there' there same
  reached := c.sound.reached idx e there

/-- Where the entry of a hash is to be put, it fits. -/
theorem fits_of_place {idx : ℕ}
    (placed : c.place sqlHash = .existing idx ∨ c.place sqlHash = .empty idx ∨
      c.place sqlHash = .full (some idx)) :
    Probing.Fits StmtCacheEntry.sqlHash id stmtCacheSize c.entries sqlHash idx := by
  rcases placed with existing | empty | full
  · exact (c.sound.fits_of_place _ existing).1
  · exact (c.sound.fits_of_place _ empty).1
  · exact (c.sound.fits_of_place _ full).2 idx rfl

variable (c)

/-- An entry is put in a slot where it fits. -/
def put (e : StmtCacheEntry) (idx count : ℕ)
    (fits : Probing.Fits StmtCacheEntry.sqlHash id stmtCacheSize c.entries e.sqlHash idx) :
    StmtCache :=
  ⟨Function.update c.entries idx (some e), count, c.sound.put fits⟩

/-- The entry of a hash, if there is one, is marked as used now. -/
def touch (sqlHash : ℕ) (now : ℤ) : StmtCache :=
  match c.find sqlHash with
  | none => c
  | some idx =>
    match there : c.entries idx with
    | none => c
    | some e => c.put { e with lastUsed := now } idx c.count (fits_of_entry (e := e) there)

/-- What `add` gives back: the slot, −1 being none, and the name of an entry that had to make
room. -/
structure Added where
  idx : Option ℕ
  evicted : Option StmtName
  cache : StmtCache

/-- **Add or update an entry.** -/
def add (e : StmtCacheEntry) : Added :=
  if e.sqlHash = 0 then ⟨none, none, c⟩
  else
    match placed : c.place e.sqlHash with
    | .existing idx => ⟨some idx, none, c.put e idx c.count (fits_of_place (.inl placed))⟩
    | .empty idx =>
      ⟨some idx, none, c.put e idx (c.count + 1) (fits_of_place (.inr (.inl placed)))⟩
    | .full none => ⟨none, none, c⟩
    | .full (some idx) =>
      ⟨some idx, (c.entries idx).map StmtCacheEntry.stmtName,
        c.put e idx c.count (fits_of_place (.inr (.inr placed)))⟩

/-- **Forget every entry**: the names of those there were, and the empty cache. -/
def clear : List StmtName × StmtCache :=
  ((List.range stmtCacheSize).filterMap fun idx => (c.entries idx).map StmtCacheEntry.stmtName,
    new)

/-- Marking an entry as used: nothing, or the entry is put back with another time. -/
theorem touch_cases (sqlHash : ℕ) (now : ℤ) :
    c.lookup sqlHash = none ∧ c.touch sqlHash now = c ∨
      ∃ idx e fits, c.lookup sqlHash = some e ∧ c.entries idx = some e ∧
        c.touch sqlHash now = c.put { e with lastUsed := now } idx c.count fits := by
  unfold touch
  split
  next missing => exact .inl ⟨by rw [lookup, missing]; rfl, rfl⟩
  next idx search =>
    split
    next hole => exact .inl ⟨by rw [lookup, search]; exact hole, rfl⟩
    next e there =>
      have found : c.lookup sqlHash = some e := by
        rw [lookup, search]
        exact there
      exact .inr ⟨idx, e, fits_of_entry (e := e) there, found, there, rfl⟩

/-- Marking an entry as used keeps every entry's hash and name. -/
theorem touch_entry {now : ℤ} {idx : ℕ} (there : (c.touch sqlHash now).entries idx = some e) :
    ∃ e', c.entries idx = some e' ∧ e'.sqlHash = e.sqlHash ∧ e'.stmtName = e.stmtName := by
  rcases c.touch_cases sqlHash now with ⟨-, same⟩ | ⟨slot, old, fits, -, was, put⟩
  · rw [same] at there
    exact ⟨e, there, rfl, rfl⟩
  · rw [put] at there
    rcases Probing.update_eq_some_iff.mp there with ⟨rfl, rfl⟩ | ⟨-, there⟩
    · exact ⟨old, was, rfl, rfl⟩
    · exact ⟨e, there, rfl, rfl⟩

/-- Whose turn it is to make room for a hash: the table's oldest entry. -/
def Due (sqlHash idx : ℕ) : Prop :=
  Probing.Oldest StmtCacheEntry.lastUsed (2 ^ 63 - 1) id stmtCacheSize c.entries sqlHash
    stmtCacheSize idx

/-- **The four ways an add ends.** -/
inductive AddCase (c : StmtCache) (e : StmtCacheEntry) : Added → Prop where
  | updated {idx old} (there : c.entries idx = some old) (same : old.sqlHash = e.sqlHash)
      (fits : Probing.Fits StmtCacheEntry.sqlHash id stmtCacheSize c.entries e.sqlHash idx) :
      AddCase c e ⟨some idx, none, c.put e idx c.count fits⟩
  | inserted {idx} (hole : c.entries idx = none) (inside : idx < stmtCacheSize)
      (fits : Probing.Fits StmtCacheEntry.sqlHash id stmtCacheSize c.entries e.sqlHash idx) :
      AddCase c e ⟨some idx, none, c.put e idx (c.count + 1) fits⟩
  | refused (absent : Probing.Absent StmtCacheEntry.sqlHash c.entries e.sqlHash)
      (full : ∀ idx < stmtCacheSize, c.entries idx ≠ none)
      (never : ∀ idx, ¬ c.Due e.sqlHash idx) :
      AddCase c e ⟨none, none, c⟩
  | replaced {idx old} (absent : Probing.Absent StmtCacheEntry.sqlHash c.entries e.sqlHash)
      (full : ∀ idx < stmtCacheSize, c.entries idx ≠ none) (there : c.entries idx = some old)
      (due : c.Due e.sqlHash idx)
      (fits : Probing.Fits StmtCacheEntry.sqlHash id stmtCacheSize c.entries e.sqlHash idx) :
      AddCase c e ⟨some idx, some old.stmtName, c.put e idx c.count fits⟩

variable {c} in
theorem addCase (nonzero : e.sqlHash ≠ 0) : AddCase c e (c.add e) := by
  unfold add
  rw [if_neg nonzero]
  split
  next idx placed =>
    obtain ⟨-, old, there, same⟩ := c.sound.fits_of_place _ placed
    exact .updated there same _
  next idx placed =>
    obtain ⟨⟨-, i, inside, here, -⟩, hole⟩ := c.sound.fits_of_place _ placed
    refine .inserted hole ?_ _
    rw [← here]
    exact Nat.mod_lt _ (Nat.zero_lt_of_lt inside)
  next placed =>
    obtain ⟨absent, -⟩ := c.sound.fits_of_place _ placed
    refine .refused absent (fun idx inside => Probing.ne_none_of_place _ placed inside) ?_
    intro idx due
    exact Option.some_ne_none idx ((Probing.oldest_iff_of_place placed idx).mp due).symm
  next idx placed =>
    obtain ⟨absent, -⟩ := c.sound.fits_of_place _ placed
    have due : c.Due e.sqlHash idx := (Probing.oldest_iff_of_place placed idx).mpr rfl
    obtain ⟨old, there⟩ : ∃ old, c.entries idx = some old := by
      obtain ⟨-, -, -, old, there, -⟩ := due
      exact ⟨old, there⟩
    rw [there]
    exact .replaced absent (fun idx inside => Probing.ne_none_of_place _ placed inside) there due _

/-- **What adding an entry can do**: nothing, or it is put in a slot, and the entry of another
hash that was there gives its name. -/
theorem add_cases (e : StmtCacheEntry) :
    ((c.add e).cache = c ∧ (c.add e).evicted = none) ∨
      ∃ idx, (c.add e).cache.entries = Function.update c.entries idx (some e) ∧
        (∀ idx' old, c.entries idx' = some old → old.sqlHash = e.sqlHash → idx' = idx) ∧
        ∀ name ∈ (c.add e).evicted, ∃ old, c.entries idx = some old ∧ old.stmtName = name ∧
          old.sqlHash ≠ e.sqlHash := by
  by_cases zero : e.sqlHash = 0
  · rw [add, if_pos zero]
    exact .inl ⟨rfl, rfl⟩
  have ended := addCase (c := c) zero
  generalize c.add e = added at ended ⊢
  cases ended with
  | updated there same fits | inserted hole inside fits =>
    exact .inr ⟨_, rfl, fits.alone, nofun⟩
  | refused => exact .inl ⟨rfl, rfl⟩
  | @replaced idx old absent full there due fits =>
    refine .inr ⟨idx, rfl, fits.alone, fun name mem => ?_⟩
    exact ⟨old, there, Option.some.inj mem, absent idx old there⟩

end StmtCache

end PlexPostgres.Conn
