import PlexPostgres.Bind.Params

/-!
# The cache of query results

A thread keeps copies of the results of its last queries for a second: 64 entries, each under
the hash of the statement and its parameters.  A lookup hands out a pointer into an entry and
counts it, and whoever has the pointer gives it back; an entry that is still pointed to is not
freed and not filled again, and an invalidation only makes it look old.

An entry is filled from the arrays that `rust_query_cache_store` is given.  Every allocation on
the way may fail, and more than a megabyte is not kept: what was filled so far is then freed.
-/

namespace PlexPostgres.Cache

open PlexPostgres.Bind (Bytes)

/-- `QUERY_CACHE_SIZE`. -/
def queryCacheSize : ℕ := 64

/-- `QUERY_CACHE_TTL_MS`. -/
def queryCacheTtlMs : UInt64 := 1000

/-- `QUERY_CACHE_MAX_ROWS`. -/
def queryCacheMaxRows : ℤ := 5

/-- `QUERY_CACHE_MAX_BYTES`. -/
def queryCacheMaxBytes : ℕ := 1024 * 1024

/-- An `i32`, which wraps. -/
def i32 (n : ℤ) : ℤ := n.bmod (2 ^ 32)

/-! ### Entries -/

/-- `CachedRow`: three arrays, one place a column.  A null has no value. -/
structure CachedRow where
  values : List (Option Bytes)
  lengths : List ℕ
  isNull : List Bool
  deriving DecidableEq, Repr

/-- **What a reader sees of an entry.**  A pointer that is not set is `none`. -/
structure Content where
  numRows : ℤ
  numCols : ℤ
  colTypes : Option (List ℕ)
  colNames : Option (List (Option Bytes))
  rows : Option (List CachedRow)
  deriving DecidableEq, Repr

/-- Nothing is allocated. -/
def Content.empty : Content := ⟨0, 0, none, none, none⟩

/-- **An entry.**  The key 0 is that of a free slot. -/
structure CachedResult where
  cacheKey : UInt64
  createdMs : UInt64
  refCount : ℤ
  content : Content
  deriving DecidableEq, Repr

namespace CachedResult

def empty : CachedResult := ⟨0, 0, 0, .empty⟩

variable (e : CachedResult)

def isActive : Bool := e.cacheKey ≠ 0

def isReferenced : Bool := 0 < e.refCount

/-- The age is computed with wrapping, so a time before the entry's own is late. -/
def isFresh (now : UInt64) : Bool := now - e.createdMs < queryCacheTtlMs

def markExpired : CachedResult := if e.isActive then { e with createdMs := 0 } else e

/-- `free_data`: has it been freed, and the entry. -/
def freeData : Bool × CachedResult :=
  if ¬ e.isActive then (false, e)
  else if e.isReferenced then (false, e)
  else (true, { e with cacheKey := 0, content := .empty })

/-- `cleanup_partial`: an entry without a key keeps what was allocated. -/
def cleanupPartial : CachedResult := ({ e with refCount := 0 }).freeData.2

end CachedResult

/-! ### Filling an entry -/

/-- **The arrays a result is stored from**; those of the cells are flat. -/
structure Given where
  cacheKey : UInt64
  numRows : ℤ
  numCols : ℤ
  colTypes : ℕ → ℕ
  colNames : ℕ → Option Bytes
  values : ℕ → Option Bytes
  lengths : ℕ → ℕ
  isNull : ℕ → Bool

/-- **What a store meets**: the clock, which it reads twice, the allocator, and what stands in
memory that is allocated and not written. -/
structure StoreEnv where
  now : UInt64
  created : UInt64
  typesAlloc : Bool
  namesAlloc : Bool
  nameAlloc : ℕ → Bool
  rowsAlloc : Bool
  rowAlloc : ℕ → Bool
  valueAlloc : ℕ → Bool
  memory : ℕ → Bytes

namespace Given

variable (g : Given) (env : StoreEnv)

/-- The columns, by number. -/
def columns : List ℕ := List.range g.numCols.toNat

/-- The copies of the names; one that cannot be allocated is not set. -/
def copiedNames : List (Option Bytes) :=
  g.columns.map fun c => if env.nameAlloc c then g.colNames c else none

/-- What the copies of the names take. -/
def namesSize : ℕ := ((g.copiedNames env).map fun n => (n.map (·.length + 1)).getD 0).sum

/-- The copy of a value. -/
def copiedValue (flat : ℕ) : Bytes :=
  ((g.values flat).getD (env.memory flat)).take (g.lengths flat)

/-- The columns of a row from the first of `cs` on, with what was copied before; none if a value
does not fit or cannot be allocated. -/
def copyCells (base : ℕ) : (cs : List ℕ) → (total : ℕ) →
    Option (List (Option Bytes × ℕ × Bool) × ℕ)
  | [], total => some ([], total)
  | c :: cs, total =>
    if g.isNull (base + c) then do
      let (cells, total) ← copyCells base cs total
      return ((none, 0, true) :: cells, total)
    else
      let total := total + g.lengths (base + c) + 1
      if queryCacheMaxBytes < total then none
      else if ¬ env.valueAlloc (base + c) then none
      else do
        let (cells, total) ← copyCells base cs total
        return ((some (g.copiedValue env (base + c)), g.lengths (base + c), false) :: cells, total)

/-- A row. -/
def copyRow (r total : ℕ) : Option (CachedRow × ℕ) :=
  if ¬ env.rowAlloc r then none
  else do
    let (cells, total) ← g.copyCells env (r * g.numCols.toNat) g.columns total
    return (⟨cells.map (·.1), cells.map (·.2.1), cells.map (·.2.2)⟩, total)

/-- The rows from the first of `rs` on; a failure says which row it was. -/
def copyRows : (rs : List ℕ) → (total : ℕ) → Except ℕ (List CachedRow)
  | [], _ => .ok []
  | r :: rs, total =>
    match g.copyRow env r total with
    | none => .error r
    | some (row, total) => do
        let rows ← copyRows rs total
        return row :: rows

/-- **A free entry is filled**: has it been, and the entry. -/
def fill (e : CachedResult) : Bool × CachedResult :=
  if ¬ env.typesAlloc then (false, e)
  else
    -- The types are written when there is room for the names.
    let e := { e with content := { e.content with colTypes := some [] } }
    if ¬ env.namesAlloc then (false, e.cleanupPartial)
    else
      let e := { e with content := { e.content with
        colTypes := some (g.columns.map g.colTypes), colNames := some (g.copiedNames env) } }
      if ¬ env.rowsAlloc then (false, e.cleanupPartial)
      else
        match g.copyRows env (List.range g.numRows.toNat) (g.namesSize env) with
        | .error r =>
          (false, CachedResult.cleanupPartial { e with
            cacheKey := 1
            refCount := 0
            content := { e.content with numRows := r + 1, numCols := g.numCols, rows := some [] } })
        | .ok rows =>
          (true, { e with
            cacheKey := g.cacheKey
            createdMs := env.created
            refCount := 0
            content := { e.content with
              numRows := g.numRows, numCols := g.numCols, rows := some rows } })

end Given

/-! ### The cache -/

/-- **A thread's cache.** -/
structure QueryCache where
  entries : List CachedResult
  size : entries.length = queryCacheSize
  count : ℤ

/-- What the search for a slot has seen. -/
structure Seen where
  empty : Option ℕ
  expired : Option ℕ
  oldest : Option ℕ
  oldestTime : UInt64

def Seen.nothing : Seen := ⟨none, none, none, 0xFFFFFFFFFFFFFFFF⟩

/-- **The slot a result is stored in**, from slot `i` on: the one with its key unless that is
referenced, an empty one, an expired one, or the oldest of those that are not referenced. -/
def findSlot (cacheKey now : UInt64) : (entries : List CachedResult) → (i : ℕ) → Seen → Option ℕ
  | [], _, seen => seen.empty <|> seen.expired <|> seen.oldest
  | e :: entries, i, seen =>
    if e.cacheKey = cacheKey then (if e.isReferenced then none else some i)
    else if ¬ e.isActive then
      findSlot cacheKey now entries (i + 1) { seen with empty := seen.empty <|> some i }
    else if ¬ e.isFresh now && ¬ e.isReferenced then
      findSlot cacheKey now entries (i + 1) { seen with expired := seen.expired <|> some i }
    else if ¬ e.isReferenced && e.createdMs < seen.oldestTime then
      findSlot cacheKey now entries (i + 1)
        { seen with oldest := some i, oldestTime := e.createdMs }
    else findSlot cacheKey now entries (i + 1) seen

namespace QueryCache

def new : QueryCache := ⟨List.replicate queryCacheSize .empty, List.length_replicate, 0⟩

variable (c : QueryCache)

/-- An entry is written. -/
def set (i : ℕ) (e : CachedResult) : QueryCache :=
  { c with entries := c.entries.set i e, size := List.length_set.trans c.size }

/-- The first slot with a key, and its entry. -/
def find (cacheKey : UInt64) : Option (ℕ × CachedResult) := do
  let i ← c.entries.findIdx? (·.cacheKey = cacheKey)
  let e ← c.entries[i]?
  return (i, e)

/-- `saturating_sub(1)`. -/
def uncount : QueryCache := { c with count := max (c.count - 1) (-2 ^ 31) }

/-- The query cache may be switched off with `PLEX_PG_DISABLE_QUERY_CACHE`. -/
structure Config where
  enabled : Bool
  deriving DecidableEq, Repr

variable (cfg : Config)

/-- **`rust_query_cache_lookup`**: the slot pointed to. -/
def lookup (cacheKey now : UInt64) : Option ℕ × QueryCache :=
  if ¬ cfg.enabled ∨ cacheKey = 0 then (none, c)
  else
    match c.find cacheKey with
    | none => (none, c)
    | some (i, e) =>
      if e.isFresh now then (some i, c.set i { e with refCount := i32 (e.refCount + 1) })
      else (none, c.set i e.freeData.2)

/-- A slot is filled: has it been. -/
def fillSlot (i : ℕ) (e : CachedResult) (g : Given) (env : StoreEnv) : Option ℕ × QueryCache :=
  let filled := g.fill env e
  if filled.1 then (some i, { c.set i filled.2 with count := i32 (c.count + 1) })
  else (none, c.set i filled.2)

/-- **`rust_query_cache_store`**: the slot filled, which only a reader of this model is told. -/
def store (g : Given) (env : StoreEnv) : Option ℕ × QueryCache :=
  if ¬ cfg.enabled ∨ g.cacheKey = 0 ∨ g.numCols ≤ 0 then (none, c)
  else if queryCacheMaxRows < g.numRows ∨ g.numRows ≤ 0 then (none, c)
  else
    match findSlot g.cacheKey env.now c.entries 0 .nothing with
    | none => (none, c)
    | some i =>
      match c.entries[i]? with
      | none => (none, c)
      | some e =>
        if e.isActive then
          if e.freeData.1 then (c.set i e.freeData.2).uncount.fillSlot i e.freeData.2 g env
          else (none, c)
        else c.fillSlot i e g env

/-- **`rust_query_cache_invalidate`**: the slot found, which only a reader of this model is
told. -/
def invalidate (cacheKey : UInt64) : Option ℕ × QueryCache :=
  if ¬ cfg.enabled ∨ cacheKey = 0 then (none, c)
  else
    match c.find cacheKey with
    | none => (none, c)
    | some (i, e) =>
      if e.freeData.1 then (some i, (c.set i e.freeData.2).uncount)
      else (some i, c.set i e.markExpired)

/-- **`rust_query_cache_release`** of a pointer. -/
def release (ptr : Option ℕ) : QueryCache :=
  if ¬ cfg.enabled then c
  else
    match ptr with
    | none => c
    | some i =>
      match c.entries[i]? with
      | none => c
      | some e => c.set i { e with refCount := i32 (e.refCount - 1) }

end QueryCache

/-! ### The key of a query -/

/-- `MAX_PARAMS`. -/
def maxParams : ℕ := 128

/-- `FNV_PRIME`. -/
def fnvPrime : UInt64 := 0x100000001b3

/-- `fnv1a_hash_slice`. -/
def fnv1aHashSlice (data : Bytes) : UInt64 :=
  data.foldl (fun hash byte => (hash ^^^ byte.toUInt64) * fnvPrime) 0xcbf29ce484222325

section Key

variable {κ : Type*} (hash : Bytes → κ) (null : κ)

/-- **What is mixed into the hash of the text**: the hash of each parameter that was collected, or
the mark of a NULL.  An empty text has no key. -/
def keyInputs (pgSql : Bytes) (paramValues : List (Option Bytes)) : Option (List κ) :=
  if pgSql = [] then none else some ((paramValues.take maxParams).map (Option.elim · null hash))

/-- `rust_query_cache_key` and `compute_cache_key`; 0 is no key. -/
def rustQueryCacheKey (pgSql : Bytes) (paramValues : List (Option Bytes)) : UInt64 :=
  (keyInputs fnv1aHashSlice 0xDEADBEEF pgSql paramValues).elim 0
    (List.foldl (fun hash input => (hash ^^^ input) * fnvPrime) (fnv1aHashSlice pgSql))

variable {hash null}

/-- **Different parameters are told apart exactly up to the 128th.** -/
theorem keyInputs_apart_iff (injective : Function.Injective hash) (marked : ∀ val, hash val ≠ null)
    (pgSql : Bytes) (a b : List (Option Bytes)) :
    (∀ x ∈ keyInputs hash null pgSql a, ∀ y ∈ keyInputs hash null pgSql b,
        ∀ i : ℕ, a[i]? ≠ b[i]? → x[i]? ≠ y[i]?) ↔
      pgSql = [] ∨ a.drop maxParams = b.drop maxParams := by
  have apart : Function.Injective (Option.elim · null hash) := by
    rintro (_ | v) (_ | v') same
    · rfl
    · exact absurd same.symm (marked v')
    · exact absurd same (marked v)
    · rw [injective same]
  by_cases empty : pgSql = []
  · simp [keyInputs, empty]
  simp only [keyInputs, empty, if_false, Option.mem_some_iff, forall_eq', false_or,
    List.getElem?_map, (Option.map_injective apart).ne_iff, List.getElem?_take]
  constructor
  · intro told
    refine List.ext_getElem? fun i => ?_
    have beyond := told (maxParams + i)
    simpa using beyond
  · intro agree i differ
    split
    · exact differ
    next beyond =>
      have same := congrArg (·[i - maxParams]?) agree
      simp [Nat.add_sub_cancel' (Nat.le_of_not_lt beyond)] at same
      exact absurd same differ

end Key

theorem keyInputs_apart_null :
    let x : List (Option Bytes) := [some [49], none, some []]
    let y : List (Option Bytes) := [some [49], some [], none]
    keyInputs some none [83] x = some x ∧ keyInputs some none [83] y = some y ∧
      x[1]? ≠ y[1]? ∧ x[2]? ≠ y[2]? := by
  intro x y
  have told := (keyInputs_apart_iff (Option.some_injective _) Option.some_ne_none [83] x y).mpr
    (.inr rfl) x rfl y rfl
  exact ⟨rfl, rfl, told 1 (by simp [x, y]), told 2 (by simp [x, y])⟩

/-- **The 129th parameter is not looked at.** -/
theorem lastParameter_unkeyed :
    rustQueryCacheKey [83] (List.replicate 129 none) =
      rustQueryCacheKey [83] (List.replicate 128 none ++ [some [49]]) := by
  decide +kernel

end PlexPostgres.Cache
