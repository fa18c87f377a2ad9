import PlexPostgres.Conn.StmtCache
import PlexPostgres.Library.Lru
import PlexPostgres.Library.Runs

/-!
# The statement cache as a map with least-recently-used replacement

What the cache is for is a map from hashes to names that holds 512 of them and forgets the one
that was used least recently.  The table keeps a time with every entry instead of an order, in
whole seconds, and takes the first of its oldest entries from the new hash's home on.  The two
are run side by side, on any lookups, adds and clears at any times.
-/

namespace PlexPostgres.Conn

/-- What an entry says: a name for a hash. -/
def StmtCacheEntry.naming (e : StmtCacheEntry) : ℕ × StmtName := (e.sqlHash, e.stmtName)

variable {sqlHash : ℕ} {old : StmtCacheEntry}

namespace StmtCache

variable (c : StmtCache)

/-- The entries, slot by slot. -/
def taken : List StmtCacheEntry := (List.range stmtCacheSize).filterMap c.entries

/-- The names the cache holds, with their hashes. -/
def held : List (ℕ × StmtName) := c.taken.map StmtCacheEntry.naming

variable {c} {e : StmtCacheEntry}

theorem slot_lt {idx : ℕ} (there : c.entries idx = some e) : idx < stmtCacheSize := by
  obtain ⟨i, inside, rfl, -⟩ := c.sound.reached idx e there
  exact Nat.mod_lt _ (Nat.zero_lt_of_lt inside)

theorem mem_taken : e ∈ c.taken ↔ ∃ idx, c.entries idx = some e := by
  simp only [taken, List.mem_filterMap, List.mem_range]
  constructor
  · rintro ⟨idx, -, there⟩
    exact ⟨idx, there⟩
  · rintro ⟨idx, there⟩
    exact ⟨idx, slot_lt there, there⟩

variable {entry : ℕ × StmtName}

theorem mem_held :
    entry ∈ c.held ↔ ∃ idx e, c.entries idx = some e ∧ e.naming = entry := by
  simp only [held, List.mem_map, mem_taken]
  constructor
  · rintro ⟨e, ⟨idx, there⟩, rfl⟩
    exact ⟨idx, e, there, rfl⟩
  · rintro ⟨idx, e, there, rfl⟩
    exact ⟨e, ⟨idx, there⟩, rfl⟩

variable (c) in
/-- **No hash is stored twice.** -/
theorem nodup_hashes : (c.taken.map StmtCacheEntry.sqlHash).Nodup := by
  rw [taken, List.map_filterMap]
  refine List.Nodup.filterMap ?_ List.nodup_range
  intro idx idx' hash mem mem'
  obtain ⟨e, there, rfl⟩ := Option.map_eq_some_iff.mp mem
  obtain ⟨e', there', same⟩ := Option.map_eq_some_iff.mp mem'
  exact c.sound.distinct idx idx' e e' there there' same.symm

theorem nodup_held : c.held.Nodup := by
  refine List.Nodup.of_map Prod.fst ?_
  rw [held, List.map_map]
  exact c.nodup_hashes

variable (c) in
/-- **No more entries than fit.** -/
theorem length_taken_le : c.taken.length ≤ stmtCacheSize := by
  have fewer := List.length_filterMap_le c.entries (List.range stmtCacheSize)
  rwa [List.length_range] at fewer

theorem length_taken_lt_iff :
    c.taken.length < stmtCacheSize ↔ ∃ idx < stmtCacheSize, c.entries idx = none := by
  have fewer : (List.filterMap c.entries (List.range stmtCacheSize)).length <
      (List.range stmtCacheSize).length ↔ _ := List.length_filterMap_lt_length_iff_exists
  rw [taken]
  simpa only [List.length_range, List.mem_range, exists_prop] using fewer

/-- **The entry of a hash is found**, unless the hash is 0. -/
theorem lookup_eq_some_iff :
    c.lookup sqlHash = some e ↔
      sqlHash ≠ 0 ∧ e.sqlHash = sqlHash ∧ ∃ idx, c.entries idx = some e := by
  constructor
  · intro found
    refine ⟨?_, lookup_eq_some found⟩
    rintro rfl
    cases found
  · rintro ⟨nonzero, same, idx, there⟩
    have search : c.find sqlHash = some idx := by
      rw [find, if_neg nonzero]
      exact c.sound.find_eq_some_iff.mpr ⟨e, there, same⟩
    rw [lookup, search]
    exact there

/-! ### What an entry that is put changes -/

section Put

variable {idx n : ℕ}
  {fits : Probing.Fits StmtCacheEntry.sqlHash id stmtCacheSize c.entries e.sqlHash idx}

theorem mem_held_put :
    entry ∈ (c.put e idx n fits).held ↔
      entry = e.naming ∨ ∃ idx' e', idx' ≠ idx ∧ c.entries idx' = some e' ∧ e'.naming = entry := by
  simp only [mem_held, put, Probing.update_eq_some_iff]
  constructor
  · rintro ⟨idx', e', ⟨-, rfl⟩ | ⟨other, there⟩, rfl⟩
    · exact .inl rfl
    · exact .inr ⟨idx', e', other, there, rfl⟩
  · rintro (rfl | ⟨idx', e', other, there, rfl⟩)
    · exact ⟨idx, e, .inl ⟨rfl, rfl⟩, rfl⟩
    · exact ⟨idx', e', .inr ⟨other, there⟩, rfl⟩

/-- One slot apart from the others. -/
theorem length_filterMap_range (f : ℕ → Option StmtCacheEntry) (inside : idx < stmtCacheSize) :
    ((List.range stmtCacheSize).filterMap f).length =
      (f idx).toList.length + (((List.range stmtCacheSize).erase idx).filterMap f).length := by
  rw [((List.perm_cons_erase (List.mem_range.mpr inside)).filterMap f).length_eq,
    List.filterMap_cons]
  cases f idx <;> simp [Nat.add_comm]

/-- **An entry that is put is one more**, or one for the one that was there. -/
theorem length_taken_put :
    (c.put e idx n fits).taken.length + (c.entries idx).toList.length = c.taken.length + 1 := by
  have inside : idx < stmtCacheSize := by
    obtain ⟨i, inside, rfl, -⟩ := fits.reached
    exact Nat.mod_lt _ (Nat.zero_lt_of_lt inside)
  have elsewhere : ((List.range stmtCacheSize).erase idx).filterMap (c.put e idx n fits).entries =
      ((List.range stmtCacheSize).erase idx).filterMap c.entries := by
    refine List.filterMap_congr fun idx' mem => ?_
    exact Function.update_of_ne (List.nodup_range.mem_erase_iff.mp mem).1 _ _
  have here : (c.put e idx n fits).entries idx = some e := Function.update_self ..
  rw [taken, taken, length_filterMap_range _ inside, length_filterMap_range c.entries inside,
    elsewhere, here, Option.toList_some, List.length_singleton]
  omega

theorem length_taken_put_of_hole (hole : c.entries idx = none) :
    (c.put e idx n fits).taken.length = c.taken.length + 1 := by
  simpa [hole] using @length_taken_put c e idx n fits

theorem length_taken_put_of_entry (there : c.entries idx = some old) :
    (c.put e idx n fits).taken.length = c.taken.length := by
  simpa [there] using @length_taken_put c e idx n fits

end Put

end StmtCache

open StmtCache

/-! ### The two, side by side -/

/-- **A call**: a lookup of `rust_stmt_cache_lookup`, which marks what it finds as used, an add
or a clear, at any time. -/
inductive CacheCall where
  | lookup (sqlHash : ℕ) (now : ℤ)
  | add (e : StmtCacheEntry)
  | clear

/-- A call, as the table takes it. -/
def StmtCache.serve (c : StmtCache) : CacheCall → StmtCache
  | .lookup sqlHash now => c.touch sqlHash now
  | .add e => (c.add e).cache
  | .clear => c.clear.2

/-- **What the cache is for.** -/
abbrev Recency := Lru ℕ StmtName stmtCacheSize

/-- A call, as the map takes it. -/
def Recency.serve (m : Recency) : CacheCall → Recency
  | .lookup sqlHash _ => m.use sqlHash
  | .add e => m.add e.sqlHash e.stmtName
  | .clear => Lru.empty

/-- The table and the map before any call. -/
def cleared : StmtCache × Recency := (new, Lru.empty)

def serveBoth (s : StmtCache × Recency) (call : CacheCall) : StmtCache × Recency :=
  (s.1.serve call, s.2.serve call)

/-- **The table answers as the map does**: the name found, the name that had to make room, the
names that were forgotten. -/
def SameAnswer (s : StmtCache × Recency) : CacheCall → Prop
  | .lookup sqlHash _ =>
    (s.1.lookup sqlHash).map StmtCacheEntry.stmtName = s.2.lookup sqlHash
  | .add e => (s.1.add e).evicted = (s.2.evicted e.sqlHash).map Prod.snd
  | .clear => s.1.clear.1.Perm (s.2.entries.map Prod.snd)

/-- The table finds for every hash what the map finds. -/
def SameNames (s : StmtCache × Recency) : Prop :=
  ∀ sqlHash, (s.1.lookup sqlHash).map StmtCacheEntry.stmtName = s.2.lookup sqlHash

/-- **A call the table serves as the map does.** -/
def Faithful (s : StmtCache × Recency) (call : CacheCall) : Prop :=
  SameAnswer s call ∧ SameNames (serveBoth s call)

/-- **An add is in turn** if its hash is not 0 and, should it find the cache full of other
hashes, the least recently used of them is the oldest by the table's times, and the first of the
oldest in the order of the new hash's probes. -/
def InTurn (s : StmtCache × Recency) : CacheCall → Prop
  | .add e =>
    e.sqlHash ≠ 0 ∧
      (s.1.count = stmtCacheSize → s.1.lookup e.sqlHash = none → ∀ oldest ∈ s.2.oldest,
        ∃ idx old, s.1.Due e.sqlHash idx ∧ s.1.entries idx = some old ∧
          old.sqlHash = oldest.1)
  | _ => True

/-- What holds of the table after any calls: no entry is the hash 0's, and they are counted. -/
structure StmtCache.Proper (c : StmtCache) : Prop where
  nonzero : ∀ idx e, c.entries idx = some e → e.sqlHash ≠ 0
  counted : c.count = c.taken.length

theorem StmtCache.proper_new : new.Proper := by
  refine ⟨nofun, ?_⟩
  have none : new.taken = [] := List.filterMap_eq_nil_iff.mpr fun _ _ => rfl
  rw [none]
  rfl

theorem StmtCache.Proper.put {c : StmtCache} (proper : c.Proper) {e : StmtCacheEntry} {idx n : ℕ}
    (fits : Probing.Fits StmtCacheEntry.sqlHash id stmtCacheSize c.entries e.sqlHash idx)
    (nonzero : e.sqlHash ≠ 0) (counted : n = (c.put e idx n fits).taken.length) :
    (c.put e idx n fits).Proper := by
  refine ⟨fun idx' e' there => ?_, counted⟩
  rcases Probing.update_eq_some_iff.mp there with ⟨-, rfl⟩ | ⟨-, there⟩
  · exact nonzero
  · exact proper.nonzero idx' e' there

theorem StmtCache.Proper.serve {c : StmtCache} (proper : c.Proper) (call : CacheCall) :
    (c.serve call).Proper := by
  cases call with
  | lookup sqlHash now =>
    show (c.touch sqlHash now).Proper
    rcases c.touch_cases sqlHash now with ⟨-, same⟩ | ⟨idx, e, fits, -, there, put⟩
    · rw [same]
      exact proper
    · rw [put]
      refine proper.put fits (proper.nonzero idx e there) ?_
      rw [length_taken_put_of_entry there]
      exact proper.counted
  | add e =>
    show (c.add e).cache.Proper
    by_cases zero : e.sqlHash = 0
    · rw [add, if_pos zero]
      exact proper
    · have ended := addCase (c := c) zero
      generalize c.add e = added at ended ⊢
      cases ended with
      | updated there same fits =>
        refine proper.put fits zero ?_
        rw [length_taken_put_of_entry there]
        exact proper.counted
      | inserted hole inside fits =>
        refine proper.put fits zero ?_
        rw [length_taken_put_of_hole hole, proper.counted]
      | refused => exact proper
      | replaced absent full there due fits =>
        refine proper.put fits zero ?_
        rw [length_taken_put_of_entry there]
        exact proper.counted
  | clear => exact proper_new

/-- **The table and the map hold the same names.** -/
structure Tracks (s : StmtCache × Recency) : Prop where
  proper : s.1.Proper
  same : ∀ entry, entry ∈ s.1.held ↔ entry ∈ s.2.entries

theorem StmtCache.Proper.lookup_eq_some_iff {c : StmtCache} (proper : c.Proper) {name : StmtName} :
    (c.lookup sqlHash).map StmtCacheEntry.stmtName = some name ↔ (sqlHash, name) ∈ c.held := by
  rw [mem_held, Option.map_eq_some_iff]
  constructor
  · rintro ⟨e, found, rfl⟩
    obtain ⟨-, rfl, idx, there⟩ := StmtCache.lookup_eq_some_iff.mp found
    exact ⟨idx, e, there, rfl⟩
  · rintro ⟨idx, e, there, naming⟩
    cases naming
    exact ⟨e, StmtCache.lookup_eq_some_iff.mpr ⟨proper.nonzero idx e there, rfl, idx, there⟩, rfl⟩

theorem sameNames_iff {s : StmtCache × Recency} (proper : s.1.Proper) :
    SameNames s ↔ ∀ entry, entry ∈ s.1.held ↔ entry ∈ s.2.entries := by
  constructor
  · rintro same ⟨sqlHash, name⟩
    rw [← proper.lookup_eq_some_iff, ← Lru.lookup_eq_some_iff, same sqlHash]
  · intro same sqlHash
    refine Option.ext fun name => ?_
    rw [proper.lookup_eq_some_iff, Lru.lookup_eq_some_iff, same]

variable {s : StmtCache × Recency}

theorem tracks_cleared : Tracks cleared := by
  refine ⟨proper_new, fun entry => ?_⟩
  simp [cleared, mem_held, new, Lru.empty]

section

variable (tracks : Tracks s)
include tracks

theorem Tracks.perm : s.1.held.Perm s.2.entries :=
  (List.perm_ext_iff_of_nodup nodup_held (s.2.distinct.of_map _)).mpr tracks.same

theorem Tracks.count : s.1.count = s.2.entries.length := by
  rw [tracks.proper.counted, ← tracks.perm.length_eq]
  exact (List.length_map _).symm

/-- What a faithful call leaves. -/
theorem Tracks.serve {call : CacheCall} (faithful : Faithful s call) :
    Tracks (serveBoth s call) := by
  have proper : (serveBoth s call).1.Proper := tracks.proper.serve call
  exact ⟨proper, (sameNames_iff proper).mp faithful.2⟩

theorem Tracks.lookup (sqlHash : ℕ) :
    (s.1.lookup sqlHash).map StmtCacheEntry.stmtName = s.2.lookup sqlHash :=
  (sameNames_iff tracks.proper).mpr tracks.same sqlHash

theorem Tracks.faithful_lookup (sqlHash : ℕ) (now : ℤ) :
    Faithful s (.lookup sqlHash now) := by
  refine ⟨tracks.lookup sqlHash, ?_⟩
  refine (sameNames_iff (tracks.proper.serve (.lookup sqlHash now))).mpr fun entry => ?_
  show entry ∈ (s.1.touch sqlHash now).held ↔ entry ∈ (s.2.use sqlHash).entries
  rw [Lru.mem_use, ← tracks.same]
  rcases s.1.touch_cases sqlHash now with ⟨-, same⟩ | ⟨idx, e, fits, -, there, put⟩
  · rw [same]
  · rw [put, mem_held_put, mem_held]
    constructor
    · rintro (rfl | ⟨idx', e', -, there', rfl⟩)
      · exact ⟨idx, e, there, rfl⟩
      · exact ⟨idx', e', there', rfl⟩
    · rintro ⟨idx', e', there', rfl⟩
      by_cases here : idx' = idx
      · subst here
        cases there.symm.trans there'
        exact .inl rfl
      · exact .inr ⟨idx', e', here, there', rfl⟩

theorem Tracks.faithful_clear : Faithful s .clear := by
  have forgotten : s.1.clear.1 = s.1.held.map Prod.snd := by
    simp [clear, held, taken, StmtCacheEntry.naming,
      List.map_filterMap, Function.comp_def]
  refine ⟨?_, ?_⟩
  · show s.1.clear.1.Perm (s.2.entries.map Prod.snd)
    rw [forgotten]
    exact tracks.perm.map Prod.snd
  · exact (sameNames_iff proper_new).mpr tracks_cleared.same

end

/-! ### Adding an entry -/

section Add

variable {e : StmtCacheEntry} {idx n : ℕ}
  {fits : Probing.Fits StmtCacheEntry.sqlHash id stmtCacheSize s.1.entries e.sqlHash idx}

theorem stmtCacheSize_pos : 0 < stmtCacheSize := by decide

variable (tracks : Tracks s)

section

include tracks

/-- **After an add the two hold the same names** if what had to leave its slot is what makes room
on the map, and nothing else does. -/
theorem Tracks.faithful_of_put {gone : Option StmtName}
    (added : s.1.add e = ⟨some idx, gone, s.1.put e idx n fits⟩)
    (answers : gone = (s.2.evicted e.sqlHash).map Prod.snd)
    (leaves : ∀ old, s.1.entries idx = some old →
      old.sqlHash = e.sqlHash ∨ s.2.evicted e.sqlHash = some old.naming)
    (only : ∀ oldest ∈ s.2.evicted e.sqlHash, ∃ old, s.1.entries idx = some old ∧
      old.naming = oldest) : Faithful s (.add e) := by
  have proper : (s.1.add e).cache.Proper := tracks.proper.serve (.add e)
  refine ⟨?_, (sameNames_iff proper).mpr fun entry => ?_⟩
  · show (s.1.add e).evicted = (s.2.evicted e.sqlHash).map Prod.snd
    rw [added, answers]
  show entry ∈ (s.1.add e).cache.held ↔ entry ∈ (s.2.add e.sqlHash e.stmtName).entries
  rw [added, mem_held_put, Lru.mem_add stmtCacheSize_pos, Lru.mem_others, ← tracks.same,
    mem_held]
  refine or_congr_right ⟨?_, ?_⟩
  · rintro ⟨idx', e', other, there, rfl⟩
    refine ⟨⟨⟨idx', e', there, rfl⟩, fun same => other (fits.alone idx' e' there same)⟩, ?_⟩
    intro evicted
    obtain ⟨old, there', same⟩ := only e'.naming evicted
    exact other (s.1.sound.distinct idx' idx e' old there there' (congrArg Prod.fst same).symm)
  · rintro ⟨⟨⟨idx', e', there, rfl⟩, other⟩, stays⟩
    refine ⟨idx', e', ?_, there, rfl⟩
    rintro rfl
    exact (leaves e' there).elim other stays

/-- An add that changes nothing in the table is not faithful. -/
theorem Tracks.not_faithful_of_refused
    (absent : e.naming ∉ s.1.held) (added : (s.1.add e).cache = s.1) :
    ¬ Faithful s (.add e) := by
  intro faithful
  have held := ((tracks.serve faithful).same e.naming).mpr
    ((Lru.mem_add stmtCacheSize_pos).mpr (.inl rfl))
  change e.naming ∈ (s.1.add e).cache.held at held
  rw [added] at held
  exact absent held

end

section

variable (absent : Probing.Absent StmtCacheEntry.sqlHash s.1.entries e.sqlHash)
include absent

theorem not_mem_held_of_absent : e.naming ∉ s.1.held := by
  intro mem
  obtain ⟨idx, old, there, same⟩ := mem_held.mp mem
  exact absent idx old there (congrArg Prod.fst same)

include tracks

theorem Tracks.lookup_eq_none :
    s.1.lookup e.sqlHash = none ∧ s.2.lookup e.sqlHash = none := by
  have missing : s.1.lookup e.sqlHash = none := by
    refine Option.eq_none_iff_forall_ne_some.mpr fun old found => ?_
    obtain ⟨-, same, idx, there⟩ := lookup_eq_some_iff.mp found
    exact absent idx old there same
  refine ⟨missing, ?_⟩
  rw [← tracks.lookup, missing]
  rfl

/-- **A full cache of other hashes**: its least recently used entry makes room on the map. -/
theorem Tracks.evicted_of_full
    (full : ∀ idx < stmtCacheSize, s.1.entries idx ≠ none) :
    s.1.count = stmtCacheSize ∧ ∃ oldest, s.2.oldest = some oldest ∧
      s.2.evicted e.sqlHash = some oldest ∧ oldest ∈ s.2.entries := by
  have whole : s.1.count = stmtCacheSize := by
    rw [tracks.proper.counted]
    refine le_antisymm s.1.length_taken_le (not_lt.mp fun fewer => ?_)
    obtain ⟨idx, inside, hole⟩ := length_taken_lt_iff.mp fewer
    exact full idx inside hole
  have length : s.2.entries.length = stmtCacheSize := tracks.count.symm.trans whole
  have crowded := Lru.not_lt_of_full length (tracks.lookup_eq_none absent).2
  refine ⟨whole, ?_⟩
  rw [Lru.evicted, if_neg crowded]
  cases last : s.2.oldest with
  | none =>
    rw [List.getLast?_eq_none_iff.mp last] at length
    exact absurd length stmtCacheSize_pos.ne
  | some oldest => exact ⟨oldest, rfl, rfl, List.mem_of_getLast? last⟩

/-- **The table's choice**: an add for which an entry makes room is faithful if and only if it
is the entry that makes room on the map. -/
theorem Tracks.faithful_replaced_iff {oldest : ℕ × StmtName}
    (there : s.1.entries idx = some old) (evicted : s.2.evicted e.sqlHash = some oldest)
    (added : s.1.add e = ⟨some idx, some old.stmtName, s.1.put e idx s.1.count fits⟩) :
    Faithful s (.add e) ↔ old.naming = oldest := by
  have other : old.sqlHash ≠ e.sqlHash := absent idx old there
  constructor
  · intro faithful
    by_contra differ
    have kept : old.naming ∈ (s.2.add e.sqlHash e.stmtName).entries := by
      refine (Lru.mem_add stmtCacheSize_pos).mpr (.inr ⟨Lru.mem_others.mpr ⟨?_, other⟩, ?_⟩)
      · exact (tracks.same old.naming).mp (mem_held.mpr ⟨idx, old, there, rfl⟩)
      · rw [evicted]
        exact fun same => differ (Option.some.inj same).symm
    have held := ((tracks.serve faithful).same old.naming).mpr kept
    change old.naming ∈ (s.1.add e).cache.held at held
    rw [added, mem_held_put] at held
    rcases held with same | ⟨idx', e', apart, there', same⟩
    · exact other (congrArg Prod.fst same)
    · exact apart (s.1.sound.distinct idx' idx e' old there' there (congrArg Prod.fst same))
  · rintro rfl
    refine tracks.faithful_of_put added (by rw [evicted]; rfl) (fun old' there' => ?_) ?_
    · cases there.symm.trans there'
      exact .inr evicted
    · intro oldest gone
      exact ⟨old, there, Option.some.inj (evicted.symm.trans gone)⟩

end

include tracks in
/-- **One add**: it is faithful exactly when it is in turn. -/
theorem Tracks.faithful_add_iff : Faithful s (.add e) ↔ InTurn s (.add e) := by
  by_cases zero : e.sqlHash = 0
  · have unnamed : e.naming ∉ s.1.held := by
      intro mem
      obtain ⟨idx, old, there, same⟩ := mem_held.mp mem
      exact tracks.proper.nonzero idx old there ((congrArg Prod.fst same).trans zero)
    have refused : (s.1.add e).cache = s.1 := by rw [add, if_pos zero]
    exact iff_of_false (tracks.not_faithful_of_refused unnamed refused) fun turn => turn.1 zero
  · have ended := addCase (c := s.1) zero
    generalize added : s.1.add e = result at ended
    cases ended with
    | @updated idx old there same fits =>
      have found : s.1.lookup e.sqlHash = some old :=
        lookup_eq_some_iff.mpr ⟨zero, same, idx, there⟩
      have room : s.2.evicted e.sqlHash = none := by
        refine Option.eq_none_iff_forall_ne_some.mpr fun oldest gone => ?_
        have missing := (Lru.evicted_eq_some gone).2.2.1
        rw [← tracks.lookup, found] at missing
        cases missing
      have own (old' : StmtCacheEntry) (there' : s.1.entries idx = some old') :
          old'.sqlHash = e.sqlHash := by
        rw [there] at there'
        rw [← Option.some.inj there', same]
      refine iff_of_true (tracks.faithful_of_put added (by rw [room]; rfl)
        (fun old' there' => .inl (own old' there')) (by simp [room])) ⟨zero, fun _ missing => ?_⟩
      rw [found] at missing
      cases missing
    | @inserted idx hole inside fits =>
      have fewer : s.1.count < stmtCacheSize := by
        rw [tracks.proper.counted]
        exact length_taken_lt_iff.mpr ⟨idx, inside, hole⟩
      have room : s.2.evicted e.sqlHash = none := by
        refine Option.eq_none_iff_forall_ne_some.mpr fun oldest gone => ?_
        have full := (Lru.evicted_eq_some gone).2.2.2
        exact absurd (tracks.count.trans full) fewer.ne
      refine iff_of_true (tracks.faithful_of_put added (by rw [room]; rfl) (by simp [hole])
        (by simp [room])) ⟨zero, fun full => ?_⟩
      exact absurd full fewer.ne
    | refused absent full never =>
      obtain ⟨whole, oldest, last, -⟩ := tracks.evicted_of_full absent full
      refine iff_of_false ?_ fun turn => ?_
      · exact tracks.not_faithful_of_refused (not_mem_held_of_absent absent) (by rw [added])
      · obtain ⟨idx, -, due, -⟩ := turn.2 whole (tracks.lookup_eq_none absent).1 oldest last
        exact never idx due
    | @replaced idx old absent full there due fits =>
      obtain ⟨whole, oldest, last, evicted, held⟩ := tracks.evicted_of_full absent full
      rw [tracks.faithful_replaced_iff absent there evicted added]
      constructor
      · rintro rfl
        refine ⟨zero, fun _ _ oldest' last' => ?_⟩
        rw [last] at last'
        cases last'
        exact ⟨idx, old, due, there, rfl⟩
      · intro turn
        obtain ⟨idx', old', due', there', same⟩ :=
          turn.2 whole (tracks.lookup_eq_none absent).1 oldest last
        rw [due'.unique due, there] at there'
        cases there'
        -- The map has one entry for a hash.
        obtain ⟨sqlHash, name⟩ := oldest
        subst same
        have mem : (old.sqlHash, old.stmtName) ∈ s.2.entries :=
          (tracks.same old.naming).mp (mem_held.mpr ⟨idx, old, there, rfl⟩)
        rw [StmtCacheEntry.naming, Lru.unique_of_mem mem held]

end Add

/-! ### Whole runs -/

theorem Tracks.faithful_iff (tracks : Tracks s) (call : CacheCall) :
    Faithful s call ↔ InTurn s call := by
  cases call with
  | lookup sqlHash now => exact iff_of_true (tracks.faithful_lookup sqlHash now) trivial
  | add e => exact tracks.faithful_add_iff
  | clear => exact iff_of_true tracks.faithful_clear trivial

theorem proper_final (calls : List CacheCall) :
    (Runs.final serveBoth cleared calls).1.Proper := by
  have always : Runs.Meets serveBoth (fun _ _ => True) cleared calls :=
    Runs.meets_of_forall fun _ _ => trivial
  exact always.invariant (fun s => s.1.Proper) (fun s call proper _ => proper.serve call)
    proper_new

/-- **The cache of prepared statements as a map with least-recently-used replacement.**  After
any calls its entries are counted, no more than fit and no two of one hash.  It behaves as the
map does, in every answer and in the names held after every call, exactly when every add of the
run is in turn. -/
theorem serves_iff (calls : List CacheCall) :
    let c := (Runs.final serveBoth cleared calls).1
    (c.count = c.taken.length ∧ c.taken.length ≤ stmtCacheSize ∧
        (c.taken.map StmtCacheEntry.sqlHash).Nodup) ∧
      (Runs.Meets serveBoth Faithful cleared calls ↔
        Runs.Meets serveBoth InTurn cleared calls) := by
  refine ⟨⟨(proper_final calls).counted, length_taken_le _, nodup_hashes _⟩, ?_⟩
  exact Runs.meets_iff_of_invariant Tracks (fun _ call tracks => tracks.faithful_iff call)
    (fun _ _ tracks faithful => tracks.serve faithful) tracks_cleared calls

/-! ### A second with many statements -/

/-- The entry of a hash in the table's second round, so that its home is slot `i`. -/
def hurried (i : ℕ) : StmtCacheEntry := ⟨512 + i, ⟨.cachedRead, 512 + i⟩, 0, 1700000000⟩

/-- As many statements as fit, all prepared in the same second. -/
def oneSecond (n : ℕ) : List CacheCall := (List.range n).map fun i => .add (hurried i)

theorem oneSecond_succ (n : ℕ) : oneSecond (n + 1) = oneSecond n ++ [.add (hurried n)] := by
  rw [oneSecond, List.range_succ, List.map_append]
  rfl

theorem StmtCache.add_entries_of_home {c : StmtCache} {e : StmtCacheEntry}
    (nonzero : e.sqlHash ≠ 0)
    (hole : c.entries (Probing.slot id stmtCacheSize e.sqlHash 0) = none) :
    (c.add e).cache.entries =
      Function.update c.entries (Probing.slot id stmtCacheSize e.sqlHash 0) (some e) := by
  have home : c.place e.sqlHash = .empty (Probing.slot id stmtCacheSize e.sqlHash 0) :=
    Probing.place_of_home _ stmtCacheSize_pos hole
  unfold add
  rw [if_neg nonzero]
  split
  all_goals
    rename_i placed
    rw [home] at placed
    cases placed
  rfl

theorem others_of_hurried {n : ℕ} (fresh : 512 + n ≤ sqlHash)
    (order : s.2.entries = ((List.range n).map fun i => (hurried i).naming).reverse) :
    s.2.others sqlHash = s.2.entries := by
  refine List.filter_eq_self.mpr fun entry mem => ?_
  rw [order, List.mem_reverse, List.mem_map] at mem
  obtain ⟨i, before, rfl⟩ := mem
  have apart : 512 + i ≠ sqlHash := by
    have := List.mem_range.mp before
    omega
  exact decide_eq_true apart

/-- After `n` of them the first `n` slots are taken, and the map has the first of them last. -/
theorem final_oneSecond {n : ℕ} (fit : n ≤ stmtCacheSize) :
    (Runs.final serveBoth cleared (oneSecond n)).1.entries =
        (fun idx => if idx < n then some (hurried idx) else none) ∧
      (Runs.final serveBoth cleared (oneSecond n)).2.entries =
        ((List.range n).map fun i => (hurried i).naming).reverse := by
  induction n with
  | zero => exact ⟨rfl, rfl⟩
  | succ n ih =>
    obtain ⟨slots, order⟩ := ih (by omega)
    rw [oneSecond_succ, Runs.final_append, Runs.final_cons, Runs.final_nil]
    generalize Runs.final serveBoth cleared (oneSecond n) = s at slots order ⊢
    have below : n < 512 := fit
    have home : Probing.slot id stmtCacheSize (hurried n).sqlHash 0 = n := by
      show (512 + n + 0) % 512 = n
      omega
    constructor
    · show (s.1.add (hurried n)).cache.entries = _
      rw [add_entries_of_home (by simp [hurried]), home, slots]
      · funext idx
        by_cases here : idx = n
        · subst here
          simp
        · rw [Function.update_of_ne here]
          have still : idx < n ↔ idx < n + 1 := by omega
          simp only [still]
      · rw [home, slots]
        exact if_neg (Nat.lt_irrefl n)
    · show ((hurried n).naming :: s.2.others (hurried n).sqlHash).take stmtCacheSize = _
      have others : s.2.others (hurried n).sqlHash = s.2.entries := others_of_hurried le_rfl order
      rw [others, order, List.take_of_length_le]
      · rw [List.range_succ, List.map_append, List.reverse_append]
        rfl
      · simpa using fit

/-- A statement of the same second whose home is slot 5. -/
def straggler : StmtCacheEntry := ⟨1029, ⟨.cachedRead, 1029⟩, 0, 1700000000⟩

section Straggler

variable (slots : s.1.entries = fun idx => if idx < 512 then some (hurried idx) else none)
  (order : s.2.entries = ((List.range 512).map fun i => (hurried i).naming).reverse)

include slots

theorem hurried_of_entry {idx : ℕ} {e : StmtCacheEntry} (there : s.1.entries idx = some e) :
    e = hurried idx ∧ idx < 512 := by
  rw [slots] at there
  dsimp only at there
  split at there
  next inside => exact ⟨(Option.some.inj there).symm, inside⟩
  · cases there

theorem due_straggler : s.1.Due straggler.sqlHash 5 := by
  have there : s.1.entries 5 = some (hurried 5) := by rw [slots]; rfl
  refine ⟨0, stmtCacheSize_pos, rfl, hurried 5, there, by decide, ?_⟩
  intro i inside e there
  rw [(hurried_of_entry slots there).1]
  exact ⟨le_rfl, fun before => absurd before (Nat.not_lt_zero i)⟩

theorem straggler_evicts : (s.1.add straggler).evicted = some ⟨.cachedRead, 517⟩ := by
  have due := due_straggler slots
  have ended := addCase (c := s.1) (e := straggler) (by decide)
  generalize s.1.add straggler = added at ended ⊢
  cases ended with
  | @updated idx old there same =>
    obtain ⟨rfl, inside⟩ := hurried_of_entry slots there
    have same : 512 + idx = 1029 := same
    omega
  | @inserted idx hole inside =>
    have inside : idx < 512 := inside
    rw [slots] at hole
    dsimp only at hole
    rw [if_pos inside] at hole
    cases hole
  | refused absent full never => exact absurd due (never 5)
  | @replaced idx old absent full there due' =>
    obtain ⟨rfl, -⟩ := hurried_of_entry slots there
    have five : idx = 5 := due'.unique due
    subst five
    rfl

omit slots
include order

theorem first_is_oldest : s.2.evicted straggler.sqlHash = some (512, ⟨.cachedRead, 512⟩) := by
  have others : s.2.others straggler.sqlHash = s.2.entries :=
    others_of_hurried (by decide) order
  have full : ¬ (s.2.others straggler.sqlHash).length < stmtCacheSize := by
    rw [others, order, List.length_reverse, List.length_map, List.length_range]
    exact Nat.lt_irrefl 512
  rw [Lru.evicted, if_neg full, Lru.oldest, order, List.getLast?_reverse, List.head?_map,
    List.head?_range]
  rfl

include slots

theorem straggler_not_faithful : ¬ Faithful s (.add straggler) := by
  rintro ⟨answers, -⟩
  rw [SameAnswer, straggler_evicts slots, first_is_oldest order] at answers
  exact absurd answers (by decide)

end Straggler

/-- **A newer entry makes room.**  Of 512 statements prepared in one second the sixth is
forgotten for the next, because that one's probes begin there; the first, whose last use is
oldest, stays. -/
theorem newer_entry_evicted :
    let s := Runs.final serveBoth cleared (oneSecond 512)
    (s.1.add straggler).evicted = some ⟨.cachedRead, 517⟩ ∧
      s.2.evicted straggler.sqlHash = some (512, ⟨.cachedRead, 512⟩) ∧
      ¬ Runs.Meets serveBoth Faithful cleared (oneSecond 512 ++ [.add straggler]) := by
  have filled := final_oneSecond (Nat.le_refl 512)
  refine ⟨straggler_evicts filled.1, first_is_oldest filled.2, ?_⟩
  rw [Runs.meets_append, Runs.meets_cons]
  rintro ⟨-, faithful, -⟩
  exact straggler_not_faithful filled.1 filled.2 faithful

end PlexPostgres.Conn
