import PlexPostgres.Conn.Backend
import PlexPostgres.Library.Runs

/-!
# The names in the cache are prepared

A connection that looks up the hash of a statement's SQL runs whatever name its cache gives.
That is right as long as each name in the cache denotes, on the session the connection has now,
a statement prepared from the SQL of that hash.  An entry that makes room gives its own name up
and no other's, so the cache keeps to this by itself; a session that is replaced takes every
name with it.

`PQreset` in the paths of the statements leaves the cache as it is.  What remains true is the
invariant along the runs in which it does so only when the cache is empty.
-/

namespace PlexPostgres.Conn

open Postgres
open Function (update update_of_ne update_self)

variable {ω : Type*}

/-- There is no name in the cache. -/
def StmtCache.IsEmpty (c : StmtCache) : Prop := ∀ idx, c.entries idx = none

theorem StmtCache.isEmpty_new : StmtCache.new.IsEmpty := fun _ => rfl

variable {l : Link ω} {fate : Fate}

/-- A statement that is sent does not close the connection. -/
theorem send_closed {isCommit : Bool} {react : Session ω → Reply ω}
    (closed : (l.send isCommit react fate).link = .closed) : l = .closed := by
  cases l with
  | closed => rfl
  | down =>
    rw [(Link.send_of_not_up rfl _ _ _).2.1] at closed
    cases closed
  | up s =>
    cases verdict : fate.verdict with
    | accept => rw [Link.send_accept _ _ _ verdict] at closed; cases closed
    | refuse ends => rw [Link.send_refuse _ _ _ verdict] at closed; cases closed
    | lose applied noResult => rw [Link.send_lose _ _ _ verdict] at closed; cases closed

/-- Over a connection that is closed nothing succeeds. -/
theorem unclosed_of_ok (ok : (l.query fate).answer = .ok) :
    l ≠ .closed := by
  rintro rfl
  obtain ⟨message, failed⟩ := (Link.send_of_not_up (l := (.closed : Link ω)) rfl false (·.query)
    fate).1
  rw [Link.query, failed] at ok
  cases ok

open StmtCache (isEmpty_new touch_entry)

namespace Backend

/-- **The names in the cache are prepared**, on the session of now and from the SQL of the hash
they are kept by.  A connection that is closed has none. -/
structure Names (b : Backend ω) : Prop where
  cached : ∀ idx e, b.cache.entries idx = some e → b.prepared e.stmtName = some e.sqlHash
  /-- A name says the hash of what is prepared under it. -/
  honest : ∀ name sqlHash, b.prepared name = some sqlHash → sqlHash = name.sqlHash
  closed : b.link = .closed → b.cache.IsEmpty

variable {b : Backend ω}

/-! ### Sessions -/

/-- Where neither the cache nor what is prepared changes. -/
theorem Names.same (names : b.Names) {b' : Backend ω} (cache : b'.cache = b.cache)
    (prepared : b'.prepared = b.prepared) (link : b'.link = .closed → b.link = .closed) :
    b'.Names where
  cached idx e there := by
    rw [prepared]
    exact names.cached idx e (by rw [← cache]; exact there)
  honest name sqlHash there := names.honest name sqlHash (by rw [← prepared]; exact there)
  closed closed := by
    rw [cache]
    exact names.closed (link closed)

/-- With an empty cache there is no name to be wrong. -/
theorem Names.of_isEmpty (names : b.Names) {b' : Backend ω} (empty : b'.cache.IsEmpty)
    (prepared : b'.prepared = b.prepared) : b'.Names where
  cached idx e there := by
    rw [empty idx] at there
    cases there
  honest name sqlHash there := names.honest name sqlHash (by rw [← prepared]; exact there)
  closed _ := empty

/-- **A new session** has nothing prepared: the cache has to be empty. -/
theorem names_begin (empty : b.cache.IsEmpty) : b.begin.Names where
  cached idx e there := by
    rw [begin_cache, empty idx] at there
    cases there
  honest := nofun
  closed := nofun

theorem Names.setSearchPath (names : b.Names) (schema : Text) (fate : Fate) :
    (b.setSearchPath schema fate).Names :=
  names.same rfl rfl send_closed

theorem Names.setTimeout (names : b.Names) (fate : Fate) : (b.setTimeout fate).Names :=
  names.same rfl rfl send_closed

theorem Names.applySettings (names : b.Names) (schema : Text) (env : SettingsEnv) :
    (b.applySettings schema env).Names :=
  (names.setSearchPath schema env.searchPath).setTimeout env.timeout

theorem Names.traffic (names : b.Names) (after : Session ω → Option (Session ω)) :
    (b.traffic after).Names := by
  unfold Backend.traffic
  split
  next s link =>
    refine names.same rfl rfl fun closed => ?_
    dsimp only at closed
    split at closed <;> cases closed
  · exact names
  · exact names

/-! ### The cache -/

/-- DEALLOCATE takes its own name away, or nothing. -/
theorem deallocate_prepared (name : StmtName) (fate : Fate) :
    (b.deallocate name fate).prepared = update b.prepared name none ∨
      (b.deallocate name fate).prepared = b.prepared := by
  unfold Backend.deallocate
  dsimp only
  generalize (if (b.prepared name).isSome = true then fate else errorFate fate) = fate'
  split
  · exact .inl rfl
  · exact .inr rfl

/-- A statement that no entry names can be deallocated. -/
theorem Names.deallocate (names : b.Names) {name : StmtName}
    (absent : ∀ idx e, b.cache.entries idx = some e → e.stmtName ≠ name) (fate : Fate) :
    (b.deallocate name fate).Names := by
  have link : (b.deallocate name fate).link = .closed → b.link = .closed := send_closed
  rcases deallocate_prepared (b := b) name fate with taken | same
  · refine ⟨fun idx e there => ?_, fun other sqlHash there => ?_, fun closed => ?_⟩
    · rw [taken, update_of_ne (absent idx e there)]
      exact names.cached idx e there
    · by_cases same : other = name
      · rw [taken, same, update_self] at there
        cases there
      · rw [taken, update_of_ne same] at there
        exact names.honest other sqlHash there
    · exact names.closed (link closed)
  · exact names.same rfl same link

theorem Names.deallocateAll (names : b.Names) (empty : b.cache.IsEmpty) (fate : Fate) :
    (b.deallocateAll fate).Names := by
  refine ⟨fun idx e there => ?_, fun name sqlHash there => ?_, fun _ => empty⟩
  · rw [show (b.deallocateAll fate).cache.entries idx = none from empty idx] at there
    cases there
  · unfold Backend.deallocateAll at there
    dsimp only at there
    split at there
    · cases there
    · exact names.honest name sqlHash there

theorem Names.cacheClear (names : b.Names) (fates : ℕ → Fate) : (b.cacheClear fates).Names := by
  have each (forgotten : List StmtName) (b : Backend ω) (fates : ℕ → Fate) (names : b.Names)
      (empty : b.cache.IsEmpty) : (b.deallocateEach forgotten fates).Names := by
    induction forgotten generalizing b fates with
    | nil => exact names
    | cons name forgotten ih =>
      refine ih _ _ (names.deallocate (fun idx e there => ?_) _) empty
      rw [empty idx] at there
      cases there
  exact each _ _ _ (names.of_isEmpty isEmpty_new rfl) isEmpty_new

theorem cacheClear_isEmpty (fates : ℕ → Fate) : (b.cacheClear fates).cache.IsEmpty := by
  rw [cacheClear_cache]
  exact isEmpty_new

section

variable (names : b.Names)
include names

theorem Names.cacheLookup (sqlHash : ℕ) (now : ℤ) :
    (b.cacheLookup sqlHash now).2.Names := by
  constructor
  · intro idx e there
    obtain ⟨old, was, sameHash, sameName⟩ := touch_entry b.cache there
    have prepared := names.cached idx old was
    rw [sameHash, sameName] at prepared
    exact prepared
  · exact names.honest
  · intro closed idx
    cases there : (b.cache.touch sqlHash now).entries idx with
    | none => exact there
    | some e =>
      obtain ⟨old, was, -⟩ := touch_entry b.cache there
      rw [names.closed closed idx] at was
      cases was

/-- **A statement that is prepared** now, or was under its name, is there. -/
theorem Names.prepare (name : StmtName) (fate : Fate) :
    (b.prepare name fate).2.Names ∧ ((b.prepare name fate).1 ≠ .failed →
      (b.prepare name fate).2.prepared name = some name.sqlHash ∧
      (b.prepare name fate).2.link ≠ .closed) := by
  unfold Backend.prepare
  split
  next taken =>
    obtain ⟨sqlHash, there⟩ := Option.isSome_iff_exists.mp taken
    refine ⟨names.same rfl rfl send_closed, fun done => ?_⟩
    dsimp only at done ⊢
    split at done
    next duplicate =>
      simp only [Bool.and_eq_true, decide_eq_true_eq] at duplicate
      refine ⟨?_, fun closed => unclosed_of_ok duplicate.2 (send_closed closed)⟩
      rw [there, names.honest name sqlHash there]
    · exact absurd rfl done
  · dsimp only
    split
    next ok =>
      refine ⟨?_, fun _ => ⟨update_self .., fun closed =>
        unclosed_of_ok ok (send_closed closed)⟩⟩
      constructor
      · intro idx e there
        have prepared := names.cached idx e there
        by_cases same : e.stmtName = name
        · have hash := names.honest _ _ prepared
          dsimp only
          rw [same, update_self, hash, same]
        · dsimp only
          rw [update_of_ne same]
          exact prepared
      · intro other sqlHash there
        by_cases same : other = name
        · dsimp only at there
          rw [same, update_self] at there
          cases there
          rw [same]
        · dsimp only at there
          rw [update_of_ne same] at there
          exact names.honest other sqlHash there
      · intro closed
        exact names.closed (send_closed closed)
    · exact ⟨names.same rfl rfl send_closed, fun done => absurd rfl done⟩

/-- **An entry is added** for a statement that is there.  The name that makes room is of another
hash than every entry that stays. -/
theorem Names.cacheAdd {e : StmtCacheEntry}
    (prepared : b.prepared e.stmtName = some e.sqlHash) (unclosed : b.link ≠ .closed)
    (fate : Fate) : (b.cacheAdd e fate).Names := by
  unfold Backend.cacheAdd
  dsimp only
  rcases b.cache.add_cases e with ⟨same, nothing⟩ | ⟨slot, entries, alone, makesRoom⟩
  · rw [nothing]
    exact names.same same rfl id
  · have stays (idx : ℕ) (e' : StmtCacheEntry)
        (there : (b.cache.add e).cache.entries idx = some e') :
        e' = e ∨ idx ≠ slot ∧ b.cache.entries idx = some e' := by
      rw [entries] at there
      by_cases here : idx = slot
      · rw [here, update_self] at there
        cases there
        exact .inl rfl
      · rw [update_of_ne here] at there
        exact .inr ⟨here, there⟩
    have added : Names { b with cache := (b.cache.add e).cache } := by
      refine ⟨fun idx e' there => ?_, names.honest, fun closed => absurd closed unclosed⟩
      rcases stays idx e' there with new | ⟨-, was⟩
      · rw [new]
        exact prepared
      · exact names.cached idx e' was
    split
    · exact added
    next name evicted =>
      obtain ⟨old, was, rfl, other⟩ := makesRoom name evicted
      refine added.deallocate (fun idx e' there sameName => ?_) fate
      -- Two statements of one name have one hash, and a hash has one slot.
      have hashOf (idx : ℕ) (e : StmtCacheEntry) (there : b.cache.entries idx = some e) :
          e.sqlHash = e.stmtName.sqlHash :=
        names.honest _ _ (names.cached idx e there)
      rcases stays idx e' there with new | ⟨elsewhere, was'⟩
      · apply other
        rw [hashOf slot old was, ← sameName, new]
        exact (names.honest _ _ prepared).symm
      · apply elsewhere
        refine b.cache.sound.distinct idx slot e' old was' was ?_
        rw [hashOf idx e' was', hashOf slot old was, sameName]

theorem Names.fetch (name : StmtName) (paramCount now : ℤ)
    (fate deallocate : Fate) : (b.fetch name paramCount now fate deallocate).2.Names := by
  have looked := names.cacheLookup name.sqlHash now
  unfold Backend.fetch
  generalize b.cacheLookup name.sqlHash now = lookup at looked ⊢
  obtain ⟨_ | found, b'⟩ := lookup
  · have after := looked.prepare name fate
    dsimp only at after ⊢
    generalize b'.prepare name fate = done at after ⊢
    obtain ⟨_ | _ | _, b''⟩ := done
    · obtain ⟨names, there⟩ := after
      exact names.cacheAdd (there nofun).1 (there nofun).2 _
    · obtain ⟨names, there⟩ := after
      exact names.cacheAdd (there nofun).1 (there nofun).2 _
    · exact after.1
  · exact looked

end

/-! ### Resets and new connections -/

theorem Names.connectFresh (names : b.Names) (library : Text) (env : ReadyEnv) :
    (b.connectFresh library env).2.Names := by
  have cleared := names.cacheClear env.deallocate
  have empty := cacheClear_isEmpty (b := b) env.deallocate
  unfold Backend.connectFresh
  generalize b.cacheClear env.deallocate = b' at cleared empty ⊢
  dsimp only
  split
  · exact (names_begin (b := b'.finish) empty).applySettings _ _
  · exact cleared.of_isEmpty empty rfl

/-- A reset by the pool, after the cache was emptied. -/
theorem Names.resetConn (names : b.Names) (empty : b.cache.IsEmpty) (library : Text)
    (resetOk : Bool) (env : SettingsEnv) :
    (b.resetConn library resetOk env).2.Names ∧
      (b.resetConn library resetOk env).2.cache.IsEmpty := by
  unfold Backend.resetConn
  split_ifs with closed reset
  · exact ⟨names, empty⟩
  · exact ⟨(names_begin empty).applySettings _ _, empty⟩
  · exact ⟨names.of_isEmpty empty rfl, empty⟩

theorem Names.reconnectConn (names : b.Names) (empty : b.cache.IsEmpty) (library : Text)
    (connectOk : Bool) (env : SettingsEnv) : (b.reconnectConn library connectOk env).2.Names := by
  unfold Backend.reconnectConn
  split
  · exact (names_begin (b := b.finish) empty).applySettings _ _
  · exact names.of_isEmpty empty rfl

theorem Names.checkHealth (names : b.Names) (library : Text) (env : PoolEnv) :
    (b.checkHealth library env).Names := by
  unfold Backend.checkHealth
  split
  · exact names
  · have reset := (names.cacheClear env.deallocate).resetConn (cacheClear_isEmpty _) library
      env.resetOk env.settings
    generalize Backend.resetConn _ _ _ _ = done at reset ⊢
    obtain ⟨_ | _, b'⟩ := done
    · exact reset.1.reconnectConn reset.2 library _ _
    · exact reset.1

theorem Names.acquire (names : b.Names) (library : Text) (env : PoolEnv) :
    (b.acquire library env).Names := by
  unfold Backend.acquire
  split
  · exact names
  · exact (names.cacheClear env.deallocate).reconnectConn (cacheClear_isEmpty _) library _ _

theorem Names.reuse (names : b.Names) (library : Text) (env : PoolEnv) :
    (b.reuse library env).Names := by
  unfold Backend.reuse
  dsimp only
  generalize rolledBack : (if b.link.inTransaction = true then _ else _ : Backend ω) = b₀
  have names₀ : b₀.Names := by
    rw [← rolledBack]
    split
    · exact names.same rfl rfl send_closed
    · exact names
  have reset := (names₀.cacheClear env.deallocate).resetConn (cacheClear_isEmpty _) library
    env.resetOk env.settings
  generalize Backend.resetConn _ _ _ _ = done at reset ⊢
  obtain ⟨_ | _, b'⟩ := done
  · exact (reset.1.cacheClear env.deallocate).reconnectConn (cacheClear_isEmpty _) library _ _
  · exact reset.1

theorem names_create (library : Text) (connectOk : Bool) (env : SettingsEnv) :
    (create library connectOk env : Backend ω).Names := by
  cases connectOk with
  | false => exact ⟨nofun, nofun, fun _ => isEmpty_new⟩
  | true =>
    have path := (names_begin (ω := ω)
      (b := ⟨.pool, .closed, ⟨none, false⟩, fun _ => none, .new⟩)
      isEmpty_new).setSearchPath library env.searchPath
    exact (path.deallocateAll isEmpty_new env.deallocateAll).setTimeout env.timeout

/-! ### The paths of the statements -/

section Ready

variable (library : Text) {env : ReadyEnv}
  (forgotten : b.link = .down → env.resetOk = true → b.cache.IsEmpty)

include forgotten

theorem Names.prepareWrite (names : b.Names) (opened : ¬b.link.isClosed = true) :
    (b.prepareWrite library env).2.Names := by
  unfold Backend.prepareWrite
  split_ifs with up reset
  · exact names
  · exact names_begin (forgotten (eq_down up opened) reset)
  · exact names.connectFresh library env

theorem Names.prepareRead (names : b.Names) (opened : ¬b.link.isClosed = true) :
    (b.prepareRead library env).2.Names := by
  unfold Backend.prepareRead
  split_ifs with up reset configured
  · exact names
  · exact (names_begin (forgotten (eq_down up opened) reset)).applySettings _ _
  · exact names_begin (forgotten (eq_down up opened) reset)
  · exact names.connectFresh library env

theorem Names.preflight (names : b.Names) : (b.preflight library env).2.Names := by
  have fresh := names.connectFresh library env
  unfold Backend.preflight
  split_ifs with up closed connects reset configured
  · exact names
  · have empty : b.cache.IsEmpty := by
      apply names.closed
      cases link : b.link with
      | closed => rfl
      | down | up => rw [link] at closed; cases closed
    exact (names_begin empty).applySettings _ _
  · exact names
  · exact (names_begin (forgotten (eq_down up closed) reset)).applySettings _ _
  · exact names_begin (forgotten (eq_down up closed) reset)
  · generalize b.connectFresh library env = connected at fresh ⊢
    obtain ⟨_ | _, b'⟩ := connected
    · exact fresh
    · exact fresh.applySettings _ _

end Ready

end Backend

/-! ### Runs -/

/-- The paths that reset a connection that has lost its session. -/
def Path.resets : Path → Bool
  | .stepRead | .stepWrite | .exec => true
  | .cachedRead | .cachedWrite => false

/-- **The condition on an event**: a statement's path that resets the connection meets no name
in its cache. -/
def Event.Forgotten (b : Backend ω) : Event ω → Prop
  | .ready path env =>
    path.resets = true → b.link = .down → env.resetOk = true → b.cache.IsEmpty
  | .traffic _ | .lookup _ _ | .fetch _ _ _ _ _ | .clear _ | .clearLocal | .health _
  | .acquire _ | .reuse _ | .create _ _ | .connect _ _ _ | .destroy => True

namespace Backend

variable {b : Backend ω}

theorem Names.ready (names : b.Names) (library : Text) {path : Path} {env : ReadyEnv}
    (forgotten : Event.Forgotten b (.ready path env)) : (path.ready library b env).2.Names := by
  cases path with
  | exec => exact names.preflight library (forgotten rfl)
  | stepRead =>
    exact iteInduction (motive := fun done : Bool × Backend ω => done.2.Names) (fun _ => names)
      fun opened => names.prepareRead library (forgotten rfl) opened
  | stepWrite =>
    exact iteInduction (motive := fun done : Bool × Backend ω => done.2.Names) (fun _ => names)
      fun opened => names.prepareWrite library (forgotten rfl) opened
  | cachedRead | cachedWrite => exact names

/-- **What an event leaves**: every name in the cache is prepared. -/
theorem Names.next (names : b.Names) (library : Text) {event : Event ω}
    (forgotten : event.Forgotten b) : (b.next library event).Names := by
  cases event with
  | ready path env => exact names.ready library forgotten
  | traffic after => exact names.traffic after
  | lookup sqlHash now => exact names.cacheLookup sqlHash now
  | fetch name paramCount now fate deallocate =>
    exact names.fetch name paramCount now fate deallocate
  | clear fates => exact names.cacheClear fates
  | clearLocal => exact names.of_isEmpty isEmpty_new rfl
  | health env =>
    exact iteInduction (motive := Names)
      (fun _ => names.checkHealth library env) fun _ => names
  | acquire env =>
    exact iteInduction (motive := Names)
      (fun _ => names.acquire library env) fun _ => names
  | reuse env =>
    exact iteInduction (motive := Names)
      (fun _ => names.reuse library env) fun _ => names
  | create connectOk env => exact names_create library connectOk env
  | connect guide connectOk env =>
    cases connectOk with
    | false => exact ⟨nofun, nofun, fun _ => isEmpty_new⟩
    | true => exact (names_begin isEmpty_new).applySettings _ _
  | destroy => exact names.of_isEmpty isEmpty_new rfl

/-- **Lookups give prepared statements.**  In every run on a connection that is not made yet,
whose events all meet the condition, the name a lookup of a hash gives denotes a statement
prepared, on the session the connection has then, from the SQL of that hash. -/
theorem lookups_are_prepared (library : Text) (start : Backend ω)
    (nothing : start.prepared = fun _ => none) (empty : start.cache = .new)
    (run : List (Event ω)) (forgotten : Runs.Meets (next library) Event.Forgotten start run)
    (sqlHash : ℕ) (now : ℤ) (name : StmtName)
    (found : ((Runs.final (next library) start run).cacheLookup sqlHash now).1 = some name) :
    (Runs.final (next library) start run).prepared name = some sqlHash := by
  have first : start.Names := by
    refine ⟨fun idx e there => ?_, fun name sqlHash there => ?_, fun _ => ?_⟩
    · rw [empty] at there
      cases there
    · rw [nothing] at there
      cases there
    · rw [empty]
      exact isEmpty_new
  have names : (Runs.final (next library) start run).Names :=
    forgotten.invariant Names (fun b event names ok => names.next library ok) first
  obtain ⟨e, looked, rfl⟩ := Option.map_eq_some_iff.mp found
  obtain ⟨rfl, idx, there⟩ := StmtCache.lookup_eq_some looked
  exact names.cached idx e there

/-! ### Two runs -/

/-- A connection that is not made yet. -/
def unmade : Backend Unit := .create [] false ⟨.fine, .fine, .fine⟩

/-- It is made. -/
def made : Event Unit := .create true ⟨.fine, .fine, .fine⟩

/-- A statement is prepared on it, and its name kept. -/
def kept : Event Unit := .fetch ⟨.registered, 7⟩ 0 0 .fine .fine

/-- Its session is lost. -/
def lost : Event Unit := .traffic fun _ => none

/-- The next read resets it, and nothing goes wrong. -/
def readReset : Event Unit := .ready .stepRead
  ⟨true, true, true, ⟨.fine, .fine, .fine⟩, ⟨.fine, .fine, .fine⟩, fun _ => .fine⟩

theorem lookups_are_prepared_of_kept :
    let now := Runs.final (next "plex".toList) unmade [made, kept]
    (now.cacheLookup 7 1).1 = some ⟨.registered, 7⟩ ∧ now.prepared ⟨.registered, 7⟩ = some 7 := by
  intro now
  have found : (now.cacheLookup 7 1).1 = some ⟨.registered, 7⟩ := by decide
  exact ⟨found, lookups_are_prepared "plex".toList unmade rfl rfl [made, kept]
    ⟨trivial, trivial, trivial⟩ 7 1 _ found⟩

/-- **A name that is not prepared.**  The session is lost with the statement that was prepared
on it; a read resets the connection, whose cache still gives the name. -/
theorem lookup_after_reset :
    let now := Runs.final (next "plex".toList) unmade [made, kept, lost, readReset]
    now.link = .up .idle ∧ (now.cacheLookup 7 1).1 = some ⟨.registered, 7⟩ ∧
      now.prepared ⟨.registered, 7⟩ = none := by
  decide

end Backend

end PlexPostgres.Conn
