import PlexPostgres.Conn.Backend
import PlexPostgres.Library.Runs
import PlexPostgres.Pool.Acquire
import PlexPostgres.Routing.Guides

/-!
# Statements and the settings of their session

A new session knows neither the shim's search path nor its statement timeout, and a statement
sent before they are set finds the tables of another schema, or none.  Whether the server
accepted the settings is never asked, and one path forgets them: a write whose connection a
reset brings back is sent on a session with default settings.

A run is made of events at any of the connections.  The condition on an event keeps the
settings applied on every session that is up, so a statement of a handle is sent on one that
has the handle's own schema.
-/

namespace PlexPostgres.Conn

open Postgres Txn
open Pool (isBlobsDb selectLibraryPoolPath)
open Routing (epgSchemaForPath epgSchemaForPath_eq_none)

variable {ω : Type*}

/-! ### Handles -/

/-- The databases the shim serves. -/
inductive Handle where
  | library
  | blobs
  | guide (schema : Text)

/-- The schema of a handle's database. -/
def Handle.schema (library : Text) : Handle → Text
  | .library | .blobs => library
  | .guide schema => schema

/-- **The connections a handle's statements are given**: the pool's for the library and the
blobs, and the handle's own. -/
inductive Given : Handle → Owner → Prop
  | pooledLibrary : Given .library .pool
  | ownLibrary : Given .library (.handle none)
  | pooledBlobs : Given .blobs .pool
  | ownBlobs : Given .blobs (.handle none)
  | ownGuide (schema : Text) : Given (.guide schema) (.handle (some schema))

theorem Given.schema_eq {handle : Handle} {owner : Owner} (given : Given handle owner)
    (library : Text) : owner.schema library = handle.schema library := by
  cases given <;> rfl

/-- The database a handle is opened on. -/
def Handle.ofPath (path : Text) : Handle :=
  match epgSchemaForPath path with
  | some schema => .guide schema
  | none => if isBlobsDb path then .blobs else .library

/-- **The pool has a connection only for a path that stands for a library**, and no guide's does. -/
theorem given_pool {path : Text} (cached : Option Text)
    (selected : (selectLibraryPoolPath path cached).isSome = true) :
    Given (.ofPath path) .pool := by
  have noGuide : epgSchemaForPath path = none := by
    unfold selectLibraryPoolPath at selected
    split at selected
    next library =>
      refine epgSchemaForPath_eq_none (c := 'y') ?_ rfl (by decide)
      exact .trans (by decide) (List.isSuffixOf_iff_suffix.mp library)
    split at selected
    next blobs =>
      refine epgSchemaForPath_eq_none (c := 's') ?_ rfl (by decide)
      exact .trans (by decide) (List.isSuffixOf_iff_suffix.mp blobs)
    split at selected
    · cases selected
    next empty =>
      rw [not_not.mp empty]
      decide
  rw [Handle.ofPath, noGuide]
  dsimp only
  split
  · exact .pooledBlobs
  · exact .pooledLibrary

/-- **A handle's own connection** has the schema that is read off its path. -/
theorem given_own (path : Text) : Given (.ofPath path) (.handle (epgSchemaForPath path)) := by
  unfold Handle.ofPath
  cases epgSchemaForPath path with
  | some schema => exact .ownGuide schema
  | none =>
    dsimp only
    split
    · exact .ownBlobs
    · exact .ownLibrary

/-! ### The settings of a session -/

/-- The server does not refuse the settings; it may be lost over them. -/
structure SettingsEnv.Taken (env : SettingsEnv) : Prop where
  searchPath : ∀ ends, env.searchPath.verdict ≠ .refuse ends
  timeout : ∀ ends, env.timeout.verdict ≠ .refuse ends

namespace Backend

/-- **The session has its settings**: the search path of the connection's database, and the
timeout. -/
def Applied (library : Text) (b : Backend ω) : Prop :=
  b.settings = ⟨some (b.owner.schema library), true⟩

/-- A session that is up has its settings. -/
def Settled (library : Text) (b : Backend ω) : Prop := b.link.isOk = true → b.Applied library

variable {library : Text} {b : Backend ω}

theorem settled_of_lost (lost : b.link.isOk = false) : b.Settled library := by
  intro up
  rw [lost] at up
  cases up

variable {fate : Fate}

/-- A statement that changes nothing, on a session that is idle: unless it is lost, the session is
idle after it, and what is not refused is accepted. -/
theorem query_idle (fate : Fate) :
    (((.up .idle : Link ω).query fate).link = .up .idle ∧
      ((∀ ends, fate.verdict ≠ .refuse ends) →
        ((.up .idle : Link ω).query fate).answer = .ok)) ∨
      ((.up .idle : Link ω).query fate).link = .down := by
  cases verdict : fate.verdict with
  | accept =>
    rw [Link.query, Link.send_accept _ _ _ verdict]
    exact .inl ⟨rfl, fun _ => rfl⟩
  | refuse ends =>
    rw [Link.query, Link.send_refuse _ _ _ verdict]
    exact .inl ⟨rfl, fun taken => absurd rfl (taken ends)⟩
  | lose applied noResult =>
    rw [Link.query, Link.send_lose _ _ _ verdict]
    exact .inr rfl

/-- A connection that is lost stays so. -/
theorem query_lost {l : Link ω} (lost : l.isOk = false) (fate : Fate) :
    (l.query fate).link.isOk = false := by
  rw [Link.query, (Link.send_of_not_up lost _ _ _).2.1]
  exact lost

variable {schema : Text}

/-- SET search_path on a new session: it is set, or the session is lost. -/
theorem setSearchPath_taken (idle : b.link = .up .idle)
    (taken : ∀ ends, fate.verdict ≠ .refuse ends) :
    ((b.setSearchPath schema fate).link = .up .idle ∧
      (b.setSearchPath schema fate).settings = { b.settings with searchPath := some schema }) ∨
      (b.setSearchPath schema fate).link = .down := by
  unfold setSearchPath
  rw [idle]
  rcases query_idle fate with ⟨stays, accepted⟩ | lost
  · exact .inl ⟨stays, by simp only [accepted taken, if_true]⟩
  · exact .inr lost

/-- SET statement_timeout. -/
theorem setTimeout_taken (idle : b.link = .up .idle) (taken : ∀ ends, fate.verdict ≠ .refuse ends) :
    (b.setTimeout fate).settings = { b.settings with timeout := true } ∨
      (b.setTimeout fate).link = .down := by
  unfold setTimeout
  rw [idle]
  rcases query_idle fate with ⟨-, accepted⟩ | lost
  · exact .inl (by dsimp only; rw [if_pos (accepted taken)])
  · exact .inr lost

variable {env : SettingsEnv}

/-- **Settings that are not refused** are applied, if the session is still up after them. -/
theorem settings_applySettings (taken : env.Taken) (idle : b.link = .up .idle)
    (up : (b.applySettings schema env).link.isOk = true) :
    (b.applySettings schema env).settings = ⟨some schema, true⟩ := by
  unfold applySettings at up ⊢
  rcases setSearchPath_taken idle taken.searchPath with ⟨stays, set⟩ | lost
  · rcases setTimeout_taken stays taken.timeout with set' | lost
    · rw [set', set]
    · rw [lost] at up
      cases up
  · rw [show ((b.setSearchPath schema env.searchPath).setTimeout env.timeout).link.isOk = false
      from query_lost (by rw [lost]; rfl) _] at up
    cases up

theorem settled_begin (env : SettingsEnv) (taken : env.Taken)
    (own : schema = b.owner.schema library) :
    (b.begin.applySettings schema env).Settled library := by
  intro up
  rw [Applied, settings_applySettings taken rfl up, own]
  rfl

theorem settled_create (connectOk : Bool) (taken : env.Taken) :
    (create library connectOk env : Backend ω).Settled library := by
  cases connectOk with
  | false => exact settled_of_lost rfl
  | true =>
    intro up
    simp only [create, if_true] at up
    simp only [Applied, create, if_true]
    generalize fresh : Backend.begin _ = session at up ⊢
    have idle : session.link = .up .idle := by rw [← fresh]; rfl
    have own : session.owner = .pool := by rw [← fresh]; rfl
    rcases @setSearchPath_taken ω session env.searchPath library idle taken.searchPath with
      ⟨stays, set⟩ | lost
    · have dropped := query_idle (ω := ω) env.deallocateAll
      rw [← stays] at dropped
      rcases dropped with ⟨still, -⟩ | gone
      · have timed := setTimeout_taken (b := (session.setSearchPath library
          env.searchPath).deallocateAll env.deallocateAll) (still.trans stays) taken.timeout
        rcases timed with set' | lost
        · rw [set']
          show (⟨(session.setSearchPath library env.searchPath).settings.searchPath, true⟩ :
            Settings) = ⟨some (session.owner.schema library), true⟩
          rw [set, own]
          rfl
        · rw [lost] at up
          cases up
      · exact (settled_of_lost (query_lost (congrArg Link.isOk gone) _)) up
    · exact (settled_of_lost (query_lost (query_lost (by rw [lost]; rfl) _) _)) up

theorem settled_connectFresh (b : Backend ω) (library : Text) {env : ReadyEnv}
    (taken : env.settings.Taken) :
    (b.connectFresh library env).2.Settled library := by
  unfold connectFresh
  dsimp only
  split
  · exact settled_begin _ taken rfl
  · exact settled_of_lost rfl

theorem applySettings_idle (env : SettingsEnv) (idle : b.link = .up .idle)
    (up : (b.applySettings schema env).link.isOk = true) :
    (b.applySettings schema env).link = .up .idle := by
  have link : (b.applySettings schema env).link =
      (((.up .idle : Link ω).query env.searchPath).link.query env.timeout).link := by
    rw [← idle]
    rfl
  rw [link] at up ⊢
  rcases query_idle (ω := ω) env.searchPath with ⟨stays, -⟩ | lost
  · rw [stays] at up ⊢
    rcases query_idle (ω := ω) env.timeout with ⟨stays', -⟩ | lost'
    · exact stays'
    · rw [lost'] at up
      cases up
  · rw [lost, query_lost rfl] at up
    cases up

/-- A connection that was made anew is idle, if it is up. -/
theorem connectFresh_idle (b : Backend ω) (library : Text) (env : ReadyEnv)
    (up : (b.connectFresh library env).2.link.isOk = true) :
    (b.connectFresh library env).2.link = .up .idle := by
  unfold connectFresh at up ⊢
  dsimp only at up ⊢
  split at up
  next connects =>
    rw [if_pos connects]
    exact applySettings_idle _ rfl up
  · cases up

/-- The settings applied once more. -/
theorem settled_applySettings (idle : b.link.isOk = true → b.link = .up .idle) (taken : env.Taken) :
    (b.applySettings (b.owner.schema library) env).Settled library := by
  cases up : b.link.isOk with
  | true =>
    intro stays
    rw [Applied, settings_applySettings taken (idle up) stays]
    rfl
  | false =>
    apply settled_of_lost
    exact query_lost (query_lost up _) _

section

variable (settled : b.Settled library)
include settled

/-- A statement that is sent changes no setting. -/
theorem Settled.sent {b' : Backend ω} (owner : b'.owner = b.owner)
    (settings : b'.settings = b.settings) (link : b'.link = (b.link.query fate).link) :
    b'.Settled library := by
  intro up
  have wasUp : b.link.isOk = true := by
    cases isOk : b.link.isOk with
    | true => rfl
    | false =>
      rw [link, query_lost isOk] at up
      cases up
  rw [Applied, settings, owner]
  exact settled wasUp

theorem Settled.deallocate (name : StmtName) (fate : Fate) :
    (b.deallocate name fate).Settled library :=
  settled.sent rfl rfl rfl

theorem Settled.traffic (after : Session ω → Option (Session ω)) :
    (b.traffic after).Settled library := by
  unfold Backend.traffic
  split
  next s link =>
    intro _
    exact settled (by rw [link]; rfl)
  · exact settled
  · exact settled

theorem Settled.prepare (name : StmtName) (fate : Fate) :
    (b.prepare name fate).2.Settled library := by
  unfold Backend.prepare
  split
  · exact settled.sent rfl rfl rfl
  · dsimp only
    split <;> exact settled.sent rfl rfl rfl

theorem Settled.cacheAdd (e : StmtCacheEntry) (fate : Fate) :
    (b.cacheAdd e fate).Settled library := by
  unfold Backend.cacheAdd
  dsimp only
  split
  · exact settled
  · exact Settled.deallocate (b := { b with cache := _ }) settled _ _

theorem Settled.fetch (name : StmtName) (paramCount now : ℤ)
    (fate deallocate : Fate) :
    (b.fetch name paramCount now fate deallocate).2.Settled library := by
  unfold Backend.fetch
  split
  next found b' looked =>
    rw [show b' = (b.cacheLookup name.sqlHash now).2 by rw [looked]]
    exact settled
  next b' looked =>
    have settled' : b'.Settled library := by
      rw [show b' = (b.cacheLookup name.sqlHash now).2 by rw [looked]]
      exact settled
    have after := settled'.prepare name fate
    split
    next _ b'' prepared => rw [prepared] at after; exact after
    next _ b'' prepared => rw [prepared] at after; exact after.cacheAdd _ _
    next _ b'' prepared => rw [prepared] at after; exact after.cacheAdd _ _

theorem Settled.cacheClear (fates : ℕ → Fate) :
    (b.cacheClear fates).Settled library := by
  have each (names : List StmtName) (b : Backend ω) (fates : ℕ → Fate)
      (settled : b.Settled library) : (b.deallocateEach names fates).Settled library := by
    induction names generalizing b fates with
    | nil => exact settled
    | cons name names ih => exact ih _ _ (settled.deallocate name _)
  exact each _ _ _ settled

end

theorem isOk_of_isClosed {l : Link ω} (closed : l.isClosed = true) : l.isOk = false := by
  cases l with
  | closed => rfl
  | down | up => cases closed

/-- What the pool does with a connection of its own that is not up. -/
theorem resetConn_pool (library : Text) (own : b.owner = .pool) (resetOk : Bool)
    (taken : env.Taken) : (b.resetConn library resetOk env).2.owner = .pool ∧
      (b.resetConn library resetOk env).2.Settled library := by
  unfold resetConn
  split
  next closed => exact ⟨own, settled_of_lost (isOk_of_isClosed closed)⟩
  · split
    · exact ⟨own, settled_begin env taken (by rw [own]; rfl)⟩
    · exact ⟨own, settled_of_lost rfl⟩

theorem settled_reconnectConn (own : b.owner = .pool) (connectOk : Bool) (taken : env.Taken) :
    (b.reconnectConn library connectOk env).2.Settled library := by
  unfold reconnectConn
  split
  · exact settled_begin env taken (by rw [finish_owner, own]; rfl)
  · exact settled_of_lost rfl

theorem Settled.checkHealth (settled : b.Settled library) (own : b.owner = .pool) {env : PoolEnv}
    (taken : env.settings.Taken ∧ env.again.Taken) :
    (b.checkHealth library env).Settled library := by
  unfold Backend.checkHealth
  split
  · exact settled
  · have owner : (b.cacheClear env.deallocate).owner = .pool := by rw [cacheClear_owner, own]
    have reset := resetConn_pool library owner env.resetOk taken.1
    generalize resetConn _ _ _ _ = done at reset ⊢
    obtain ⟨_ | _, b'⟩ := done
    · exact settled_reconnectConn reset.1 _ taken.2
    · exact reset.2

theorem Settled.acquire (settled : b.Settled library) (own : b.owner = .pool) {env : PoolEnv}
    (taken : env.settings.Taken ∧ env.again.Taken) : (b.acquire library env).Settled library := by
  unfold Backend.acquire
  split
  · exact settled
  · exact settled_reconnectConn (by rw [cacheClear_owner, own]) _ taken.1

theorem settled_reuse (own : b.owner = .pool) {env : PoolEnv}
    (taken : env.settings.Taken ∧ env.again.Taken) : (b.reuse library env).Settled library := by
  unfold reuse
  dsimp only
  generalize rolledBack : (if b.link.inTransaction = true then _ else _ : Backend ω) = b₀
  have owner : (b₀.cacheClear env.deallocate).owner = .pool := by
    rw [cacheClear_owner, ← rolledBack]
    split <;> exact own
  have reset := resetConn_pool library owner env.resetOk taken.1
  generalize resetConn _ _ _ _ = done at reset ⊢
  obtain ⟨_ | _, b'⟩ := done
  · exact settled_reconnectConn (by rw [cacheClear_owner]; exact reset.1) _ taken.2
  · exact reset.2

end Backend

/-! ### Events -/

/-- **The condition on an event**: no settings are refused, a connection that is not up is made
ready with the configuration loaded, and a write does not meet one that a reset brings
back. -/
def Event.Settles (b : Backend ω) : Event ω → Prop
  | .ready path env => b.link.isOk = false → env.configured = true ∧ env.settings.Taken ∧
      env.again.Taken ∧ (path = .stepWrite → b.link = .down → env.resetOk = false)
  | .health env | .acquire env | .reuse env => env.settings.Taken ∧ env.again.Taken
  | .create _ env | .connect _ _ env => env.Taken
  | .traffic _ | .lookup _ _ | .fetch _ _ _ _ _ | .clear _ | .clearLocal | .destroy => True

namespace Backend

variable {library : Text} {b : Backend ω}

/-- **A connection that is ready** has a session with its settings. -/
theorem Settled.ready (settled : b.Settled library) {path : Path} {env : ReadyEnv}
    (settles : Event.Settles b (.ready path env)) :
    (path.ready library b env).2.Settled library := by
  cases up : b.link.isOk with
  | true =>
    have same : (path.ready library b env).2 = b := by
      cases path <;>
        simp only [Path.ready, preflight, prepareRead, prepareWrite, up, if_true] <;>
        split <;> rfl
    rw [same]
    exact settled
  | false =>
    obtain ⟨configured, taken, again, recovers⟩ := settles up
    have reset : (b.begin.applySettings (b.owner.schema library) env.settings).Settled library :=
      settled_begin _ taken rfl
    have fresh := settled_connectFresh b library taken
    cases path with
    | exec =>
      simp only [Path.ready, preflight, up, configured, if_true, Bool.false_eq_true, if_false]
      split
      · split
        · exact reset
        · exact settled
      split
      · exact reset
      · have idle := connectFresh_idle b library env
        generalize b.connectFresh library env = connected at fresh idle ⊢
        obtain ⟨_ | _, b'⟩ := connected
        · exact fresh
        · exact settled_applySettings idle again
    | stepRead =>
      simp only [Path.ready, prepareRead, up, configured, if_true, Bool.false_eq_true, if_false]
      split
      · exact settled
      split
      · exact reset
      · exact fresh
    | stepWrite =>
      simp only [Path.ready, prepareWrite, up, Bool.false_eq_true, if_false]
      split
      · exact settled
      next opened =>
        have down : b.link = .down := eq_down (by simp [up]) opened
        rw [recovers rfl down]
        exact fresh
    | cachedRead | cachedWrite => exact settled

/-- **What an event leaves**: a session that is up has its settings. -/
theorem Settled.next (settled : b.Settled library) {event : Event ω} (settles : event.Settles b) :
    (b.next library event).Settled library := by
  cases event with
  | ready path env => exact settled.ready settles
  | traffic after => exact settled.traffic after
  | lookup sqlHash now => exact settled
  | fetch name paramCount now fate deallocate =>
    exact settled.fetch name paramCount now fate deallocate
  | clear fates => exact settled.cacheClear fates
  | clearLocal => exact settled
  | health env =>
    exact iteInduction (motive := Settled library)
      (fun own => settled.checkHealth own settles) fun _ => settled
  | acquire env =>
    exact iteInduction (motive := Settled library)
      (fun own => settled.acquire own settles) fun _ => settled
  | reuse env =>
    exact iteInduction (motive := Settled library)
      (fun own => settled_reuse own settles) fun _ => settled
  | create connectOk env => exact settled_create connectOk settles
  | connect guide connectOk env =>
    cases connectOk with
    | false => exact settled_of_lost rfl
    | true => exact settled_begin env settles rfl
  | destroy => exact settled_of_lost rfl

end Backend

/-! ### All the connections -/

/-- **The connections of the process.** -/
abbrev Fleet (ω : Type*) := ConnId → Backend ω

namespace Fleet

/-- Something happens to one of them. -/
def next (library : Text) (fleet : Fleet ω) (e : ConnId × Event ω) : Fleet ω :=
  Function.update fleet e.1 ((fleet e.1).next library e.2)

/-- The condition, on the event and the connection it happens to. -/
def Settles (fleet : Fleet ω) (e : ConnId × Event ω) : Prop := e.2.Settles (fleet e.1)

/-- **Statements are sent on sessions with their settings.**  In a run whose events all meet the
condition, a path that has made its connection ready has a session, if it is up, with the
timeout and the search path of the handle's own schema. -/
theorem statements_have_settings (library : Text) (fleet : Fleet ω)
    (down : ∀ conn, (fleet conn).link.isOk = false) (run : List (ConnId × Event ω))
    (settles : Runs.Meets (next library) Settles fleet run)
    (before : List (ConnId × Event ω)) (conn : ConnId) (path : Path) (env : ReadyEnv)
    (later : List (ConnId × Event ω)) (split : run = before ++ (conn, .ready path env) :: later)
    (handle : Handle) (given : Given handle (Runs.final (next library) fleet before conn).owner) :
    let sent := path.ready library (Runs.final (next library) fleet before conn) env
    sent.1 = true → sent.2.link.isOk = true →
      sent.2.settings = ⟨some (handle.schema library), true⟩ := by
  intro sent _ up
  subst split
  obtain ⟨earlier, here, -⟩ :=
    (Runs.meets_append fleet before ((conn, .ready path env) :: later)).mp settles
  have settled : ∀ conn, (Runs.final (next library) fleet before conn).Settled library := by
    refine earlier.invariant (fun fleet => ∀ conn, (fleet conn).Settled library) ?_
      fun conn => Backend.settled_of_lost (down conn)
    intro fleet event settled ok conn
    by_cases there : conn = event.1
    · rw [there, next, Function.update_self]
      exact (settled event.1).next ok
    · rw [next, Function.update_of_ne there]
      exact settled conn
  have applied := (settled conn).ready here up
  have owner : sent.2.owner = (Runs.final (next library) fleet before conn).owner :=
    path.ready_owner library _ env
  rw [applied, owner, given.schema_eq library]

/-! ### Two runs -/

/-- No connection is there yet. -/
def none : Fleet Unit := fun _ => .create [] false ⟨.fine, .fine, .fine⟩

/-- Nothing goes wrong: a reset brings a lost session back. -/
def fine : ReadyEnv :=
  ⟨true, true, true, ⟨.fine, .fine, .fine⟩, ⟨.fine, .fine, .fine⟩, fun _ => .fine⟩

/-- A connection of the pool is made. -/
def made : ConnId × Event Unit := (1, .create true ⟨.fine, .fine, .fine⟩)

/-- Its session is lost. -/
def lost : ConnId × Event Unit := (1, .traffic fun _ => Option.none)

theorem statements_have_settings_of_read :
    let now := Runs.final (next "plex".toList) none [made, lost]
    let sent := Path.stepRead.ready "plex".toList (now 1) fine
    sent.2.link.isOk = true ∧ sent.2.settings = ⟨some "plex".toList, true⟩ := by
  intro now sent
  have taken : SettingsEnv.Taken ⟨.fine, .fine, .fine⟩ := ⟨nofun, nofun⟩
  refine ⟨by decide, ?_⟩
  exact statements_have_settings "plex".toList none (fun _ => rfl)
    [made, lost, (1, .ready .stepRead fine)]
    ⟨taken, trivial, fun _ => ⟨rfl, taken, taken, nofun⟩, trivial⟩ [made, lost] 1 .stepRead fine []
    rfl (.ofPath Pool.libraryDbName) (given_pool .none rfl) (by decide) (by decide)

/-- **A write on a session without settings.**  The session of a connection is lost, and the next
write resets it: the connection is up, and the session has neither the search path nor the
timeout. -/
theorem write_without_settings :
    let now := Runs.final (next "plex".toList) none [made, lost]
    let sent := Path.stepWrite.ready "plex".toList (now 1) fine
    sent.1 = true ∧ sent.2.link.isOk = true ∧ sent.2.settings = ⟨Option.none, false⟩ := by
  decide

end Fleet

end PlexPostgres.Conn
