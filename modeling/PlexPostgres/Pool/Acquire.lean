import PlexPostgres.Library.Threads
import PlexPostgres.Pool.Memory

/-!
# Acquiring a connection

`pg_client/pool_acquire`: a thread that needs a connection first takes back slots that were left
idle and destroys connections nobody uses, then goes through the phases: its own READY slot, a FREE
slot with a connection, an empty FREE slot, an ERROR slot, one slot more, and a retry.

Each definition is the program the source runs, one operation for each atomic access, in the
order the source makes them.  A phase answers `none` to continue with the next one and `some` to
return, null included.
-/

namespace PlexPostgres.Pool

open Txn (ConnId)
open Threads.Prog (onlyIf firstOf gather each)

/-- A program of the pool. -/
abbrev Prog := Threads.Prog Op Op.Ans

/-! ### Single operations -/

def perform (op : Op) : Prog op.Ans := Threads.Prog.perform op

def loadState (i : ℕ) : Prog SlotState := perform (.loadState i)

def storeState (i : ℕ) (state : SlotState) : Prog Unit := perform (.storeState i state)

def loadOwner (i : ℕ) : Prog (Option Thread) := perform (.loadOwner i)

def storeOwner (i : ℕ) (thread : Option Thread) : Prog Unit := perform (.storeOwner i thread)

def loadConn (i : ℕ) : Prog ConnId := perform (.loadConn i)

def storeConn (i : ℕ) (conn : ConnId) : Prog Unit := perform (.storeConn i conn)

def swapConn (i : ℕ) : Prog ConnId := perform (.swapConn i)

/-- An operation that touches no slot's connection, owner or state. -/
def aside (what : Aside) : Prog what.Ans := perform (.aside what)

/-- Ask a connection; the null connection is none of these things. -/
def ask (query : Query) (conn : ConnId) : Prog Bool :=
  if conn = 0 then pure false else perform (.ask query conn)

/-- Do something with a connection that is not null. -/
def work (what : Work) (conn : ConnId) : Prog Bool := perform (.work what conn)

/-- The size in use: the configured one, up to the maximum. -/
def poolSize : Prog ℕ := do
  let size ← aside .loadSize
  let most ← aside .loadMaxSize
  pure (min size most)

/-- The owner of a slot is this thread; an unowned slot is nobody's. -/
def threadsEqual (owner : Option Thread) (t : Thread) : Bool := owner == some t

/-! ### The methods of a slot -/

/-- FREE → RESERVED. -/
def tryClaimFree (i : ℕ) : Prog Bool := perform (.casState i .free .reserved)

/-- FREE → RESERVED, but only if the slot still holds `expected`. -/
def tryClaimFreeWithConn (i : ℕ) (expected : ConnId) : Prog Bool := do
  if ← tryClaimFree i then
    let conn ← loadConn i
    if conn = expected then pure true
    else
      storeState i .free
      pure false
  else pure false

/-- READY → RECONNECTING. -/
def tryBeginReconnect (i : ℕ) : Prog Bool := perform (.casState i .ready .reconnecting)

/-- ERROR → RESERVED. -/
def tryReclaimError (i : ℕ) : Prog Bool := perform (.casState i .error .reserved)

/-- READY → FREE. -/
def tryReclaimZombie (i : ℕ) : Prog Bool := perform (.casState i .ready .free)

def markReady (i : ℕ) : Prog Unit := storeState i .ready

def markError (i : ℕ) : Prog Unit := storeState i .error

/-- `PoolSlot::release`. -/
def release (i : ℕ) : Prog Unit := do
  storeOwner i none
  storeState i .free

/-! ### Connections -/

/-- **Create a connection**: null if it cannot be made, and whether it is active. -/
def createPoolConnection : Prog (ConnId × Bool) := do
  let made ← perform .create
  onlyIf (made.1 ≠ 0 ∧ made.2 = true) (aside (.noteLive made.1))
  pure made

/-- **Destroy a connection**: close it and let go of the pool's reference. -/
def destroyPoolConnection (conn : ConnId) : Prog Unit := do
  if conn = 0 then pure ()
  else
    aside (.forgetLive conn)
    let _ ← work .stmtCacheDrop conn
    perform (.destroy conn)

/-- `reset_conn`. -/
def resetConn (conn : ConnId) : Prog Bool := do
  if ← ask .hasSocket conn then
    let ok ← work .reset conn
    aside (.forgetConnection conn)
    pure ok
  else pure false

/-- `reconnect_conn`. -/
def reconnectConn (conn : ConnId) : Prog Bool := do
  if conn = 0 then pure false
  else
    aside (.forgetConnection conn)
    work .reconnect conn

/-- Work whose outcome is not looked at. -/
def attempt (what : Work) (conn : ConnId) : Prog Unit := do
  let _ ← work what conn
  pure ()

/-- `rust_stmt_cache_clear`. -/
def stmtCacheClear (conn : ConnId) : Prog Unit := onlyIf (conn ≠ 0) (attempt .stmtCacheClear conn)

/-- A transaction left open by whoever began it is rolled back, never committed. -/
def rollbackOpen (conn : ConnId) : Prog Unit := do
  let txn ← ask .inTransaction conn
  onlyIf (txn = true) (attempt .rollback conn)

/-! ### The phases -/

/-- What an acquisition knows from its start. -/
structure AcquireCtx where
  currentThread : Thread
  now : ℤ
  poolSize : ℕ
  excludeConn : ConnId

/-- `none` is `Continue`; `some` is `Return`, with a connection or null. -/
abbrev AcquireDecision := Option ConnId

def claimSlotForThread (ctx : AcquireCtx) (i : ℕ) : Prog Unit := do
  storeOwner i (some ctx.currentThread)
  aside (.storeLastUsed i ctx.now)
  aside (.bumpGeneration i)

/-- Remember the slot, and return its connection. -/
def cacheSlot (i : ℕ) (conn : ConnId) : Prog AcquireDecision := do
  let generation ← aside (.loadGeneration i)
  aside (.cacheSet 0 i generation)
  pure (some conn)

def cacheExistingReadySlot (ctx : AcquireCtx) (i : ℕ) (conn : ConnId) : Prog AcquireDecision := do
  aside (.storeLastUsed i ctx.now)
  cacheSlot i conn

def markReadyAndCacheSlot (i : ℕ) (conn : ConnId) : Prog AcquireDecision := do
  markReady i
  cacheSlot i conn

def releaseFailedNewConnection (i : ℕ) (newConn : ConnId) : Prog Unit := do
  destroyPoolConnection newConn
  storeConn i 0
  storeOwner i none
  release i

/-- The slot this thread used last, if it is still READY under the same generation and owned by
this thread, and its connection may be used. -/
def cachedSlot (ctx : AcquireCtx) (i generation : ℕ) : Prog AcquireDecision := do
  if i < ctx.poolSize then
    let state ← loadState i
    if state = .ready then
      let current ← aside (.loadGeneration i)
      if current = generation then
        let owner ← loadOwner i
        if threadsEqual owner ctx.currentThread then
          let conn ← loadConn i
          if conn = ctx.excludeConn then pure none
          else if ← ask .connOk conn then
            if ← ask .streamingActive conn then pure none
            else cacheExistingReadySlot ctx i conn
          else pure none
        else pure none
      else pure none
    else pure none
  else pure none

/-- One slot of the scan for a READY slot of this thread. -/
def existingReadySlot (ctx : AcquireCtx) (i : ℕ) : Prog (Option ConnId) := do
  let state ← loadState i
  if state = .ready then
    let owner ← loadOwner i
    if threadsEqual owner ctx.currentThread then
      let conn ← loadConn i
      if conn = ctx.excludeConn then pure none
      else if ← ask .connOk conn then
        if ← ask .streamingActive conn then pure none
        else cacheExistingReadySlot ctx i conn
      else if ← tryBeginReconnect i then
        stmtCacheClear conn
        if ← reconnectConn conn then markReadyAndCacheSlot i conn
        else
          markError i
          pure (some 0)
      else pure none
    else pure none
  else pure none

/-- The fast path: a cached slot that does not serve is forgotten. -/
def fastPath (ctx : AcquireCtx) : Prog AcquireDecision := do
  match ← aside (.cacheGet 0) with
  | some (i, generation) =>
    match ← cachedSlot ctx i generation with
    | some conn => pure (some conn)
    | none =>
      aside .cacheClear
      pure none
  | none => pure none

/-- **Phase 1**: this thread's own READY slot, the one it used last first. -/
def phase1ExistingReady (ctx : AcquireCtx) : Prog AcquireDecision := do
  match ← fastPath ctx with
  | some conn => pure (some conn)
  | none => firstOf (List.range ctx.poolSize) (existingReadySlot ctx)

/-- One slot of the scan for a FREE slot with a connection. -/
def reuseSlot (ctx : AcquireCtx) (i : ℕ) : Prog (Option ConnId) := do
  let conn ← loadConn i
  if conn = 0 ∨ conn = ctx.excludeConn then pure none
  else if ← ask .streamingActive conn then pure none
  else if ← tryClaimFreeWithConn i conn then
    claimSlotForThread ctx i
    rollbackOpen conn
    stmtCacheClear conn
    if ← resetConn conn then markReadyAndCacheSlot i conn
    else
      stmtCacheClear conn
      if ← reconnectConn conn then
        if ← ask .pgActive conn then markReadyAndCacheSlot i conn
        else
          markError i
          pure none
      else
        markError i
        pure none
  else pure none

/-- **Phase 2**: a FREE slot that has a connection. -/
def phase2ReuseExisting (ctx : AcquireCtx) : Prog AcquireDecision :=
  firstOf (List.range ctx.poolSize) (reuseSlot ctx)

/-- Create a connection in a claimed slot, or give the slot back. -/
def fillSlot (i : ℕ) : Prog AcquireDecision := do
  let made ← createPoolConnection
  if made.1 ≠ 0 ∧ made.2 = true then
    storeConn i made.1
    markReadyAndCacheSlot i made.1
  else
    releaseFailedNewConnection i made.1
    pure none

/-- One slot of the scan for an empty FREE slot. -/
def createInSlot (ctx : AcquireCtx) (i : ℕ) : Prog (Option ConnId) := do
  let conn ← loadConn i
  if conn ≠ 0 then pure none
  else if ← tryClaimFreeWithConn i 0 then
    claimSlotForThread ctx i
    fillSlot i
  else pure none

/-- **Phase 3**: an empty FREE slot. -/
def phase3CreateEmpty (ctx : AcquireCtx) : Prog AcquireDecision :=
  firstOf (List.range ctx.poolSize) (createInSlot ctx)

/-- One slot of the scan for a slot in ERROR. -/
def recoverSlot (ctx : AcquireCtx) (i : ℕ) : Prog (Option ConnId) := do
  if ← tryReclaimError i then
    claimSlotForThread ctx i
    let oldConn ← swapConn i
    destroyPoolConnection oldConn
    fillSlot i
  else pure none

/-- **Phase 4**: a slot in ERROR, with a new connection. -/
def phase4ReclaimError (ctx : AcquireCtx) : Prog AcquireDecision :=
  firstOf (List.range ctx.poolSize) (recoverSlot ctx)

/-- **Phase 5**: grow the pool by one slot. -/
def phase5Autogrow (ctx : AcquireCtx) : Prog AcquireDecision := do
  let currentSize ← aside .loadSize
  let runtimeMax ← aside .loadMaxSize
  if currentSize ≥ runtimeMax then pure none
  else if ← aside (.casSize currentSize (currentSize + 1)) then
    let slotsLen ← aside .slotsLen
    if currentSize ≥ slotsLen then pure none
    else if ← tryClaimFreeWithConn currentSize 0 then
      claimSlotForThread ctx currentSize
      fillSlot currentSize
    else pure none
  else pure none

/-! ### Shrinking -/

/-- How often the idle reaper runs, in seconds. -/
def reapIntervalSecs : ℤ := 60

def maintenanceDue (now : ℤ) : Prog Bool := do
  let lastReap ← aside .loadLastReap
  pure (decide (now - lastReap ≥ reapIntervalSecs))

/-- Whether a READY slot may be taken back from a thread that has moved on. -/
def zombieReclaimable (referenced : Bool) (idleSecs idleTimeoutSecs : ℤ) : Bool :=
  !referenced && decide (idleSecs > idleTimeoutSecs)

/-- Take back one READY slot no handle refers to. -/
def reclaimZombie (ctx : AcquireCtx) (idleTimeout : ℕ) (i : ℕ) : Prog Unit := do
  let state ← loadState i
  if state = .ready then
    let lastUsed ← aside (.loadLastUsed i)
    let references ← aside (.references i)
    if zombieReclaimable (decide (0 < references)) (ctx.now - lastUsed) idleTimeout then
      let conn ← loadConn i
      if ← ask .streamingActive conn then pure ()
      else
        let _ ← tryReclaimZombie i
        pure ()
    else pure ()
  else pure ()

/-- Take the connection out of one FREE slot that was idle too long. -/
def reapSlot (now : ℤ) (timeout : ℕ) (i : ℕ) : Prog (Option ConnId) := do
  let state ← loadState i
  if state ≠ .free then pure none
  else
    let conn ← loadConn i
    if conn = 0 then pure none
    else
      let lastUsed ← aside (.loadLastUsed i)
      if now - lastUsed < timeout then pure none
      else
        let references ← aside (.references i)
        if 0 < references then pure none
        else if ← tryClaimFree i then
          aside (.bumpGeneration i)
          let conn ← swapConn i
          storeOwner i none
          storeState i .free
          if conn ≠ 0 then pure (some conn) else pure none
        else pure none

/-- **The connections to destroy**, out of the slots that were idle too long. -/
def reapIdle (now : ℤ) : Prog (List ConnId) := do
  let timeout ← aside .loadIdleTimeout
  let size ← poolSize
  gather (List.range size) (reapSlot now timeout) []

/-- **The pass that shrinks the pool**: zombie slots are freed, and on the reaper's cadence the
connections of idle slots are destroyed. -/
def reclaimZombiesAndReap (ctx : AcquireCtx) : Prog Unit := do
  let idleTimeout ← aside .loadIdleTimeout
  each (List.range ctx.poolSize) (reclaimZombie ctx idleTimeout)
  let lastReap ← aside .loadLastReap
  if ctx.now - lastReap < reapIntervalSecs then pure ()
  else if ← aside (.casLastReap lastReap ctx.now) then
    let toDestroy ← reapIdle ctx.now
    each toDestroy destroyPoolConnection
  else pure ()

/-! ### The acquisition -/

/-- The file the library lives in. -/
def libraryDbName : Text := "com.plexapp.plugins.library.db".toList

/-- The file the blobs live in. -/
def blobsDbName : Text := "com.plexapp.plugins.library.blobs.db".toList

def isLibraryDb (path : Text) : Bool := libraryDbName.isSuffixOf path

def isBlobsDb (path : Text) : Bool := blobsDbName.isSuffixOf path

/-- The library a path stands for. -/
def selectLibraryPoolPath (rawPath : Text) (cachedLibraryPath : Option Text) : Option Text :=
  if isLibraryDb rawPath = true then some rawPath
  else if isBlobsDb rawPath = true then
    match cachedLibraryPath.filter isLibraryDb with
    | some path => some path
    | none => some (rawPath.take (rawPath.length - blobsDbName.length) ++ libraryDbName)
  else if rawPath ≠ [] then none
  else cachedLibraryPath.filter isLibraryDb

def resolveSelectedPoolPath (dbPath : Text) : Prog (Option Text) := do
  let cachedLibraryPath ← if dbPath = [] then aside .loadLibraryPath else pure none
  match selectLibraryPoolPath dbPath cachedLibraryPath with
  | some path => if isLibraryDb path = true then pure (some path) else pure none
  | none => pure none

/-- A path is resolved to the library it stands for, if it is one. -/
theorem resolveSelectedPoolPath_eq (dbPath : Text) :
    resolveSelectedPoolPath dbPath =
      if dbPath = [] then aside .loadLibraryPath >>= fun cachedLibraryPath =>
        pure ((selectLibraryPoolPath dbPath cachedLibraryPath).filter isLibraryDb)
      else pure ((selectLibraryPoolPath dbPath none).filter isLibraryDb) := by
  have each (path : Text) : (pure ((some path).filter isLibraryDb) : Prog (Option Text)) =
      if isLibraryDb path = true then pure (some path) else pure none := by
    rw [Option.filter_some]
    split <;> rfl
  unfold resolveSelectedPoolPath
  dsimp only
  split
  · congr 1
    funext cached
    cases selectLibraryPoolPath dbPath cached with
    | none => rfl
    | some path => exact (each path).symm
  · have unfolded (rest : Option Text → Prog (Option Text)) : pure none >>= rest = rest none := rfl
    rw [unfolded]
    cases selectLibraryPoolPath dbPath none with
    | none => rfl
    | some path => exact (each path).symm

/-- The phases that look for a connection, with the shrinking pass after the first. -/
def phases (ctx : AcquireCtx) : Prog AcquireDecision := do
  match ← phase1ExistingReady ctx with
  | some conn => pure (some conn)
  | none =>
    reclaimZombiesAndReap ctx
    match ← phase2ReuseExisting ctx with
    | some conn => pure (some conn)
    | none =>
      match ← phase3CreateEmpty ctx with
      | some conn => pure (some conn)
      | none =>
        match ← phase4ReclaimError ctx with
        | some conn => pure (some conn)
        | none => phase5Autogrow ctx

/-- **Phase 6**: acquire `again`, with no connection excluded, until the retries are used up. -/
def phase6Retry (maxRetries : ℕ) (again : Prog ConnId) : Prog ConnId := do
  let retryCount ← aside .retryCountGet
  if retryCount < maxRetries then
    aside (.retryCountSet (retryCount + 1))
    let result ← again
    onlyIf (result ≠ 0) (aside (.retryCountSet 0))
    pure result
  else
    aside (.retryCountSet 0)
    pure 0

/-- One pass through the phases; `again` acquires for the path once more. -/
def acquirePass (maxRetries : ℕ) (again : Text → Prog ConnId) (currentThread : Thread)
    (dbPath : Text) (excludeConn : ConnId) : Prog ConnId := do
  match ← resolveSelectedPoolPath dbPath with
  | none => pure 0
  | some selectedPath =>
    let now ← aside .clock
    aside (.rememberLibraryPath selectedPath)
    let size ← poolSize
    let ctx : AcquireCtx := ⟨currentThread, now, size, excludeConn⟩
    let due ← maintenanceDue now
    onlyIf (due = true) (reclaimZombiesAndReap ctx)
    match ← phases ctx with
    | some conn => pure conn
    | none => phase6Retry maxRetries (again selectedPath)

/-- **Acquire a connection** for a path, other than `excludeConn`.  Every retry counts the retry
counter up to `maxRetries`, so no more than that many are nested. -/
def acquireOn (maxRetries : ℕ) (currentThread : Thread) : ℕ → Text → ConnId → Prog ConnId
  | 0, dbPath, excludeConn =>
    acquirePass maxRetries (fun _ => pure 0) currentThread dbPath excludeConn
  | nested + 1, dbPath, excludeConn =>
    acquirePass maxRetries (fun path => acquireOn maxRetries currentThread nested path 0)
      currentThread dbPath excludeConn

/-! ### An acquisition, part by part -/

section Parts

open Threads (Safe safe_bind)

variable {Hold : Type} (terms : Threads.Terms Op Op.Ans Hold)
  (found : AcquireDecision → Hold → Prop)

/-- **The parts of the phases respect the terms**: each starts with nothing found, and ends as
`found` says. -/
structure Parts (ctx : AcquireCtx) : Prop where
  fast : ∀ h, found none h → Safe terms (fastPath ctx) h found
  ready : ∀ i < ctx.poolSize, ∀ h, found none h → Safe terms (existingReadySlot ctx i) h found
  shrink : ∀ h, found none h → Safe terms (reclaimZombiesAndReap ctx) h fun _ => found none
  reuse : ∀ i < ctx.poolSize, ∀ h, found none h → Safe terms (reuseSlot ctx i) h found
  create : ∀ i < ctx.poolSize, ∀ h, found none h → Safe terms (createInSlot ctx i) h found
  recover : ∀ i < ctx.poolSize, ∀ h, found none h → Safe terms (recoverSlot ctx i) h found
  grow : ∀ h, found none h → Safe terms (phase5Autogrow ctx) h found

variable {terms found} {h : Hold}

theorem Parts.phases {ctx : AcquireCtx} (parts : Parts terms found ctx) (start : found none h) :
    Safe terms (phases ctx) h found := by
  have scan {body : ℕ → Prog AcquireDecision} {h : Hold} (start : found none h)
      (one : ∀ i < ctx.poolSize, ∀ h, found none h → Safe terms (body i) h found) :
      Safe terms (firstOf (List.range ctx.poolSize) body) h found :=
    Safe.firstOf (fun i mem => one i (List.mem_range.mp mem)) start
  have phase1 : Safe terms (phase1ExistingReady ctx) h found :=
    (parts.fast h start).orElse (fun h start => scan start parts.ready) fun _ => rfl
  refine phase1.orElse (fun h start => ?_) fun _ => rfl
  refine (parts.shrink h start).bind fun _ h start => ?_
  refine (scan start parts.reuse).orElse (fun h start => ?_) fun _ => rfl
  refine (scan start parts.create).orElse (fun h start => ?_) fun _ => rfl
  exact (scan start parts.recover).orElse parts.grow fun _ => rfl

/-- What an acquisition does beside its phases. -/
def Passing : Aside → Prop
  | .loadLibraryPath | .clock | .rememberLibraryPath _ | .loadSize | .loadMaxSize | .loadLastReap
  | .retryCountGet | .retryCountSet _ => True
  | _ => False

variable {t : Thread} {maxRetries nested : ℕ} {dbPath : Text} {excludeConn : ConnId}

variable (found) in
/-- **An acquisition respects the terms** if its parts do, and what it does beside them changes
nothing that was found. -/
theorem safe_acquireOn_of (parts : ∀ ctx, ctx.currentThread = t → Parts terms found ctx)
    (passing : ∀ what decision h, Passing what → found decision h →
      terms.allows h (.aside what) ∧ ∀ answer, found decision (terms.after h (.aside what) answer))
    (null : ∀ h, found none h → found (some 0) h) (start : found none h) :
    Safe terms (acquireOn maxRetries t nested dbPath excludeConn) h fun conn => found
      (some conn) := by
  have pass {again : Text → Prog ConnId} {dbPath : Text} {excludeConn : ConnId} {h : Hold}
      (start : found none h)
      (retried : ∀ path h, found none h → Safe terms (again path) h fun conn => found (some conn)) :
      Safe terms (acquirePass maxRetries again t dbPath excludeConn) h
        fun conn => found (some conn) := by
    have beside {what : Aside} {α : Type} {rest : what.Ans → Prog α} {ends : α → Hold → Prop}
        {decision : AcquireDecision} {h : Hold} (passes : Passing what) (stands : found decision h)
        (safe : ∀ answer h, found decision h → Safe terms (rest answer) h ends) :
        Safe terms (aside what >>= rest) h ends :=
      ⟨(passing what decision h passes stands).1, fun answer =>
        safe answer _ ((passing what decision h passes stands).2 answer)⟩
    have resolved : Safe terms (resolveSelectedPoolPath dbPath) h fun _ => found none := by
      rw [resolveSelectedPoolPath_eq]
      split
      · exact beside trivial start fun _ _ start => start
      · exact start
    refine resolved.bind fun selected h start => ?_
    cases selected with
    | none => exact null h start
    | some path =>
      refine beside trivial start fun now h start => beside trivial start fun _ h start => ?_
      refine beside trivial start fun size h start => beside trivial start fun most h start => ?_
      refine beside trivial start fun lastReap h start => ?_
      have parts := parts ⟨t, now, min size most, excludeConn⟩ rfl
      have shrunk {condition : Prop} [Decidable condition] : Safe terms
          (onlyIf condition (reclaimZombiesAndReap ⟨t, now, min size most, excludeConn⟩)) h
          fun _ => found none :=
        Safe.onlyIf (fun _ => parts.shrink h start) fun _ => start
      refine shrunk.bind fun _ h start => (parts.phases start).bind fun decision h ended => ?_
      cases decision with
      | some conn => exact ended
      | none =>
        refine beside trivial ended fun count h start => ?_
        split
        · refine beside trivial start fun _ h start => ?_
          refine (retried path h start).bind fun conn h ended => ?_
          exact safe_bind.mpr (Safe.onlyIf (fun _ => beside trivial ended fun _ _ ended => ended)
            fun _ => ended)
        · exact beside trivial start fun _ h start => null h start
  induction nested generalizing h dbPath excludeConn with
  | zero => exact pass start fun _ h start => null h start
  | succ nested ih => exact pass start fun _ h start => ih start

end Parts

end PlexPostgres.Pool
