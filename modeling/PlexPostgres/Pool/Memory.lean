import PlexPostgres.Txn.Registry

/-!
# The memory the pool's threads share

`pg_client/pool_state.rs` keeps the pool in atomics: an array of slots, each with a connection, an
owner and a state, and beside it the sizes, the map from SQLite handles to slots and the
set of live connections.  Every access is one atomic operation (a load, a store, a swap, a
compare-and-exchange, or a critical section of one of the mutexes), and these operations are what
the threads interleave.

What a connection answers (whether its socket is sound, whether a stream or a transaction is open
on it, whether a reset or a reconnect succeeds), the clock and the address a new connection gets
are chosen by the world around.
-/

namespace PlexPostgres.Pool

open Txn (ConnId DbId TxnState)
open Function (update)

/-- A thread id, which is never 0. -/
abbrev Thread := ℕ

/-- The state machine of a slot. -/
inductive SlotState where
  | free
  | reserved
  | ready
  | reconnecting
  | error
  deriving DecidableEq, Repr

/-- **A single slot of the pool.** -/
structure Slot where
  /-- 0 = no connection. -/
  conn : ConnId
  /-- 0 = unowned, here `none`. -/
  ownerThread : Option Thread
  lastUsed : ℤ
  state : SlotState
  /-- A 32-bit counter. -/
  generation : ℕ
  deriving DecidableEq, Repr

/-- A slot that was never used. -/
def Slot.new : Slot := ⟨0, none, 0, .free, 0⟩

/-- The slot a thread used last. -/
structure TlsPoolCache where
  dbHandle : DbId
  slotIndex : ℕ
  generation : ℕ
  deriving DecidableEq, Repr

/-- Slot index `u32::MAX` marks an empty cache. -/
def TlsPoolCache.emptyIndex : ℕ := 4294967295

def TlsPoolCache.none : TlsPoolCache := ⟨0, emptyIndex, 0⟩

/-- **What the threads share**: the pool manager, the registry of open transactions, each thread's
own cache and retry counter, and which connections exist. -/
structure PoolManager where
  slots : ℕ → Slot
  slotCount : ℕ
  configuredSize : ℕ
  configuredMaxSize : ℕ
  idleTimeoutSecs : ℕ
  lastReapTime : ℤ
  libraryDbPath : Option Text
  /-- `registry`: the connection opened with each handle. -/
  registry : DbId → Option ConnId
  /-- `db_to_pool`: the slot each handle is mapped to. -/
  dbToPool : List (DbId × ℕ)
  livePoolConns : List ConnId
  txn : Txn.Registry
  cache : Thread → TlsPoolCache
  retryCount : Thread → ℕ
  /-- The connections that were created and are not destroyed. -/
  heap : ConnId → Bool

namespace PoolManager

/-- `PoolManager::new`, with a slot for every connection the pool may grow to. -/
def new (poolSize poolMax : ℕ) : PoolManager where
  slots _ := Slot.new
  slotCount := max poolMax 1
  configuredSize := max 1 (min poolSize (max poolMax 1))
  configuredMaxSize := max poolMax 1
  idleTimeoutSecs := 300
  lastReapTime := 0
  libraryDbPath := Option.none
  registry _ := Option.none
  dbToPool := []
  livePoolConns := []
  txn := .empty
  cache _ := TlsPoolCache.none
  retryCount _ := 0
  heap _ := false

/-- Change one slot. -/
def setSlot (pool : PoolManager) (i : ℕ) (f : Slot → Slot) : PoolManager :=
  { pool with slots := update pool.slots i (f (pool.slots i)) }

/-- The slot a handle is mapped to. -/
def slotOf (pool : PoolManager) (db : DbId) : Option ℕ :=
  (pool.dbToPool.find? fun entry => entry.1 == db).map (·.2)

/-- `DbToPool::references`: how many handles still hold the slot. -/
def references (pool : PoolManager) (i : ℕ) : ℕ := pool.dbToPool.countP fun entry => entry.2 == i

/-- The map without a handle. -/
def unmap (pool : PoolManager) (db : DbId) : List (DbId × ℕ) :=
  pool.dbToPool.filter fun entry => entry.1 != db

end PoolManager

/-! ### The operations -/

/-- What is asked of a connection. -/
inductive Query where
  /-- `check_conn_ok`. -/
  | connOk
  | streamingActive
  | pgActive
  /-- The server reports a transaction open, failed or not. -/
  | inTransaction
  /-- `conn.conn` is not null. -/
  | hasSocket
  deriving DecidableEq, Repr

/-- What is done with a connection. -/
inductive Work where
  /-- `ROLLBACK`. -/
  | rollback
  | cancelAndDrain
  /-- `PQreset` and the session settings. -/
  | reset
  /-- A fresh libpq connection under the same struct. -/
  | reconnect
  /-- The statements of a transaction command. -/
  | execute
  | stmtCacheClear
  | stmtCacheDrop
  deriving DecidableEq, Repr

/-- The operations that touch no slot's connection, owner or state. -/
inductive Aside where
  | clock
  | loadLastUsed (i : ℕ)
  | storeLastUsed (i : ℕ) (now : ℤ)
  | loadGeneration (i : ℕ)
  | bumpGeneration (i : ℕ)
  | slotsLen
  | loadSize
  | loadMaxSize
  | casSize (old new : ℕ)
  | loadIdleTimeout
  | loadLastReap
  | casLastReap (old new : ℤ)
  | loadLibraryPath
  | rememberLibraryPath (path : Text)
  | findRegistered (db : DbId)
  | references (i : ℕ)
  | assign (db : DbId) (i : ℕ)
  | releaseDb (db : DbId)
  | noteLive (conn : ConnId)
  | forgetLive (conn : ConnId)
  | pinnedConn (db : DbId)
  | loadTxn (conn : ConnId)
  | recordTxn (conn : ConnId) (db : DbId) (state : TxnState)
  | forgetConnection (conn : ConnId)
  | forgetDb (db : DbId)
  | cacheGet (db : DbId)
  | cacheSet (db : DbId) (i generation : ℕ)
  | cacheClear
  | retryCountGet
  | retryCountSet (count : ℕ)
  deriving DecidableEq

/-- What such an operation answers with. -/
abbrev Aside.Ans : Aside → Type
  | .clock | .loadLastUsed _ | .loadLastReap => ℤ
  | .loadGeneration _ | .slotsLen | .loadSize | .loadMaxSize | .loadIdleTimeout
  | .references _ | .retryCountGet => ℕ
  | .casSize _ _ | .casLastReap _ _ => Bool
  | .loadLibraryPath => Option Text
  | .findRegistered _ | .pinnedConn _ => ConnId
  | .loadTxn _ => TxnState
  | .releaseDb _ => Option ℕ
  | .cacheGet _ => Option (ℕ × ℕ)
  | .storeLastUsed _ _ | .bumpGeneration _ | .rememberLibraryPath _ | .assign _ _ | .noteLive _
  | .forgetLive _ | .recordTxn _ _ _ | .forgetConnection _ | .forgetDb _ | .cacheSet _ _ _
  | .cacheClear | .retryCountSet _ => Unit

/-- **The atomic operations of the pool.** -/
inductive Op where
  | loadState (i : ℕ)
  | storeState (i : ℕ) (state : SlotState)
  | casState (i : ℕ) (old new : SlotState)
  | loadOwner (i : ℕ)
  | storeOwner (i : ℕ) (thread : Option Thread)
  | loadConn (i : ℕ)
  | storeConn (i : ℕ) (conn : ConnId)
  /-- Swap the connection with null. -/
  | swapConn (i : ℕ)
  /-- Allocate a connection and connect it. -/
  | create
  /-- Close a connection and let go of the pool's reference to it. -/
  | destroy (conn : ConnId)
  | ask (query : Query) (conn : ConnId)
  | work (what : Work) (conn : ConnId)
  | aside (what : Aside)
  deriving DecidableEq

/-- What an operation answers with; `create` says the new connection, null if there is none, and
whether it is active. -/
abbrev Op.Ans : Op → Type
  | .loadState _ => SlotState
  | .casState _ _ _ | .ask _ _ | .work _ _ => Bool
  | .loadOwner _ => Option Thread
  | .loadConn _ | .swapConn _ => ConnId
  | .create => ConnId × Bool
  | .aside what => what.Ans
  | .storeState _ _ | .storeOwner _ _ | .storeConn _ _ | .destroy _ => Unit

/-- **What the world around chooses** when an operation asks it. -/
structure Choice where
  flag : Bool
  address : ConnId
  time : ℤ
  deriving DecidableEq, Repr

namespace PoolManager

/-- Whether the transaction of a pinned connection is still this handle's. -/
def pinStands (pool : PoolManager) (db : DbId) (conn : ConnId) (active : Bool) : Bool :=
  (pool.txn.stateOf conn).isOpen && (pool.txn.stateOf conn).db == db && conn != 0 && active

/-- What the other operations answer. -/
def answerAside (pool : PoolManager) (t : Thread) (choice : Choice) : (what : Aside) → what.Ans
  | .clock => choice.time
  | .loadLastUsed i => (pool.slots i).lastUsed
  | .loadGeneration i => (pool.slots i).generation
  | .slotsLen => pool.slotCount
  | .loadSize => pool.configuredSize
  | .loadMaxSize => pool.configuredMaxSize
  | .casSize old _ => pool.configuredSize == old
  | .loadIdleTimeout => pool.idleTimeoutSecs
  | .loadLastReap => pool.lastReapTime
  | .casLastReap old _ => pool.lastReapTime == old
  | .loadLibraryPath => pool.libraryDbPath
  | .findRegistered db => (pool.registry db).getD 0
  | .references i => pool.references i
  | .releaseDb db => pool.slotOf db
  | .pinnedConn db =>
    match pool.txn.pins db with
    | Option.none => (0 : ConnId)
    | some conn => if db ≠ 0 ∧ pool.pinStands db conn choice.flag = true then conn else (0 : ConnId)
  | .loadTxn conn => pool.txn.stateOf conn
  | .cacheGet db =>
    if (pool.cache t).dbHandle = db ∧ (pool.cache t).slotIndex ≠ TlsPoolCache.emptyIndex then
      some ((pool.cache t).slotIndex, (pool.cache t).generation)
    else Option.none
  | .retryCountGet => pool.retryCount t
  | .storeLastUsed _ _ | .bumpGeneration _ | .rememberLibraryPath _ | .assign _ _ | .noteLive _
  | .forgetLive _ | .recordTxn _ _ _ | .forgetConnection _ | .forgetDb _ | .cacheSet _ _ _
  | .cacheClear | .retryCountSet _ => ()

/-- **What an operation answers.** -/
def answer (pool : PoolManager) (t : Thread) (choice : Choice) : (op : Op) → op.Ans
  | .loadState i => (pool.slots i).state
  | .casState i old _ => (pool.slots i).state == old
  | .loadOwner i => (pool.slots i).ownerThread
  | .loadConn i => (pool.slots i).conn
  | .swapConn i => (pool.slots i).conn
  | .create =>
    -- The allocator never returns an address that is in use.
    if choice.address = 0 ∨ pool.heap choice.address = true then ((0, false) : ConnId × Bool)
    else (choice.address, choice.flag)
  | .ask _ _ => choice.flag
  | .work _ _ => choice.flag
  | .aside what => pool.answerAside t choice what
  | .storeState _ _ | .storeOwner _ _ | .storeConn _ _ | .destroy _ => ()

/-- Change a thread's cache. -/
def setCache (pool : PoolManager) (t : Thread) (entry : TlsPoolCache) : PoolManager :=
  { pool with cache := update pool.cache t entry }

/-- What the other operations change. -/
def effectAside (pool : PoolManager) (t : Thread) : (what : Aside) → what.Ans → PoolManager
  | .storeLastUsed i now, _ => pool.setSlot i ({ · with lastUsed := now })
  | .bumpGeneration i, _ =>
    pool.setSlot i fun slot => { slot with generation := (slot.generation + 1) % 4294967296 }
  | .casSize _ new, swapped => if swapped = true then { pool with configuredSize := new } else pool
  | .casLastReap _ new, swapped =>
    if swapped = true then { pool with lastReapTime := new } else pool
  | .rememberLibraryPath path, _ =>
    if pool.libraryDbPath.isNone ∧ path ≠ [] then { pool with libraryDbPath := some path } else pool
  | .assign db i, _ => { pool with dbToPool := (db, i) :: pool.unmap db }
  | .releaseDb db, _ => { pool with dbToPool := pool.unmap db }
  | .noteLive conn, _ =>
    { pool with livePoolConns := conn :: pool.livePoolConns.filter (· != conn) }
  | .forgetLive conn, _ => { pool with livePoolConns := pool.livePoolConns.filter (· != conn) }
  | .pinnedConn db, conn =>
    -- A pin that no longer stands is dropped.
    if conn = (0 : ConnId) ∧ db ≠ 0 then { pool with txn := pool.txn.forgetDb db } else pool
  | .recordTxn conn db state, _ =>
    { pool with
      txn := if state.isOpen = true then pool.txn.record conn db state
        else pool.txn.forgetConnection conn }
  | .forgetConnection conn, _ => { pool with txn := pool.txn.forgetConnection conn }
  | .forgetDb db, _ => { pool with txn := pool.txn.forgetDb db }
  | .cacheSet db i generation, _ => pool.setCache t ⟨db, i, generation⟩
  | .cacheClear, _ => pool.setCache t TlsPoolCache.none
  | .retryCountSet count, _ => { pool with retryCount := update pool.retryCount t count }
  | .clock, _ | .loadLastUsed _, _ | .loadGeneration _, _ | .slotsLen, _ | .loadSize, _
  | .loadMaxSize, _ | .loadIdleTimeout, _ | .loadLastReap, _ | .loadLibraryPath, _
  | .findRegistered _, _ | .references _, _ | .loadTxn _, _ | .cacheGet _, _
  | .retryCountGet, _ => pool

/-- **What an operation changes**, given its answer. -/
def effect (pool : PoolManager) (t : Thread) : (op : Op) → op.Ans → PoolManager
  | .storeState i state, _ => pool.setSlot i ({ · with state })
  | .casState i _ new, swapped =>
    if swapped = true then pool.setSlot i ({ · with state := new }) else pool
  | .storeOwner i thread, _ => pool.setSlot i ({ · with ownerThread := thread })
  | .storeConn i conn, _ => pool.setSlot i ({ · with conn })
  | .swapConn i, _ => pool.setSlot i ({ · with conn := 0 })
  | .create, made =>
    if made.1 = 0 then pool else { pool with heap := update pool.heap made.1 true }
  | .destroy conn, _ => { pool with heap := update pool.heap conn false }
  | .aside what, answer => pool.effectAside t what answer
  | .loadState _, _ | .loadOwner _, _ | .loadConn _, _ | .ask _ _, _ | .work _ _, _ => pool

end PoolManager

/-- **What an operation can change in slot `i`.** -/
structure Slot.Changed (op : Op) (i : ℕ) (s s' : Slot) : Prop where
  state : s'.state = s.state ∨ (∃ state, op = .storeState i state) ∨ ∃ old new,
    op = .casState i old new
  owner : s'.ownerThread = s.ownerThread ∨ ∃ owner, op = .storeOwner i owner
  conn : s'.conn = s.conn ∨ (∃ conn, op = .storeConn i conn) ∨ op = .swapConn i
  generation : s'.generation = s.generation ∨ op = .aside (.bumpGeneration i)

namespace PoolManager

/-- **What an operation of thread `t` can change in the pool.** -/
structure Changed (t : Thread) (op : Op) (pool pool' : PoolManager) : Prop where
  maxSize : pool'.configuredMaxSize = pool.configuredMaxSize
  slotCount : pool'.slotCount = pool.slotCount
  registry : pool'.registry = pool.registry
  size : pool'.configuredSize = pool.configuredSize ∨ ∃ old new, op = .aside (.casSize old new)
  retryCount : ∀ u, pool'.retryCount u = pool.retryCount u ∨
    u = t ∧ ∃ count, op = .aside (.retryCountSet count)
  heap : pool'.heap = pool.heap ∨ op = .create ∨ ∃ conn, op = .destroy conn
  slot : ∀ i, (pool.slots i).Changed op i (pool'.slots i)

theorem changed (pool : PoolManager) (t : Thread) (op : Op) (answer : op.Ans) :
    pool.Changed t op (pool.effect t op answer) := by
  have same (s : Slot) {i : ℕ} : s.Changed op i s := ⟨.inl rfl, .inl rfl, .inl rfl, .inl rfl⟩
  have unchanged : pool.Changed t op pool :=
    ⟨rfl, rfl, rfl, .inl rfl, fun _ => .inl rfl, .inl rfl, fun _ => same _⟩
  have setSlot (i : ℕ) (f : Slot → Slot) (change : (pool.slots i).Changed op i (f (pool.slots i))) :
      pool.Changed t op (pool.setSlot i f) := by
    refine { unchanged with slot := fun j => ?_ }
    by_cases here : j = i
    · subst here
      simpa [PoolManager.setSlot] using change
    · simpa [PoolManager.setSlot, here] using same (pool.slots j)
  cases op with
  | storeState i state =>
    exact setSlot i ({ · with state }) { same _ with state := .inr (.inl ⟨state, rfl⟩) }
  | casState i old new =>
    simp only [effect]
    split
    · exact setSlot i _ { same _ with state := .inr (.inr ⟨old, new, rfl⟩) }
    · exact unchanged
  | storeOwner i owner =>
    exact setSlot i ({ · with ownerThread := owner }) { same _ with owner := .inr ⟨owner, rfl⟩ }
  | storeConn i conn =>
    exact setSlot i ({ · with conn }) { same _ with conn := .inr (.inl ⟨conn, rfl⟩) }
  | swapConn i => exact setSlot i ({ · with conn := 0 }) { same _ with conn := .inr (.inr rfl) }
  | create =>
    simp only [effect]
    split
    · exact unchanged
    · exact { unchanged with heap := .inr (.inl rfl) }
  | destroy conn => exact { unchanged with heap := .inr (.inr ⟨conn, rfl⟩) }
  | aside what =>
    cases what with
    | storeLastUsed i now => exact setSlot i ({ · with lastUsed := now }) { same _ with }
    | bumpGeneration i =>
      refine setSlot i (fun slot =>
        { slot with generation := (slot.generation + 1) % 4294967296 }) ?_
      exact { same _ with generation := .inr rfl }
    | casSize old new =>
      simp only [effect, effectAside]
      split
      · exact { unchanged with size := .inr ⟨old, new, rfl⟩ }
      · exact unchanged
    | retryCountSet count =>
      refine { unchanged with retryCount := fun u => ?_ }
      by_cases self : u = t
      · exact .inr ⟨self, count, rfl⟩
      · exact .inl (Function.update_of_ne self ..)
    | casLastReap | rememberLibraryPath | pinnedConn =>
      simp only [effect, effectAside]
      split
      · exact { unchanged with }
      · exact unchanged
    | _ => exact { unchanged with }
  | _ => exact unchanged

end PoolManager

/-! ### What has happened so far -/

/-- **History.**  No operation reads it; it says in which hands things are. -/
structure History where
  /-- The slots a thread is between claiming and publishing. -/
  claims : Thread → List ℕ
  /-- The connections a thread has created and not stored yet, or has taken out of a slot and not
  destroyed yet. -/
  hands : Thread → List ConnId
  /-- The connections that were ever created. -/
  created : ConnId → Bool
  /-- The thread a connection was last handed to and that has not put its slot back since. -/
  handed : ConnId → Option Thread

namespace History

def new : History := ⟨fun _ => [], fun _ => [], fun _ => false, fun _ => none⟩

/-- A claim begins when a slot is moved to a state only its claimant may leave. -/
def claimsSlot : SlotState → Bool
  | .reserved | .reconnecting => true
  | .free | .ready | .error => false

/-- **What an operation adds to the history**, by its thread and its answer, from the pool it
found. -/
def record (history : History) (pool : PoolManager) (t : Thread) : (op : Op) → op.Ans → History
  | .casState i _ new, swapped =>
    if swapped = true ∧ claimsSlot new = true then
      { history with claims := update history.claims t (history.claims t ++ [i]) }
    else history
  | .storeState i state, _ =>
    { history with
      claims := update history.claims t ((history.claims t).erase i)
      handed :=
        -- The thread that puts a slot back to FREE releases its connection.
        if state = .free ∧ history.handed (pool.slots i).conn = some t then
          update history.handed (pool.slots i).conn none
        else history.handed }
  | .storeConn _ conn, _ =>
    { history with hands := update history.hands t ((history.hands t).erase conn) }
  | .swapConn _, conn =>
    if conn = (0 : ConnId) then history
    else { history with hands := update history.hands t (history.hands t ++ [conn]) }
  | .create, made =>
    if made.1 = 0 then history
    else
      { history with
        hands := update history.hands t (history.hands t ++ [made.1])
        created := update history.created made.1 true }
  | .destroy conn, _ =>
    { history with
      hands := update history.hands t ((history.hands t).erase conn)
      handed := update history.handed conn none }
  | .loadState _, _ | .loadOwner _, _ | .storeOwner _ _, _ | .loadConn _, _ | .ask _ _, _
  | .work _ _, _ | .aside _, _ => history

/-- A connection is handed to a thread. -/
def hand (history : History) (t : Thread) (conn : ConnId) : History :=
  if conn = 0 then history
  else { history with handed := update history.handed conn (some t) }

end History

/-- The pool, and what has happened to it. -/
structure Memory where
  pool : PoolManager
  history : History

end PlexPostgres.Pool
