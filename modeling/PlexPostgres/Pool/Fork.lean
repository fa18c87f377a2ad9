import PlexPostgres.Pool.Handed

/-!
# The pool of a forked child

After `fork` the child has a copy of everything the parent's pool refers to, but the sockets are the
parent's.  `reset_for_child` clears the slots up to the pool size, the registry, the map of the
handles and the cache of the thread it runs on.  It leaves the set of live connections and the
registry of open transactions, and the slots beyond the size, which hold connections once
the size has been configured down.
-/

namespace PlexPostgres.Pool

open Txn (ConnId)

/-- A slot after the reset: empty, FREE, and under a new generation. -/
def Slot.resetForChild (slot : Slot) : Slot :=
  ⟨0, none, 0, .free, (slot.generation + 1) % 4294967296⟩

/-- **Reset the pool for a child process**, on thread `t` of the child. -/
def PoolManager.resetForChild (pool : PoolManager) (t : Thread) : PoolManager :=
  let size := min pool.configuredSize pool.configuredMaxSize
  let reset := (List.range size).foldl (fun pool i => pool.setSlot i Slot.resetForChild) pool
  { reset with
    registry := fun _ => none
    dbToPool := []
    cache := Function.update reset.cache t TlsPoolCache.none }

/-- **Nothing in the process refers to a connection**: no slot holds one and no connection counts
as live; the cache of thread `t`, the only one of a forked child, is empty; no handle is mapped to a
slot or has a connection of its own; and no transaction is recorded or pinned. -/
structure RefersToNone (pool : PoolManager) (t : Thread) : Prop where
  slots : ∀ i < pool.slotCount, (pool.slots i).conn = 0
  live : pool.livePoolConns = []
  cache : pool.cache t = TlsPoolCache.none
  handles : pool.dbToPool = []
  registry : ∀ db, pool.registry db = none
  txn : ∀ conn, pool.txn.byConn conn = none
  pins : ∀ db, pool.txn.pins db = none

/-! ### The loop in closed form -/

/-- The slots the loop has passed are reset, the others are as they were, and nothing else has
changed. -/
theorem resetForChild_loop (pool : PoolManager) (n : ℕ) :
    (List.range n).foldl (fun pool i => pool.setSlot i Slot.resetForChild) pool =
      { pool with
        slots := fun i => if i < n then (pool.slots i).resetForChild else pool.slots i } := by
  induction n with
  | zero => simp
  | succ n ih =>
    rw [List.range_succ, List.foldl_append, ih]
    simp only [List.foldl_cons, List.foldl_nil, PoolManager.setSlot]
    congr 1
    funext i
    by_cases last : i = n
    · subst last
      simp
    · have before : i < n + 1 ↔ i < n := by omega
      simp [last, before]

theorem resetForChild_slots (pool : PoolManager) (t : Thread) (i : ℕ) :
    (pool.resetForChild t).slots i =
      if i < min pool.configuredSize pool.configuredMaxSize then (pool.slots i).resetForChild
      else pool.slots i := by
  unfold PoolManager.resetForChild
  simp only [resetForChild_loop]

/-- **The reset is complete exactly when** the parent had no live connection, no transaction
recorded or pinned, and no connection in a slot beyond the pool size. -/
theorem resetForChild_refersToNone_iff (parent : PoolManager) (t : Thread) :
    RefersToNone (parent.resetForChild t) t ↔
      parent.livePoolConns = [] ∧ (∀ conn, parent.txn.byConn conn = none) ∧
        (∀ db, parent.txn.pins db = none) ∧
        ∀ i < parent.slotCount, min parent.configuredSize parent.configuredMaxSize ≤ i →
          (parent.slots i).conn = 0 := by
  have kept : (parent.resetForChild t).livePoolConns = parent.livePoolConns ∧
      (parent.resetForChild t).txn = parent.txn ∧
      (parent.resetForChild t).slotCount = parent.slotCount := by
    simp [PoolManager.resetForChild, resetForChild_loop]
  constructor
  · intro clean
    refine ⟨kept.1 ▸ clean.live, kept.2.1 ▸ clean.txn, kept.2.1 ▸ clean.pins, ?_⟩
    intro i allocated beyond
    have empty := clean.slots i (kept.2.2 ▸ allocated)
    rwa [resetForChild_slots, if_neg (by omega)] at empty
  · rintro ⟨live, txn, pins, beyond⟩
    refine ⟨fun i allocated => ?_, kept.1 ▸ live, by simp [PoolManager.resetForChild], rfl,
      fun _ => rfl, kept.2.1 ▸ txn, kept.2.1 ▸ pins⟩
    rw [resetForChild_slots]
    split
    · rfl
    next outside => exact beyond i (kept.2.2 ▸ allocated) (by omega)

/-- A parent in which thread 1 has connection 5 in slot 0 for handle 7, with a transaction open. -/
def forkedInTransaction : PoolManager :=
  (reached ([.start 1 (.find 7 libraryDbName)] ++
    steps 1 60 ⟨true, 5, 0⟩)).memory.pool.effectAside 1
    (.recordTxn 5 7 ⟨[.outer true], 7⟩) ()

/-- **The child still counts the parent's connection and sends its statements on it**: the handle
is pinned to connection 5, which is live. -/
theorem forkedInTransaction_still_pinned :
    (forkedInTransaction.resetForChild 1).livePoolConns = [5] ∧
      (forkedInTransaction.resetForChild 1).answerAside 1 ⟨true, 0, 0⟩ (.pinnedConn 7) =
        (5 : ConnId) := by
  decide +kernel

end PlexPostgres.Pool
