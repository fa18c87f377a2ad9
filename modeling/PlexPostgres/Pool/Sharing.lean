import PlexPostgres.Pool.Handed

/-!
# Handles that share a slot

Two handles used on one thread are mapped to one slot: the second acquisition finds the thread's own
READY slot.  Closing a handle looks at the owner and the state of the slot it was mapped to, not at
how many handles still hold it, so the first close puts the slot back to FREE under the others.
-/

namespace PlexPostgres.Pool

open Txn (ConnId DbId)
open Threads.System (alone_bind)

/-- A thread may put a slot back: it is in use, READY and this thread's. -/
def Releases (pool : PoolManager) (t : Thread) (i : ℕ) : Prop :=
  i < min pool.configuredSize pool.configuredMaxSize ∧ (pool.slots i).ownerThread = some t ∧
    (pool.slots i).state = .ready

instance (pool : PoolManager) (t : Thread) (i : ℕ) : Decidable (Releases pool t i) := by
  unfold Releases
  infer_instance

/-- **The slot a close puts back**: the one the handle is mapped to. -/
def Frees (pool : PoolManager) (t : Thread) (db : DbId) (i : ℕ) : Prop :=
  pool.slotOf db = some i ∧ Releases pool t i

/-- Another handle is mapped to the slot the close puts back. -/
def SharesFreed (pool : PoolManager) (t : Thread) (db : DbId) : Prop :=
  ∃ i, Frees pool t db i ∧ ∃ other, other ≠ db ∧ pool.slotOf other = some i

/-! ### The handles that stay mapped -/

/-- Without a handle, every other handle is mapped where it was. -/
theorem PoolManager.slotOf_unmapped {pool pool' : PoolManager} {db : DbId}
    (unmapped : pool'.dbToPool = pool.unmap db) (other : DbId) :
    pool'.slotOf other = if other = db then none else pool.slotOf other := by
  unfold PoolManager.slotOf
  rw [unmapped, PoolManager.unmap, List.find?_filter]
  split
  next same =>
    subst same
    rw [List.find?_eq_none.mpr, Option.map_none]
    intro entry _
    simp
  next differ =>
    congr 2
    funext entry
    by_cases here : entry.1 = other
    · simp [here, differ]
    · simp [here]

/-! ### A close -/

section Close

variable {maxRetries : ℕ} {t : Thread} {m : Memory} {α : Type} {ends : α → Memory → Prop}

variable {conn : ConnId}

theorem alone_ask {query : Query} {rest : Bool → Prog α}
    (alone : ∀ answer, (system maxRetries).Alone t (rest answer) m ends) :
    (system maxRetries).Alone t (ask query conn >>= rest) m ends := by
  unfold ask
  split
  · exact alone false
  · exact fun choice => alone choice.flag

theorem alone_attempt {what : Work} {ends : Unit → Memory → Prop} (ended : ends () m) :
    (system maxRetries).Alone t (attempt what conn) m ends :=
  fun _ => ended

/-- Settling a connection changes the transaction registry at most. -/
theorem alone_settle :
    (system maxRetries).Alone t (settleConnectionBeforeRelease conn) m fun _ m' =>
      ∃ txn, m' = ⟨{ m.pool with txn }, m.history⟩ := by
  have rolledBack : (system maxRetries).Alone t
      (do rollbackOpen conn; aside (.forgetConnection conn)) m fun _ m' =>
        ∃ txn, m' = ⟨{ m.pool with txn }, m.history⟩ := by
    refine alone_bind.mpr (alone_ask fun open? => ?_)
    exact Threads.System.Alone.onlyIf (fun _ => alone_attempt fun _ => ⟨_, rfl⟩) fun _ _ => ⟨_, rfl⟩
  unfold settleConnectionBeforeRelease
  split
  · exact ⟨m.pool.txn, rfl⟩
  · refine alone_ask fun streaming => alone_bind.mpr ?_
    exact Threads.System.Alone.onlyIf (fun _ => alone_attempt rolledBack) fun _ => rolledBack

/-- The slots after one of them was given back. -/
theorem alone_giveBack {i : ℕ} :
    (system maxRetries).Alone t (giveBack t i) m fun _ m' =>
      m'.pool.dbToPool = m.pool.dbToPool ∧ ∀ j, (m'.pool.slots j).state =
        if j = i ∧ Releases m.pool t i then .free else (m.pool.slots j).state := by
  unfold giveBack
  intro _ _
  show (system maxRetries).Alone t (if i < min _ _ then _ else _) m _
  have kept (no : ¬ Releases m.pool t i) : m.pool.dbToPool = m.pool.dbToPool ∧ ∀ j,
      (m.pool.slots j).state =
        if j = i ∧ Releases m.pool t i then .free else (m.pool.slots j).state := by
    simp [no]
  split
  next used =>
    intro _
    show (system maxRetries).Alone t
      (if threadsEqual (m.pool.slots i).ownerThread t then _ else _) m _
    split
    next own =>
      intro _
      show (system maxRetries).Alone t (if (m.pool.slots i).state = .ready then _ else _) m _
      split
      next ready =>
        intro _
        show (system maxRetries).Alone t (settleConnectionBeforeRelease (m.pool.slots i).conn
          >>= fun _ => do storeOwner i none; storeState i .free) m _
        refine alone_bind.mpr (alone_settle.mono ?_)
        rintro _ m' ⟨txn, rfl⟩ _ _
        refine ⟨rfl, fun j => ?_⟩
        have releases : Releases m.pool t i := ⟨used, by simpa [threadsEqual] using own, ready⟩
        by_cases same : j = i
        · subst same
          simp [releases, system, PoolManager.effect, PoolManager.setSlot]
        · simp [same, system, PoolManager.effect, PoolManager.setSlot]
      next notReady => exact kept fun releases => notReady releases.2.2
    next notOwn =>
      exact kept fun releases => notOwn (by simp [threadsEqual, releases.2.1])
  next unused => exact kept fun releases => unused releases.1

/-- **What a close does to the pool**: the handle is not mapped any more, and the slot it was mapped
to is FREE if the thread may put it back, whoever else is mapped to it. -/
theorem alone_close (db : DbId) :
    (system maxRetries).Alone t ((system maxRetries).program t (.close db)) m fun _ m' =>
      m'.pool.dbToPool = m.pool.unmap db ∧ ∀ j, Frees m.pool t db j ∧
        (m'.pool.slots j).state = .free ∨
        ¬ Frees m.pool t db j ∧ (m'.pool.slots j).state = (m.pool.slots j).state := by
  show (system maxRetries).Alone t (poolReleaseForDbInner t db >>= fun _ => pure 0) m _
  refine alone_bind.mpr fun _ => ?_
  intro _
  show (system maxRetries).Alone t
    (giveBackMapped t (m.pool.slotOf db) >>= fun _ => aside .cacheClear) _ _
  refine alone_bind.mpr ?_
  cases mapped : m.pool.slotOf db with
  | none => exact fun _ => ⟨rfl, fun j => .inr ⟨by simp [Frees, mapped], rfl⟩⟩
  | some i =>
    refine alone_giveBack.mono fun _ m' given _ => ⟨given.1, fun j => ?_⟩
    have state : (m'.pool.slots j).state =
        if j = i ∧ Releases m.pool t i then .free else (m.pool.slots j).state := given.2 j
    by_cases frees : Frees m.pool t db j
    · obtain rfl : i = j := Option.some.inj (mapped.symm.trans frees.1)
      exact .inl ⟨frees, state.trans (if_pos ⟨rfl, frees.2⟩)⟩
    · refine .inr ⟨frees, state.trans (if_neg fun both => frees ⟨?_, ?_⟩)⟩
      · rw [mapped, both.1]
      · exact both.1 ▸ both.2

end Close

/-- **A close leaves shared slots alone exactly when the slot it frees is not shared.**  In any
state, a thread that is called to close a handle and moves alone returns; no slot the close made
FREE is mapped to another handle, if and only if no other handle is mapped to the slot it puts
back. -/
theorem close_frees_unshared_iff (maxRetries : ℕ) (s : State) (t : Thread) (db : DbId)
    (idle : s.running t = none) (choices : ℕ → Choice) :
    ∃ n, ∃ s' : State,
      Runs.final (system maxRetries).next s
          (.start t (.close db) :: (List.range n).map fun k => .step t (choices k)) = s' ∧
        s'.running = s.running ∧
        ((∀ i other, (s.memory.pool.slots i).state ≠ .free →
            (s'.memory.pool.slots i).state = .free → s'.memory.pool.slotOf other ≠ some i) ↔
          ¬ SharesFreed s.memory.pool t db) := by
  obtain ⟨n, conn, m, ⟨unmapped, states⟩, reached⟩ :=
    Threads.System.Alone.called idle (alone_close (t := t) db) choices
  refine ⟨n, _, reached, rfl, ?_⟩
  show (∀ i other, _ → (m.pool.slots i).state = .free → m.pool.slotOf other ≠ some i) ↔ _
  constructor
  · rintro unshared ⟨i, frees, other, differ, shares⟩
    rcases states i with ⟨_, free⟩ | ⟨kept, _⟩
    · refine unshared i other (by simp [frees.2.2.2]) free ?_
      rw [PoolManager.slotOf_unmapped unmapped, if_neg differ, shares]
    · exact kept frees
  · intro unshared i other used free shares
    rcases states i with ⟨frees, _⟩ | ⟨_, same⟩
    · rw [PoolManager.slotOf_unmapped unmapped] at shares
      by_cases self : other = db
      · simp [self] at shares
      · rw [if_neg self] at shares
        exact unshared ⟨i, frees, other, self, shares⟩
    · exact used (same.symm.trans free)

/-- Thread 1 has connection 5 in slot 0, which handle 7 is mapped to. -/
def oneHandle : State where
  memory :=
    ⟨{ PoolManager.new 2 2 with
        slots := Function.update (fun _ => Slot.new) 0 ⟨5, some 1, 0, .ready, 1⟩
        dbToPool := [(7, 0)] }, History.new⟩
  running _ := none

theorem oneHandle_frees_unshared :
    ∃ n, ∃ s' : State,
      Runs.final (system 0).next oneHandle
          (.start 1 (.close 7) :: (List.range n).map fun _ => .step 1 ⟨false, 0, 1⟩) = s' ∧
        ∀ i other, (oneHandle.memory.pool.slots i).state ≠ .free →
          (s'.memory.pool.slots i).state = .free → s'.memory.pool.slotOf other ≠ some i := by
  obtain ⟨n, s', reached, _, clean⟩ :=
    close_frees_unshared_iff 0 oneHandle 1 7 rfl fun _ => ⟨false, 0, 1⟩
  refine ⟨n, s', reached, clean.mpr ?_⟩
  rintro ⟨i, _, other, differ, shares⟩
  simp [PoolManager.slotOf, oneHandle, differ.symm] at shares

/-- Thread 1 uses handle 1 and then handle 2, and closes handle 1. -/
def twoHandles : List Move :=
  [.start 1 (.find 1 libraryDbName)] ++ steps 1 60 ⟨true, 5, 0⟩ ++
    [.start 1 (.find 2 libraryDbName)] ++ steps 1 10 ⟨true, 0, 1⟩ ++ steps 1 1 ⟨false, 0, 1⟩ ++
    steps 1 30 ⟨true, 0, 1⟩ ++ [.start 1 (.close 1)] ++ steps 1 20 ⟨false, 0, 2⟩

/-- **Closing one of two handles that share a slot frees the slot of the other.** -/
theorem twoHandles_slot_freed :
    (reached twoHandles).memory.pool.slotOf 2 = some 0 ∧
      ((reached twoHandles).memory.pool.slots 0).state = .free ∧
      ((reached twoHandles).memory.pool.slots 0).conn = 5 := by
  decide +kernel

end PlexPostgres.Pool
