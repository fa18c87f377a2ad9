import PlexPostgres.Pool.Growth

/-!
# The lives of a slot

A slot is used again and again, and each claim raises its generation.  A thread remembers the slot
it used last with the generation it had then; its next acquisition takes the slot without a search
if it is READY, under the same generation and owned by the thread (`tls_cache.rs`,
`phase1_ready.rs`).

Here the threads also clean the pool up and initialise it again (`pool_api.rs`), and every slot has
its lives counted.  Two things can go wrong.  The fast path reads the state, the generation, the
owner and the connection one after the other, and another thread may take the slot over before it
returns.  And a generation comes back: the cleanup stores 0 into every slot, and the counter wraps.
-/

namespace PlexPostgres.Pool

open Txn (ConnId DbId TxnCmd)
open Threads (Safe Performs State System Terms safe_bind)
open Threads.Prog (onlyIf firstOf each)
open PoolManager (effectAside setSlot)

/-! ### Cleanup and initialisation -/

/-- The operations of the pool, and those of its cleanup and its initialisation. -/
inductive LifeOp where
  | pool (op : Op)
  /-- `slot.generation.store(0)`. -/
  | resetGeneration (i : ℕ)
  /-- `db_to_pool.clear()` and `registry.clear()`. -/
  | clearHandles
  | storeMaxSize (size : ℕ)
  | storeSize (size : ℕ)
  | storeIdleTimeout (secs : ℕ)
  deriving DecidableEq

abbrev LifeOp.Ans : LifeOp → Type
  | .pool op => op.Ans
  | .resetGeneration _ | .clearHandles | .storeMaxSize _ | .storeSize _ | .storeIdleTimeout _ =>
    Unit

abbrev LifeProg := Threads.Prog LifeOp LifeOp.Ans

def performLife (op : LifeOp) : LifeProg op.Ans := Threads.Prog.perform op

/-- A program of the pool. -/
def onPool {α : Type} : Prog α → LifeProg α
  | .done a => .done a
  | .act op next => .act (.pool op) fun answer => onPool (next answer)

/-- One slot of the cleanup. -/
def cleanupSlot (i : ℕ) : LifeProg Unit := do
  onPool (storeState i .free)
  let conn ← onPool (swapConn i)
  onPool (destroyPoolConnection conn)
  onPool (storeOwner i none)
  performLife (.resetGeneration i)

/-- `rust_pool_cleanup`. -/
def rustPoolCleanup : LifeProg Unit := do
  let size ← onPool poolSize
  each (List.range size) cleanupSlot
  performLife .clearHandles

/-- `rust_pool_init`, of a pool that is there. -/
def rustPoolReinit (poolSize poolMax idleTimeout : ℤ) : LifeProg Unit := do
  let requestedMax := if poolMax > 0 then poolMax.toNat else poolSizeDefault
  let requestedSize := if poolSize > 0 then poolSize.toNat else poolSizeDefault
  let slotsCap ← onPool (aside .slotsLen)
  let maxSz := max (min requestedMax slotsCap) 1
  performLife (.storeMaxSize maxSz)
  performLife (.storeSize (if requestedSize ≤ maxSz then requestedSize else maxSz))
  onlyIf (idleTimeout ≥ 10) (performLife (.storeIdleTimeout idleTimeout.toNat))

inductive LifeCall where
  | pool (call : Call)
  | cleanup
  | init (poolSize poolMax idleTimeout : ℤ)
  deriving DecidableEq

def LifeCall.program (maxRetries : ℕ) (t : Thread) : LifeCall → LifeProg ConnId
  | .pool call => onPool (call.program maxRetries t)
  | .cleanup => do
      rustPoolCleanup
      pure 0
  | .init poolSize poolMax idleTimeout => do
      rustPoolReinit poolSize poolMax idleTimeout
      pure 0

/-- The pool, and the number of lives each slot has had; no operation reads it. -/
structure Lives where
  pool : PoolManager
  lives : ℕ → ℕ

namespace Lives

def answer (m : Lives) (t : Thread) (choice : Choice) : (op : LifeOp) → op.Ans
  | .pool op => m.pool.answer t choice op
  | .resetGeneration _ | .clearHandles | .storeMaxSize _ | .storeSize _ | .storeIdleTimeout _ => ()

/-- A life begins when the generation is raised. -/
def begins : Op → Option ℕ
  | .aside (.bumpGeneration i) => some i
  | _ => none

def effect (m : Lives) (t : Thread) : (op : LifeOp) → op.Ans → Lives
  | .pool op, answer =>
    { pool := m.pool.effect t op answer
      lives := fun i => if begins op = some i then m.lives i + 1 else m.lives i }
  | .resetGeneration i, _ => { m with pool := m.pool.setSlot i ({ · with generation := 0 }) }
  | .clearHandles, _ => { m with pool := { m.pool with dbToPool := [], registry := fun _ => none } }
  | .storeMaxSize size, _ => { m with pool := { m.pool with configuredMaxSize := size } }
  | .storeSize size, _ => { m with pool := { m.pool with configuredSize := size } }
  | .storeIdleTimeout secs, _ => { m with pool := { m.pool with idleTimeoutSecs := secs } }

end Lives

abbrev LifeState := Threads.State Thread LifeOp LifeOp.Ans Lives LifeCall ConnId

abbrev LifeMove := Threads.Move Thread Choice LifeCall

/-- **The threads of the pool**, which also clean it up and initialise it. -/
def lifeSystem (maxRetries : ℕ) : System Thread LifeOp LifeOp.Ans Lives Choice LifeCall ConnId where
  answer t op choice m := m.answer t choice op
  effect t op answer m := m.effect t op answer
  program t call := call.program maxRetries t
  finish _ _ _ m := m

/-- A pool nobody has used yet. -/
def born (poolSize poolMax : ℕ) : LifeState where
  memory := ⟨PoolManager.new poolSize poolMax, fun _ => 0⟩
  running _ := none

/-! ### What the fast path has found out -/

/-- **How far the fast path of a thread has come**, at slot `i` with generation `g`. -/
inductive FastPath where
  /-- It is not on its way, or has given up. -/
  | idle
  /-- The slot is cached. -/
  | found (i g : ℕ)
  /-- It has the same generation. -/
  | current (i g : ℕ)
  /-- The thread owns it. -/
  | mine (i g : ℕ)
  /-- It holds the connection, which will be returned. -/
  | held (i g : ℕ) (conn : ConnId)
  deriving DecidableEq, Repr

namespace FastPath

/-- The slot whose generation has been compared. -/
def checked : FastPath → Option ℕ
  | .idle | .found _ _ => none
  | .current i _ | .mine i _ | .held i _ _ => some i

/-- What the thread's own operation adds. -/
def after (t : Thread) (path : FastPath) : (op : Op) → op.Ans → FastPath
  | .aside (.cacheGet _), cached =>
    match path, cached with
    | .idle, some (i, g) => .found i g
    | _, _ => path
  | .aside .cacheClear, _ => .idle
  | .aside (.loadGeneration i), generation =>
    match path with
    | .found j g => if j = i ∧ generation = g then .current i g else path
    | _ => path
  | .loadOwner i, owner =>
    match path with
    | .current j g => if j = i ∧ owner = some t then .mine i g else path
    | _ => path
  | .loadConn i, conn =>
    match path with
    | .mine j g => if j = i then .held i g conn else path
    | _ => path
  | _, _ => path

end FastPath

/-- The operation stores the owner, the connection or the generation of slot `i`. -/
def Op.Recycles (i : ℕ) : Op → Prop
  | .storeOwner j _ | .storeConn j _ | .swapConn j | .aside (.bumpGeneration j) => j = i
  | _ => False

/-- A thread recycles no slot its own fast path has checked. -/
def following (t : Thread) : Terms Op Op.Ans FastPath :=
  ⟨fun path op => ∀ i, path.checked = some i → ¬ op.Recycles i, FastPath.after t⟩

/-! ### The programs -/

variable {i : ℕ} {op : Op}

section Programs

variable {t : Thread} {α : Type} {p : Prog α} {results : α → Prop} {path : FastPath}
  {ends : α → FastPath → Prop}

/-- Off its way, the fast path stays off it. -/
theorem safe_idle (performs : Performs NoLook p results)
    (continues : ∀ a, results a → ends a .idle) :
    Safe (following t) p .idle ends := by
  refine (Safe.still performs (fun op _ i checked => ?_) fun op answer unlooked => ?_).mono
    fun a _ ended => ended.1 ▸ continues a ended.2
  · cases checked
  · cases op with
    | aside what => cases what <;> first | rfl | exact unlooked.elim
    | _ => rfl

/-- The operation recycles nothing and leaves the cache alone. -/
def Harmless : Op → Prop
  | .storeOwner _ _ | .storeConn _ _ | .swapConn _ | .aside (.bumpGeneration _)
  | .aside (.cacheGet _) | .aside .cacheClear => False
  | _ => True

/-- **At rest**: not on its way, or with what it will return. -/
def FastPath.Resting : FastPath → Prop
  | .idle | .held _ _ _ => True
  | .found _ _ | .current _ _ | .mine _ _ => False

theorem safe_resting (resting : path.Resting) (performs : Performs Harmless p results)
    (continues : ∀ a, results a → ends a path) : Safe (following t) p path ends := by
  refine (Safe.still performs (fun op harmless i _ recycles => ?_)
    fun op answer harmless => ?_).mono
    fun a _ ended => ended.1 ▸ continues a ended.2
  · cases op with
    | aside what => cases what <;> first | exact harmless.elim | exact recycles.elim
    | storeOwner | storeConn | swapConn => exact harmless.elim
    | _ => exact recycles.elim
  · cases path with
    | idle | held =>
      cases op with
      | aside what => cases what <;> first | rfl | exact harmless.elim
      | _ => rfl
    | found | current | mine => exact resting.elim

/-- **The fast path**: what it returns is what it found the slot to hold. -/
def Followed (found : AcquireDecision) (path : FastPath) : Prop :=
  match found with
  | none => path = .idle
  | some conn => path = .idle ∨ ∃ i g, path = .held i g conn

variable {rest : op.Ans → Prog α}

/-- A read: the path comes to `path'` by its answer. -/
theorem then_read (reads : ∀ i, ¬ op.Recycles i)
    (safe : ∀ answer, Safe (following t) (rest answer) (path.after t op answer) ends) :
    Safe (following t) (perform op >>= rest) path ends :=
  ⟨fun i _ => reads i, safe⟩

theorem then_resting (resting : path.Resting) (harmless : Harmless op)
    (safe : ∀ answer, Safe (following t) (rest answer) path ends) :
    Safe (following t) (perform op >>= rest) path ends := by
  have performs : Performs Harmless (perform op) fun _ => True := ⟨harmless, fun _ => trivial⟩
  exact safe_bind.mpr (safe_resting resting performs fun answer _ => safe answer)

variable {conn : ConnId}

theorem harmless_ask {query : Query} :
    Performs Harmless (ask query conn) fun _ => True := by
  unfold ask
  split
  · exact trivial
  · exact ⟨trivial, fun _ => trivial⟩

variable {ctx : AcquireCtx}

theorem safe_cachedSlot_following {g : ℕ} :
    Safe (following ctx.currentThread) (cachedSlot ctx i g) (.found i g) fun found path =>
      ∀ conn, found = some conn → path = .held i g conn := by
  unfold cachedSlot
  split
  · refine then_read nofun fun state => ?_
    split
    · refine then_read nofun fun generation => ?_
      split
      next same =>
        have compared : FastPath.after ctx.currentThread (.found i g)
            (.aside (.loadGeneration i)) generation = .current i g := if_pos ⟨rfl, same⟩
        show Safe _ _ (FastPath.after ctx.currentThread (.found i g)
          (.aside (.loadGeneration i)) generation) _
        rw [compared]
        refine then_read nofun fun owner => ?_
        split
        next mine =>
          have owned : FastPath.after ctx.currentThread (.current i g) (.loadOwner i) owner =
              .mine i g := if_pos ⟨rfl, by simpa [threadsEqual] using mine⟩
          rw [owned]
          refine then_read nofun fun conn => ?_
          have holds : FastPath.after ctx.currentThread (.mine i g) (.loadConn i) conn =
              .held i g conn := if_pos rfl
          rw [holds]
          have caches : Performs Harmless (cacheExistingReadySlot ctx i conn)
              fun found => found = some conn :=
            ⟨trivial, fun _ => ⟨trivial, fun _ => ⟨trivial, fun _ => rfl⟩⟩⟩
          split
          · exact nofun
          · refine safe_bind.mpr (safe_resting trivial harmless_ask fun ok _ => ?_)
            split
            · refine safe_bind.mpr (safe_resting trivial harmless_ask fun streaming _ => ?_)
              split
              · exact nofun
              · refine safe_resting trivial caches ?_
                rintro _ rfl conn' found
                rw [← Option.some.inj found]
            · exact nofun
        · exact nofun
      · exact nofun
    · exact nofun
  · exact nofun

theorem safe_fastPath :
    Safe (following ctx.currentThread) (fastPath ctx) .idle Followed := by
  refine then_read nofun fun cached => ?_
  cases cached with
  | none => exact rfl
  | some entry =>
    obtain ⟨i, g⟩ := entry
    refine safe_cachedSlot_following.bind fun found path followed => ?_
    cases found with
    | some conn => exact .inr ⟨i, g, followed conn rfl⟩
    | none => exact then_read nofun fun _ => rfl

theorem noLook_reclaimZombiesAndReap :
    Performs NoLook (reclaimZombiesAndReap ctx) fun _ => True :=
  shrinks_reclaimZombiesAndReap.mono (fun _ shrinks => shrinks.2) fun _ ended => ended

/-- What looks nothing up finds nothing on the fast path. -/
theorem safe_unlooked {p : Prog AcquireDecision} (performs : Performs NoLook p fun _ => True)
    (path : FastPath) (off : Followed none path) : Safe (following t) p path Followed := by
  obtain rfl : path = .idle := off
  refine safe_idle performs fun found _ => ?_
  cases found with
  | none => exact rfl
  | some conn => exact .inl rfl

theorem noLook_phase5Autogrow : Performs NoLook (phase5Autogrow ctx) fun _ => True := by
  refine performs_op trivial fun currentSize => performs_op trivial fun runtimeMax => ?_
  split
  · exact trivial
  · refine performs_op trivial fun grown => ?_
    split
    · refine performs_op trivial fun slotsLen => ?_
      split
      · exact trivial
      · exact NoLook.of_atSlot atSlot_claimEmpty
    · exact trivial

theorem followed_parts (ctx : AcquireCtx) :
    Parts (following ctx.currentThread) Followed ctx where
  fast _ off := off ▸ safe_fastPath
  ready _ _ := safe_unlooked (NoLook.of_atSlot atSlot_existingReadySlot)
  shrink _ off := off ▸ safe_idle noLook_reclaimZombiesAndReap fun _ _ => rfl
  reuse _ _ := safe_unlooked (NoLook.of_atSlot (AtSlot.of_quiet quietAt_reuseSlot))
  create _ _ := safe_unlooked (NoLook.of_atSlot atSlot_createInSlot)
  recover _ _ := safe_unlooked (NoLook.of_atSlot atSlot_recoverSlot)
  grow := safe_unlooked noLook_phase5Autogrow

/-- **What an acquisition returns** is what its fast path found, if it returned from there. -/
def Returned (conn : ConnId) (path : FastPath) : Prop := path = .idle ∨ ∃ i g, path = .held i g conn

theorem Returned.resting (returned : Returned conn path) : path.Resting := by
  obtain rfl | ⟨i, g, rfl⟩ := returned <;> trivial

variable {maxRetries : ℕ} {db : DbId} {cmd : TxnCmd} {dbPath : Text} {excludeConn : ConnId}

theorem safe_acquireOn_returned {nested : ℕ} :
    Safe (following t) (acquireOn maxRetries t nested dbPath excludeConn) .idle Returned := by
  refine safe_acquireOn_of Followed (fun ctx same => same ▸ followed_parts ctx)
    (fun what decision path passes stands => ?_) (fun _ off => .inl off) rfl
  have kept : ∀ answer, path.after t (.aside what) answer = path := by
    cases what <;> first | exact fun _ => rfl | exact passes.elim
  refine ⟨fun i _ => ?_, fun answer => ?_⟩
  · cases what <;> first | exact passes.elim | exact id
  · exact (congrArg (Followed decision) (kept answer)).mpr stands

/-- **What a call returns** is what its fast path found, or nothing. -/
def Delivered (conn : ConnId) (path : FastPath) : Prop :=
  ∀ i g held, path = .held i g held → conn = held ∨ conn = 0

theorem Returned.delivered (returned : Returned conn path) : Delivered conn path := by
  rintro i g held rfl
  obtain absurd | ⟨i', g', same⟩ := returned
  · cases absurd
  · cases same
    exact .inl rfl

theorem delivered_zero : Delivered 0 path := fun _ _ _ _ => .inr rfl

theorem safe_poolFindConnectionForDb_delivered :
    Safe (following t) (poolFindConnectionForDb maxRetries t db dbPath) .idle Delivered := by
  unfold poolFindConnectionForDb
  split
  · refine safe_acquireOn_returned.bind fun conn path returned => ?_
    have resting := returned.resting
    refine safe_bind.mpr (safe_resting resting harmless_ask fun active _ => ?_)
    split
    · refine then_resting resting trivial fun size => then_resting resting trivial fun most => ?_
      have tracked : Performs Harmless (firstOf (List.range (min size most)) (trackHandle db conn))
          fun _ => True := by
        refine Performs.firstOf (fun i _ => performs_op trivial fun held => ?_) trivial
        split
        · exact performs_op trivial fun _ => trivial
        · exact trivial
      refine safe_bind.mpr (safe_resting resting tracked fun _ _ => ?_)
      refine safe_bind.mpr (then_read nofun fun cached => ?_)
      -- A thread that came back without its fast path may have a slot cached by now.
      have delivered : Delivered conn (path.after t (.aside (.cacheGet 0)) cached) := by
        obtain rfl | ⟨i, g, rfl⟩ := returned
        · cases cached <;> exact nofun
        · exact Returned.delivered (.inr ⟨i, g, rfl⟩)
      cases cached with
      | some entry => exact ⟨fun _ _ absurd => absurd, fun _ => delivered⟩
      | none => exact delivered
    · exact delivered_zero
  · exact delivered_zero

/-- The operations of a transaction command, which touch no slot. -/
def OfTxn : Op → Prop
  | .ask _ _ | .work _ _ | .aside (.loadTxn _) | .aside (.recordTxn _ _ _)
  | .aside (.forgetConnection _) => True
  | _ => False

theorem safe_runTxn_delivered : Safe (following t) (runTxn conn db cmd) path fun _ _ => True := by
  have performs : Performs OfTxn (runTxn conn db cmd) fun _ => True := by
    refine performs_ask trivial fun socket _ => ?_
    split
    · refine performs_op trivial fun current => performs_op trivial fun done => ?_
      split
      · exact ⟨trivial, fun _ => trivial⟩
      · exact performs_ask trivial fun stillOpen _ =>
          Performs.onlyIf fun _ => ⟨trivial, fun _ => trivial⟩
    · exact trivial
  refine (Safe.still performs (fun op ofTxn i _ recycles => ?_) fun op answer ofTxn => ?_).mono
    fun _ _ _ => trivial
  · cases op with
    | aside what => cases what <;> first | exact ofTxn.elim | exact recycles.elim
    | ask | work => exact recycles.elim
    | _ => exact ofTxn.elim
  · cases op with
    | aside what => cases what <;> first | exact ofTxn.elim | rfl
    | ask | work => rfl
    | _ => exact ofTxn.elim

theorem safe_transact_delivered :
    Safe (following t) (transact maxRetries t db dbPath cmd) .idle fun _ _ => True := by
  refine then_resting trivial trivial fun pinned => ?_
  split
  · exact safe_runTxn_delivered
  · refine safe_bind.mpr (then_resting trivial trivial fun handleConn => ?_)
    split
    · exact safe_runTxn_delivered
    split
    · exact safe_poolFindConnectionForDb_delivered.mono fun _ _ _ => safe_runTxn_delivered
    · refine safe_bind.mpr (safe_resting trivial harmless_ask fun active _ => ?_)
      split <;> exact safe_runTxn_delivered

/-- **A call of the pool** delivers what its fast path found. -/
theorem safe_program_delivered (call : Call) :
    Safe (following t) (call.program maxRetries t) .idle Delivered := by
  cases call with
  | acquire dbPath excludeConn =>
    exact safe_acquireOn_returned.mono fun _ _ returned => returned.delivered
  | find db dbPath => exact safe_poolFindConnectionForDb_delivered
  | close db =>
    have gives (i : ℕ) : Performs NoLook (giveBack t i) fun _ => True := by
      refine performs_op trivial fun size => performs_op trivial fun most => ?_
      show Performs NoLook (if i < min size most then _ else _) _
      split
      · refine performs_op trivial fun owner => ?_
        split
        · refine performs_op trivial fun state => ?_
          split
          · refine performs_op trivial fun conn => ?_
            exact (NoLook.of_atSlot (atSlot_settleConnectionBeforeRelease (i := i))).bind fun _ _ =>
              ⟨trivial, fun _ => ⟨trivial, fun _ => trivial⟩⟩
          · exact trivial
        · exact trivial
      · exact trivial
    have mapped (slot : Option ℕ) : Performs NoLook (giveBackMapped t slot) fun _ => True := by
      cases slot with
      | some i => exact gives i
      | none => exact trivial
    have closes : Performs NoLook (poolReleaseForDbInner t db) fun _ => True :=
      performs_op trivial fun _ => performs_op trivial fun slot =>
        (mapped slot).bind fun _ _ => ⟨trivial, fun _ => trivial⟩
    exact safe_bind.mpr (safe_idle closes fun _ _ => delivered_zero)
  | checkHealth conn =>
    have checks : Performs NoLook (poolCheckHealthInner t conn) fun _ => True := by
      unfold poolCheckHealthInner
      split
      · exact trivial
      · refine performs_ask trivial fun ok _ => ?_
        split
        · exact trivial
        · refine performs_op trivial fun size => performs_op trivial fun most => ?_
          exact (Performs.firstOf (fun i _ => NoLook.of_atSlot atSlot_checkHealthSlot) trivial).bind
            fun _ _ => trivial
    exact safe_bind.mpr (safe_idle checks fun _ _ => delivered_zero)
  | transact db dbPath cmd =>
    exact safe_bind.mpr (safe_transact_delivered.mono fun _ _ _ => delivered_zero)

end Programs

/-! ### The calls, with cleanup and initialisation -/

section LifeCalls

variable {t : Thread} {α : Type} {path : FastPath}

/-- Cleanup and initialisation belong to no fast path. -/
def lifeFollowing (t : Thread) : Terms LifeOp LifeOp.Ans FastPath where
  allows path op := match op with
    | .pool op => (following t).allows path op
    | _ => path = .idle
  after path op := match op with
    | .pool op => path.after t op
    | _ => fun _ => path

theorem safe_onPool {p : Prog α} {ends : α → FastPath → Prop}
    (safe : Safe (following t) p path ends) : Safe (lifeFollowing t) (onPool p) path ends := by
  induction p generalizing path with
  | done a => exact safe
  | act op next ih => exact ⟨safe.1, fun answer => ih answer (safe.2 answer)⟩

variable {β : Type} {ends : β → FastPath → Prop}

/-- Off its way, the fast path stays off it, in a cleanup as well. -/
theorem then_onPool {p : Prog α} {rest : α → LifeProg β}
    (performs : Performs NoLook p fun _ => True)
    (safe : ∀ a, Safe (lifeFollowing t) (rest a) .idle ends) :
    Safe (lifeFollowing t) (onPool p >>= rest) .idle ends :=
  safe_bind.mpr (safe_onPool (safe_idle performs fun a _ => safe a))

theorem safe_life_idle {op : LifeOp} {rest : op.Ans → LifeProg β}
    (own : ∀ op', op ≠ .pool op')
    (safe : ∀ answer, Safe (lifeFollowing t) (rest answer) .idle ends) :
    Safe (lifeFollowing t) (performLife op >>= rest) .idle ends := by
  cases op with
  | pool op => exact absurd rfl (own op)
  | _ => exact ⟨rfl, safe⟩

theorem safe_rustPoolCleanup :
    Safe (lifeFollowing t) rustPoolCleanup .idle fun _ path => path = .idle := by
  have cleans (i : ℕ) :
    Safe (lifeFollowing t) (cleanupSlot i) .idle fun _ path => path = .idle := by
    refine then_onPool ⟨trivial, fun _ => trivial⟩ fun _ => ?_
    refine then_onPool ⟨trivial, fun _ => trivial⟩ fun conn => ?_
    have destroys : Performs NoLook (destroyPoolConnection conn) fun _ => True :=
      NoLook.of_atSlot (AtSlot.of_plain (plainAt_destroyPoolConnection (i := i)))
    refine then_onPool destroys fun _ => then_onPool ⟨trivial, fun _ => trivial⟩ fun _ => ?_
    exact ⟨rfl, fun _ => rfl⟩
  refine then_onPool ⟨trivial, fun _ => ⟨trivial, fun _ => trivial⟩⟩ fun size => ?_
  have all : Safe (lifeFollowing t) (each (List.range size) cleanupSlot) .idle
      fun _ path => path = .idle := by
    refine Safe.each (fun _ path => path = FastPath.idle) (fun i _ _ path off => ?_) rfl
    subst off
    exact cleans i
  refine all.bind ?_
  rintro _ _ rfl
  exact ⟨rfl, fun _ => rfl⟩

theorem safe_rustPoolReinit (poolSize poolMax idleTimeout : ℤ) :
    Safe (lifeFollowing t) (rustPoolReinit poolSize poolMax idleTimeout) .idle
      fun _ path => path = .idle := by
  refine then_onPool ⟨trivial, fun _ => trivial⟩ fun slotsCap => ?_
  refine safe_life_idle nofun fun _ => safe_life_idle nofun fun _ => ?_
  exact Safe.onlyIf (fun _ => ⟨rfl, fun _ => rfl⟩) fun _ => rfl

/-- **What any call returns** is what its fast path found, or nothing. -/
theorem safe_lifeProgram {maxRetries : ℕ} (call : LifeCall) :
    Safe (lifeFollowing t) (call.program maxRetries t) .idle Delivered := by
  cases call with
  | pool call => exact safe_onPool (safe_program_delivered call)
  | cleanup => exact safe_rustPoolCleanup.bind fun _ _ _ => delivered_zero
  | init poolSize poolMax idleTimeout =>
    exact (safe_rustPoolReinit poolSize poolMax idleTimeout).bind fun _ _ _ => delivered_zero

end LifeCalls

/-! ### The fast path in a run -/

/-- The operation stores the owner, the connection or the generation of slot `i`. -/
def LifeOp.Recycles (i : ℕ) : LifeOp → Prop
  | .pool op => op.Recycles i
  | .resetGeneration j => j = i
  | .clearHandles | .storeMaxSize _ | .storeSize _ | .storeIdleTimeout _ => False

/-- **What the fast path has found out still stands.** -/
def Stands (t : Thread) (m : Lives) : FastPath → Prop
  | .idle | .found _ _ => True
  | .current i g => (m.pool.slots i).generation = g
  | .mine i g => (m.pool.slots i).generation = g ∧ (m.pool.slots i).ownerThread = some t
  | .held i g conn =>
    (m.pool.slots i).generation = g ∧ (m.pool.slots i).ownerThread = some t ∧
      (m.pool.slots i).conn = conn

/-- The run, with the fast path of thread `t` followed. -/
def followingRun (maxRetries : ℕ) (t : Thread) :
    LifeState × FastPath → LifeMove → LifeState × FastPath :=
  (lifeSystem maxRetries).watch (lifeFollowing t) (fun _ => .idle) (fun _ => .idle) t

/-- **The condition on a step**: no other thread recycles the slot the fast path of `t` has checked
and not returned from yet. -/
def Steady (t : Thread) (watched : LifeState × FastPath) : LifeMove → Prop
  | .start _ _ => True
  | .step u _ =>
    u ≠ t → ∀ i, watched.2.checked = some i →
      ∀ call op, watched.1.performing u = some (call, op) → ¬ op.Recycles i

/-- Two slots agree on what the fast path compares. -/
def Slot.SameFor (slot slot' : Slot) : Prop :=
  slot'.generation = slot.generation ∧ slot'.ownerThread = slot.ownerThread ∧ slot'.conn = slot.conn

/-- An operation that does not recycle a slot leaves the fast path the same to compare. -/
theorem PoolManager.effect_alike (pool : PoolManager) (t : Thread) (keeps : ¬ op.Recycles i)
    (answer : op.Ans) :
    (pool.slots i).SameFor ((pool.effect t op answer).slots i) := by
  obtain ⟨-, owner, conn, generation⟩ := (pool.changed t op answer).slot i
  refine ⟨generation.resolve_right ?_, owner.resolve_right ?_, conn.resolve_right ?_⟩
  · rintro rfl
    exact keeps rfl
  · rintro ⟨thread, rfl⟩
    exact keeps rfl
  · rintro (⟨conn, rfl⟩ | rfl) <;> exact keeps rfl

theorem Lives.effect_alike (m : Lives) (t : Thread) {op : LifeOp} (keeps : ¬ op.Recycles i)
    (answer : op.Ans) : (m.pool.slots i).SameFor ((m.effect t op answer).pool.slots i) := by
  cases op with
  | pool op => exact m.pool.effect_alike t keeps answer
  | resetGeneration j =>
    have other : i ≠ j := fun same => keeps same.symm
    simp [Lives.effect, setSlot, other, Slot.SameFor]
  | _ => exact ⟨rfl, rfl, rfl⟩

variable {moves : List LifeMove}

section Runs

variable {maxRetries : ℕ} {t : Thread} {m m' : Lives} {path : FastPath}

/-- What stands depends only on the slot that was checked. -/
theorem Stands.kept (stands : Stands t m path)
    (alike : ∀ i, path.checked = some i → (m.pool.slots i).SameFor (m'.pool.slots i)) :
    Stands t m' path := by
  cases path with
  | idle | found => trivial
  | current i g => exact (alike i rfl).1.trans stands
  | mine i g =>
    obtain ⟨generation, owner, -⟩ := alike i rfl
    exact ⟨generation.trans stands.1, owner.trans stands.2⟩
  | held i g conn =>
    obtain ⟨generation, owner, holds⟩ := alike i rfl
    exact ⟨generation.trans stands.1, owner.trans stands.2.1, holds.trans stands.2.2⟩

/-- What the thread reads is what is there. -/
theorem Stands.read (stands : Stands t m path) (choice : Choice) (op : Op) :
    Stands t m (path.after t op (m.pool.answer t choice op)) := by
  cases op with
  | loadOwner i =>
    cases path with
    | current j g =>
      simp only [FastPath.after]
      split
      next read =>
        obtain ⟨rfl, owner⟩ := read
        exact ⟨stands, owner⟩
      · exact stands
    | _ => exact stands
  | loadConn i =>
    cases path with
    | mine j g =>
      simp only [FastPath.after]
      split
      next same =>
        subst same
        exact ⟨stands.1, stands.2, rfl⟩
      · exact stands
    | _ => exact stands
  | aside what =>
    cases what with
    | loadGeneration i =>
      cases path with
      | found j g =>
        simp only [FastPath.after]
        split
        next read =>
          obtain ⟨rfl, same⟩ := read
          exact same
        · exact stands
      | _ => exact stands
    | cacheGet db =>
      cases path with
      | idle =>
        simp only [FastPath.after]
        split <;> trivial
      | _ => exact stands
    | cacheClear => trivial
    | _ => exact stands
  | _ => exact stands

theorem after_of_recycles (recycles : op.Recycles i) {answer : op.Ans} :
    path.after t op answer = path := by
  cases op with
  | aside what => cases what <;> first | rfl | exact recycles.elim
  | storeOwner | storeConn | swapConn => rfl
  | _ => exact recycles.elim

/-- **In a steady run, what the fast path has found out stands.** -/
theorem steady_stands {watched : LifeState × FastPath}
    (met : Runs.Meets (followingRun maxRetries t) (Steady t) watched moves)
    (stands : Stands t watched.1.memory watched.2)
    (fits : System.Watched (lifeFollowing t) (fun path => path = .idle) Delivered t watched) :
    Stands t (Runs.final (followingRun maxRetries t) watched moves).1.memory
        (Runs.final (followingRun maxRetries t) watched moves).2 ∧
      System.Watched (lifeFollowing t) (fun path => path = .idle) Delivered t
        (Runs.final (followingRun maxRetries t) watched moves) := by
  refine System.watch_invariant (Stands t) (fun m path s call _ _ _ => ?_)
    (fun s path choice call op rest _ _ stands allowed => ?_)
    (fun s path u choice call op rest other steady busy stands => ?_)
    (fun _ _ _ _ _ stands => stands) (fun _ m _ _ _ => ?_) met ⟨stands, fits⟩
  · exact ⟨trivial, safe_lifeProgram call⟩
  · cases op with
    | pool op =>
      refine (stands.read choice op).kept fun i checked => ?_
      refine s.memory.pool.effect_alike t (fun recycles => ?_) _
      rw [after_of_recycles recycles] at checked
      exact allowed i checked recycles
    | _ =>
      obtain rfl : path = .idle := allowed
      trivial
  · refine stands.kept fun i checked => ?_
    have performs : s.performing u = some (call, op) := by
      simp [State.performing, busy]
    exact s.memory.effect_alike u (steady other i checked call op performs) _
  · exact ⟨(trivial : Stands t m .idle), rfl⟩

end Runs

/-! ### Lives and generations -/

/-- The operation gives the slot no generation it had before. -/
def LifeOp.Tells (pool : PoolManager) : LifeOp → Prop
  | .pool (.aside (.bumpGeneration i)) => (pool.slots i).generation ≠ 4294967295
  | .resetGeneration i => (pool.slots i).generation = 0
  | _ => True

/-- **The condition on a step**: no generation is raised past the last 32-bit number, and no
generation that was raised is reset. -/
def Distinct (s : LifeState) : LifeMove → Prop
  | .start _ _ => True
  | .step u _ => ∀ call op, s.performing u = some (call, op) → op.Tells s.memory.pool

/-- **The generation of every slot is the number of its lives.** -/
def Numbered (m : Lives) : Prop :=
  ∀ i, (m.pool.slots i).generation = m.lives i ∧ m.lives i < 4294967296

section Numbered

variable {maxRetries : ℕ} {m : Lives}

theorem begins_eq_some (begins : Lives.begins op = some i) :
    op = .aside (.bumpGeneration i) := by
  cases op with
  | aside what =>
    cases what with
    | bumpGeneration j => rw [Option.some.inj begins]
    | _ => cases begins
  | _ => cases begins

variable {op : LifeOp}

/-- A step that tells its generations apart keeps them numbered. -/
theorem Numbered.step (numbered : Numbered m) (t : Thread) (tells : op.Tells m.pool)
    (answer : op.Ans) : Numbered (m.effect t op answer) := by
  intro i
  obtain ⟨generation, below⟩ := numbered i
  cases op with
  | pool op =>
    cases begins : Lives.begins op with
    | none =>
      simp only [Lives.effect, begins, reduceCtorEq, if_false]
      have same := ((m.pool.changed t op answer).slot i).generation.resolve_right fun bumps => by
        rw [bumps] at begins
        cases begins
      exact ⟨same.trans generation, below⟩
    | some j =>
      obtain rfl := begins_eq_some begins
      by_cases same : j = i
      · subst same
        have last : (m.pool.slots j).generation ≠ 4294967295 := tells
        simp only [Lives.effect, Lives.begins, if_true, PoolManager.effect,
          effectAside, setSlot, Function.update_self]
        omega
      · simp only [Lives.effect, Lives.begins, Option.some.injEq, same, if_false,
          PoolManager.effect, effectAside, setSlot]
        rw [Function.update_of_ne (Ne.symm same)]
        exact ⟨generation, below⟩
  | resetGeneration j =>
    by_cases same : i = j
    · subst same
      have unused : (m.pool.slots i).generation = 0 := tells
      refine ⟨?_, below⟩
      simp only [Lives.effect, setSlot, Function.update_self]
      omega
    · refine ⟨?_, below⟩
      simp only [Lives.effect, setSlot, Function.update_of_ne same]
      exact generation
  | _ => exact ⟨generation, below⟩

/-- A step that does not gives a slot in use the generation of a slot never used. -/
theorem Numbered.breaks (numbered : Numbered m) (t : Thread) (repeats : ¬ op.Tells m.pool)
    (answer : op.Ans) :
    ∃ i, ((m.effect t op answer).pool.slots i).generation = 0 ∧
      (m.effect t op answer).lives i ≠ 0 := by
  cases op with
  | pool op =>
    cases begins : Lives.begins op with
    | none =>
      refine absurd ?_ repeats
      cases op with
      | aside what => cases what <;> trivial
      | _ => trivial
    | some i =>
      obtain rfl := begins_eq_some begins
      have last : (m.pool.slots i).generation = 4294967295 := not_not.mp repeats
      refine ⟨i, ?_, ?_⟩
      · simp only [Lives.effect, PoolManager.effect, effectAside, setSlot,
          Function.update_self, last]
      · simp [Lives.effect, Lives.begins]
  | resetGeneration i =>
    have used : (m.pool.slots i).generation ≠ 0 := repeats
    refine ⟨i, ?_, ?_⟩
    · simp only [Lives.effect, setSlot, Function.update_self]
    · exact (numbered i).1 ▸ used
  | _ => exact absurd trivial repeats

variable {s : LifeState} {u : Thread}

/-- A step of a thread that is about to perform an operation. -/
theorem next_of_performing {call : LifeCall} (performs : s.performing u = some (call, op))
    (choice : Choice) :
    ((lifeSystem maxRetries).next s (.step u choice)).memory =
      s.memory.effect u op (s.memory.answer u choice op) := by
  obtain ⟨rest, busy⟩ := State.running_of_performing performs
  simp [System.next, busy, lifeSystem]

/-- Every other step leaves the memory alone. -/
theorem next_of_not_performing (performs : s.performing u = none) (choice : Choice) :
    ((lifeSystem maxRetries).next s (.step u choice)).memory = s.memory := by
  unfold State.performing at performs
  split at performs
  · cases performs
  next call result busy => simp [System.next, busy, lifeSystem]
  next idle => simp [System.next, idle]

variable {poolSize poolMax : ℕ}

theorem distinct_numbered
    (met : Runs.Meets (lifeSystem maxRetries).next Distinct (born poolSize poolMax) moves) :
    Numbered (Runs.final (lifeSystem maxRetries).next (born poolSize poolMax) moves).memory := by
  refine met.invariant (fun s => Numbered s.memory) (fun s move numbered distinct => ?_)
    fun i => ⟨rfl, show 0 < 4294967296 by omega⟩
  cases move with
  | start u call =>
    have kept : ((lifeSystem maxRetries).next s (.start u call)).memory = s.memory := by
      cases busy : s.running u <;> simp [System.next, busy]
    rw [kept]
    exact numbered
  | step u choice =>
    cases performs : s.performing u with
    | none =>
      rw [next_of_not_performing performs]
      exact numbered
    | some performing =>
      obtain ⟨call, op⟩ := performing
      rw [next_of_performing performs]
      exact numbered.step u (distinct call op performs) _

/-- **A generation belongs to one life**: whenever a slot has the same generation twice, it is in
the same life. -/
def OneLife (maxRetries : ℕ) (s : LifeState) (moves : List LifeMove) : Prop :=
  ∀ earlier later, earlier <+: later → later <+: moves → ∀ i,
    let m := (Runs.final (lifeSystem maxRetries).next s earlier).memory
    let m' := (Runs.final (lifeSystem maxRetries).next s later).memory
    (m.pool.slots i).generation = (m'.pool.slots i).generation → m.lives i = m'.lives i

theorem oneLife_iff :
    OneLife maxRetries (born poolSize poolMax) moves ↔
      Runs.Meets (lifeSystem maxRetries).next Distinct (born poolSize poolMax) moves := by
  constructor
  · intro one
    by_contra fails
    obtain ⟨before, move, after, rfl, met, repeats⟩ := Runs.exists_first_of_not_meets fails
    cases move with
    | start u call => exact repeats trivial
    | step u choice =>
      unfold Distinct at repeats
      push Not at repeats
      obtain ⟨call, op, performs, repeats⟩ := repeats
      let found := Runs.final (lifeSystem maxRetries).next (born poolSize poolMax) before
      obtain ⟨i, generation, lives⟩ :=
        (distinct_numbered met).breaks u repeats (found.memory.answer u choice op)
      have reached : (Runs.final (lifeSystem maxRetries).next (born poolSize poolMax)
          (before ++ [.step u choice])).memory =
            found.memory.effect u op (found.memory.answer u choice op) := by
        rw [Runs.final_append]
        exact next_of_performing performs choice
      -- A slot that was never used has generation 0 as well.
      have same := one [] (before ++ [.step u choice]) List.nil_prefix
        ⟨after, by simp⟩ i
      rw [reached] at same
      exact lives (same generation.symm).symm
  · intro met earlier later shorter within i m m' same
    have before := distinct_numbered (met.shorter (shorter.trans within)) i
    have after := distinct_numbered (met.shorter within) i
    rw [← before.1, ← after.1]
    exact same

end Numbered

/-- **The fast path and the lives of the slots**, in every history of a pool: the calls are any
calls of the pool, cleanups and initialisations, by any threads and in any interleaving.  In a
steady run, when the fast path of a thread is about to return what it found, the slot has the
generation the thread cached, is owned by the thread and holds the connection.  And no generation
belongs to two lives of a slot exactly if the run is distinct. -/
theorem fast_path_and_lives (maxRetries poolSize poolMax : ℕ) (t : Thread) (moves : List LifeMove) :
    (Runs.Meets (followingRun maxRetries t) (Steady t) (born poolSize poolMax, .idle) moves →
      let reached := Runs.final (followingRun maxRetries t) (born poolSize poolMax, .idle) moves
      ∀ i g conn, reached.2 = .held i g conn →
        ((reached.1.memory.pool.slots i).generation = g ∧
            (reached.1.memory.pool.slots i).ownerThread = some t ∧
            (reached.1.memory.pool.slots i).conn = conn) ∧
          ∀ call result, reached.1.returning t = some (call, result) → result = conn ∨ result = 0) ∧
      (OneLife maxRetries (born poolSize poolMax) moves ↔
        Runs.Meets (lifeSystem maxRetries).next Distinct (born poolSize poolMax) moves) := by
  refine ⟨fun met => ?_, oneLife_iff⟩
  obtain ⟨stands, fits⟩ := steady_stands met trivial rfl
  intro reached i g conn held
  constructor
  · have standing : Stands t reached.1.memory reached.2 := stands
    rwa [held] at standing
  · intro call result returns
    exact fits.ended returns i g conn held

/-! ### Runs -/

/-- `n` steps of one thread. -/
def lifeSteps (t : Thread) (n : ℕ) (choice : Choice) : List LifeMove :=
  List.replicate n (.step t choice)

/-- Thread 1 acquires connection 5. -/
def firstLife : List LifeMove :=
  .start 1 (.pool (.acquire libraryDbName 0)) :: lifeSteps 1 24 ⟨true, 5, 0⟩

/-- Then it acquires again, and its fast path finds the slot undisturbed. -/
def fastAgain : List LifeMove :=
  firstLife ++ .start 1 (.pool (.acquire libraryDbName 0)) :: lifeSteps 1 10 ⟨false, 0, 3⟩ ++
    lifeSteps 1 1 ⟨true, 0, 3⟩ ++ lifeSteps 1 1 ⟨false, 0, 3⟩ ++ lifeSteps 1 3 ⟨true, 0, 3⟩

example :
    let reached := Runs.final (followingRun 0 1) (born 1 1, .idle) fastAgain
    Runs.Meets (followingRun 0 1) (Steady 1) (born 1 1, .idle) fastAgain ∧
      reached.2 = .held 0 1 5 ∧
      reached.1.returning 1 = some (.pool (.acquire libraryDbName 0), 5) := by
  have steady : ∀ move ∈ fastAgain, ∀ watched, Steady 1 watched move := by
    simp [fastAgain, firstLife, lifeSteps, or_imp, forall_and, Steady]
  exact ⟨(Runs.meets_of_forall steady).imp fun watched _ each => each watched, by decide +kernel⟩

/-- Or it cleans the pool up and acquires connection 6. -/
def secondLife : List LifeMove :=
  firstLife ++ .start 1 .cleanup :: lifeSteps 1 14 ⟨true, 0, 0⟩ ++
    .start 1 (.pool (.acquire libraryDbName 0)) :: lifeSteps 1 60 ⟨true, 6, 0⟩

/-- Thread 1 acquires connection 5 at second 0, and again at second 300.  Its fast path has found
the slot READY, current and its own when thread 2 takes the slot back as a zombie and reuses it;
then it returns.  Thread 3 acquired at second 290, which is when the reaper last ran. -/
def overtaken : List LifeMove :=
  [.start 1 (.pool (.acquire libraryDbName 0))] ++ lifeSteps 1 40 ⟨true, 5, 0⟩ ++
    [.start 3 (.pool (.acquire libraryDbName 0))] ++ lifeSteps 3 60 ⟨true, 6, 290⟩ ++
    [.start 1 (.pool (.acquire libraryDbName 0))] ++ lifeSteps 1 10 ⟨false, 0, 300⟩ ++
    lifeSteps 1 1 ⟨true, 0, 300⟩ ++ lifeSteps 1 1 ⟨false, 0, 300⟩ ++
    [.start 2 (.pool (.acquire libraryDbName 0))] ++ lifeSteps 2 23 ⟨false, 0, 301⟩ ++
    lifeSteps 2 20 ⟨true, 0, 301⟩ ++ lifeSteps 1 3 ⟨true, 0, 301⟩

/-- **A generation of two lives**, before and after a cleanup; **and a fast path that returns the
connection of a slot another thread owns** under another generation. -/
theorem generation_reused_and_slot_lost :
    (let m := (Runs.final (lifeSystem 0).next (born 1 1) firstLife).memory
      let m' := (Runs.final (lifeSystem 0).next (born 1 1) secondLife).memory
      ((m.pool.slots 0).generation = 1 ∧ m.lives 0 = 1) ∧
        (m'.pool.slots 0).generation = 1 ∧ m'.lives 0 = 2) ∧
      let reached := Runs.final (followingRun 0 1) (born 2 2, .idle) overtaken
      (reached.2 = .held 0 1 5 ∧
          reached.1.returning 1 = some (.pool (.acquire libraryDbName 0), 5)) ∧
        (reached.1.memory.pool.slots 0).ownerThread = some 2 ∧
        (reached.1.memory.pool.slots 0).generation = 2 := by
  decide +kernel

end PlexPostgres.Pool
