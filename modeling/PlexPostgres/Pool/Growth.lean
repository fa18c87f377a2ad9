import PlexPostgres.Pool.Locality

/-!
# The size of the pool

The pool is made with a number of slots that never changes.  Up to the configured maximum of them
may be used; the configured size says how many are, and an acquisition that finds no slot raises it
by one with a compare-and-exchange (`phase5_autogrow.rs`).  The size, the maximum and the number of
slots are read at different times, while other threads grow the pool as well.
-/

namespace PlexPostgres.Pool

open Txn (ConnId DbId TxnCmd)
open Threads (Safe Performs)
open Threads.Prog (onlyIf firstOf gather each)

/-! ### Making the pool -/

def poolSizeDefault : ℕ := 50

/-- `rust_pool_init`: the first call makes the pool, and every call sets its sizes. -/
def rustPoolInit (pool : Option PoolManager) (poolSize poolMax idleTimeout : ℤ) : PoolManager :=
  let requestedMax := if poolMax > 0 then poolMax.toNat else poolSizeDefault
  let requestedSize := if poolSize > 0 then poolSize.toNat else poolSizeDefault
  let pm := pool.getD (PoolManager.new requestedSize requestedMax)
  let maxSz := max (min requestedMax pm.slotCount) 1
  { pm with
    configuredMaxSize := maxSz
    configuredSize := if requestedSize ≤ maxSz then requestedSize else maxSz
    idleTimeoutSecs := if idleTimeout ≥ 10 then idleTimeout.toNat else pm.idleTimeoutSecs }

/-- **A pool as a process makes it**: with any sizes, and initialised any number of times. -/
inductive Made : PoolManager → Prop where
  | new (poolSize poolMax : ℕ) : Made (PoolManager.new poolSize poolMax)
  | init (pool : Option PoolManager) (earlier : ∀ made ∈ pool, Made made)
      (poolSize poolMax idleTimeout : ℤ) : Made (rustPoolInit pool poolSize poolMax idleTimeout)

/-- **The sizes are in order.** -/
structure Ordered (pool : PoolManager) : Prop where
  size_le : pool.configuredSize ≤ pool.configuredMaxSize
  max_le : pool.configuredMaxSize ≤ pool.slotCount
  nonempty : 1 ≤ pool.slotCount

theorem ordered_new (poolSize poolMax : ℕ) : Ordered (PoolManager.new poolSize poolMax) := by
  constructor
  · show max 1 (min poolSize (max poolMax 1)) ≤ max poolMax 1
    omega
  · exact le_rfl
  · exact le_max_right poolMax 1

variable {pool : PoolManager}

theorem Made.ordered (made : Made pool) : Ordered pool := by
  induction made with
  | new poolSize poolMax => exact ordered_new poolSize poolMax
  | init pool earlier poolSize poolMax idleTimeout ih =>
    have before : ∀ size most, Ordered (pool.getD (PoolManager.new size most)) := by
      intro size most
      cases pool with
      | none => exact ordered_new size most
      | some pool => exact ih pool rfl
    unfold rustPoolInit
    generalize (if poolMax > 0 then poolMax.toNat else poolSizeDefault) = requestedMax
    generalize (if poolSize > 0 then poolSize.toNat else poolSizeDefault) = requestedSize
    have slots := (before requestedSize requestedMax).nonempty
    constructor
    · dsimp only
      split <;> omega
    · dsimp only
      omega
    · exact slots

/-! ### What a thread knows of the sizes -/

/-- The maximum and the number of slots, which do not change while the threads run. -/
structure Sizes where
  most : ℕ
  slots : ℕ

/-- **What the sizes allow**: an operation accesses a slot that is there, and the size is raised by
one, from below the maximum.  The hold says that the maximum and the number of slots were read as
they are. -/
def measured (sizes : Sizes) : Threads.Terms Op Op.Ans Bool where
  allows real op := real = true →
    (∀ i, op.slot = some i → i < sizes.slots) ∧
      ∀ old new, op = .aside (.casSize old new) → old < sizes.most ∧ new = old + 1
  after real op := match op with
    | .aside .loadMaxSize => fun most => real && most == sizes.most
    | .aside .slotsLen => fun slots => real && slots == sizes.slots
    | _ => fun _ => real

variable {sizes : Sizes} {t : Thread} {α β : Type}

/-- Once a size was read wrong, nothing more is asked. -/
theorem safe_misread {p : Prog α} {ends : α → Prop} :
    Safe (measured sizes) p false fun a real => real = true → ends a := by
  induction p with
  | done a => exact nofun
  | act op next ih =>
    refine ⟨nofun, fun answer => ?_⟩
    have unread : (measured sizes).after false op answer = false := by
      cases op with
      | aside what => cases what <;> rfl
      | _ => rfl
    rw [unread]
    exact ih answer

/-- **The program stays within the slots**, and ends so if the sizes were read as they are. -/
def Within (sizes : Sizes) (p : Prog α) (results : α → Prop) : Prop :=
  Safe (measured sizes) p true fun a real => real = true → results a

variable {i size : ℕ} {op : Op}

section Rules

variable {p : Prog α} {results : α → Prop}

theorem Within.bind {f : α → Prog β} {results' : β → Prop} (first : Within sizes p results)
    (rest : ∀ a, results a → Within sizes (f a) results') : Within sizes (p >>= f) results' := by
  refine Safe.bind first fun a real ended => ?_
  cases real with
  | false => exact safe_misread
  | true => exact rest a (ended rfl)

theorem within_pure {a : α} (ended : results a) : Within sizes (pure a) results := fun _ => ended

/-- What is done at a slot that is there stays within the slots. -/
theorem Within.of_atSlot (inside : i < sizes.slots) (performs : Performs (AtSlot i) p results) :
    Within sizes p results := by
  refine (Safe.still performs (fun op at' => ?_) fun op answer at' => ?_).mono
    fun _ _ kept _ => kept.2
  · refine fun _ => ⟨fun j accesses => at'.slot accesses ▸ inside, ?_⟩
    rintro old new rfl
    exact at'.elim
  · cases op with
    | aside what => cases what <;> first | rfl | exact at'.elim
    | _ => rfl

theorem within_maxSize : Within sizes (aside .loadMaxSize) fun most => most = sizes.most :=
  ⟨fun _ => ⟨nofun, nofun⟩, fun most read => by simpa [measured] using read⟩

theorem within_slotsLen : Within sizes (aside .slotsLen) fun slots => slots = sizes.slots :=
  ⟨fun _ => ⟨nofun, nofun⟩, fun slots read => by simpa [measured] using read⟩

/-- The size is raised by one, from below the maximum. -/
theorem within_casSize (below : size < sizes.most) :
    Within sizes (aside (.casSize size (size + 1))) fun _ => True := by
  refine ⟨fun _ => ⟨nofun, fun old new same => ?_⟩, fun _ _ => trivial⟩
  cases same
  exact ⟨below, rfl⟩

/-- The operation accesses no slot, and neither reads the maximum nor changes the size. -/
def Beside : Op → Prop
  | .create | .destroy _ | .ask _ _ | .work _ _ => True
  | .aside (.loadLastUsed _) | .aside (.storeLastUsed _ _) | .aside (.loadGeneration _)
  | .aside (.bumpGeneration _) | .aside .slotsLen | .aside .loadMaxSize
  | .aside (.casSize _ _) => False
  | .aside _ => True
  | _ => False

theorem Within.of_beside (performs : Performs Beside p results) : Within sizes p results := by
  refine (Safe.still performs (fun op beside => ?_) fun op answer beside => ?_).mono
    fun _ _ kept _ => kept.2
  · refine fun _ => ⟨fun i accesses => ?_, fun old new same => ?_⟩
    · cases op with
      | aside what => cases what <;> first | exact beside.elim | cases accesses
      | create | destroy | ask | work => cases accesses
      | _ => exact beside.elim
    · subst same
      exact beside.elim
  · cases op with
    | aside what => cases what <;> first | rfl | exact beside.elim
    | _ => rfl

theorem Beside.within (beside : Beside op) : Within sizes (perform op) fun _ => True :=
  Within.of_beside ⟨beside, fun _ => trivial⟩

theorem then_beside {rest : op.Ans → Prog α} (beside : Beside op)
    (within : ∀ answer, Within sizes (rest answer) results) :
    Within sizes (perform op >>= rest) results :=
  beside.within.bind fun answer _ => within answer

theorem within_poolSize : Within sizes poolSize fun size => size ≤ sizes.most := by
  refine then_beside trivial fun size => within_maxSize.bind fun most read => ?_
  exact within_pure (read ▸ min_le_right size most)

theorem within_onlyIf {condition : Prop} [Decidable condition] {p : Prog Unit}
    (within : Within sizes p fun _ => True) : Within sizes (onlyIf condition p) fun _ => True :=
  Safe.onlyIf (fun _ => within) fun _ _ => trivial

variable {ι : Type} {items : List ι} {body : ι → Prog (Option β)}

/-- However the sizes were read. -/
theorem Within.anyhow (within : Within sizes p fun _ => True) (real : Bool) :
    Safe (measured sizes) p real fun _ real => real = true → True := by
  cases real with
  | true => exact within
  | false => exact safe_misread

theorem within_firstOf (one : ∀ i ∈ items, Within sizes (body i) fun _ => True) :
    Within sizes (firstOf items body) fun _ => True :=
  Safe.firstOf (fun i mem real _ => (one i mem).anyhow real) fun _ => trivial

theorem within_each {body : ι → Prog Unit}
    (one : ∀ i ∈ items, Within sizes (body i) fun _ => True) :
    Within sizes (each items body) fun _ => True :=
  Safe.each (fun _ real => real = true → True) (fun i mem _ real _ => (one i mem).anyhow real)
    fun _ => trivial

theorem within_gather {found : List β} (one : ∀ i ∈ items, Within sizes (body i) fun _ => True) :
    Within sizes (gather items body found) fun _ => True :=
  Safe.gather (fun _ real => real = true → True) (fun i mem _ real _ => (one i mem).anyhow real)
    fun _ => trivial

end Rules

/-! ### The calls stay within the slots -/

section Calls

variable {conn : ConnId}

theorem within_destroyPoolConnection :
    Within sizes (destroyPoolConnection conn) fun _ => True := by
  unfold destroyPoolConnection
  split
  · exact within_pure trivial
  · exact then_beside trivial fun _ => then_beside trivial fun _ => Beside.within trivial

theorem within_ask {query : Query} :
    Within sizes (ask query conn) fun _ => True := by
  unfold ask
  split
  · exact within_pure trivial
  · exact Beside.within trivial

variable {db : DbId} {cmd : TxnCmd}

theorem within_runTxn :
    Within sizes (runTxn conn db cmd) fun _ => True := by
  refine within_ask.bind fun socket _ => ?_
  split
  · refine then_beside trivial fun current => then_beside trivial fun done => ?_
    split
    · exact Beside.within trivial
    · exact within_ask.bind fun stillOpen _ => within_onlyIf (Beside.within trivial)
  · exact within_pure trivial

theorem within_retagCache : Within sizes (retagCache db) fun _ => True := by
  refine then_beside trivial fun cached => ?_
  cases cached with
  | some entry => exact Beside.within trivial
  | none => exact within_pure trivial

variable (max_le : sizes.most ≤ sizes.slots)
include max_le

/-- A slot in use is there. -/
theorem slot_there (used : size ≤ sizes.most) (mem : i ∈ List.range size) :
    i < sizes.slots := by
  have := List.mem_range.mp mem
  omega

/-- A scan over the slots in use. -/
theorem within_scan (used : size ≤ sizes.most) {body : ℕ → Prog (Option β)}
    (one : ∀ i, Performs (AtSlot i) (body i) fun _ => True) :
    Within sizes (firstOf (List.range size) body) fun _ => True :=
  within_firstOf fun i mem => Within.of_atSlot (slot_there max_le used mem) (one i)

section Phases

variable {ctx : AcquireCtx} (sized : ctx.poolSize ≤ sizes.most)
include sized

theorem within_cachedSlot {generation : ℕ} :
    Within sizes (cachedSlot ctx i generation) fun _ => True := by
  by_cases used : i < ctx.poolSize
  · exact Within.of_atSlot (by omega) (AtSlot.of_plain plainAt_cachedSlot)
  · unfold cachedSlot
    rw [if_neg used]
    exact within_pure trivial

theorem within_fastPath : Within sizes (fastPath ctx) fun _ => True := by
  refine then_beside trivial fun cached => ?_
  cases cached with
  | none => exact within_pure trivial
  | some entry =>
    refine (within_cachedSlot max_le sized).bind fun found _ => ?_
    cases found with
    | some conn => exact within_pure trivial
    | none => exact then_beside trivial fun _ => within_pure trivial

theorem within_reclaimZombiesAndReap : Within sizes (reclaimZombiesAndReap ctx) fun _ => True := by
  refine then_beside trivial fun idleTimeout => ?_
  refine Within.bind (within_each fun i mem =>
    Within.of_atSlot (slot_there max_le sized mem) (AtSlot.of_quiet quietAt_reclaimZombie))
      fun _ _ => ?_
  refine then_beside trivial fun lastReap => ?_
  split
  · exact within_pure trivial
  · refine then_beside trivial fun swapped => ?_
    split
    · have reaped : Within sizes (reapIdle ctx.now) fun _ => True :=
        then_beside trivial fun timeout => within_poolSize.bind fun size used =>
          within_gather fun i mem =>
            Within.of_atSlot (slot_there max_le used mem) (AtSlot.of_quiet quietAt_reapSlot)
      exact reaped.bind fun toDestroy _ => within_each fun conn _ => within_destroyPoolConnection
    · exact within_pure trivial

omit sized in
/-- **Growing**: the size read was below the maximum, so the slot it is raised to is there. -/
theorem within_phase5Autogrow : Within sizes (phase5Autogrow ctx) fun _ => True := by
  refine then_beside trivial fun currentSize => within_maxSize.bind fun runtimeMax read => ?_
  split
  · exact within_pure trivial
  next below =>
    have below : currentSize < sizes.most := by
      rw [← read]
      exact Nat.lt_of_not_le below
    refine (within_casSize below).bind fun grown _ => ?_
    split
    · refine within_slotsLen.bind fun slotsLen _ => ?_
      split
      · exact within_pure trivial
      · exact Within.of_atSlot (Nat.lt_of_lt_of_le below max_le) atSlot_claimEmpty
    · exact within_pure trivial

theorem within_phases : Within sizes (phases ctx) fun _ => True := by
  have slot {i : ℕ} {p : Prog AcquireDecision} (used : i < ctx.poolSize)
      (performs : Performs (AtSlot i) p fun _ => True) : Within sizes p fun _ => True :=
    Within.of_atSlot (by omega) performs
  have parts : Parts (measured sizes) (fun _ real => real = true → True) ctx :=
    { fast := fun real _ => (within_fastPath max_le sized).anyhow real
      ready := fun _ used real _ => (slot used atSlot_existingReadySlot).anyhow real
      shrink := fun real _ => (within_reclaimZombiesAndReap max_le sized).anyhow real
      reuse := fun _ used real _ => (slot used (AtSlot.of_quiet quietAt_reuseSlot)).anyhow real
      create := fun _ used real _ => (slot used atSlot_createInSlot).anyhow real
      recover := fun _ used real _ => (slot used atSlot_recoverSlot).anyhow real
      grow := fun real _ => (within_phase5Autogrow max_le).anyhow real }
  exact parts.phases fun _ => trivial

end Phases

variable {maxRetries : ℕ} {dbPath : Text} {excludeConn : ConnId}

theorem within_acquirePass {again : Text → Prog ConnId}
    (retries : ∀ path, Within sizes (again path) fun _ => True) :
    Within sizes (acquirePass maxRetries again t dbPath excludeConn) fun _ => True := by
  refine (Within.of_beside (performs_resolveSelectedPoolPath trivial)).bind fun selected _ => ?_
  cases selected with
  | none => exact within_pure trivial
  | some path =>
    refine then_beside trivial fun now => then_beside trivial fun _ => ?_
    refine within_poolSize.bind fun size used => ?_
    refine then_beside trivial fun lastReap => ?_
    refine (within_onlyIf (within_reclaimZombiesAndReap max_le used)).bind fun _ _ => ?_
    refine (within_phases max_le used).bind fun found _ => ?_
    cases found with
    | some conn => exact within_pure trivial
    | none =>
      refine then_beside trivial fun count => ?_
      split
      · refine then_beside trivial fun _ => (retries path).bind fun conn _ => ?_
        have cleared : Within sizes (onlyIf (conn ≠ 0) (aside (.retryCountSet 0))) fun _ => True :=
          within_onlyIf (Beside.within trivial)
        exact cleared.bind fun _ _ => within_pure trivial
      · exact then_beside trivial fun _ => within_pure trivial

theorem within_acquireOn {nested : ℕ} :
    Within sizes (acquireOn maxRetries t nested dbPath excludeConn) fun _ => True := by
  induction nested generalizing dbPath excludeConn with
  | zero => exact within_acquirePass max_le fun _ => within_pure trivial
  | succ nested ih => exact within_acquirePass max_le fun _ => ih

theorem within_poolFindConnectionForDb :
    Within sizes (poolFindConnectionForDb maxRetries t db dbPath) fun _ => True := by
  unfold poolFindConnectionForDb
  split
  · refine (within_acquireOn max_le).bind fun conn _ => within_ask.bind fun active _ => ?_
    split
    · refine within_poolSize.bind fun size used => ?_
      refine (within_scan max_le used fun i => atSlot_trackHandle).bind fun _ _ => ?_
      exact within_retagCache.bind fun _ _ => within_pure trivial
    · exact within_pure trivial
  · exact within_pure trivial

theorem within_giveBack : Within sizes (giveBack t i) fun _ => True := by
  refine within_poolSize.bind fun size used => ?_
  split
  next mapped =>
    refine Within.of_atSlot (i := i) (by omega) ?_
    refine performs_op rfl fun owner => ?_
    split
    · refine performs_op rfl fun state => ?_
      split
      · refine performs_op rfl fun conn => ?_
        exact atSlot_settleConnectionBeforeRelease.bind fun _ _ =>
          ⟨rfl, fun _ => ⟨rfl, fun _ => trivial⟩⟩
      · exact trivial
    · exact trivial
  · exact within_pure trivial

theorem within_poolReleaseForDbInner :
    Within sizes (poolReleaseForDbInner t db) fun _ => True := by
  have mapped (slot : Option ℕ) : Within sizes (giveBackMapped t slot) fun _ => True := by
    cases slot with
    | some i => exact within_giveBack max_le
    | none => exact within_pure trivial
  exact then_beside trivial fun _ => then_beside trivial fun slot =>
    (mapped slot).bind fun _ _ => Beside.within trivial

theorem within_poolCheckHealthInner :
    Within sizes (poolCheckHealthInner t conn) fun _ => True := by
  unfold poolCheckHealthInner
  split
  · exact within_pure trivial
  · refine within_ask.bind fun ok _ => ?_
    split
    · exact within_pure trivial
    · refine within_poolSize.bind fun size used => ?_
      exact (within_scan max_le used fun i => atSlot_checkHealthSlot).bind fun _ _ =>
        within_pure trivial

theorem within_findConnection :
    Within sizes (findConnection maxRetries t db dbPath) fun _ => True := by
  refine then_beside trivial fun handleConn => ?_
  split
  · exact within_pure trivial
  split
  · exact within_poolFindConnectionForDb max_le
  · refine within_ask.bind fun active _ => ?_
    split <;> exact within_pure trivial

theorem within_transact :
    Within sizes (transact maxRetries t db dbPath cmd) fun _ => True := by
  refine then_beside trivial fun pinned => ?_
  split
  · exact within_runTxn
  · exact (within_findConnection max_le).bind fun conn _ => within_runTxn

/-- **Every call stays within the slots.** -/
theorem within_program (call : Call) :
    Within sizes (call.program maxRetries t) fun _ => True := by
  cases call with
  | acquire dbPath excludeConn => exact within_acquireOn max_le
  | find db dbPath => exact within_poolFindConnectionForDb max_le
  | close db => exact (within_poolReleaseForDbInner max_le).bind fun _ _ => within_pure trivial
  | checkHealth conn =>
    exact (within_poolCheckHealthInner max_le).bind fun _ _ => within_pure trivial
  | transact db dbPath cmd => exact (within_transact max_le).bind fun _ _ => within_pure trivial

end Calls

/-! ### Every interleaving -/

/-- The sizes are what they were, and the size has not passed the maximum. -/
structure Sized (sizes : Sizes) (pool : PoolManager) : Prop where
  size_le : pool.configuredSize ≤ sizes.most
  most : pool.configuredMaxSize = sizes.most
  slots : pool.slotCount = sizes.slots

/-- A step the sizes allow keeps them. -/
theorem Sized.step (sized : Sized sizes pool) (choice : Choice)
    (allowed : (measured sizes).allows true op) :
    Sized sizes (pool.effect t op (pool.answer t choice op)) := by
  have kept := pool.changed t op (pool.answer t choice op)
  refine ⟨?_, kept.maxSize.trans sized.most, kept.slotCount.trans sized.slots⟩
  rcases kept.size with same | ⟨old, new, rfl⟩
  · rw [same]
    exact sized.size_le
  · obtain ⟨below, rfl⟩ := (allowed rfl).2 old new rfl
    show (if (pool.configuredSize == old) = true then { pool with configuredSize := old + 1 }
      else pool).configuredSize ≤ _
    split
    · exact below
    · exact sized.size_le

/-- The sizes are read as they are. -/
theorem Sized.reads (sized : Sized sizes pool) (op : Op) (choice : Choice) :
    (measured sizes).after true op (pool.answer t choice op) = true := by
  cases op with
  | aside what =>
    cases what with
    | loadMaxSize => exact beq_iff_eq.mpr sized.most
    | slotsLen => exact beq_iff_eq.mpr sized.slots
    | _ => rfl
  | _ => rfl

/-- **The pool stays within its slots.**  Start with any pool as a process makes it, and let any
threads make any calls: in every state they reach, the size is at most the maximum, the maximum at
most the number of slots, and every slot the next operation of a thread accesses is there. -/
theorem size_within_slots (maxRetries : ℕ) {pool : PoolManager} (made : Made pool)
    (moves : List Move) {s : State}
    (reached : Runs.final (system maxRetries).next ⟨⟨pool, History.new⟩, fun _ => none⟩ moves = s) :
    s.memory.pool.configuredSize ≤ s.memory.pool.configuredMaxSize ∧
      s.memory.pool.configuredMaxSize ≤ s.memory.pool.slotCount ∧
      ∀ t call op i, s.performing t = some (call, op) → op.slot = some i →
        i < s.memory.pool.slotCount := by
  obtain ⟨size_le, max_le, -⟩ := made.ordered
  let sizes : Sizes := ⟨pool.configuredMaxSize, pool.slotCount⟩
  have kept : ∃ holds, (Sized sizes s.memory.pool ∧ ∀ t, holds t = true) ∧
      Threads.System.Follows (fun _ _ => measured sizes) true
        (fun _ _ _ real => real = true → True) s holds := by
    have met : Runs.Meets (system maxRetries).next (fun _ _ => True)
        ⟨⟨pool, History.new⟩, fun _ => none⟩ moves := Runs.meets_of_forall fun _ _ => trivial
    rw [← reached]
    refine Threads.System.invariant
      (fun (m : Memory) (holds : Thread → Bool) => Sized sizes m.pool ∧ ∀ t, holds t = true)
      (fun _ => true) (fun s t call holds _ _ _ inv => ?_)
      (fun s t choice call op rest holds _ _ inv allowed => ?_)
      (fun s t call result holds _ inv _ => ?_) met ⟨fun _ => true, ?_, fun _ => rfl⟩
    · refine ⟨⟨inv.1, fun u => ?_⟩, within_program max_le call⟩
      by_cases same : u = t <;> simp [same, inv.2]
    · obtain ⟨sized, real⟩ := inv
      rw [real t] at allowed ⊢
      refine ⟨sized.step choice allowed, fun u => ?_⟩
      by_cases same : u = t
      · subst same
        rw [Function.update_self]
        exact sized.reads op choice
      · rw [Function.update_of_ne same]
        exact real u
    · refine ⟨inv.1, fun u => ?_⟩
      by_cases same : u = t <;> simp [same, inv.2]
    · exact ⟨⟨size_le, rfl, rfl⟩, fun _ => rfl⟩
  obtain ⟨holds, ⟨sized, real⟩, follows⟩ := kept
  rw [sized.most, sized.slots]
  refine ⟨sized.size_le, max_le, fun t call op i performs accesses => ?_⟩
  exact ((follows.allows performs) (real t)).1 i accesses

/-- Two threads grow a pool of one slot at the same time. -/
def growsTwice : List Move :=
  [.start 1 (.acquire libraryDbName 0), .start 2 (.acquire libraryDbName 0),
    .start 3 (.acquire libraryDbName 0)] ++
    (List.replicate 40 [.step 1 ⟨true, 5, 0⟩, .step 2 ⟨true, 6, 0⟩, .step 3 ⟨true, 7, 0⟩]).flatten

theorem growsTwice_within_slots :
    let s := Runs.final (system 0).next ⟨⟨PoolManager.new 1 2, History.new⟩, fun _ => none⟩
      growsTwice
    s.memory.pool.configuredSize = 2 ∧ 2 ≤ s.memory.pool.configuredMaxSize := by
  have size : (Runs.final (system 0).next ⟨⟨PoolManager.new 1 2, History.new⟩, fun _ => none⟩
      growsTwice).memory.pool.configuredSize = 2 := by decide +kernel
  exact ⟨size, size.symm.le.trans (size_within_slots 0 (Made.new 1 2) growsTwice rfl).1⟩

end PlexPostgres.Pool
