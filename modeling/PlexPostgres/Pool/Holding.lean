import PlexPostgres.Pool.Handles

/-!
# What a thread of the pool holds

Nothing in the pool says which thread may touch a slot; it follows from the order in which the
programs read and write.  Here it is said: a thread has a *grip* on the slot it looks at, which
is knowledge that other threads cannot make false, and connections in its *hands*, which are in no
slot.  `terms` says what each operation needs of them and what it leaves.

A grip on a slot whose state only its claimant may leave is `exclusive`.  The knowledge that a READY
slot belongs to this thread is good only while nobody takes READY slots back: it is there in a
`quiet` pool, in which no zombie is reclaimed.
-/

namespace PlexPostgres.Pool

open Txn (ConnId DbId)

/-! ### Grips -/

/-- **What a thread knows of a slot.** -/
inductive Grip where
  | loose
  /-- If the slot is this thread's own, it is READY. -/
  | ready (i : ℕ)
  /-- If the slot is this thread's own and READY, it holds this connection. -/
  | sampled (i : ℕ) (conn : ConnId)
  /-- The slot is this thread's own and READY, with this connection if it is known. -/
  | mine (i : ℕ) (conn : Option ConnId)
  /-- The slot was this thread's own, is still READY and has no owner any more. -/
  | leaving (i : ℕ)
  /-- The slot was claimed as RESERVED: its connection if it is known, whether the owner is written
  yet, and whether no other thread was handed its connection. -/
  | reserved (i : ℕ) (conn : Option ConnId) (owned clean : Bool)
  /-- The slot was claimed as RECONNECTING. -/
  | reconnecting (i : ℕ) (conn : Option ConnId)

/-- **What a thread holds**: its grip, the connections in its hands, the one it has just created
(0 if none), and whether it reads the owner of a slot before anything else. -/
structure Hold where
  grip : Grip
  hands : List ConnId
  fresh : ConnId
  guarded : Bool

variable {grip : Grip} {i : ℕ}

namespace Grip

/-- The slot a thread is between claiming and publishing. -/
def claims : Grip → List ℕ
  | reserved i _ _ _ | reconnecting i _ => [i]
  | loose | ready _ | sampled _ _ | mine _ _ | leaving _ => []

/-- The slot no other thread may touch. -/
def exclusive : Grip → Option ℕ
  | reserved i _ _ _ | reconnecting i _ | leaving i => some i
  | loose | ready _ | sampled _ _ | mine _ _ => none

theorem exclusive_of_claims (claimed : i ∈ grip.claims) :
    grip.exclusive = some i := by
  cases grip with
  | reserved | reconnecting => exact congrArg some (List.mem_singleton.mp claimed).symm
  | _ => cases claimed

/-- The slot a grip is about. -/
def slot : Grip → Option ℕ
  | ready i | sampled i _ | mine i _ | leaving i | reserved i _ _ _ | reconnecting i _ => some i
  | loose => none

/-- The knowledge of a grip is true of a slot. -/
def FitsSlot (quiet : Prop) (t : Thread) (handed : ConnId → Option Thread) (s : Slot) :
    Grip → Prop
  | loose => True
  | ready _ => quiet → s.ownerThread = some t → s.state = .ready
  | sampled _ conn => quiet → s.ownerThread = some t → s.state = .ready → s.conn = conn
  | mine _ conn => quiet → s.ownerThread = some t ∧ s.state = .ready ∧ ∀ c ∈ conn, s.conn = c
  | leaving _ => quiet ∧ s.ownerThread = none ∧ s.state = .ready
  | reserved _ conn owned clean =>
    s.state = .reserved ∧ (∀ c ∈ conn, s.conn = c) ∧ (owned = true → s.ownerThread = some t) ∧
      (quiet → clean = true → handed s.conn = none)
  | reconnecting _ conn =>
    s.state = .reconnecting ∧ (quiet → s.ownerThread = some t ∧ ∀ c ∈ conn, s.conn = c)

/-- **The knowledge of a grip is true.** -/
def Fits (quiet : Prop) (t : Thread) (handed : ConnId → Option Thread) (slots : ℕ → Slot)
    (grip : Grip) : Prop :=
  ∀ i ∈ grip.slot, grip.FitsSlot quiet t handed (slots i)

/-- The connection a grip is known to hold. -/
def Holds (conn : ConnId) : Grip → Prop
  | mine _ c | reserved _ c _ _ | reconnecting _ c => c = some conn
  | loose | ready _ | sampled _ _ | leaving _ => False

/-- The connection known of a slot of this thread. -/
def mineAt (i : ℕ) : Grip → Option ConnId
  | mine j conn => if j = i then conn else none
  | loose | ready _ | sampled _ _ | leaving _ | reserved _ _ _ _ | reconnecting _ _ => none

end Grip

/-! ### The terms -/

section Terms

variable (quiet : Prop) (t : Thread)

/-- **What an operation needs.** -/
def allows (h : Hold) : Op → Prop
  | .storeState i state =>
    match h.grip with
    | .reserved j _ owned clean =>
      j = i ∧ (state = .free ∧ clean = true ∨ state = .ready ∧ owned = true ∧ clean = true ∨
        state = .error)
    | .reconnecting j _ => j = i ∧ (state = .ready ∨ state = .error)
    | .leaving j => j = i ∧ state = .free
    | .loose | .ready _ | .sampled _ _ | .mine _ _ => False
  | .casState i old new =>
    h.grip.exclusive = none ∧
      ((old = .free ∨ old = .error) ∧ new = .reserved ∧ h.guarded = false ∨
        old = .ready ∧ new = .reconnecting ∧ (quiet → ∃ conn, h.grip = .mine i conn) ∨
        old = .ready ∧ new = .free)
  | .storeOwner i owner =>
    match h.grip with
    | .reserved j _ _ _ => j = i ∧ (owner = some t ∨ owner = none)
    | .mine j _ => quiet ∧ j = i ∧ owner = none
    | .loose | .ready _ | .sampled _ _ | .leaving _ | .reconnecting _ _ => False
  | .storeConn i conn =>
    match h.grip with
    | .reserved j known _ _ => j = i ∧ known = some 0 ∧ (conn = 0 ∨ conn = h.fresh)
    | .loose | .ready _ | .sampled _ _ | .mine _ _ | .leaving _ | .reconnecting _ _ => False
  | .swapConn i =>
    match h.grip with
    | .reserved j _ _ _ => j = i
    | .loose | .ready _ | .sampled _ _ | .mine _ _ | .leaving _ | .reconnecting _ _ => False
  | .destroy conn => conn ∈ h.hands
  | .work what conn =>
    match what with
    | .rollback | .cancelAndDrain | .reset | .reconnect => quiet → h.grip.Holds conn
    | .execute | .stmtCacheClear | .stmtCacheDrop => True
  | .loadState _ | .loadOwner _ | .loadConn _ | .create | .ask _ _ | .aside _ => True

/-- What reading a slot's state adds to a grip. -/
def Grip.seeState (i : ℕ) (state : SlotState) : Grip → Grip
  | .loose | .ready _ | .sampled _ _ => if state = .ready then .ready i else .loose
  | .mine j _ => if j = i then .mine j none else if state = .ready then .ready i else .loose
  | .leaving j => .leaving j
  | .reserved j conn owned clean => .reserved j conn owned clean
  | .reconnecting j conn => .reconnecting j conn

/-- What reading a slot's owner adds to a grip. -/
def Grip.seeOwner (guarded : Bool) (i : ℕ) (owner : Option Thread) : Grip → Grip
  | .loose => if guarded = true ∧ owner = some t then .mine i none else .loose
  | .ready j => if (guarded = true ∨ j = i) ∧ owner = some t then .mine i none else .loose
  | .sampled j conn =>
    if guarded = true ∧ owner = some t then .mine i (if j = i then some conn else none)
    else .loose
  | .mine j conn =>
    if j = i then .mine j conn
    else if guarded = true ∧ owner = some t then .mine i none else .loose
  | .leaving j => .leaving j
  | .reserved j conn owned clean => .reserved j conn owned clean
  | .reconnecting j conn => .reconnecting j conn

/-- What reading a slot's connection adds to a grip. -/
def Grip.seeConn (i : ℕ) (conn : ConnId) : Grip → Grip
  | .loose | .ready _ | .sampled _ _ => .sampled i conn
  | .mine j known => if j = i then .mine j (some (known.getD conn)) else .mine j known
  | .reserved j known owned clean =>
    if j = i then .reserved j (some conn) owned clean else .reserved j known owned clean
  | .leaving j => .leaving j
  | .reconnecting j known => .reconnecting j known

/-- The grip after a slot's state is stored. -/
def Grip.publish (state : SlotState) : Grip → Grip
  | .reserved i conn _ _ | .reconnecting i conn => if state = .ready then .mine i conn else .loose
  | .loose | .ready _ | .sampled _ _ | .mine _ _ | .leaving _ => .loose

/-- The grip after a slot's owner is stored. -/
def Grip.own (owner : Option Thread) : Grip → Grip
  | .reserved i conn _ clean => .reserved i conn (decide (owner = some t)) clean
  | .mine i _ => .leaving i
  | .loose | .ready _ | .sampled _ _ | .leaving _ | .reconnecting _ _ => .loose

/-- The grip after the connection of a claimed slot is stored. -/
def Grip.fill (conn : ConnId) : Grip → Grip
  | .reserved i _ owned _ => .reserved i (some conn) owned true
  | .loose | .ready _ | .sampled _ _ | .mine _ _ | .leaving _ | .reconnecting _ _ => .loose

/-- The grip a successful exchange of states gives. -/
def Grip.swap (i : ℕ) (old new : SlotState) (grip : Grip) : Grip :=
  match new with
  | .reserved => .reserved i none false (decide (old = .free))
  | .reconnecting => .reconnecting i (grip.mineAt i)
  | .free | .ready | .error => .loose

/-- **What an operation leaves**, by its answer. -/
def after (h : Hold) : (op : Op) → op.Ans → Hold
  | .loadState i, state => { h with grip := h.grip.seeState i state }
  | .loadOwner i, owner => { h with grip := h.grip.seeOwner t h.guarded i owner }
  | .loadConn i, conn => { h with grip := h.grip.seeConn i conn }
  | .storeState _ state, _ => { h with grip := h.grip.publish state }
  | .casState i old new, swapped =>
    if swapped = true then { h with grip := h.grip.swap i old new } else h
  | .storeOwner _ owner, _ => { h with grip := h.grip.own t owner }
  | .storeConn _ conn, _ =>
    { h with
      grip := h.grip.fill conn
      hands := h.hands.erase conn
      fresh := if conn = h.fresh then 0 else h.fresh }
  | .swapConn _, conn =>
    { h with
      grip := h.grip.fill 0
      hands := if conn = (0 : ConnId) then h.hands else h.hands ++ [conn] }
  | .create, made =>
    if made.1 = 0 then h else { h with hands := h.hands ++ [made.1], fresh := made.1 }
  | .destroy conn, _ =>
    { h with hands := h.hands.erase conn, fresh := if conn = h.fresh then 0 else h.fresh }
  | .ask _ _, _ | .work _ _, _ | .aside _, _ => h

/-- **The terms of thread `t`.** -/
def terms : Threads.Terms Op Op.Ans Hold where
  allows := allows quiet t
  after := after t

end Terms

/-- The hold of a thread that does nothing. -/
def idle : Hold := ⟨.loose, [], 0, false⟩

/-- The hold a call starts with; a close and a health check read the owner first. -/
def enter : Call → Hold
  | .acquire _ _ | .find _ _ | .transact _ _ _ => idle
  | .close _ | .checkHealth _ => { idle with guarded := true }

/-! ### What one thread can do to a slot -/

/-- **Everything thread `t` can do to a slot.** -/
inductive Change (quiet : Prop) (t : Thread) : Slot → Slot → Prop where
  | claim (slot : Slot) (vacant : slot.state = .free ∨ slot.state = .error) :
      Change quiet t slot { slot with state := .reserved }
  | reconnect (slot : Slot) (ready : slot.state = .ready)
      (own : quiet → slot.ownerThread = some t) :
      Change quiet t slot { slot with state := .reconnecting }
  | zombie (slot : Slot) (noisy : ¬ quiet) (ready : slot.state = .ready) :
      Change quiet t slot { slot with state := .free }
  | inside (slot slot' : Slot) (claimed : slot.state = .reserved ∨ slot.state = .reconnecting)
      (owner : slot'.ownerThread = slot.ownerThread ∨ slot'.ownerThread = some t ∨
        slot'.ownerThread = none)
      (ready : quiet → slot'.state = .ready → slot'.ownerThread = some t) :
      Change quiet t slot slot'
  | leave (slot : Slot) (own : slot.ownerThread = some t) (ready : slot.state = .ready) :
      Change quiet t slot { slot with ownerThread := none }
  | left (slot : Slot) (unowned : slot.ownerThread = none) (ready : slot.state = .ready) :
      Change quiet t slot { slot with state := .free }

variable {handed : ConnId → Option Thread} {s' : Slot}

/-- What another thread knows of a slot stays true, if it has no exclusive grip on it. -/
theorem Change.fitsSlot {quiet : Prop} {t u : Thread} {s : Slot} (change : Change quiet t s s')
    (other : u ≠ t) (shared : grip.exclusive = none) (fits : grip.FitsSlot quiet u handed s) :
    grip.FitsSlot quiet u handed s' := by
  have notBoth : ¬ (s.ownerThread = some t ∧ s.ownerThread = some u) :=
    fun own => other (Option.some.inj (own.2.symm.trans own.1))
  cases grip with
  | loose => trivial
  | ready j =>
    intro isQuiet owned
    cases change <;> grind [Grip.FitsSlot]
  | sampled j conn =>
    intro isQuiet owned isReady
    cases change <;> grind [Grip.FitsSlot]
  | mine j conn =>
    intro isQuiet
    obtain ⟨owned, isReady, known⟩ := fits isQuiet
    cases change <;> grind
  | leaving | reserved | reconnecting => cases shared

theorem Grip.slot_of_exclusive (held : grip.exclusive = some i) :
    grip.slot = some i := by
  cases grip <;> first | exact held | cases held

/-- **The grips of the others survive**, if they are not exclusive grips on the same slot. -/
theorem Change.fits {quiet : Prop} {t u : Thread} {slots : ℕ → Slot}
    (change : Change quiet t (slots i) s') (other : u ≠ t) (apart : grip.exclusive ≠ some i)
    (fits : grip.Fits quiet u handed slots) :
    grip.Fits quiet u handed (Function.update slots i s') := by
  intro j about
  by_cases same : j = i
  · subst same
    rw [Function.update_self]
    refine change.fitsSlot other ?_ (fits j about)
    cases held : grip.exclusive with
    | none => rfl
    | some k =>
      have sameSlot : k = j := Option.some.inj ((Grip.slot_of_exclusive held).symm.trans about)
      exact absurd (held.trans (congrArg some sameSlot)) apart
  · rw [Function.update_of_ne same]
    exact fits j about

/-- A grip stays true when connections are released, as long as none is handed out. -/
theorem Grip.Fits.released {quiet : Prop} {t : Thread} {handed' : ConnId → Option Thread}
    {slots : ℕ → Slot} (fits : grip.Fits quiet t handed slots)
    (fewer : ∀ a, handed' a = handed a ∨ handed' a = none) :
    grip.Fits quiet t handed' slots := by
  intro i about
  have fitted := fits i about
  cases grip with
  | reserved j conn owned clean =>
    obtain ⟨state, known, own, unheld⟩ := fitted
    refine ⟨state, known, own, fun isQuiet isClean => ?_⟩
    rcases fewer (slots i).conn with same | none
    · rw [same]
      exact unheld isQuiet isClean
    · exact none
  | loose => trivial
  | ready | sampled | mine | leaving | reconnecting => exact fitted

/-! ### One place for a connection -/

/-- Where a connection can be. -/
inductive Place where
  | slot (i : ℕ)
  /-- With the thread that created it, or that is about to destroy it. -/
  | hands (t : Thread)
  /-- Opened with a handle, outside the pool. -/
  | handle (db : DbId)
  | destroyed

/-- **A connection is at a place.** -/
def Memory.At (m : Memory) (a : ConnId) : Place → Prop
  | .slot i => a ≠ 0 ∧ (m.pool.slots i).conn = a
  | .hands t => a ≠ 0 ∧ a ∈ m.history.hands t
  | .handle db => a ≠ 0 ∧ m.pool.registry db = some a
  | .destroyed => m.history.created a = true ∧ m.pool.heap a = false

/-- **Every connection created is in one place**, and those that are not destroyed are live. -/
structure Placed (m : Memory) : Prop where
  one : ∀ a p q, m.At a p → m.At a q → p = q
  somewhere : ∀ a, m.history.created a = true → ∃ p, m.At a p
  live : ∀ a p, m.At a p → p ≠ .destroyed → m.pool.heap a = true
  created : ∀ a, m.pool.heap a = true → m.history.created a = true
  nodup : ∀ t, (m.history.hands t).Nodup
  nonzero : ∀ t, 0 ∉ m.history.hands t

/-- **What was handed out is still there**: the slot of a connection a thread was handed is not
free, and while it is READY it is that thread's, or that thread is putting it back. -/
structure Kept (m : Memory) (holds : Thread → Hold) : Prop where
  live : ∀ a u, m.history.handed a = some u → m.pool.heap a = true
  slot : ∀ i u, (m.pool.slots i).conn ≠ 0 → m.history.handed (m.pool.slots i).conn = some u →
    (m.pool.slots i).state ≠ .free ∧
      ((m.pool.slots i).state = .ready ∨ (m.pool.slots i).state = .reconnecting →
        (m.pool.slots i).ownerThread = some u ∨ (holds u).grip = .leaving i)

/-- **The invariant of the pool.** -/
structure Inv (quiet : Prop) (m : Memory) (holds : Thread → Hold) : Prop where
  fits : ∀ t, (holds t).grip.Fits quiet t m.history.handed m.pool.slots
  claims : ∀ t, m.history.claims t = (holds t).grip.claims
  hands : ∀ t, m.history.hands t = (holds t).hands
  fresh : ∀ t, (holds t).fresh ≠ 0 →
    (holds t).fresh ∈ (holds t).hands ∧ (quiet → m.history.handed (holds t).fresh = none)
  exclusive : ∀ t u i, (holds t).grip.exclusive = some i → (holds u).grip.exclusive = some i →
    t = u
  placed : Placed m
  kept : quiet → Kept m holds

end PlexPostgres.Pool
