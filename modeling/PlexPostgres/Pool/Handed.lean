import PlexPostgres.Pool.Places

/-!
# Connections handed to threads

A thread that returns from an acquisition has been handed its connection, and keeps it until it
puts the slot back to FREE.  Phase 1 of an acquisition, a close and a health check all look at the
owner of a slot and act on it later, in separate operations.  In between the slot can be lost in
two ways:

* another thread takes the READY slot back as a zombie, and reuses it;
* the slot was in ERROR when its owner was read, and another thread recovers it.

In every run in which neither happens, no connection is handed to a second thread, and no close or
health check touches the slot of another thread.
-/

namespace PlexPostgres.Pool

open Txn (ConnId)
open Threads (Safe)

/-- The call reads the owner of a slot before anything else of it: a close, or a health check. -/
def Call.guarded : Call → Bool
  | .close _ | .checkHealth _ => true
  | .acquire _ _ | .find _ _ | .transact _ _ _ => false

/-- **Slot `i` has been given to thread `u`**: it is the owner, it has claimed the slot, or it was
handed the slot's connection. -/
def GivenTo (m : Memory) (i : ℕ) (u : Thread) : Prop :=
  (m.pool.slots i).ownerThread = some u ∨ i ∈ m.history.claims u ∨
    (m.pool.slots i).conn ≠ 0 ∧ m.history.handed (m.pool.slots i).conn = some u

/-- Work that ends what runs on a connection. -/
def Work.settles : Work → Bool
  | .rollback | .cancelAndDrain | .reset | .reconnect => true
  | .execute | .stmtCacheClear | .stmtCacheDrop => false

/-- **The operation rolls back, resets or frees slot `i`.** -/
def Disturbs (pool : PoolManager) : Op → ℕ → Prop
  | .work what conn, i => what.settles = true ∧ conn ≠ 0 ∧ (pool.slots i).conn = conn
  | .storeOwner j _, i | .storeState j _, i => j = i
  | _, _ => False

/-! ### The condition on the steps -/

/-- **Nobody loses a slot by this operation**: it takes no READY slot back as a zombie, and a
close or health check that finds itself the owner of a slot finds it READY. -/
def Calm (pool : PoolManager) (t : Thread) (call : Call) : Op → Prop
  | .casState i old new => old = .ready → new = .free → (pool.slots i).state ≠ .ready
  | .loadOwner i =>
    call.guarded = true → (pool.slots i).ownerThread = some t → (pool.slots i).state = .ready
  | _ => True

/-- **The condition on a step**: the calls are acquisitions, closes and health checks, and every
operation is calm. -/
def Undisturbed (s : State) : Move → Prop
  | .start _ call => call.Acquires ∨ call.guarded = true
  | .step t _ => ∀ next ∈ s.performing t, Calm s.memory.pool t next.1 next.2

instance (pool : PoolManager) (t : Thread) (call : Call) (op : Op) :
    Decidable (Calm pool t call op) := by
  cases op <;> unfold Calm <;> infer_instance

instance (s : State) : (move : Move) → Decidable (Undisturbed s move)
  | .start _ call => inferInstanceAs (Decidable (call.Acquires ∨ call.guarded = true))
  | .step t _ => Option.decidableForallMem (s.performing t)

/-! ### What the hold of a close or a health check never is -/

/-- The slot is claimed as RESERVED. -/
def Grip.isReserved : Grip → Bool
  | .reserved _ _ _ _ => true
  | .loose | .ready _ | .sampled _ _ | .mine _ _ | .leaving _ | .reconnecting _ _ => false

/-- The hold belongs to the call: a close or a health check reserves no slot. -/
def Suits (call : Call) (h : Hold) : Prop :=
  h.guarded = call.guarded ∧ (call.guarded = true → h.grip.isReserved = false)

variable {call : Call} {quiet : Prop} {op : Op}

theorem Grip.isReserved_seeState (grip : Grip) (i : ℕ) (state : SlotState) :
    (grip.seeState i state).isReserved = grip.isReserved := by
  cases grip <;> grind [Grip.seeState, Grip.isReserved]

theorem Grip.isReserved_seeOwner (grip : Grip) (t : Thread) (guarded : Bool) (i : ℕ)
    (owner : Option Thread) : (grip.seeOwner t guarded i owner).isReserved = grip.isReserved := by
  cases grip <;> grind [Grip.seeOwner, Grip.isReserved]

theorem Grip.isReserved_seeConn (grip : Grip) (i : ℕ) (conn : ConnId) :
    (grip.seeConn i conn).isReserved = grip.isReserved := by
  cases grip <;> grind [Grip.seeConn, Grip.isReserved]

/-- A step of a call leaves a hold that suits the call. -/
theorem Suits.after {t : Thread} {h : Hold} (suits : Suits call h) (answer : op.Ans)
    (allowed : allows quiet t h op) :
    Suits call (Pool.after t h op answer) := by
  obtain ⟨guarded, unreserved⟩ := suits
  cases op with
  | loadState i => exact ⟨guarded, fun is => (Grip.isReserved_seeState ..).trans (unreserved is)⟩
  | loadOwner i => exact ⟨guarded, fun is => (Grip.isReserved_seeOwner ..).trans (unreserved is)⟩
  | loadConn i => exact ⟨guarded, fun is => (Grip.isReserved_seeConn ..).trans (unreserved is)⟩
  | storeState i state =>
    refine ⟨guarded, fun is => ?_⟩
    cases grip : h.grip <;> grind [Pool.after, Grip.publish, Grip.isReserved]
  | storeOwner i owner =>
    refine ⟨guarded, fun is => ?_⟩
    cases grip : h.grip <;> grind [Pool.after, Grip.own, Grip.isReserved]
  | storeConn | swapConn =>
    refine ⟨guarded, fun is => ?_⟩
    cases grip : h.grip <;> grind [Pool.after, Grip.fill, Grip.isReserved]
  | casState i old new =>
    simp only [Pool.after]
    split
    · refine ⟨guarded, fun is => ?_⟩
      cases new <;> grind [allows, Grip.swap, Grip.isReserved]
    · exact ⟨guarded, unreserved⟩
  | create =>
    simp only [Pool.after]
    split <;> exact ⟨guarded, unreserved⟩
  | destroy | ask | work | aside => exact ⟨guarded, unreserved⟩

/-! ### Undisturbed runs -/

/-- The terms of a thread that makes a call. -/
def callTerms (t : Thread) (call : Call) : Threads.Terms Op Op.Ans Hold :=
  ⟨fun h op => Suits call h ∧ (terms True t).allows h op, (terms True t).after⟩

/-- Every call of an undisturbed run is safe. -/
theorem safe_call {t : Thread} {maxRetries : ℕ} (listed : call.Acquires ∨ call.guarded = true) :
    Safe (callTerms t call) (call.program maxRetries t) (enter call) fun conn h =>
      Suits call h ∧ Ends True conn h := by
  refine Threads.Safe.keeping (Suits call) (fun h op answer suits => suits.after answer) ?_ ?_
  · rcases listed with acquires | guarded
    · exact acquires.safe
    · cases call with
      | close db => exact safe_close trivial ⟨.inl rfl, rfl, rfl⟩
      | checkHealth conn => exact safe_checkHealth ⟨.inl rfl, rfl, rfl⟩
      | _ => cases guarded
  · cases call <;> exact ⟨rfl, fun _ => rfl⟩

/-- **The invariant of the pool holds after every undisturbed run.** -/
theorem undisturbed_keeps_inv {maxRetries poolSize poolMax : ℕ} {moves : List Move} {s : State}
    (met : Runs.Meets (system maxRetries).next Undisturbed (start poolSize poolMax) moves)
    (reached : Runs.final (system maxRetries).next (start poolSize poolMax) moves = s) :
    ∃ holds, Inv True s.memory holds ∧
      Threads.System.Follows callTerms idle
        (fun _ call conn h => Suits call h ∧ Ends True conn h) s holds := by
  subst reached
  refine Threads.System.invariant (Inv True) enter ?_ ?_ ?_ met
    ⟨fun _ => idle, Inv.start _ _ _, fun _ => rfl⟩
  · intro s t call holds listed _ isIdle inv
    refine ⟨?_, safe_call listed⟩
    have entered : enter call = { idle with guarded := call.guarded } := by cases call <;> rfl
    rw [entered]
    exact inv.rest (by rw [isIdle]; rfl) (by rw [isIdle]; rfl) call.guarded
  · intro s t choice call op rest holds calm busy inv ⟨suits, allowed⟩
    have calm : Calm s.memory.pool t call op :=
      calm (call, op) (by simp [Threads.State.performing, busy])
    refine inv.step allowed ?_ ?_
    · rintro - i rfl
      exact calm rfl rfl
    · rintro - guarded i rfl owned
      exact calm (suits.1 ▸ guarded) owned
  · intro s t call conn holds _ inv ⟨_, ended⟩
    exact inv.hand ended

section Given

variable {m : Memory} {holds : Thread → Hold} {t u : Thread} {i : ℕ}

/-- A slot claimed by a thread is RESERVED or RECONNECTING. -/
theorem Inv.state_of_claims (inv : Inv quiet m holds) (claimed : i ∈ m.history.claims u) :
    (m.pool.slots i).state = .reserved ∨ (m.pool.slots i).state = .reconnecting := by
  rw [inv.claims u] at claimed
  have fitted := inv.fits u i (Grip.slot_of_exclusive (Grip.exclusive_of_claims claimed))
  cases grip : (holds u).grip with
  | reserved j known owned clean =>
    rw [grip] at fitted
    exact .inl fitted.1
  | reconnecting j known =>
    rw [grip] at fitted
    exact .inr fitted.1
  | _ => simp [grip, Grip.claims] at claimed

/-- **A slot of one's own is given to nobody else.** -/
theorem Inv.given_mine (inv : Inv True m holds) {known : Option ConnId}
    (mine : (holds t).grip = .mine i known) (given : GivenTo m i u) : u = t := by
  obtain ⟨own, ready, _⟩ := inv.fitted mine rfl trivial
  rcases given with owner | claimed | ⟨nonzero, handed⟩
  · exact Option.some.inj (owner.symm.trans own)
  · rcases inv.state_of_claims claimed with reserved | reconnecting
    · simp [ready] at reserved
    · simp [ready] at reconnecting
  · exact inv.handed_owner trivial own (.inl ready) nonzero handed

/-- A slot a thread is putting back is given to nobody else. -/
theorem Inv.given_leaving (inv : Inv True m holds) (leaving : (holds t).grip = .leaving i)
    (given : GivenTo m i u) : u = t := by
  obtain ⟨_, unowned, ready⟩ := inv.fitted leaving rfl
  have exclusive : (holds t).grip.exclusive = some i := by rw [leaving]; rfl
  rcases given with owner | claimed | ⟨nonzero, handed⟩
  · simp [unowned] at owner
  · exact inv.exclusive u t i (Grip.exclusive_of_claims (inv.claims u ▸ claimed)) exclusive
  · rcases ((inv.kept trivial).slot i u nonzero handed).2 (.inl ready) with owner | left
    · simp [unowned] at owner
    · exact inv.exclusive u t i (by rw [left]; rfl) exclusive

/-- A slot a thread reconnects is given to nobody else. -/
theorem Inv.given_reconnecting (inv : Inv True m holds) {known : Option ConnId}
    (reconnecting : (holds t).grip = .reconnecting i known) (given : GivenTo m i u) : u = t := by
  obtain ⟨state, known⟩ := inv.fitted reconnecting rfl
  have exclusive : (holds t).grip.exclusive = some i := by rw [reconnecting]; rfl
  rcases given with owner | claimed | ⟨nonzero, handed⟩
  · exact Option.some.inj (owner.symm.trans (known trivial).1)
  · exact inv.exclusive u t i (Grip.exclusive_of_claims (inv.claims u ▸ claimed)) exclusive
  · exact inv.handed_owner trivial (known trivial).1 (.inr state) nonzero handed

/-- The slot an operation of a close or a health check disturbs is the one the thread has a grip
on. -/
theorem Inv.given_disturbed (inv : Inv True m holds)
    (unreserved : (holds t).grip.isReserved = false) (allowed : allows True t (holds t) op)
    (disturbs : Disturbs m.pool op i) (given : GivenTo m i u) : u = t := by
  cases op with
  | storeOwner j owner =>
    obtain rfl : j = i := disturbs
    cases grip : (holds t).grip with
    | mine k known =>
      simp only [allows, grip] at allowed
      obtain ⟨_, rfl, _⟩ := allowed
      exact inv.given_mine grip given
    | reserved k known owned clean => simp [grip, Grip.isReserved] at unreserved
    | _ => simp [allows, grip] at allowed
  | storeState j state =>
    obtain rfl : j = i := disturbs
    cases grip : (holds t).grip with
    | reconnecting k known =>
      simp only [allows, grip] at allowed
      obtain ⟨rfl, _⟩ := allowed
      exact inv.given_reconnecting grip given
    | leaving k =>
      simp only [allows, grip] at allowed
      obtain ⟨rfl, _⟩ := allowed
      exact inv.given_leaving grip given
    | reserved k known owned clean => simp [grip, Grip.isReserved] at unreserved
    | _ => simp [allows, grip] at allowed
  | work what conn =>
    obtain ⟨settles, nonzero, held⟩ := disturbs
    have holding : (holds t).grip.Holds conn := by
      cases what <;> first | exact allowed trivial | cases settles
    -- The connection is in one slot only, so the slot is the one of the grip.
    have here : ∀ k, (m.pool.slots k).conn = conn → k = i := by
      intro k there
      have same := inv.placed.one conn (.slot k) (.slot i) ⟨nonzero, there⟩ ⟨nonzero, held⟩
      simpa using same
    cases grip : (holds t).grip with
    | mine k known =>
      rw [grip] at holding
      have fitted := inv.fitted grip rfl
      obtain rfl := here k ((fitted trivial).2.2 conn holding)
      exact inv.given_mine grip given
    | reconnecting k known =>
      rw [grip] at holding
      have fitted := inv.fitted grip rfl
      obtain rfl := here k ((fitted.2 trivial).2 conn holding)
      exact inv.given_reconnecting grip given
    | reserved k known owned clean => simp [grip, Grip.isReserved] at unreserved
    | _ => simp [grip, Grip.Holds] at holding
  | _ => cases disturbs

end Given

/-- **One thread for a connection.**  In every state an undisturbed run reaches: a connection about
to be handed to a thread was handed to no other thread that has not released it, and the next
operation of a close or a health check rolls back, resets or frees no slot that has been given to
another thread. -/
theorem undisturbed_keeps_handed (maxRetries poolSize poolMax : ℕ) (moves : List Move)
    (met : Runs.Meets (system maxRetries).next Undisturbed (start poolSize poolMax) moves)
    {s : State}
    (reached : Runs.final (system maxRetries).next (start poolSize poolMax) moves = s) :
    (∀ t call conn, s.returning t = some (call, conn) → conn ≠ 0 →
        ∀ u, s.memory.history.handed conn = some u → u = t) ∧
      ∀ t call op, s.performing t = some (call, op) → call.guarded = true →
        ∀ i, Disturbs s.memory.pool op i → ∀ u, GivenTo s.memory i u → u = t := by
  obtain ⟨holds, inv, follows⟩ := undisturbed_keeps_inv met reached
  constructor
  · intro t call conn returns nonzero u handed
    obtain ⟨i, mine⟩ := (follows.ended returns).2.mine trivial nonzero
    exact inv.handed_mine trivial nonzero mine handed
  · intro t call op performs guarded i disturbs u given
    obtain ⟨suits, allowed⟩ := follows.allows performs
    exact inv.given_disturbed (suits.2 guarded) allowed disturbs given

/-! ### Runs -/

/-- `n` steps of one thread. -/
def steps (t : Thread) (n : ℕ) (choice : Choice) : List Move := List.replicate n (.step t choice)

/-- The state a run of a pool of two slots reaches. -/
def reached (moves : List Move) : State := Runs.final (system 0).next (start 2 2) moves

/-- Thread 1 uses handle 7; then it closes the handle while thread 2 acquires. -/
def closeBeside : List Move :=
  [.start 1 (.find 7 libraryDbName)] ++ steps 1 60 ⟨true, 5, 0⟩ ++
    [.start 1 (.close 7), .start 2 (.acquire libraryDbName 0)] ++
    (List.replicate 10 [.step 1 ⟨false, 0, 10⟩, .step 2 ⟨false, 0, 10⟩]).flatten

theorem closeBeside_keeps_handed :
    (reached closeBeside).performing 1 = some (.close 7, .storeOwner 0 none) ∧
      ∀ u, GivenTo (reached closeBeside).memory 0 u → u = 1 := by
  have performs : (reached closeBeside).performing 1 = some (.close 7, .storeOwner 0 none) := by
    decide +kernel
  refine ⟨performs, ?_⟩
  exact (undisturbed_keeps_handed 0 2 2 closeBeside (by decide +kernel) rfl).2 1 _ _ performs rfl 0
    rfl

/-- Thread 2 acquires at second 301: it takes slot 0 back as a zombie, and reuses its connection. -/
def takesOver : List Move :=
  [.start 2 (.acquire libraryDbName 0)] ++ steps 2 23 ⟨false, 0, 301⟩ ++ steps 2 20 ⟨true, 0, 301⟩

/-- Thread 3 acquires at second 290, which is when the reaper last runs. -/
def reapsBefore : List Move := [.start 3 (.acquire libraryDbName 0)] ++ steps 3 60 ⟨true, 6, 290⟩

/-- Thread 1 was handed connection 5 at second 0.  At second 300 it acquires again and has found its
slot READY and its own when thread 2 takes over; then it returns with the connection. -/
def racingAcquire : List Move :=
  [.start 1 (.acquire libraryDbName 0)] ++ steps 1 40 ⟨true, 5, 0⟩ ++ reapsBefore ++
    [.start 1 (.acquire libraryDbName 0)] ++ steps 1 10 ⟨false, 0, 300⟩ ++
    steps 1 1 ⟨true, 0, 300⟩ ++ steps 1 1 ⟨false, 0, 300⟩ ++ takesOver ++ steps 1 3 ⟨true, 0, 301⟩

/-- Thread 1 uses handle 7 at second 0 and closes it at second 300.  It has found the slot its own
and READY when thread 2 takes over; then it goes on to free the slot. -/
def racingClose : List Move :=
  [.start 1 (.find 7 libraryDbName)] ++ steps 1 60 ⟨true, 5, 0⟩ ++ reapsBefore ++
    [.start 1 (.close 7)] ++ steps 1 8 ⟨false, 0, 300⟩ ++ takesOver ++ steps 1 2 ⟨false, 0, 301⟩

/-- **A connection in the hands of two threads, and a close that frees the slot of another.** -/
theorem handed_to_two_threads :
    ((reached racingAcquire).returning 1 = some (.acquire libraryDbName 0, 5) ∧
        (reached racingAcquire).memory.history.handed 5 = some 2) ∧
      (reached racingClose).performing 1 = some (.close 7, .storeOwner 0 none) ∧
        ((reached racingClose).memory.pool.slots 0).ownerThread = some 2 ∧
        (reached racingClose).memory.history.handed 5 = some 2 := by
  decide +kernel

end PlexPostgres.Pool
