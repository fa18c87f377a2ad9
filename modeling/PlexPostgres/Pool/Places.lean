import PlexPostgres.Pool.Respect

/-!
# Every connection is in one place

Any number of threads acquire connections from one pool, in any interleaving of their
atomic operations: they reuse slots, create connections, recover slots in ERROR, grow the pool, take
zombie slots back and reap idle connections.  A slot is claimed by at most one of them at a
time, and a connection that was created is with the thread that created it, in one slot, with the
thread that is about to destroy it, or destroyed.
-/

namespace PlexPostgres.Pool

open Txn (ConnId)
open Threads (Safe)

/-! ### A pool nobody has used -/

theorem At.start {a : ConnId} {p : Place} {poolSize poolMax : ℕ} :
    ¬ (start poolSize poolMax).memory.At a p := by
  cases p with
  | slot i => exact fun here => here.1 here.2.symm
  | hands | handle => exact fun here => by cases here.2
  | destroyed => exact fun here => by cases here.1

theorem Inv.start (quiet : Prop) (poolSize poolMax : ℕ) :
    Inv quiet (start poolSize poolMax).memory fun _ => idle where
  fits _ i about := by cases about
  claims _ := rfl
  hands _ := rfl
  fresh _ nonzero := absurd rfl nonzero
  exclusive t u i held := by cases held
  placed :=
    { one := fun a p q here => absurd here At.start
      somewhere := fun a created => by cases created
      live := fun a p here => absurd here At.start
      created := fun a live => by cases live
      nodup := fun t => List.nodup_nil
      nonzero := fun t => List.not_mem_nil }
  kept _ :=
    { live := fun a u handed => by cases handed
      slot := fun i u nonzero => absurd rfl nonzero }

/-! ### Runs of acquisitions -/

/-- The call acquires a connection, for a handle or for none. -/
def Call.Acquires : Call → Prop
  | .acquire _ _ | .find _ _ => True
  | .close _ | .checkHealth _ | .transact _ _ _ => False

/-- Every call the move makes is an acquisition. -/
def Acquires : Move → Prop
  | .start _ call => call.Acquires
  | .step _ _ => True

/-- An acquisition is safe in any pool. -/
theorem Call.Acquires.safe {call : Call} (acquires : call.Acquires) {quiet : Prop} {t : Thread}
    {maxRetries : ℕ} :
    Safe (terms quiet t) (call.program maxRetries t) (enter call) (Ends quiet) := by
  cases call with
  | acquire dbPath excludeConn => exact safe_acquireOn Free.idle
  | find db dbPath => exact safe_poolFindConnectionForDb Free.idle
  | close | checkHealth | transact => cases acquires

theorem Call.Acquires.enter {call : Call} (acquires : call.Acquires) : Pool.enter call = idle := by
  cases call <;> first | rfl | cases acquires

/-- **The invariant of the pool holds after every run of acquisitions.** -/
theorem acquisitions_keep_inv {maxRetries poolSize poolMax : ℕ} {moves : List Move} {s : State}
    (acquiring : ∀ move ∈ moves, Acquires move)
    (reached : Runs.final (system maxRetries).next (start poolSize poolMax) moves = s) :
    ∃ holds, (Inv False s.memory holds ∧ ∀ db, s.memory.pool.registry db = none) ∧
      Threads.System.Follows (fun t _ => terms False t) idle (fun _ _ => Ends False) s holds := by
  have met : Runs.Meets (system maxRetries).next (fun _ move => Acquires move)
      (start poolSize poolMax) moves := Runs.meets_of_forall acquiring
  subst reached
  refine Threads.System.invariant
    (fun m holds => Inv False m holds ∧ ∀ db, m.pool.registry db = none) enter ?_ ?_ ?_ met
    ⟨fun _ => idle, ⟨Inv.start _ _ _, fun _ => rfl⟩, fun _ => rfl⟩
  · intro s t call holds acquires _ isIdle inv
    refine ⟨?_, acquires.safe⟩
    rwa [acquires.enter, ← isIdle, Function.update_eq_self]
  · intro s t choice call op rest holds _ _ ⟨inv, unregistered⟩ allowed
    refine ⟨inv.step allowed (fun never => never.elim) (fun never => never.elim), fun db => ?_⟩
    exact (congrFun (s.memory.pool.changed t op _).registry db).trans (unregistered db)
  · intro s t call conn holds _ ⟨inv, unregistered⟩ ended
    exact ⟨inv.hand ended, unregistered⟩

/-- **One claimant for a slot, one place for a connection.**  In every state that any number of
threads reach by acquiring connections: a slot is claimed by at most one thread; a connection that
was created is in exactly one place, which is a slot, the hands of one thread, or destroyed; a
connection is stored only into a slot that has none; and only a live connection is destroyed, by
the one thread that has it in its hands. -/
theorem acquisitions_keep_places (maxRetries poolSize poolMax : ℕ) (moves : List Move)
    (acquiring : ∀ move ∈ moves, Acquires move) {s : State}
    (reached : Runs.final (system maxRetries).next (start poolSize poolMax) moves = s) :
    (∀ t u i, i ∈ s.memory.history.claims t → i ∈ s.memory.history.claims u → t = u) ∧
      (∀ a, s.memory.history.created a = true → ∃! p, s.memory.At a p) ∧
      (∀ a db, ¬ s.memory.At a (.handle db)) ∧
      (∀ t, (s.memory.history.hands t).Nodup) ∧
      (∀ t call i conn, s.performing t = some (call, .storeConn i conn) →
        (s.memory.pool.slots i).conn = 0) ∧
      ∀ t call a, s.performing t = some (call, .destroy a) →
        s.memory.At a (.hands t) ∧ s.memory.pool.heap a = true := by
  obtain ⟨holds, ⟨inv, unregistered⟩, follows⟩ := acquisitions_keep_inv acquiring reached
  refine ⟨fun t u i mine yours => ?_, fun a created => ?_, fun a db here => ?_,
    inv.placed.nodup, fun t call i conn performs => ?_, fun t call a performs => ?_⟩
  · have exclusive : ∀ t, i ∈ s.memory.history.claims t → (holds t).grip.exclusive = some i := by
      intro t claimed
      rw [inv.claims t] at claimed
      exact Grip.exclusive_of_claims claimed
    exact inv.exclusive t u i (exclusive t mine) (exclusive u yours)
  · obtain ⟨p, here⟩ := inv.placed.somewhere a created
    exact ⟨p, here, fun q there => inv.placed.one a q p there here⟩
  · exact absurd here.2 (by simp [unregistered db])
  · have allowed : allows False t (holds t) (.storeConn i conn) := follows.allows performs
    unfold allows at allowed
    cases grip : (holds t).grip with
    | reserved j known owned clean =>
      simp only [grip] at allowed
      obtain ⟨rfl, rfl, _⟩ := allowed
      have fitted := inv.fits t j (by rw [grip]; rfl)
      rw [grip] at fitted
      exact fitted.2.1 0 rfl
    | _ => simp [grip] at allowed
  · have held : a ∈ s.memory.history.hands t := inv.hands t ▸ follows.allows performs
    have here : s.memory.At a (.hands t) :=
      ⟨fun zero => inv.placed.nonzero t (zero ▸ held), held⟩
    exact ⟨here, inv.placed.live a _ here (by simp)⟩

instance (call : Call) : Decidable call.Acquires := by
  cases call <;> unfold Call.Acquires <;> infer_instance

instance (move : Move) : Decidable (Acquires move) := by
  cases move <;> unfold Acquires <;> infer_instance

/-- Two threads acquire side by side, each a slot of its own; the first has just created
connection 5. -/
def sideBySide : List Move :=
  [.start 1 (.acquire libraryDbName 0), .start 2 (.acquire libraryDbName 0)] ++
    (List.replicate 21 [.step 1 ⟨true, 5, 0⟩, .step 2 ⟨true, 6, 0⟩]).flatten

theorem sideBySide_keeps_places :
    let s := Runs.final (system 0).next (start 2 2) sideBySide
    (s.memory.history.claims 1 = [0] ∧ s.memory.history.claims 2 = [1]) ∧
      s.memory.history.hands 1 = [5] ∧ ∃! p, s.memory.At 5 p := by
  refine ⟨⟨by decide +kernel, by decide +kernel⟩, by decide +kernel, ?_⟩
  exact (acquisitions_keep_places 0 2 2 sideBySide (by decide) rfl).2.1 5 (by decide +kernel)

end PlexPostgres.Pool
