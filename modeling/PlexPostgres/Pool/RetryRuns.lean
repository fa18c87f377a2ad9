import PlexPostgres.Pool.Handed
import PlexPostgres.Pool.Retry

/-!
# What the retries lose

The acquisitions of one thread, in a pool the other threads use at the same time as they like.

An acquisition that is asked to avoid a connection may return it: the retry does not know of the
exclusion.  And an acquisition may leave the retry counter of its thread raised, which shortens the
acquisitions after it: a retry that cannot reconnect the thread's own slot returns before the
counter is cleared.
-/

namespace PlexPostgres.Pool.Retry

open Txn (ConnId)
open Threads (Safe State System)
open Threads.System (can_bind Watched)
open Threads.Prog (onlyIf)

/-! ### The counter in the memory -/

/-- What the watch says of the counter is true. -/
def Truly (t : Thread) (m : Memory) (w : Watch) : Prop :=
  w.real = true ∧ w.count = m.pool.retryCount t

section Kept

variable {maxRetries : ℕ} {t : Thread} {spared : Option ConnId} {m : Memory} {w : Watch}

theorem after_real (truly : Truly t m w) (op : Op) (choice : Choice)
    (other : ∀ conn ∈ spared, conn ≠ 0 ∧ choice.address ≠ conn) :
    (w.after spared op (m.pool.answer t choice op)).real = true := by
  obtain ⟨real, count⟩ := truly
  cases op with
  | create =>
    have new : some (m.pool.answer t choice .create).1 ≠ spared := by
      intro same
      obtain ⟨nonzero, different⟩ := other _ same.symm
      by_cases refused : choice.address = 0 ∨ m.pool.heap choice.address = true
      · simp [PoolManager.answer, refused] at nonzero
      · simp [PoolManager.answer, refused] at different
    simp only [Watch.after, real, Bool.true_and]
    exact bne_iff_ne.mpr new
  | aside what =>
    cases what with
    | retryCountGet => simp [Watch.after, real, count, PoolManager.answer, PoolManager.answerAside]
    | _ => exact real
  | _ => exact real

/-- The watch stays true through an operation of the thread, if no new connection gets the address
that is spared. -/
theorem Truly.mine (truly : Truly t m w) (op : Op) (choice : Choice)
    (other : ∀ conn ∈ spared, conn ≠ 0 ∧ choice.address ≠ conn) :
    Truly t ((system maxRetries).effect t op ((system maxRetries).answer t op choice m) m)
      (w.after spared op ((system maxRetries).answer t op choice m)) := by
  refine ⟨after_real truly op choice other, ?_⟩
  by_cases sets : ∃ count, op = .aside (.retryCountSet count)
  · obtain ⟨count, rfl⟩ := sets
    exact (Function.update_self t count m.pool.retryCount).symm
  · have unset : ∀ answer, (w.after spared op answer).count = w.count := by
      intro answer
      cases op with
      | aside what =>
        cases what with
        | retryCountSet count => exact absurd ⟨count, rfl⟩ sets
        | _ => rfl
      | _ => rfl
    rw [unset, truly.2]
    exact (((m.pool.changed t op _).retryCount t).resolve_right fun own => sets own.2).symm

theorem Truly.others (truly : Truly t m w) {u : Thread} (other : u ≠ t) (op : Op)
    (choice : Choice) :
    Truly t ((system maxRetries).effect u op ((system maxRetries).answer u op choice m) m) w :=
  ⟨truly.1, truly.2.trans
    (((m.pool.changed u op _).retryCount t).resolve_right fun own => other own.1.symm).symm⟩

end Kept

/-! ### The excluded connection -/

/-- A move while thread `t` acquires: the thread is not called again, and no new connection gets
the address `conn`. -/
def Beside (t : Thread) (conn : ConnId) : Move → Prop
  | .start u _ => u ≠ t
  | .step _ choice => choice.address ≠ conn

/-- **No acquisition excluding `conn` returns it**, whatever the state of the pool and whatever the
other threads do meanwhile, when the retry counter of the thread stands at `count`. -/
def Spares (maxRetries : ℕ) (t : Thread) (dbPath : Text) (conn : ConnId) (count : ℕ) : Prop :=
  ∀ (s : State) (moves : List Move), s.running t = none → s.memory.pool.retryCount t = count →
    (∀ move ∈ moves, Beside t conn move) →
    ∀ result,
      (Runs.final (system maxRetries).next s
        (.start t (.acquire dbPath conn) :: moves)).returning t =
        some (.acquire dbPath conn, result) → result ≠ conn

/-- **The step begins no retry**: the thread does not raise its counter. -/
def NoRetry (t : Thread) (s : State) : Move → Prop
  | .start _ _ => True
  | .step u _ =>
    u = t → ∀ call count, s.performing t ≠ some (call, .aside (.retryCountSet (count + 1)))

/-- The path stands for no library. -/
def Unknown (dbPath : Text) : Prop :=
  dbPath ≠ [] ∧ isLibraryDb dbPath = false ∧ isBlobsDb dbPath = false

instance (dbPath : Text) : Decidable (Unknown dbPath) :=
  inferInstanceAs (Decidable (_ ∧ _ ∧ _))

section Excluded

variable {maxRetries : ℕ} {t : Thread} {dbPath : Text} {conn : ConnId} {count : ℕ}

/-- For a path that stands for no library, the acquisition is over at once. -/
theorem acquireOn_of_unknown (unknown : Unknown dbPath) (nested : ℕ) :
    acquireOn maxRetries t nested dbPath conn = pure 0 := by
  obtain ⟨nonempty, library, blobs⟩ := unknown
  have unresolved : resolveSelectedPoolPath dbPath = pure none := by
    have unselected : selectLibraryPoolPath dbPath none = none := by
      simp [selectLibraryPoolPath, library, blobs]
    rw [resolveSelectedPoolPath_eq, if_neg nonempty]
    exact congrArg (fun selected => pure (Option.filter isLibraryDb selected)) unselected
  cases nested with
  | zero | succ =>
    unfold acquireOn acquirePass
    rw [unresolved]
    rfl

/-- A step that begins no retry leaves the number of retries as it is. -/
theorem after_retries {s : State} {w : Watch} {call : Call} {op : Op} {rest : op.Ans → Prog ConnId}
    {choice : Choice} (busy : s.running t = some (call, .act op rest))
    (none : NoRetry t s (.step t choice)) (spared : Option ConnId) (answer : op.Ans) :
    (w.after spared op answer).retries = w.retries := by
  have performs : s.performing t = some (call, op) := by simp [State.performing, busy]
  cases op with
  | aside what =>
    cases what with
    | retryCountSet count =>
      cases count with
      | zero => rfl
      | succ count => exact absurd performs (none rfl call count)
    | _ => rfl
  | _ => rfl

/-- **The phases keep the exclusion**: an acquisition that excludes `conn` and begins no retry, the
counter at the limit or not, does not return it, whatever the state of the pool and whatever the
other threads do meanwhile. -/
theorem returned_ne (nonzero : conn ≠ 0) {s : State} {moves : List Move} {result : ConnId}
    (idle : s.running t = none) (beside : ∀ move ∈ moves, Beside t conn move)
    (holds : (maxRetries ≤ s.memory.pool.retryCount t ∨ Unknown dbPath) ∨
      Runs.Meets (system maxRetries).next (NoRetry t) s (.start t (.acquire dbPath conn) :: moves))
    (returns : (Runs.final (system maxRetries).next s
      (.start t (.acquire dbPath conn) :: moves)).returning t =
        some (.acquire dbPath conn, result)) : result ≠ conn := by
  let s₁ : State :=
    ⟨s.memory, Function.update s.running t
      (some (.acquire dbPath conn, acquireOn maxRetries t maxRetries dbPath conn))⟩
  have started : (system maxRetries).next s (.start t (.acquire dbPath conn)) = s₁ := by
    simp only [System.next, idle]
    rfl
  rw [Runs.final_cons, started] at returns
  let limit : Prop := maxRetries ≤ s.memory.pool.retryCount t ∨ Unknown dbPath
  let after := Runs.final ((system maxRetries).watch (watch (some conn)) id id t)
    (s₁, ⟨s.memory.pool.retryCount t, 0, false, false, false, true⟩) moves
  have quiet : Runs.Meets (system maxRetries).next (fun s move => limit ∨ NoRetry t s move) s₁
      moves := by
    rcases holds with holds | met
    · exact Runs.Meets.imp (fun _ _ => .inl) (Runs.meets_of_forall fun _ _ => holds)
    · exact Runs.Meets.imp (fun _ _ => .inr) (started ▸ met.2)
  have kept : (Truly t after.1.memory after.2 ∧ (limit ∨ after.2.retries = 0)) ∧
      Watched (watch (some conn)) (fun _ => True)
        (fun result w => w.real = true → limit ∨ w.retries = 0 → result ≠ conn) t after := by
    refine System.watch_invariant (fun m w => Truly t m w ∧ (limit ∨ w.retries = 0))
      (fun _ _ _ _ again _ _ => absurd rfl again.1)
      (fun s w choice call op rest fits busy inv _ => ?_)
      (fun s w u choice call op rest other _ _ inv => ?_) (fun _ _ _ _ _ inv => inv)
      (fun _ _ _ inv _ => ⟨inv, trivial⟩)
      ((Runs.meets_of_forall beside).and (System.meets_watch quiet)) ?_
    · refine ⟨inv.1.mine op choice fun _ spared =>
        Option.mem_some.mp spared ▸ ⟨nonzero, fits.1⟩, ?_⟩
      rcases fits.2 with reached | none
      · exact .inl reached
      · exact inv.2.imp_right (after_retries busy none (some conn) _).trans
    · exact ⟨inv.1.others other op choice, inv.2⟩
    · refine ⟨⟨⟨rfl, rfl⟩, .inr rfl⟩, ?_⟩
      simp only [Watched, s₁, Function.update_self]
      by_cases unknown : Unknown dbPath
      · rw [acquireOn_of_unknown unknown]
        exact fun _ _ => nonzero.symm
      · refine (safe_acquireOn_excluding rfl nonzero).mono fun result w ended real few => ?_
        exact ended real (few.imp_left (Or.resolve_right · unknown))
  have returned : after.1.returning t = some (.acquire dbPath conn, result) := by
    rw [← returns]
    exact congrArg (State.returning · t) (System.final_watch_fst _ moves)
  exact kept.2.ended returned kept.1.1.1 kept.1.2

theorem spares_of (nonzero : conn ≠ 0) (holds : maxRetries ≤ count ∨ Unknown dbPath) :
    Spares maxRetries t dbPath conn count := by
  intro s moves idle counted beside result
  subst counted
  exact returned_ne nonzero idle beside (.inl holds)

/-! ### A pool with one slot -/

/-- **What a thread could come to**, moving alone, with no connection created. -/
abbrev Could (maxRetries : ℕ) (t : Thread) {α : Type} (p : Prog α) (m : Memory)
    (ends : α → Memory → Prop) : Prop :=
  (system maxRetries).Can (fun choice => choice.address = 0) t p m ends

/-- **The only slot of the pool is the thread's own**, READY with the connection, and the thread
has cached no slot. -/
structure OwnSlot (t : Thread) (conn : ConnId) (m : Memory) : Prop where
  slot : m.pool.slots 0 = ⟨conn, some t, 0, .ready, 0⟩
  size : m.pool.configuredSize = 1
  most : m.pool.configuredMaxSize = 1
  reaped : m.pool.lastReapTime = 0
  uncached : m.pool.cache t = TlsPoolCache.none
  library : m.pool.libraryDbPath = some libraryDbName

variable {m : Memory} {α : Type} {ends : α → Memory → Prop}

/-- One operation, at second 0; `flag` is what the world says when it is asked. -/
theorem could_op {op : Op} {rest : op.Ans → Prog α} (flag : Bool) {answer : op.Ans}
    (answers : m.pool.answer t ⟨flag, 0, 0⟩ op = answer)
    (can : Could maxRetries t (rest answer) ((system maxRetries).effect t op answer m) ends) :
    Could maxRetries t (perform op >>= rest) m ends :=
  ⟨⟨flag, 0, 0⟩, rfl, by subst answers; exact can⟩

theorem threadsEqual_self (t : Thread) : threadsEqual (some t) t = true := beq_self_eq_true _

/-- A path that stands for a library is resolved to it. -/
theorem exists_selectLibraryPoolPath (known : ¬ Unknown dbPath) :
    ∃ path,
      selectLibraryPoolPath dbPath (if dbPath = [] then some libraryDbName else none) = some path ∧
        isLibraryDb path = true := by
  by_cases library : isLibraryDb dbPath = true
  · exact ⟨dbPath, if_pos library, library⟩
  · by_cases empty : dbPath = []
    · subst empty
      exact ⟨libraryDbName, by decide, by decide⟩
    · have blobs : isBlobsDb dbPath = true := by
        by_contra other
        exact known ⟨empty, by simpa using library, by simpa using other⟩
      refine ⟨dbPath.take (dbPath.length - blobsDbName.length) ++ libraryDbName, ?_, ?_⟩
      · simp [selectLibraryPoolPath, library, blobs, empty]
      · exact List.isSuffixOf_iff_suffix.mpr (List.suffix_append ..)

section Own

variable (own : OwnSlot t conn m)
include own

theorem OwnSlot.reads_state (choice : Choice) : m.pool.answer t choice (.loadState 0) = .ready := by
  simp [PoolManager.answer, own.slot]

theorem OwnSlot.reads_owner (choice : Choice) : m.pool.answer t choice (.loadOwner 0) = some t := by
  simp [PoolManager.answer, own.slot]

theorem OwnSlot.reads_conn (choice : Choice) : m.pool.answer t choice (.loadConn 0) = conn := by
  simp [PoolManager.answer, own.slot]

theorem OwnSlot.reads_cache (choice : Choice) :
    m.pool.answer t choice (.aside (.cacheGet 0)) = none := by
  simp [PoolManager.answer, PoolManager.answerAside, own.uncached, TlsPoolCache.none]

/-- What is sought here is not the connection that is there. -/
theorem OwnSlot.can_skip_ready :
    Could maxRetries t (phase1ExistingReady ⟨t, 0, 1, conn⟩) m fun found m' =>
      found = none ∧ m' = m := by
  refine can_bind.mpr (can_bind.mpr (could_op false (own.reads_cache _) ?_))
  refine can_bind.mpr (could_op false (own.reads_state _) ?_)
  rw [if_pos rfl]
  refine could_op false (own.reads_owner _) ?_
  rw [if_pos (threadsEqual_self t)]
  refine could_op false (own.reads_conn _) ?_
  rw [if_pos rfl]
  exact ⟨rfl, rfl⟩

/-- The slot was used just now, so it is no zombie; and the reaper is not due. -/
theorem OwnSlot.can_reclaim_nothing (excludeConn : ConnId) :
    Could maxRetries t (reclaimZombiesAndReap ⟨t, 0, 1, excludeConn⟩) m fun _ m' => m' = m := by
  have used : m.pool.answer t ⟨false, 0, 0⟩ (.aside (.loadLastUsed 0)) = (0 : ℤ) := by
    simp [PoolManager.answer, PoolManager.answerAside, own.slot]
  have reaped : m.pool.answer t ⟨false, 0, 0⟩ (.aside .loadLastReap) = (0 : ℤ) := own.reaped
  refine could_op false rfl (can_bind.mpr (can_bind.mpr ?_))
  refine could_op false (own.reads_state _) ?_
  rw [if_pos rfl]
  refine could_op false used (could_op false rfl ?_)
  rw [if_neg (by simp [zombieReclaimable])]
  refine could_op false reaped ?_
  rw [if_pos (by decide : (0 : ℤ) - 0 < reapIntervalSecs)]
  rfl

theorem OwnSlot.can_reuse_nothing :
    Could maxRetries t (phase2ReuseExisting ⟨t, 0, 1, conn⟩) m fun found m' =>
      found = none ∧ m' = m := by
  refine can_bind.mpr (could_op false (own.reads_conn _) ?_)
  rw [if_pos (.inr rfl)]
  exact ⟨rfl, rfl⟩

theorem OwnSlot.can_create_nothing (nonzero : conn ≠ 0) (excludeConn : ConnId) :
    Could maxRetries t (phase3CreateEmpty ⟨t, 0, 1, excludeConn⟩) m fun found m' =>
      found = none ∧ m' = m := by
  refine can_bind.mpr (could_op false (own.reads_conn _) ?_)
  rw [if_pos nonzero]
  exact ⟨rfl, rfl⟩

theorem OwnSlot.can_recover_nothing (excludeConn : ConnId) :
    Could maxRetries t (phase4ReclaimError ⟨t, 0, 1, excludeConn⟩) m fun found m' =>
      found = none ∧ m' = m := by
  have sound : m.pool.answer t ⟨false, 0, 0⟩ (.casState 0 .error .reserved) = false := by
    simp [PoolManager.answer, own.slot]
  exact can_bind.mpr (could_op false sound ⟨rfl, rfl⟩)

theorem OwnSlot.can_grow_nothing (excludeConn : ConnId) :
    Could maxRetries t (phase5Autogrow ⟨t, 0, 1, excludeConn⟩) m fun found m' =>
      found = none ∧ m' = m := by
  refine could_op false own.size (could_op false own.most ?_)
  rw [if_pos le_rfl]
  exact ⟨rfl, rfl⟩

/-- Nothing but the excluded connection is there, so no phase finds any. -/
theorem OwnSlot.can_find_nothing (nonzero : conn ≠ 0) :
    Could maxRetries t (phases ⟨t, 0, 1, conn⟩) m fun found m' => found = none ∧ m' = m := by
  refine own.can_skip_ready.bind ?_
  rintro _ _ ⟨rfl, rfl⟩
  refine (own.can_reclaim_nothing conn).bind ?_
  rintro _ _ rfl
  refine own.can_reuse_nothing.bind ?_
  rintro _ _ ⟨rfl, rfl⟩
  refine (own.can_create_nothing nonzero conn).bind ?_
  rintro _ _ ⟨rfl, rfl⟩
  refine (own.can_recover_nothing conn).bind ?_
  rintro _ _ ⟨rfl, rfl⟩
  exact own.can_grow_nothing conn

/-- With nothing excluded, the connection is there. -/
theorem OwnSlot.can_find (nonzero : conn ≠ 0) :
    Could maxRetries t (phases ⟨t, 0, 1, 0⟩) m fun found _ => found = some conn := by
  have sound : m.pool.answer t ⟨true, 0, 0⟩ (.ask .connOk conn) = true := rfl
  have idle : m.pool.answer t ⟨false, 0, 0⟩ (.ask .streamingActive conn) = false := rfl
  refine can_bind.mpr (can_bind.mpr (can_bind.mpr (could_op false (own.reads_cache _) ?_)))
  refine can_bind.mpr (could_op false (own.reads_state _) ?_)
  rw [if_pos rfl]
  refine could_op false (own.reads_owner _) ?_
  rw [if_pos (threadsEqual_self t)]
  refine could_op false (own.reads_conn _) ?_
  rw [if_neg nonzero]
  unfold ask
  rw [if_neg nonzero, if_neg nonzero]
  refine could_op true sound ?_
  rw [if_pos rfl]
  refine could_op false idle ?_
  rw [if_neg Bool.false_ne_true]
  exact could_op false rfl (could_op false rfl (could_op false rfl rfl))

theorem OwnSlot.can_resolve (known : ¬ Unknown dbPath) :
    Could maxRetries t (resolveSelectedPoolPath dbPath) m fun selected m' =>
      (∃ path, selected = some path ∧ isLibraryDb path = true) ∧ m' = m := by
  obtain ⟨path, selected, library⟩ := exists_selectLibraryPoolPath known
  have resolves : (selectLibraryPoolPath dbPath
      (if dbPath = [] then some libraryDbName else none)).filter isLibraryDb = some path := by
    rw [selected, Option.filter_some, if_pos library]
  rw [resolveSelectedPoolPath_eq]
  by_cases empty : dbPath = []
  · rw [if_pos empty] at resolves ⊢
    exact could_op false own.library ⟨⟨path, resolves, library⟩, rfl⟩
  · rw [if_neg empty] at resolves ⊢
    exact ⟨⟨path, resolves, library⟩, rfl⟩

/-- A pass comes to its phases with the pool as it was. -/
theorem OwnSlot.can_pass {again : Text → Prog ConnId} {excludeConn : ConnId}
    {ends : ConnId → Memory → Prop} (known : ¬ Unknown dbPath)
    (goes : ∀ path, isLibraryDb path = true →
      Could maxRetries t (phases ⟨t, 0, 1, excludeConn⟩) m fun found m' =>
        Could maxRetries t
          (match found with
            | some conn => pure conn
            | none => phase6Retry maxRetries (again path)) m' ends) :
    Could maxRetries t (acquirePass maxRetries again t dbPath excludeConn) m ends := by
  refine (own.can_resolve known).bind ?_
  rintro _ m' ⟨⟨path, rfl, library⟩, same⟩
  subst m'
  have remembered :
      (system maxRetries).effect t (.aside (.rememberLibraryPath path)) () m = m := by
    have kept : m.pool.effectAside t (.rememberLibraryPath path) () = m.pool := by
      simp [PoolManager.effectAside, own.library]
    exact congrArg (Memory.mk · m.history) kept
  refine could_op false rfl (could_op false rfl ?_)
  show Could maxRetries t _
    ((system maxRetries).effect t (.aside (.rememberLibraryPath path)) () m) ends
  rw [remembered]
  refine could_op false own.size (could_op false own.most ?_)
  refine could_op false own.reaped ?_
  refine can_bind.mpr ?_
  show Could maxRetries t (onlyIf (decide ((0 : ℤ) - 0 ≥ reapIntervalSecs) = true) _) _ _
  unfold onlyIf
  rw [if_neg (by decide)]
  exact can_bind.mpr (goes path library)

theorem OwnSlot.raised (count : ℕ) :
    OwnSlot t conn ((system maxRetries).effect t (.aside (.retryCountSet count)) () m) :=
  ⟨own.slot, own.size, own.most, own.reaped, own.uncached, own.library⟩

theorem OwnSlot.can_return (nonzero : conn ≠ 0) (known : ¬ Unknown dbPath) (nested : ℕ) :
    Could maxRetries t (acquireOn maxRetries t nested dbPath 0) m fun result _ =>
      result = conn := by
  have pass : ∀ again, Could maxRetries t (acquirePass maxRetries again t dbPath 0) m
      fun result _ => result = conn := by
    intro again
    refine own.can_pass known fun path _ => (own.can_find nonzero).mono ?_
    rintro _ _ rfl
    rfl
  cases nested with
  | zero | succ => exact pass _

/-- **The retry returns the connection the acquisition excludes.** -/
theorem OwnSlot.can_return_excluded (nonzero : conn ≠ 0) (known : ¬ Unknown dbPath)
    (counted : m.pool.retryCount t = count) (below : count < maxRetries) (nested : ℕ) :
    Could maxRetries t (acquireOn maxRetries t (nested + 1) dbPath conn) m fun result _ =>
      result = conn := by
  refine own.can_pass known fun path library => (own.can_find_nothing nonzero).mono ?_
  rintro _ m' ⟨rfl, same⟩
  subst m'
  refine could_op false counted ?_
  rw [if_pos below]
  refine could_op false rfl (can_bind.mpr ?_)
  have known : ¬ Unknown path := fun unknown => by simp [unknown.2.1] at library
  refine ((own.raised (count + 1)).can_return nonzero known nested).mono ?_
  rintro _ m' rfl
  unfold onlyIf
  rw [if_pos nonzero]
  exact could_op false rfl rfl

end Own

/-- The state in which the thread's own slot is the only one, its counter at `count`. -/
def ownSlotState (t : Thread) (conn : ConnId) (count : ℕ) : State where
  memory :=
    ⟨{ PoolManager.new 1 1 with
        slots := fun _ => ⟨conn, some t, 0, .ready, 0⟩
        libraryDbPath := some libraryDbName
        livePoolConns := [conn]
        retryCount := fun _ => count
        heap := fun other => other == conn }, History.new⟩
  running _ := none

theorem not_spares (nonzero : conn ≠ 0) (known : ¬ Unknown dbPath) (below : count < maxRetries) :
    ¬ Spares maxRetries t dbPath conn count := by
  intro spares
  have own : OwnSlot t conn (ownSlotState t conn count).memory :=
    ⟨rfl, rfl, rfl, rfl, rfl, rfl⟩
  obtain ⟨nested, deep⟩ : ∃ nested, maxRetries = nested + 1 :=
    ⟨maxRetries - 1, by omega⟩
  have returns : Could maxRetries t (acquireOn maxRetries t maxRetries dbPath conn)
      (ownSlotState t conn count).memory fun result _ => result = conn := by
    have once := own.can_return_excluded nonzero known rfl below nested
    rwa [← deep] at once
  let started := (system maxRetries).next (ownSlotState t conn count)
    (.start t (.acquire dbPath conn))
  have busy : started.running t =
      some (.acquire dbPath conn, acquireOn maxRetries t maxRetries dbPath conn) :=
    Function.update_self ..
  obtain ⟨choices, fits, result, returned, same⟩ := System.Can.reached busy returns
  refine spares (ownSlotState t conn count) (choices.map (.step t)) rfl rfl ?_ result returned same
  simp only [List.forall_mem_map]
  intro choice mem
  have created : choice.address = 0 := fits choice mem
  exact fun same => nonzero (same ▸ created)

/-- **The exclusion is kept exactly when no retry can follow**: the counter of the thread stands at
the limit already, or the path stands for no library, so that nothing is looked for. -/
theorem spares_iff (maxRetries : ℕ) (t : Thread) (dbPath : Text) (conn : ConnId) (count : ℕ)
    (nonzero : conn ≠ 0) :
    Spares maxRetries t dbPath conn count ↔ maxRetries ≤ count ∨ Unknown dbPath := by
  constructor
  · intro spares
    by_contra lost
    obtain ⟨below, known⟩ := not_or.mp lost
    exact not_spares nonzero known (by omega) spares
  · exact spares_of nonzero

theorem spares_five_at_limit : (5 : ConnId) ≠ 0 ∧ Spares 3 1 libraryDbName 5 3 :=
  ⟨by decide, (spares_iff 3 1 libraryDbName 5 3 (by decide)).mpr (.inl le_rfl)⟩

end Excluded

/-- Thread 1 is handed connection 5 in the only slot. -/
def acquiresFive : List Move := .start 1 (.acquire libraryDbName 0) :: steps 1 24 ⟨true, 5, 0⟩

/-- Then it acquires a connection other than 5: the phases find none, and the retry finds 5 sound
and idle. -/
def acquiresOther : List Move :=
  acquiresFive ++ [.start 1 (.acquire libraryDbName 5)] ++ steps 1 35 ⟨false, 0, 0⟩ ++
    steps 1 1 ⟨true, 0, 0⟩ ++ steps 1 5 ⟨false, 0, 0⟩

/-- **The excluded connection is returned.** -/
theorem excluded_returned :
    (Runs.final (system 1).next (start 1 1) acquiresFive).running 1 = none ∧
      (Runs.final (system 1).next (start 1 1) acquiresFive).memory.history.handed 5 = some 1 ∧
      (Runs.final (system 1).next (start 1 1) acquiresOther).returning 1 =
        some (.acquire libraryDbName 5, 5) := by
  refine ⟨?_, by decide +kernel, by decide +kernel⟩
  rfl

/-! ### The counter -/

/-- When the thread is called, its retries are counted anew. -/
def enter (w : Watch) : Watch :=
  { w with retries := 0, gaveUp := false, fresh := decide (w.count = 0) }

/-- The run, with thread `t` watched. -/
def watching (maxRetries : ℕ) (t : Thread) : State × Watch → Move → State × Watch :=
  (system maxRetries).watch (watch none) enter id t

/-- A thread that has not been called, its counter at zero. -/
def Watch.new : Watch := ⟨0, 0, false, false, true, true⟩

/-- The thread makes only acquisitions; the others make any calls. -/
def AcquiresOn (t : Thread) : Move → Prop
  | .start u call => u = t → ∃ dbPath excludeConn, call = .acquire dbPath excludeConn
  | .step _ _ => True

/-- The thread is not called. -/
def Uncalled (t : Thread) : Move → Prop
  | .start u _ => u ≠ t
  | .step _ _ => True

/-- **The condition on a step**: no retry of the thread gives up on its own slot, that is, marks a
slot ERROR that it found READY and could not reconnect, while its counter is raised. -/
def KeepsSlot (t : Thread) (watched : State × Watch) : Move → Prop
  | .start _ _ => True
  | .step u _ =>
    u = t → watched.2.reconnecting = true → 0 < watched.1.memory.pool.retryCount t →
      ∀ call i, watched.1.performing t ≠ some (call, .storeState i .error)

/-- How an acquisition leaves its thread. -/
def Left (maxRetries : ℕ) (w : Watch) : Prop :=
  w.real = true → w.retries ≤ maxRetries ∧ w.reconnecting = false ∧
    (w.fresh = true → w.gaveUp = false ∧ w.count = 0 ∨ w.gaveUp = true ∧ 0 < w.count)

section Counter

variable {maxRetries : ℕ} {t : Thread} {s : State} {w : Watch} {moves : List Move}

theorem after_fresh (spared : Option ConnId) (op : Op) (answer : op.Ans) :
    (w.after spared op answer).fresh = w.fresh := by
  cases op with
  | aside what => cases what <;> rfl
  | _ => rfl

theorem safe_fresh {α : Type} {p : Prog α} {ends : α → Watch → Prop}
    (safe : Safe (watch none) p w ends) :
    Safe (watch none) p w fun a w' => w'.fresh = w.fresh ∧ ends a w' := by
  induction p generalizing w with
  | done a => exact ⟨rfl, safe⟩
  | act op next ih =>
    refine ⟨trivial, fun answer => ?_⟩
    exact (ih answer (safe.2 answer)).mono fun a w' ended =>
      ⟨ended.1.trans (after_fresh none op answer), ended.2⟩

/-- An acquisition leaves its thread so. -/
theorem safe_acquire (dbPath : Text) (excludeConn : ConnId) (settled : w.reconnecting = false) :
    Safe (watch none) ((system maxRetries).program t (.acquire dbPath excludeConn)) (enter w)
      fun _ w' => Left maxRetries w' := by
  have entered : (enter w).reconnecting = false := settled
  refine (safe_fresh (safe_acquireOn entered (Nat.le_add_left ..))).mono ?_
  rintro conn w' ⟨fresh, ended⟩ real
  obtain ⟨retries, settled, left⟩ := ended real
  refine ⟨?_, settled, fun began => ?_⟩
  · have within : w'.retries ≤ 0 + (maxRetries - w.count) := retries
    omega
  · have zero : w.count = 0 := by
      rw [fresh] at began
      simpa [enter] using began
    rcases left with ⟨kept, cleared | ⟨same, -⟩⟩ | ⟨gaveUp, raised, -⟩
    · exact .inl ⟨kept, cleared⟩
    · exact .inl ⟨kept, same.trans zero⟩
    · exact .inr ⟨gaveUp, raised⟩

/-- Something holds of the watched thread, and it can go on with its acquisition. -/
abbrev Acquiring (maxRetries : ℕ) (t : Thread) (Inv : Memory → Watch → Prop)
    (watched : State × Watch) : Prop :=
  Inv watched.1.memory watched.2 ∧
    Watched (watch none) (Left maxRetries) (fun _ => Left maxRetries) t watched

variable {watched : State × Watch}

/-- **The rule for what is said of the acquisitions of one thread.** -/
theorem watching_invariant (Inv : Memory → Watch → Prop) {ok : State × Watch → Move → Prop}
    (truly : ∀ m w, Inv m w → Truly t m w)
    (starts : ∀ m w, Inv m w → Left maxRetries w → Inv m (enter w))
    (acquires : ∀ watched move, ok watched move → AcquiresOn t move)
    (mine : ∀ s w choice call op rest, ok (s, w) (.step t choice) →
      s.running t = some (call, .act op rest) → Inv s.memory w →
        Inv ((system maxRetries).effect t op ((system maxRetries).answer t op choice s.memory)
          s.memory)
          (w.after none op ((system maxRetries).answer t op choice s.memory)))
    (others : ∀ u m w choice op, u ≠ t → Inv m w →
      Inv ((system maxRetries).effect u op ((system maxRetries).answer u op choice m) m) w)
    (finishes : ∀ u conn m w, Inv m w → Inv { m with history := m.history.hand u conn } w)
    (met : Runs.Meets (watching maxRetries t) ok watched moves)
    (start : Acquiring maxRetries t Inv watched) :
    Acquiring maxRetries t Inv (Runs.final (watching maxRetries t) watched moves) := by
  refine System.watch_invariant Inv (fun m w s call good inv left => ?_)
    (fun s w choice call op rest good busy inv _ => mine s w choice call op rest good busy inv)
    (fun s w u choice call op rest other _ _ inv => others u s.memory w choice op other inv)
    (fun u call conn m w inv => finishes u conn m w inv)
    (fun _ m w inv (left : Left maxRetries w) => ⟨inv, left⟩) met start
  obtain ⟨dbPath, excludeConn, rfl⟩ := acquires _ _ good rfl
  exact ⟨starts m w inv left, safe_acquire dbPath excludeConn (left (truly m w inv).1).2.1⟩

/-- What the watch says of the counter stays true in every run. -/
theorem watching_truly (acquires : ∀ move ∈ moves, AcquiresOn t move)
    (start : Acquiring maxRetries t (Truly t) watched) :
    Acquiring maxRetries t (Truly t) (Runs.final (watching maxRetries t) watched moves) := by
  refine watching_invariant (Truly t) (fun _ _ truly => truly) (fun _ _ truly _ => truly)
    (fun _ _ good => good) (fun s w choice call op rest _ _ truly => ?_)
    (fun u m w choice op other truly => truly.others other op choice)
    (fun _ _ _ _ truly => truly) (Runs.meets_of_forall acquires) start
  exact truly.mine op choice (by simp)

/-- No retry has given up on the thread's own slot so far. -/
def Clean (t : Thread) (m : Memory) (w : Watch) : Prop :=
  Truly t m w ∧ w.gaveUp = false ∧ w.fresh = true

/-- A step that keeps the slot leaves a thread clean. -/
theorem Clean.mine {call : Call} {op : Op} {rest : op.Ans → Prog ConnId} {choice : Choice}
    (clean : Clean t s.memory w) (busy : s.running t = some (call, .act op rest))
    (keeps : KeepsSlot t (s, w) (.step t choice)) :
    Clean t
      ((system maxRetries).effect t op ((system maxRetries).answer t op choice s.memory) s.memory)
      (w.after none op ((system maxRetries).answer t op choice s.memory)) := by
  obtain ⟨truly, kept, fresh⟩ := clean
  refine ⟨truly.mine op choice (by simp), ?_, (after_fresh none op _).trans fresh⟩
  cases op with
  | storeState i state =>
    have performs : s.performing t = some (call, .storeState i state) := by
      simp [State.performing, busy]
    by_cases raised : w.reconnecting = true ∧ 0 < w.count
    · have other : state ≠ .error := by
        rintro rfl
        exact keeps rfl raised.1 (truly.2 ▸ raised.2) call i performs
      simp [Watch.after, kept, other]
    · rw [not_and] at raised
      simp only [Watch.after, kept, Bool.false_or, Bool.and_eq_false_iff, decide_eq_false_iff_not]
      by_cases reconnecting : w.reconnecting = true
      · exact .inr (raised reconnecting)
      · exact .inl (.inl (by simpa using reconnecting))
  | aside what => cases what <;> exact kept
  | _ => exact kept

theorem watching_clean (acquires : ∀ move ∈ moves, AcquiresOn t move)
    (met : Runs.Meets (watching maxRetries t) (KeepsSlot t) watched moves)
    (start : Acquiring maxRetries t (Clean t) watched) :
    Acquiring maxRetries t (Clean t) (Runs.final (watching maxRetries t) watched moves) := by
  refine watching_invariant (Clean t) (fun _ _ clean => clean.1) (fun m w clean left => ?_)
    (fun _ _ good => good.1) (fun s w choice call op rest good busy clean => ?_)
    (fun u m w choice op other clean => ⟨clean.1.others other op choice, clean.2⟩)
    (fun _ _ _ _ clean => clean) ((Runs.meets_of_forall acquires).and met) start
  · obtain ⟨truly, kept, fresh⟩ := clean
    have zero : w.count = 0 := by
      obtain ⟨-, cleared⟩ | ⟨gaveUp, -⟩ := (left truly.1).2.2 fresh
      · exact cleared
      · simp [kept] at gaveUp
    exact ⟨truly, rfl, by simp [enter, zero]⟩
  · exact clean.mine busy good.2

/-- A retry of the acquisition has given up on the thread's own slot. -/
def Broken (t : Thread) (m : Memory) (w : Watch) : Prop :=
  Truly t m w ∧ w.gaveUp = true ∧ w.fresh = true

/-- A step that gives the slot up breaks the acquisition. -/
theorem watching_breaks {choice : Choice} (start : Acquiring maxRetries t (Clean t) watched)
    (breaks : ¬ KeepsSlot t watched (.step t choice)) :
    Acquiring maxRetries t (Broken t) (watching maxRetries t watched (.step t choice)) := by
  obtain ⟨⟨truly, kept, fresh⟩, fits⟩ := start
  have acquires : ∀ move ∈ [Threads.Move.step t choice], AcquiresOn t move := by simp [AcquiresOn]
  obtain ⟨stays, moved⟩ := watching_truly acquires ⟨truly, fits⟩
  refine ⟨⟨stays, ?_⟩, moved⟩
  unfold KeepsSlot at breaks
  push Not at breaks
  obtain ⟨-, reconnecting, raised, call, i, performs⟩ := breaks
  obtain ⟨rest, busy⟩ := State.running_of_performing performs
  have after : (watching maxRetries t watched (.step t choice)).2 =
      watched.2.after none (.storeState i .error) () := by
    simp [watching, System.watch, busy, watch, system, PoolManager.answer]
  rw [after]
  refine ⟨?_, fresh⟩
  simp [Watch.after, reconnecting, truly.2, raised]

theorem watching_broken (uncalled : ∀ move ∈ moves, Uncalled t move)
    (start : Acquiring maxRetries t (Broken t) watched) :
    Acquiring maxRetries t (Broken t) (Runs.final (watching maxRetries t) watched moves) := by
  refine System.watch_invariant (Broken t) (fun _ _ _ _ again _ _ => absurd rfl again)
    (fun s w choice call op rest _ _ broken _ => ?_)
    (fun s w u choice call op rest other _ _ broken =>
      ⟨broken.1.others other op choice, broken.2⟩)
    (fun _ _ _ _ _ broken => broken)
    (fun _ m w broken (left : Left maxRetries w) => ⟨broken, left⟩)
    (Runs.meets_of_forall uncalled) start
  obtain ⟨truly, gaveUp, fresh⟩ := broken
  refine ⟨truly.mine op choice (by simp), ?_, (after_fresh none op _).trans fresh⟩
  cases op with
  | storeState i state => simp [watch, Watch.after, gaveUp]
  | aside what => cases what <;> exact gaveUp
  | _ => exact gaveUp

/-- The thread is called by nobody, or about to return. -/
def Done (s : State) (t : Thread) : Prop :=
  s.running t = none ∨ ∃ returned, s.returning t = some returned

theorem left_of_done (done : Done watched.1 t)
    (fits : Watched (watch none) (Left maxRetries) (fun _ => Left maxRetries) t watched) :
    Left maxRetries watched.2 := by
  obtain idle | ⟨⟨call, conn⟩, returns⟩ := done
  · exact fits.idle idle
  · exact fits.ended returns

/-- **The retries of a thread's acquisitions.**  Let its counter stand at zero and let it make any
acquisitions, in any pool and beside any other threads.  A thread whose turn always comes again
returns, and has then retried no more often than the limit says.  If no retry gives up on the
thread's own slot, the counter is zero whenever the thread is done; and an acquisition in which one
does leaves it raised. -/
theorem acquisitions_clear_counter (maxRetries : ℕ) (t : Thread) (s : State) (moves : List Move)
    (idle : s.running t = none) (cleared : s.memory.pool.retryCount t = 0)
    (acquires : ∀ move ∈ moves, AcquiresOn t move) :
    let reached := Runs.final (watching maxRetries t) (s, Watch.new) moves
    (∀ call p, reached.1.running t = some (call, p) →
        ∀ schedule : ℕ → Move, (∀ n, ∃ m, n ≤ m ∧ ∃ choice, schedule m = .step t choice) →
          ∃ n conn,
            (Runs.final (system maxRetries).next reached.1
              ((List.range n).map schedule)).returning t = some (call, conn)) ∧
      (Done reached.1 t → reached.2.retries ≤ maxRetries) ∧
      (Runs.Meets (watching maxRetries t) (KeepsSlot t) (s, Watch.new) moves → Done reached.1 t →
        reached.1.memory.pool.retryCount t = 0) ∧
      ∀ before choice after, moves = before ++ .step t choice :: after →
        Runs.Meets (watching maxRetries t) (KeepsSlot t) (s, Watch.new) before →
        ¬ KeepsSlot t (Runs.final (watching maxRetries t) (s, Watch.new) before) (.step t choice) →
        (∀ move ∈ after, Uncalled t move) → Done reached.1 t →
          0 < reached.1.memory.pool.retryCount t := by
  have truly : Truly t s.memory Watch.new := ⟨rfl, cleared.symm⟩
  have clean : Clean t s.memory Watch.new := ⟨truly, rfl, rfl⟩
  have fits : Watched (watch none) (Left maxRetries) (fun _ => Left maxRetries) t
    (s, Watch.new) := by
    simp only [Watched, idle]
    exact fun _ => ⟨Nat.zero_le _, rfl, fun _ => .inl ⟨rfl, rfl⟩⟩
  refine ⟨fun call p busy schedule fair => ?_, fun done => ?_, fun met done => ?_, ?_⟩
  · exact System.eventually_returns busy fair
  · obtain ⟨truly, fits⟩ := watching_truly acquires ⟨truly, fits⟩
    exact (left_of_done done fits truly.1).1
  · obtain ⟨⟨truly, kept, fresh⟩, fits⟩ := watching_clean acquires met ⟨clean, fits⟩
    obtain ⟨-, zero⟩ | ⟨gaveUp, -⟩ := (left_of_done done fits truly.1).2.2 fresh
    · exact truly.2.symm.trans zero
    · simp [kept] at gaveUp
  · rintro before choice after rfl met breaks uncalled done
    have earlier : ∀ move ∈ before, AcquiresOn t move := fun move mem =>
      acquires move (List.mem_append_left _ mem)
    have broken := watching_breaks (watching_clean earlier met ⟨clean, fits⟩) breaks
    obtain ⟨⟨truly, gaveUp, fresh⟩, fits⟩ := watching_broken uncalled broken
    simp only [Runs.final_append, Runs.final_cons] at done ⊢
    obtain ⟨kept, -⟩ | ⟨-, raised⟩ := (left_of_done done fits truly.1).2.2 fresh
    · simp [gaveUp] at kept
    · exact truly.2 ▸ raised

end Counter

/-- Thread 1 retries once, which is all it may. -/
theorem acquiresOther_clears_counter :
    let reached := Runs.final (watching 1 1) (start 1 1, Watch.new) acquiresOther
    Done reached.1 1 ∧ reached.2.retries = 1 ∧ reached.2.retries ≤ 1 := by
  intro reached
  have done : Done reached.1 1 := .inr ⟨(.acquire libraryDbName 5, 5), by decide +kernel⟩
  have acquires : ∀ move ∈ acquiresOther, AcquiresOn 1 move := by
    simp [acquiresOther, acquiresFive, steps, or_imp, forall_and, AcquiresOn]
  exact ⟨done, by decide +kernel,
    (acquisitions_clear_counter 1 1 (start 1 1) acquiresOther rfl rfl acquires).2.1 done⟩

/-- Thread 1 acquires again: its connection is streaming, and in the retry it is broken and cannot
be reconnected. -/
def givesUpFive : List Move :=
  acquiresFive ++ [.start 1 (.acquire libraryDbName 0)] ++ steps 1 40 ⟨true, 0, 0⟩ ++
    steps 1 7 ⟨false, 0, 0⟩

/-- **The counter is left raised**: the thread is done, and its counter stands at the limit. -/
theorem counter_left_raised :
    (Runs.final (system 1).next (start 1 1) givesUpFive).running 1 = none ∧
      (Runs.final (system 1).next (start 1 1) givesUpFive).memory.pool.retryCount 1 = 1 := by
  constructor
  · exact Option.isNone_iff_eq_none.mp (by decide +kernel)
  · decide +kernel

end PlexPostgres.Pool.Retry
