import PlexPostgres.Pool.Locality

/-!
# The retries of an acquisition

An acquisition that finds no connection counts the retry counter of its thread up and acquires
again, until the counter reaches the limit (`pool_acquire/retry.rs`).  The counter is the thread's
own, so the thread is watched alone: beside the state stands a `Watch`, which its own operations
change, and the other threads may do anything.

Two things are lost on the way.  The retry acquires with no connection excluded, so it may return
the very connection it was asked to avoid.  And a retry that finds the thread's own READY slot
broken and cannot reconnect it returns null at once, past the place where the counter is cleared.
-/

namespace PlexPostgres.Pool.Retry

open Txn (ConnId)
open Threads (Safe Performs safe_bind)

/-! ### What is said of a thread -/

/-- **What is said of a thread.** -/
structure Watch where
  /-- Its retry counter. -/
  count : ℕ
  /-- The retries of the acquisition so far. -/
  retries : ℕ
  /-- It has moved a READY slot to RECONNECTING and not stored its state since. -/
  reconnecting : Bool
  /-- In a retry it marked such a slot ERROR. -/
  gaveUp : Bool
  /-- The counter stood at zero when the acquisition began. -/
  fresh : Bool
  /-- The counter was always read as it stands, and no new connection was `spared`. -/
  real : Bool

/-- What an operation of the thread changes. -/
def Watch.after (spared : Option ConnId) (w : Watch) : (op : Op) → op.Ans → Watch
  | .aside .retryCountGet, count => { w with real := w.real && count == w.count }
  | .aside (.retryCountSet count), _ =>
    { w with count, retries := if count = 0 then w.retries else w.retries + 1 }
  | .casState _ _ new, swapped =>
    { w with reconnecting := w.reconnecting || (swapped && new == .reconnecting) }
  | .storeState _ state, _ =>
    { w with
      reconnecting := false
      gaveUp := w.gaveUp || (w.reconnecting && state == .error && decide (0 < w.count)) }
  | .create, made => { w with real := w.real && some made.1 != spared }
  | _, _ => w

/-- What is watched of a thread: its counter, its retries, and whether one gave up on its own
slot. -/
def watch (spared : Option ConnId) : Threads.Terms Op Op.Ans Watch :=
  ⟨fun _ _ => True, Watch.after spared⟩

variable {spared : Option ConnId} {w : Watch} {t : Thread} {α : Type} {ends : α → Watch → Prop}

/-! ### Operations that change nothing -/

variable {op : Op}

theorem Plain.after (plain : Plain op) (answer : op.Ans) : w.after spared op answer = w := by
  cases op with
  | casState i old new =>
    obtain ⟨count, retries, reconnecting, gaveUp, fresh, real⟩ := w
    have other : (new == SlotState.reconnecting) = false := beq_eq_false_iff_ne.mpr plain
    simp [Watch.after, other]
  | aside what => cases what <;> first | rfl | exact plain.elim
  | create | storeState => exact plain.elim
  | _ => rfl

theorem Quiet.after (quiet : Quiet op) (settled : w.reconnecting = false) (answer : op.Ans) :
    w.after spared op answer = w := by
  obtain plain | ⟨i, state, rfl⟩ := quiet
  · exact plain.after answer
  · obtain ⟨count, retries, reconnecting, gaveUp, fresh, real⟩ := w
    obtain rfl : reconnecting = false := settled
    simp [Watch.after]

variable {p : Prog α} {results : α → Prop}

theorem safe_plain (performs : Performs Plain p results) (continues : ∀ a, results a → ends a w) :
    Safe (watch spared) p w ends :=
  (Safe.still performs (fun _ _ => trivial) fun _ answer plain => plain.after answer).mono
    fun a _ ended => ended.1 ▸ continues a ended.2

theorem safe_quiet (settled : w.reconnecting = false) (performs : Performs Quiet p results)
    (continues : ∀ a, results a → ends a w) : Safe (watch spared) p w ends :=
  (Safe.still performs (fun _ _ => trivial) fun _ answer quiet => quiet.after settled answer).mono
    fun a _ ended => ended.1 ▸ continues a ended.2

variable {rest : op.Ans → Prog α}

theorem then_op
    (safe : ∀ answer, Safe (watch spared) (rest answer) (w.after spared op answer) ends) :
    Safe (watch spared) (perform op >>= rest) w ends :=
  ⟨trivial, safe⟩

theorem then_plain (plain : Plain op) (safe : ∀ answer, Safe (watch spared) (rest answer) w ends) :
    Safe (watch spared) (perform op >>= rest) w ends :=
  then_op fun answer => (plain.after answer).symm ▸ safe answer

theorem then_ask {query : Query} {conn : ConnId} {rest : Bool → Prog α}
    (safe : ∀ answer, (answer = true → conn ≠ 0) → Safe (watch spared) (rest answer) w ends) :
    Safe (watch spared) (ask query conn >>= rest) w ends := by
  unfold ask
  split
  · exact safe false (by simp)
  next nonzero => exact ⟨trivial, fun answer => safe answer fun _ => nonzero⟩

/-! ### The programs that change nothing -/

variable {found : AcquireDecision}

section Programs

variable {i : ℕ}

theorem safe_plainAt (performs : Performs (PlainAt i) p results)
    (continues : ∀ a, results a → ends a w) : Safe (watch spared) p w ends :=
  safe_plain (performs.mono (fun _ plain => plain.2) fun _ ended => ended) continues

theorem safe_quietAt (settled : w.reconnecting = false) (performs : Performs (QuietAt i) p results)
    (continues : ∀ a, results a → ends a w) : Safe (watch spared) p w ends :=
  safe_quiet settled (performs.mono (fun _ quiet => quiet.2) fun _ ended => ended) continues

theorem quiet_reclaimZombiesAndReap {ctx : AcquireCtx} :
    Performs Quiet (reclaimZombiesAndReap ctx) fun _ => True :=
  shrinks_reclaimZombiesAndReap.mono (fun _ shrinks => shrinks.1) fun _ ended => ended

theorem plain_fastPath {ctx : AcquireCtx} : Performs Plain (fastPath ctx) (Usable ctx) := by
  refine performs_op trivial fun cached => ?_
  cases cached with
  | none => exact usable_none
  | some entry =>
    refine (plainAt_cachedSlot.mono (fun _ plain => plain.2) fun _ ended => ended).bind
      fun found usable => ?_
    cases found with
    | some conn => exact usable
    | none => exact performs_op trivial fun _ => usable_none

end Programs

/-! ### The phases -/

/-- **How a phase leaves the thread**: as it was, unless it gave up on the thread's own slot, which
returns null.  It found no connection that is spared. -/
structure Found (spared : Option ConnId) (w : Watch) (found : AcquireDecision) (w' : Watch) :
    Prop where
  count : w'.count = w.count
  retries : w'.retries = w.retries
  settled : w'.reconnecting = false
  gaveUp : w'.gaveUp = (w.gaveUp || (found == some 0 && decide (0 < w.count)))
  spares : w'.real = true → ∀ conn ∈ spared, found ≠ some conn

/-- The acquisition is asked to avoid what is spared. -/
def Avoids (spared : Option ConnId) (excludeConn : ConnId) : Prop :=
  ∀ conn ∈ spared, conn ≠ 0 ∧ excludeConn = conn

section Phases

variable {ctx : AcquireCtx} {i : ℕ}

theorem Found.nothing (settled : w.reconnecting = false) : Found spared w none w :=
  ⟨rfl, rfl, settled, by simp, by simp⟩

theorem Found.usable (settled : w.reconnecting = false) (avoids : Avoids spared ctx.excludeConn)
    (usable : Usable ctx found) : Found spared w found w := by
  refine ⟨rfl, rfl, settled, ?_, fun _ conn spared found_eq => ?_⟩
  · have nonzero : found ≠ some 0 := fun null => (usable 0 null).1 rfl
    simp [nonzero]
  · exact (usable conn found_eq).2 (avoids conn spared).2.symm

theorem Found.trans {w₁ w₂ : Watch} (first : Found spared w none w₁)
    (second : Found spared w₁ found w₂) : Found spared w found w₂ := by
  refine ⟨second.count.trans first.count, second.retries.trans first.retries, second.settled, ?_,
    second.spares⟩
  rw [second.gaveUp, first.gaveUp, first.count]
  simp

/-- What is done after nothing was found. -/
theorem Found.onward {w₁ : Watch} {p : Prog AcquireDecision} (before : Found spared w none w₁)
    (safe : Safe (watch spared) p w₁ (Found spared w₁)) :
    Safe (watch spared) p w₁ (Found spared w) :=
  safe.mono fun _ _ after => before.trans after

section

variable (settled : w.reconnecting = false)
include settled

section

variable (avoids : Avoids spared ctx.excludeConn)
include avoids

/-- In RECONNECTING, a connection that works is found; one that does not is given up. -/
theorem safe_reconnect {conn : ConnId} (other : conn ≠ ctx.excludeConn) :
    Safe (watch spared)
      (do
        stmtCacheClear conn
        if ← reconnectConn conn then markReadyAndCacheSlot i conn
        else
          markError i
          pure (some 0))
      { w with reconnecting := true } (Found spared w) := by
  refine safe_bind.mpr (safe_plainAt (plainAt_stmtCacheClear (i := i)) fun _ _ => ?_)
  refine safe_bind.mpr (safe_plainAt (plainAt_reconnectConn (i := i)) fun reconnected nonzero => ?_)
  split
  next reconnected =>
    refine then_op fun _ => ?_
    have ready :
        Watch.after spared { w with reconnecting := true } (.storeState i .ready) () = w := by
      obtain ⟨count, retries, reconnecting, gaveUp, fresh, real⟩ := w
      obtain rfl : reconnecting = false := settled
      simp [Watch.after]
    rw [ready]
    exact safe_plainAt plainAt_cacheSlot fun _ found =>
      Found.usable settled avoids (Usable.of_eq (nonzero reconnected) other found)
  · refine then_op fun _ => ⟨rfl, rfl, rfl, ?_, fun _ conn spared null => ?_⟩
    · simp [Watch.after]
    · exact (avoids conn spared).1 (Option.some.inj null).symm

theorem safe_existingReadySlot :
    Safe (watch spared) (existingReadySlot ctx i) w (Found spared w) := by
  have stays : Found spared w none w := Found.nothing settled
  refine then_plain trivial fun state => ?_
  split
  · refine then_plain trivial fun owner => ?_
    split
    · refine then_plain trivial fun conn => ?_
      split
      · exact stays
      next other =>
        refine then_ask fun ok nonzero => ?_
        split
        next ok =>
          refine then_ask fun streaming _ => ?_
          split
          · exact stays
          · exact safe_plainAt plainAt_cacheExistingReadySlot fun _ found =>
              Found.usable settled avoids (Usable.of_eq (nonzero ok) other found)
        · refine then_op fun swapped => ?_
          cases swapped with
          | false =>
            have unmoved : w.after spared (.casState i .ready .reconnecting) false = w := by
              simp [Watch.after]
            rw [unmoved]
            exact stays
          | true =>
            have moved : w.after spared (.casState i .ready .reconnecting) true =
                { w with reconnecting := true } := by
              simp [Watch.after]
            rw [moved]
            exact safe_reconnect settled avoids other
    · exact stays
  · exact stays

theorem safe_reuseSlot : Safe (watch spared) (reuseSlot ctx i) w (Found spared w) :=
  safe_quietAt settled quietAt_reuseSlot fun _ usable => Found.usable settled avoids usable

end

theorem safe_fillSlot : Safe (watch spared) (fillSlot i) w (Found spared w) := by
  refine safe_bind.mpr (then_op fun made => ?_)
  obtain ⟨conn, active⟩ := made
  have created : (w.after spared .create (conn, active)).reconnecting = false := settled
  refine safe_bind.mpr (safe_plain (Performs.onlyIf fun _ => ⟨trivial, fun _ => trivial⟩)
    fun _ _ => ?_)
  show Safe (watch spared) (if conn ≠ 0 ∧ active = true then _ else _) _ _
  split
  next works =>
    refine then_plain trivial fun _ => safe_quietAt created quietAt_markReadyAndCacheSlot ?_
    rintro _ rfl
    refine ⟨rfl, rfl, settled, ?_, fun real other spared found => ?_⟩
    · have nonzero : (some conn == some 0) = false := by simp [works.1]
      rw [nonzero]
      simp [Watch.after]
    · obtain rfl : conn = other := Option.some.inj found
      simp [Watch.after, Option.mem_def.mp spared] at real
  · refine safe_bind.mpr (safe_quietAt created quietAt_releaseFailedNewConnection fun _ _ => ?_)
    exact ⟨rfl, rfl, settled, by simp [Watch.after], by simp⟩

/-- An empty slot is claimed and filled, as phases 3 and 5 do. -/
theorem safe_claimEmpty :
    Safe (watch spared)
      (tryClaimFreeWithConn i 0 >>= fun claimed =>
        if claimed = true then claimSlotForThread ctx i >>= fun _ => fillSlot i
        else pure none) w (Found spared w) := by
  refine safe_bind.mpr (safe_quietAt settled quietAt_tryClaimFreeWithConn fun claimed _ => ?_)
  split
  · refine safe_bind.mpr (safe_plainAt plainAt_claimSlotForThread fun _ _ => ?_)
    exact safe_fillSlot settled
  · exact Found.nothing settled

theorem safe_createInSlot : Safe (watch spared) (createInSlot ctx i) w (Found spared w) := by
  refine then_plain trivial fun conn => ?_
  split
  · exact Found.nothing settled
  · exact safe_claimEmpty settled

theorem safe_recoverSlot : Safe (watch spared) (recoverSlot ctx i) w (Found spared w) := by
  refine then_plain SlotState.noConfusion fun claimed => ?_
  split
  · refine safe_bind.mpr (safe_plainAt plainAt_claimSlotForThread fun _ _ => ?_)
    refine then_plain trivial fun oldConn => ?_
    refine safe_bind.mpr (safe_plainAt (plainAt_destroyPoolConnection (i := i)) fun _ _ => ?_)
    exact safe_fillSlot settled
  · exact Found.nothing settled

theorem safe_phase5 : Safe (watch spared) (phase5Autogrow ctx) w (Found spared w) := by
  have stays : Found spared w none w := Found.nothing settled
  refine then_plain trivial fun currentSize => then_plain trivial fun runtimeMax => ?_
  split
  · exact stays
  · refine then_plain trivial fun grown => ?_
    split
    · refine then_plain trivial fun slotsLen => ?_
      split
      · exact stays
      · exact safe_claimEmpty settled
    · exact stays

end

theorem watched_parts (avoids : Avoids spared ctx.excludeConn) :
    Parts (watch spared) (Found spared w) ctx where
  fast _ before := before.onward (safe_plain plain_fastPath fun _ usable =>
    Found.usable before.settled avoids usable)
  ready _ _ _ before := before.onward (safe_existingReadySlot before.settled avoids)
  shrink _ before := safe_quiet before.settled quiet_reclaimZombiesAndReap fun _ _ => before
  reuse _ _ _ before := before.onward (safe_reuseSlot before.settled avoids)
  create _ _ _ before := before.onward (safe_createInSlot before.settled)
  recover _ _ _ before := before.onward (safe_recoverSlot before.settled)
  grow _ before := before.onward (safe_phase5 before.settled)

theorem safe_phases (settled : w.reconnecting = false) (avoids : Avoids spared ctx.excludeConn) :
    Safe (watch spared) (phases ctx) w (Found spared w) :=
  (watched_parts avoids).phases (Found.nothing settled)

end Phases

/-! ### The acquisition -/

section Acquisition

variable {maxRetries nested : ℕ} {dbPath : Text} {conn excludeConn : ConnId}

/-- Once the counter was read wrong, nothing more is said. -/
theorem safe_unreal (unreal : w.real = false) :
    Safe (watch spared) p w fun a w' => w'.real = true → ends a w' := by
  induction p generalizing w with
  | done a => exact fun real => absurd real (by simp [unreal])
  | act op next ih =>
    refine ⟨trivial, fun answer => ih answer ?_⟩
    cases op with
    | aside what => cases what <;> simp [watch, Watch.after, unreal]
    | _ => simp [watch, Watch.after, unreal]

/-- Nor is anything said of fewer retries than there were. -/
theorem safe_retried {n : ℕ} (retried : n < w.retries) :
    Safe (watch spared) p w fun a w' => w'.retries = n → ends a w' := by
  induction p generalizing w with
  | done a => exact fun few => absurd few (by omega)
  | act op next ih =>
    refine ⟨trivial, fun answer => ih answer ?_⟩
    cases op with
    | aside what =>
      cases what with
      | retryCountSet count => simp only [watch, Watch.after]; split <;> omega
      | _ => exact retried
    | _ => exact retried

/-- One pass: it resolves no path, finds something, or retries. -/
theorem safe_acquirePass {again : Text → Prog ConnId} {ends : ConnId → Watch → Prop}
    (settled : w.reconnecting = false) (avoids : Avoids spared excludeConn)
    (unresolved : isLibraryDb dbPath = false → ends 0 w)
    (found : ∀ conn w', Found spared w (some conn) w' → ends conn w')
    (retry : ∀ path w', isLibraryDb path = true → Found spared w none w' →
      Safe (watch spared) (phase6Retry maxRetries (again path)) w' ends) :
    Safe (watch spared) (acquirePass maxRetries again t dbPath excludeConn) w ends := by
  refine safe_bind.mpr (safe_plain (performs_resolveSelectedPoolPath trivial)
    fun selected resolved => ?_)
  cases selected with
  | none => exact unresolved (resolved.1 rfl)
  | some path =>
    refine then_plain trivial fun now => then_plain trivial fun _ => ?_
    refine then_plain trivial fun size => then_plain trivial fun most => ?_
    refine then_plain trivial fun lastReap => ?_
    refine safe_bind.mpr (safe_quiet settled (Performs.onlyIf fun _ => quiet_reclaimZombiesAndReap)
      fun _ _ => ?_)
    refine (safe_phases settled avoids).bind fun decision w' looked => ?_
    cases decision with
    | some conn => exact found conn w' looked
    | none => exact retry path w' (resolved.2 path rfl) looked

/-- **How an acquisition leaves the thread.**  It retried no more often than the counter was below
the limit; the counter is cleared, or as it was because nothing had to be retried, or a retry gave
up on the thread's own slot. -/
def Ended (maxRetries : ℕ) (w : Watch) (library : Prop) (conn : ConnId) (w' : Watch) : Prop :=
  w'.retries ≤ w.retries + (maxRetries - w.count) ∧ w'.reconnecting = false ∧
    (w'.gaveUp = w.gaveUp ∧
        (w'.count = 0 ∨ w'.count = w.count ∧ (conn ≠ 0 ∨ w.count = 0 ∨ ¬ library)) ∨
      w'.gaveUp = true ∧ 0 < w'.count ∧ conn = 0)

theorem Ended.of_found {w' : Watch} {library : Prop} (found : Found spared w (some conn) w') :
    Ended maxRetries w library conn w' := by
  obtain ⟨count, retries, settled, gaveUp, -⟩ := found
  refine ⟨by omega, settled, ?_⟩
  by_cases null : conn = 0
  · by_cases raised : 0 < w.count
    · exact .inr ⟨by simp [gaveUp, null, raised], by omega, null⟩
    · exact .inl ⟨by simp [gaveUp, raised], .inr ⟨count, .inr (.inl (by omega))⟩⟩
  · exact .inl ⟨by simp [gaveUp, null], .inr ⟨count, .inl null⟩⟩

theorem safe_phase6Retry {again : Prog ConnId}
    (retries : w.count < maxRetries → ∀ w', w'.count = w.count + 1 → w'.retries = w.retries + 1 →
      w'.reconnecting = false → w'.gaveUp = w.gaveUp →
      Safe (watch spared) again w' fun conn w'' =>
        w''.real = true → Ended maxRetries w' True conn w'')
    (settled : w.reconnecting = false) :
    Safe (watch spared) (phase6Retry maxRetries again) w fun conn w' =>
      w'.real = true → Ended maxRetries w True conn w' := by
  refine then_op fun count => ?_
  by_cases truly : count = w.count
  · subst truly
    have read : w.after spared (.aside .retryCountGet) w.count = w := by
      simp [Watch.after]
    rw [read]
    split
    next below =>
      have below : w.count < maxRetries := below
      refine then_op fun _ => ?_
      have again := retries below (w.after spared (.aside (.retryCountSet (w.count + 1))) ()) rfl
        rfl settled rfl
      refine again.bind fun conn w'' ended => ?_
      have within : w''.retries ≤ w.retries + 1 + (maxRetries - (w.count + 1)) →
          w''.retries ≤ w.retries + (maxRetries - w.count) := by omega
      refine safe_bind.mpr (Safe.onlyIf (fun nonzero => ⟨trivial, fun _ real => ?_⟩)
        fun null real => ?_)
      · obtain ⟨retried, settled, ⟨gaveUp, -⟩ | ⟨-, -, null⟩⟩ := ended real
        · exact ⟨within retried, settled, .inl ⟨gaveUp, .inl rfl⟩⟩
        · exact absurd null nonzero
      · obtain ⟨retried, settled, left⟩ := ended real
        refine ⟨within retried, settled, ?_⟩
        rcases left with ⟨gaveUp, cleared | ⟨-, nonzero | lowered | other⟩⟩ | left
        · exact .inl ⟨gaveUp, .inl cleared⟩
        · exact absurd nonzero null
        · exact absurd lowered (Nat.succ_ne_zero w.count)
        · exact absurd trivial other
        · exact .inr left
    · exact then_op fun _ _ => ⟨Nat.le_add_right .., settled, .inl ⟨rfl, .inl rfl⟩⟩
  · have unreal : (w.after spared (.aside .retryCountGet) count).real = false := by
      simp [Watch.after, truly]
    exact safe_unreal unreal

theorem Ended.unresolved (settled : w.reconnecting = false) (other : isLibraryDb dbPath = false) :
    Ended maxRetries w (isLibraryDb dbPath = true) 0 w :=
  ⟨Nat.le_add_right .., settled, .inl ⟨rfl, .inr ⟨rfl, .inr (.inr (by simp [other]))⟩⟩⟩

theorem Ended.of_retry {w₁ w₂ : Watch} {library : Prop} (looked : Found spared w none w₁)
    (ended : Ended maxRetries w₁ True conn w₂) : Ended maxRetries w library conn w₂ := by
  obtain ⟨count, retries, -, gaveUp, -⟩ := looked
  have same : w₁.gaveUp = w.gaveUp := by simpa using gaveUp
  obtain ⟨retried, settled, left⟩ := ended
  rw [retries, count] at retried
  rw [same, count] at left
  refine ⟨retried, settled, left.imp_left fun ⟨gaveUp, stands⟩ => ⟨gaveUp, stands.imp_right ?_⟩⟩
  rintro ⟨stands, nonzero | cleared | other⟩
  · exact ⟨stands, .inl nonzero⟩
  · exact ⟨stands, .inr (.inl cleared)⟩
  · exact absurd trivial other

/-- **An acquisition whose retries are nested deep enough** ends as `Ended` says. -/
theorem safe_acquireOn (settled : w.reconnecting = false) (deep : maxRetries ≤ w.count + nested) :
    Safe (watch none) (acquireOn maxRetries t nested dbPath excludeConn) w fun conn w' =>
      w'.real = true → Ended maxRetries w (isLibraryDb dbPath = true) conn w' := by
  induction nested generalizing w dbPath excludeConn with
  | zero =>
    refine safe_acquirePass settled nofun (fun other _ => Ended.unresolved settled other)
      (fun conn w' found _ => .of_found found) fun path w' library looked => ?_
    refine (safe_phase6Retry (fun below => ?_) looked.settled).mono
      fun conn w'' ended real => Ended.of_retry looked (ended real)
    exact absurd below (by rw [looked.count]; omega)
  | succ nested ih =>
    refine safe_acquirePass settled nofun (fun other _ => Ended.unresolved settled other)
      (fun conn w' found _ => .of_found found) fun path w' library looked => ?_
    refine (safe_phase6Retry (fun below w'' count retries settled gaveUp => ?_)
      looked.settled).mono fun conn w'' ended real => Ended.of_retry looked (ended real)
    have deeper : maxRetries ≤ w''.count + nested := by
      rw [count, looked.count]
      omega
    exact (ih settled deeper).mono fun conn w' ended real => by
      simpa [library] using ended real

/-- **A pass that excludes a connection does not return it**: at the limit, or if no retry
follows. -/
theorem safe_acquireOn_excluding (settled : w.reconnecting = false) (nonzero : conn ≠ 0) :
    Safe (watch (some conn)) (acquireOn maxRetries t nested dbPath conn) w fun result w' =>
      w'.real = true → maxRetries ≤ w.count ∨ w'.retries = w.retries → result ≠ conn := by
  have avoids : Avoids (some conn) conn := fun _ spared =>
    Option.mem_some.mp spared ▸ ⟨nonzero, rfl⟩
  have pass : ∀ again : Text → Prog ConnId,
      Safe (watch (some conn)) (acquirePass maxRetries again t dbPath conn) w fun result w' =>
        w'.real = true → maxRetries ≤ w.count ∨ w'.retries = w.retries → result ≠ conn := by
    intro again
    refine safe_acquirePass settled avoids (fun _ _ _ => nonzero.symm)
      (fun result w' found real _ => ?_) fun path w' _ looked => ?_
    · exact fun same => found.spares real conn rfl (congrArg some same)
    · refine then_op fun count => ?_
      by_cases truly : count = w'.count
      · subst truly
        split
        next below =>
          have below : w.count < maxRetries := looked.count ▸ below
          refine then_op fun _ => (safe_retried (n := w.retries) ?_).mono
            fun result w'' ended _ quiet => ended (quiet.resolve_left (by omega))
          simp [Watch.after, looked.retries]
        next => exact then_op fun _ _ _ => nonzero.symm
      · have unreal : (w'.after (some conn) (.aside .retryCountGet) count).real = false := by
          simp [Watch.after, truly]
        exact safe_unreal unreal
  cases nested with
  | zero | succ => exact pass _

end Acquisition

end PlexPostgres.Pool.Retry
