import PlexPostgres.Pool.Keeping

/-!
# The programs respect the terms

Every program a thread of the pool calls is safe: whatever its operations answer, it stores only
into slots it has claimed, keeps a connection it takes out of a slot in its hands until it
destroys it, and ends with nothing claimed and nothing in its hands.

Each `then_` lemma is one operation and what comes after it.
-/

namespace PlexPostgres.Pool

open Txn (ConnId DbId)
open Threads (Safe safe_bind)
open Threads.Prog (firstOf each)

variable {quiet : Prop} {t : Thread} {h : Hold} {α : Type} {ends : α → Hold → Prop}

/-! ### Single operations -/

variable {rest : Bool → Prog α}

section Operations

variable {i : ℕ} {conn : ConnId}

theorem then_loadState {rest : SlotState → Prog α}
    (safe : ∀ state,
      Safe (terms quiet t) (rest state) { h with grip := h.grip.seeState i state } ends) :
    Safe (terms quiet t) (loadState i >>= rest) h ends :=
  ⟨trivial, safe⟩

theorem then_loadOwner {rest : Option Thread → Prog α}
    (safe : ∀ owner, Safe (terms quiet t) (rest owner)
      { h with grip := h.grip.seeOwner t h.guarded i owner } ends) :
    Safe (terms quiet t) (loadOwner i >>= rest) h ends :=
  ⟨trivial, safe⟩

theorem then_loadConn {rest : ConnId → Prog α}
    (safe : ∀ conn, Safe (terms quiet t) (rest conn) { h with grip := h.grip.seeConn i conn }
      ends) :
    Safe (terms quiet t) (loadConn i >>= rest) h ends :=
  ⟨trivial, safe⟩

theorem then_swapConn {rest : ConnId → Prog α} (allowed : allows quiet t h (.swapConn i))
    (safe : ∀ conn : ConnId,
      Safe (terms quiet t) (rest conn) (after t h (.swapConn i) conn) ends) :
    Safe (terms quiet t) (swapConn i >>= rest) h ends :=
  ⟨allowed, safe⟩

theorem then_aside {what : Aside} {rest : what.Ans → Prog α}
    (safe : ∀ answer, Safe (terms quiet t) (rest answer) h ends) :
    Safe (terms quiet t) (aside what >>= rest) h ends :=
  ⟨trivial, safe⟩

theorem then_ask {query : Query} (safe : ∀ answer, Safe (terms quiet t) (rest answer) h ends) :
    Safe (terms quiet t) (ask query conn >>= rest) h ends := by
  unfold ask
  split
  · exact safe false
  · exact ⟨trivial, safe⟩

theorem then_work {what : Work} (holds : quiet → h.grip.Holds conn)
    (safe : ∀ answer, Safe (terms quiet t) (rest answer) h ends) :
    Safe (terms quiet t) (work what conn >>= rest) h ends := by
  refine ⟨?_, safe⟩
  cases what <;> first | exact holds | trivial

theorem then_poolSize {rest : ℕ → Prog α}
    (safe : ∀ size, Safe (terms quiet t) (rest size) h ends) :
    Safe (terms quiet t) (poolSize >>= rest) h ends :=
  safe_bind.mpr (then_aside fun _ => then_aside fun _ => safe _)

/-- A compare-and-exchange: what follows is safe whether it succeeds or not. -/
theorem then_casState {old new : SlotState} (allowed : allows quiet t h (.casState i old new))
    (succeeds : Safe (terms quiet t) (rest true) { h with grip := h.grip.swap i old new } ends)
    (fails : Safe (terms quiet t) (rest false) h ends) :
    Safe (terms quiet t) (perform (.casState i old new) >>= rest) h ends := by
  refine ⟨allowed, fun swapped => ?_⟩
  cases swapped with
  | true => exact succeeds
  | false => exact fails

end Operations

/-! ### What is done with a connection -/

section Connections

variable {conn : ConnId}

theorem then_stmtCacheClear {rest : Unit → Prog α}
    (safe : Safe (terms quiet t) (rest ()) h ends) :
    Safe (terms quiet t) (stmtCacheClear conn >>= rest) h ends := by
  refine safe_bind.mpr (Safe.onlyIf (fun _ => ?_) fun _ => safe)
  exact ⟨trivial, fun _ => safe⟩

theorem then_rollbackOpen {rest : Unit → Prog α} (holds : quiet → h.grip.Holds conn)
    (safe : Safe (terms quiet t) (rest ()) h ends) :
    Safe (terms quiet t) (rollbackOpen conn >>= rest) h ends := by
  refine safe_bind.mpr (then_ask fun txn => ?_)
  refine Safe.onlyIf (fun _ => ?_) fun _ => safe
  exact then_work holds fun _ => safe

theorem then_resetConn (holds : quiet → h.grip.Holds conn)
    (safe : ∀ ok, Safe (terms quiet t) (rest ok) h ends) :
    Safe (terms quiet t) (resetConn conn >>= rest) h ends := by
  refine safe_bind.mpr (then_ask fun socket => ?_)
  split
  · exact then_work holds fun ok => then_aside fun _ => safe ok
  · exact safe false

theorem then_reconnectConn (holds : quiet → h.grip.Holds conn)
    (safe : ∀ ok, Safe (terms quiet t) (rest ok) h ends) :
    Safe (terms quiet t) (reconnectConn conn >>= rest) h ends := by
  unfold reconnectConn
  refine safe_bind.mpr ?_
  split
  · exact safe false
  · exact then_aside fun _ => ⟨holds, safe⟩

end Connections

/-! ### What a program has between its steps -/

/-- **Nothing claimed, nothing in hand**, in an acquisition. -/
structure Free (h : Hold) : Prop where
  shared : h.grip.exclusive = none
  hands : h.hands = []
  unguarded : h.guarded = false

/-- How a phase ends: it continues with nothing claimed, or returns as a call does. -/
def Found (quiet : Prop) : AcquireDecision → Hold → Prop
  | none, h => Free h
  | some conn, h => Ends quiet conn h

theorem Free.idle : Free idle := ⟨rfl, rfl, rfl⟩

theorem Free.ends_null (free : Free h) : Ends quiet 0 h :=
  ⟨free.shared, free.hands, fun _ nonzero => absurd rfl nonzero⟩

variable {grip : Grip}

theorem Free.still (free : Free h) (still : h.grip.Still grip) :
    Free { h with grip } :=
  ⟨still.exclusive.trans free.shared, free.hands, free.unguarded⟩

theorem Free.seeState (free : Free h) (i : ℕ) (state : SlotState) :
    Free { h with grip := h.grip.seeState i state } :=
  free.still (Grip.still_seeState _ _ _)

theorem Free.seeOwner (free : Free h) (i : ℕ) (owner : Option Thread) :
    Free { h with grip := h.grip.seeOwner t h.guarded i owner } :=
  free.still (Grip.still_seeOwner _ _ _ _)

theorem Free.seeConn (free : Free h) (i : ℕ) (conn : ConnId) :
    Free { h with grip := h.grip.seeConn i conn } :=
  free.still (Grip.still_seeConn _ _ _)

/-- A slot seen READY and then seen to be one's own is one's own. -/
theorem Grip.seen_mine (shared : grip.exclusive = none) (guarded : Bool) (i : ℕ) :
    (grip.seeState i .ready).seeOwner t guarded i (some t) = .mine i none := by
  cases grip with
  | mine j known =>
    by_cases same : j = i
    · simp [Grip.seeState, Grip.seeOwner, same]
    · simp [Grip.seeState, Grip.seeOwner, same]
  | leaving | reserved | reconnecting => cases shared
  | _ => simp [Grip.seeState, Grip.seeOwner]

/-- The connection of a slot of one's own, once it is read. -/
theorem Grip.seen_conn {i : ℕ} (conn : ConnId) :
    (Grip.mine i none).seeConn i conn = .mine i (some conn) := by
  simp [Grip.seeConn]

/-! ### Phase 1 -/

section Phase1

variable {ctx : AcquireCtx} {i : ℕ} {conn : ConnId}

/-- A slot that was published by this thread is returned. -/
theorem safe_cacheSlot (mine : h.grip = .mine i (some conn)) (hands : h.hands = []) :
    Safe (terms quiet t) (cacheSlot i conn) h (Found quiet) := by
  unfold cacheSlot
  refine then_aside fun generation => then_aside fun _ => ?_
  exact ⟨by rw [mine]; rfl, hands, fun _ _ => ⟨i, mine⟩⟩

/-- A slot seen READY is returned if it is this thread's own and its connection may be used. -/
theorem safe_readySlot (free : Free h) {lost : ConnId → Prog AcquireDecision}
    (safe : ∀ conn, Free { h with grip := .mine i (some conn) } →
      Safe (terms quiet ctx.currentThread)
      (lost conn) { h with grip := .mine i (some conn) } (Found quiet)) :
    Safe (terms quiet ctx.currentThread)
      (do
        let owner ← loadOwner i
        if threadsEqual owner ctx.currentThread then
          let conn ← loadConn i
          if conn = ctx.excludeConn then pure none
          else if ← ask .connOk conn then
            if ← ask .streamingActive conn then pure none
            else cacheExistingReadySlot ctx i conn
          else lost conn
        else pure none)
      { h with grip := h.grip.seeState i .ready } (Found quiet) := by
  refine then_loadOwner fun owner => ?_
  split
  next own =>
    obtain rfl : owner = some ctx.currentThread := by simpa [threadsEqual] using own
    have mine := Grip.seen_mine (t := ctx.currentThread) free.shared h.guarded i
    have seen := (free.seeState i .ready).seeOwner (t := ctx.currentThread) i
      (some ctx.currentThread)
    refine then_loadConn fun conn => ?_
    have seenConn := seen.seeConn i conn
    simp only [mine, Grip.seen_conn] at seenConn ⊢
    split
    · exact seenConn
    · refine then_ask fun ok => ?_
      split
      · refine then_ask fun streaming => ?_
        split
        · exact seenConn
        · exact then_aside fun _ => safe_cacheSlot rfl free.hands
      · exact safe conn seenConn
  · exact (free.seeState i .ready).seeOwner i owner

theorem safe_cachedSlot (free : Free h) (generation : ℕ) :
    Safe (terms quiet ctx.currentThread) (cachedSlot ctx i generation) h (Found quiet) := by
  unfold cachedSlot
  split
  · refine then_loadState fun state => ?_
    split
    next isReady =>
      subst isReady
      refine then_aside fun current => ?_
      split
      · exact safe_readySlot free fun conn seen => seen
      · exact free.seeState i .ready
    · exact free.seeState i state
  · exact free

/-- A claimed slot is published and returned. -/
theorem safe_markReadyAndCacheSlot
    (allowed : allows quiet t h (.storeState i .ready))
    (mine : h.grip.publish .ready = .mine i (some conn)) (hands : h.hands = []) :
    Safe (terms quiet t) (markReadyAndCacheSlot i conn) h (Found quiet) :=
  ⟨allowed, fun _ => safe_cacheSlot mine hands⟩

theorem safe_existingReadySlot (free : Free h) :
    Safe (terms quiet ctx.currentThread) (existingReadySlot ctx i) h (Found quiet) := by
  unfold existingReadySlot
  refine then_loadState fun state => ?_
  split
  next isReady =>
    subst isReady
    refine safe_readySlot free fun conn seen => ?_
    refine then_casState ⟨rfl, .inr (.inl ⟨rfl, rfl, fun _ => ⟨_, rfl⟩⟩)⟩ ?_ seen
    refine then_stmtCacheClear ?_
    have holds : Grip.Holds conn ((Grip.mine i (some conn)).swap i .ready .reconnecting) := by
      simp [Grip.swap, Grip.mineAt, Grip.Holds]
    refine then_reconnectConn (fun _ => holds) fun reconnected => ?_
    split
    · refine safe_markReadyAndCacheSlot ⟨rfl, .inl rfl⟩ ?_ free.hands
      simp [Grip.swap, Grip.mineAt, Grip.publish]
    · exact ⟨⟨rfl, .inr rfl⟩, fun _ => Free.ends_null ⟨rfl, free.hands, free.unguarded⟩⟩
  · exact free.seeState i state

theorem found_fastPath (free : Free h) :
    Safe (terms quiet ctx.currentThread) (fastPath ctx) h (Found quiet) := by
  refine then_aside fun cached => ?_
  cases cached with
  | none => exact free
  | some entry =>
    refine (safe_cachedSlot free entry.2).bind fun found h ended => ?_
    cases found with
    | some conn => exact ended
    | none => exact then_aside fun _ => ended

end Phase1

/-! ### Phases 2 to 5 -/

section Claims

variable {ctx : AcquireCtx} {i : ℕ} {conn : ConnId}

/-- **A claim against a sampled connection**: what follows has the slot, with that connection, or
nothing. -/
theorem then_tryClaimFreeWithConn {expected : ConnId} (free : Free h)
    (succeeds : Safe (terms quiet t) (rest true)
      { h with grip := .reserved i (some expected) false true } ends)
    (fails : ∀ h', Free h' → Safe (terms quiet t) (rest false) h' ends) :
    Safe (terms quiet t) (tryClaimFreeWithConn i expected >>= rest) h ends := by
  refine safe_bind.mpr
    (then_casState ⟨free.shared, .inl ⟨.inl rfl, rfl, free.unguarded⟩⟩ ?_ (fails h free))
  refine then_loadConn fun conn => ?_
  have seen : ((h.grip.swap i .free .reserved).seeConn i conn) =
      .reserved i (some conn) false true := by
    simp [Grip.swap, Grip.seeConn]
  simp only [seen]
  split
  next same => exact same ▸ succeeds
  · exact ⟨⟨rfl, .inl ⟨rfl, rfl⟩⟩, fun _ => fails _ ⟨rfl, free.hands, free.unguarded⟩⟩

/-- The owner of a claimed slot is written before anything else. -/
theorem then_claimSlotForThread {known : Option ConnId} {owned clean : Bool} {rest : Unit → Prog α}
    (claimed : h.grip = .reserved i known owned clean)
    (safe : Safe (terms quiet ctx.currentThread) (rest ())
      { h with grip := .reserved i known true clean } ends) :
    Safe (terms quiet ctx.currentThread) (claimSlotForThread ctx i >>= rest) h ends := by
  have owned : (terms quiet ctx.currentThread).after h (.storeOwner i (some ctx.currentThread)) () =
      { h with grip := .reserved i known true clean } := by
    simp [terms, after, claimed, Grip.own]
  refine safe_bind.mpr ⟨?_, fun _ => then_aside fun _ => ⟨trivial, fun _ => ?_⟩⟩
  · simp [terms, allows, claimed]
  · rw [owned]
    exact safe

theorem safe_reuseSlot (free : Free h) :
    Safe (terms quiet ctx.currentThread) (reuseSlot ctx i) h (Found quiet) := by
  unfold reuseSlot
  refine then_loadConn fun conn => ?_
  have seen := free.seeConn i conn
  split
  · exact seen
  · refine then_ask fun streaming => ?_
    split
    · exact seen
    · refine then_tryClaimFreeWithConn seen ?_ fun h' free => free
      refine then_claimSlotForThread rfl ?_
      have holds : quiet → Grip.Holds conn (.reserved i (some conn) true true) := fun _ => rfl
      have failed : Safe (terms quiet ctx.currentThread) (do markError i; pure none)
          { h with grip := .reserved i (some conn) true true } (Found quiet) :=
        ⟨⟨rfl, .inr (.inr rfl)⟩, fun _ => ⟨rfl, free.hands, free.unguarded⟩⟩
      have published : Safe (terms quiet ctx.currentThread) (markReadyAndCacheSlot i conn)
          { h with grip := .reserved i (some conn) true true } (Found quiet) :=
        safe_markReadyAndCacheSlot ⟨rfl, .inr (.inl ⟨rfl, rfl, rfl⟩)⟩ rfl free.hands
      refine then_rollbackOpen holds (then_stmtCacheClear (then_resetConn holds fun ok => ?_))
      split
      · exact published
      · refine then_stmtCacheClear (then_reconnectConn holds fun reconnected => ?_)
        split
        · refine then_ask fun active => ?_
          split
          · exact published
          · exact failed
        · exact failed

/-- **A connection is destroyed** by the thread that has it in its hands. -/
theorem safe_destroyPoolConnection {ends : Unit → Hold → Prop} (held : conn ≠ 0 → conn ∈ h.hands)
    (ended : ends ()
      (if conn = 0 then h
        else { h with
          hands := h.hands.erase conn, fresh := if conn = h.fresh then 0 else h.fresh })) :
    Safe (terms quiet t) (destroyPoolConnection conn) h ends := by
  unfold destroyPoolConnection
  split
  next zero => simpa [zero] using ended
  next nonzero =>
    rw [if_neg nonzero] at ended
    exact then_aside fun _ => ⟨trivial, fun _ => ⟨held nonzero, fun _ => ended⟩⟩

/-- An empty slot this thread has claimed and owns. -/
def emptySlot (i : ℕ) (hands : List ConnId) (fresh : ConnId) : Hold :=
  ⟨.reserved i (some 0) true true, hands, fresh, false⟩

/-- A slot whose connection could not be made is given back, empty. -/
theorem safe_releaseFailedNewConnection {hands : List ConnId} {fresh : ConnId}
    (held : hands = if conn = 0 then [] else [conn]) {ends : Unit → Hold → Prop}
    (free : ∀ h', Free h' → ends () h') :
    Safe (terms quiet t) (releaseFailedNewConnection i conn) (emptySlot i hands fresh)
      ends := by
  have givenBack : ∀ fresh, Safe (terms quiet t)
      (do storeConn i 0; storeOwner i none; release i) (emptySlot i [] fresh) ends := by
    intro fresh
    refine ⟨⟨rfl, rfl, .inl rfl⟩,
      fun _ => ⟨⟨rfl, .inr rfl⟩, fun _ => ⟨⟨rfl, .inr rfl⟩, fun _ => ?_⟩⟩⟩
    exact ⟨⟨rfl, .inl ⟨rfl, rfl⟩⟩, fun _ => free _ ⟨rfl, rfl, rfl⟩⟩
  refine safe_bind.mpr
    (safe_destroyPoolConnection (fun nonzero => by simp [emptySlot, held, nonzero]) ?_)
  split
  next zero =>
    rw [if_pos zero] at held
    exact held ▸ givenBack fresh
  next nonzero =>
    rw [if_neg nonzero] at held
    subst held
    simp only [emptySlot, List.erase_cons_head]
    exact givenBack _

/-- **An empty slot that was claimed is filled**, or given back. -/
theorem safe_fillSlot {fresh : ConnId} :
    Safe (terms quiet t) (fillSlot i) (emptySlot i [] fresh) (Found quiet) := by
  refine safe_bind.mpr (safe_bind.mpr ⟨trivial, fun made => ?_⟩)
  obtain ⟨conn, active⟩ := made
  have created : (terms quiet t).after (emptySlot i [] fresh) .create (conn, active) =
      if conn = 0 then emptySlot i [] fresh else emptySlot i [conn] conn := rfl
  rw [created]
  by_cases works : conn ≠ 0 ∧ active = true
  · rw [if_neg works.1]
    refine safe_bind.mpr (Safe.onlyIf (fun _ => ⟨trivial, fun _ => ?_⟩)
      fun fails => absurd works fails)
    show Safe _ (if conn ≠ 0 ∧ active = true then _ else _) (emptySlot i [conn] conn) _
    rw [if_pos works]
    refine ⟨⟨rfl, rfl, .inr rfl⟩, fun _ => ?_⟩
    exact safe_markReadyAndCacheSlot ⟨rfl, .inr (.inl ⟨rfl, rfl, rfl⟩)⟩ rfl
      (List.erase_cons_head conn [])
  · refine safe_bind.mpr (Safe.onlyIf (fun made => absurd made works) fun _ => ?_)
    show Safe _ (if conn ≠ 0 ∧ active = true then _ else _) _ _
    rw [if_neg works]
    refine safe_bind.mpr ?_
    by_cases zero : conn = 0
    · rw [if_pos zero]
      exact safe_releaseFailedNewConnection (by simp [zero]) fun h' free => free
    · rw [if_neg zero]
      exact safe_releaseFailedNewConnection (by simp [zero]) fun h' free => free

theorem safe_filled (hands : h.hands = []) (unguarded : h.guarded = false) :
    Safe (terms quiet t) (fillSlot i) { h with grip := .reserved i (some 0) true true }
      (Found quiet) := by
  rw [hands, unguarded]
  exact safe_fillSlot

theorem safe_createInSlot (free : Free h) :
    Safe (terms quiet ctx.currentThread) (createInSlot ctx i) h (Found quiet) := by
  unfold createInSlot
  refine then_loadConn fun conn => ?_
  have seen := free.seeConn i conn
  split
  · exact seen
  · refine then_tryClaimFreeWithConn seen ?_ fun h' free => free
    exact then_claimSlotForThread rfl (safe_filled free.hands free.unguarded)

theorem safe_recoverSlot (free : Free h) :
    Safe (terms quiet ctx.currentThread) (recoverSlot ctx i) h (Found quiet) := by
  unfold recoverSlot
  refine then_casState ⟨free.shared, .inl ⟨.inr rfl, rfl, free.unguarded⟩⟩ ?_ free
  refine then_claimSlotForThread rfl (then_swapConn rfl fun oldConn => ?_)
  refine safe_bind.mpr (safe_destroyPoolConnection (fun nonzero => by simp [after, nonzero]) ?_)
  by_cases zero : oldConn = 0
  · simp only [after, if_pos zero]
    exact safe_filled free.hands free.unguarded
  · simp only [after, if_neg zero, free.hands, free.unguarded, List.nil_append,
      List.erase_cons_head]
    exact safe_fillSlot

theorem safe_phase5 (free : Free h) :
    Safe (terms quiet ctx.currentThread) (phase5Autogrow ctx) h (Found quiet) := by
  unfold phase5Autogrow
  refine then_aside fun currentSize => then_aside fun runtimeMax => ?_
  split
  · exact free
  · refine then_aside fun grown => ?_
    split
    · refine then_aside fun slotsLen => ?_
      split
      · exact free
      · refine then_tryClaimFreeWithConn free ?_ fun h' free => free
        exact then_claimSlotForThread rfl (safe_filled free.hands free.unguarded)
    · exact free

end Claims

/-! ### Shrinking -/

section Shrinking

variable {ctx : AcquireCtx} {i : ℕ}

theorem safe_reclaimZombie (free : Free h) (idleTimeout : ℕ) :
    Safe (terms quiet t) (reclaimZombie ctx idleTimeout i) h fun _ h => Free h := by
  unfold reclaimZombie
  refine then_loadState fun state => ?_
  have seen := free.seeState i state
  split
  · refine then_aside fun lastUsed => then_aside fun references => ?_
    split
    · refine then_loadConn fun conn => ?_
      have seenConn := seen.seeConn i conn
      refine then_ask fun streaming => ?_
      split
      · exact seenConn
      · exact then_casState ⟨seenConn.shared, .inr (.inr ⟨rfl, rfl⟩)⟩
          ⟨rfl, free.hands, free.unguarded⟩ seenConn
    · exact seen
  · exact seen

/-- What the reaper has in its hands are the connections it has collected. -/
structure Collected (found : List ConnId) (h : Hold) : Prop where
  shared : h.grip.exclusive = none
  hands : h.hands = found
  unguarded : h.guarded = false
  nonzero : ∀ conn ∈ found, conn ≠ 0

theorem Collected.still {found : List ConnId} (collected : Collected found h)
    (still : h.grip.Still grip) :
    Collected (found ++ (none : Option ConnId).toList) { h with grip } :=
  ⟨still.exclusive.trans collected.shared, by simpa using collected.hands, collected.unguarded,
    by simpa using collected.nonzero⟩

theorem safe_reapSlot {found : List ConnId} (collected : Collected found h) (now : ℤ)
    (timeout : ℕ) :
    Safe (terms quiet t) (reapSlot now timeout i) h fun pushed h =>
      Collected (found ++ pushed.toList) h := by
  unfold reapSlot
  refine then_loadState fun state => ?_
  have seen := Grip.still_seeState h.grip i state
  split
  · exact collected.still seen
  · refine then_loadConn fun conn => ?_
    have seenConn := Grip.still_seeConn (h.grip.seeState i state) i conn
    have still : h.grip.Still ((h.grip.seeState i state).seeConn i conn) :=
      ⟨seenConn.claims.trans seen.claims, seenConn.exclusive.trans seen.exclusive,
        fun j gone => seenConn.leaving j (seen.leaving j gone)⟩
    split
    · exact collected.still still
    · refine then_aside fun lastUsed => ?_
      split
      · exact collected.still still
      · refine then_aside fun references => ?_
        split
        · exact collected.still still
        · refine then_casState
            ⟨still.exclusive.trans collected.shared, .inl ⟨.inl rfl, rfl, collected.unguarded⟩⟩ ?_
            (collected.still still)
          refine then_aside fun _ => then_swapConn rfl fun taken => ⟨⟨rfl, .inr rfl⟩, fun _ =>
            ⟨⟨rfl, .inl ⟨rfl, rfl⟩⟩, fun _ => ?_⟩⟩
          show Safe _ (if taken ≠ 0 then _ else _) _ _
          by_cases zero : taken = 0
          · rw [if_neg (not_not.mpr zero)]
            exact ⟨rfl, by simpa [terms, after, zero] using collected.hands, collected.unguarded,
              by simpa using collected.nonzero⟩
          · rw [if_pos zero]
            exact ⟨rfl, by simp [terms, after, zero, collected.hands], collected.unguarded,
              List.forall_mem_append.mpr ⟨collected.nonzero, List.forall_mem_singleton.mpr zero⟩⟩

theorem safe_reclaimZombiesAndReap (free : Free h) :
    Safe (terms quiet t) (reclaimZombiesAndReap ctx) h fun _ h => Free h := by
  unfold reclaimZombiesAndReap
  refine then_aside fun idleTimeout => ?_
  have zombies : Safe (terms quiet t)
      (each (List.range ctx.poolSize) (reclaimZombie ctx idleTimeout)) h fun _ h => Free h :=
    Safe.each (fun _ => Free) (fun _ _ _ _ free => safe_reclaimZombie free idleTimeout) free
  refine zombies.bind fun _ h free => then_aside fun lastReap => ?_
  split
  · exact free
  · refine then_aside fun swapped => ?_
    split
    · have reaped : Safe (terms quiet t) (reapIdle ctx.now) h fun found h => Collected found h := by
        refine then_aside fun timeout => then_poolSize fun size => ?_
        exact Safe.gather Collected
          (fun _ _ _ _ collected => safe_reapSlot collected ctx.now timeout)
          ⟨free.shared, free.hands, free.unguarded, by simp⟩
      refine reaped.bind fun toDestroy h collected => ?_
      refine Safe.mono (Safe.each Collected (fun conn _ rest h collected => ?_)
        collected) fun _ _ collected => ⟨collected.shared, collected.hands, collected.unguarded⟩
      have nonzero := collected.nonzero conn (by simp)
      refine safe_destroyPoolConnection (fun _ => by simp [collected.hands]) ?_
      rw [if_neg nonzero]
      exact ⟨collected.shared, by simp [collected.hands], collected.unguarded,
        fun other held => collected.nonzero other (List.mem_cons_of_mem conn held)⟩
    · exact free

end Shrinking

/-! ### The calls -/

section Calls

theorem respecting_parts (ctx : AcquireCtx) :
    Parts (terms quiet ctx.currentThread) (Found quiet) ctx where
  fast _ := found_fastPath
  ready _ _ _ := safe_existingReadySlot
  shrink _ := safe_reclaimZombiesAndReap
  reuse _ _ _ := safe_reuseSlot
  create _ _ _ := safe_createInSlot
  recover _ _ _ := safe_recoverSlot
  grow _ := safe_phase5

variable {maxRetries : ℕ} {dbPath : Text} {excludeConn : ConnId}

/-- **An acquisition respects the terms.** -/
theorem safe_acquireOn {nested : ℕ} (free : Free h) :
    Safe (terms quiet t) (acquireOn maxRetries t nested dbPath excludeConn) h (Ends quiet) :=
  safe_acquireOn_of (Found quiet) (fun ctx same => same ▸ respecting_parts ctx)
    (fun _ _ _ _ stands => ⟨trivial, fun _ => stands⟩) (fun _ free => free.ends_null) free

/-- What a call hands out stays its own while connections are only looked at. -/
theorem Ends.seeConn {conn : ConnId} (ended : Ends quiet conn h) (i : ℕ) (found : ConnId) :
    Ends quiet conn { h with grip := h.grip.seeConn i found } := by
  refine ⟨(Grip.still_seeConn _ _ _).exclusive.trans ended.shared, ended.hands, ?_⟩
  intro isQuiet nonzero
  obtain ⟨k, mine⟩ := ended.mine isQuiet nonzero
  refine ⟨k, ?_⟩
  rw [mine]
  simp only [Grip.seeConn, Option.getD_some, ite_self]

/-- **Using a handle respects the terms.** -/
theorem safe_poolFindConnectionForDb {db : DbId} (free : Free h) :
    Safe (terms quiet t) (poolFindConnectionForDb maxRetries t db dbPath) h (Ends quiet) := by
  unfold poolFindConnectionForDb
  split
  · refine (safe_acquireOn free).bind fun conn h ended => then_ask fun active => ?_
    split
    · refine then_poolSize fun size => ?_
      have tracked : Safe (terms quiet t) (firstOf (List.range size) (trackHandle db conn)) h
          fun _ h => Ends quiet conn h := by
        refine Safe.firstOf (fun i _ h ended => ?_) ended
        refine then_loadConn fun held => ?_
        split
        · exact then_aside fun _ => ended.seeConn i held
        · exact ended.seeConn i held
      refine tracked.bind fun _ h ended => then_aside fun cached => ?_
      cases cached with
      | none => exact ended
      | some entry => exact then_aside fun _ => ended
    · exact ⟨ended.shared, ended.hands, fun _ nonzero => absurd rfl nonzero⟩
  · exact free.ends_null

end Calls

/-! ### Closing a handle and checking a connection -/

section Guarded

variable {i : ℕ} {conn : ConnId}

/-- **Nothing claimed, nothing in hand**, in a call that reads the owner of a slot first; at most a
connection was looked at. -/
structure Looking (h : Hold) : Prop where
  looked : h.grip = .loose ∨ ∃ i conn, h.grip = .sampled i conn
  hands : h.hands = []
  guarded : h.guarded = true

theorem Looking.shared (looking : Looking h) : h.grip.exclusive = none := by
  rcases looking.looked with loose | ⟨i, conn, sampled⟩
  · rw [loose]
    rfl
  · rw [sampled]
    rfl

theorem Looking.ends_null (looking : Looking h) : Ends quiet 0 h :=
  ⟨looking.shared, looking.hands, fun _ nonzero => absurd rfl nonzero⟩

theorem Looking.seeConn (looking : Looking h) :
    h.grip.seeConn i conn = .sampled i conn := by
  rcases looking.looked with loose | ⟨j, other, sampled⟩
  · rw [loose]
    rfl
  · rw [sampled]
    rfl

theorem Looking.loose (looking : Looking h) : Looking { h with grip := .loose } :=
  ⟨.inl rfl, looking.hands, looking.guarded⟩

/-- Settling a connection needs the grip on it and leaves it. -/
theorem then_settle {rest : Unit → Prog α} (holds : quiet → h.grip.Holds conn)
    (safe : Safe (terms quiet t) (rest ()) h ends) :
    Safe (terms quiet t) (settleConnectionBeforeRelease conn >>= rest) h ends := by
  refine safe_bind.mpr ?_
  unfold settleConnectionBeforeRelease
  split
  · exact safe
  · refine then_ask fun streaming => safe_bind.mpr ?_
    have settled : Safe (terms quiet t)
        (do rollbackOpen conn; aside (.forgetConnection conn)) h
        (fun _ h => Safe (terms quiet t) (rest ()) h ends) :=
      then_rollbackOpen holds ⟨trivial, fun _ => safe⟩
    refine Safe.onlyIf (fun _ => ?_) fun _ => settled
    exact then_work holds fun _ => settled

theorem safe_giveBack (isQuiet : quiet) (looking : Looking h) :
    Safe (terms quiet t) (giveBack t i) h fun _ h => Ends quiet 0 h := by
  unfold giveBack
  refine then_poolSize fun size => ?_
  split
  · refine then_loadOwner fun owner => ?_
    split
    next own =>
      obtain rfl : owner = some t := by simpa [threadsEqual] using own
      have mine : ∃ known, h.grip.seeOwner t h.guarded i (some t) = .mine i known := by
        rw [looking.guarded]
        rcases looking.looked with loose | ⟨j, other, sampled⟩
        · exact ⟨none, by simp [loose, Grip.seeOwner]⟩
        · exact ⟨_, by rw [sampled]; simp only [Grip.seeOwner, and_self, if_true]; rfl⟩
      obtain ⟨known, mine⟩ := mine
      rw [mine]
      refine then_loadState fun state => ?_
      have still : (Grip.mine i known).seeState i state = .mine i none := by
        simp [Grip.seeState]
      simp only [still]
      split
      · refine then_loadConn fun conn => ?_
        simp only [Grip.seen_conn]
        refine then_settle (fun _ => rfl) ?_
        exact ⟨⟨isQuiet, rfl, rfl⟩, fun _ => ⟨⟨rfl, rfl⟩, fun _ => looking.loose.ends_null⟩⟩
      · exact ⟨rfl, looking.hands, fun _ nonzero => absurd rfl nonzero⟩
    next other =>
      refine ⟨(Grip.still_seeOwner _ _ _ _).exclusive.trans looking.shared,
        looking.hands, fun _ nonzero => absurd rfl nonzero⟩
  · exact looking.ends_null

/-- **Closing a handle respects the terms**, in a quiet pool. -/
theorem safe_close (isQuiet : quiet) {db : DbId} (looking : Looking h) :
    Safe (terms quiet t) (do poolReleaseForDbInner t db; pure 0) h (Ends quiet) := by
  refine safe_bind.mpr (then_aside fun _ => then_aside fun slot => ?_)
  have given : Safe (terms quiet t) (giveBackMapped t slot) h fun _ h => Ends quiet 0 h := by
    cases slot with
    | none => exact looking.ends_null
    | some i => exact safe_giveBack isQuiet looking
  exact given.bind fun _ h ended => ⟨trivial, fun _ => ended⟩

/-- How the check of a slot ends: the connection was there, or is still looked for. -/
def Checked (quiet : Prop) : Option Bool → Hold → Prop
  | some _, h => Ends quiet 0 h
  | none, h => Looking h

theorem safe_checkHealthSlot (looking : Looking h) :
    Safe (terms quiet t) (checkHealthSlot t conn i) h (Checked quiet) := by
  unfold checkHealthSlot
  refine then_loadConn fun held => ?_
  simp only [looking.seeConn]
  split
  · exact ⟨.inr ⟨i, held, rfl⟩, looking.hands, looking.guarded⟩
  next same =>
    obtain rfl : held = conn := not_not.mp same
    refine then_loadOwner fun owner => ?_
    split
    next own =>
      obtain rfl : owner = some t := by simpa [threadsEqual] using own
      have mine : (Grip.sampled i held).seeOwner t h.guarded i (some t) =
          .mine i (some held) := by
        simp [Grip.seeOwner, looking.guarded]
      simp only [mine]
      have ended : ∀ {grip : Grip}, grip.exclusive = none → Ends quiet 0 { h with grip } :=
        fun shared => ⟨shared, looking.hands, fun _ nonzero => absurd rfl nonzero⟩
      refine then_casState ⟨rfl, .inr (.inl ⟨rfl, rfl, fun _ => ⟨_, rfl⟩⟩)⟩ ?_ (ended rfl)
      have claimed : (Grip.mine i (some held)).swap i .ready .reconnecting =
          .reconnecting i (some held) := by
        simp [Grip.swap, Grip.mineAt]
      simp only [claimed]
      have republished : Safe (terms quiet t) (republish i)
          { h with grip := .reconnecting i (some held) } fun _ h => Ends quiet 0 h :=
        then_aside fun _ => then_aside fun _ => ⟨⟨rfl, .inl rfl⟩, fun _ => ended rfl⟩
      refine Safe.bind (?_ : Safe (terms quiet t) (restoreSlot held i) _
        fun _ h => Ends quiet 0 h) fun _ h ended => ended
      refine then_stmtCacheClear (then_resetConn (fun _ => rfl) fun reset => ?_)
      split
      · exact republished
      · refine then_reconnectConn (fun _ => rfl) fun reconnected => ?_
        split
        · exact republished
        · exact ⟨⟨rfl, .inr rfl⟩, fun _ => ended rfl⟩
    next other =>
      have notOwn : owner ≠ some t := by simpa [threadsEqual] using other
      refine ⟨.inl ?_, looking.hands, looking.guarded⟩
      simp [Grip.seeOwner, notOwn]

/-- **A health check respects the terms.** -/
theorem safe_checkHealth (looking : Looking h) :
    Safe (terms quiet t) (do let _ ← poolCheckHealthInner t conn; pure 0) h (Ends quiet) := by
  refine safe_bind.mpr ?_
  unfold poolCheckHealthInner
  split
  · exact looking.ends_null
  · refine then_ask fun ok => ?_
    split
    · exact looking.ends_null
    · refine then_poolSize fun size => ?_
      have searched : Safe (terms quiet t)
          (firstOf (List.range size) (checkHealthSlot t conn)) h (Checked quiet) :=
        Safe.firstOf (fun _ _ _ => safe_checkHealthSlot) looking
      refine searched.bind fun found h ended => ?_
      cases found with
      | some _ => exact ended
      | none => exact ended.ends_null

end Guarded

end PlexPostgres.Pool
