import PlexPostgres.Library.Watching
import PlexPostgres.Pool.Handles

/-!
# One slot at a time

The phases of an acquisition, the shrinking pass and the calls of a handle go over the slots one by
one.  What they do at a slot touches that slot and no other, reads no size and looks no slot up in
the thread's cache: so whatever depends only on which slots are touched is settled by the bounds of
the loops.  Most of it also leaves alone what decides about a retry.
-/

namespace PlexPostgres.Pool

open Txn (ConnId DbId)
open Threads (Performs)

/-- The slot of the array an operation accesses. -/
def Op.slot : Op → Option ℕ
  | .loadState i | .storeState i _ | .casState i _ _ | .loadOwner i | .storeOwner i _ | .loadConn i
  | .storeConn i _ | .swapConn i => some i
  | .aside (.loadLastUsed i) | .aside (.storeLastUsed i _) | .aside (.loadGeneration i)
  | .aside (.bumpGeneration i) => some i
  | .create | .destroy _ | .ask _ _ | .work _ _ | .aside _ => none

/-- **The operation accesses no slot but `i`**; it reads no size, no cache and no counter. -/
def AtSlot (i : ℕ) : Op → Prop
  | .loadState j | .storeState j _ | .casState j _ _ | .loadOwner j | .storeOwner j _ | .loadConn j
  | .storeConn j _ | .swapConn j => j = i
  | .aside (.loadLastUsed j) | .aside (.storeLastUsed j _) | .aside (.loadGeneration j)
  | .aside (.bumpGeneration j) => j = i
  | .create | .destroy _ | .ask _ _ | .work _ _ => True
  | .aside (.noteLive _) | .aside (.forgetLive _) | .aside (.forgetConnection _)
  | .aside (.references _) | .aside (.cacheSet _ _ _) | .aside .clock | .aside (.assign _ _) => True
  | .aside _ => False

theorem AtSlot.slot {i j : ℕ} {op : Op} (at' : AtSlot i op) (accesses : op.slot = some j) :
    j = i := by
  cases op with
  | aside what => cases what <;> first | exact Option.some.inj accesses ▸ at' | cases accesses
  | create | destroy | ask | work => cases accesses
  | _ => exact Option.some.inj accesses ▸ at'

/-! ### Single operations -/

section Operations

variable {α : Type} {only : Op → Prop} {results : α → Prop} {conn : ConnId}

theorem performs_op {op : Op} {rest : op.Ans → Prog α} (fits : only op)
    (performs : ∀ answer, Performs only (rest answer) results) :
    Performs only (perform op >>= rest) results :=
  ⟨fits, performs⟩

theorem performs_ask {query : Query} {rest : Bool → Prog α} (fits : only (.ask query conn))
    (performs : ∀ answer, (answer = true → conn ≠ 0) → Performs only (rest answer) results) :
    Performs only (ask query conn >>= rest) results := by
  unfold ask
  split
  · exact performs false (by simp)
  next nonzero => exact ⟨fits, fun answer => performs answer fun _ => nonzero⟩

/-- A path that names the library is resolved, and to a path that names it. -/
theorem performs_resolveSelectedPoolPath {dbPath : Text} (fits : only (.aside .loadLibraryPath)) :
    Performs only (resolveSelectedPoolPath dbPath) fun selected =>
      (selected = none → isLibraryDb dbPath = false) ∧
        ∀ path, selected = some path → isLibraryDb path = true := by
  have resolved (cached : Option Text) :
      ((selectLibraryPoolPath dbPath cached).filter isLibraryDb = none →
          isLibraryDb dbPath = false) ∧
        ∀ path, (selectLibraryPoolPath dbPath cached).filter isLibraryDb = some path →
          isLibraryDb path = true := by
    refine ⟨fun unresolved => ?_, fun path selected => (Option.filter_eq_some_iff.1 selected).2⟩
    by_contra library
    have library : isLibraryDb dbPath = true := by simpa using library
    rw [selectLibraryPoolPath, if_pos library, Option.filter_some, if_pos library] at unresolved
    cases unresolved
  rw [resolveSelectedPoolPath_eq]
  split
  · exact performs_op fits resolved
  · exact resolved none

end Operations

/-! ### What the operations leave alone -/

/-- The operation reads or changes nothing that is watched of the retries. -/
def Retry.Plain : Op → Prop
  | .aside .retryCountGet | .aside (.retryCountSet _) | .create | .storeState _ _ => False
  | .casState _ _ new => new ≠ .reconnecting
  | _ => True

/-- Neither does a store of a state, as long as no slot is being reconnected. -/
def Retry.Quiet (op : Op) : Prop := Plain op ∨ ∃ i state, op = .storeState i state

/-- The operation looks no slot up in the thread's cache. -/
def NoLook : Op → Prop
  | .aside (.cacheGet _) => False
  | _ => True

/-- At the slot, and nothing that is watched of the retries changes. -/
def PlainAt (i : ℕ) (op : Op) : Prop := AtSlot i op ∧ Retry.Plain op

/-- The same, or the store of the slot's state. -/
def QuietAt (i : ℕ) (op : Op) : Prop := AtSlot i op ∧ Retry.Quiet op

section Alphabets

variable {i : ℕ} {op : Op} {α : Type} {p : Prog α} {results : α → Prop}

theorem AtSlot.noLook (at' : AtSlot i op) : NoLook op := by
  cases op with
  | aside what => cases what <;> trivial
  | _ => trivial

theorem NoLook.of_atSlot (performs : Performs (AtSlot i) p results) : Performs NoLook p results :=
  performs.mono (fun _ at' => at'.noLook) fun _ ended => ended

theorem quietAt_storeState {state : SlotState} : QuietAt i (.storeState i state) :=
  ⟨rfl, .inr ⟨i, state, rfl⟩⟩

theorem QuietAt.of_plain (performs : Performs (PlainAt i) p results) :
    Performs (QuietAt i) p results :=
  performs.mono (fun _ plain => ⟨plain.1, .inl plain.2⟩) fun _ ended => ended

theorem AtSlot.of_quiet (performs : Performs (QuietAt i) p results) :
    Performs (AtSlot i) p fun _ => True :=
  performs.mono (fun _ quiet => quiet.1) fun _ _ => trivial

theorem AtSlot.of_plain (performs : Performs (PlainAt i) p results) :
    Performs (AtSlot i) p fun _ => True :=
  AtSlot.of_quiet (QuietAt.of_plain performs)

end Alphabets

/-! ### What is done at a slot -/

section Slots

variable {i : ℕ} {conn : ConnId} {ctx : AcquireCtx}

theorem plainAt_stmtCacheClear : Performs (PlainAt i) (stmtCacheClear conn) fun _ => True :=
  Performs.onlyIf fun _ => ⟨⟨trivial, trivial⟩, fun _ => trivial⟩

theorem plainAt_rollbackOpen : Performs (PlainAt i) (rollbackOpen conn) fun _ => True :=
  performs_ask ⟨trivial, trivial⟩ fun _ _ =>
    Performs.onlyIf fun _ => ⟨⟨trivial, trivial⟩, fun _ => trivial⟩

theorem plainAt_resetConn : Performs (PlainAt i) (resetConn conn) fun _ => True := by
  refine performs_ask ⟨trivial, trivial⟩ fun socket _ => ?_
  split
  · exact ⟨⟨trivial, trivial⟩, fun _ => ⟨⟨trivial, trivial⟩, fun _ => trivial⟩⟩
  · exact trivial

theorem plainAt_reconnectConn :
    Performs (PlainAt i) (reconnectConn conn) fun ok => ok = true → conn ≠ 0 := by
  unfold reconnectConn
  split
  · exact fun absurd => nomatch absurd
  next nonzero =>
    exact ⟨⟨trivial, trivial⟩, fun _ => ⟨⟨trivial, trivial⟩, fun _ _ => nonzero⟩⟩

theorem plainAt_cacheSlot :
    Performs (PlainAt i) (cacheSlot i conn) fun found => found = some conn :=
  ⟨⟨rfl, trivial⟩, fun _ => ⟨⟨trivial, trivial⟩, fun _ => rfl⟩⟩

theorem plainAt_cacheExistingReadySlot :
    Performs (PlainAt i) (cacheExistingReadySlot ctx i conn) fun found => found = some conn :=
  performs_op ⟨rfl, trivial⟩ fun _ => plainAt_cacheSlot

theorem quietAt_markReadyAndCacheSlot :
    Performs (QuietAt i) (markReadyAndCacheSlot i conn) fun found => found = some conn :=
  performs_op quietAt_storeState fun _ => QuietAt.of_plain plainAt_cacheSlot

theorem plainAt_claimSlotForThread :
    Performs (PlainAt i) (claimSlotForThread ctx i) fun _ => True :=
  ⟨⟨rfl, trivial⟩, fun _ => ⟨⟨rfl, trivial⟩, fun _ => ⟨⟨rfl, trivial⟩, fun _ => trivial⟩⟩⟩

theorem plainAt_destroyPoolConnection :
    Performs (PlainAt i) (destroyPoolConnection conn) fun _ => True := by
  unfold destroyPoolConnection
  split
  · exact trivial
  · exact ⟨⟨trivial, trivial⟩, fun _ => ⟨⟨trivial, trivial⟩, fun _ =>
      ⟨⟨trivial, trivial⟩, fun _ => trivial⟩⟩⟩

theorem quietAt_releaseFailedNewConnection :
    Performs (QuietAt i) (releaseFailedNewConnection i conn) fun _ => True :=
  (QuietAt.of_plain plainAt_destroyPoolConnection).bind fun _ _ =>
    ⟨⟨rfl, .inl trivial⟩, fun _ => ⟨⟨rfl, .inl trivial⟩, fun _ => ⟨⟨rfl, .inl trivial⟩, fun _ =>
      ⟨quietAt_storeState, fun _ => trivial⟩⟩⟩⟩

theorem quietAt_tryClaimFreeWithConn {expected : ConnId} :
    Performs (QuietAt i) (tryClaimFreeWithConn i expected) fun _ => True := by
  refine performs_op ⟨rfl, .inl SlotState.noConfusion⟩ fun claimed => ?_
  split
  · refine performs_op ⟨rfl, .inl trivial⟩ fun conn => ?_
    split
    · exact trivial
    · exact performs_op quietAt_storeState fun _ => trivial
  · exact trivial

/-- What a slot is found to hold is a connection, and not the one to avoid. -/
def Retry.Usable (ctx : AcquireCtx) (found : AcquireDecision) : Prop :=
  ∀ conn, found = some conn → conn ≠ 0 ∧ conn ≠ ctx.excludeConn

open Retry (Usable)

theorem usable_none : Usable ctx none := fun _ absurd => nomatch absurd

theorem Retry.Usable.of_eq {found : AcquireDecision} (nonzero : conn ≠ 0)
    (other : conn ≠ ctx.excludeConn) (found_eq : found = some conn) : Usable ctx found := by
  rintro conn' rfl
  obtain rfl : conn' = conn := Option.some.inj found_eq
  exact ⟨nonzero, other⟩

theorem plainAt_cachedSlot {generation : ℕ} :
    Performs (PlainAt i) (cachedSlot ctx i generation) (Usable ctx) := by
  unfold cachedSlot
  split
  · refine performs_op ⟨rfl, trivial⟩ fun state => ?_
    split
    · refine performs_op ⟨rfl, trivial⟩ fun current => ?_
      split
      · refine performs_op ⟨rfl, trivial⟩ fun owner => ?_
        split
        · refine performs_op ⟨rfl, trivial⟩ fun conn => ?_
          split
          · exact usable_none
          next other =>
            refine performs_ask ⟨trivial, trivial⟩ fun ok nonzero => ?_
            split
            next ok =>
              refine performs_ask ⟨trivial, trivial⟩ fun streaming _ => ?_
              split
              · exact usable_none
              · exact plainAt_cacheExistingReadySlot.mono (fun _ plain => plain) fun _ =>
                  Usable.of_eq (nonzero ok) other
            · exact usable_none
        · exact usable_none
      · exact usable_none
    · exact usable_none
  · exact usable_none

theorem atSlot_existingReadySlot :
    Performs (AtSlot i) (existingReadySlot ctx i) fun _ => True := by
  refine performs_op rfl fun state => ?_
  split
  · refine performs_op rfl fun owner => ?_
    split
    · refine performs_op rfl fun conn => ?_
      split
      · exact trivial
      · refine performs_ask trivial fun ok _ => ?_
        split
        · refine performs_ask trivial fun streaming _ => ?_
          split
          · exact trivial
          · exact AtSlot.of_plain plainAt_cacheExistingReadySlot
        · refine performs_op rfl fun begun => ?_
          split
          · refine (AtSlot.of_plain plainAt_stmtCacheClear).bind fun _ _ => ?_
            refine (AtSlot.of_plain plainAt_reconnectConn).bind fun reconnected _ => ?_
            split
            · exact AtSlot.of_quiet quietAt_markReadyAndCacheSlot
            · exact performs_op rfl fun _ => trivial
          · exact trivial
    · exact trivial
  · exact trivial

theorem quietAt_reuseSlot : Performs (QuietAt i) (reuseSlot ctx i) (Usable ctx) := by
  refine performs_op ⟨rfl, .inl trivial⟩ fun conn => ?_
  split
  · exact usable_none
  next other =>
    obtain ⟨nonzero, other⟩ := not_or.mp other
    have ready : Performs (QuietAt i) (markReadyAndCacheSlot i conn) (Usable ctx) :=
      quietAt_markReadyAndCacheSlot.mono (fun _ quiet => quiet) fun _ =>
        Usable.of_eq nonzero other
    have broken : Performs (QuietAt i) (markError i >>= fun _ => pure none) (Usable ctx) :=
      performs_op quietAt_storeState fun _ => usable_none
    refine performs_ask ⟨trivial, .inl trivial⟩ fun streaming _ => ?_
    split
    · exact usable_none
    · refine quietAt_tryClaimFreeWithConn.bind fun claimed _ => ?_
      split
      · refine (QuietAt.of_plain plainAt_claimSlotForThread).bind fun _ _ => ?_
        refine (QuietAt.of_plain plainAt_rollbackOpen).bind fun _ _ => ?_
        refine (QuietAt.of_plain plainAt_stmtCacheClear).bind fun _ _ => ?_
        refine (QuietAt.of_plain plainAt_resetConn).bind fun reset _ => ?_
        split
        · exact ready
        · refine (QuietAt.of_plain plainAt_stmtCacheClear).bind fun _ _ => ?_
          refine (QuietAt.of_plain plainAt_reconnectConn).bind fun reconnected _ => ?_
          split
          · refine performs_ask ⟨trivial, .inl trivial⟩ fun active _ => ?_
            split
            · exact ready
            · exact broken
          · exact broken
      · exact usable_none

theorem atSlot_fillSlot : Performs (AtSlot i) (fillSlot i) fun _ => True := by
  have created : Performs (AtSlot i) createPoolConnection fun _ => True :=
    performs_op trivial fun made =>
      Performs.bind (Performs.onlyIf fun _ => ⟨trivial, fun _ => trivial⟩) fun _ _ => trivial
  refine created.bind fun made _ => ?_
  split
  · exact performs_op rfl fun _ => AtSlot.of_quiet quietAt_markReadyAndCacheSlot
  · exact (AtSlot.of_quiet quietAt_releaseFailedNewConnection).bind fun _ _ => trivial

/-- An empty slot is claimed and filled, as phases 3 and 5 do. -/
theorem atSlot_claimEmpty :
    Performs (AtSlot i)
      (tryClaimFreeWithConn i 0 >>= fun claimed =>
        if claimed = true then claimSlotForThread ctx i >>= fun _ => fillSlot i
        else pure none) fun _ => True := by
  refine (AtSlot.of_quiet quietAt_tryClaimFreeWithConn).bind fun claimed _ => ?_
  split
  · exact (AtSlot.of_plain plainAt_claimSlotForThread).bind fun _ _ => atSlot_fillSlot
  · exact trivial

theorem atSlot_createInSlot : Performs (AtSlot i) (createInSlot ctx i) fun _ => True := by
  refine performs_op rfl fun conn => ?_
  split
  · exact trivial
  · exact atSlot_claimEmpty

theorem atSlot_recoverSlot : Performs (AtSlot i) (recoverSlot ctx i) fun _ => True := by
  refine performs_op rfl fun claimed => ?_
  split
  · refine (AtSlot.of_plain plainAt_claimSlotForThread).bind fun _ _ => performs_op rfl
      fun oldConn => ?_
    exact (AtSlot.of_plain plainAt_destroyPoolConnection).bind fun _ _ => atSlot_fillSlot
  · exact trivial

theorem quietAt_reclaimZombie {idleTimeout : ℕ} :
    Performs (QuietAt i) (reclaimZombie ctx idleTimeout i) fun _ => True := by
  refine performs_op ⟨rfl, .inl trivial⟩ fun state => ?_
  split
  · refine performs_op ⟨rfl, .inl trivial⟩ fun lastUsed => ?_
    refine performs_op ⟨trivial, .inl trivial⟩ fun references => ?_
    split
    · refine performs_op ⟨rfl, .inl trivial⟩ fun conn => ?_
      refine performs_ask ⟨trivial, .inl trivial⟩ fun streaming _ => ?_
      split
      · exact trivial
      · exact performs_op ⟨rfl, .inl SlotState.noConfusion⟩ fun _ => trivial
    · exact trivial
  · exact trivial

theorem quietAt_reapSlot {now : ℤ} {timeout : ℕ} :
    Performs (QuietAt i) (reapSlot now timeout i) fun _ => True := by
  refine performs_op ⟨rfl, .inl trivial⟩ fun state => ?_
  split
  · exact trivial
  · refine performs_op ⟨rfl, .inl trivial⟩ fun conn => ?_
    split
    · exact trivial
    · refine performs_op ⟨rfl, .inl trivial⟩ fun lastUsed => ?_
      split
      · exact trivial
      · refine performs_op ⟨trivial, .inl trivial⟩ fun references => ?_
        split
        · exact trivial
        · refine performs_op ⟨rfl, .inl SlotState.noConfusion⟩ fun claimed => ?_
          split
          · refine performs_op ⟨rfl, .inl trivial⟩ fun _ => ?_
            refine performs_op ⟨rfl, .inl trivial⟩ fun taken => ?_
            refine performs_op ⟨rfl, .inl trivial⟩ fun _ => performs_op quietAt_storeState
              fun _ => ?_
            split <;> exact trivial
          · exact trivial

/-- **The shrinking pass** looks no slot up and changes nothing of the retries. -/
theorem shrinks_reclaimZombiesAndReap :
    Performs (fun op => Retry.Quiet op ∧ NoLook op) (reclaimZombiesAndReap ctx) fun _ => True := by
  have slot {β : Type} {i : ℕ} {q : Prog β} (performs : Performs (QuietAt i) q fun _ => True) :
      Performs (fun op => Retry.Quiet op ∧ NoLook op) q fun _ => True :=
    performs.mono (fun _ quiet => ⟨quiet.2, quiet.1.noLook⟩) fun _ ended => ended
  refine performs_op ⟨.inl trivial, trivial⟩ fun idleTimeout => ?_
  refine (Performs.each fun i _ => slot quietAt_reclaimZombie).bind fun _ _ => ?_
  refine performs_op ⟨.inl trivial, trivial⟩ fun lastReap => ?_
  split
  · exact trivial
  · refine performs_op ⟨.inl trivial, trivial⟩ fun swapped => ?_
    split
    · have reaped : Performs (fun op => Retry.Quiet op ∧ NoLook op) (reapIdle ctx.now)
        fun _ => True :=
        performs_op ⟨.inl trivial, trivial⟩ fun timeout =>
          performs_op ⟨.inl trivial, trivial⟩ fun size =>
          performs_op ⟨.inl trivial, trivial⟩ fun most =>
          Performs.gather fun i _ => slot quietAt_reapSlot
      exact reaped.bind fun toDestroy _ => Performs.each fun conn _ =>
        slot (QuietAt.of_plain (plainAt_destroyPoolConnection (i := 0)))
    · exact trivial

theorem atSlot_trackHandle {db : DbId} :
    Performs (AtSlot i) (trackHandle db conn i) fun _ => True := by
  refine performs_op rfl fun held => ?_
  split
  · exact performs_op trivial fun _ => trivial
  · exact trivial

theorem atSlot_settleConnectionBeforeRelease :
    Performs (AtSlot i) (settleConnectionBeforeRelease conn) fun _ => True := by
  unfold settleConnectionBeforeRelease
  split
  · exact trivial
  · refine performs_ask trivial fun streaming _ => ?_
    refine Performs.bind (Performs.onlyIf fun _ => ⟨trivial, fun _ => trivial⟩) fun _ _ => ?_
    exact (AtSlot.of_plain plainAt_rollbackOpen).bind fun _ _ => ⟨trivial, fun _ => trivial⟩

theorem atSlot_checkHealthSlot {t : Thread} :
    Performs (AtSlot i) (checkHealthSlot t conn i) fun _ => True := by
  have republished : Performs (AtSlot i) (republish i) fun _ => True :=
    ⟨trivial, fun _ => ⟨rfl, fun _ => ⟨rfl, fun _ => trivial⟩⟩⟩
  have restored : Performs (AtSlot i) (restoreSlot conn i) fun _ => True := by
    refine (AtSlot.of_plain plainAt_stmtCacheClear).bind fun _ _ => ?_
    refine (AtSlot.of_plain plainAt_resetConn).bind fun reset _ => ?_
    split
    · exact republished
    · refine (AtSlot.of_plain plainAt_reconnectConn).bind fun reconnected _ => ?_
      split
      · exact republished
      · exact performs_op rfl fun _ => trivial
  refine performs_op rfl fun held => ?_
  split
  · exact trivial
  · refine performs_op rfl fun owner => ?_
    split
    · refine performs_op rfl fun begun => ?_
      split
      · exact restored.bind fun _ _ => trivial
      · exact trivial
    · exact trivial

end Slots

end PlexPostgres.Pool
