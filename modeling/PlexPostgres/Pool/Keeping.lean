import PlexPostgres.Pool.Holding

/-!
# Every operation keeps the invariant

An operation of thread `t` leaves the holds of the other threads as they are, so what has to be
shown for it is always the same (`Inv.of_thread`): the grips of the others are still true, the new
hold of `t` is right, and every connection is still in one place.  There is one lemma for each
kind of operation: those that only look, those that change the state or the owner of a slot, and
those that move a connection from one place to another.
-/

namespace PlexPostgres.Pool

open Txn (ConnId)
open Function (update update_self update_of_ne update_apply update_eq_self forall_update_iff
  apply_update)
open PoolManager (effect setSlot)

variable {quiet : Prop} {m m' : Memory} {holds : Thread → Hold} {t : Thread}

/-- **What one thread has to show** for an operation of its own. -/
theorem Inv.of_thread (inv : Inv quiet m holds) {h : Hold}
    (others : ∀ u ≠ t, (holds u).grip.Fits quiet u m'.history.handed m'.pool.slots)
    (fits : h.grip.Fits quiet t m'.history.handed m'.pool.slots)
    (claims : m'.history.claims = update m.history.claims t h.grip.claims)
    (hands : m'.history.hands = update m.history.hands t h.hands)
    (fewer : ∀ a, m'.history.handed a = m.history.handed a ∨ m'.history.handed a = none)
    (fresh : h.fresh ≠ 0 → h.fresh ∈ h.hands ∧ (quiet → m'.history.handed h.fresh = none))
    (apart : ∀ u ≠ t, ∀ i, h.grip.exclusive = some i → (holds u).grip.exclusive ≠ some i)
    (placed : Placed m') (kept : quiet → Kept m' (update holds t h)) :
    Inv quiet m' (update holds t h) where
  fits := (forall_update_iff holds fun u h =>
    h.grip.Fits quiet u m'.history.handed m'.pool.slots).mpr ⟨fits, others⟩
  claims u := by
    rw [claims, funext inv.claims]
    exact (apply_update (fun _ h => h.grip.claims) holds t h u).symm
  hands u := by
    rw [hands, funext inv.hands]
    exact (apply_update (fun _ h => h.hands) holds t h u).symm
  fresh := by
    refine (forall_update_iff holds fun _ h => h.fresh ≠ 0 →
      h.fresh ∈ h.hands ∧ (quiet → m'.history.handed h.fresh = none)).mpr
        ⟨fresh, fun u _ some => ?_⟩
    refine ⟨(inv.fresh u some).1, fun isQuiet => ?_⟩
    rcases fewer (holds u).fresh with kept | none
    · rw [kept]
      exact (inv.fresh u some).2 isQuiet
    · exact none
  exclusive u v i := by
    by_cases first : u = t <;> by_cases second : v = t
    · intros
      rw [first, second]
    · subst first
      simp only [update_self, update_of_ne second]
      exact fun held held' => absurd held' (apart v second i held)
    · subst second
      simp only [update_self, update_of_ne first]
      exact fun held held' => absurd held (apart u first i held')
    · simp only [update_of_ne first, update_of_ne second]
      exact inv.exclusive u v i
  placed := placed
  kept := kept

/-- What a thread's grip on a slot says of it. -/
theorem Inv.fitted (inv : Inv quiet m holds) {grip : Grip} {i : ℕ} (has : (holds t).grip = grip)
    (on : grip.slot = some i) : grip.FitsSlot quiet t m.history.handed (m.pool.slots i) :=
  has ▸ inv.fits t i (has ▸ on)

/-- **The connection of a slot that has an owner** is handed to nobody else. -/
theorem Inv.handed_owner (inv : Inv quiet m holds) (isQuiet : quiet) {i : ℕ} {u : Thread}
    (own : (m.pool.slots i).ownerThread = some t)
    (state : (m.pool.slots i).state = .ready ∨ (m.pool.slots i).state = .reconnecting)
    (nonzero : (m.pool.slots i).conn ≠ 0)
    (handed : m.history.handed (m.pool.slots i).conn = some u) : u = t := by
  rcases ((inv.kept isQuiet).slot i u nonzero handed).2 state with owned | leaving
  · exact Option.some.inj (owned.symm.trans own)
  · obtain ⟨-, unowned, -⟩ := inv.fitted leaving rfl
    rw [own] at unowned
    cases unowned

/-! ### Operations that only look -/

/-- What is handed out is still there if the thread that is leaving a slot goes on leaving it. -/
theorem Kept.leavingOn (kept : Kept m holds) {h : Hold}
    (leaving : ∀ i, (holds t).grip = .leaving i → h.grip = .leaving i) :
    Kept m (update holds t h) := by
  refine ⟨kept.live, fun i u some handed => ?_⟩
  obtain ⟨notFree, owner⟩ := kept.slot i u some handed
  refine ⟨notFree, fun state => (owner state).imp_right fun gone => ?_⟩
  by_cases same : u = t
  · subst same
    simpa using leaving i gone
  · simpa [same] using gone

/-- A thread that only looks keeps the slot it has a claim on. -/
structure Grip.Still (grip grip' : Grip) : Prop where
  claims : grip'.claims = grip.claims
  exclusive : grip'.exclusive = grip.exclusive
  leaving : ∀ i, grip = .leaving i → grip' = .leaving i

/-- **Looking at a slot** changes the grip of the thread that looks. -/
theorem Inv.see (inv : Inv quiet m holds) {grip : Grip}
    (fits : grip.Fits quiet t m.history.handed m.pool.slots) (still : (holds t).grip.Still grip) :
    Inv quiet m (update holds t { holds t with grip }) := by
  refine inv.of_thread (fun u _ => inv.fits u) fits ?_ ?_ (fun a => .inl rfl) (inv.fresh t) ?_
    inv.placed fun isQuiet => (inv.kept isQuiet).leavingOn still.leaving
  · rw [still.claims, ← inv.claims t, update_eq_self]
  · rw [← inv.hands t, update_eq_self]
  · intro u other i held held'
    exact other (inv.exclusive u t i held' (still.exclusive ▸ held))

variable {handed : ConnId → Option Thread} {known : Option ConnId}

section Looking

variable (grip : Grip) (i : ℕ)

theorem Grip.still_seeState (state : SlotState) : grip.Still (grip.seeState i state) := by
  constructor <;> cases grip <;> grind [Grip.seeState, Grip.claims, Grip.exclusive]

theorem Grip.still_seeConn (conn : ConnId) : grip.Still (grip.seeConn i conn) := by
  constructor <;> cases grip <;> grind [Grip.seeConn, Grip.claims, Grip.exclusive]

theorem Grip.still_seeOwner (guarded : Bool) (owner : Option Thread) :
    grip.Still (grip.seeOwner t guarded i owner) := by
  constructor <;> cases grip <;> grind [Grip.seeOwner, Grip.claims, Grip.exclusive]

variable {slots : ℕ → Slot}

theorem Grip.fits_seeState (fits : grip.Fits quiet t handed slots) :
    (grip.seeState i (slots i).state).Fits quiet t handed slots := by
  have seen : (if (slots i).state = .ready then Grip.ready i else .loose).Fits quiet t handed
      slots := by
    split
    next isReady =>
      intro j about
      obtain rfl := Option.some.inj about
      exact fun _ _ => isReady
    · exact fun j about => by cases about
  cases grip with
  | loose | ready | sampled => exact seen
  | mine j conn =>
    simp only [Grip.seeState]
    split
    · intro k about
      obtain rfl := Option.some.inj about
      intro isQuiet
      obtain ⟨owned, isReady, _⟩ := fits j rfl isQuiet
      exact ⟨owned, isReady, fun c none => by cases none⟩
    · exact seen
  | leaving | reserved | reconnecting => exact fits

theorem Grip.fits_seeConn (fits : grip.Fits quiet t handed slots) :
    (grip.seeConn i (slots i).conn).Fits quiet t handed slots := by
  have sampled : (Grip.sampled i (slots i).conn).Fits quiet t handed slots := by
    intro j about
    obtain rfl := Option.some.inj about
    exact fun _ _ _ => rfl
  cases grip with
  | loose | ready | sampled => exact sampled
  | mine j known =>
    simp only [Grip.seeConn]
    split
    next same =>
      subst same
      intro k about
      obtain rfl := Option.some.inj about
      intro isQuiet
      obtain ⟨owned, isReady, holds⟩ := fits j rfl isQuiet
      refine ⟨owned, isReady, fun c same => ?_⟩
      obtain rfl := Option.some.inj same
      cases known with
      | none => rfl
      | some conn => exact holds conn rfl
    · exact fits
  | reserved j known owned clean =>
    simp only [Grip.seeConn]
    split
    next same =>
      subst same
      intro k about
      obtain rfl := Option.some.inj about
      obtain ⟨state, _, rest⟩ := fits j rfl
      exact ⟨state, fun c same => Option.some.inj same, rest⟩
    · exact fits
  | leaving | reconnecting => exact fits

/-- A thread that finds itself the owner of a READY slot knows it is its own. -/
theorem Grip.fits_mine (own : quiet → (slots i).ownerThread = some t)
    (ready : quiet → (slots i).state = .ready) (conn : quiet → ∀ c ∈ known, (slots i).conn = c) :
    (Grip.mine i known).Fits quiet t handed slots := by
  intro j about
  obtain rfl := Option.some.inj about
  exact fun isQuiet => ⟨own isQuiet, ready isQuiet, conn isQuiet⟩

theorem Grip.fits_seeOwner {guarded : Bool}
    (ready : quiet → guarded = true → (slots i).ownerThread = some t → (slots i).state = .ready)
    (fits : grip.Fits quiet t handed slots) :
    (grip.seeOwner t guarded i (slots i).ownerThread).Fits quiet t handed slots := by
  have nothing : Grip.loose.Fits quiet t handed slots := fun j about => by cases about
  have guardedMine : guarded = true ∧ (slots i).ownerThread = some t →
      (Grip.mine i none).Fits quiet t handed slots := fun seen =>
    Grip.fits_mine i (fun _ => seen.2) (fun isQuiet => ready isQuiet seen.1 seen.2)
      fun _ c known => by cases known
  cases grip with
  | loose =>
    simp only [Grip.seeOwner]
    split
    next seen => exact guardedMine seen
    · exact nothing
  | mine j conn =>
    simp only [Grip.seeOwner]
    split
    · exact fits
    split
    next seen => exact guardedMine seen
    · exact nothing
  | ready j =>
    simp only [Grip.seeOwner]
    split
    next seen =>
      rcases seen.1 with isGuarded | rfl
      · exact guardedMine ⟨isGuarded, seen.2⟩
      · exact Grip.fits_mine j (fun _ => seen.2) (fun isQuiet => fits j rfl isQuiet seen.2)
          fun _ c known => by cases known
    · exact nothing
  | sampled j conn =>
    simp only [Grip.seeOwner]
    split
    next seen =>
      refine Grip.fits_mine i (fun _ => seen.2) (fun isQuiet => ready isQuiet seen.1 seen.2) ?_
      intro isQuiet c known
      split at known
      next same =>
        subst same
        obtain rfl := Option.some.inj known
        exact fits j rfl isQuiet seen.2 (ready isQuiet seen.1 seen.2)
      · cases known
    · exact nothing
  | leaving | reserved | reconnecting => exact fits

end Looking

/-! ### Operations that touch no slot's connection, owner or state -/

/-- Two slots with the same connection, owner and state. -/
structure Slot.Alike (s s' : Slot) : Prop where
  conn : s'.conn = s.conn
  owner : s'.ownerThread = s.ownerThread
  state : s'.state = s.state

theorem Grip.FitsSlot.alike {s s' : Slot} {grip : Grip} (fits : grip.FitsSlot quiet t handed s)
    (alike : s.Alike s') :
    grip.FitsSlot quiet t handed s' := by
  obtain ⟨conn, owner, state⟩ := alike
  cases grip with
  | loose => trivial
  | _ => simpa only [Grip.FitsSlot, conn, owner, state] using fits

theorem Placed.same (placed : Placed m) (at_iff : ∀ a p, m'.At a p ↔ m.At a p)
    (heap : m'.pool.heap = m.pool.heap) (created : m'.history.created = m.history.created)
    (hands : m'.history.hands = m.history.hands) : Placed m' where
  one a p q here there := placed.one a p q ((at_iff a p).mp here) ((at_iff a q).mp there)
  somewhere a made := by
    obtain ⟨p, here⟩ := placed.somewhere a (created ▸ made)
    exact ⟨p, (at_iff a p).mpr here⟩
  live a p here kept := by
    rw [heap]
    exact placed.live a p ((at_iff a p).mp here) kept
  created a isLive := by
    rw [created]
    exact placed.created a (heap ▸ isLive)
  nodup := hands ▸ placed.nodup
  nonzero := hands ▸ placed.nonzero

/-- **An operation that changes nothing the invariant speaks of.** -/
theorem Inv.unmoved (inv : Inv quiet m holds)
    (alike : ∀ i, (m.pool.slots i).Alike (m'.pool.slots i)) (heap : m'.pool.heap = m.pool.heap)
    (registry : m'.pool.registry = m.pool.registry) (history : m'.history = m.history) :
    Inv quiet m' holds := by
  have at_iff : ∀ a p, m'.At a p ↔ m.At a p := by
    intro a p
    cases p <;> simp only [Memory.At, (alike _).conn, heap, registry, history]
  refine ⟨fun u i about => ?_, history ▸ inv.claims, history ▸ inv.hands, history ▸ inv.fresh,
    inv.exclusive, inv.placed.same at_iff heap (by rw [history]) (by rw [history]), ?_⟩
  · rw [history]
    exact (inv.fits u i about).alike (alike i)
  · intro isQuiet
    obtain ⟨live, slot⟩ := inv.kept isQuiet
    refine ⟨by simpa only [heap, history] using live, fun i u => ?_⟩
    rw [(alike i).conn, (alike i).owner, (alike i).state, history]
    exact slot i u

/-! ### Operations that move a connection -/

/-- **A connection moves**: `a` is at `dest` now, and nowhere else. -/
theorem Placed.move (placed : Placed m) (a : ConnId) (dest : Place)
    (moved : ∀ b p, m'.At b p ↔ if b = a then p = dest else m.At b p)
    (heap : ∀ b ≠ a, m'.pool.heap b = m.pool.heap b)
    (created : ∀ b ≠ a, m'.history.created b = m.history.created b)
    (made : m'.history.created a = true) (isLive : dest ≠ .destroyed → m'.pool.heap a = true)
    (nodup : ∀ t, (m'.history.hands t).Nodup) (nonzero : ∀ t, 0 ∉ m'.history.hands t) :
    Placed m' where
  one b p q here there := by
    rw [moved] at here there
    split at here
    next same =>
      rw [if_pos same] at there
      rw [here, there]
    next other =>
      rw [if_neg other] at there
      exact placed.one b p q here there
  somewhere b isMade := by
    by_cases same : b = a
    · exact ⟨dest, (moved b dest).mpr (by rw [if_pos same])⟩
    · obtain ⟨p, here⟩ := placed.somewhere b (created b same ▸ isMade)
      exact ⟨p, (moved b p).mpr (by rwa [if_neg same])⟩
  live b p here kept := by
    rw [moved] at here
    split at here
    next same => exact same ▸ isLive (here ▸ kept)
    next other =>
      rw [heap b other]
      exact placed.live b p here kept
  created b isLive := by
    by_cases same : b = a
    · exact same ▸ made
    · rw [created b same]
      exact placed.created b (heap b same ▸ isLive)
  nodup := nodup
  nonzero := nonzero

variable {owned clean : Bool}

section Hands

variable {i : ℕ} {a : ConnId}

theorem Placed.heap_zero (placed : Placed m) : m.pool.heap 0 = false := by
  by_contra isLive
  have isLive : m.pool.heap 0 = true := by simpa using isLive
  obtain ⟨p, here⟩ := placed.somewhere 0 (placed.created 0 isLive)
  cases p with
  | destroyed => simp [here.2] at isLive
  | _ => exact here.1 rfl

theorem Inv.handed_none (inv : Inv quiet m holds) (unused : m.pool.heap a = false)
    (isQuiet : quiet) : m.history.handed a = none := by
  cases handed : m.history.handed a with
  | none => rfl
  | some u => simp [(inv.kept isQuiet).live a u handed] at unused

theorem Placed.nodup_append (placed : Placed m) (notHeld : a ∉ m.history.hands t) :
    ∀ u, (update m.history.hands t (m.history.hands t ++ [a]) u).Nodup := by
  have apart : ∀ b ∈ m.history.hands t, b ≠ a := fun b held same => notHeld (same ▸ held)
  refine (forall_update_iff _ fun _ => List.Nodup).mpr ⟨?_, fun u _ => placed.nodup u⟩
  simpa [List.nodup_append, placed.nodup t] using apart

theorem Placed.nonzero_append (placed : Placed m) (t : Thread) (some : a ≠ 0) :
    ∀ u, 0 ∉ update m.history.hands t (m.history.hands t ++ [a]) u :=
  (forall_update_iff _ fun _ held => 0 ∉ held).mpr
    ⟨by simpa [placed.nonzero t] using some.symm, fun u _ => placed.nonzero u⟩

theorem Placed.nodup_erase (placed : Placed m) (t : Thread) (a : ConnId) :
    ∀ u, (update m.history.hands t ((m.history.hands t).erase a) u).Nodup :=
  (forall_update_iff _ fun _ => List.Nodup).mpr
    ⟨(placed.nodup t).erase a, fun u _ => placed.nodup u⟩

theorem Placed.nonzero_erase (placed : Placed m) (t : Thread) (a : ConnId) :
    ∀ u, 0 ∉ update m.history.hands t ((m.history.hands t).erase a) u :=
  (forall_update_iff _ fun _ held => 0 ∉ held).mpr
    ⟨fun held => placed.nonzero t (List.mem_of_mem_erase held), fun u _ => placed.nonzero u⟩

/-- **A connection is created**, and is in the hands of its creator. -/
theorem Inv.create (inv : Inv quiet m holds) (unused : m.pool.heap a = false) (some : a ≠ 0) :
    Inv quiet
      ⟨{ m.pool with heap := update m.pool.heap a true },
        { m.history with
          hands := update m.history.hands t (m.history.hands t ++ [a])
          created := update m.history.created a true }⟩
      (update holds t { holds t with hands := (holds t).hands ++ [a], fresh := a }) := by
  have notHeld : a ∉ m.history.hands t := fun held => by
    simp [inv.placed.live a (.hands t) ⟨some, held⟩ (by simp)] at unused
  refine inv.of_thread (fun u _ => inv.fits u) (inv.fits t) ?_ ?_ (fun b => .inl rfl) ?_ ?_ ?_ ?_
  · rw [← inv.claims t, update_eq_self]
  · rw [inv.hands t]
  · exact fun _ => ⟨by simp, fun isQuiet => inv.handed_none unused isQuiet⟩
  · exact fun u other i held held' => other (inv.exclusive u t i held' held)
  · refine inv.placed.move a (.hands t) ?_ ?_ ?_ (by simp) (by simp) ?_ ?_
    · intro b p
      have live := inv.placed.live b p
      cases p <;> simp only [Memory.At, update_apply] at live ⊢ <;> grind
    · exact fun b other => by simp [other]
    · exact fun b other => by simp [other]
    · exact inv.placed.nodup_append notHeld
    · exact inv.placed.nonzero_append t some
  · intro isQuiet
    refine Kept.leavingOn ?_ fun i gone => gone
    refine ⟨fun b u handed => ?_, (inv.kept isQuiet).slot⟩
    by_cases same : b = a
    · simp [same]
    · simpa [same] using (inv.kept isQuiet).live b u handed

/-- **A connection is destroyed** by the thread that has it in its hands. -/
theorem Inv.destroy (inv : Inv quiet m holds) (held : a ∈ (holds t).hands) :
    Inv quiet
      ⟨{ m.pool with heap := update m.pool.heap a false },
        { m.history with
          hands := update m.history.hands t ((m.history.hands t).erase a)
          handed := update m.history.handed a none }⟩
      (update holds t
        { holds t with
          hands := (holds t).hands.erase a
          fresh := if a = (holds t).fresh then 0 else (holds t).fresh }) := by
  rw [← inv.hands t] at held
  have some : a ≠ 0 := fun zero => inv.placed.nonzero t (zero ▸ held)
  have here : m.At a (.hands t) := ⟨some, held⟩
  have fewer : ∀ b, update m.history.handed a none b = m.history.handed b ∨
      update m.history.handed a none b = none := by
    intro b
    by_cases same : b = a
    · exact .inr (by simp [same])
    · exact .inl (by simp [same])
  refine inv.of_thread (fun u _ => (inv.fits u).released fewer) ((inv.fits t).released fewer) ?_ ?_
    fewer ?_ ?_ ?_ ?_
  · rw [← inv.claims t, update_eq_self]
  · rw [inv.hands t]
  · intro nonzero
    have other : a ≠ (holds t).fresh := fun same => nonzero (by simp [same])
    rw [if_neg other] at nonzero ⊢
    obtain ⟨inHands, unheld⟩ := inv.fresh t nonzero
    refine ⟨(List.mem_erase_of_ne (Ne.symm other)).mpr inHands, fun isQuiet => ?_⟩
    simpa [Ne.symm other] using unheld isQuiet
  · exact fun u other i held held' => other (inv.exclusive u t i held' held)
  · have isLive := inv.placed.live a _ here (by simp)
    refine inv.placed.move a .destroyed ?_ ?_ (fun b _ => rfl) (inv.placed.created a isLive)
      (by simp)
      (inv.placed.nodup_erase t a) (inv.placed.nonzero_erase t a)
    · intro b p
      have only := inv.placed.one b p (.hands t)
      have nodup := inv.placed.nodup t
      have created := inv.placed.created a isLive
      cases p <;> simp only [Memory.At, update_apply] at only ⊢ <;>
        grind [List.Nodup.mem_erase_iff]
    · exact fun b other => by simp [other]
  · intro isQuiet
    refine Kept.leavingOn ?_ fun i gone => gone
    obtain ⟨live, slot⟩ := inv.kept isQuiet
    refine ⟨fun b u handed => ?_, fun i u nonzero handed => ?_⟩
    · by_cases same : b = a
      · simp [same] at handed
      · simpa [same] using live b u (by simpa [same] using handed)
    · by_cases same : (m.pool.slots i).conn = a
      · simp [same] at handed
      · exact slot i u nonzero (by simpa [same] using handed)

/-- **The connection of a claimed slot changes** to one no thread was handed. -/
theorem Inv.refill (inv : Inv quiet m holds)
    (claimed : (holds t).grip = .reserved i known owned clean) {hands : List ConnId}
    {fresh : ConnId} (unheld : quiet → m.history.handed a = none)
    (isFresh : fresh ≠ 0 → fresh ∈ hands ∧ (quiet → m.history.handed fresh = none))
    (placed : Placed
      ⟨{ m.pool with slots := update m.pool.slots i { m.pool.slots i with conn := a } },
        { m.history with hands := update m.history.hands t hands }⟩) :
    Inv quiet
      ⟨{ m.pool with slots := update m.pool.slots i { m.pool.slots i with conn := a } },
        { m.history with hands := update m.history.hands t hands }⟩
      (update holds t
        { holds t with grip := .reserved i (some a) owned true, hands, fresh }) := by
  obtain ⟨state, _, own, _⟩ := inv.fitted claimed rfl
  have exclusive : (holds t).grip.exclusive = some i := by rw [claimed]; rfl
  have apart : ∀ u ≠ t, (holds u).grip.exclusive ≠ some i := fun u other held =>
    other (inv.exclusive u t i held exclusive)
  have change : Change quiet t (m.pool.slots i) { m.pool.slots i with conn := a } :=
    .inside _ _ (.inl state) (.inl rfl) fun _ ready => by simp [state] at ready
  refine inv.of_thread (fun u other => change.fits other (apart u other) (inv.fits u)) ?_ ?_ rfl
    (fun b => .inl rfl) isFresh ?_ placed ?_
  · intro j about
    obtain rfl := Option.some.inj about
    simpa [Grip.FitsSlot, state] using ⟨own, unheld⟩
  · rw [show (Grip.reserved i (some a) owned true).claims = m.history.claims t by
      rw [inv.claims t, claimed]; rfl, update_eq_self]
  · intro u other j held
    obtain rfl := Option.some.inj held
    exact apart u other
  · intro isQuiet
    refine Kept.leavingOn ?_ fun j gone => by rw [claimed] at gone; cases gone
    obtain ⟨live, slot⟩ := inv.kept isQuiet
    refine ⟨live, fun j u nonzero handed => ?_⟩
    by_cases same : j = i
    · subst same
      simp [unheld isQuiet] at handed
    · simp only [update_of_ne same] at nonzero handed ⊢
      exact slot j u nonzero handed

/-- **A connection goes from a thread's hands into a slot.** -/
theorem Placed.intoSlot (placed : Placed m) (empty : (m.pool.slots i).conn = 0)
    (held : a ∈ m.history.hands t) :
    Placed
      ⟨{ m.pool with slots := update m.pool.slots i { m.pool.slots i with conn := a } },
        { m.history with
          hands := update m.history.hands t ((m.history.hands t).erase a) }⟩ := by
  have some : a ≠ 0 := fun zero => placed.nonzero t (zero ▸ held)
  have here : m.At a (.hands t) := ⟨some, held⟩
  have isLive := placed.live a _ here (by simp)
  refine placed.move a (.slot i) ?_ (fun b _ => rfl) (fun b _ => rfl) (placed.created a isLive)
    (fun _ => isLive) (placed.nodup_erase t a) (placed.nonzero_erase t a)
  intro b p
  have only := placed.one b p (.hands t)
  have nodup := placed.nodup t
  cases p <;> simp only [Memory.At, update_apply] at only ⊢ <;>
    grind [List.Nodup.mem_erase_iff]

/-- **A connection goes from a slot into a thread's hands.** -/
theorem Placed.outOfSlot (placed : Placed m) (some : (m.pool.slots i).conn ≠ 0) :
    Placed
      ⟨{ m.pool with slots := update m.pool.slots i { m.pool.slots i with conn := 0 } },
        { m.history with
          hands := update m.history.hands t
            (m.history.hands t ++ [(m.pool.slots i).conn]) }⟩ := by
  have here : m.At (m.pool.slots i).conn (.slot i) := ⟨some, rfl⟩
  have isLive := placed.live _ _ here (by simp)
  have notHeld : (m.pool.slots i).conn ∉ m.history.hands t := fun held => by
    cases placed.one _ _ (.hands t) here ⟨some, held⟩
  refine placed.move (m.pool.slots i).conn (.hands t) ?_ (fun b _ => rfl) (fun b _ => rfl)
    (placed.created _ isLive) (fun _ => isLive) (placed.nodup_append notHeld)
    (placed.nonzero_append t some)
  intro b p
  have only := placed.one b p (.slot i)
  cases p <;> simp only [Memory.At, update_apply] at only ⊢ <;> grind

/-- A slot without a connection is given none. -/
theorem Placed.leftEmpty (placed : Placed m) (empty : (m.pool.slots i).conn = 0) :
    Placed
      ⟨{ m.pool with slots := update m.pool.slots i { m.pool.slots i with conn := 0 } },
        { m.history with
          hands := update m.history.hands t (m.history.hands t) }⟩ := by
  have same : { m.pool.slots i with conn := 0 } = m.pool.slots i := by rw [← empty]
  rw [same, update_eq_self, update_eq_self]
  exact placed

/-- **A connection is stored in a claimed slot**: the one the thread has just created, or null. -/
theorem Inv.storeConn (inv : Inv quiet m holds)
    (claimed : (holds t).grip = .reserved i (some 0) owned clean)
    (which : a = 0 ∨ a = (holds t).fresh) :
    Inv quiet
      ⟨m.pool.setSlot i ({ · with conn := a }),
        { m.history with
          hands := update m.history.hands t ((m.history.hands t).erase a) }⟩
      (update holds t
        { holds t with
          grip := .reserved i (some a) owned true
          hands := (holds t).hands.erase a
          fresh := if a = (holds t).fresh then 0 else (holds t).fresh }) := by
  have fitted := inv.fitted claimed rfl
  have empty : (m.pool.slots i).conn = 0 := fitted.2.1 0 rfl
  rw [inv.hands t]
  by_cases zero : a = 0
  · have erased : (holds t).hands.erase a = m.history.hands t := by
      rw [zero, ← inv.hands t]
      exact List.erase_of_not_mem (inv.placed.nonzero t)
    have unfilled : (if a = (holds t).fresh then 0 else (holds t).fresh) = (holds t).fresh := by
      split
      next same => rw [← same, zero]
      · rfl
    rw [erased, unfilled]
    refine inv.refill claimed ?_ (inv.hands t ▸ inv.fresh t) (zero ▸ inv.placed.leftEmpty empty)
    intro isQuiet
    rw [zero]
    exact inv.handed_none inv.placed.heap_zero isQuiet
  · have new : a = (holds t).fresh := which.resolve_left zero
    obtain ⟨held, unheld⟩ := inv.fresh t (new ▸ zero)
    rw [if_pos new, ← inv.hands t]
    refine inv.refill claimed (new ▸ unheld) (fun h => absurd rfl h) ?_
    exact inv.placed.intoSlot empty (by rw [inv.hands t, new]; exact held)

/-- **The connection of a claimed slot is taken out.** -/
theorem Inv.swapConn (inv : Inv quiet m holds)
    (claimed : (holds t).grip = .reserved i known owned clean) {hands : List ConnId}
    (taken : hands = if (m.pool.slots i).conn = 0 then (holds t).hands
      else (holds t).hands ++ [(m.pool.slots i).conn]) :
    Inv quiet
      ⟨m.pool.setSlot i ({ · with conn := 0 }),
        { m.history with hands := update m.history.hands t hands }⟩
      (update holds t
        { holds t with grip := .reserved i (some 0) owned true, hands }) := by
  have unheld : quiet → m.history.handed 0 = none := inv.handed_none inv.placed.heap_zero
  rw [← inv.hands t] at taken
  have isFresh : (holds t).fresh ≠ 0 →
      (holds t).fresh ∈ hands ∧ (quiet → m.history.handed (holds t).fresh = none) := by
    intro nonzero
    obtain ⟨held, unheld⟩ := inv.fresh t nonzero
    rw [← inv.hands t] at held
    refine ⟨?_, unheld⟩
    rw [taken]
    split
    · exact held
    · exact List.mem_append_left _ held
  refine inv.refill claimed unheld isFresh ?_
  rw [taken]
  split
  next empty => exact inv.placed.leftEmpty empty
  next some => exact inv.placed.outOfSlot some

end Hands

/-! ### Operations that change the state or the owner of a slot -/

variable {claims : List ℕ} {u : Thread} {owner : Option Thread}

section Touch

variable {i : ℕ} {grip : Grip} {state : SlotState} {s' : Slot} {handed' : ConnId → Option Thread}

/-- The memory after a thread has changed a slot. -/
def Memory.touched (m : Memory) (t : Thread) (i : ℕ) (s' : Slot) (claims : List ℕ)
    (handed' : ConnId → Option Thread) : Memory :=
  ⟨{ m.pool with slots := update m.pool.slots i s' },
    { m.history with claims := update m.history.claims t claims, handed := handed' }⟩

/-- What is handed out is still there, if it is in the slot that changed. -/
theorem Kept.touch (kept : Kept m holds) (conn : s'.conn = (m.pool.slots i).conn)
    (fewer : ∀ a, handed' a = m.history.handed a ∨ handed' a = none) {h : Hold}
    (onlyHere : ∀ j, (holds t).grip = .leaving j → j = i)
    (here : ∀ u, (m.pool.slots i).conn ≠ 0 → handed' (m.pool.slots i).conn = some u →
      s'.state ≠ .free ∧ (s'.state = .ready ∨ s'.state = .reconnecting →
        s'.ownerThread = some u ∨ (update holds t h u).grip = .leaving i)) :
    Kept (m.touched t i s' claims handed') (update holds t h) := by
  have before : ∀ a u, handed' a = some u → m.history.handed a = some u := by
    intro a u handed
    rcases fewer a with same | gone
    · rw [← same]
      exact handed
    · rw [gone] at handed
      cases handed
  refine ⟨fun a u handed => kept.live a u (before a u handed), fun j u => ?_⟩
  by_cases same : j = i
  · subst same
    simp only [Memory.touched, update_self, conn]
    exact here u
  · simp only [Memory.touched, update_of_ne same]
    intro nonzero handed
    obtain ⟨notFree, owner⟩ := kept.slot j u nonzero (before _ u handed)
    refine ⟨notFree, fun state => (owner state).imp_right fun gone => ?_⟩
    by_cases self : u = t
    · subst self
      exact absurd (onlyHere j gone) same
    · simpa [self] using gone

/-- **A thread changes a slot**, with the connection left as it is. -/
theorem Inv.touch (inv : Inv quiet m holds) (grip : Grip)
    (change : Change quiet t (m.pool.slots i) s') (conn : s'.conn = (m.pool.slots i).conn)
    (apart : ∀ u ≠ t, (holds u).grip.exclusive ≠ some i)
    (fewer : ∀ a, handed' a = m.history.handed a ∨ handed' a = none)
    (fits : grip.FitsSlot quiet t handed' s') (about : ∀ j, grip.slot = some j → j = i)
    (onlyHere : ∀ j, (holds t).grip = .leaving j → j = i)
    (here : quiet → ∀ u, (m.pool.slots i).conn ≠ 0 → handed' (m.pool.slots i).conn = some u →
      s'.state ≠ .free ∧ (s'.state = .ready ∨ s'.state = .reconnecting →
        s'.ownerThread = some u ∨
          (update holds t { holds t with grip } u).grip = .leaving i)) :
    Inv quiet (m.touched t i s' grip.claims handed')
      (update holds t { holds t with grip }) := by
  refine inv.of_thread
    (fun u other => (change.fits other (apart u other) (inv.fits u)).released fewer) ?_ rfl ?_ fewer
    ?_ ?_ ?_ fun isQuiet => (inv.kept isQuiet).touch conn fewer onlyHere (here isQuiet)
  · intro j on
    obtain rfl := about j on
    simpa [Memory.touched] using fits
  · simp only [Memory.touched]
    rw [← inv.hands t, update_eq_self]
  · intro nonzero
    refine ⟨(inv.fresh t nonzero).1, fun isQuiet => ?_⟩
    rcases fewer (holds t).fresh with same | gone
    · exact same.trans ((inv.fresh t nonzero).2 isQuiet)
    · exact gone
  · intro u other j held
    obtain rfl := about j (Grip.slot_of_exclusive held)
    exact apart u other
  · refine inv.placed.same (fun a p => ?_) rfl rfl rfl
    cases p with
    | slot j =>
      by_cases same : j = i
      · subst same
        simp [Memory.At, Memory.touched, conn]
      · simp [Memory.At, Memory.touched, same]
    | _ => exact Iff.rfl

theorem Grip.claims_of_not_exclusive (shared : grip.exclusive = none) : grip.claims = [] := by
  cases grip <;> first | rfl | cases shared

/-- The state of a slot somebody has an exclusive grip on. -/
theorem Grip.FitsSlot.exclusive {s : Slot} (fits : grip.FitsSlot quiet u handed s)
    (held : grip.exclusive = some i) :
    s.state = .reserved ∨ s.state = .reconnecting ∨
      (quiet ∧ s.ownerThread = none ∧ s.state = .ready) := by
  cases grip with
  | reserved j conn owned clean => exact .inl fits.1
  | reconnecting j conn => exact .inr (.inl fits.1)
  | leaving j => exact .inr (.inr fits)
  | _ => cases held

theorem Inv.fitsExclusive (inv : Inv quiet m holds) (held : (holds u).grip.exclusive = some i) :
    (m.pool.slots i).state = .reserved ∨ (m.pool.slots i).state = .reconnecting ∨
      (quiet ∧ (m.pool.slots i).ownerThread = none ∧ (m.pool.slots i).state = .ready) :=
  (inv.fits u i (Grip.slot_of_exclusive held)).exclusive held

theorem Grip.not_leaving (shared : grip.exclusive = none) (j : ℕ) : grip = .leaving j → j = i := by
  rintro rfl
  cases shared

section

variable (inv : Inv quiet m holds)
include inv

/-- Nobody was handed the connection of a FREE slot. -/
theorem Inv.free_unheld (isQuiet : quiet)
    (free : (m.pool.slots i).state = .free) : m.history.handed (m.pool.slots i).conn = none := by
  by_cases empty : (m.pool.slots i).conn = 0
  · rw [empty]
    exact inv.handed_none inv.placed.heap_zero isQuiet
  · cases handed : m.history.handed (m.pool.slots i).conn with
    | none => rfl
    | some u => exact absurd free ((inv.kept isQuiet).slot i u empty handed).1

/-- **A slot is claimed**: FREE or ERROR → RESERVED. -/
theorem Inv.claim (shared : (holds t).grip.exclusive = none)
    {old : SlotState} (vacant : old = .free ∨ old = .error) (found : (m.pool.slots i).state = old) :
    Inv quiet (m.touched t i { m.pool.slots i with state := .reserved } [i] m.history.handed)
      (update holds t
        { holds t with grip := .reserved i none false (decide (old = .free)) }) := by
  subst found
  refine inv.touch (.reserved i none false _) (.claim _ vacant) rfl ?_ (fun a => .inl rfl)
    ⟨rfl, fun c known => (by cases known), fun owned => (by cases owned), ?_⟩
    (fun j on => (Option.some.inj on).symm) (Grip.not_leaving shared) ?_
  · intro u other held
    rcases inv.fitsExclusive held with state | state | ⟨_, _, state⟩ <;>
      rcases vacant with free | error <;> simp_all
  · exact fun isQuiet clean => inv.free_unheld isQuiet (by simpa using clean)
  · exact fun isQuiet u nonzero handed => ⟨by simp, by simp⟩

/-- **A READY slot of one's own is claimed**: READY → RECONNECTING. -/
theorem Inv.reconnect (shared : (holds t).grip.exclusive = none)
    (own : quiet → ∃ conn, (holds t).grip = .mine i conn)
    (ready : (m.pool.slots i).state = .ready) :
    Inv quiet (m.touched t i { m.pool.slots i with state := .reconnecting } [i] m.history.handed)
      (update holds t
        { holds t with grip := .reconnecting i ((holds t).grip.mineAt i) }) := by
  have fitted : ∀ isQuiet : quiet, (m.pool.slots i).ownerThread = some t ∧
      ∀ c ∈ (holds t).grip.mineAt i, (m.pool.slots i).conn = c := by
    intro isQuiet
    obtain ⟨conn, grip⟩ := own isQuiet
    have fitted := inv.fitted grip rfl
    rw [grip]
    obtain ⟨owned, _, known⟩ := fitted isQuiet
    exact ⟨owned, by simpa [Grip.mineAt] using known⟩
  refine inv.touch (.reconnecting i _) (.reconnect _ ready fun isQuiet => (fitted isQuiet).1) rfl
    ?_ (fun a => .inl rfl) ⟨rfl, fitted⟩ (fun j on => (Option.some.inj on).symm)
    (Grip.not_leaving shared) ?_
  · intro u other held
    rcases inv.fitsExclusive held with state | state | ⟨isQuiet, unowned, state⟩
    · simp [state] at ready
    · simp [state] at ready
    · simp [(fitted isQuiet).1] at unowned
  · intro isQuiet u nonzero handed
    obtain rfl := inv.handed_owner isQuiet (fitted isQuiet).1 (.inl ready) nonzero handed
    exact ⟨by simp, fun _ => .inl (fitted isQuiet).1⟩

/-- **A zombie is reclaimed**: READY → FREE, in a pool that is not quiet. -/
theorem Inv.reclaim (noisy : ¬ quiet)
    (shared : (holds t).grip.exclusive = none) (ready : (m.pool.slots i).state = .ready) :
    Inv quiet (m.touched t i { m.pool.slots i with state := .free } [] m.history.handed)
      (update holds t { holds t with grip := .loose }) := by
  refine inv.touch .loose (.zombie _ noisy ready) rfl ?_ (fun a => .inl rfl) trivial
    (fun j on => by cases on) (Grip.not_leaving shared) fun isQuiet => absurd isQuiet noisy
  intro u other held
  rcases inv.fitsExclusive held with state | state | ⟨isQuiet, _⟩
  · simp [state] at ready
  · simp [state] at ready
  · exact noisy isQuiet

/-- What a thread's grip on a slot excludes for the others. -/
theorem Inv.apart (held : (holds t).grip.exclusive = some i) :
    ∀ u ≠ t, (holds u).grip.exclusive ≠ some i :=
  fun u other held' => other (inv.exclusive u t i held' held)

end

/-- The thread that puts a slot back to FREE releases its connection. -/
def Memory.released (m : Memory) (t : Thread) (i : ℕ) (state : SlotState) :
    ConnId → Option Thread :=
  if state = .free ∧ m.history.handed (m.pool.slots i).conn = some t then
    update m.history.handed (m.pool.slots i).conn none
  else m.history.handed

theorem Memory.released_fewer (m : Memory) (t : Thread) (i : ℕ) (state : SlotState) (a : ConnId) :
    m.released t i state a = m.history.handed a ∨ m.released t i state a = none := by
  unfold Memory.released
  split
  · by_cases same : a = (m.pool.slots i).conn
    · exact .inr (by simp [same])
    · exact .inl (by simp [same])
  · exact .inl rfl

theorem Memory.handed_of_released {a : ConnId} (handed : m.released t i state a = some u) :
    m.history.handed a = some u := by
  rcases m.released_fewer t i state a with same | gone
  · exact same.symm.trans handed
  · rw [gone] at handed
    cases handed

section

variable (inv : Inv quiet m holds)
include inv

/-- **The state of a slot of one's own is set**, and its claim given up. -/
theorem Inv.settle (held : (holds t).grip.exclusive = some i)
    (stays : ∀ j, (holds t).grip ≠ .leaving j)
    (change : Change quiet t (m.pool.slots i) { m.pool.slots i with state })
    (mine : state = .ready → quiet →
      (m.pool.slots i).ownerThread = some t ∧ ∀ c ∈ known, (m.pool.slots i).conn = c)
    (here : quiet → ∀ u, (m.pool.slots i).conn ≠ 0 →
      m.history.handed (m.pool.slots i).conn = some u → state ≠ .free ∧
        (state = .ready ∨ state = .reconnecting → (m.pool.slots i).ownerThread = some u)) :
    Inv quiet (m.touched t i { m.pool.slots i with state } [] (m.released t i state))
      (update holds t
        { holds t with grip := if state = .ready then .mine i known else .loose }) := by
  have noClaims : (if state = .ready then Grip.mine i known else .loose).claims = [] := by
    split <;> rfl
  rw [← noClaims]
  refine inv.touch _ change rfl (inv.apart held) (m.released_fewer t i state) ?_ ?_
    (fun j gone => absurd gone (stays j)) ?_
  · split
    next ready => exact fun isQuiet => ⟨(mine ready isQuiet).1, ready, (mine ready isQuiet).2⟩
    · trivial
  · intro j on
    split at on
    · exact (Option.some.inj on).symm
    · cases on
  · intro isQuiet u nonzero handed
    obtain ⟨notFree, own⟩ := here isQuiet u nonzero (Memory.handed_of_released handed)
    exact ⟨notFree, fun state => .inl (own state)⟩

/-- **A claimed slot is published**: to FREE or READY only if nobody else was handed its connection,
to READY only with its owner written. -/
theorem Inv.publish (claimed : (holds t).grip = .reserved i known owned clean)
    (fit : state = .free ∧ clean = true ∨ state = .ready ∧ owned = true ∧ clean = true ∨
      state = .error) :
    Inv quiet (m.touched t i { m.pool.slots i with state } [] (m.released t i state))
      (update holds t
        { holds t with grip := if state = .ready then .mine i known else .loose }) := by
  obtain ⟨isReserved, isKnown, own, unheld⟩ := inv.fitted claimed rfl
  have owner : state = .ready → (m.pool.slots i).ownerThread = some t := by
    rintro rfl
    rcases fit with ⟨free, _⟩ | ⟨_, isOwned, _⟩ | error
    · cases free
    · exact own isOwned
    · cases error
  have isClean : state ≠ .error → clean = true := by
    rcases fit with fit | fit | fit <;> simp_all
  refine inv.settle (by rw [claimed]; rfl) (by simp [claimed])
    (.inside _ _ (.inl isReserved) (.inl rfl) fun _ ready => owner ready)
    (fun ready _ => ⟨owner ready, isKnown⟩) fun isQuiet u nonzero handed => ?_
  by_cases error : state = .error
  · simp [error]
  · rw [unheld isQuiet (isClean error)] at handed
    cases handed

/-- **A reconnected slot is published again.** -/
theorem Inv.republish (claimed : (holds t).grip = .reconnecting i known)
    (fit : state = .ready ∨ state = .error) :
    Inv quiet (m.touched t i { m.pool.slots i with state } [] (m.released t i state))
      (update holds t
        { holds t with grip := if state = .ready then .mine i known else .loose }) := by
  obtain ⟨isReconnecting, own⟩ := inv.fitted claimed rfl
  refine inv.settle (by rw [claimed]; rfl) (by simp [claimed])
    (.inside _ _ (.inr isReconnecting) (.inl rfl) fun isQuiet _ => (own isQuiet).1)
    (fun _ => own) fun isQuiet u nonzero handed => ?_
  obtain rfl := inv.handed_owner isQuiet (own isQuiet).1 (.inr isReconnecting) nonzero handed
  exact ⟨by rcases fit with fit | fit <;> simp [fit], fun _ => (own isQuiet).1⟩

/-- **A slot of one's own loses its owner**, as the first half of putting it back. -/
theorem Inv.leave (isQuiet : quiet)
    (mine : (holds t).grip = .mine i known) :
    Inv quiet (m.touched t i { m.pool.slots i with ownerThread := none } [] m.history.handed)
      (update holds t { holds t with grip := .leaving i }) := by
  obtain ⟨own, ready, _⟩ := inv.fitted mine rfl isQuiet
  refine inv.touch (.leaving i) (.leave _ own ready) rfl ?_ (fun a => .inl rfl)
    ⟨isQuiet, rfl, ready⟩ (fun j on => (Option.some.inj on).symm)
    (fun j gone => by rw [mine] at gone; cases gone) ?_
  · intro u other held
    rcases inv.fitsExclusive held with state | state | ⟨_, unowned, _⟩
    · simp [state] at ready
    · simp [state] at ready
    · simp [own] at unowned
  · intro _ u nonzero handed
    obtain rfl := inv.handed_owner isQuiet own (.inl ready) nonzero handed
    exact ⟨by simp [ready], fun _ => .inr (by simp)⟩

/-- **The slot is back.** -/
theorem Inv.left (leaving : (holds t).grip = .leaving i) :
    Inv quiet (m.touched t i { m.pool.slots i with state := .free } [] (m.released t i .free))
      (update holds t { holds t with grip := .loose }) := by
  obtain ⟨isQuiet, unowned, ready⟩ := inv.fitted leaving rfl
  have apart := inv.apart (t := t) (i := i) (by rw [leaving]; rfl)
  refine inv.touch .loose (.left _ unowned ready) rfl apart (m.released_fewer t i .free) trivial
    (fun j on => by cases on) (fun j gone => ?_) ?_
  · rw [leaving] at gone
    cases gone
    rfl
  · intro _ u nonzero released
    have handed := Memory.handed_of_released released
    rcases ((inv.kept isQuiet).slot i u nonzero handed).2 (.inl ready) with owned | gone
    · simp [unowned] at owned
    · have self : u = t := by
        by_contra other
        exact apart u other (by rw [gone]; rfl)
      subst self
      simp [Memory.released, handed] at released

/-- **The owner of a claimed slot is written.** -/
theorem Inv.own
    (claimed : (holds t).grip = .reserved i known owned clean)
    (fit : owner = some t ∨ owner = none) :
    Inv quiet
      (m.touched t i { m.pool.slots i with ownerThread := owner } [i] m.history.handed)
      (update holds t
        { holds t with grip := .reserved i known (decide (owner = some t)) clean }) := by
  obtain ⟨isReserved, isKnown, _, unheld⟩ := inv.fitted claimed rfl
  have change : Change quiet t (m.pool.slots i) { m.pool.slots i with ownerThread := owner } :=
    .inside _ _ (.inl isReserved) (.inr fit) fun _ ready => by simp [isReserved] at ready
  refine inv.touch (.reserved i known _ clean) change rfl (inv.apart (by rw [claimed]; rfl))
    (fun a => .inl rfl) ⟨isReserved, isKnown, by simp, unheld⟩
    (fun j on => (Option.some.inj on).symm) (fun j gone => by rw [claimed] at gone; cases gone) ?_
  exact fun _ u _ _ => by simp [isReserved]

end

end Touch

/-! ### One operation of the system -/

section System

variable {maxRetries i : ℕ} {state old new : SlotState} {choice : Choice}

theorem system_storeState (claims : (m.history.claims t).erase i = []) :
    (system maxRetries).effect t (.storeState i state) () m =
      m.touched t i { m.pool.slots i with state } [] (m.released t i state) := by
  simp only [system, effect, setSlot, History.record, claims,
    Memory.touched, Memory.released]

theorem system_storeOwner (claimed : m.history.claims t = claims) :
    (system maxRetries).effect t (.storeOwner i owner) () m =
      m.touched t i { m.pool.slots i with ownerThread := owner } claims m.history.handed := by
  subst claimed
  simp only [system, effect, setSlot, History.record, Memory.touched,
    update_eq_self]

theorem system_casState (claims : m.history.claims t = []) :
    (system maxRetries).effect t (.casState i old new) true m =
      m.touched t i { m.pool.slots i with state := new }
        (if History.claimsSlot new = true then [i] else []) m.history.handed := by
  have noClaims : update m.history.claims t [] = m.history.claims := by
    rw [← claims, update_eq_self]
  cases new <;>
    simp [system, effect, setSlot, History.record, Memory.touched,
      History.claimsSlot, claims, noClaims]

theorem Inv.casState (inv : Inv quiet m holds)
    (allowed : allows quiet t (holds t) (.casState i old new))
    (found : (m.pool.slots i).state = old)
    (noZombie : quiet → old = .ready → new = .free → (m.pool.slots i).state ≠ .ready) :
    Inv quiet ((system maxRetries).effect t (.casState i old new) true m)
      (update holds t { holds t with grip := (holds t).grip.swap i old new }) := by
  obtain ⟨shared, ⟨vacant, rfl, _⟩ | ⟨rfl, rfl, own⟩ | ⟨rfl, rfl⟩⟩ := allowed <;>
    rw [system_casState (by rw [inv.claims t, Grip.claims_of_not_exclusive shared])]
  · exact inv.claim shared vacant found
  · exact inv.reconnect shared own found
  · exact inv.reclaim (fun isQuiet => noZombie isQuiet rfl rfl found) shared found

theorem Inv.storeState (inv : Inv quiet m holds)
    (allowed : allows quiet t (holds t) (.storeState i state)) :
    Inv quiet ((system maxRetries).effect t (.storeState i state) () m)
      (update holds t { holds t with grip := (holds t).grip.publish state }) := by
  unfold allows at allowed
  cases grip : (holds t).grip with
  | reserved j known owned clean =>
    simp only [grip] at allowed
    obtain ⟨rfl, fit⟩ := allowed
    rw [system_storeState (by simp [inv.claims t, grip, Grip.claims])]
    exact inv.publish grip fit
  | reconnecting j known =>
    simp only [grip] at allowed
    obtain ⟨rfl, fit⟩ := allowed
    rw [system_storeState (by simp [inv.claims t, grip, Grip.claims])]
    exact inv.republish grip fit
  | leaving j =>
    simp only [grip] at allowed
    obtain ⟨rfl, rfl⟩ := allowed
    rw [system_storeState (by simp [inv.claims t, grip, Grip.claims])]
    exact inv.left grip
  | _ => simp [grip] at allowed

theorem Inv.storeOwner (inv : Inv quiet m holds)
    (allowed : allows quiet t (holds t) (.storeOwner i owner)) :
    Inv quiet ((system maxRetries).effect t (.storeOwner i owner) () m)
      (update holds t { holds t with grip := (holds t).grip.own t owner }) := by
  unfold allows at allowed
  cases grip : (holds t).grip with
  | reserved j known owned clean =>
    simp only [grip] at allowed
    obtain ⟨rfl, fit⟩ := allowed
    rw [system_storeOwner ((inv.claims t).trans (congrArg Grip.claims grip))]
    exact inv.own grip fit
  | mine j known =>
    simp only [grip] at allowed
    obtain ⟨isQuiet, rfl, rfl⟩ := allowed
    rw [system_storeOwner ((inv.claims t).trans (congrArg Grip.claims grip))]
    exact inv.leave isQuiet grip
  | _ => simp [grip] at allowed

/-- **An operation its hold allows keeps the invariant.**  In a quiet pool no zombie is reclaimed,
and a thread that reads the owner first does so while its own slots are READY. -/
theorem Inv.step (inv : Inv quiet m holds) {op : Op} (allowed : allows quiet t (holds t) op)
    (noZombie : quiet → ∀ i, op = .casState i .ready .free → (m.pool.slots i).state ≠ .ready)
    (ready : quiet → (holds t).guarded = true → ∀ i, op = .loadOwner i →
      (m.pool.slots i).ownerThread = some t → (m.pool.slots i).state = .ready) :
    Inv quiet ((system maxRetries).effect t op ((system maxRetries).answer t op choice m) m)
      (update holds t
        (after t (holds t) op ((system maxRetries).answer t op choice m))) := by
  have unmoved : Inv quiet m (update holds t (holds t)) :=
    (update_eq_self t holds).symm ▸ inv
  cases op with
  | loadState i => exact inv.see (Grip.fits_seeState _ i (inv.fits t)) (Grip.still_seeState _ i _)
  | loadOwner i =>
    exact inv.see
      (Grip.fits_seeOwner _ i (fun isQuiet isGuarded => ready isQuiet isGuarded i rfl)
        (inv.fits t))
      (Grip.still_seeOwner _ i _ _)
  | loadConn i => exact inv.see (Grip.fits_seeConn _ i (inv.fits t)) (Grip.still_seeConn _ i _)
  | storeState i state => exact inv.storeState allowed
  | casState i old new =>
    rw [show (system maxRetries).answer t (.casState i old new) choice m = decide _ from rfl]
    by_cases found : (m.pool.slots i).state = old
    · rw [decide_eq_true found]
      exact inv.casState allowed found fun isQuiet isReady isFree =>
        noZombie isQuiet i (by rw [isReady, isFree])
    · rw [decide_eq_false found]
      exact unmoved
  | storeOwner i owner => exact inv.storeOwner allowed
  | storeConn i conn =>
    unfold allows at allowed
    cases grip : (holds t).grip with
    | reserved j known owned clean =>
      simp only [grip] at allowed
      obtain ⟨rfl, rfl, which⟩ := allowed
      simp only [after, grip]
      exact inv.storeConn grip which
    | _ => simp [grip] at allowed
  | swapConn i =>
    unfold allows at allowed
    cases grip : (holds t).grip with
    | reserved j known owned clean =>
      simp only [grip] at allowed
      subst allowed
      have swapped := inv.swapConn grip rfl
      rw [show (system maxRetries).answer t (.swapConn j) choice m = (m.pool.slots j).conn from rfl]
      by_cases empty : (m.pool.slots j).conn = 0 <;>
        simpa [system, effect, History.record, after, grip, Grip.fill, ← inv.hands t,
          empty] using swapped
    | _ => simp [grip] at allowed
  | create =>
    by_cases fails : choice.address = 0 ∨ m.pool.heap choice.address = true
    · have answered : (system maxRetries).answer t .create choice m = (0, false) := if_pos fails
      rw [answered]
      exact unmoved
    · have answered : (system maxRetries).answer t .create choice m =
        (choice.address, choice.flag) :=
        if_neg fails
      obtain ⟨some, unused⟩ := not_or.mp fails
      have made := inv.create (t := t) (by simpa using unused) some
      rw [answered]
      simpa [system, effect, History.record, after, some] using made
  | destroy conn => exact inv.destroy allowed
  | ask | work => exact unmoved
  | aside what =>
    rw [show after t (holds t) (.aside what) _ = holds t from rfl, update_eq_self]
    have changed := m.pool.changed t (.aside what)
      ((system maxRetries).answer t (.aside what) choice m)
    refine inv.unmoved (fun i => ⟨?_, ?_, ?_⟩) (changed.heap.resolve_right (by simp))
      changed.registry rfl
    · exact (changed.slot i).conn.resolve_right (by simp)
    · exact (changed.slot i).owner.resolve_right (by simp)
    · exact (changed.slot i).state.resolve_right (by simp)

end System

/-! ### The end of a call -/

/-- **How a call ends**: with no slot claimed and nothing in its hands, and with the connection it
hands out in a slot of its own. -/
structure Ends (quiet : Prop) (conn : ConnId) (h : Hold) : Prop where
  shared : h.grip.exclusive = none
  hands : h.hands = []
  mine : quiet → conn ≠ 0 → ∃ i, h.grip = .mine i (some conn)

/-- Whoever was handed the connection of a slot of one's own is oneself. -/
theorem Inv.handed_mine (inv : Inv quiet m holds) (isQuiet : quiet) {i : ℕ} {conn : ConnId}
    (nonzero : conn ≠ 0) (mine : (holds t).grip = .mine i (some conn))
    (handed : m.history.handed conn = some u) : u = t := by
  obtain ⟨own, ready, known⟩ := inv.fitted mine rfl isQuiet
  have held := known conn rfl
  exact inv.handed_owner isQuiet own (.inl ready) (held ▸ nonzero) (held ▸ handed)

/-- A thread that is done, or that has just been called, holds nothing. -/
theorem Inv.rest (inv : Inv quiet m holds) (shared : (holds t).grip.exclusive = none)
    (hands : (holds t).hands = []) (guarded : Bool) :
    Inv quiet m (update holds t { idle with guarded }) := by
  refine inv.of_thread (fun u _ => inv.fits u) (fun i about => by cases about) ?_ ?_
    (fun a => .inl rfl) (fun nonzero => absurd rfl nonzero) (fun u _ i held => by cases held)
    inv.placed ?_
  · rw [show idle.grip.claims = m.history.claims t by
      rw [inv.claims t, Grip.claims_of_not_exclusive shared]; rfl, update_eq_self]
  · rw [show idle.hands = m.history.hands t by rw [inv.hands t, hands]; rfl,
      update_eq_self]
  · exact fun isQuiet => (inv.kept isQuiet).leavingOn fun i gone => by
      rw [gone] at shared
      cases shared

/-- **Handing out the connection of a slot of one's own** keeps the invariant. -/
theorem Inv.hand (inv : Inv quiet m holds) {conn : ConnId} (ends : Ends quiet conn (holds t)) :
    Inv quiet { m with history := m.history.hand t conn } (update holds t idle) := by
  have rested : Inv quiet m (update holds t idle) :=
    inv.rest ends.shared ends.hands false
  by_cases zero : conn = 0
  · rw [show m.history.hand t conn = m.history from if_pos zero]
    exact rested
  rw [show m.history.hand t conn = { m.history with
    handed := update m.history.handed conn (some t) } from if_neg zero]
  -- In a quiet pool the connection is in a READY slot, so in no claimed slot and in nobody's hands.
  have here : quiet → ∃ i, (m.pool.slots i).conn = conn ∧ (m.pool.slots i).state = .ready ∧
      (m.pool.slots i).ownerThread = some t := by
    intro isQuiet
    obtain ⟨i, mine⟩ := ends.mine isQuiet zero
    obtain ⟨own, ready, known⟩ := inv.fitted mine rfl isQuiet
    exact ⟨i, known conn rfl, ready, own⟩
  have only : ∀ i j, (m.pool.slots i).conn = conn → (m.pool.slots j).conn = conn → i = j := by
    intro i j first second
    have same := inv.placed.one conn (.slot i) (.slot j) ⟨zero, first⟩ ⟨zero, second⟩
    simpa using same
  refine ⟨fun u i about => ?_, rested.claims, rested.hands, fun u nonzero => ?_, rested.exclusive,
    inv.placed.same (fun a p => by cases p <;> exact Iff.rfl) rfl rfl rfl, fun isQuiet => ?_⟩
  · have fitted := rested.fits u i about
    generalize (update holds t idle u).grip = grip at fitted
    cases grip with
    | reserved j known owned clean =>
      obtain ⟨state, isKnown, own, unheld⟩ := fitted
      refine ⟨state, isKnown, own, fun isQuiet isClean => ?_⟩
      have other : (m.pool.slots i).conn ≠ conn := by
        intro same
        obtain ⟨k, held, ready, _⟩ := here isQuiet
        obtain rfl := only i k same held
        simp [state] at ready
      simpa [other] using unheld isQuiet isClean
    | _ => exact fitted
  · obtain ⟨inHands, unheld⟩ := rested.fresh u nonzero
    refine ⟨inHands, fun isQuiet => ?_⟩
    have other : (update holds t idle u).fresh ≠ conn := by
      intro same
      obtain ⟨i, held, _⟩ := here isQuiet
      have := inv.placed.one conn (.slot i) (.hands u) ⟨zero, held⟩
        ⟨zero, by rw [rested.hands u, ← same]; exact inHands⟩
      cases this
    simpa [other] using unheld isQuiet
  · obtain ⟨i, held, ready, own⟩ := here isQuiet
    refine ⟨fun a u handed => ?_, fun j u nonzero handed => ?_⟩
    · by_cases same : a = conn
      · rw [same]
        exact inv.placed.live conn (.slot i) ⟨zero, held⟩ (by simp)
      · exact (inv.kept isQuiet).live a u (by simpa [same] using handed)
    · by_cases same : (m.pool.slots j).conn = conn
      · obtain rfl := only i j held same
        have self : t = u := by simpa [same] using handed
        exact ⟨by simp [ready], fun _ => .inl (self ▸ own)⟩
      · exact (rested.kept isQuiet).slot j u nonzero (by simpa [same] using handed)

end PlexPostgres.Pool
