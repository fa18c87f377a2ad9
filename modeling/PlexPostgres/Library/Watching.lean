import PlexPostgres.Library.Threads

/-!
# Watching one thread

What one thread of a system does can be followed without a word about the others: beside the state
stands the hold of that thread, which its own operations change and nothing else does.  The other
threads may run any programs at all, as long as what they do to the memory leaves alone what is
said of the watched thread.
-/

namespace Threads

section Performs

variable {Op : Type} {Ans : Op → Type} {Hold α β ι : Type} {terms : Terms Op Ans Hold}

/-- Every operation satisfies `only`; the hold says nothing. -/
def doing (only : Op → Prop) : Terms Op Ans Unit := ⟨fun _ op => only op, fun _ _ _ => ()⟩

/-- **The program performs only such operations**, and ends with such values. -/
def Performs (only : Op → Prop) (p : Prog Op Ans α) (results : α → Prop) : Prop :=
  Safe (doing only) p () fun a _ => results a

variable {only : Op → Prop} {p : Prog Op Ans α} {results : α → Prop}

theorem Performs.bind {f : α → Prog Op Ans β} {results' : β → Prop}
    (first : Performs only p results) (rest : ∀ a, results a → Performs only (f a) results') :
    Performs only (p >>= f) results' :=
  Safe.bind first fun a _ ended => rest a ended

theorem Performs.mono {only' : Op → Prop} {results' : α → Prop} (performs : Performs only p results)
    (wider : ∀ op, only op → only' op) (weaker : ∀ a, results a → results' a) :
    Performs only' p results' := by
  induction p with
  | done a => exact weaker a performs
  | act op next ih => exact ⟨wider op performs.1, fun answer => ih answer (performs.2 answer)⟩

variable {items : List ι} {body : ι → Prog Op Ans (Option β)}

theorem Performs.firstOf {results : Option β → Prop}
    (one : ∀ i ∈ items, Performs only (body i) results) (none_found : results none) :
    Performs only (Prog.firstOf items body) results :=
  Safe.firstOf (fun i mem _ _ => one i mem) none_found

theorem Performs.each {body : ι → Prog Op Ans Unit}
    (one : ∀ i ∈ items, Performs only (body i) fun _ => True) :
    Performs only (Prog.each items body) fun _ => True :=
  Safe.each (fun _ _ => True) (fun i mem _ _ _ => one i mem) trivial

theorem Performs.gather (one : ∀ i ∈ items, Performs only (body i) fun _ => True) {found : List β} :
    Performs only (Prog.gather items body found) fun _ => True :=
  Safe.gather (fun _ _ => True) (fun i mem _ _ _ => one i mem) trivial

theorem Performs.onlyIf {condition : Prop} [Decidable condition] {p : Prog Op Ans Unit}
    (performs : condition → Performs only p fun _ => True) :
    Performs only (Prog.onlyIf condition p) fun _ => True :=
  Safe.onlyIf performs fun _ => trivial

/-- **Operations that leave a hold alone** leave it alone together. -/
theorem Safe.still {h : Hold} (performs : Performs only p results)
    (allowed : ∀ op, only op → terms.allows h op)
    (leaves : ∀ op answer, only op → terms.after h op answer = h) :
    Safe terms p h fun a h' => h' = h ∧ results a := by
  induction p with
  | done a => exact ⟨rfl, performs⟩
  | act op next ih =>
    refine ⟨allowed op performs.1, fun answer => ?_⟩
    rw [leaves op answer performs.1]
    exact ih answer (performs.2 answer)

end Performs

namespace System

variable {Thread Op : Type} {Ans : Op → Type} {Memory Choice Call Result Hold : Type}
  {sys : System Thread Op Ans Memory Choice Call Result}

variable (sys) in
/-- **The program, run by one thread with nobody moving beside it, can end with `ends`**: some
choices of the world, all of them `fits`, lead there. -/
def Can {α : Type} (fits : Choice → Prop) (t : Thread) :
    Prog Op Ans α → Memory → (α → Memory → Prop) → Prop
  | .done a, m, ends => ends a m
  | .act op next, m, ends =>
    ∃ choice, fits choice ∧
      Can fits t (next (sys.answer t op choice m))
        (sys.effect t op (sys.answer t op choice m) m) ends

section Can

variable {α β : Type} {fits : Choice → Prop} {t : Thread} {m : Memory} {p : Prog Op Ans α}
  {f : α → Prog Op Ans β}

theorem can_bind {ends : β → Memory → Prop} :
    sys.Can fits t (p >>= f) m ends ↔
      sys.Can fits t p m fun a m => sys.Can fits t (f a) m ends := by
  induction p generalizing m with
  | done a => exact Iff.rfl
  | act op next ih => exact exists_congr fun choice => and_congr_right fun _ => ih _

theorem Can.mono {ends ends' : α → Memory → Prop} (can : sys.Can fits t p m ends)
    (weaker : ∀ a m, ends a m → ends' a m) : sys.Can fits t p m ends' := by
  induction p generalizing m with
  | done a => exact weaker a m can
  | act op next ih =>
    obtain ⟨choice, fit, can⟩ := can
    exact ⟨choice, fit, ih _ can⟩

theorem Can.bind {middle : α → Memory → Prop} {ends : β → Memory → Prop}
    (first : sys.Can fits t p m middle) (rest : ∀ a m, middle a m → sys.Can fits t (f a) m ends) :
    sys.Can fits t (p >>= f) m ends :=
  can_bind.mpr (first.mono rest)

end Can

/-! ### What a watched thread has -/

variable {watched : State Thread Op Ans Memory Call Result × Hold} {call : Call}

section Watched

variable {t : Thread} {terms : Terms Op Ans Hold} {between : Hold → Prop}
  {ends : Result → Hold → Prop}

/-- Between its calls the hold of the thread satisfies `between`; in a call it can safely go on. -/
def Watched (terms : Terms Op Ans Hold) (between : Hold → Prop) (ends : Result → Hold → Prop)
    (t : Thread) (watched : State Thread Op Ans Memory Call Result × Hold) : Prop :=
  match watched.1.running t with
  | none => between watched.2
  | some (_, p) => Safe terms p watched.2 ends

theorem Watched.ended {result : Result} (fits : Watched terms between ends t watched)
    (returns : watched.1.returning t = some (call, result)) : ends result watched.2 := by
  unfold Watched at fits
  rwa [State.running_of_returning returns] at fits

theorem Watched.idle (fits : Watched terms between ends t watched)
    (idle : watched.1.running t = none) :
    between watched.2 := by
  simpa [Watched, idle] using fits

end Watched

variable [DecidableEq Thread]

variable {s : State Thread Op Ans Memory Call Result}

/-- **The choices that lead a program to its end make a run** that brings the thread to its
return. -/
theorem Can.reached {fits : Choice → Prop} {t : Thread} {p : Prog Op Ans Result}
    {ends : Result → Memory → Prop} (busy : s.running t = some (call, p))
    (can : sys.Can fits t p s.memory ends) :
    ∃ choices : List Choice, (∀ choice ∈ choices, fits choice) ∧ ∃ result,
      let s' := Runs.final sys.next s (choices.map (.step t))
      s'.returning t = some (call, result) ∧ ends result s'.memory := by
  induction p generalizing s with
  | done result => exact ⟨[], by simp, result, by simp [State.returning, busy], can⟩
  | act op next ih =>
    obtain ⟨choice, fit, can⟩ := can
    have moved : sys.next s (.step t choice) =
        ⟨sys.effect t op (sys.answer t op choice s.memory) s.memory,
          Function.update s.running t
            (some (call, next (sys.answer t op choice s.memory)))⟩ := by
      simp [System.next, busy]
    obtain ⟨choices, fitting, result, returns, ended⟩ :=
      ih (sys.answer t op choice s.memory) (s := sys.next s (.step t choice)) (by simp [moved])
        (by rw [moved]; exact can)
    exact ⟨choice :: choices, List.forall_mem_cons.mpr ⟨fit, fitting⟩, result, returns, ended⟩

/-! ### One thread among the others -/

section Watch

variable {t : Thread} {terms : Terms Op Ans Hold} {enter leave : Hold → Hold}

variable (sys) in
/-- **One step of the system, with the hold of thread `t` beside it**: the hold is changed by
`enter` when the thread is called and by `leave` when it returns, and is what the terms say after
each of its operations. -/
def watch (terms : Terms Op Ans Hold) (enter leave : Hold → Hold) (t : Thread)
    (watched : State Thread Op Ans Memory Call Result × Hold) (move : Move Thread Choice Call) :
    State Thread Op Ans Memory Call Result × Hold :=
  (sys.next watched.1 move,
    match move with
    | .start u _ => if u = t ∧ (watched.1.running t).isNone then enter watched.2 else watched.2
    | .step u choice =>
      if u = t then
        match watched.1.running t with
        | some (_, .act op _) =>
          terms.after watched.2 op (sys.answer t op choice watched.1.memory)
        | some (_, .done _) => leave watched.2
        | none => watched.2
      else watched.2)

/-- The watched run is the run. -/
theorem final_watch_fst (watched : State Thread Op Ans Memory Call Result × Hold)
    (moves : List (Move Thread Choice Call)) :
    (Runs.final (sys.watch terms enter leave t) watched moves).1 =
      Runs.final sys.next watched.1 moves := by
  induction moves generalizing watched with
  | nil => rfl
  | cons move rest ih => exact ih _

/-- What the steps of a run meet, they meet while a thread is watched. -/
theorem meets_watch {watched : State Thread Op Ans Memory Call Result × Hold}
    {ok : State Thread Op Ans Memory Call Result → Move Thread Choice Call → Prop}
    {moves : List (Move Thread Choice Call)} (met : Runs.Meets sys.next ok watched.1 moves) :
    Runs.Meets (sys.watch terms enter leave t) (fun watched => ok watched.1) watched moves := by
  induction moves generalizing watched with
  | nil => trivial
  | cons move rest ih => exact ⟨met.1, ih met.2⟩

variable {between : Hold → Prop} {ends : Result → Hold → Prop}

/-- **Invariant rule for one thread.**  Let its operations keep `Inv` when the hold allows them
and the step meets `ok`; let the operations of the others and the end of a call keep `Inv` as well;
and let every program the thread is called with be safe.  Then every run whose steps meet `ok`
keeps `Inv`, with a hold that fits what the thread still has to do. -/
theorem watch_invariant (Inv : Memory → Hold → Prop)
    {ok : State Thread Op Ans Memory Call Result × Hold → Move Thread Choice Call → Prop}
    (starts : ∀ m h s call, ok (s, h) (.start t call) → Inv m h → between h →
      Inv m (enter h) ∧ Safe terms (sys.program t call) (enter h) ends)
    (mine : ∀ s h choice call op rest, ok (s, h) (.step t choice) →
      s.running t = some (call, .act op rest) → Inv s.memory h → terms.allows h op →
        Inv (sys.effect t op (sys.answer t op choice s.memory) s.memory)
          (terms.after h op (sys.answer t op choice s.memory)))
    (others : ∀ s h u choice call op rest, u ≠ t → ok (s, h) (.step u choice) →
      s.running u = some (call, .act op rest) → Inv s.memory h →
        Inv (sys.effect u op (sys.answer u op choice s.memory) s.memory) h)
    (finishes : ∀ u call result m h, Inv m h → Inv (sys.finish u call result m) h)
    (leaves : ∀ result m h, Inv m h → ends result h → Inv m (leave h) ∧ between (leave h))
    {moves : List (Move Thread Choice Call)}
    (met : Runs.Meets (sys.watch terms enter leave t) ok watched moves)
    (start : Inv watched.1.memory watched.2 ∧ Watched terms between ends t watched) :
    Inv (Runs.final (sys.watch terms enter leave t) watched moves).1.memory
        (Runs.final (sys.watch terms enter leave t) watched moves).2 ∧
      Watched terms between ends t (Runs.final (sys.watch terms enter leave t) watched moves) := by
  refine met.invariant
    (fun watched => Inv watched.1.memory watched.2 ∧ Watched terms between ends t watched) ?_ start
  rintro ⟨s, h⟩ move ⟨inv, fits⟩ good
  have before := And.intro inv fits
  unfold Watched at fits
  cases move with
  | start u call =>
    by_cases same : u = t
    · subst same
      cases busy : s.running u with
      | some task => simpa [watch, next, busy, Watched] using before
      | none =>
        have between : between h := by simpa [busy] using fits
        obtain ⟨entered, safe⟩ := starts s.memory h s call good inv between
        simpa [watch, next, busy, Watched] using ⟨entered, safe⟩
    · have other : t ≠ u := Ne.symm same
      cases busy : s.running u <;>
        simpa [watch, next, busy, same, other, Watched] using before
  | step u choice =>
    cases busy : s.running u with
    | none =>
      by_cases same : u = t
      · subst same
        simpa [watch, next, busy, Watched] using before
      · simpa [watch, next, busy, same, Watched] using before
    | some task =>
      obtain ⟨call, p⟩ := task
      by_cases same : u = t
      · subst same
        have safe : Safe terms p h ends := by simpa [busy] using fits
        cases p with
        | done result =>
          obtain ⟨kept, left⟩ :=
            leaves result _ h (finishes u call result s.memory h inv) safe
          simpa [watch, next, busy, Watched] using ⟨kept, left⟩
        | act op rest =>
          have kept := mine s h choice call op rest good busy inv safe.1
          have goes := safe.2 (sys.answer u op choice s.memory)
          simpa [watch, next, busy, Watched] using ⟨kept, goes⟩
      · have other : t ≠ u := Ne.symm same
        cases p with
        | done result =>
          have kept := finishes u call result s.memory h inv
          simpa [watch, next, busy, same, other, Watched] using ⟨kept, fits⟩
        | act op rest =>
          have kept := others s h u choice call op rest same good busy inv
          simpa [watch, next, busy, same, other, Watched] using ⟨kept, fits⟩

end Watch

/-! ### Every call ends -/

section Fair

variable {t : Thread}

/-- Only a step of its own changes what a busy thread still has to do. -/
theorem next_running_of_busy {task : Call × Prog Op Ans Result} (busy : s.running t = some task)
    {move : Move Thread Choice Call} (other : ∀ choice, move ≠ .step t choice) :
    (sys.next s move).running t = some task := by
  cases move with
  | start u call =>
    by_cases same : u = t
    · subst same
      simp [next, busy]
    · cases free : s.running u <;> simp [next, free, Ne.symm same, busy]
  | step u choice =>
    have different : t ≠ u := fun same => other choice (by rw [same])
    cases free : s.running u with
    | none => simpa [next, free] using busy
    | some task =>
      obtain ⟨call, p⟩ := task
      cases p <;> simp [next, free, different, busy]

/-- A thread that has an operation to perform performs it when its turn comes. -/
theorem eventually_performs {op : Op} {rest : Ans op → Prog Op Ans Result}
    (busy : s.running t = some (call, .act op rest)) (m : ℕ)
    {schedule : ℕ → Move Thread Choice Call} {choice : Choice}
    (turn : schedule m = .step t choice) :
    ∃ n answer,
      (Runs.final sys.next s ((List.range (n + 1)).map schedule)).running t =
        some (call, rest answer) := by
  induction m generalizing s schedule with
  | zero =>
    refine ⟨0, sys.answer t op choice s.memory, ?_⟩
    simp [turn, next, busy]
  | succ m ih =>
    by_cases first : ∃ choice, schedule 0 = .step t choice
    · obtain ⟨choice, first⟩ := first
      exact ⟨0, sys.answer t op choice s.memory, by simp [first, next, busy]⟩
    · have waits : (sys.next s (schedule 0)).running t = some (call, .act op rest) :=
        next_running_of_busy busy fun choice now => first ⟨choice, now⟩
      obtain ⟨n, answer, moved⟩ :=
        @ih (sys.next s (schedule 0)) waits (fun k => schedule (k + 1)) turn
      refine ⟨n + 1, answer, ?_⟩
      rw [List.range_succ_eq_map, List.map_cons, Runs.final_cons, List.map_map]
      exact moved

/-- **Every call ends**: a thread whose turn always comes again returns from its call, whatever the
others do. -/
theorem eventually_returns {p : Prog Op Ans Result} (busy : s.running t = some (call, p))
    {schedule : ℕ → Move Thread Choice Call}
    (fair : ∀ n, ∃ m, n ≤ m ∧ ∃ choice, schedule m = .step t choice) :
    ∃ n result,
      (Runs.final sys.next s ((List.range n).map schedule)).returning t = some (call, result) := by
  induction p generalizing s schedule with
  | done result => exact ⟨0, result, by simp [State.returning, busy]⟩
  | act op rest ih =>
    obtain ⟨m, -, choice, turn⟩ := fair 0
    obtain ⟨n, answer, moved⟩ := eventually_performs busy m turn
    have later : ∀ k, ∃ m, k ≤ m ∧ ∃ choice,
      (fun k => schedule (n + 1 + k)) m = .step t choice := by
      intro k
      obtain ⟨m, after, choice, turn⟩ := fair (n + 1 + k)
      refine ⟨m - (n + 1), by omega, choice, ?_⟩
      show schedule (n + 1 + (m - (n + 1))) = .step t choice
      rw [← turn, Nat.add_sub_cancel' (by omega)]
    obtain ⟨more, result, returns⟩ := ih answer moved later
    refine ⟨n + 1 + more, result, ?_⟩
    rw [List.range_add, List.map_append, Runs.final_append, List.map_map]
    exact returns

end Fair

end System

end Threads
