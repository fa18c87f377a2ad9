import PlexPostgres.Library.Runs

/-!
# Threads that share a memory

A program is a tree of atomic operations: it performs one, is given an answer, and goes on
with the rest.  Several threads each run such a program over one memory, and a run picks at
every step the thread that moves next, so the runs are all the interleavings of the operations.

What one thread may rely on is written as `Terms`: a *hold* says what a thread has in its hands
and knows of the memory, and the terms say which operations a hold allows and which hold the
thread has after the answer.  A program is `Safe` from a hold if it
never performs an operation its hold does not allow, whatever it is answered.
-/

namespace Threads

open Function (update update_idem)

/-- **A program** over the operations `Op`, ending with a value. -/
inductive Prog (Op : Type) (Ans : Op → Type) (α : Type) : Type where
  | done (value : α)
  | act (op : Op) (next : Ans op → Prog Op Ans α)

namespace Prog

variable {Op : Type} {Ans : Op → Type} {α β ι : Type}

/-- Run one program and then the one its value asks for. -/
def bind : Prog Op Ans α → (α → Prog Op Ans β) → Prog Op Ans β
  | done a, f => f a
  | act op next, f => act op fun answer => (next answer).bind f

instance : Monad (Prog Op Ans) where
  pure := done
  bind := bind

/-- One operation, and its answer. -/
def perform (op : Op) : Prog Op Ans (Ans op) := act op done

/-- Run a program only if a condition holds. -/
def onlyIf (condition : Prop) [Decidable condition] (p : Prog Op Ans Unit) : Prog Op Ans Unit :=
  if condition then p else pure ()

/-- **A loop that returns early**: the first item whose body returns something ends it. -/
def firstOf (items : List ι) (body : ι → Prog Op Ans (Option β)) : Prog Op Ans (Option β) :=
  match items with
  | [] => pure none
  | i :: rest => do
      match ← body i with
      | some b => pure (some b)
      | none => firstOf rest body

/-- **A loop that collects**: what the bodies push, in order, after `found`. -/
def gather (items : List ι) (body : ι → Prog Op Ans (Option β)) (found : List β) :
    Prog Op Ans (List β) :=
  match items with
  | [] => pure found
  | i :: rest => do
      let pushed ← body i
      gather rest body (found ++ pushed.toList)

/-- **A loop over every item.** -/
def each (items : List ι) (body : ι → Prog Op Ans Unit) : Prog Op Ans Unit :=
  match items with
  | [] => pure ()
  | i :: rest => do
      body i
      each rest body

end Prog

/-! ### Holds, and the programs that respect them -/

/-- **The terms of a thread**: what each operation asks of the hold of the thread that performs
it, and the hold after its answer. -/
structure Terms (Op : Type) (Ans : Op → Type) (Hold : Type) where
  allows : Hold → Op → Prop
  after : Hold → (op : Op) → Ans op → Hold

section Safe

variable {Op : Type} {Ans : Op → Type} {Hold α β ι : Type} {terms : Terms Op Ans Hold}

/-- **The program respects the terms** from hold `h` on, and ends with `ends`. -/
def Safe (terms : Terms Op Ans Hold) : Prog Op Ans α → Hold → (α → Hold → Prop) → Prop
  | .done a, h, ends => ends a h
  | .act op next, h, ends =>
    terms.allows h op ∧ ∀ answer, Safe terms (next answer) (terms.after h op answer) ends

variable {h : Hold} {p : Prog Op Ans α} {f : α → Prog Op Ans β}

@[simp] theorem safe_pure (a : α) (h : Hold) (ends : α → Hold → Prop) :
    Safe terms (pure a : Prog Op Ans α) h ends ↔ ends a h := Iff.rfl

theorem Safe.mono {ends ends' : α → Hold → Prop} (safe : Safe terms p h ends)
    (weaker : ∀ a h, ends a h → ends' a h) : Safe terms p h ends' := by
  induction p generalizing h with
  | done a => exact weaker a h safe
  | act op next ih =>
    exact ⟨safe.1, fun answer => ih answer (safe.2 answer)⟩

/-- **One program after another**: the first ends where the second is safe. -/
theorem safe_bind {ends : β → Hold → Prop} :
    Safe terms (p >>= f) h ends ↔ Safe terms p h fun a h => Safe terms (f a) h ends := by
  induction p generalizing h with
  | done a => exact Iff.rfl
  | act op next ih =>
    constructor
    · intro safe
      exact ⟨safe.1, fun answer => (ih answer).mp (safe.2 answer)⟩
    · intro safe
      exact ⟨safe.1, fun answer => (ih answer).mpr (safe.2 answer)⟩

theorem Safe.bind {middle : α → Hold → Prop} {ends : β → Hold → Prop}
    (first : Safe terms p h middle) (rest : ∀ a h, middle a h → Safe terms (f a) h ends) :
    Safe terms (p >>= f) h ends :=
  safe_bind.mpr (first.mono rest)

/-- **What every operation leaves true** may be added to the terms. -/
theorem Safe.keeping {ends : α → Hold → Prop} (always : Hold → Prop)
    (kept : ∀ h op answer, always h → terms.allows h op → always (terms.after h op answer))
    (safe : Safe terms p h ends) (start : always h) :
    Safe ⟨fun h op => always h ∧ terms.allows h op, terms.after⟩ p h fun a h =>
      always h ∧ ends a h := by
  induction p generalizing h with
  | done a => exact ⟨start, safe⟩
  | act op next ih =>
    exact ⟨⟨start, safe.1⟩, fun answer => ih answer (safe.2 answer) (kept h op answer start safe.1)⟩

theorem Safe.onlyIf {condition : Prop} [Decidable condition] {p : Prog Op Ans Unit}
    {ends : Unit → Hold → Prop} (holds : condition → Safe terms p h ends)
    (fails : ¬ condition → ends () h) : Safe terms (Prog.onlyIf condition p) h ends := by
  unfold Prog.onlyIf
  split
  next yes => exact holds yes
  next no => exact fails no

/-- One program, and what is to follow where it has found nothing. -/
theorem Safe.orElse {first : Prog Op Ans (Option β)} {rest : Option β → Prog Op Ans (Option β)}
    {found : Option β → Hold → Prop} (finds : Safe terms first h found)
    (next : ∀ h, found none h → Safe terms (rest none) h found)
    (returns : ∀ b, rest (some b) = pure (some b)) :
    Safe terms (first >>= rest) h found := by
  refine finds.bind fun decision h ended => ?_
  cases decision with
  | some b => exact (returns b).symm ▸ ended
  | none => exact next h ended

variable {items : List ι} {body : ι → Prog Op Ans (Option β)}

/-- A loop that returns early, from where nothing is found. -/
theorem Safe.firstOf {found : Option β → Hold → Prop}
    (one : ∀ i ∈ items, ∀ h, found none h → Safe terms (body i) h found) (start : found none h) :
    Safe terms (Prog.firstOf items body) h found := by
  induction items generalizing h with
  | nil => exact start
  | cons i rest ih =>
    refine (one i (List.mem_cons_self ..) h start).orElse (fun h none_found => ?_) fun _ => rfl
    exact ih (fun j later => one j (List.mem_cons_of_mem i later)) none_found

/-- A loop that collects keeps `between`, which may speak of what has been collected. -/
theorem Safe.gather (between : List β → Hold → Prop)
    (one : ∀ i ∈ items, ∀ found h, between found h → Safe terms (body i) h fun pushed h =>
      between (found ++ pushed.toList) h) {found : List β} (start : between found h) :
    Safe terms (Prog.gather items body found) h between := by
  induction items generalizing h found with
  | nil => exact start
  | cons i rest ih =>
    exact (one i (List.mem_cons_self ..) found h start).bind fun pushed h ended =>
      ih (fun j later => one j (List.mem_cons_of_mem i later)) ended

/-- A loop over every item: `between` speaks of the items still to come. -/
theorem Safe.each {body : ι → Prog Op Ans Unit} (between : List ι → Hold → Prop)
    (one : ∀ i ∈ items, ∀ rest h, between (i :: rest) h →
      Safe terms (body i) h fun _ h => between rest h) (start : between items h) :
    Safe terms (Prog.each items body) h fun _ h => between [] h := by
  induction items generalizing h with
  | nil => exact start
  | cons i rest ih =>
    exact (one i (List.mem_cons_self ..) rest h start).bind fun _ h ended =>
      ih (fun j later => one j (List.mem_cons_of_mem i later)) ended

end Safe

/-! ### The threads and their steps -/

/-- **A system of threads**: what an operation answers, given what the world around chooses; what
it does to the memory; the program of each call; and what the end of a call records. -/
structure System (Thread Op : Type) (Ans : Op → Type) (Memory Choice Call Result : Type) where
  answer : Thread → (op : Op) → Choice → Memory → Ans op
  effect : Thread → (op : Op) → Ans op → Memory → Memory
  program : Thread → Call → Prog Op Ans Result
  finish : Thread → Call → Result → Memory → Memory

/-- The memory, and what each thread still has to do. -/
structure State (Thread Op : Type) (Ans : Op → Type) (Memory Call Result : Type) where
  memory : Memory
  running : Thread → Option (Call × Prog Op Ans Result)

namespace State

variable {Thread Op : Type} {Ans : Op → Type} {Memory Call Result : Type}
  (s : State Thread Op Ans Memory Call Result) (t : Thread)

/-- The operation a thread performs next, and the call it is part of. -/
def performing : Option (Call × Op) :=
  match s.running t with
  | some (call, .act op _) => some (call, op)
  | some (_, .done _) | none => none

/-- What a thread is about to return with, and from which call. -/
def returning : Option (Call × Result) :=
  match s.running t with
  | some (call, .done result) => some (call, result)
  | some (_, .act _ _) | none => none

variable {s t} {call : Call}

theorem running_of_performing {op : Op} (performs : s.performing t = some (call, op)) :
    ∃ rest, s.running t = some (call, .act op rest) := by
  unfold performing at performs
  split at performs
  next call op rest busy =>
    cases performs
    exact ⟨rest, busy⟩
  · cases performs
  · cases performs

theorem running_of_returning {result : Result} (returns : s.returning t = some (call, result)) :
    s.running t = some (call, .done result) := by
  unfold returning at returns
  split at returns
  next call result busy =>
    cases returns
    exact busy
  · cases returns
  · cases returns

end State

/-- A move: a thread is called, or performs its next operation. -/
inductive Move (Thread Choice Call : Type) where
  | start (thread : Thread) (call : Call)
  | step (thread : Thread) (choice : Choice)

namespace System

variable {Thread Op : Type} {Ans : Op → Type} {Memory Choice Call Result Hold : Type}
  {sys : System Thread Op Ans Memory Choice Call Result}

/-- **What the threads hold fits what they still have to do**: an idle thread holds nothing, a
busy one can safely go on. -/
def Follows (terms : Thread → Call → Terms Op Ans Hold) (idle : Hold)
    (ends : Thread → Call → Result → Hold → Prop)
    (s : State Thread Op Ans Memory Call Result) (holds : Thread → Hold) : Prop :=
  ∀ t,
    match s.running t with
    | none => holds t = idle
    | some (call, p) => Safe (terms t call) p (holds t) (ends t call)

section Follows

variable {terms : Thread → Call → Terms Op Ans Hold} {idle : Hold}
  {ends : Thread → Call → Result → Hold → Prop} {s : State Thread Op Ans Memory Call Result}
  {holds : Thread → Hold} {t : Thread} {call : Call}

/-- What a thread performs next, its hold allows. -/
theorem Follows.allows (follows : Follows terms idle ends s holds) {op : Op}
    (performs : s.performing t = some (call, op)) : (terms t call).allows (holds t) op := by
  have safe := follows t
  obtain ⟨rest, busy⟩ := State.running_of_performing performs
  rw [busy] at safe
  exact safe.1

/-- A thread returns with the hold it should end with. -/
theorem Follows.ended (follows : Follows terms idle ends s holds) {result : Result}
    (returns : s.returning t = some (call, result)) : ends t call result (holds t) := by
  have safe := follows t
  rwa [State.running_of_returning returns] at safe

end Follows

variable (sys) in
/-- **The program, run by one thread with nobody moving beside it**, ends with `ends`, whatever the
world chooses. -/
def Alone {α : Type} (t : Thread) : Prog Op Ans α → Memory → (α → Memory → Prop) → Prop
  | .done a, m, ends => ends a m
  | .act op next, m, ends =>
    ∀ choice, Alone t (next (sys.answer t op choice m))
      (sys.effect t op (sys.answer t op choice m) m) ends

section Alone

variable {α β : Type} {t : Thread} {m : Memory} {p : Prog Op Ans α}

theorem Alone.mono {ends ends' : α → Memory → Prop} (alone : sys.Alone t p m ends)
    (weaker : ∀ a m, ends a m → ends' a m) : sys.Alone t p m ends' := by
  induction p generalizing m with
  | done a => exact weaker a m alone
  | act op next ih => exact fun choice => ih _ (alone choice)

theorem alone_bind {f : α → Prog Op Ans β} {ends : β → Memory → Prop} :
    sys.Alone t (p >>= f) m ends ↔ sys.Alone t p m fun a m => sys.Alone t (f a) m ends := by
  induction p generalizing m with
  | done a => exact Iff.rfl
  | act op next ih =>
    constructor
    · exact fun alone choice => (ih _).mp (alone choice)
    · exact fun alone choice => (ih _).mpr (alone choice)

theorem Alone.onlyIf {condition : Prop} [Decidable condition] {p : Prog Op Ans Unit}
    {ends : Unit → Memory → Prop} (holds : condition → sys.Alone t p m ends)
    (fails : ¬ condition → ends () m) : sys.Alone t (Prog.onlyIf condition p) m ends := by
  unfold Prog.onlyIf
  split
  next yes => exact holds yes
  next no => exact fails no

end Alone

/-! ### Runs -/

section Runs

variable [DecidableEq Thread]

variable (sys) in
/-- **One step of the system.**  A thread that is busy is not called again, and one that has
nothing to do does nothing. -/
def next (s : State Thread Op Ans Memory Call Result) :
    Move Thread Choice Call → State Thread Op Ans Memory Call Result
  | .start t call =>
    match s.running t with
    | some _ => s
    | none => { s with running := update s.running t (some (call, sys.program t call)) }
  | .step t choice =>
    match s.running t with
    | none => s
    | some (call, .done result) =>
      { memory := sys.finish t call result s.memory
        running := update s.running t none }
    | some (call, .act op rest) =>
      let answer := sys.answer t op choice s.memory
      { memory := sys.effect t op answer s.memory
        running := update s.running t (some (call, rest answer)) }

variable {terms : Thread → Call → Terms Op Ans Hold} {idle : Hold}
  {ends : Thread → Call → Result → Hold → Prop}
  {ok : State Thread Op Ans Memory Call Result → Move Thread Choice Call → Prop}
  (Inv : Memory → (Thread → Hold) → Prop) (enter : Call → Hold)

/-- **Invariant rule.**  Let every operation keep `Inv` when the hold of its thread allows it and
the step meets `ok`; let a call enter and leave with `Inv`; and let every program called be safe.
Then every run whose steps meet `ok` ends in a state whose memory satisfies `Inv`, with holds that
fit what the threads still have to do. -/
theorem invariant
    (starts : ∀ s t call holds, ok s (.start t call) → s.running t = none → holds t = idle →
      Inv s.memory holds →
        Inv s.memory (update holds t (enter call)) ∧
          Safe (terms t call) (sys.program t call) (enter call) (ends t call))
    (steps : ∀ s t choice call op rest holds, ok s (.step t choice) →
      s.running t = some (call, .act op rest) → Inv s.memory holds →
        (terms t call).allows (holds t) op →
        Inv (sys.effect t op (sys.answer t op choice s.memory) s.memory)
          (update holds t
            ((terms t call).after (holds t) op (sys.answer t op choice s.memory))))
    (finishes : ∀ (s : State Thread Op Ans Memory Call Result) t call result holds,
      s.running t = some (call, .done result) → Inv s.memory holds → ends t call result (holds t) →
        Inv (sys.finish t call result s.memory) (update holds t idle))
    {s : State Thread Op Ans Memory Call Result} {moves : List (Move Thread Choice Call)}
    (met : Runs.Meets sys.next ok s moves)
    (start : ∃ holds, Inv s.memory holds ∧ Follows terms idle ends s holds) :
    ∃ holds, Inv (Runs.final sys.next s moves).memory holds ∧
      Follows terms idle ends (Runs.final sys.next s moves) holds := by
  refine met.invariant (fun s => ∃ holds, Inv s.memory holds ∧ Follows terms idle ends s holds)
    ?_ start
  rintro s move ⟨holds, inv, follows⟩ good
  cases move with
  | start t call =>
    cases busy : s.running t with
    | some task => exact ⟨holds, by simpa [next, busy] using ⟨inv, follows⟩⟩
    | none =>
      have idleNow : holds t = idle := by simpa [busy] using follows t
      obtain ⟨entered, safe⟩ := starts s t call holds good busy idleNow inv
      refine ⟨update holds t (enter call), by simpa [next, busy] using entered, ?_⟩
      intro u
      by_cases same : u = t
      · subst same
        simpa [next, busy] using safe
      · simpa [next, busy, same] using follows u
  | step t choice =>
    cases busy : s.running t with
    | none => exact ⟨holds, by simpa [next, busy] using ⟨inv, follows⟩⟩
    | some task =>
      obtain ⟨call, p⟩ := task
      have mine : Safe (terms t call) p (holds t) (ends t call) := by simpa [busy] using follows t
      cases p with
      | done result =>
        refine ⟨update holds t idle,
          by simpa [next, busy] using finishes s t call result holds busy inv mine, ?_⟩
        intro u
        by_cases same : u = t
        · subst same
          simp [next, busy]
        · simpa [next, busy, same] using follows u
      | act op rest =>
        have kept := steps s t choice call op rest holds good busy inv mine.1
        refine ⟨_, by simpa [next, busy] using kept, ?_⟩
        intro u
        by_cases same : u = t
        · subst same
          simpa [next, busy] using mine.2 _
        · simpa [next, busy, same] using follows u

variable {t : Thread} {call : Call} {ends : Result → Memory → Prop}
  {s : State Thread Op Ans Memory Call Result}

/-- **A thread that moves alone returns from its call**, in a state the call ends with. -/
theorem Alone.reached {p : Prog Op Ans Result} (busy : s.running t = some (call, p))
    (alone : sys.Alone t p s.memory ends) (choices : ℕ → Choice) :
    ∃ n result m, ends result m ∧
      Runs.final sys.next s ((List.range n).map fun k => .step t (choices k)) =
        ⟨sys.finish t call result m, update s.running t none⟩ := by
  induction p generalizing s choices with
  | done result => exact ⟨1, result, s.memory, alone, by simp [next, busy]⟩
  | act op rest ih =>
    have moved : sys.next s (.step t (choices 0)) =
        ⟨sys.effect t op (sys.answer t op (choices 0) s.memory) s.memory,
          update s.running t
            (some (call, rest (sys.answer t op (choices 0) s.memory)))⟩ := by
      simp [next, busy]
    have ran : (sys.next s (.step t (choices 0))).running t =
        some (call, rest (sys.answer t op (choices 0) s.memory)) := by
      simp [moved]
    obtain ⟨n, result, m, ended, reached⟩ :=
      ih _ ran (by rw [moved]; exact alone (choices 0)) fun k => choices (k + 1)
    refine ⟨n + 1, result, m, ended, ?_⟩
    rw [List.range_succ_eq_map, List.map_cons, Runs.final_cons, List.map_map]
    refine reached.trans ?_
    rw [moved, update_idem]

/-- **A thread that is called and moves alone** leaves the others where they were, and the memory
as its call ends. -/
theorem Alone.called (idle : s.running t = none)
    (alone : sys.Alone t (sys.program t call) s.memory ends) (choices : ℕ → Choice) :
    ∃ n result m, ends result m ∧
      Runs.final sys.next s (.start t call :: (List.range n).map fun k => .step t (choices k)) =
        ⟨sys.finish t call result m, s.running⟩ := by
  have started : sys.next s (.start t call) =
      ⟨s.memory, update s.running t (some (call, sys.program t call))⟩ := by
    simp [next, idle]
  obtain ⟨n, result, m, ended, reached⟩ := Alone.reached
    (s := ⟨s.memory, update s.running t (some (call, sys.program t call))⟩)
    (Function.update_self ..) alone choices
  refine ⟨n, result, m, ended, ?_⟩
  rw [Runs.final_cons, started, reached, update_idem, ← idle, Function.update_eq_self]

end Runs

end System

end Threads
