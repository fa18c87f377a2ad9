import PlexPostgres.Exec.Retry
import PlexPostgres.Translate.Numbering

/-!
# The budget of a call

`sqlite3_step` and `sqlite3_exec` run a failed call again by calling themselves, and keep
the number of the attempt in a cell of the thread.  The cell is read after the attempt, not
before, so whatever ran inside the attempt can have changed it: SQLite runs the caller's
callback there, and a callback may step statements and run scripts of its own.  Each such
call ends by setting the cell to its idle value, and the attempt around it then finds a
full budget where it had used up a part.

`Code` is what runs inside an attempt as far as the cells can tell: the marks it sets, the
calls it makes, each again a stream of attempts, and how it ends.  `call` is the wrapper of
both entry points.  It runs on fuel, since it need not return.
-/

namespace PlexPostgres.Budget

open Text
open Function (update update_self)

/-! ### The configured delays -/

/-- `str::parse::<i32>`: digits, perhaps behind a sign, in 32 bits. -/
def parseI32 (t : Text) : Option ℤ :=
  let negative := t.head? = some '-'
  let digits := if negative ∨ t.head? = some '+' then t.tail else t
  let value : ℤ := if negative then -Sqlite.decimalValue digits else Sqlite.decimalValue digits
  if digits ≠ [] ∧ digits.all Char.isDigit = true ∧ -2 ^ 31 ≤ value ∧ value < 2 ^ 31 then
    some value
  else none

/-- **`parse_delay_list`**: the first `maxCount` entries that are numbers, each capped. -/
def parseDelayList (s : Text) (maxCount : ℕ) (capMs : ℤ) : List ℤ :=
  ((s.splitOn ',').filterMap fun part => (parseI32 (trim part)).map (min · capMs)).take maxCount

def defaultDelays : List ℤ := [500, 1000, 2000, 3000, 4000]

/-- **`get_retry_delays_vec`**; `setting` is `PLEX_PG_RETRY_DELAYS`. -/
def getRetryDelays (setting : Option Text) : List ℤ :=
  match setting.map (parseDelayList · 10 60000) with
  | some (d :: ds) => d :: ds
  | _ => defaultDelays

/-! ### What an attempt does to the cells -/

/-- The entry points that run a failed call again. -/
inductive Entry where
  | step
  | exec
  deriving DecidableEq, Repr

/-- **The cells of an entry point**: `STEP_RETRY_COUNT` and `STEP_PG_CONN_ERROR`, and the
same for `exec`. -/
structure Cell where
  count : ℕ
  mark : Bool
  deriving DecidableEq, Repr

/-- The cells of a thread. -/
abbrev Cells := Entry → Cell

/-- **The thread is idle**: both counters are at their initial value. -/
def Cells.Idle (t : Cells) : Prop := ∀ e, (t e).count = 0

/-- **What runs inside an attempt.**  It ends with an error or not; `found` tells whether
the wrapper finds a statement for PostgreSQL then (a script needs none). -/
inductive Code where
  | ends (failed found : Bool)
  | notes (e : Entry) (rest : Code)
  /-- A call made by the caller's callback, and what follows it. -/
  | calls (e : Entry) (attempts : ℕ → Code) (rest : Code)

namespace Code

/-- **Running the code** of an attempt, its calls by `call`. -/
def run (call : Entry → (ℕ → Code) → Cells → Option Cells) :
    Code → Cells → Option (Cells × Bool × Bool)
  | ends failed found, t => some (t, failed, found)
  | notes e rest, t => rest.run call (update t e { t e with mark := true })
  | calls e attempts rest, t => (call e attempts t).bind (rest.run call)

/-- The attempt ends with an error on a statement for PostgreSQL. -/
def asks : Code → Bool
  | ends failed found => failed && found
  | notes _ rest => rest.asks
  | calls _ _ rest => rest.asks

/-- **The entry point is called again** while the code runs. -/
def Reenters (e : Entry) : Code → Prop
  | ends _ _ => False
  | notes _ rest => rest.Reenters e
  | calls e' attempts rest => e' = e ∨ (∃ i, (attempts i).Reenters e) ∨ rest.Reenters e

/-- **No attempt that asks to be run again calls its entry point**, in any call the code
makes. -/
def Calm : Code → Prop
  | ends _ _ => True
  | notes _ rest => rest.Calm
  | calls e attempts rest =>
    (∀ i, (attempts i).Calm ∧ ((attempts i).asks = true → ¬ (attempts i).Reenters e)) ∧ rest.Calm

end Code

/-! ### The wrapper -/

/-- **What a call returns**: the cells after it, whether it failed, and how many attempts
it made. -/
structure Returned where
  cells : Cells
  failed : Bool
  attempts : ℕ

/-- **The wrapper of an entry point**, `maybe_retry_step` and `rust_my_sqlite3_exec`, with
the number of retries configured. -/
def call (maxRetries : ℕ) : ℕ → Entry → (ℕ → Code) → Cells → Option Returned
  | 0, _, _, _ => none
  | fuel + 1, e, attempts, t =>
    match (attempts 0).run (fun e attempts t =>
        (call maxRetries fuel e attempts t).map (·.cells)) t with
    | none => none
    | some (t, failed, found) =>
      -- The counter is read here, after the attempt.
      if failed && found && (t e).mark && (t e).count < maxRetries then
        (call maxRetries fuel e (fun i => attempts (i + 1))
            (update t e ⟨(t e).count + 1, false⟩)).map fun r =>
          ⟨update r.cells e { r.cells e with count := 0 }, r.failed, r.attempts + 1⟩
      -- An idle counter is left alone, which is the same.
      else some ⟨update t e { t e with count := 0 }, failed, 1⟩

/-- The call as an attempt around it sees it. -/
abbrev inner (maxRetries fuel : ℕ) (e : Entry) (attempts : ℕ → Code) (t : Cells) : Option Cells :=
  (call maxRetries fuel e attempts t).map (·.cells)

/-- The code of an attempt, its calls on the given fuel. -/
abbrev Code.runOn (maxRetries fuel : ℕ) (c : Code) (t : Cells) : Option (Cells × Bool × Bool) :=
  c.run (inner maxRetries fuel) t

/-- The wrapper runs the call again after an attempt that leaves this. -/
def RunsAgain (maxRetries : ℕ) (e : Entry) (t : Cells) (failed found : Bool) : Prop :=
  (failed && found && (t e).mark && decide ((t e).count < maxRetries)) = true

instance (maxRetries : ℕ) (e : Entry) (t : Cells) (failed found : Bool) :
    Decidable (RunsAgain maxRetries e t failed found) := inferInstanceAs (Decidable (_ = _))

section

variable {maxRetries fuel : ℕ} {e : Entry} {attempts : ℕ → Code} {t t' : Cells}
  {failed found : Bool} {r : Returned}

/-- **How a call returns**: with its first attempt, or with the call that runs it again. -/
theorem call_cases (returned : call maxRetries (fuel + 1) e attempts t = some r) :
    ∃ t' failed found, (attempts 0).runOn maxRetries fuel t = some (t', failed, found) ∧
      ((¬ RunsAgain maxRetries e t' failed found ∧
          r = ⟨update t' e { t' e with count := 0 }, failed, 1⟩) ∨
        ∃ r', RunsAgain maxRetries e t' failed found ∧
          call maxRetries fuel e (fun i => attempts (i + 1))
            (update t' e ⟨(t' e).count + 1, false⟩) = some r' ∧
          r = ⟨update r'.cells e { r'.cells e with count := 0 }, r'.failed,
            r'.attempts + 1⟩) := by
  rw [call] at returned
  split at returned
  · cases returned
  next t' failed found ran =>
  refine ⟨t', failed, found, ran, ?_⟩
  split at returned
  next again =>
    obtain ⟨r', rest, same⟩ := Option.map_eq_some_iff.mp returned
    exact .inr ⟨r', again, rest, same.symm⟩
  next ended => exact .inl ⟨ended, (Option.some.inj returned).symm⟩

theorem call_of_ends (ran : (attempts 0).runOn maxRetries fuel t = some (t', failed, found))
    (ended : ¬ RunsAgain maxRetries e t' failed found) :
    call maxRetries (fuel + 1) e attempts t =
      some ⟨update t' e { t' e with count := 0 }, failed, 1⟩ := by
  rw [call]
  simp only [ran]
  exact if_neg ended

theorem call_of_runsAgain
    (ran : (attempts 0).runOn maxRetries fuel t = some (t', failed, found))
    (again : RunsAgain maxRetries e t' failed found)
    (rest : call maxRetries fuel e (fun i => attempts (i + 1))
      (update t' e ⟨(t' e).count + 1, false⟩) = some r) :
    call maxRetries (fuel + 1) e attempts t =
      some ⟨update r.cells e { r.cells e with count := 0 }, r.failed,
        r.attempts + 1⟩ := by
  rw [call]
  simp only [ran, rest, Option.map_some]
  exact if_pos again

/-! ### More fuel changes nothing -/

variable {out : Cells × Bool × Bool}

theorem run_mono {first second : Entry → (ℕ → Code) → Cells → Option Cells}
    (more : ∀ e attempts t t', first e attempts t = some t' → second e attempts t = some t')
    (c : Code) (ran : c.run first t = some out) :
    c.run second t = some out := by
  induction c generalizing t with
  | ends => exact ran
  | notes e rest ih => exact ih ran
  | calls e attempts rest _ ih =>
    obtain ⟨t', called, rest⟩ := Option.bind_eq_some_iff.mp ran
    rw [Code.run, more e attempts t t' called]
    exact ih rest

theorem call_succ (returned : call maxRetries fuel e attempts t = some r) :
    call maxRetries (fuel + 1) e attempts t = some r := by
  induction fuel generalizing e attempts t r with
  | zero => cases returned
  | succ fuel ih =>
    have more : ∀ e attempts t t', inner maxRetries fuel e attempts t = some t' →
        inner maxRetries (fuel + 1) e attempts t = some t' := by
      intro e attempts t t' called
      obtain ⟨r, returned, rfl⟩ := Option.map_eq_some_iff.mp called
      rw [inner, ih returned]
      rfl
    obtain ⟨t', failed, found, ran, ⟨ended, rfl⟩ | ⟨r', again, rest, rfl⟩⟩ := call_cases returned
    · exact call_of_ends (run_mono more _ ran) ended
    · exact call_of_runsAgain (run_mono more _ ran) again (ih rest)

theorem call_mono {fuel' : ℕ} (le : fuel ≤ fuel')
    (returned : call maxRetries fuel e attempts t = some r) :
    call maxRetries fuel' e attempts t = some r := by
  induction fuel', le using Nat.le_induction with
  | base => exact returned
  | succ fuel' _ ih => exact call_succ ih

theorem runOn_mono {fuel' : ℕ} (le : fuel ≤ fuel') (c : Code)
    (ran : c.runOn maxRetries fuel t = some out) : c.runOn maxRetries fuel' t = some out := by
  refine run_mono (fun e attempts t t' called => ?_) c ran
  obtain ⟨r, returned, rfl⟩ := Option.map_eq_some_iff.mp called
  rw [inner, call_mono le returned]
  rfl

/-! ### The counters after a call -/

/-- **A call that returns leaves its counter idle**, wherever it started from. -/
theorem call_idle (returned : call maxRetries fuel e attempts t = some r) :
    (r.cells e).count = 0 := by
  cases fuel with
  | zero => cases returned
  | succ fuel =>
    obtain ⟨t', failed, found, -, ⟨-, rfl⟩ | ⟨r', -, -, rfl⟩⟩ := call_cases returned <;>
      simp

theorem count_note (t : Cells) (e e' : Entry) :
    (update t e' { t e' with mark := true } e).count = (t e).count := by
  by_cases same : e = e'
  · subst same
    simp
  · simp [same]

variable {inner : Entry → (ℕ → Code) → Cells → Option Cells}

/-- **Code leaves a counter as it was**, or idle if the entry point is called again. -/
theorem run_count
    (kept : ∀ e' attempts t t', inner e' attempts t = some t' → (t' e).count = (t e).count ∨
      (e' = e ∨ ∃ i, (attempts i).Reenters e) ∧ (t' e).count = 0) (c : Code)
    (ran : c.run inner t = some (t', failed, found)) :
    (t' e).count = (t e).count ∨ c.Reenters e ∧ (t' e).count = 0 := by
  induction c generalizing t with
  | ends =>
    cases ran
    exact .inl rfl
  | notes e' rest ih => exact count_note t e e' ▸ ih ran
  | calls e' attempts rest _ ih =>
    obtain ⟨t₁, called, ran⟩ := Option.bind_eq_some_iff.mp ran
    rcases ih ran with same | ⟨later, idle⟩
    · rw [same]
      exact (kept e' attempts t t₁ called).imp_right (.imp_left fun here => or_assoc.mp (.inl here))
    · exact .inr ⟨.inr (.inr later), idle⟩

theorem call_count {e' : Entry} (returned : call maxRetries fuel e' attempts t = some r) :
    (r.cells e).count = (t e).count ∨
      (e' = e ∨ ∃ i, (attempts i).Reenters e) ∧ (r.cells e).count = 0 := by
  induction fuel generalizing e' attempts t r with
  | zero => cases returned
  | succ fuel ih =>
    by_cases same : e' = e
    · exact .inr ⟨.inl same, same ▸ call_idle returned⟩
    have other := Ne.symm same
    obtain ⟨t', failed, found, ran, ended⟩ := call_cases returned
    have attempted : (t' e).count = (t e).count ∨
        (e' = e ∨ ∃ i, (attempts i).Reenters e) ∧ (t' e).count = 0 := by
      refine (run_count (fun e' attempts t t' called => ?_) _ ran).imp_right
        (.imp_left fun here => .inr ⟨0, here⟩)
      obtain ⟨r, returned, rfl⟩ := Option.map_eq_some_iff.mp called
      exact ih returned
    rcases ended with ⟨-, rfl⟩ | ⟨r', -, rest, rfl⟩
    · simpa [other] using attempted
    · have later := ih rest
      simp only [Function.update_of_ne other] at later ⊢
      rcases later with kept | ⟨here | ⟨i, here⟩, idle⟩
      · exact kept ▸ attempted
      · exact absurd here same
      · exact .inr ⟨.inr ⟨i + 1, here⟩, idle⟩

theorem runOn_count {c : Code} (outside : ¬ c.Reenters e)
    (ran : c.runOn maxRetries fuel t = some (t', failed, found)) :
    (t' e).count = (t e).count := by
  refine (run_count (fun e' attempts t t' called => ?_) c ran).resolve_right
    fun here => outside here.1
  obtain ⟨r, returned, rfl⟩ := Option.map_eq_some_iff.mp called
  exact call_count returned

/-! ### A calm call returns -/

theorem asks_of_run {c : Code} (ran : c.run inner t = some (t', failed, found)) :
    c.asks = (failed && found) := by
  induction c generalizing t with
  | ends =>
    cases ran
    rfl
  | notes e rest ih => exact ih ran
  | calls e attempts rest _ ih =>
    obtain ⟨t₁, -, ran⟩ := Option.bind_eq_some_iff.mp ran
    exact ih ran

theorem RunsAgain.asks_and_lt (again : RunsAgain maxRetries e t failed found) :
    (failed && found) = true ∧ (t e).count < maxRetries := by
  simp only [RunsAgain, Bool.and_eq_true, decide_eq_true_eq] at again ⊢
  exact ⟨again.1.1, again.2⟩

variable (maxRetries) in
/-- **A call whose attempts return, and do not call it where they ask to be run again,
returns**, with at most one attempt more than the retries it has left. -/
theorem call_returns
    (attemptsReturn : ∀ i t, ∃ fuel out, (attempts i).runOn maxRetries fuel t = some out)
    (outside : ∀ i, (attempts i).asks = true → ¬ (attempts i).Reenters e) :
    ∃ fuel r, call maxRetries fuel e attempts t = some r ∧
      r.attempts ≤ maxRetries - (t e).count + 1 := by
  -- Each attempt that is run again raises the counter, so the retries left decrease.
  induction left : maxRetries - (t e).count generalizing attempts t with
  | zero =>
    obtain ⟨fuel, ⟨t', failed, found⟩, ran⟩ := attemptsReturn 0 t
    have ended : ¬ RunsAgain maxRetries e t' failed found := by
      intro again
      obtain ⟨asks, lt⟩ := again.asks_and_lt
      rw [runOn_count (outside 0 (asks_of_run ran ▸ asks)) ran] at lt
      omega
    exact ⟨fuel + 1, _, call_of_ends ran ended, le_rfl⟩
  | succ left ih =>
    obtain ⟨fuel, ⟨t', failed, found⟩, ran⟩ := attemptsReturn 0 t
    by_cases again : RunsAgain maxRetries e t' failed found
    · obtain ⟨asks, lt⟩ := again.asks_and_lt
      have kept := runOn_count (outside 0 (asks_of_run ran ▸ asks)) ran
      obtain ⟨fuel', r, rest, bound⟩ := ih (fun i => attemptsReturn (i + 1))
        (fun i => outside (i + 1)) (t := update t' e ⟨(t' e).count + 1, false⟩)
        (by simp; omega)
      exact ⟨max fuel fuel' + 1, _,
        call_of_runsAgain (runOn_mono (le_max_left ..) _ ran) again
          (call_mono (le_max_right ..) rest), by simpa using bound⟩
    · exact ⟨fuel + 1, _, call_of_ends ran again, by simp⟩

variable (maxRetries) in
/-- **Calm code returns.** -/
theorem calm_returns {c : Code} (calm : c.Calm) (t : Cells) :
    ∃ fuel out, c.runOn maxRetries fuel t = some out := by
  induction c generalizing t with
  | ends failed found => exact ⟨0, _, rfl⟩
  | notes e rest ih => exact ih calm _
  | calls e attempts rest ihAttempts ihRest =>
    obtain ⟨fuel, r, called, -⟩ := call_returns maxRetries (t := t)
      (fun i => ihAttempts i (calm.1 i).1) fun i => (calm.1 i).2
    obtain ⟨fuel', out, ran⟩ := ihRest calm.2 r.cells
    refine ⟨max fuel fuel', out, ?_⟩
    have called' := call_mono (le_max_left fuel fuel') called
    rw [Code.runOn, Code.run, inner, called']
    exact runOn_mono (le_max_right fuel fuel') rest ran

end

/-! ### Attempts that make no calls -/

/-- An attempt that makes no calls. -/
def plain (e : Entry) (noted failed found : Bool) : Code :=
  if noted then .notes e (.ends failed found) else .ends failed found

theorem runOn_plain (maxRetries fuel : ℕ) (e : Entry) (noted failed found : Bool) (t : Cells) :
    (plain e noted failed found).runOn maxRetries fuel t =
      some (update t e ⟨(t e).count, (t e).mark || noted⟩, failed, found) := by
  cases noted <;> simp [plain, Code.runOn, Code.run]

theorem plain_calm (e e' : Entry) (noted failed found : Bool) :
    (plain e noted failed found).Calm ∧ ¬ (plain e noted failed found).Reenters e' := by
  cases noted <;> simp [plain, Code.Calm, Code.Reenters]

section

variable {maxRetries fuel : ℕ} {e : Entry} {attempts : ℕ → Code} {t : Cells}
  {noted failed found : Bool}

/-- A call that ends with its first attempt. -/
theorem call_plain_ends (first : attempts 0 = plain e noted failed found)
    (ended : (t e).count < maxRetries →
      (failed && ((t e).mark || noted) && found) = false) :
    ∃ r, call maxRetries (fuel + 1) e attempts t = some r ∧
      r.cells e = ⟨0, (t e).mark || noted⟩ ∧ r.failed = failed := by
  refine ⟨_, call_of_ends (first ▸ runOn_plain maxRetries fuel e noted failed found t) ?_, by simp,
    rfl⟩
  intro again
  simp only [RunsAgain, update_self, Bool.and_eq_true, decide_eq_true_eq] at again
  have isEnded := ended again.2
  simp [again.1.1.1, again.1.1.2, again.1.2] at isEnded

/-- A call whose first attempt is followed by another returns as the rest does. -/
theorem call_plain_again (first : attempts 0 = plain e noted failed found)
    (left : (t e).count < maxRetries) (retried : (failed && ((t e).mark || noted) && found) = true)
    {mark failedLast : Bool}
    (rest : ∃ r, call maxRetries fuel e (fun i => attempts (i + 1))
        (update t e ⟨(t e).count + 1, false⟩) = some r ∧
      r.cells e = ⟨0, mark⟩ ∧ r.failed = failedLast) :
    ∃ r, call maxRetries (fuel + 1) e attempts t = some r ∧ r.cells e = ⟨0, mark⟩ ∧
      r.failed = failedLast := by
  obtain ⟨r, called, cells, rc⟩ := rest
  have ran := first ▸ runOn_plain maxRetries fuel e noted failed found t
  refine ⟨_, call_of_runsAgain ran ?_ (by simpa using called), by simp [cells], rc⟩
  simp only [Bool.and_eq_true] at retried
  simp [RunsAgain, retried.1.1, retried.1.2, retried.2, left]

end

section

open Postgres Txn

variable {ω : Type*}

/-- The attempts of a call of `sqlite3_step`, as if each were followed by another. -/
def stepCodes (cfg : Step.Config) (w : World ω) (stmt : Step.Stmt ω) (envs : ℕ → Step.Env) :
    ℕ → Code
  | 0 =>
    let a := Step.attempt cfg w stmt (envs 0)
    plain .step a.connError a.rc.isError (a.stmt.kind ≠ .sqlite)
  | i + 1 =>
    let a := Step.attempt cfg w stmt (envs 0)
    stepCodes cfg (Step.clearResult a.world a.stmt).1 (Step.clearResult a.world a.stmt).2
      (fun i => envs (i + 1)) i

/-- **`Step.stepTimes` is a call of the wrapper**, its retries left standing for the
counter. -/
theorem call_stepTimes (cfg : Step.Config) (retries : ℕ) (t : Cells) (w : World ω)
    (stmt : Step.Stmt ω) (envs : ℕ → Step.Env) :
    ∃ r, call ((t .step).count + retries) (retries + 1) .step (stepCodes cfg w stmt envs) t =
        some r ∧
      r.cells .step = ⟨0, (Step.stepTimes cfg retries w (t .step).mark stmt envs).connError⟩ ∧
      r.failed = (Step.stepTimes cfg retries w (t .step).mark stmt envs).rc.isError := by
  induction retries generalizing t w stmt envs with
  | zero => exact call_plain_ends rfl fun lt => by omega
  | succ retries ih =>
    have lt : (t .step).count < (t .step).count + (retries + 1) := by omega
    rw [Step.stepTimes]
    dsimp only
    split
    next retried =>
      have rest := ih (update t .step ⟨(t .step).count + 1, false⟩)
      simp only [update_self, Nat.succ_add_eq_add_succ] at rest
      exact call_plain_again rfl lt retried (rest _ _ _)
    next ended => exact call_plain_ends rfl fun _ => Bool.eq_false_iff.mpr ended

/-- The attempts of a call of `sqlite3_exec`, as if each were followed by another. -/
def execCodes (cfg : Exec.ExecConfig) (tr : Exec.Translator)
    (server : Text → Session ω → Reply ω) (db : DbId) (sql : Text) (w : World ω)
    (envs : ℕ → Exec.ExecEnv) : ℕ → Code
  | 0 =>
    let a := Exec.execAttempt cfg tr server w db sql (envs 0)
    plain .exec a.connError (a.rc = .error) true
  | i + 1 =>
    let a := Exec.execAttempt cfg tr server w db sql (envs 0)
    execCodes cfg tr server db sql a.world (fun i => envs (i + 1)) i

/-- **`Exec.execTimes` is a call of the wrapper.** -/
theorem call_execTimes (cfg : Exec.ExecConfig) (tr : Exec.Translator)
    (server : Text → Session ω → Reply ω) (db : DbId) (sql : Text) (retries : ℕ) (t : Cells)
    (w : World ω) (envs : ℕ → Exec.ExecEnv) :
    ∃ r, call ((t .exec).count + retries) (retries + 1) .exec
        (execCodes cfg tr server db sql w envs) t = some r ∧
      r.cells .exec =
        ⟨0, (Exec.execTimes cfg tr server db sql retries w (t .exec).mark envs).connError⟩ ∧
      r.failed =
        decide ((Exec.execTimes cfg tr server db sql retries w (t .exec).mark envs).rc =
          .error) := by
  induction retries generalizing t w envs with
  | zero => exact call_plain_ends rfl fun lt => by omega
  | succ retries ih =>
    have lt : (t .exec).count < (t .exec).count + (retries + 1) := by omega
    rw [Exec.execTimes]
    split
    next retried =>
      have rest := ih (update t .exec ⟨(t .exec).count + 1, false⟩)
      simp only [update_self, Nat.succ_add_eq_add_succ] at rest
      exact call_plain_again rfl lt ((Bool.and_true _).trans retried) (rest _ _)
    next ended =>
      exact call_plain_ends rfl fun _ => (Bool.and_true _).trans (Bool.eq_false_iff.mpr ended)

end

/-! ### The bound -/

/-- **A calm call returns within its budget and leaves the thread idle.**  The call is
calm if no attempt that asks to be run again calls the entry point itself. -/
theorem calm_call_bounded (setting : Option Text) {e : Entry} {attempts : ℕ → Code} {t : Cells}
    (idle : t.Idle)
    (calm : ∀ i, (attempts i).Calm ∧ ((attempts i).asks = true → ¬ (attempts i).Reenters e)) :
    ∃ fuel r, call (getRetryDelays setting).length fuel e attempts t = some r ∧
      r.attempts ≤ (getRetryDelays setting).length + 1 ∧ r.cells.Idle := by
  obtain ⟨fuel, r, returned, bound⟩ := call_returns _ (t := t)
    (fun i => calm_returns (getRetryDelays setting).length (calm i).1)
    fun i => (calm i).2
  refine ⟨fuel, r, returned, ?_, fun e' => ?_⟩
  · rwa [idle e, Nat.sub_zero] at bound
  · rcases call_count (e := e') returned with same | ⟨-, back⟩
    · rw [same, idle e']
    · exact back

/-- A script is tried again after a lost connection, and its rows are delivered to a
callback that runs a script itself. -/
def lostThenDelivered : ℕ → Code
  | 0 => plain .exec true true true
  | _ => .calls .exec (fun _ => plain .exec false false true) (.ends false true)

theorem lostThenDelivered_bounded :
    ∃ fuel r, call (getRetryDelays none).length fuel .exec lostThenDelivered
        (fun _ => ⟨0, false⟩) = some r ∧
      r.attempts ≤ (getRetryDelays none).length + 1 ∧ r.cells.Idle := by
  refine calm_call_bounded none (fun _ => rfl) fun i => ?_
  cases i with
  | zero =>
    obtain ⟨calm, outside⟩ := plain_calm .exec .exec true true true
    exact ⟨calm, fun _ => outside⟩
  | succ i =>
    refine ⟨⟨fun _ => ?_, trivial⟩, fun asks => by cases asks⟩
    obtain ⟨calm, outside⟩ := plain_calm .exec .exec false false true
    exact ⟨calm, fun _ => outside⟩

/-! ### A call that does not return -/

/-- A script for SQLite whose callback runs a script on PostgreSQL, each time over a lost
connection, and that then fails itself. -/
def callingBack (_ : ℕ) : Code :=
  .calls .exec (fun _ => plain .exec true true true) (.ends true true)

/-- A script that loses its connection each time uses up its retries and leaves the mark. -/
theorem mark_of_lost {maxRetries fuel : ℕ} {t : Cells} {r : Returned}
    (returned : call maxRetries fuel .exec (fun _ => plain .exec true true true) t = some r) :
    (r.cells .exec).mark = true := by
  induction fuel generalizing t r with
  | zero => cases returned
  | succ fuel ih =>
    obtain ⟨t', failed, found, ran, ended⟩ := call_cases returned
    rw [runOn_plain] at ran
    cases ran
    rcases ended with ⟨-, rfl⟩ | ⟨r', -, rest, rfl⟩
    · simp
    · simpa using ih rest

theorem callingBack_stuck {maxRetries : ℕ} (budget : 0 < maxRetries) (fuel : ℕ) (t : Cells) :
    call maxRetries fuel .exec callingBack t = none := by
  induction fuel generalizing t with
  | zero => rfl
  | succ fuel ih =>
    rw [Option.eq_none_iff_forall_ne_some]
    intro r returned
    obtain ⟨t', failed, found, ran, ended⟩ := call_cases returned
    obtain ⟨t₁, called, rest⟩ := Option.bind_eq_some_iff.mp ran
    obtain ⟨r₁, inside, rfl⟩ := Option.map_eq_some_iff.mp called
    cases rest
    -- The script inside has put the counter back, so there are retries left.
    have again : RunsAgain maxRetries .exec r₁.cells true true := by
      simp [RunsAgain, mark_of_lost inside, call_idle inside, budget]
    rcases ended with ⟨ended, -⟩ | ⟨r', -, later, -⟩
    · exact ended again
    · exact absurd ((ih _).symm.trans later) (by simp)

/-- **A call that never returns.**  Each attempt of a script on SQLite runs a script on
PostgreSQL from its callback that loses its connections; it puts the counter back and
leaves the mark, so the failed script around it is tried again without end. -/
theorem callingBack_never_returns :
    ¬ ∃ fuel r, call (getRetryDelays none).length fuel .exec callingBack
      (fun _ => ⟨0, false⟩) = some r := by
  rintro ⟨fuel, r, returned⟩
  rw [callingBack_stuck (by decide)] at returned
  cases returned

end PlexPostgres.Budget
