import PlexPostgres.Library.Text
import PlexPostgres.Library.Stack

/-!
# Planning transaction control

`pg_client/txn.rs` keeps, for each PostgreSQL connection, a stack of *frames*: the
transaction Plex believes it is in, and inside it the savepoints it set and the
`BEGIN`s it nested.  `plan` maps one transaction command in one such state to the
SQL statements to send and to the state after them, without talking to a server.
-/

namespace PlexPostgres.Txn

/-- A transaction-control statement, as SQLite spells it. -/
inductive TxnCmd where
  | begin
  | commit
  | rollback
  | savepoint (name : Text)
  | release (name : Text)
  | rollbackTo (name : Text)
  deriving DecidableEq, Repr

/-- The savepoint name a command carries. -/
def TxnCmd.name? : TxnCmd → Option Text
  | .savepoint n | .release n | .rollbackTo n => some n
  | _ => none

/-- The words transaction control is written with. -/
inductive Keyword where
  | begin
  | commit
  | endWord
  | rollback
  | savepoint
  | release
  | transaction
  | toWord
  | deferred
  | immediate
  | exclusive
  deriving DecidableEq, Repr

/-- A keyword in lower case. -/
def Keyword.text : Keyword → Text
  | .begin => "begin".toList
  | .commit => "commit".toList
  | .endWord => "end".toList
  | .rollback => "rollback".toList
  | .savepoint => "savepoint".toList
  | .release => "release".toList
  | .transaction => "transaction".toList
  | .toWord => "to".toList
  | .deferred => "deferred".toList
  | .immediate => "immediate".toList
  | .exclusive => "exclusive".toList

@[simp] theorem Keyword.text_inj {k l : Keyword} : k.text = l.text ↔ k = l := by
  refine ⟨fun same => ?_, fun same => same ▸ rfl⟩
  cases k <;> cases l <;> first | rfl | exact absurd same (by decide)

theorem Keyword.isLower_head (k : Keyword) : ∀ c ∈ k.text.head?, c.isLower = true := by
  intro c head
  cases k <;> cases head <;> decide

/-- One level of the transaction Plex believes it is in. -/
inductive Frame where
  /-- The transaction itself; `explicit` is false when a SAVEPOINT began it. -/
  | outer (explicit : Bool)
  /-- A SAVEPOINT Plex named. -/
  | savepoint (name : Text)
  /-- A nested BEGIN, mapped to a savepoint of the shim's naming. -/
  | nestedBegin (name : Text)
  deriving DecidableEq, Repr

/-- **The transaction state of one connection**: a stack of frames, empty when no
transaction is open, and the SQLite handle it is pinned to. -/
structure TxnState where
  frames : List Frame
  db : ℕ
  deriving DecidableEq, Repr

namespace TxnState

/-- The state of a connection no transaction was begun on. -/
def empty : TxnState := ⟨[], 0⟩

def isOpen (s : TxnState) : Bool := !s.frames.isEmpty

@[simp] theorem isOpen_eq_true_iff (s : TxnState) : s.isOpen = true ↔ s.frames ≠ [] := by
  simp [isOpen]

@[simp] theorem isOpen_eq_false_iff (s : TxnState) : s.isOpen = false ↔ s.frames = [] := by
  simp [isOpen]

end TxnState

/-- What the shim's own savepoint names begin with. -/
def nestedLead : Text := "plexpg_nested_".toList

/-- The savepoint a nested BEGIN becomes, on a stack of `depth` frames. -/
def nestedName (depth : ℕ) : Text := nestedLead ++ Nat.toDigits 10 depth

/-- The savepoint a frame stands for; the outer frame stands for none. -/
def Frame.name? : Frame → Option Text
  | .outer _ => none
  | .savepoint n | .nestedBegin n => some n

/-- Does a frame stand for the savepoint Plex calls `name`?  Names are compared
as written, case included. -/
def Frame.isSavepoint (name : Text) : Frame → Bool
  | .savepoint n => n == name
  | _ => false

/-! ### The statements sent -/

def beginSql : Text := "BEGIN".toList

def commitSql : Text := "COMMIT".toList

def rollbackSql : Text := "ROLLBACK".toList

def savepointSql (name : Text) : Text := "SAVEPOINT ".toList ++ name

def releaseSql (name : Text) : Text := "RELEASE SAVEPOINT ".toList ++ name

def rollbackToSql (name : Text) : Text := "ROLLBACK TO SAVEPOINT ".toList ++ name

/-! ### The plan -/

/-- **What to send PostgreSQL for `cmd`** in state `state`, and the state after.
An empty list is a no-op: a COMMIT or ROLLBACK with nothing open, a RELEASE or
ROLLBACK TO of a savepoint the shim never saw. -/
def plan (state : TxnState) (cmd : TxnCmd) : List Text × TxnState :=
  let next (frames : List Frame) : TxnState := { state with frames }
  match cmd with
  | .begin =>
    if state.frames = [] then ([beginSql], next [.outer true])
    else
      let name := nestedName state.frames.length
      ([savepointSql name], next (state.frames ++ [.nestedBegin name]))
  | .commit =>
    match state.frames.getLast? with
    | none => ([], state)
    | some (.nestedBegin name) => ([releaseSql name], next state.frames.dropLast)
    | some _ => ([commitSql], next [])
  | .rollback =>
    match state.frames.getLast? with
    | none => ([], state)
    | some (.nestedBegin name) =>
      ([rollbackToSql name, releaseSql name], next state.frames.dropLast)
    | some _ => ([rollbackSql], next [])
  | .savepoint name =>
    if state.frames = [] then
      ([beginSql, savepointSql name], next [.outer false, .savepoint name])
    else ([savepointSql name], next (state.frames ++ [.savepoint name]))
  | .release name =>
    match Stack.rposition (Frame.isSavepoint name) state.frames with
    | none => ([], state)
    | some pos =>
      -- The outermost savepoint of a transaction SAVEPOINT began: releasing
      -- it commits, as in SQLite.
      if state.frames.take pos = [.outer false] then
        ([releaseSql name, commitSql], next [])
      else ([releaseSql name], next (state.frames.take pos))
  | .rollbackTo name =>
    match Stack.rposition (Frame.isSavepoint name) state.frames with
    | none => ([], state)
    | some pos => ([rollbackToSql name], next (state.frames.take (pos + 1)))

/-! ### Everything a plan can be -/

/-- **The cases of `plan`**, by the command and the shape of the frame stack: the
statements sent and the frames after them. -/
inductive Planned : List Frame → TxnCmd → List Text → List Frame → Prop
  | beginIdle : Planned [] .begin [beginSql] [.outer true]
  | beginNested (frames : List Frame) (isOpen : frames ≠ []) :
      Planned frames .begin [savepointSql (nestedName frames.length)]
        (frames ++ [.nestedBegin (nestedName frames.length)])
  | commitIdle : Planned [] .commit [] []
  | commitNested (below : List Frame) (n : Text) :
      Planned (below ++ [.nestedBegin n]) .commit [releaseSql n] below
  | commitOuter (below : List Frame) (top : Frame) (notNested : ∀ n, top ≠ .nestedBegin n) :
      Planned (below ++ [top]) .commit [commitSql] []
  | rollbackIdle : Planned [] .rollback [] []
  | rollbackNested (below : List Frame) (n : Text) :
      Planned (below ++ [.nestedBegin n]) .rollback [rollbackToSql n, releaseSql n] below
  | rollbackOuter (below : List Frame) (top : Frame) (notNested : ∀ n, top ≠ .nestedBegin n) :
      Planned (below ++ [top]) .rollback [rollbackSql] []
  | savepointIdle (n : Text) :
      Planned [] (.savepoint n) [beginSql, savepointSql n] [.outer false, .savepoint n]
  | savepointInner (frames : List Frame) (n : Text) (isOpen : frames ≠ []) :
      Planned frames (.savepoint n) [savepointSql n] (frames ++ [.savepoint n])
  | releaseUnknown (frames : List Frame) (n : Text) (unknown : .savepoint n ∉ frames) :
      Planned frames (.release n) [] frames
  | releaseOuter (above : List Frame) (n : Text) (innermost : .savepoint n ∉ above) :
      Planned (.outer false :: .savepoint n :: above) (.release n) [releaseSql n, commitSql] []
  | releaseInner (below above : List Frame) (n : Text) (innermost : .savepoint n ∉ above)
      (notOuter : below ≠ [.outer false]) :
      Planned (below ++ .savepoint n :: above) (.release n) [releaseSql n] below
  | rollbackToUnknown (frames : List Frame) (n : Text) (unknown : .savepoint n ∉ frames) :
      Planned frames (.rollbackTo n) [] frames
  | rollbackToKnown (below above : List Frame) (n : Text) (innermost : .savepoint n ∉ above) :
      Planned (below ++ .savepoint n :: above) (.rollbackTo n) [rollbackToSql n]
        (below ++ [.savepoint n])

theorem isSavepoint_eq_true_iff (n : Text) (f : Frame) :
    f.isSavepoint n = true ↔ f = .savepoint n := by
  cases f <;> simp [Frame.isSavepoint]

theorem isSavepoint_eq_false_iff (n : Text) (f : Frame) :
    f.isSavepoint n = false ↔ f ≠ .savepoint n := by
  rw [← Bool.not_eq_true, isSavepoint_eq_true_iff]

private theorem forall_not_isSavepoint_iff (n : Text) (frames : List Frame) :
    (∀ f ∈ frames, f.isSavepoint n = false) ↔ .savepoint n ∉ frames := by
  simp only [isSavepoint_eq_false_iff]
  exact ⟨fun h mem => h _ mem rfl, fun h f mem same => h (same ▸ mem)⟩

/-- The stack seen from the innermost savepoint called `n`, if there is one. -/
theorem savepoint_split (n : Text) (frames : List Frame) :
    (Stack.rposition (Frame.isSavepoint n) frames = none ∧ .savepoint n ∉ frames) ∨
      ∃ below above, frames = below ++ .savepoint n :: above ∧ .savepoint n ∉ above ∧
        Stack.rposition (Frame.isSavepoint n) frames = some below.length := by
  cases found : Stack.rposition (Frame.isSavepoint n) frames with
  | none =>
    exact .inl ⟨rfl, (forall_not_isSavepoint_iff n frames).mp
      ((Stack.rposition_eq_none_iff _ _).mp found)⟩
  | some pos =>
    obtain ⟨below, f, above, rfl, rfl, hf, rest⟩ :=
      (Stack.rposition_eq_some_iff _ _ _).mp found
    obtain rfl := (isSavepoint_eq_true_iff n f).mp hf
    exact .inr ⟨below, above, rfl, (forall_not_isSavepoint_iff n above).mp rest, rfl⟩

/-- **Inversion of `plan`**: each plan is one of the cases of `Planned`, and the
handle recorded in the state is not touched. -/
theorem plan_planned (s : TxnState) (cmd : TxnCmd) :
    Planned s.frames cmd (plan s cmd).1 (plan s cmd).2.frames ∧ (plan s cmd).2.db = s.db := by
  obtain ⟨frames, db⟩ := s
  -- BEGIN and SAVEPOINT look whether the stack is empty, COMMIT and ROLLBACK at
  -- its top, RELEASE and ROLLBACK TO for the innermost savepoint of the name.
  cases cmd with
  | begin =>
    by_cases idle : frames = []
    · subst idle; exact ⟨.beginIdle, rfl⟩
    · simpa [plan, idle] using Planned.beginNested frames idle
  | savepoint n =>
    by_cases idle : frames = []
    · subst idle; exact ⟨.savepointIdle n, rfl⟩
    · simpa [plan, idle] using Planned.savepointInner frames n idle
  | commit =>
    rcases List.eq_nil_or_concat' frames with rfl | ⟨below, top, rfl⟩
    · exact ⟨.commitIdle, rfl⟩
    · cases top with
      | nestedBegin n => simpa [plan] using Planned.commitNested below n
      | outer e => simpa [plan] using Planned.commitOuter below (.outer e) (by simp)
      | savepoint n => simpa [plan] using Planned.commitOuter below (.savepoint n) (by simp)
  | rollback =>
    rcases List.eq_nil_or_concat' frames with rfl | ⟨below, top, rfl⟩
    · exact ⟨.rollbackIdle, rfl⟩
    · cases top with
      | nestedBegin n => simpa [plan] using Planned.rollbackNested below n
      | outer e => simpa [plan] using Planned.rollbackOuter below (.outer e) (by simp)
      | savepoint n => simpa [plan] using Planned.rollbackOuter below (.savepoint n) (by simp)
  | release n =>
    obtain ⟨found, unknown⟩ | ⟨below, above, rfl, innermost, found⟩ := savepoint_split n frames
    · simpa [plan, found] using Planned.releaseUnknown frames n unknown
    · by_cases outermost : below = [.outer false]
      · subst outermost
        rw [List.singleton_append] at found ⊢
        simpa [plan, found] using Planned.releaseOuter above n innermost
      · simpa [plan, found, outermost] using
          Planned.releaseInner below above n innermost outermost
  | rollbackTo n =>
    obtain ⟨found, unknown⟩ | ⟨below, above, rfl, innermost, found⟩ := savepoint_split n frames
    · simpa [plan, found] using Planned.rollbackToUnknown frames n unknown
    · simpa [plan, found, List.take_length_add_append] using
        Planned.rollbackToKnown below above n innermost

/-! ### Well-formed stacks -/

/-- **A well-formed stack** is empty, or has the outer frame at its bottom and
only savepoints above it. -/
def WellFormed : List Frame → Prop
  | [] => True
  | bottom :: above => bottom.name? = none ∧ ∀ f ∈ above, f.name?.isSome

instance : DecidablePred WellFormed
  | [] => isTrue trivial
  | bottom :: above =>
    inferInstanceAs (Decidable (bottom.name? = none ∧ ∀ f ∈ above, f.name?.isSome))

@[simp] theorem wellFormed_nil : WellFormed [] := trivial

theorem WellFormed.take {frames : List Frame} (h : WellFormed frames) (k : ℕ) :
    WellFormed (frames.take k) := by
  cases frames with
  | nil => simp
  | cons bottom above =>
    cases k with
    | zero => simp
    | succ k => exact ⟨h.1, fun f hf => h.2 f (List.mem_of_mem_take hf)⟩

theorem WellFormed.below {below above : List Frame} (h : WellFormed (below ++ above)) :
    WellFormed below := by
  simpa using h.take below.length

theorem WellFormed.push {frames : List Frame} (h : WellFormed frames) (isOpen : frames ≠ [])
    {f : Frame} (hf : f.name?.isSome) : WellFormed (frames ++ [f]) := by
  cases frames with
  | nil => exact absurd rfl isOpen
  | cons bottom above =>
    exact ⟨h.1, List.forall_mem_append.mpr ⟨h.2, List.forall_mem_singleton.mpr hf⟩⟩

/-- Something lies below every savepoint. -/
theorem WellFormed.ne_nil_of_named {below above : List Frame} {f : Frame} {n : Text}
    (h : WellFormed (below ++ f :: above)) (name : f.name? = some n) : below ≠ [] := by
  rintro rfl
  rw [h.1] at name
  cases name

/-- `plan` keeps the stack well-formed. -/
theorem plan_wellFormed {s : TxnState} (h : WellFormed s.frames) (cmd : TxnCmd) :
    WellFormed (plan s cmd).2.frames := by
  have planned := (plan_planned s cmd).1
  generalize (plan s cmd).1 = sql, (plan s cmd).2.frames = after at planned ⊢
  generalize s.frames = frames at h planned
  cases planned with
  | beginIdle => exact ⟨rfl, by simp⟩
  | savepointIdle n => exact ⟨rfl, by simp [Frame.name?]⟩
  | beginNested _ isOpen => exact h.push isOpen rfl
  | savepointInner _ n isOpen => exact h.push isOpen rfl
  | commitNested below n | rollbackNested below n => exact h.below
  | releaseInner below above n => exact h.below
  | rollbackToKnown below above n =>
    have whole : WellFormed ((below ++ [.savepoint n]) ++ above) := by
      rwa [List.append_assoc, List.singleton_append]
    exact whole.below
  | releaseUnknown | rollbackToUnknown => exact h
  | commitIdle | commitOuter | rollbackIdle | rollbackOuter | releaseOuter => trivial

end PlexPostgres.Txn
