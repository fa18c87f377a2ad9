import PlexPostgres.Postgres.Link

/-!
# Statements inside an open transaction

As long as the connection holds (`Fate.Kept`), a statement inside an open transaction
either does what it says or aborts the transaction, and it leaves it open.  These are
the facts about single statements (`exec_inTxn`, `query_inTxn`, `write_inTxn`), and the
relation `Grows` that a group of statements keeps: the savepoints there were are still
there, and if the transaction is sound it was sound before and has the writes it had
and those of the group.

`Nested` is what savepoints look like in any session: each was set when the writes of
the one below it had already been made.
-/

namespace PlexPostgres.Postgres

variable {ω : Type*}

/-- The connection is not lost with this statement. -/
def Fate.Kept (fate : Fate) : Prop := ∀ applied noResult, fate.verdict ≠ .lose applied noResult

@[simp] theorem Fate.kept_fine : Fate.fine.Kept := by
  intro applied noResult lost
  cases lost

namespace Link

variable (aborted : Bool) (savepoints : List (Savepoint ω)) (writes : List ω) {fate : Fate}

/-- What an outcome is when a statement is refused inside a transaction. -/
def Refused (out : Outcome ω) (savepoints : List (Savepoint ω)) (writes : List ω) : Prop :=
  ∃ result, out = ⟨.failed result, up (.inTxn true savepoints writes), []⟩

/-- **A savepoint statement inside a transaction**, if the connection holds: carried out, or
refused with the transaction aborted. -/
theorem exec_inTxn (kept : fate.Kept) {sql : Text} {c : Control}
    (parsed : parseControl sql = some c) (keeps : c.keeps = true) :
    (∃ s, (Session.inTxn aborted savepoints writes).control c = ⟨true, s, []⟩ ∧
        (up (.inTxn aborted savepoints writes)).exec sql fate = ⟨.ok, up s, []⟩) ∨
      Refused ((up (.inTxn aborted savepoints writes)).exec sql fate) savepoints writes := by
  rw [exec_control parsed keeps]
  cases hv : fate.verdict with
  | accept =>
    have reacts := Session.control_reacts keeps aborted savepoints writes
    rw [send_accept _ _ _ hv]
    generalize (Session.inTxn aborted savepoints writes).control c = reply at reacts ⊢
    cases reacts with
    | refused => exact .inr ⟨_, rfl⟩
    | set | released | restored => exact .inl ⟨_, rfl, rfl⟩
  | refuse ends =>
    exact .inr ⟨some fate.message, by simp [send_refuse _ _ _ hv, Session.refused]⟩
  | lose applied noResult => exact absurd hv (kept applied noResult)

/-- A refusal inside a transaction. -/
def refusal (fate : Fate) (savepoints : List (Savepoint ω)) (writes : List ω) : Outcome ω :=
  ⟨.failed (some fate.message), up (.inTxn true savepoints writes), []⟩

variable {savepoints writes} {react : Session ω → Reply ω} {s : Session ω}

/-- A statement that the session carries out in some cases, and the server accepts. -/
theorem send_takes (kept : fate.Kept) {takes : Prop} [Decidable takes]
    (reacts : react (.inTxn aborted savepoints writes) =
      if takes then ⟨true, s, []⟩ else ⟨false, .inTxn true savepoints writes, []⟩) :
    (up (.inTxn aborted savepoints writes)).send false react fate =
      if takes ∧ fate.verdict = .accept then ⟨.ok, up s, []⟩
      else refusal fate savepoints writes := by
  cases hv : fate.verdict with
  | accept => by_cases h : takes <;> simp [send_accept _ _ _ hv, reacts, h, refusal]
  | refuse ends => simp [send_refuse _ _ _ hv, Session.refused, refusal]
  | lose applied noResult => exact absurd hv (kept applied noResult)

theorem query_inTxn (kept : fate.Kept) :
    (up (.inTxn aborted savepoints writes)).query fate =
      if aborted = false ∧ fate.verdict = .accept then
        ⟨.ok, up (.inTxn false savepoints writes), []⟩
      else refusal fate savepoints writes :=
  send_takes aborted kept (by cases aborted <;> rfl)

theorem write_inTxn (kept : fate.Kept) (w : ω) :
    (up (.inTxn aborted savepoints writes)).write w fate =
      if aborted = false ∧ fate.verdict = .accept then
        ⟨.ok, up (.inTxn false savepoints (writes ++ [w])), []⟩
      else refusal fate savepoints writes :=
  send_takes aborted kept (by cases aborted <;> rfl)

end Link

/-! ### Groups of statements -/

/-- **Savepoints are nested**: each has the writes of those below it and more, and the
transaction has the writes of all. -/
def Nested (savepoints : List (Savepoint ω)) (writes : List ω) : Prop :=
  (savepoints.map (·.writes) ++ [writes]).Pairwise (· <+: ·)

theorem nested_nil (writes : List ω) : Nested [] writes := by simp [Nested]

theorem nested_append_singleton (savepoints : List (Savepoint ω)) (sp : Savepoint ω)
    (writes : List ω) :
    Nested (savepoints ++ [sp]) writes ↔ Nested savepoints sp.writes ∧ sp.writes <+: writes ∧
      ∀ below ∈ savepoints, below.writes <+: writes := by
  simp only [Nested, List.map_append, List.map_cons, List.map_nil, List.append_assoc,
    List.pairwise_append, List.mem_append, List.mem_map, List.mem_singleton, List.pairwise_cons]
  grind

variable {more : List ω}

theorem Nested.extend {savepoints : List (Savepoint ω)} {writes : List ω}
    (nested : Nested savepoints writes) (longer : writes <+: more) : Nested savepoints more := by
  rw [Nested, List.pairwise_append] at nested ⊢
  refine ⟨nested.1, by simp, ?_⟩
  intro below hbelow last hlast
  rw [List.mem_singleton.mp hlast]
  exact (nested.2.2 below hbelow writes (by simp)).trans longer

/-- Setting a savepoint keeps them nested. -/
theorem Nested.push {savepoints : List (Savepoint ω)} {writes : List ω}
    (nested : Nested savepoints writes) (longer : writes <+: more) (name : Text) :
    Nested (savepoints ++ [⟨name, writes⟩]) more := by
  rw [nested_append_singleton]
  refine ⟨nested, longer, fun below hbelow => ?_⟩
  rw [Nested, List.pairwise_append] at nested
  exact (nested.2.2 below.writes (List.mem_map_of_mem hbelow) writes (by simp)).trans longer

variable {under beyond : List (Savepoint ω)} {sp : Savepoint ω}

/-- Savepoints below one have no more writes than it. -/
theorem Nested.below {writes : List ω} (nested : Nested (under ++ sp :: beyond) writes)
    {below : Savepoint ω} (mem : below ∈ under) :
    below.writes <+: sp.writes := by
  rw [Nested, List.map_append, List.append_assoc, List.pairwise_append] at nested
  exact nested.2.2 _ (List.mem_map_of_mem mem) _ (by simp)

/-- Rolling back to a savepoint keeps them nested. -/
theorem Nested.cut {writes : List ω} (nested : Nested (under ++ sp :: beyond) writes) :
    Nested (under ++ [sp]) sp.writes := by
  rw [nested_append_singleton]
  refine ⟨?_, List.prefix_rfl, fun below mem => nested.below mem⟩
  rw [Nested] at nested ⊢
  refine nested.sublist (List.IsPrefix.sublist ⟨beyond.map (·.writes) ++ [writes], ?_⟩)
  simp

/-- **What a group of statements keeps** of a transaction: it is still open with the
savepoints it had, and if it is sound it was sound and gained exactly `added`. -/
def Grows (aborted : Bool) (savepoints : List (Savepoint ω)) (writes added : List ω)
    (l : Link ω) : Prop :=
  ∃ aborted' savepoints' writes', l = .up (.inTxn aborted' savepoints' writes') ∧
    savepoints <+: savepoints' ∧ (Nested savepoints writes → Nested savepoints' writes') ∧
    (aborted' = false → aborted = false ∧ writes' = writes ++ added)

namespace Grows

variable {aborted : Bool} {savepoints : List (Savepoint ω)} {writes added : List ω}

/-- The transaction is aborted as it stands. -/
theorem of_aborted : Grows aborted savepoints writes added
    (.up (.inTxn true savepoints writes)) :=
  ⟨true, savepoints, writes, rfl, List.prefix_rfl, id, by simp⟩

/-- Writes were made and nothing else happened. -/
theorem of_added : Grows false savepoints writes added
    (.up (.inTxn false savepoints (writes ++ added))) :=
  ⟨false, savepoints, writes ++ added, rfl, List.prefix_rfl, fun nested => nested.extend (by simp),
    fun _ => ⟨rfl, rfl⟩⟩

/-- It is aborted behind a savepoint set on top. -/
theorem of_aborted_above {name : Text} (longer : writes <+: more) :
    Grows aborted savepoints writes added
      (.up (.inTxn true (savepoints ++ [⟨name, writes⟩]) more)) :=
  ⟨true, _, more, rfl, List.prefix_append _ _, fun nested => nested.push longer name, by simp⟩

/-- Nothing happened. -/
theorem of_nothing : Grows false savepoints writes [] (.up (.inTxn false savepoints writes)) :=
  ⟨false, savepoints, writes, rfl, List.prefix_rfl, id, fun _ => ⟨rfl, by simp⟩⟩

/-- One group after another. -/
theorem andThen {l : Link ω} (first : Grows aborted savepoints writes added l)
    (next : Link ω → Link ω)
    (second : ∀ aborted' savepoints' writes', l = .up (.inTxn aborted' savepoints' writes') →
      Grows aborted' savepoints' writes' more (next l)) :
    Grows aborted savepoints writes (added ++ more) (next l) := by
  obtain ⟨aborted', savepoints', writes', isUp, longer, nested, sound⟩ := first
  obtain ⟨aborted'', savepoints'', writes'', isUp', longer', nested', sound'⟩ :=
    second aborted' savepoints' writes' isUp
  refine ⟨aborted'', savepoints'', writes'', isUp', longer.trans longer', nested' ∘ nested, ?_⟩
  intro stillSound
  obtain ⟨wasSound, rfl⟩ := sound' stillSound
  obtain ⟨isSound, rfl⟩ := sound wasSound
  exact ⟨isSound, List.append_assoc _ _ _⟩

end Grows

end PlexPostgres.Postgres
