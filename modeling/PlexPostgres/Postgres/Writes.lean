import PlexPostgres.Postgres.Link

/-!
# The writes a session holds

A session in a transaction holds lists of writes: its own, and for each savepoint those
that going back to it would restore.  Statements other than a write make no new list, so
a property of all of them (`Link.Every`) is kept by every statement that neither writes
nor ends the transaction (`Link.Every.exec`, `Link.Every.query`).

`Link.write_spec` says what a write does, for an effect that is in none of the lists
before.
-/

namespace PlexPostgres.Postgres

variable {ω : Type*}

section

variable (P : List ω → Prop)

/-- Every list of writes a session holds, its transaction's and those its savepoints would
restore. -/
def Session.Every : Session ω → Prop
  | .idle => True
  | .inTxn _ savepoints writes => P writes ∧ ∀ sp ∈ savepoints, P sp.writes

/-- The same for a connection. -/
def Link.Every : Link ω → Prop
  | .up s => s.Every P
  | .closed | .down => True

end

/-- The writes waiting for a commit on a connection. -/
def Link.pending : Link ω → List ω
  | .up s => s.pending
  | .closed | .down => []

variable {P : List ω → Prop}

theorem Link.every_of_forall (always : ∀ writes, P writes) (l : Link ω) : l.Every P := by
  cases l with
  | closed | down => trivial
  | up s => cases s with
    | idle => trivial
    | inTxn => exact ⟨always _, fun sp _ => always sp.writes⟩

theorem Link.Every.pending {l : Link ω} (every : l.Every P) (nil : P []) : P l.pending := by
  cases l with
  | closed | down => exact nil
  | up s => cases s with
    | idle => exact nil
    | inTxn => exact every.1

theorem Link.pending_of_not_inTransaction {l : Link ω} (idle : l.inTransaction = false) :
    l.pending = [] := by
  cases l with
  | closed | down => rfl
  | up s => cases s with
    | idle => rfl
    | inTxn => simp at idle

theorem Link.every_of_not_inTransaction {l : Link ω} (idle : l.inTransaction = false) :
    l.Every P := by
  cases l with
  | closed | down => trivial
  | up s => cases s with
    | idle => trivial
    | inTxn => simp at idle

/-! ### Sessions -/

namespace Session.Every

variable {s : Session ω}

theorem refused (every : s.Every P) : s.refused.Every P := by
  cases s with
  | idle => trivial
  | inTxn => exact every

/-- A savepoint statement keeps, drops or restores lists, and commits nothing. -/
theorem control (every : s.Every P) {c : Control} (keeps : c.keeps = true) :
    (s.control c).session.Every P ∧ (s.control c).committed = [] := by
  cases s with
  | idle =>
    cases c with
    | begin | commit | rollback => cases keeps
    | savepoint | release | rollbackTo => exact ⟨trivial, rfl⟩
  | inTxn aborted savepoints writes =>
    obtain ⟨now, marks⟩ := every
    have reacts := control_reacts keeps aborted savepoints writes
    generalize (inTxn aborted savepoints writes).control c = reply at reacts ⊢
    cases reacts with
    | refused => exact ⟨⟨now, marks⟩, rfl⟩
    | set =>
      exact ⟨⟨now, List.forall_mem_append.mpr ⟨marks, List.forall_mem_singleton.mpr now⟩⟩, rfl⟩
    | released levels =>
      subst levels
      exact ⟨⟨now, fun sp mem => marks sp (List.mem_append_left _ mem)⟩, rfl⟩
    | restored levels =>
      subst levels
      rw [List.append_cons] at marks
      exact ⟨⟨marks _ (by simp), fun sp mem => marks sp (List.mem_append_left _ mem)⟩, rfl⟩

theorem query (every : s.Every P) :
    s.query.session.Every P ∧ s.query.committed = [] := by
  cases s with
  | idle => exact ⟨trivial, rfl⟩
  | inTxn aborted savepoints writes => cases aborted <;> exact ⟨every, rfl⟩

end Session.Every

/-! ### Connections -/

namespace Link.Every

variable {l : Link ω}

/-- A statement that makes no new list and commits nothing. -/
theorem send (every : l.Every P) {react : Session ω → Reply ω}
    (reacts : ∀ s : Session ω, s.Every P → (react s).session.Every P ∧ (react s).committed = [])
    (fate : Fate) :
    (l.send false react fate).link.Every P ∧ (l.send false react fate).committed = [] := by
  cases isOk : l.isOk with
  | false =>
    obtain ⟨-, same, nothing⟩ := Link.send_of_not_up isOk false react fate
    rw [same]
    exact ⟨every, nothing⟩
  | true =>
    obtain ⟨s, rfl⟩ := Link.exists_of_isOk isOk
    obtain ⟨kept, nothing⟩ := reacts s every
    cases hv : fate.verdict with
    | accept =>
      rw [Link.send_accept s false react hv]
      exact ⟨kept, nothing⟩
    | refuse ends =>
      rw [Link.send_refuse s false react hv]
      exact ⟨Session.Every.refused every, rfl⟩
    | lose applied noResult =>
      rw [Link.send_lose s false react hv]
      exact ⟨trivial, by simp [nothing]⟩

theorem query (every : l.Every P) (fate : Fate) :
    (l.query fate).link.Every P ∧ (l.query fate).committed = [] :=
  every.send (fun _ h => h.query) fate

theorem exec (every : l.Every P) {sql : Text} {c : Control} (parsed : parseControl sql = some c)
    (keeps : c.keeps = true) (fate : Fate) :
    (l.exec sql fate).link.Every P ∧ (l.exec sql fate).committed = [] := by
  rw [exec_control parsed keeps]
  exact every.send (fun _ h => h.control keeps) fate

end Link.Every

/-! ### A write -/

section

variable [DecidableEq ω] (e : ω)

/-- A write was made: it is durable, or it is in the transaction, once. -/
def Made (out : Outcome ω) : Prop :=
  (out.committed = [e] ∧ out.link.Every (e ∉ ·)) ∨
    (out.committed = [] ∧ out.link.Every (·.count e ≤ 1))

/-- A write was not made, unless its reply was `lost`. -/
def Unmade (out : Outcome ω) (lost : Prop) : Prop :=
  out.link.Every (e ∉ ·) ∧ (out.committed = [] ∨ (out.committed = [e] ∧ lost))

variable {e} {l : Link ω}

/-- **A write** of an effect that is in none of the lists. -/
theorem Link.write_spec (lacks : l.Every (e ∉ ·)) (fate : Fate) :
    ((l.write e fate).answer = .ok ∧ Made e (l.write e fate)) ∨
      ∃ result, (l.write e fate).answer = .failed result ∧
        Unmade e (l.write e fate) (∃ noResult, fate.verdict = .lose true noResult) := by
  cases isOk : l.isOk with
  | false =>
    obtain ⟨⟨result, failed⟩, same, nothing⟩ := Link.send_of_not_up isOk false (·.write e) fate
    refine .inr ⟨result, failed, ?_, .inl nothing⟩
    rw [Link.write, same]
    exact lacks
  | true =>
    obtain ⟨s, rfl⟩ := Link.exists_of_isOk isOk
    cases hv : fate.verdict with
    | accept =>
      rw [Link.write, Link.send_accept s false _ hv]
      cases s with
      | idle => exact .inl ⟨rfl, .inl ⟨rfl, trivial⟩⟩
      | inTxn aborted savepoints writes =>
        cases aborted with
        | true => exact .inr ⟨_, rfl, lacks, .inl rfl⟩
        | false =>
          refine .inl ⟨rfl, .inr ⟨rfl, ?_, fun sp mem => ?_⟩⟩
          · simp [List.count_eq_zero_of_not_mem lacks.1]
          · exact (List.count_eq_zero_of_not_mem (lacks.2 sp mem)).le.trans (by decide)
    | refuse ends =>
      rw [Link.write, Link.send_refuse s false _ hv]
      exact .inr ⟨_, rfl, Session.Every.refused lacks, .inl rfl⟩
    | lose applied noResult =>
      rw [Link.write, Link.send_lose s false _ hv]
      refine .inr ⟨_, rfl, trivial, ?_⟩
      cases applied with
      | false => exact .inl rfl
      | true =>
        cases s with
        | idle => exact .inr ⟨rfl, noResult, rfl⟩
        | inTxn aborted savepoints writes => cases aborted <;> exact .inl rfl

end

end PlexPostgres.Postgres
