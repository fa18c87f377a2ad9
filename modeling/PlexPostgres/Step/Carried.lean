import PlexPostgres.Step.Ledger

/-!
# A transaction command, sent

The statements planned for a transaction command, sent one by one over a connection
that holds, move the session and the client's account together: if all succeed the
session keeps the account the command leads to, and if one is refused the transaction
is aborted and the session still keeps the account there was.

Only COMMIT is more delicate: it succeeds on an aborted transaction too, and a refused
one may end the transaction.  `sendPlan` asks for neither to happen.
-/

namespace PlexPostgres.Step

open Postgres Txn
open scoped List

variable {ω : Type*} {g : Ledger ω}

/-- A connection whose session keeps the account. -/
def CarriedBy (g : Ledger ω) (l : Link ω) : Prop :=
  ∃ aborted savepoints writes, l = .up (.inTxn aborted savepoints writes) ∧
    Carries g aborted savepoints writes

/-! ### Single statements -/

variable {frame : Frame} {n : Text} {below : List (Frame × List ω)} {mark : List ω}

section

variable {aborted : Bool} {savepoints : List (Savepoint ω)} {writes : List ω} {fate : Fate}

/-- A statement that was refused, or succeeded: then the transaction is sound and keeps
the account `g'`. -/
def Leads (g' : Ledger ω) (savepoints : List (Savepoint ω)) (writes : List ω)
    (out : Outcome ω) : Prop :=
  (∃ savepoints' writes', out = ⟨.ok, .up (.inTxn false savepoints' writes'), []⟩ ∧
      Carries g' false savepoints' writes') ∨
    Link.Refused out savepoints writes

section

variable (carries : Carries g aborted savepoints writes)
include carries

theorem exec_push (isOpen : g.levels ≠ [])
    (kept : fate.Kept) (name : frame.name? = some n) :
    Leads (g.push frame) savepoints writes
      ((Link.up (.inTxn aborted savepoints writes)).exec (savepointSql n) fate) := by
  rw [exec_savepoint_inTxn aborted savepoints writes kept n]
  split
  next set =>
    obtain ⟨rfl, -⟩ := set
    exact .inl ⟨_, _, rfl, carries.push isOpen name⟩
  · exact .inr ⟨_, rfl⟩

theorem exec_release
    {above : List (Frame × List ω)} (levels : g.levels = below ++ (frame, mark) :: above)
    (ne : below ≠ []) (kept : fate.Kept) (name : frame.name? = some n) :
    Leads { g with levels := below } savepoints writes
      ((Link.up (.inTxn aborted savepoints writes)).exec (releaseSql n) fate) := by
  rcases Link.exec_inTxn aborted savepoints writes kept (parseControl_releaseSql n) rfl with
    ⟨s, reaction, sent⟩ | refused
  · cases aborted with
    | true => cases reaction
    | false =>
      obtain ⟨savepoints', released, carries'⟩ := carries.release levels ne name
      rw [released] at reaction
      cases reaction
      exact .inl ⟨_, _, sent, carries'⟩
  · exact .inr refused

theorem exec_rollbackTo
    {above : List (Frame × List ω)} (levels : g.levels = below ++ (frame, mark) :: above)
    (ne : below ≠ []) (kept : fate.Kept) (name : frame.name? = some n) :
    Leads ⟨below ++ [(frame, mark)], mark⟩ savepoints writes
      ((Link.up (.inTxn aborted savepoints writes)).exec (rollbackToSql n) fate) := by
  rcases Link.exec_inTxn aborted savepoints writes kept (parseControl_rollbackToSql n) rfl with
    ⟨s, reaction, sent⟩ | refused
  · obtain ⟨savepoints', writes', back, carries'⟩ := carries.rollbackTo levels ne name
    rw [back] at reaction
    cases reaction
    exact .inl ⟨_, _, sent, carries'⟩
  · exact .inr refused

end

/-- ROLLBACK ends the transaction, unless the server refuses it. -/
theorem exec_rollback (kept : fate.Kept) :
    (Link.up (.inTxn aborted savepoints writes)).exec rollbackSql fate = ⟨.ok, .up .idle, []⟩ ∨
      Link.Refused ((Link.up (.inTxn aborted savepoints writes)).exec rollbackSql fate)
        savepoints writes := by
  cases hv : fate.verdict with
  | accept =>
    refine .inl ?_
    simp [Link.exec, Link.send_accept _ _ _ hv, Session.exec, Session.control]
  | refuse ends =>
    refine .inr ⟨some fate.message, ?_⟩
    simp [Link.exec, Link.send_refuse _ _ _ hv, Session.refused]
  | lose applied noResult => exact absurd hv (kept applied noResult)

/-- A refused statement leaves an aborted transaction with the same levels to keep. -/
theorem carriedBy_of_refused {g' : Ledger ω} (carries : Carries g' aborted savepoints writes)
    (levels : g'.levels = g.levels) :
    CarriedBy g (.up (.inTxn true savepoints writes)) := by
  refine ⟨true, savepoints, writes, rfl, ?_⟩
  have aborted := carries.abort g.writes
  rwa [levels] at aborted

end

/-! ### The whole plan -/

/-- The place of COMMIT in the plan of a command that commits. -/
def commitAt : TxnCmd → ℕ
  | .commit => 0
  | _ => 1

/-- **How the statements of a command can end**: one was refused and the account is kept
as it was; all succeeded and the account moved on; or the transaction is over and, if
the command commits, every write of the account is durable. -/
inductive PlanSent (g : Ledger ω) (cmd : TxnCmd) :
    Option (Option (Option Text)) × Link ω × List ω → Prop
  | refused (result : Option (Option Text)) {l : Link ω} (carried : CarriedBy g l) :
      PlanSent g cmd (some result, l, [])
  | movedOn {l : Link ω} (carried : CarriedBy (g.step cmd) l)
      (isOpen : (g.step cmd).levels ≠ []) : PlanSent g cmd (none, l, [])
  | ended {committed : List ω} (isClosed : (g.step cmd).levels = [])
      (durable : g.commits cmd = true → g.writes <+ committed) :
      PlanSent g cmd (none, .up .idle, committed)

variable {cmd : TxnCmd} {sql : Text}

/-- A plan of one statement. -/
theorem sendOne {aborted : Bool} {savepoints : List (Savepoint ω)} {writes : List ω}
    (carries : Carries g aborted savepoints writes) {fates : ℕ → Fate} (noNul : '\x00' ∉ sql)
    (leads : Leads (g.step cmd) savepoints writes
      ((Link.up (.inTxn aborted savepoints writes)).exec sql (fates 0)))
    (isOpen : (g.step cmd).levels ≠ []) :
    PlanSent g cmd
      (World.sendStatements (.up (.inTxn aborted savepoints writes)) [sql] fates) := by
  rcases leads with ⟨savepoints', writes', sent, carries'⟩ | ⟨result, refused⟩
  · rw [sendStatements_ok noNul [] (by rw [sent]), sent]
    exact .movedOn ⟨_, _, _, rfl, carries'⟩ isOpen
  · rw [sendStatements_failed noNul [] (by rw [refused]), refused]
    exact .refused result (carriedBy_of_refused carries rfl)

section

variable {aborted : Bool} {savepoints : List (Savepoint ω)} {writes : List ω} {fates : ℕ → Fate}

/-- ROLLBACK of a nested BEGIN: back to its savepoint, which is then released. -/
theorem sendRollbackNested (carries : Carries g aborted savepoints writes)
    (levels : g.levels = below ++ [(frame, mark)]) (ne : below ≠ []) (name : frame.name? = some n)
    (step : g.step .rollback = ⟨below, mark⟩) (noNulTo : '\x00' ∉ rollbackToSql n)
    (noNul : '\x00' ∉ releaseSql n) (kept : ∀ i, (fates i).Kept) :
    PlanSent g .rollback (World.sendStatements (.up (.inTxn aborted savepoints writes))
      [rollbackToSql n, releaseSql n] fates) := by
  rcases exec_rollbackTo carries levels ne (kept 0) name with
    ⟨savepoints', writes', back, carries'⟩ | ⟨result, refused⟩
  · rw [sendStatements_ok noNulTo _ (by rw [back]), back]
    -- The account in between: everything above the nested BEGIN is undone, it is still open.
    rcases exec_release carries' rfl ne (kept 1) name with
      ⟨savepoints'', writes'', released, carries''⟩ | ⟨result, refused⟩
    · rw [sendStatements_ok noNul _ (by rw [released]), released]
      refine .movedOn ⟨_, _, _, rfl, ?_⟩ ?_
      · rwa [step]
      · rwa [step]
    · rw [sendStatements_failed noNul _ (by rw [refused]), refused]
      exact .refused result (carriedBy_of_refused carries' levels.symm)
  · rw [sendStatements_failed noNulTo _ (by rw [refused]), refused]
    exact .refused result (carriedBy_of_refused carries rfl)

/-- COMMIT of a sound transaction, accepted: what the account has is durable. -/
theorem sendCommit (fates : ℕ → Fate) (has : g.writes <+ writes)
    (isClosed : (g.step cmd).levels = []) (accepted : (fates 0).verdict = .accept) :
    PlanSent g cmd
      (World.sendStatements (.up (.inTxn false savepoints writes)) [commitSql] fates) := by
  have sent : (Link.up (.inTxn false savepoints writes)).exec commitSql (fates 0) =
      ⟨.ok, .up .idle, writes⟩ := by
    simp [Link.exec, Link.send_accept _ _ _ accepted, Session.exec, Session.control]
  rw [sendStatements_ok (by decide) _ (by rw [sent]), sent]
  refine .ended isClosed fun _ => ?_
  simpa [World.sendStatements] using has

/-- **The statements of a command, sent over a connection that holds.**  A command that
commits is not to meet an aborted transaction, and its COMMIT is to be accepted. -/
theorem sendPlan {sql : List Text} (noted : Noted g cmd sql (g.step cmd))
    (carries : Carries g aborted savepoints writes) (wf : WellFormed (g.levels.map Prod.fst))
    (isOpen : g.levels ≠ []) (noNul : ∀ q ∈ sql, '\x00' ∉ q) (kept : ∀ i, (fates i).Kept)
    (careful : g.commits cmd = true →
      (cmd = .commit → aborted = false) ∧ (fates (commitAt cmd)).verdict = .accept) :
    PlanSent g cmd (World.sendStatements (.up (.inTxn aborted savepoints writes)) sql fates) := by
  -- What lies below a named level is not empty: the outer frame has no name.
  have below_ne : ∀ {below above : List (Frame × List ω)} {frame : Frame} {mark : List ω}
      {n : Text}, g.levels = below ++ (frame, mark) :: above → frame.name? = some n →
      below ≠ [] := by
    intro below above frame mark n levels name
    rw [levels, List.map_append, List.map_cons] at wf
    simpa using wf.ne_nil_of_named name
  generalize next : g.step cmd = g' at noted
  cases noted with
  | nothing =>
    refine .movedOn ⟨aborted, savepoints, writes, rfl, ?_⟩ ?_
    · rwa [next]
    · rwa [next]
  | push cmd name =>
    refine sendOne carries (noNul _ (by simp)) ?_ ?_
    · rw [next]
      exact exec_push carries isOpen (kept 0) name
    · rw [next]
      simp [Ledger.push]
  | release cmd levels name =>
    refine sendOne carries (noNul _ (by simp)) ?_ ?_
    · rw [next]
      exact exec_release carries levels (below_ne levels name) (kept 0) name
    · rw [next]
      exact below_ne levels name
  | rollbackTo cmd levels name =>
    refine sendOne carries (noNul _ (by simp)) ?_ ?_
    · rw [next]
      exact exec_rollbackTo carries levels (below_ne levels name) (kept 0) name
    · rw [next]
      simp
  | rollbackNested levels name =>
    exact sendRollbackNested carries levels (below_ne levels name) name next
      (noNul _ (by simp)) (noNul _ (by simp)) kept
  | commit =>
    have closes : (g.step .commit).levels = [] := by
      rw [next]
      rfl
    obtain ⟨sound, accepted⟩ := careful (by simp [Ledger.commits, closes, isOpen])
    obtain rfl := sound rfl
    exact sendCommit fates (carries.writes rfl) closes accepted
  | rollback =>
    rcases exec_rollback (kept 0) with ended | ⟨result, refused⟩
    · rw [sendStatements_ok (noNul _ (by simp)) _ (by rw [ended]), ended]
      exact .ended (by rw [next]; rfl) (by simp [Ledger.commits])
    · rw [sendStatements_failed (noNul _ (by simp)) _ (by rw [refused]), refused]
      exact .refused result (carriedBy_of_refused carries rfl)
  | @releaseOuter bottom above frame mark n levels name =>
    have closes : (g.step (.release n)).levels = [] := by
      rw [next]
      rfl
    obtain ⟨-, accepted⟩ := careful (by simp [Ledger.commits, closes, isOpen])
    rcases exec_release carries levels (by simp) (kept 0) name with
      ⟨savepoints', writes', released, carries'⟩ | ⟨result, refused⟩
    · rw [sendStatements_ok (noNul _ (by simp)) _ (by rw [released]), released]
      have has : g.writes <+ writes' := carries'.writes rfl
      exact sendCommit (fun i => fates (i + 1)) has closes accepted
    · rw [sendStatements_failed (noNul _ (by simp)) _ (by rw [refused]), refused]
      exact .refused result (carriedBy_of_refused carries rfl)

end

/-! ### Statements that can be made C strings -/

theorem savepointName_noNul {token : Text} (name : savepointName token = some n) :
    '\x00' ∉ n := by
  unfold savepointName at name
  extract_lets t unquoted at name
  split at name
  · cases name
  next plain =>
    obtain rfl := Option.some.inj name
    intro mem
    simp only [Bool.or_eq_true, Bool.not_eq_true', not_or, Bool.not_eq_false,
      List.all_eq_true] at plain
    exact absurd (plain.2 _ mem) (by decide)

theorem classifyRollback_noNul {words : List Text}
    (classified : classifyRollback words = some cmd) (name : cmd.name? = some n) :
    '\x00' ∉ n := by
  unfold classifyRollback at classified
  extract_lets rest rest' idx nameIdx at classified
  split at classified
  · cases classified
    cases name
  split at classified
  · cases classified
  · obtain ⟨word, -, named⟩ := Option.bind_eq_some_iff.mp classified
    obtain ⟨found, hfound, last⟩ := Option.bind_eq_some_iff.mp named
    split_ifs at last
    cases last
    cases name
    exact savepointName_noNul hfound

theorem classifyRelease_noNul {words : List Text} (classified : classifyRelease words = some cmd)
    (name : cmd.name? = some n) :
    '\x00' ∉ n := by
  unfold classifyRelease at classified
  extract_lets nameIdx at classified
  split_ifs at classified
  obtain ⟨word, -, named⟩ := Option.bind_eq_some_iff.mp classified
  obtain ⟨found, hfound, rfl⟩ := Option.map_eq_some_iff.mp named
  cases name
  exact savepointName_noNul hfound

/-- **A name the shim was given has no NUL in it.** -/
theorem classifySql_noNul (classified : classifySql sql = some cmd) (name : cmd.name? = some n) :
    '\x00' ∉ n := by
  rw [classifySql] at classified
  generalize Text.splitWhitespace (classifyBody sql) = words at classified
  cases words with
  | nil => cases classified
  | cons word rest =>
    rw [classifyWords] at classified
    split_ifs at classified
    · cases classified
      cases name
    · cases classified
      cases name
    · exact classifyRollback_noNul classified name
    · obtain ⟨token, -, named⟩ := Option.bind_eq_some_iff.mp classified
      obtain ⟨found, hfound, rfl⟩ := Option.map_eq_some_iff.mp named
      cases name
      exact savepointName_noNul hfound
    · exact classifyRelease_noNul classified name

/-- No frame's name has a NUL in it. -/
def Sendable (frames : List Frame) : Prop :=
  ∀ frame ∈ frames, ∀ n, frame.name? = some n → '\x00' ∉ n

theorem nestedName_noNul (depth : ℕ) : '\x00' ∉ nestedName depth := by
  unfold nestedName nestedLead
  intro mem
  rcases List.mem_append.mp mem with lead | digit
  · exact absurd lead (by decide)
  · exact absurd (Nat.isDigit_of_mem_toDigits (by decide) (by decide) digit) (by decide)

/-- **Every planned statement is sent**, and what is on the stack then can be sent too. -/
theorem Sendable.planned {frames after : List Frame} (sendable : Sendable frames)
    (named : ∀ n, cmd.name? = some n → '\x00' ∉ n) {sql : List Text}
    (planned : Planned frames cmd sql after) : (∀ q ∈ sql, '\x00' ∉ q) ∧ Sendable after := by
  have release : ∀ {n : Text}, '\x00' ∉ n → '\x00' ∉ releaseSql n := by
    intro n noNul
    unfold releaseSql
    simpa using noNul
  have rollbackTo : ∀ {n : Text}, '\x00' ∉ n → '\x00' ∉ rollbackToSql n := by
    intro n noNul
    unfold rollbackToSql
    simpa using noNul
  have savepoint : ∀ {n : Text}, '\x00' ∉ n → '\x00' ∉ savepointSql n := by
    intro n noNul
    rwa [nul_mem_savepointSql]
  have push : ∀ {frame : Frame}, (∀ n, frame.name? = some n → '\x00' ∉ n) →
      Sendable (frames ++ [frame]) := by
    intro frame noNul
    exact List.forall_mem_append.mpr ⟨sendable, List.forall_mem_singleton.mpr noNul⟩
  cases planned with
  | beginIdle => exact ⟨by decide, by simp [Sendable, Frame.name?]⟩
  | commitIdle | rollbackIdle | releaseUnknown | rollbackToUnknown => exact ⟨by simp, sendable⟩
  | commitOuter | rollbackOuter => exact ⟨by decide, by simp [Sendable]⟩
  | beginNested =>
    refine ⟨by simpa using savepoint (nestedName_noNul _), push fun n name => ?_⟩
    cases name
    exact nestedName_noNul _
  | savepointInner _ n =>
    have noNul := named n rfl
    refine ⟨by simpa using savepoint noNul, push fun m name => ?_⟩
    cases name
    exact noNul
  | savepointIdle n =>
    have noNul := named n rfl
    have begins : '\x00' ∉ beginSql := by decide
    exact ⟨by simpa using ⟨begins, savepoint noNul⟩, by simpa [Sendable, Frame.name?] using noNul⟩
  | commitNested below n =>
    have noNul := sendable (.nestedBegin n) (by simp) n rfl
    exact ⟨by simpa using release noNul, fun f mem => sendable f (by simp [mem])⟩
  | rollbackNested below n =>
    have noNul := sendable (.nestedBegin n) (by simp) n rfl
    exact ⟨by simpa using ⟨rollbackTo noNul, release noNul⟩,
      fun f mem => sendable f (by simp [mem])⟩
  | releaseOuter above n =>
    have commits : '\x00' ∉ commitSql := by decide
    exact ⟨by simpa using ⟨release (named n rfl), commits⟩, by simp [Sendable]⟩
  | releaseInner below above n =>
    exact ⟨by simpa using release (named n rfl), fun f mem => sendable f (by simp [mem])⟩
  | rollbackToKnown below above n =>
    refine ⟨by simpa using rollbackTo (named n rfl), fun f mem => sendable f ?_⟩
    rcases List.mem_append.mp mem with lower | top
    · simp [lower]
    · simp [List.mem_singleton.mp top]

end PlexPostgres.Step
