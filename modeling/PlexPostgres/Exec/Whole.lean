import PlexPostgres.Exec.Path
import PlexPostgres.Library.Attempts
import PlexPostgres.Translate.Splitter
import PlexPostgres.Txn.OneStatement

/-!
# Every statement of a script is carried out

`sqlite3_exec` looks at a script as one text, so what becomes of a statement depends on the
text it stands in.  A script is *carried out* when each of its statements was executed by
PostgreSQL, forwarded as transaction control, or is by itself on the skip list.

The skip list tests how the whole text begins.  `BEGIN; INSERT INTO t VALUES (1); COMMIT`
is no single transaction command, begins like one, and is answered with success while
nothing of it was sent (`insert_dropped_with_script`).

What reaches the translator is translated as one text too.  Its passes cut the text with the
splitter and join the parts again, and one of them answers a whole text that begins with a
rebuild of a search index.  Apart from that a text is translated statement by statement: this is
what is asked of a translator here.  `ok_iff_handled_whole` says for which scripts success means
that every statement was carried out, whichever translator does so.
-/

namespace PlexPostgres.Exec

open Text Postgres Txn Step Routing Sqlite Translate
open scoped List

variable {ω : Type*}

/-! ### What success promises -/

/-- **PostgreSQL performed the statements**: each one that is not by itself on the skip
list has a translation of its own, and these translations are among the texts executed,
in order. -/
def Performed (debug : Option Text) (tr : Translator) (stmts texts : List Text) : Prop :=
  ∃ own : List (List Text),
    (stmts.filter fun s => !shouldSkip debug s).map tr = own.map .ok ∧ [] ∉ own ∧
      own.flatten <+ texts

/-- **Every statement of the script was carried out.** -/
def CarriedOut (debug : Option Text) (tr : Translator) (script : Text) : Disposal → Prop
  | .executed texts => Performed debug tr (statements script) texts
  | .forwarded _ => (statements script).length ≤ 1
  | .nothing | .sqlite | .skipped | .blocked =>
    ∀ s ∈ statements script, shouldSkip debug s = true

theorem performed_of_skipped {debug : Option Text} {stmts : List Text}
    (skipped : ∀ s ∈ stmts, shouldSkip debug s = true) (tr : Translator) (texts : List Text) :
    Performed debug tr stmts texts := by
  have none : stmts.filter (fun s => !shouldSkip debug s) = [] := by
    rw [List.filter_eq_nil_iff]
    intro s mem
    simp [skipped s mem]
  exact ⟨[], by simp [none], by simp, by simp⟩

/-! ### What a translator is asked for -/

/-- `str::strip_prefix`, or the text itself. -/
def withoutLead (lead t : Text) : Text := if startsWith lead t then t.drop lead.length else t

/-- A name without the marks it may begin with. -/
def withoutMarks (name : Text) : Text :=
  name.dropWhile fun c => c = doubleQuote || c = singleQuote || c = backQuote || c = '['

/-- `names_fts_object`: the first name, its schema left out, is one of the search index. -/
def namesFtsObject (rest : Text) : Bool :=
  let name := withoutMarks (rest.takeWhile fun c =>
    !(isWhitespace c || c = '(' || c = ';' || c = ','))
  startsWith "fts4_".toList
    (if '.' ∈ name then withoutMarks ((name.dropWhile (· ≠ '.')).drop 1) else name)

/-- `is_fts_index_rebuild`. -/
def isFtsIndexRebuild (stmt : Text) : Bool :=
  let lower := asciiLower stmt
  let names (lead option : Text) : Bool := startsWith lead lower &&
    namesFtsObject ((withoutLead option ((lower.drop lead.length).dropWhile isWhitespace)).dropWhile
      isWhitespace)
  startsWith "create virtual table ".toList lower && contains " using fts4".toList lower ||
    names "drop table ".toList "if exists ".toList ||
    names "drop trigger ".toList "if exists ".toList ||
    names "create trigger ".toList "if not exists ".toList

/-- **A text that is translated statement by statement**: it is one statement, or the splitter
cuts it into its statements and keeps them apart, and it is not answered as a rebuild. -/
def Separable (script : Text) : Prop :=
  (statements script).length ≤ 1 ∨ Whole script ∧ isFtsIndexRebuild (trim script) = false

instance (script : Text) : Decidable (Separable script) := inferInstanceAs (Decidable (_ ∨ _))

/-- **A translator that works statement by statement**: a text becomes what its statements become,
one behind the other, and none that is not on the skip list becomes nothing. -/
structure StatementWise (debug : Option Text) (tr : Translator) : Prop where
  each : ∀ script texts, Separable script → tr script = .ok texts →
    ∃ own : List (List Text), (statements script).map tr = own.map .ok ∧ texts = own.flatten
  solid : ∀ s, statements s = [s] → shouldSkip debug s = false → tr s ≠ .ok []

/-- **The scripts that may be looked at as one text**: nothing in the script has to be
carried out, or the script is not left to SQLite, and it is one transaction command, or
neither the skip list nor the guard takes it whole and it is translated statement by
statement. -/
def HandledWhole (cfg : ExecConfig) (script : Text) : Prop :=
  (∀ s ∈ statements script, shouldSkip cfg.debug s = true) ∨
    isSqlitePassthrough script = false ∧
      (cfg.forwarding = true ∧ (classifySql script).isSome = true ∨
        shouldSkip cfg.debug script = false ∧ isJunkMetadataInsert script = false ∧
          Separable script)

instance (cfg : ExecConfig) (script : Text) : Decidable (HandledWhole cfg script) :=
  inferInstanceAs (Decidable (_ ∨ _))

/-- A statement of a script is the only one of its own text. -/
theorem statements_of_mem {script s : Text} (mem : s ∈ statements script) : statements s = [s] := by
  obtain ⟨isPiece, solid⟩ := List.mem_filter.mp mem
  rw [statements, split_of_uncut (uncut_of_mem_split isPiece), List.nil_append]
  exact List.filter_cons_of_pos solid

/-- Statements that are translated one behind the other are performed. -/
theorem performed_of_own {debug : Option Text} {tr : Translator} {stmts : List Text}
    {own : List (List Text)} (each : stmts.map tr = own.map .ok)
    (solid : ∀ s ∈ stmts, shouldSkip debug s = false → tr s ≠ .ok []) :
    Performed debug tr stmts own.flatten := by
  induction stmts generalizing own with
  | nil =>
    obtain rfl : own = [] := by simpa using each.symm
    exact ⟨[], by simp, by simp, by simp⟩
  | cons s stmts ih =>
    obtain ⟨t, own, rfl⟩ : ∃ t own', own = t :: own' :=
      List.exists_cons_of_ne_nil (by rintro rfl; simp at each)
    rw [List.map_cons, List.map_cons, List.cons.injEq] at each
    obtain ⟨kept, same, full, among⟩ := ih each.2 fun u mem => solid u (by simp [mem])
    cases skip : shouldSkip debug s with
    | true => exact ⟨kept, by simpa [skip] using same, full, among.trans (by simp)⟩
    | false =>
      refine ⟨t :: kept, by simpa [skip, each.1] using same, ?_, by simpa using among⟩
      have ne := solid s (by simp) skip
      rw [each.1] at ne
      simpa [full, eq_comm] using ne

/-- What such a translator is given is performed. -/
theorem StatementWise.performed {debug : Option Text} {tr : Translator} {script : Text}
    {texts : List Text} (spec : StatementWise debug tr) (separable : Separable script)
    (translated : tr script = .ok texts) : Performed debug tr (statements script) texts := by
  obtain ⟨own, each, rfl⟩ := spec.each script texts separable translated
  exact performed_of_own each fun s mem => spec.solid s (statements_of_mem mem)

/-! ### A call -/

variable {w : World ω}

section Call

variable (cfg : ExecConfig) (tr : Translator) (server : Text → Session ω → Reply ω) (db : DbId)
  (sql : Text)

/-- The attempts of a call. -/
def attempts : Attempts (World ω) ExecEnv where
  isRetried w mark env :=
    let a := execAttempt cfg tr server w db sql env
    a.isRetried (mark || a.connError)
  next w env := (execAttempt cfg tr server w db sql env).world

/-- **What the attempts of a call meet**: those that are followed by another `again`, the
last one `last`. -/
def AttemptsMeet (again last : World ω → ExecEnv → Prop) (retries : ℕ) (w : World ω)
    (mark : Bool) (envs : ℕ → ExecEnv) : Prop :=
  (attempts cfg tr server db sql).Meet again last retries w mark envs

/-- **The handle is backed by PostgreSQL at every attempt.** -/
def EachBacked (w : World ω) (mark : Bool) (envs : ℕ → ExecEnv) : Prop :=
  AttemptsMeet cfg tr server db sql (fun w env => Backed w db env) (fun w env => Backed w db env)
    cfg.maxRetries w mark envs

variable {cfg tr server db sql}

variable {envs : ℕ → ExecEnv}

/-- **The last attempt** answers for the call. -/
theorem AttemptsMeet.exists_last {again last : World ω → ExecEnv → Prop} {retries : ℕ}
    {mark : Bool} (meet : AttemptsMeet cfg tr server db sql again last retries w mark envs) :
    ∃ w' env mark', last w' env ∧ execTimes cfg tr server db sql retries w mark envs =
      (execAttempt cfg tr server w' db sql env).finish mark' := by
  induction retries generalizing w mark envs with
  | zero => exact ⟨w, envs 0, _, meet, rfl⟩
  | succ retries ih =>
    obtain ⟨only, rest⟩ := meet
    rw [execTimes]
    split
    next isRetried => exact ih (rest isRetried).2
    next once => exact ⟨w, envs 0, _, only (Bool.eq_false_iff.mpr once), rfl⟩

/-- An attempt that does not fail is the only one. -/
theorem execTimes_of_succeeds (envs : ℕ → ExecEnv)
    (succeeds : (execAttempt cfg tr server w db sql (envs 0)).rc = .ok) (retries : ℕ)
    (mark : Bool) :
    ∃ mark', execTimes cfg tr server db sql retries w mark envs =
      (execAttempt cfg tr server w db sql (envs 0)).finish mark' := by
  cases retries with
  | zero => exact ⟨_, rfl⟩
  | succ retries => exact ⟨_, by rw [execTimes]; simp [Attempt.isRetried, succeeds]; rfl⟩

theorem eachBacked_of_succeeds (backed : Backed w db (envs 0))
    (succeeds : (execAttempt cfg tr server w db sql (envs 0)).rc = .ok) (mark : Bool) :
    EachBacked cfg tr server db sql w mark envs := by
  unfold EachBacked
  cases cfg.maxRetries with
  | zero => exact backed
  | succ n =>
    refine ⟨fun _ => backed, fun isRetried => ?_⟩
    simp [attempts, Attempt.isRetried, succeeds] at isRetried

end Call

/-! ### One attempt -/

variable {cfg : ExecConfig} {tr : Translator} {server : Text → Session ω → Reply ω} {db : DbId}
  {conn : ConnId} {sql script : Text} {texts : List Text} {env : ExecEnv}

/-- A script that is sent and answered with success was executed. -/
theorem settleScript_ok {answer : Answer}
    (succeeds : (settleScript w conn sql texts answer env).rc = .ok) :
    (settleScript w conn sql texts answer env).disposal = .executed texts := by
  cases answer with
  | ok =>
    unfold settleScript at succeeds ⊢
    dsimp only at succeeds ⊢
    split at succeeds
    · cases succeeds
    next kept => rw [if_neg kept]
  | failed result =>
    unfold settleScript at succeeds
    dsimp only at succeeds
    split at succeeds <;> cases succeeds

/-- A script that is translated and answered with success was executed. -/
theorem runScript_ok (succeeds : (runScript tr server w conn sql env).rc = .ok) :
    ∃ texts, tr sql = .ok texts ∧
      (runScript tr server w conn sql env).disposal = .executed texts := by
  unfold runScript at succeeds ⊢
  cases translated : tr sql with
  | error message =>
    rw [translated] at succeeds
    cases succeeds
  | ok texts =>
    rw [translated] at succeeds
    exact ⟨texts, rfl, settleScript_ok succeeds⟩

/-- **What becomes of a script that is answered with success**: it is forwarded; or, being
no command to forward, it is skipped, blocked, or executed. -/
theorem carryOut_ok (succeeds : (carryOut cfg tr server w conn db sql env).rc = .ok) :
    let disposal := (carryOut cfg tr server w conn db sql env).disposal
    (∃ cmd, forwardedAs cfg sql = some cmd ∧ disposal = .forwarded cmd) ∨
      forwardedAs cfg sql = none ∧
        (shouldSkip cfg.debug sql = true ∧ disposal = .skipped ∨
          isJunkMetadataInsert sql = true ∧ disposal = .blocked ∨
          ∃ texts, tr sql = .ok texts ∧ disposal = .executed texts) := by
  unfold carryOut at succeeds ⊢
  cases forwarded : forwardedAs cfg sql with
  | some cmd =>
    rw [forwarded] at succeeds
    dsimp only at succeeds ⊢
    split at succeeds
    next => exact .inl ⟨cmd, rfl, rfl⟩
    next => cases succeeds
  | none =>
    rw [forwarded] at succeeds
    dsimp only at succeeds ⊢
    refine .inr ⟨rfl, ?_⟩
    by_cases skip : shouldSkip cfg.debug sql = true
    · exact .inl ⟨skip, by rw [if_pos skip]⟩
    by_cases junk : isJunkMetadataInsert sql = true
    · exact .inr (.inl ⟨junk, by rw [if_neg skip, if_pos junk]⟩)
    rw [if_neg skip, if_neg junk] at succeeds ⊢
    exact .inr (.inr (runScript_ok succeeds))

theorem execViaPostgres_ok (succeeds : (execViaPostgres cfg tr server w conn db sql env).rc = .ok) :
    ∃ w', execViaPostgres cfg tr server w conn db sql env =
      carryOut cfg tr server w' conn db sql env := by
  unfold execViaPostgres at succeeds ⊢
  split
  next refused =>
    rw [refused] at succeeds
    cases succeeds
  next w' _ => exact ⟨w', rfl⟩

theorem forwardedAs_eq_none_iff :
    forwardedAs cfg sql = none ↔
      ¬ (cfg.forwarding = true ∧ (classifySql sql).isSome = true) := by
  unfold forwardedAs
  cases cfg.forwarding <;> simp

/-- **A script that may be looked at as one text is carried out** by an attempt that is
answered with success. -/
theorem HandledWhole.carriedOut (handled : HandledWhole cfg script)
    (spec : StatementWise cfg.debug tr) (backed : Backed w db env)
    (succeeds : (execAttempt cfg tr server w db script env).rc = .ok) :
    CarriedOut cfg.debug tr script (execAttempt cfg tr server w db script env).disposal := by
  unfold execAttempt at succeeds ⊢
  dsimp only at succeeds ⊢
  rw [if_pos backed] at succeeds ⊢
  by_cases passthrough : isSqlitePassthrough script = true
  · rw [if_pos passthrough] at succeeds ⊢
    rcases handled with skipped | ⟨not, -⟩
    · exact skipped
    · rw [passthrough] at not
      cases not
  rw [if_neg passthrough] at succeeds ⊢
  obtain ⟨w', viaPostgres⟩ := execViaPostgres_ok succeeds
  rw [viaPostgres] at succeeds ⊢
  rcases carryOut_ok succeeds with ⟨cmd, forwarded, disposal⟩ | ⟨unforwarded, rest⟩
  · -- One transaction command is one statement.
    rw [disposal]
    rw [forwardedAs, Option.ite_none_right_eq_some] at forwarded
    exact statements_of_classified forwarded.2
  rcases handled with skipped | ⟨-, single | ⟨notSkipped, notJunk, separable⟩⟩
  · rcases rest with ⟨-, disposal⟩ | ⟨-, disposal⟩ | ⟨texts, -, disposal⟩ <;> rw [disposal]
    · exact skipped
    · exact skipped
    · exact performed_of_skipped skipped tr texts
  · exact absurd single (forwardedAs_eq_none_iff.mp unforwarded)
  · rcases rest with ⟨skip, -⟩ | ⟨junk, -⟩ | ⟨texts, translated, disposal⟩
    · simp [notSkipped] at skip
    · simp [notJunk] at junk
    · rw [disposal]
      exact spec.performed separable translated

/-! ### The runs that tell -/

/-- Nothing goes wrong on a connection, and SQLite accepts what it is given. -/
def ExecEnv.calm (conn : ConnId) : ExecEnv where
  found := conn
  sqlite := .ok
  resetOk := true
  configured := true
  connectOk := true
  control _ := .fine
  normalized := false
  planCached := false
  prepare := .fine
  exec := .fine
  aborts := false
  error := ⟨[], []⟩
  health := ⟨true, true, true⟩

/-- A server that accepts every text and changes nothing. -/
def acceptAll (ω : Type*) : Text → Session ω → Reply ω := fun _ s => ⟨true, s, []⟩

@[simp] theorem pinnedConn_fresh (db : DbId) :
    (.fresh : World ω).pinnedConn db = (0, .fresh) := by
  unfold World.pinnedConn
  split <;> rfl

theorem backed_fresh (db : DbId) : Backed (.fresh : World ω) db (.calm 1) := by
  unfold Backed execConn
  rw [pinnedConn_fresh]
  exact ⟨Nat.one_ne_zero, rfl⟩

/-- On a fresh world a script that is not left to SQLite is carried out at once. -/
theorem execAttempt_fresh (cfg : ExecConfig) (tr : Translator) (server : Text → Session ω → Reply ω)
    (db : DbId) (routed : isSqlitePassthrough sql = false) :
    execAttempt cfg tr server .fresh db sql (.calm 1) =
      carryOut cfg tr server .fresh 1 db sql (.calm 1) := by
  have conn : execConn (.fresh : World ω) db (.calm 1) = 1 := by
    simp [execConn, ExecEnv.calm]
  have ready : preflight (.fresh : World ω) 1 (.calm 1) = (true, .fresh) := rfl
  unfold execAttempt
  rw [if_pos (backed_fresh db), routed, pinnedConn_fresh, conn]
  simp only [execViaPostgres, ready, Bool.false_eq_true, if_false]

/-- A server that accepts everything accepts a script that has a text to send. -/
theorem runScript_accepted (translated : tr sql = .ok texts) (text : sentText sql texts ≠ []) :
    runScript tr (acceptAll ω) .fresh 1 sql (.calm 1) =
      ⟨.ok, (World.fresh.after 1 (.up .idle) []), false, .executed texts⟩ := by
  have sent : sendScript (acceptAll ω) (World.fresh.link 1) (sentText sql texts) (.calm 1) =
      ⟨.ok, .up .idle, []⟩ := by
    unfold sendScript
    rw [if_neg text]
    rfl
  unfold runScript
  rw [translated]
  dsimp only
  rw [sent]
  rfl

/-! ### Translators that tell -/

/-- A translator that keeps every statement as it is. -/
def byStatement : Translator := fun sql => .ok (statements sql)

/-- The same on the texts that are translated statement by statement; the others are kept whole. -/
def keepsOthers : Translator := fun sql => if Separable sql then byStatement sql else .ok [sql]

theorem separable_of_single {s : Text} (single : statements s = [s]) : Separable s :=
  .inl (by rw [single]; rfl)

/-- What keeps the statements of those texts is such a translator. -/
theorem statementWise_of_byStatement (debug : Option Text)
    (same : ∀ sql, Separable sql → tr sql = byStatement sql) : StatementWise debug tr := by
  have own {s : Text} (single : statements s = [s]) : tr s = .ok [s] := by
    rw [same s (separable_of_single single), byStatement, single]
  refine ⟨fun script texts separable translated => ?_, fun s single _ => by simp [own single]⟩
  rw [same script separable, byStatement, Except.ok.injEq] at translated
  refine ⟨(statements script).map ([·]), ?_, translated ▸ (List.flatMap_singleton' _).symm⟩
  rw [List.map_map]
  exact List.map_congr_left fun s mem => own (statements_of_mem mem)

theorem statementWise_keepsOthers (debug : Option Text) : StatementWise debug keepsOthers :=
  statementWise_of_byStatement debug fun _ separable => if_pos separable

/-- A text of several statements that is kept whole has none of them performed. -/
theorem skipped_of_performed {debug : Option Text} (whole : ¬ Separable script)
    (performed : Performed debug keepsOthers (statements script) [script]) :
    ∀ s ∈ statements script, shouldSkip debug s = true := by
  intro s mem
  by_contra kept
  obtain ⟨own, each, -, among⟩ := performed
  have single := statements_of_mem mem
  have translated : (.ok [s] : Except Text (List Text)) ∈ own.map .ok := by
    rw [← each]
    refine List.mem_map.mpr ⟨s, List.mem_filter.mpr ⟨mem, by simpa using kept⟩, ?_⟩
    rw [keepsOthers, if_pos (separable_of_single single), byStatement, single]
  obtain ⟨t, isOwn, same⟩ := List.mem_map.mp translated
  obtain rfl := Except.ok.inj same
  have executed := among.subset (List.mem_flatten_of_mem isOwn (List.mem_singleton_self s))
  rw [List.mem_singleton] at executed
  exact whole (executed ▸ separable_of_single single)

/-- **Success promises only what these runs keep**: if it promises that every statement was
carried out, the script may be looked at as one text. -/
theorem handledWhole_of_promise (db : DbId)
    (promise : (execAttempt cfg keepsOthers (acceptAll ω) .fresh db script (.calm 1)).rc = .ok →
      CarriedOut cfg.debug keepsOthers script
        (execAttempt cfg keepsOthers (acceptAll ω) .fresh db script (.calm 1)).disposal) :
    HandledWhole cfg script := by
  by_cases passthrough : isSqlitePassthrough script = true
  · rw [execAttempt, if_pos (backed_fresh db), if_pos passthrough, pinnedConn_fresh] at promise
    exact .inl (promise rfl)
  have routed : isSqlitePassthrough script = false := by simpa using passthrough
  rw [execAttempt_fresh cfg _ _ db routed] at promise
  cases forwarded : forwardedAs cfg script with
  | some cmd =>
    refine .inr ⟨routed, .inl ?_⟩
    by_contra not
    rw [forwardedAs_eq_none_iff.mpr not] at forwarded
    cases forwarded
  | none =>
    unfold carryOut at promise
    rw [forwarded] at promise
    dsimp only at promise
    by_cases skip : shouldSkip cfg.debug script = true
    · rw [if_pos skip] at promise
      exact .inl (promise rfl)
    by_cases junk : isJunkMetadataInsert script = true
    · rw [if_neg skip, if_pos junk] at promise
      exact .inl (promise rfl)
    by_cases separable : Separable script
    · exact .inr ⟨routed, .inr ⟨by simpa using skip, by simpa using junk, separable⟩⟩
    -- The text is kept whole, and accepted.
    have ne : script ≠ [] := by
      rintro rfl
      exact separable (by decide)
    have sent : sentText script [script] ≠ [] := by
      unfold sentText
      dsimp only
      split <;> simp [ne]
    rw [if_neg skip, if_neg junk, runScript_accepted (if_neg separable) sent] at promise
    exact .inl (skipped_of_performed separable (promise rfl))

/-- Transactions are forwarded, calls are tried again once, and nothing is skipped for
debugging. -/
def forwardingExec : ExecConfig := ⟨true, 1, none⟩

/-- A translator that keeps the text. -/
def keepText : Translator := fun sql => .ok [sql]

/-- Two statements are handled whole; a rebuild of a search index takes the other one with it. -/
example : HandledWhole forwardingExec "DELETE FROM t; INSERT INTO t VALUES (';')".toList ∧
    ¬ HandledWhole forwardingExec "DROP TABLE fts4_tag_titles; DELETE FROM t".toList := by
  decide +kernel

end PlexPostgres.Exec
