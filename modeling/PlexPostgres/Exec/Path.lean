import PlexPostgres.Routing.Lists
import PlexPostgres.Step.Write
import PlexPostgres.Txn.Classify

/-!
# Scripts on a PostgreSQL-backed handle

`sqlite3_exec` takes a whole script.  On a handle whose connection is active the script is
looked at as one text: it is left to SQLite, forwarded as transaction control, skipped,
blocked, or translated and sent.

The translator is a parameter: it gives the statements a text is translated to, or an
error message.  So is what PostgreSQL makes of a text, `server`.
-/

namespace PlexPostgres.Exec

open Text Postgres Txn Step Routing

variable {ω : Type*}

/-! ### The guard -/

/-- The place of the last column of that name in a column list. -/
def lastColumn (name : Text) (columns : List Text) : Option ℕ :=
  ((columns.zipIdx.filter fun c => asciiLower (normalizeIdentToken c.1) = name).getLast?).map
    Prod.snd

/-- The text from the first occurrence of a word on. -/
def fromFirst (word : Text) : Text → Option Text
  | [] => none
  | c :: t => if startsWithIcase word (c :: t) then some (c :: t) else fromFirst word t

/-- Is the value of an INSERT written as NULL? -/
def isNullValue (value : Option Text) : Bool :=
  value.any fun v => startsWithIcase "NULL".toList (v.dropWhile isWhitespace)

/-- `is_junk_metadata_insert`: an INSERT into `metadata_items` with neither a section nor a
type.  It looks at the first column list and the first VALUES of the text. -/
def isJunkMetadataInsert (sql : Text) : Bool :=
  containsIcase "INSERT".toList sql && containsIcase "metadata_items".toList sql &&
    !containsIcase "metadata_item_settings".toList sql &&
    !containsIcase "metadata_item_views".toList sql &&
    !containsIcase "metadata_item_accounts".toList sql &&
    !containsIcase "metadata_item_clusters".toList sql &&
    match columnSection sql, (fromFirst "VALUES".toList sql).bind columnSection with
    | some columns, some values =>
      match lastColumn "library_section_id".toList (splitCsvSimple columns),
          lastColumn "metadata_type".toList (splitCsvSimple columns) with
      | some lib, some type =>
        isNullValue (splitCsvSimple values)[lib]? && isNullValue (splitCsvSimple values)[type]?
      | _, _ => false
    | _, _ => false

example : isJunkMetadataInsert
    "INSERT INTO metadata_items (library_section_id, metadata_type) VALUES (NULL, NULL)".toList
      = true := by
  decide

/-! ### One attempt -/

/-- What `sqlite3_exec` answers; `other` is any other error code of SQLite's own. -/
inductive ExecRc where
  | ok
  | error
  | abort
  | other
  deriving DecidableEq, Repr

/-- **What became of a script**: nothing, SQLite ran it, it was forwarded as transaction
control, skipped, blocked by the guard, or PostgreSQL accepted these texts. -/
inductive Disposal where
  | nothing
  | sqlite
  | forwarded (cmd : TxnCmd)
  | skipped
  | blocked
  | executed (texts : List Text)
  deriving DecidableEq, Repr

/-- The outcomes one attempt meets. -/
structure ExecEnv where
  /-- `rust_pg_find_connection`. -/
  found : ConnId
  /-- What real SQLite answers, should the script be left to it. -/
  sqlite : ExecRc
  resetOk : Bool
  configured : Bool
  connectOk : Bool
  /-- The fates of the statements of a transaction command. -/
  control : ℕ → Fate
  /-- The literals of the text were made parameters. -/
  normalized : Bool
  planCached : Bool
  prepare : Fate
  exec : Fate
  /-- The result holds rows, and the callback stops at one. -/
  aborts : Bool
  error : ErrorEnv
  health : HealthEnv

/-- The translator: the statements a text becomes, or an error message. -/
abbrev Translator := Text → Except Text (List Text)

/-- The settings of the process that this path reads. -/
structure ExecConfig where
  forwarding : Bool
  maxRetries : ℕ
  /-- `PLEX_PG_DEBUG_SKIP_CONTAINS`. -/
  debug : Option Text

structure Attempt (ω : Type*) where
  rc : ExecRc
  world : World ω
  /-- The thread's connection-error mark is set. -/
  connError : Bool
  disposal : Disposal

/-- The connection is up, or made so before anything else. -/
def preflight (w : World ω) (conn : ConnId) (env : ExecEnv) : Bool × World ω :=
  let connected := env.configured && env.connectOk
  if (w.link conn).isOk then (true, w)
  else if (w.link conn).isClosed then (connected, connectAnew w conn connected)
  else
    let w := resetConnection w conn env.resetOk
    if env.resetOk then (true, w) else (connected, connectAnew w conn connected)

/-- The text sent: the translated statements, after an INSERT with a RETURNING clause the
shim adds to read the row's id. -/
def sentText (sql : Text) (texts : List Text) : Text :=
  let text := List.intercalate "; ".toList texts
  if startsWithIcase "INSERT".toList sql && !contains "RETURNING".toList text then
    text ++ " RETURNING id".toList
  else text

/-- Send the translated text.  An empty text has no result that counts as success. -/
def sendScript (server : Text → Session ω → Reply ω) (l : Link ω) (text : Text) (env : ExecEnv) :
    Outcome ω :=
  if text = [] then ⟨.failed (some none), l, []⟩
  else
    let planned := if env.normalized && !env.planCached then l.query env.prepare else .nothing l
    planned.andThen (·.send false (server text) env.exec)

/-- Answer by the result. -/
def settleScript (w : World ω) (conn : ConnId) (sql : Text) (texts : List Text) (answer : Answer)
    (env : ExecEnv) : Attempt ω :=
  match answer with
  | .ok =>
    if env.aborts && !startsWithIcase "INSERT".toList sql then
      ⟨.abort, noteError w conn "query aborted".toList, false, .executed texts⟩
    else ⟨.ok, w, false, .executed texts⟩
  | .failed result =>
    let message := resultMessage result env.error.connMessage
    match failureClass w conn result env.error with
    | .stalePlan => ⟨.error, w, true, .nothing⟩
    | .retry => ⟨.error, checkHealth w conn env.health, true, .nothing⟩
    | .fail => ⟨.error, noteError w conn message, false, .nothing⟩

/-- Translate the script and send it. -/
def runScript (tr : Translator) (server : Text → Session ω → Reply ω) (w : World ω)
    (conn : ConnId) (sql : Text) (env : ExecEnv) : Attempt ω :=
  match tr sql with
  | .error message =>
    ⟨.error, noteError w conn ("PG exec translation failed: ".toList ++ sql.take 220 ++
      " :: ".toList ++ message), false, .nothing⟩
  | .ok texts =>
    let out := sendScript server (w.link conn) (sentText sql texts) env
    settleScript (w.after conn out.link out.committed) conn sql texts out.answer env

/-- The transaction command a script is forwarded as, if it is. -/
def forwardedAs (cfg : ExecConfig) (sql : Text) : Option TxnCmd :=
  if cfg.forwarding then classifySql sql else none

/-- What is done with a script once its connection is up. -/
def carryOut (cfg : ExecConfig) (tr : Translator) (server : Text → Session ω → Reply ω)
    (w : World ω) (conn : ConnId) (db : DbId) (sql : Text) (env : ExecEnv) : Attempt ω :=
  match forwardedAs cfg sql with
  | some cmd =>
    match w.run conn db cmd env.control with
    | (.ok (), w) => ⟨.ok, w, false, .forwarded cmd⟩
    | (.error _, w) => ⟨.error, w, false, .nothing⟩
  | none =>
    if shouldSkip cfg.debug sql then ⟨.ok, w, false, .skipped⟩
    else if isJunkMetadataInsert sql then ⟨.ok, w, false, .blocked⟩
    else runScript tr server w conn sql env

/-- **The PostgreSQL path**, `exec_via_postgres`. -/
def execViaPostgres (cfg : ExecConfig) (tr : Translator) (server : Text → Session ω → Reply ω)
    (w : World ω) (conn : ConnId) (db : DbId) (sql : Text) (env : ExecEnv) : Attempt ω :=
  match preflight w conn env with
  | (false, w) => ⟨.error, w, true, .nothing⟩
  | (true, w) => carryOut cfg tr server w conn db sql env

/-- The connection the handle's script goes to: its transaction's, or the thread's own. -/
def execConn (w : World ω) (db : DbId) (env : ExecEnv) : ConnId :=
  if (w.pinnedConn db).1 = 0 then env.found else (w.pinnedConn db).1

/-- **The handle is backed by PostgreSQL**: its connection is found and active. -/
def Backed (w : World ω) (db : DbId) (env : ExecEnv) : Prop :=
  execConn w db env ≠ 0 ∧ ((w.pinnedConn db).2.conns (execConn w db env)).active = true

instance (w : World ω) (db : DbId) (env : ExecEnv) : Decidable (Backed w db env) :=
  inferInstanceAs (Decidable (_ ∧ _))

/-- **One attempt**, `rust_my_sqlite3_exec_impl`. -/
def execAttempt (cfg : ExecConfig) (tr : Translator) (server : Text → Session ω → Reply ω)
    (w : World ω) (db : DbId) (sql : Text) (env : ExecEnv) : Attempt ω :=
  let left : Attempt ω := ⟨env.sqlite, (w.pinnedConn db).2, false, .sqlite⟩
  if Backed w db env then
    if isSqlitePassthrough sql then left
    else execViaPostgres cfg tr server (w.pinnedConn db).2 (execConn w db env) db sql env
  else left

/-! ### The call -/

/-- **The outcome of a call**, with the thread's connection-error mark after it. -/
structure Call (ω : Type*) where
  rc : ExecRc
  world : World ω
  connError : Bool
  disposal : Disposal

/-- Is an attempt followed by another?  `mark` is the connection-error mark after it. -/
def Attempt.isRetried (a : Attempt ω) (mark : Bool) : Bool := a.rc = .error && mark

/-- A call that ends with this attempt. -/
def Attempt.finish (a : Attempt ω) (mark : Bool) : Call ω := ⟨a.rc, a.world, mark, a.disposal⟩

/-- **A call with `retries` retries left**, `rust_my_sqlite3_exec`; `envs` has what each
attempt meets. -/
def execTimes (cfg : ExecConfig) (tr : Translator) (server : Text → Session ω → Reply ω)
    (db : DbId) (sql : Text) : ℕ → World ω → Bool → (ℕ → ExecEnv) → Call ω
  | 0, w, mark, envs =>
    let a := execAttempt cfg tr server w db sql (envs 0)
    a.finish (mark || a.connError)
  | retries + 1, w, mark, envs =>
    let a := execAttempt cfg tr server w db sql (envs 0)
    if a.isRetried (mark || a.connError) then
      execTimes cfg tr server db sql retries a.world false fun i => envs (i + 1)
    else a.finish (mark || a.connError)

/-- **A call of `sqlite3_exec`.** -/
def exec (cfg : ExecConfig) (tr : Translator) (server : Text → Session ω → Reply ω) (w : World ω)
    (mark : Bool) (db : DbId) (sql : Text) (envs : ℕ → ExecEnv) : Call ω :=
  execTimes cfg tr server db sql cfg.maxRetries w mark envs

end PlexPostgres.Exec
