import PlexPostgres.Routing.Lists
import PlexPostgres.Step.Statement
import PlexPostgres.Txn.Classify

/-!
# Preparing a statement

`sqlite3_prepare_v2` decides where a statement will run.  A statement that is *registered*
runs on PostgreSQL, as a read or a write, or is answered without being run; any other one
is left to real SQLite on the shadow database, which is empty.

On a deep stack the statement goes through a worker thread or one of two short paths.
All of them look at the first letters of the text, so a read or a write that begins
otherwise is left to the shadow: `WITH x AS (SELECT 1) SELECT * FROM x` is one
(`with_left_to_shadow`).  `registered_iff_leads` says which statements are registered.
-/

namespace PlexPostgres.Routing

open Text Step Txn

/-! ### The paths -/

/-- A connection as a lookup finds it; `served` says that its path is the library's, the
blobs' or a guide's. -/
structure FoundConn where
  active : Bool
  connected : Bool
  served : Bool
  deriving DecidableEq, Repr

/-- `pg_connection_serves_library`. -/
def FoundConn.serves (c : FoundConn) : Bool := c.active && c.connected && c.served

/-- What one thread meets in the internal flow; the connection is looked up anew each
time it is needed. -/
structure FlowEnv where
  /-- How many prepares of this thread are under way. -/
  depth : ℕ
  stackRemaining : ℤ
  checked : Option FoundConn
  onDeck : Option FoundConn
  lowStack : Option FoundConn
  found : Option FoundConn
  foundAgain : Option FoundConn
  /-- `handle_is_pg_library`. -/
  isPgLibrary : Bool
  /-- The shadow's schema has the column an ALTER TABLE adds. -/
  hasColumn : Bool
  /-- SQLite accepts what it is given to prepare. -/
  sqliteOk : Bool
  /-- `pg_stmt_create` has the memory it needs. -/
  created : Bool

/-- What a prepare meets: its own thread, and the worker's. -/
structure PrepareEnv where
  own : FlowEnv
  workerActive : Bool
  workerStarts : Bool
  worker : FlowEnv

/-- **What becomes of a statement**: the prepare fails, real SQLite has it on the shadow,
or it is registered. -/
inductive Prepared where
  | refused
  | shadow
  | registered (kind : Kind)
  deriving DecidableEq, Repr

/-- Register a statement, once SQLite has one to stand for it. -/
def register (env : FlowEnv) (kind : Kind) : Prepared :=
  if !env.sqliteOk then .refused else if env.created then .registered kind else .shadow

/-- `refuse_without_pool_connection`. -/
def refusesWithoutConn (debug : Option Text) (env : FlowEnv) (conn : Option FoundConn)
    (sql : Text) : Bool :=
  conn.isNone && env.isPgLibrary && !isSqlitePassthrough sql && !shouldSkip debug sql

/-- The queries of the On Deck view. -/
def isOnDeck (sql : Text) : Bool :=
  containsIcase "metadata_item_settings".toList sql &&
      containsIcase "metadata_items".toList sql ||
    containsIcase "metadata_item_views".toList sql && containsIcase "grandparents".toList sql ||
    containsIcase "grandparentsSettings".toList sql

/-- `maybe_handle_ondeck_low_stack`. -/
def onDeckFlow (debug : Option Text) (env : FlowEnv) (sql : Text) : Option Prepared :=
  if !isOnDeck sql || env.stackRemaining ≥ 100000 then none
  else if env.onDeck.any (·.serves) then some (register env .read)
  else if refusesWithoutConn debug env env.onDeck sql then some .refused
  else some (if env.sqliteOk then .shadow else .refused)

/-- `maybe_handle_low_stack_prepare_path`. -/
def lowStackFlow (fromWorker : Bool) (env : FlowEnv) (sql : Text) : Option Prepared :=
  if env.stackRemaining ≥ (if fromWorker then 32000 else 64000) then none
  else if isSqlitePassthrough sql then none
  else if env.lowStack.any (·.serves) && (isReadOperation sql || isWriteOperation sql) then
    some (register env (if isWriteOperation sql then .write else .read))
  else some .refused

/-- What `maybe_register_pg_stmt` takes. -/
def isRouted (conn : Option FoundConn) (sql : Text) : Bool :=
  conn.any (·.serves) && (isReadOperation sql || isWriteOperation sql || isMaintenanceNoop sql ||
    (classifySql sql).isSome)

/-- The usual path: prepare something on SQLite, then register the statement if it is
routed. -/
def mainFlow (debug : Option Text) (env : FlowEnv) (sql : Text) : Prepared :=
  if refusesWithoutConn debug env env.found sql then .refused
  else if !env.sqliteOk then .refused
  else
    -- A schema change looks for the connection once more.
    let conn := if isDdl sql && env.found.isNone then env.foundAgain else env.found
    if !isRouted conn sql || isSqlitePassthrough sql then .shadow
    else if shouldSkip debug sql then register env .skipped
    else register env (if isWriteOperation sql then .write else .read)

/-- **The flow on one thread**, from the low-stack paths on. -/
def stackFlow (fromWorker : Bool) (debug : Option Text) (env : FlowEnv) (sql : Text) : Prepared :=
  ((onDeckFlow debug env sql).or (lowStackFlow fromWorker env sql)).getD (mainFlow debug env sql)

/-- The tests made first on each thread. -/
def enterFlow (env : FlowEnv) (sql : Text) (rest : Prepared) : Prepared :=
  if !env.checked.any (·.active) && containsIcase "ALTER TABLE".toList sql &&
      containsIcase " ADD ".toList sql && env.hasColumn then
    if env.sqliteOk then .shadow else .refused
  else if env.depth > 50 then .refused
  else rest

/-- **A prepare**, `prepare_v2_internal_impl`.  A stack that is low is left to the worker,
if there is one and the statement is not skipped. -/
def prepare (debug : Option Text) (env : PrepareEnv) (sql : Text) : Prepared :=
  enterFlow env.own sql <|
    if env.own.stackRemaining < 400000 && env.workerActive && !shouldSkip debug sql then
      if env.workerStarts then enterFlow env.worker sql (stackFlow true debug env.worker sql)
      else .refused
    else stackFlow false debug env.own sql

/-! ### Which statements are registered -/

/-- **PostgreSQL is active on a thread**: every lookup finds a connection that serves, and
neither memory nor SQLite nor the recursion guard gets in the way. -/
structure FlowEnv.Serves (env : FlowEnv) : Prop where
  shallow : env.depth ≤ 50
  checked : env.checked.any (·.serves) = true
  onDeck : env.onDeck.any (·.serves) = true
  lowStack : env.lowStack.any (·.serves) = true
  found : env.found.any (·.serves) = true
  foundAgain : env.foundAgain.any (·.serves) = true
  sqliteOk : env.sqliteOk = true
  created : env.created = true

/-- **PostgreSQL is active.** -/
structure PrepareEnv.Serves (env : PrepareEnv) : Prop where
  own : env.own.Serves
  worker : env.worker.Serves
  workerStarts : env.workerStarts = true

/-- It is registered as a read or a write. -/
def Prepared.isRowStatement : Prepared → Bool
  | .registered .read | .registered .write => true
  | .registered .sqlite | .registered .skipped | .refused | .shadow => false

/-- **How a statement begins that is registered**: complete noise, and behind it `SELECT`
or the lead of a write. -/
def RowLead (sql : Text) : Prop :=
  ∃ noise body, Noise noise ∧ sql = noise ++ body ∧
    (startsWith "select".toList (asciiLower body) = true ∨
      writeLeads.any (startsWith · (toLowercase body)) = true)

/-- The characters noise can begin with. -/
def noiseStarts : Text := [' ', '\t', '\n', '\x0c', '\r', '-', '/']

theorem lower_of_noiseStart {c : Char} (start : c ∈ noiseStarts) :
    c.toLower = c ∧ lowerChar c = [c] := by
  simp only [noiseStarts, List.mem_cons, List.not_mem_nil, or_false] at start
  rcases start with rfl | rfl | rfl | rfl | rfl | rfl | rfl <;> decide

/-- A text that begins with a letter is solid, whichever lower case tells. -/
theorem solid_of_lower {letter : Char} (isLetter : letter ∉ noiseStarts) {body : Text}
    (begins : (asciiLower body).head? = some letter ∨ (toLowercase body).head? = some letter) :
    Solid body := by
  cases body with
  | nil => rcases begins with none | none <;> cases none
  | cons c rest =>
    have notNoise : c ∉ noiseStarts := by
      intro start
      obtain ⟨ascii, unicode⟩ := lower_of_noiseStart start
      have same : c = letter := by
        rcases begins with first | first
        · simpa [asciiLower, ascii] using first
        · simpa [unicode] using first
      exact isLetter (same ▸ start)
    simp only [noiseStarts, List.mem_cons, List.not_mem_nil, or_false, not_or] at notNoise
    obtain ⟨h1, h2, h3, h4, h5, dash, slash⟩ := notNoise
    refine ⟨c, rest, rfl, ?_, fun line => dash line.1, fun block => slash block.1⟩
    simp [isAsciiWhitespace, h1, h2, h3, h4, h5]

theorem head_of_startsWith {c : Char} {lead t : Text} (starts : startsWith (c :: lead) t = true) :
    t.head? = some c := by
  obtain ⟨rest, rfl⟩ := List.isPrefixOf_iff_prefix.mp starts
  rfl

/-- Of a text that is all noise, too little is left to begin with a lead. -/
theorem stripLeading_short {sql : Text}
    (rest : stripLeading sql = [] ∨
      ∃ c, stripLeading sql = if isAsciiWhitespace c then [] else [c]) :
    (stripLeading sql).length ≤ 1 := by
  rcases rest with nothing | ⟨c, leftover⟩
  · rw [nothing]
    exact Nat.zero_le 1
  · rw [leftover]
    split <;> simp

theorem length_toLowercase_le (t : Text) : (toLowercase t).length ≤ 2 * t.length := by
  induction t with
  | nil => exact Nat.le_refl 0
  | cons c t ih =>
    have one : (lowerChar c).length ≤ 2 := by
      unfold lowerChar
      split
      · simp
      · split <;> simp
    rw [toLowercase_cons, List.length_append, List.length_cons]
    omega

/-- **The first letters are told by what stands behind the noise.** -/
theorem isRowOperation_iff_rowLead (sql : Text) :
    isReadOperation sql = true ∨ isWriteOperation sql = true ↔ RowLead sql := by
  constructor
  · intro reads
    rcases exists_noise_of_skipNoise (fun c => if isAsciiWhitespace c then [] else [c]) sql with
      ⟨noise, isNoise, whole, -⟩ | short
    · exact ⟨noise, stripLeading sql, isNoise, whole, reads⟩
    · exfalso
      have length := stripLeading_short short
      rcases reads with read | write
      · have long := (List.isPrefixOf_iff_prefix.mp read).length_le
        simp [asciiLower] at long
        omega
      · obtain ⟨lead, mem, starts⟩ := List.any_eq_true.mp write
        have long := (List.isPrefixOf_iff_prefix.mp starts).length_le
        have bound := length_toLowercase_le (stripLeading sql)
        have four : ∀ lead ∈ writeLeads, 4 ≤ lead.length := by decide
        have atLeast := four lead mem
        omega
  · rintro ⟨noise, body, isNoise, rfl, lead⟩
    have solid : Solid body := by
      rcases lead with read | write
      · exact solid_of_lower (by decide) (.inl (head_of_startsWith read))
      · obtain ⟨lead, mem, starts⟩ := List.any_eq_true.mp write
        simp only [writeLeads, List.mem_cons, List.not_mem_nil, or_false] at mem
        rcases mem with rfl | rfl | rfl | rfl | rfl | rfl | rfl <;>
          exact solid_of_lower (by decide) (.inr (head_of_startsWith starts))
    have stripped : stripLeading (noise ++ body) = body := by
      rw [stripLeading, skipNoise_noise _ isNoise, skipNoise_solid _ solid]
    rw [isReadOperation, isWriteOperation, stripped]
    exact lead

/-! ### The paths register it -/

section Paths

variable {debug : Option Text} {sql : Text} {env : FlowEnv}

theorem register_of_serves (serves : env.Serves) (kind : Kind) :
    register env kind = .registered kind := by
  rw [register, serves.sqliteOk, serves.created]
  rfl

theorem isRouted_of_serves {conn : Option FoundConn} (serves : conn.any (·.serves) = true) :
    isRouted conn sql = isRouted (some ⟨true, true, true⟩) sql := by
  rw [isRouted, isRouted, serves]
  rfl

/-- **The usual path.** -/
theorem mainFlow_of_serves (serves : env.Serves) :
    mainFlow debug env sql =
      if isRouted (some ⟨true, true, true⟩) sql && !isSqlitePassthrough sql then
        .registered (if shouldSkip debug sql then .skipped
          else if isWriteOperation sql then .write else .read)
      else .shadow := by
  have found : env.found.isNone = false := by
    cases found : env.found with
    | none => simpa [found] using serves.found
    | some conn => rfl
  unfold mainFlow refusesWithoutConn
  simp only [found, serves.sqliteOk, isRouted_of_serves serves.found, register_of_serves serves,
    Bool.false_and, Bool.and_false, Bool.not_true, Bool.false_eq_true, if_false]
  cases isRouted (some ⟨true, true, true⟩) sql <;> cases isSqlitePassthrough sql <;>
    cases shouldSkip debug sql <;> rfl

theorem onDeckFlow_of_serves (serves : env.Serves) :
    onDeckFlow debug env sql =
      if isOnDeck sql && decide (env.stackRemaining < 100000) then some (.registered .read)
      else none := by
  unfold onDeckFlow
  rw [serves.onDeck, register_of_serves serves]
  by_cases low : env.stackRemaining < 100000 <;> cases isOnDeck sql <;> simp [low]

theorem lowStackFlow_of_serves (serves : env.Serves) (fromWorker : Bool) :
    lowStackFlow fromWorker env sql =
      if !isSqlitePassthrough sql &&
          decide (env.stackRemaining < if fromWorker then 32000 else 64000) then
        some (if isReadOperation sql || isWriteOperation sql then
          .registered (if isWriteOperation sql then .write else .read) else .refused)
      else none := by
  unfold lowStackFlow
  rw [serves.lowStack, register_of_serves serves]
  generalize (if fromWorker = true then (32000 : ℤ) else 64000) = threshold
  by_cases low : env.stackRemaining < threshold <;> cases isSqlitePassthrough sql <;>
    cases isReadOperation sql <;> cases isWriteOperation sql <;> simp [low]

/-- **The flow on one thread**, told by the statement and the stack that is left. -/
theorem stackFlow_of_serves (serves : env.Serves) (fromWorker : Bool) :
    stackFlow fromWorker debug env sql =
      if isOnDeck sql && decide (env.stackRemaining < 100000) then .registered .read
      else if !isSqlitePassthrough sql &&
          decide (env.stackRemaining < if fromWorker then 32000 else 64000) then
        if isReadOperation sql || isWriteOperation sql then
          .registered (if isWriteOperation sql then .write else .read)
        else .refused
      else mainFlow debug env sql := by
  unfold stackFlow
  rw [onDeckFlow_of_serves serves, lowStackFlow_of_serves serves]
  generalize (if fromWorker = true then (32000 : ℤ) else 64000) = threshold
  split
  · rfl
  · split <;> rfl

/-- On every path a read or a write is registered as one. -/
theorem stackFlow_row (serves : env.Serves) (routed : isSqlitePassthrough sql = false)
    (run : shouldSkip debug sql = false)
    (row : isReadOperation sql = true ∨ isWriteOperation sql = true) (fromWorker : Bool) :
    (stackFlow fromWorker debug env sql).isRowStatement = true := by
  have isRow : (isReadOperation sql || isWriteOperation sql) = true := by simpa using row
  have isIt : isRouted (some ⟨true, true, true⟩) sql = true := by
    unfold isRouted
    rw [isRow]
    rfl
  rw [stackFlow_of_serves serves, mainFlow_of_serves serves, isRow, isIt, routed, run]
  generalize (if fromWorker = true then (32000 : ℤ) else 64000) = threshold
  split
  · rfl
  · cases isWriteOperation sql <;> split <;> rfl

theorem enterFlow_of_serves (serves : env.Serves) (rest : Prepared) :
    enterFlow env sql rest = rest := by
  have active : env.checked.any (·.active) = true := by
    cases found : env.checked with
    | none => simpa [found] using serves.checked
    | some conn =>
      have all := serves.checked
      rw [found] at all
      simp only [Option.any_some, FoundConn.serves, Bool.and_eq_true] at all ⊢
      exact all.1.1
  unfold enterFlow
  rw [active]
  simp [Nat.not_lt.mpr serves.shallow]

/-- A prepare is done on its own thread, or on the worker's. -/
theorem prepare_of_serves {env : PrepareEnv} (serves : env.Serves) :
    prepare debug env sql =
      if env.own.stackRemaining < 400000 && env.workerActive && !shouldSkip debug sql then
        stackFlow true debug env.worker sql
      else stackFlow false debug env.own sql := by
  unfold prepare
  rw [enterFlow_of_serves serves.own, enterFlow_of_serves serves.worker, serves.workerStarts]
  rfl

/-- Maintenance is on the skip list. -/
theorem shouldSkip_of_isMaintenanceNoop (maintenance : isMaintenanceNoop sql = true) :
    shouldSkip debug sql = true := by
  obtain ⟨keyword, mem, isIt⟩ := List.any_eq_true.mp maintenance
  have starts : startsWith keyword (toLowercase (stripLeading sql)) = true := by
    rcases (Bool.or_eq_true _ _).mp isIt with same | begins
    · rw [of_decide_eq_true same]
      exact List.isPrefixOf_iff_prefix.mpr List.prefix_rfl
    · exact ((Bool.and_eq_true _ _).mp begins).1
  have named : ∀ keyword ∈ ["vacuum".toList, "reindex".toList],
      keyword ≠ [] ∧ keyword ∈ skipLeads := by
    decide
  have left : stripLeading sql ≠ [] := by
    intro empty
    rw [empty] at starts
    exact (named keyword mem).1 (List.prefix_nil.mp (List.isPrefixOf_iff_prefix.mp starts))
  have lead : skipLeads.any (startsWith · (toLowercase (stripLeading sql))) = true :=
    List.any_eq_true.mpr ⟨keyword, (named keyword mem).2, starts⟩
  unfold shouldSkip
  rw [lead]
  simp [left]

/-- Of what is not skipped, reads, writes and transaction control are routed. -/
theorem isRouted_of_not_skipped (run : shouldSkip debug sql = false) :
    isRouted (some ⟨true, true, true⟩) sql =
      (isReadOperation sql || isWriteOperation sql || (classifySql sql).isSome) := by
  have notMaintenance : isMaintenanceNoop sql = false := by
    by_contra maintenance
    rw [shouldSkip_of_isMaintenanceNoop (by simpa using maintenance)] at run
    cases run
  simp [isRouted, FoundConn.serves, notMaintenance]

end Paths

/-- A thread with stack to spare, on which nothing goes wrong. -/
def FlowEnv.calm : FlowEnv where
  depth := 1
  stackRemaining := 1000000
  checked := some ⟨true, true, true⟩
  onDeck := some ⟨true, true, true⟩
  lowStack := some ⟨true, true, true⟩
  found := some ⟨true, true, true⟩
  foundAgain := some ⟨true, true, true⟩
  isPgLibrary := true
  hasColumn := false
  sqliteOk := true
  created := true

/-- Nothing goes wrong. -/
def PrepareEnv.calm : PrepareEnv := ⟨.calm, true, true, .calm⟩

theorem FlowEnv.serves_calm : FlowEnv.calm.Serves :=
  ⟨by decide, rfl, rfl, rfl, rfl, rfl, rfl, rfl⟩

theorem PrepareEnv.serves_calm : PrepareEnv.calm.Serves :=
  ⟨FlowEnv.serves_calm, FlowEnv.serves_calm, rfl⟩

/-- With stack to spare a statement takes the usual path, and what is not routed there is
left to the shadow. -/
theorem prepare_calm {debug : Option Text} {sql : Text}
    (unrouted : isRouted (some ⟨true, true, true⟩) sql = false) :
    prepare debug .calm sql = .shadow := by
  rw [prepare_of_serves PrepareEnv.serves_calm]
  show stackFlow false debug .calm sql = _
  rw [stackFlow_of_serves FlowEnv.serves_calm, mainFlow_of_serves FlowEnv.serves_calm, unrouted]
  simp [FlowEnv.calm]

/-- **Which statements are registered for PostgreSQL.**  A statement on neither list that
is no transaction control is registered as a read or a write, wherever PostgreSQL is
active, iff behind its noise it begins as one. -/
theorem registered_iff_leads (debug : Option Text) (sql : Text)
    (rows : classifySql sql = none) (routed : isSqlitePassthrough sql = false)
    (run : shouldSkip debug sql = false) :
    (∀ env : PrepareEnv, env.Serves → (prepare debug env sql).isRowStatement = true) ↔
      RowLead sql := by
  rw [← isRowOperation_iff_rowLead]
  constructor
  · intro registered
    by_contra notRow
    have unrouted : isRouted (some ⟨true, true, true⟩) sql = false := by
      simp only [not_or, Bool.not_eq_true] at notRow
      simp [isRouted_of_not_skipped run, notRow, rows]
    have claimed := registered .calm PrepareEnv.serves_calm
    rw [prepare_calm unrouted] at claimed
    cases claimed
  · intro row env serves
    rw [prepare_of_serves serves]
    split
    · exact stackFlow_row serves.worker routed run row true
    · exact stackFlow_row serves.own routed run row false

theorem registered_iff_leads_select :
    let sql := "/* c */ SELECT a FROM t".toList
    classifySql sql = none ∧ isSqlitePassthrough sql = false ∧ shouldSkip none sql = false ∧
      ∀ env : PrepareEnv, env.Serves → (prepare none env sql).isRowStatement = true := by
  intro sql
  have lead : RowLead sql := by
    rw [← isRowOperation_iff_rowLead]
    decide
  exact ⟨by decide, by decide, by decide,
    (registered_iff_leads none sql (by decide) (by decide) (by decide)).mpr lead⟩

/-- **A read left to the shadow.**  A query that begins with its common table expressions
is on neither list, and with nothing going wrong it is prepared on the shadow alone. -/
theorem with_left_to_shadow :
    let sql := "WITH x AS (SELECT 1) SELECT * FROM x".toList
    PrepareEnv.calm.Serves ∧ classifySql sql = none ∧ isSqlitePassthrough sql = false ∧
      shouldSkip none sql = false ∧ prepare none .calm sql = .shadow := by
  exact ⟨PrepareEnv.serves_calm, by decide, by decide, by decide, by decide⟩

end PlexPostgres.Routing
