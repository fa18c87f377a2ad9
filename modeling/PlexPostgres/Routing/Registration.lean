import PlexPostgres.Routing.Prepare

/-!
# What a prepare registers

Three paths register a statement for PostgreSQL, and which one is taken depends on the stack
that is left: the usual one, a short one for a low stack, and one for the queries of the On
Deck view that is taken a little earlier.  The short ones were written apart from the usual
one.  They do not look at the skip list, they leave an INSERT without the RETURNING and the
ON CONFLICT it gets otherwise, they have no answer for transaction control, and the one for
On Deck takes everything for a read and copies no parameter names.

`pathsAgree_iff` says for which statements it makes no difference.  Translation is the same
on all paths and is left arbitrary.
-/

namespace PlexPostgres.Routing

open Text Step Txn

/-! ### Rewriting the translated text -/

/-- Cut a text at the first occurrence of a fragment, letter case apart. -/
def cutAtIcase (pat : Text) : Text → Option (Text × Text)
  | [] => none
  | c :: t =>
    if startsWithIcase pat (c :: t) then some ([], c :: t)
    else (cutAtIcase pat t).map fun (before, rest) => (c :: before, rest)

/-- `replace_ascii_icase_all`, with `skip` characters of an occurrence still to pass. -/
def replaceIcaseFrom (pat replacement : Text) (skip : ℕ) : Text → Text
  | [] => []
  | c :: t =>
    if 0 < skip then replaceIcaseFrom pat replacement (skip - 1) t
    else if startsWithIcase pat (c :: t) then
      replacement ++ replaceIcaseFrom pat replacement (pat.length - 1) t
    else c :: replaceIcaseFrom pat replacement 0 t

/-- **`replace_ascii_icase_all`.** -/
def replaceIcaseAll (pat replacement t : Text) : Text := replaceIcaseFrom pat replacement 0 t

/-- The names the aggregates of a collection sync have in SQLite. -/
def collectionAggregates : List (Text × Text) :=
  [("count(*)", "count(*) AS \x22count(*)\x22"), ("min(year)", "min(year) AS \x22min(year)\x22"),
    ("max(year)", "max(year) AS \x22max(year)\x22")].map fun (name, named) =>
      (name.toList, named.toList)

/-- **`alias_collection_sync_aggregates`.** -/
def aliasCollectionSyncAggregates (sqliteSql pgSql : Text) : Option Text :=
  if ["min(year)", "max(year)", "count(*)", "from tags", "join taggings",
      "group by tags.id"].all fun part => containsIcase part.toList sqliteSql then
    (cutAtIcase "select".toList pgSql).bind fun (before, select) =>
      (cutAtIcase " from ".toList select).map fun (list, rest) =>
        before ++ collectionAggregates.foldl (fun t (name, named) => replaceIcaseAll name named t)
          list ++ rest
  else none

/-- The text that is sent, where nothing is added to it. -/
def aliased (sqliteSql pgSql : Text) : Text :=
  (aliasCollectionSyncAggregates sqliteSql pgSql).getD pgSql

/-- **`maybe_adjust_insert_sql`.** -/
def adjustInsertSql (sql : Text) (isWrite : Bool) (pgSql : Text) : Text :=
  if !isWrite || !startsWithIcase "INSERT".toList sql then pgSql
  else if containsIcase "schema_migrations".toList pgSql &&
      !containsIcase "ON CONFLICT".toList pgSql then
    pgSql ++ " ON CONFLICT DO NOTHING".toList
  else if !containsIcase "RETURNING".toList pgSql then pgSql ++ " RETURNING id".toList
  else pgSql

/-! ### The statements of the three paths -/

/-- **A translation**; a parameter may have a name. -/
structure Translation where
  sql : Text
  paramNames : List (Option Text)
  deriving DecidableEq, Repr

/-- **A registered statement.**  Where no names are copied, no parameter has one. -/
structure PgStmt where
  kind : Kind
  pgSql : Option Text
  paramCount : ℕ
  paramNames : List (Option Text)
  deriving DecidableEq, Repr

section

variable (translate : Text → Option Translation)

/-- A statement that was translated, or could not be. -/
def translatedStmt (kind : Kind) (text : Text → Text) (names : Translation → List (Option Text))
    (sql : Text) : PgStmt where
  kind := kind
  pgSql := (translate sql).map fun trans => text trans.sql
  paramCount := ((translate sql).map (·.paramNames.length)).getD 0
  paramNames := ((translate sql).map names).getD []

/-- What `maybe_handle_ondeck_low_stack` registers. -/
def onDeckStmt (sql : Text) : PgStmt :=
  translatedStmt translate .read (aliased sql)
    (fun trans => List.replicate trans.paramNames.length none) sql

/-- A statement is registered as a write if it begins as one. -/
def rowKind (sql : Text) : Kind := if isWriteOperation sql then .write else .read

/-- What `maybe_handle_low_stack_prepare_path` registers. -/
def lowStackStmt (sql : Text) : PgStmt :=
  translatedStmt translate (rowKind sql) (aliased sql) (·.paramNames) sql

/-- What `maybe_register_pg_stmt` registers. -/
def usualStmt (debug : Option Text) (sql : Text) : PgStmt :=
  if shouldSkip debug sql then ⟨.skipped, none, 0, []⟩
  else
    translatedStmt translate (rowKind sql)
      (fun pgSql => adjustInsertSql sql (isWriteOperation sql) (aliased sql pgSql))
      (·.paramNames) sql

end

/-! ### The path of a prepare -/

/-- The paths of `prepare_v2_internal_impl`. -/
inductive Path where
  | onDeck
  | lowStack
  | usual
  deriving DecidableEq, Repr

/-- The path taken on one thread. -/
def stackPath (fromWorker : Bool) (debug : Option Text) (env : FlowEnv) (sql : Text) : Path :=
  if (onDeckFlow debug env sql).isSome then .onDeck
  else if (lowStackFlow fromWorker env sql).isSome then .lowStack
  else .usual

/-- The prepare is left to the worker. -/
def PrepareEnv.delegates (debug : Option Text) (env : PrepareEnv) (sql : Text) : Bool :=
  env.own.stackRemaining < 400000 && env.workerActive && !shouldSkip debug sql

/-- The path of a prepare, on the thread that does it. -/
def PrepareEnv.path (debug : Option Text) (env : PrepareEnv) (sql : Text) : Path :=
  if env.delegates debug sql then stackPath true debug env.worker sql
  else stackPath false debug env.own sql

/-- The statement of a path. -/
def Path.stmt (translate : Text → Option Translation) (debug : Option Text) (sql : Text) :
    Path → PgStmt
  | .onDeck => onDeckStmt translate sql
  | .lowStack => lowStackStmt translate sql
  | .usual => usualStmt translate debug sql

/-- **What becomes of a statement**, with what is registered. -/
inductive Outcome where
  | refused
  | shadow
  | registered (stmt : PgStmt)
  deriving DecidableEq, Repr

/-- What is registered is the statement of the path. -/
def Prepared.withStmt (stmt : PgStmt) : Prepared → Outcome
  | .refused => .refused
  | .shadow => .shadow
  | .registered _ => .registered stmt

/-- **What a prepare registers.** -/
def registration (translate : Text → Option Translation) (debug : Option Text) (env : PrepareEnv)
    (sql : Text) : Outcome :=
  (prepare debug env sql).withStmt ((env.path debug sql).stmt translate debug sql)

/-- **The same is registered on every path** that a prepare can take where PostgreSQL is
active. -/
def PathsAgree (translate : Text → Option Translation) (debug : Option Text) (sql : Text) : Prop :=
  ∀ env env' : PrepareEnv, env.Serves → env'.Serves →
    registration translate debug env sql = registration translate debug env' sql

/-! ### When the paths agree -/

/-- The statement is translated to a text that the usual path leaves alone. -/
def Unadjusted (sql : Text) (trans : Translation) : Prop :=
  containsIcase "RETURNING".toList (aliased sql trans.sql) = true ∧
    (containsIcase "schema_migrations".toList (aliased sql trans.sql) = true →
      containsIcase "ON CONFLICT".toList (aliased sql trans.sql) = true)

/-- **The paths agree** on a query of the On Deck view if it is a read, or unskipped
transaction control, without named parameters; and on any other statement if it is a read or
a write that is not skipped, and no INSERT that something is added to. -/
def Uniform (translate : Text → Option Translation) (debug : Option Text) (sql : Text) : Prop :=
  if isOnDeck sql then
    isSqlitePassthrough sql = false ∧ shouldSkip debug sql = false ∧
      isWriteOperation sql = false ∧ (isReadOperation sql || (classifySql sql).isSome) = true ∧
      ∀ trans, translate sql = some trans → ∀ name ∈ trans.paramNames, name = none
  else
    isSqlitePassthrough sql = true ∨
      shouldSkip debug sql = false ∧ (isReadOperation sql || isWriteOperation sql) = true ∧
        (isWriteOperation sql = true → startsWithIcase "INSERT".toList sql = true →
          ∀ trans, translate sql = some trans → Unadjusted sql trans)

section

variable {translate : Text → Option Translation} {debug : Option Text} {sql : Text}
  {env : FlowEnv}

/-! ### The three outcomes -/

/-- What the usual path comes to. -/
def usualOutcome (translate : Text → Option Translation) (debug : Option Text) (sql : Text) :
    Outcome :=
  if isRouted (some ⟨true, true, true⟩) sql && !isSqlitePassthrough sql then
    .registered (usualStmt translate debug sql)
  else .shadow

/-- What the path for a low stack comes to. -/
def lowStackOutcome (translate : Text → Option Translation) (sql : Text) : Outcome :=
  if isReadOperation sql || isWriteOperation sql then .registered (lowStackStmt translate sql)
  else .refused

/-- **The usual path.** -/
theorem mainFlow_outcome (serves : env.Serves) :
    (mainFlow debug env sql).withStmt (usualStmt translate debug sql) =
      usualOutcome translate debug sql := by
  rw [mainFlow_of_serves serves, usualOutcome]
  split <;> rfl

/-- **The path of one thread**, told by the statement and the stack that is left. -/
theorem stackFlow_outcome (serves : env.Serves) (fromWorker : Bool) :
    (stackFlow fromWorker debug env sql).withStmt
        ((stackPath fromWorker debug env sql).stmt translate debug sql) =
      if isOnDeck sql && decide (env.stackRemaining < 100000) then
        .registered (onDeckStmt translate sql)
      else if !isSqlitePassthrough sql &&
          decide (env.stackRemaining < if fromWorker then 32000 else 64000) then
        lowStackOutcome translate sql
      else usualOutcome translate debug sql := by
  unfold stackFlow stackPath
  rw [onDeckFlow_of_serves serves, lowStackFlow_of_serves serves]
  generalize (isOnDeck sql && decide (env.stackRemaining < 100000)) = deck
  generalize (!isSqlitePassthrough sql &&
    decide (env.stackRemaining < if fromWorker = true then 32000 else 64000)) = low
  cases deck with
  | true => rfl
  | false =>
    cases low with
    | false => exact mainFlow_outcome serves
    | true =>
      unfold lowStackOutcome
      cases isReadOperation sql <;> cases isWriteOperation sql <;> rfl

/-- The outcome of a prepare is that of the thread which does it. -/
theorem registration_of_serves {env : PrepareEnv} (serves : env.Serves) :
    registration translate debug env sql =
      if env.delegates debug sql then
        (stackFlow true debug env.worker sql).withStmt
          ((stackPath true debug env.worker sql).stmt translate debug sql)
      else
        (stackFlow false debug env.own sql).withStmt
          ((stackPath false debug env.own sql).stmt translate debug sql) := by
  unfold registration PrepareEnv.path
  rw [prepare_of_serves serves]
  cases delegates : env.delegates debug sql <;> unfold PrepareEnv.delegates at delegates <;>
    simp [delegates]

/-- With little stack left, and no worker. -/
def PrepareEnv.deep : PrepareEnv := { PrepareEnv.calm with
  own := { FlowEnv.calm with stackRemaining := 0 }
  workerActive := false }

theorem PrepareEnv.serves_deep : PrepareEnv.deep.Serves :=
  ⟨⟨by decide, rfl, rfl, rfl, rfl, rfl, rfl, rfl⟩, FlowEnv.serves_calm, rfl⟩

open PrepareEnv

theorem registration_calm :
    registration translate debug .calm sql = usualOutcome translate debug sql := by
  have stays : calm.delegates debug sql = false := rfl
  rw [registration_of_serves serves_calm, stays, if_neg Bool.false_ne_true,
    stackFlow_outcome serves_calm.own]
  simp [calm, FlowEnv.calm]

theorem registration_deep :
    registration translate debug .deep sql =
      if isOnDeck sql then .registered (onDeckStmt translate sql)
      else if isSqlitePassthrough sql then usualOutcome translate debug sql
      else lowStackOutcome translate sql := by
  have stays : deep.delegates debug sql = false := rfl
  rw [registration_of_serves serves_deep, stays, if_neg Bool.false_ne_true,
    stackFlow_outcome serves_deep.own]
  simp only [deep, FlowEnv.calm]
  cases isOnDeck sql <;> cases isSqlitePassthrough sql <;> rfl

/-- **The paths agree exactly if the shortest one does what the usual one does.** -/
theorem pathsAgree_iff_deep :
    PathsAgree translate debug sql ↔
      registration translate debug .deep sql = registration translate debug .calm sql := by
  constructor
  · intro agree
    exact agree _ _ serves_deep serves_calm
  · intro same
    rw [registration_calm, registration_deep] at same
    have thread : ∀ (env : FlowEnv) (fromWorker : Bool), env.Serves →
        (stackFlow fromWorker debug env sql).withStmt
          ((stackPath fromWorker debug env sql).stmt translate debug sql) =
            usualOutcome translate debug sql := by
      intro env fromWorker serves
      rw [stackFlow_outcome serves]
      cases deck : isOnDeck sql <;> cases passes : isSqlitePassthrough sql <;>
        simp only [deck, passes, Bool.false_eq_true, reduceIte] at same <;> simp [same]
      -- the path for a low stack begins where the other one has been taken
      intro _ low
      split at low <;> omega
    have usual : ∀ env : PrepareEnv, env.Serves →
        registration translate debug env sql = usualOutcome translate debug sql := by
      intro env serves
      rw [registration_of_serves serves, thread _ _ serves.own, thread _ _ serves.worker]
      exact ite_self _
    intro env env' serves serves'
    rw [usual env serves, usual env' serves']

/-! ### Comparing the statements -/

theorem adjustInsertSql_eq_self_iff {isWrite : Bool} {pgSql : Text} :
    adjustInsertSql sql isWrite pgSql = pgSql ↔
      (isWrite = true → startsWithIcase "INSERT".toList sql = true →
        containsIcase "RETURNING".toList pgSql = true ∧
          (containsIcase "schema_migrations".toList pgSql = true →
            containsIcase "ON CONFLICT".toList pgSql = true)) := by
  unfold adjustInsertSql
  cases isWrite <;> cases startsWithIcase "INSERT".toList sql <;>
    cases containsIcase "RETURNING".toList pgSql <;>
    cases containsIcase "schema_migrations".toList pgSql <;>
    cases containsIcase "ON CONFLICT".toList pgSql <;> simp

theorem translatedStmt_eq_iff {kind kind' : Kind} {text text' : Text → Text}
    {names names' : Translation → List (Option Text)} :
    translatedStmt translate kind text names sql = translatedStmt translate kind' text' names' sql ↔
      kind = kind' ∧ ∀ trans, translate sql = some trans →
        text trans.sql = text' trans.sql ∧ names trans = names' trans := by
  unfold translatedStmt
  cases translate sql with
  | none | some => simp

theorem replicate_none_eq_iff (names : List (Option Text)) :
    List.replicate names.length none = names ↔ ∀ name ∈ names, name = none := by
  rw [eq_comm, List.eq_replicate_iff]
  simp

/-- On a query of the On Deck view. -/
theorem onDeckStmt_eq_usualStmt_iff :
    onDeckStmt translate sql = usualStmt translate debug sql ↔
      shouldSkip debug sql = false ∧ isWriteOperation sql = false ∧
        ∀ trans, translate sql = some trans → ∀ name ∈ trans.paramNames, name = none := by
  unfold usualStmt
  cases skip : shouldSkip debug sql with
  | true => simp [onDeckStmt, translatedStmt]
  | false =>
    rw [if_neg Bool.false_ne_true, onDeckStmt, translatedStmt_eq_iff, rowKind]
    cases isWriteOperation sql with
    | true => simp
    | false =>
      have unchanged : ∀ pgSql, adjustInsertSql sql false pgSql = pgSql :=
        fun pgSql => adjustInsertSql_eq_self_iff.mpr fun never => absurd never Bool.false_ne_true
      simp [unchanged, replicate_none_eq_iff]

/-- On any other statement. -/
theorem lowStackStmt_eq_usualStmt_iff :
    lowStackStmt translate sql = usualStmt translate debug sql ↔
      shouldSkip debug sql = false ∧
        (isWriteOperation sql = true → startsWithIcase "INSERT".toList sql = true →
          ∀ trans, translate sql = some trans → Unadjusted sql trans) := by
  unfold usualStmt
  cases skip : shouldSkip debug sql with
  | true =>
    have kinds : rowKind sql ≠ .skipped := by
      unfold rowKind
      split <;> decide
    simp [lowStackStmt, translatedStmt, kinds]
  | false =>
    rw [if_neg Bool.false_ne_true, lowStackStmt, translatedStmt_eq_iff]
    simp only [and_true, true_and]
    constructor
    · intro same write insert trans translated
      exact adjustInsertSql_eq_self_iff.mp (same trans translated).symm write insert
    · intro unadjusted trans translated
      exact (adjustInsertSql_eq_self_iff.mpr fun write insert =>
        unadjusted write insert trans translated).symm

/-- **The paths agree exactly on the uniform statements.** -/
theorem pathsAgree_iff (translate : Text → Option Translation) (debug : Option Text) (sql : Text) :
    PathsAgree translate debug sql ↔ Uniform translate debug sql := by
  rw [pathsAgree_iff_deep, registration_calm, registration_deep, Uniform, usualOutcome]
  cases deck : isOnDeck sql with
  | true =>
    rw [if_pos rfl, if_pos rfl]
    constructor
    · intro same
      split at same
      · rename_i routed
        obtain ⟨run, reads, nameless⟩ :=
          onDeckStmt_eq_usualStmt_iff.mp (Outcome.registered.inj same)
        simp only [isRouted_of_not_skipped run, reads, Bool.or_false, Bool.and_eq_true,
          Bool.not_eq_true'] at routed
        exact ⟨routed.2, run, reads, routed.1, nameless⟩
      · cases same
    · rintro ⟨unpassed, run, reads, routed, nameless⟩
      rw [isRouted_of_not_skipped run, reads, Bool.or_false, routed, unpassed,
        onDeckStmt_eq_usualStmt_iff.mpr ⟨run, reads, nameless⟩]
      rfl
  | false =>
    rw [if_neg Bool.false_ne_true, if_neg Bool.false_ne_true, lowStackOutcome]
    cases passes : isSqlitePassthrough sql with
    | true => simp
    | false =>
      simp only [Bool.false_eq_true, reduceIte, false_or, Bool.not_false, Bool.and_true]
      constructor
      · intro same
        split at same
        · rename_i row
          split at same
          · obtain ⟨run, unadjusted⟩ :=
              lowStackStmt_eq_usualStmt_iff.mp (Outcome.registered.inj same)
            exact ⟨run, row, unadjusted⟩
          · cases same
        · split at same <;> cases same
      · rintro ⟨run, row, unadjusted⟩
        rw [isRouted_of_not_skipped run, row, lowStackStmt_eq_usualStmt_iff.mpr ⟨run, unadjusted⟩]
        rfl

/-- **An INSERT loses its RETURNING on a low stack.** -/
theorem insert_without_returning :
    let sql := "INSERT INTO tags (tag) VALUES (?)".toList
    let translate : Text → Option Translation :=
      fun _ => some ⟨"INSERT INTO tags (tag) VALUES ($1)".toList, [none]⟩
    calm.Serves ∧ deep.Serves ∧
      registration translate none .calm sql = .registered
        ⟨.write, some "INSERT INTO tags (tag) VALUES ($1) RETURNING id".toList, 1, [none]⟩ ∧
      registration translate none .deep sql = .registered
        ⟨.write, some "INSERT INTO tags (tag) VALUES ($1)".toList, 1, [none]⟩ :=
  ⟨serves_calm, serves_deep, by decide +kernel, by decide +kernel⟩

end

end PlexPostgres.Routing
