import PlexPostgres.Library.Noise

/-!
# The lists that route a statement

Whether a statement goes to PostgreSQL is decided by its text: SQLite keeps what
configures its engine or reads its own tables (*passthrough*), what PostgreSQL has no use
for is answered without running it (*skipped*), and of the rest a statement is a read or a
write by its first letters.  Leading white space and comments do not count.
-/

namespace PlexPostgres.Routing

open Text

/-- `strip_leading_ws_and_sql_comments`.  Of a block comment that is never closed the last
character stays, unless it is white space. -/
def stripLeading (sql : Text) : Text :=
  skipNoise isAsciiWhitespace (fun c => if isAsciiWhitespace c then [] else [c]) .blank sql

/-! ### Passthrough -/

/-- How a statement begins that configures SQLite's engine. -/
def engineLeads : List Text :=
  ["icu_load_collation".toList, "fts3_tokenizer".toList, "select load_extension".toList,
    "select fts3_tokenizer".toList, "select icu_load_collation".toList]

/-- SQLite's own tables. -/
def engineTables : List Text :=
  ["sqlite_master".toList, "sqlite_schema".toList, "sqlite_stat1".toList,
    "sqlite_stat4".toList]

/-- **Does real SQLite run it?**  `is_sqlite_passthrough_str`. -/
def isSqlitePassthrough (sql : Text) : Bool :=
  let lower := toLowercase (stripLeading sql)
  !(stripLeading sql).isEmpty &&
    (engineLeads.any (startsWith · lower) || engineTables.any (contains · lower))

/-! ### Skipped -/

/-- How a statement begins that is not run at all. -/
def skipLeads : List Text :=
  ["vacuum".toList, "pragma".toList, "reindex".toList, "analyze sqlite_".toList,
    "attach database".toList, "detach database".toList, "begin".toList, "end".toList,
    "commit".toList, "rollback".toList, "savepoint".toList, "release ".toList]

/-- What makes a statement skipped wherever it stands. -/
def skipFragments : List Text :=
  ["spellfix".toList, "set $2=$2".toList, "set $1=$1".toList, "set :2=:2".toList,
    "set :1=:1".toList, ":col=:col".toList]

/-- The fragments `PLEX_PG_DEBUG_SKIP_CONTAINS` adds: its pieces between commas. -/
def debugFragments (setting : Option Text) : List Text :=
  ((setting.map (·.splitOn ',')).getD []).map (toLowercase ∘ trim) |>.filter (· ≠ [])

/-- **Is it answered without being run?**  `should_skip_sql_str`; `debug` is the setting
`PLEX_PG_DEBUG_SKIP_CONTAINS`.  Fragments are looked for in the comments too. -/
def shouldSkip (debug : Option Text) (sql : Text) : Bool :=
  !(stripLeading sql).isEmpty &&
    (skipLeads.any (startsWith · (toLowercase (stripLeading sql))) ||
      (debugFragments debug).any (contains · (toLowercase sql)) ||
      skipFragments.any (contains · (toLowercase sql)))

/-! ### Reads and writes -/

/-- How a write begins. -/
def writeLeads : List Text :=
  ["insert".toList, "update".toList, "delete".toList, "replace".toList, "alter".toList,
    "create".toList, "drop".toList]

/-- `is_write_operation_str`. -/
def isWriteOperation (sql : Text) : Bool :=
  writeLeads.any (startsWith · (toLowercase (stripLeading sql)))

/-- `is_ddl_str`. -/
def isDdl (sql : Text) : Bool :=
  ["alter".toList, "create".toList, "drop".toList].any
    (startsWith · (toLowercase (stripLeading sql)))

/-- `is_read_operation_str`; the only one that folds ASCII letters alone. -/
def isReadOperation (sql : Text) : Bool :=
  startsWith "select".toList (asciiLower (stripLeading sql))

/-- `is_maintenance_noop_str`. -/
def isMaintenanceNoop (sql : Text) : Bool :=
  let lower := toLowercase (stripLeading sql)
  ["vacuum".toList, "reindex".toList].any fun keyword =>
    lower = keyword || startsWith keyword lower && (lower.drop keyword.length).head?.any
      isWhitespace

/-! ### The decision -/

/-- Where a statement goes; `other` is none of the four. -/
inductive Route where
  | passthrough
  | skip
  | write
  | read
  | other
  deriving DecidableEq, Repr

/-- **The routing decision**, in the order the tests are made. -/
def route (debug : Option Text) (sql : Text) : Route :=
  if isSqlitePassthrough sql then .passthrough
  else if shouldSkip debug sql then .skip
  else if isWriteOperation sql then .write
  else if isReadOperation sql then .read
  else .other

end PlexPostgres.Routing
