import PlexPostgres.Library.Noise

/-!
# Writes the step path answers without running them

Three rules let `sqlite3_step` answer a registered write with `SQLITE_DONE` although
nothing of it was sent: a transaction terminator outside a transaction, a
`statistics_media` row without content and a `metadata_items` row without section and
type (the *special inserts*), and, when the environment asks for it, an update of
`statistics_resources`.

All of them read the translated text.  `findInsertColumnIndex` is the helper that finds
a column's place in an INSERT's column list.
-/

namespace PlexPostgres.Step

open Text

/-! ### The column list of an INSERT -/

/-- Split at the commas outside single quotes; `field` is the piece being read. -/
def splitCsvFrom (inSingle : Bool) (field : Text) : Text → List Text
  | [] => [trim field]
  | c :: rest =>
    if c = singleQuote then splitCsvFrom (!inSingle) (field ++ [c]) rest
    else if c = ',' && !inSingle then trim field :: splitCsvFrom inSingle [] rest
    else splitCsvFrom inSingle (field ++ [c]) rest

/-- `split_csv_simple`: the pieces of a list, each trimmed. -/
def splitCsvSimple (list : Text) : List Text := splitCsvFrom false [] list

def stripFirst (c : Char) (t : Text) : Text := if t.head? = some c then t.tail else t

def stripLast (c : Char) (t : Text) : Text := if t.getLast? = some c then t.dropLast else t

/-- `normalize_ident_token`: a column name without its quotes. -/
def normalizeIdentToken (t : Text) : Text :=
  stripLast backQuote <| stripLast doubleQuote <| stripFirst backQuote <|
    stripFirst doubleQuote <| trim t

/-- What stands between the first `(` and the first `)` after it. -/
def columnSection (sql : Text) : Option Text :=
  match sql.dropWhile (· ≠ '(') with
  | [] => none
  | _ :: rest => if ')' ∈ rest then some (rest.takeWhile (· ≠ ')')) else none

/-- `find_insert_column_index`: the place of a column in an INSERT's column list. -/
def findInsertColumnIndex (sql columnName : Text) : Option ℕ :=
  if columnName = [] then none
  else if !(containsIcase "INSERT".toList sql && containsIcase "INTO".toList sql) then none
  else (columnSection sql).bind fun columns =>
    (splitCsvSimple columns).findIdx? fun c =>
      asciiLower (normalizeIdentToken c) = asciiLower columnName

example : findInsertColumnIndex "INSERT INTO t (id, \x22Kind\x22) VALUES ($1, $2)".toList
    "kind".toList = some 1 := by
  decide

/-! ### The rules -/

/-- What `rust_skip_leading_sql_noise` takes for white space. -/
def isPlainBlank (c : Char) : Bool := c == ' ' || c == '\t' || c == '\n' || c == '\r'

/-- `rust_is_txn_terminator_sql`. -/
def isTxnTerminator (sql : Text) : Bool :=
  let body := skipNoise isPlainBlank (fun _ => []) .blank sql
  startsWithIcase "commit".toList body || startsWithIcase "rollback".toList body ||
    startsWithIcase "end".toList body

/-- A bound value that counts as nothing: NULL, or the text `0`. -/
def isEmptyCount (value : Option Text) : Bool := value = none || value = some "0".toList

/-- A `statistics_media` row with neither a count nor a duration. -/
def isEmptyStatisticsMedia (pgSql : Text) (params : List (Option Text)) : Bool :=
  containsIcase "statistics_media".toList pgSql &&
    isEmptyCount (params[6]?.join) && isEmptyCount (params[7]?.join)

/-- A `metadata_items` row whose section and type are both bound to NULL. -/
def isJunkMetadataItem (pgSql : Text) (params : List (Option Text)) : Bool :=
  containsIcase "INSERT INTO".toList pgSql && containsIcase "metadata_items".toList pgSql &&
    !containsIcase "metadata_item_settings".toList pgSql &&
    !containsIcase "metadata_item_views".toList pgSql &&
    !containsIcase "metadata_item_accounts".toList pgSql &&
    !containsIcase "metadata_item_clusters".toList pgSql &&
    match findInsertColumnIndex pgSql "library_section_id".toList,
        findInsertColumnIndex pgSql "metadata_type".toList with
    | some lib, some type => params[lib]? = some none && params[type]? = some none
    | _, _ => false

/-- `rust_step_write_should_skip_special_insert`: is the write one of the two? -/
def isSpecialInsert (pgSql : Text) (params : List (Option Text)) : Bool :=
  isEmptyStatisticsMedia pgSql params || isJunkMetadataItem pgSql params

/-- An UPDATE of `statistics_resources`. -/
def isStatsResourcesUpdate (pgSql : Text) : Bool :=
  startsWithIcase "UPDATE".toList pgSql && containsIcase "statistics_resources".toList pgSql

/-- Whether rows a write came back with are Plex's to read: its own text names
RETURNING, and PostgreSQL answered rows. -/
def plexReadsReturningRows (sql : Text) (rows : Option ℕ) : Bool :=
  rows.any (0 < ·) && containsIcase "RETURNING".toList sql

end PlexPostgres.Step
