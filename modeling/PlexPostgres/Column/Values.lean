import PlexPostgres.Cache.QueryCache
import PlexPostgres.Column.Cursor
import PlexPostgres.Exec.LastInsert

/-!
# What the accessors make of a value

PostgreSQL's rows arrive as text.  An accessor for a number reads the text with C's `atoll` and
hides one value, the type of a collection in the query for related items.  The accessor for texts
prints an aggregate's number anew, gives a boolean as a digit and shortens the addresses of a
server's library.
-/

namespace PlexPostgres.Column

open PlexPostgres.Bind (Bytes ascii decimal isUtf8)
open Text

/-! ### Numbers -/

/-- The characters that C reads, one a byte. -/
def chars (b : Bytes) : Text := b.map fun x => Char.ofNat x.toNat

/-- `pg_text_to_int64_impl`. -/
def pgTextToInt64 (b : Bytes) : ℤ := PlexPostgres.pgTextToInt64 (chars b)

/-- `pg_text_to_int_impl`: `atoi` keeps 32 bits of what it reads. -/
def pgTextToInt (b : Bytes) : ℤ := Cache.i32 (pgTextToInt64 b)

/-- `is_related_items_query_impl`. -/
def isRelatedItemsQuery (sql : Text) : Bool := contains "taggings as related".toList sql

/-- The numbers of a column are looked at for the type of a collection. -/
def hidesCollections (sql : Option Text) (name : Text) : Bool :=
  contains "metadata_type".toList name && sql.any isRelatedItemsQuery

/-- `mask_collection_metadata_type`. -/
def maskCollectionMetadataType (sql : Option Text) (name : Text) (value : ℤ) : ℤ :=
  if value = 18 ∧ hidesCollections sql name then 0 else value

/-! ### Addresses -/

/-- `SERVER_PREFIX`. -/
def serverPrefix : Bytes := ascii "server://".toList

/-- `NEEDLE`. -/
def libraryNeedle : Bytes := ascii "/com.plexapp.plugins.library/library/".toList

/-- `REPLACEMENT`. -/
def libraryPrefix : Bytes := ascii "library://".toList

/-- What stands before the first occurrence, and after it. -/
def cut (needle : Bytes) : Bytes → Option (Bytes × Bytes)
  | [] => none
  | b :: rest =>
    if needle.isPrefixOf (b :: rest) then some ([], (b :: rest).drop needle.length)
    else (cut needle rest).map fun (before, after) => (b :: before, after)

/-- `push_capped`. -/
def pushCapped (cap : ℕ) (out b : Bytes) : Bytes := out ++ b.take (cap - out.length)

/-- The loop of `rewrite_server_library_uri_bytes`, with what is left to read, what is written
and the number of rewrites.  A round that goes on has read a prefix, so there are fewer rounds
than bytes. -/
def rewriteRounds (cap : ℕ) : (rounds : ℕ) → (rest out : Bytes) → (rewrites : ℕ) → Bytes × ℕ
  | 0, _, out, rewrites => (out, rewrites)
  | rounds + 1, rest, out, rewrites =>
    if rest = [] ∨ cap ≤ out.length then (out, rewrites)
    else
      match cut serverPrefix rest with
      | none => (pushCapped cap out rest, rewrites)
      | some (before, tail) =>
        let out := pushCapped cap out before
        if tail = [] then (pushCapped cap out serverPrefix, rewrites)
        else
          match cut libraryNeedle tail with
          | none => rewriteRounds cap rounds tail (pushCapped cap out serverPrefix) rewrites
          | some (_, after) =>
            rewriteRounds cap rounds after (pushCapped cap out libraryPrefix) (rewrites + 1)

/-- `rewrite_server_library_uri_bytes`. -/
def rewriteServerLibraryUri (cap : ℕ) (source : Bytes) : Option Bytes :=
  if (cut serverPrefix source).isNone ∨ (cut libraryNeedle source).isNone then none
  else
    match rewriteRounds cap source.length source [] 0 with
    | (_, 0) => none
    | (out, _ + 1) => some out

/-! ### Times -/

/-- The last second that `gmtime_r` has a year for. -/
def lastEpoch : ℤ := 67768036191676799

/-- The year, the month and the day, so many days after the first of March of the year 0. -/
def civilFromMarch (days : ℕ) : ℕ × ℕ × ℕ :=
  -- Eras of 400 years, and years that begin in March.
  let era := days / 146097
  let dayOfEra := days % 146097
  let yearOfEra := (dayOfEra - dayOfEra / 1460 + dayOfEra / 36524 - dayOfEra / 146096) / 365
  let dayOfYear := dayOfEra - (365 * yearOfEra + yearOfEra / 4 - yearOfEra / 100)
  let month := (5 * dayOfYear + 2) / 153
  let day := dayOfYear - (153 * month + 2) / 5 + 1
  if month < 10 then (400 * era + yearOfEra, month + 3, day)
  else (400 * era + yearOfEra + 1, month - 9, day)

/-- So many days after the first of January 1970. -/
def civilDate (days : ℕ) : ℕ × ℕ × ℕ := civilFromMarch (days + 719468)

def twoDigits (n : ℕ) : Text := [(n / 10).digitChar, (n % 10).digitChar]

/-- `format_epoch_to_datetime_utc_impl`. -/
def formatEpochToDatetimeUtc (epoch : ℤ) : Option Bytes :=
  if epoch ≤ 0 ∨ lastEpoch < epoch then none
  else
    let (year, month, day) := civilDate (epoch.toNat / 86400)
    let second := epoch.toNat % 86400
    some (ascii (Nat.toDigits 10 year ++ '-' :: twoDigits month ++ '-' :: twoDigits day ++
      ' ' :: twoDigits (second / 3600) ++ ':' :: twoDigits (second / 60 % 60) ++
      ':' :: twoDigits (second % 60)))

example :
    formatEpochToDatetimeUtc 1709210096 = some (ascii "2024-02-29 12:34:56".toList) := by
  decide +kernel

/-! ### Texts -/

/-- `is_aggregate_alias`. -/
def isAggregateAlias (col : Text) : Bool :=
  let lower := asciiLower (trim col)
  decide (lower ∈ ["count".toList, "sum".toList, "max".toList, "min".toList, "avg".toList]) ||
    ["count(".toList, "sum(".toList, "max(".toList, "min(".toList, "avg(".toList].any
      (startsWith · lower)

/-- `pg_sql_has_timestamp_hint`. -/
def pgSqlHasTimestampHint (sql : Text) : Bool :=
  contains "_at".toList sql || contains "changed_at".toList sql ||
    contains "updated_at".toList sql || contains "created_at".toList sql

/-- An aggregate is taken for one of times: it is a greatest or a least, and the statement speaks
of a column that sounds like one. -/
def ofTimes (sql : Option Text) (name : Text) : Bool :=
  (asciiLower name = "max".toList || asciiLower name = "min".toList) &&
    sql.any pgSqlHasTimestampHint

/-- `rust_column_text_reformat_aggregate`. -/
def reformatAggregate (sql : Option Text) (name : Text) (oid : ℕ) (source : Bytes) :
    Option Bytes :=
  if oid ∉ [20, 21, 23] ∨ ¬ isAggregateAlias name then none
  else if oid = 20 then
    let printed := decimal (pgTextToInt64 source)
    if ofTimes sql name then
      some ((formatEpochToDatetimeUtc (pgTextToInt64 source)).getD printed)
    else some printed
  else some (decimal (pgTextToInt source))

/-- A boolean as SQLite has it. -/
def booleanDigit (oid : ℕ) (source : Bytes) : Option Bytes :=
  if oid = 16 ∧ source = ascii ['t'] then some (ascii ['1'])
  else if oid = 16 ∧ source = ascii ['f'] then some (ascii ['0'])
  else none

/-- **`rust_column_text_transform`.** -/
def columnTextTransform (sql : Option Text) (name : Text) (oid : ℕ) (source : Bytes) :
    Transformed :=
  if ¬ isUtf8 source then .notText
  else
    match (reformatAggregate sql name oid source).or <| (booleanDigit oid source).or <|
        rewriteServerLibraryUri (textBufferSize - 1) source with
    | some t => .rewritten t
    | none => .same

/-- How the values of a statement are read. -/
def Reader.ofSql (sql : Option Text) (nullTypeFromOid : Bool) : Reader where
  transform := columnTextTransform sql
  nullTypeFromOid := nullTypeFromOid

/-! ### Values as PostgreSQL sends them -/

/-- The bits of an integer type that aggregates have. -/
def integerBits : ℕ → Option ℕ
  | 20 => some 64
  | 21 => some 16
  | 23 => some 32
  | _ => none

/-- **A value as PostgreSQL sends it**, to a client that asks for every column as text, as the
shim does: there is no zero byte in it, and an integer is in decimals. -/
structure AsSent (oid : ℕ) (b : Bytes) : Prop where
  noNul : 0 ∉ b
  integer : ∀ bits, integerBits oid = some bits →
    ∃ n : ℤ, -2 ^ (bits - 1) ≤ n ∧ n < 2 ^ (bits - 1) ∧ b = decimal n

/-- **A result as PostgreSQL sends it.** -/
structure TextResult extends PgResult where
  sent : ∀ row col b, toPgResult.value row col = some b → AsSent (toPgResult.ftype col) b

/-- The cell of a row and a column, if there is one and it is not null. -/
def PgResult.cell (r : PgResult) (row idx : ℤ) : Option Cell :=
  if 0 ≤ idx ∧ idx < r.nfields ∧ 0 ≤ row ∧ row < r.ntuples then
    (r.value row.toNat idx.toNat).map (⟨r.fname idx.toNat, r.ftype idx.toNat, ·⟩)
  else none

theorem TextResult.asSent (r : TextResult) {row idx : ℤ} {cell : Cell}
    (there : r.cell row idx = some cell) : AsSent cell.oid cell.source := by
  unfold PgResult.cell at there
  split at there
  · obtain ⟨b, found, rfl⟩ := Option.map_eq_some_iff.1 there
    exact r.sent _ _ b found
  · cases there

/-- A result of one cell. -/
def TextResult.single (cell : Cell) (sent : AsSent cell.oid cell.source) : TextResult where
  columns := [(cell.name, cell.oid)]
  rows := [[some cell.source]]
  sent := by
    intro row col b found
    obtain _ | row := row
    · obtain _ | col := col
      · cases found
        exact sent
      · simp [PgResult.value] at found
    · simp [PgResult.value] at found

end PlexPostgres.Column
