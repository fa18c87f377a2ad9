import PlexPostgres.Bind.Params
import PlexPostgres.Library.Keyed
import PlexPostgres.Step.Metadata

/-!
# The rows of a read, and the columns Plex reads of them

A read statement holds a result of PostgreSQL's and the number of its current row.  Plex asks for
the columns of that row: `sqlite3_column_text` hands out a copy that the statement keeps until
it moves on, `sqlite3_column_blob` likewise, and a decoded `bytea` is kept so that it is decoded
once.  The copies are kept by row number.

Plex may ask before the first step.  The statement is then described, or run for its columns
alone, and such a result stands until the next step.

The rows come in one of two ways.  A registered statement is stepped with
`rust_step_read_first_execute` and its successors, eagerly or from a stream; one that is not
registered is found in the thread's cache, and has a shorter path of its own.
-/

namespace PlexPostgres.Column

open PlexPostgres.Bind (Bytes Params BindEnv Slot)
open Step (Rc ErrorClass metadataSource)

/-! ### Results -/

/-- **A result of PostgreSQL's**: the name and the type of each column, and the rows; a null has
no bytes. -/
structure PgResult where
  columns : List (Text × ℕ)
  rows : List (List (Option Bytes))
  deriving DecidableEq, Repr

namespace PgResult

/-- `PQntuples`. -/
def ntuples (r : PgResult) : ℕ := r.rows.length

/-- `PQnfields`. -/
def nfields (r : PgResult) : ℕ := r.columns.length

/-- `PQfname`. -/
def fname (r : PgResult) (col : ℕ) : Text := (r.columns[col]?.map Prod.fst).getD []

/-- `PQftype`. -/
def ftype (r : PgResult) (col : ℕ) : ℕ := (r.columns[col]?.map Prod.snd).getD 0

/-- `PQgetvalue` and `PQgetlength`, or `PQgetisnull`. -/
def value (r : PgResult) (row col : ℕ) : Option Bytes := (r.rows[row]?.bind (·[col]?)).join

end PgResult

/-- What `sqlite3_column_type` answers. -/
inductive SqliteType where
  | integer
  | float
  | text
  | blob
  | null
  deriving DecidableEq, Repr

/-- `sqlite_type_for_oid`. -/
def sqliteTypeForOid (oid : ℕ) : SqliteType :=
  if oid ∈ [20, 21, 23, 26, 16] then .integer
  else if oid ∈ [1114, 1184] then .text
  else if oid ∈ [700, 701, 1700] then .float
  else if oid = 17 then .blob
  else .text

/-- The type `bytea`. -/
def byteaOid : ℕ := 17

/-- A hexadecimal digit. -/
def hexVal (b : UInt8) : Option UInt8 :=
  if 48 ≤ b && b ≤ 57 then some (b - 48)
  else if 97 ≤ b && b ≤ 102 then some (b - 97 + 10)
  else if 65 ≤ b && b ≤ 70 then some (b - 65 + 10)
  else none

/-- The bytes that pairs of digits stand for. -/
def hexPairs : Bytes → Option Bytes
  | [] => some []
  | [_] => none
  | hi :: lo :: rest => do
      let hi ← hexVal hi
      let lo ← hexVal lo
      let rest ← hexPairs rest
      return ((hi <<< 4) ||| lo) :: rest

/-- `rust_decode_hex_bytes`, which refuses no digits at all. -/
def decodeHexBytes (hex : Bytes) : Option Bytes := if hex = [] then none else hexPairs hex

/-- What becomes of the text of a `bytea`: it is the value as it is, it is decoded, or it cannot
be. -/
inductive Decoded where
  | raw (b : Bytes)
  | hex (b : Bytes)
  | failed
  deriving DecidableEq, Repr

/-- `rust_pg_decode_bytea`. -/
def pgDecodeBytea : Bytes → Decoded
  | 92 :: 120 :: hex =>
    match decodeHexBytes hex with
    | some b => .hex b
    | none => .failed
  | source => .raw source

/-- The value that is handed out. -/
def Decoded.bytes : Decoded → Option Bytes
  | .raw b | .hex b => some b
  | .failed => none

/-- What `rust_column_text_transform` makes of a value: another text, nothing because it is no
UTF-8, or no change. -/
inductive Transformed where
  | rewritten (t : Bytes)
  | notText
  | same

/-- **How values are read**: the rewriting of texts, by the name and the type of the column, for
the statement's own text; and `PLEX_PG_NULL_COLUMN_TYPE_FROM_OID`. -/
structure Reader where
  transform : Text → ℕ → Bytes → Transformed
  nullTypeFromOid : Bool

/-- `TEXT_BUFFER_SIZE`. -/
def textBufferSize : ℕ := 8192

/-- What a column's value is computed from: the column's name and type, and the bytes. -/
structure Cell where
  name : Text
  oid : ℕ
  source : Bytes
  deriving DecidableEq, Repr

/-- **The text of a value**, and whether it was written to a buffer that is used again.  A null,
and whatever else there is no value of, is the empty text. -/
def Reader.textOutput (reader : Reader) : Option Cell → Bytes × Bool
  | none => ([], true)
  | some cell =>
    match reader.transform cell.name cell.oid cell.source with
    | .rewritten t => (t, true)
    | .notText => ([], true)
    | .same => (cell.source, cell.source.length < textBufferSize)

/-- **The blob of a value.**  A null has none, and no more has an empty value that is no
`bytea`. -/
def blobOutput : Option Cell → Option Bytes
  | none => none
  | some cell =>
    if cell.oid = byteaOid then (pgDecodeBytea cell.source).bytes
    else if cell.source = [] then none
    else some cell.source

/-! ### Statements -/

/-- A slot of the caches that are kept by `cached_row`: a column's text, or its blob. -/
inductive RowSlot where
  | text (col : ℕ)
  | blob (col : ℕ)
  deriving DecidableEq, Repr

/-- **A read statement**, as far as its columns go. -/
structure Cursor where
  /-- It is not registered, but in the thread's cache. -/
  isCached : Bool
  /-- It has a name to be prepared under. -/
  named : Bool
  params : Params
  result : Option PgResult
  currentRow : ℤ
  numRows : ℕ
  numCols : ℕ
  /-- `metadata_only_result` is not 0: the result was fetched for its columns alone. -/
  metadataOnly : Bool
  streaming : Bool
  readDone : Bool
  /-- The length of `cached_text`, `cached_blob` and `decoded_blobs`. -/
  capacity : ℕ
  /-- `cached_text` and `cached_blob`, kept for `cached_row`. -/
  rowCache : Keyed ℤ RowSlot Bytes
  /-- `decoded_blobs`, kept for `decoded_blob_row`. -/
  decoded : Keyed ℤ ℕ Bytes

/-- **What a request for the columns meets**: does it reach the server, and what does the server
answer when it describes the statement, or runs it. -/
structure Lookup where
  reached : Bool
  described : Option PgResult
  ran : Option PgResult
  deriving DecidableEq, Repr

namespace Cursor

/-- **A statement as prepared.** -/
def prepared (isCached named : Bool) (params : Params) : Cursor where
  isCached := isCached
  named := named
  params := params
  result := none
  currentRow := 0
  numRows := 0
  numCols := 0
  metadataOnly := false
  streaming := false
  readDone := false
  capacity := 0
  rowCache := .empty (-1)
  decoded := .empty (-1)

variable (reader : Reader) (c : Cursor)

/-- It has parameters, and none is bound. -/
def hasUnboundParams : Bool := c.params.slots ≠ [] && c.params.slots.all (· = .null)

/-- `set_metadata_result_state`, with the columns of the result. -/
def setMetadataResult (r : PgResult) (numRows : ℕ) (currentRow : ℤ) : Cursor :=
  { c with
    result := some r, numRows := numRows, currentRow := currentRow, numCols := r.nfields,
    metadataOnly := true, capacity := max c.capacity r.nfields }

/-- `ensure_pg_result_for_metadata`: a statement with unbound parameters is described, any other
read is run. -/
def ensurePgResultForMetadata (env : Lookup) : Cursor :=
  if c.result.isSome || 0 < c.numCols || !env.reached then c
  else
    match metadataSource false c.hasUnboundParams c.named, env.described, env.ran with
    | .describe, some r, _ => c.setMetadataResult r 0 0
    | .execute, _, some r => c.setMetadataResult r r.ntuples (-1)
    | .describe, none, _ | .execute, _, none | .none, _, _ => c

/-! ### Reading a column -/

/-- The row number is that of a row there is. -/
def onRow : Bool := 0 ≤ c.currentRow && c.currentRow < c.numRows

/-- The current row's value in a column, if there is one and it is not null. -/
def liveCell (idx : ℤ) : Option Cell :=
  match c.result with
  | none => none
  | some r =>
    if idx < 0 ∨ c.numCols ≤ idx then none
    else if !c.onRow then none
    else
      (r.value c.currentRow.toNat idx.toNat).map
        (⟨r.fname idx.toNat, r.ftype idx.toNat, ·⟩)

/-- `sqlite3_column_type`. -/
def columnType (idx : ℤ) (env : Lookup) : SqliteType × Cursor :=
  let c := c.ensurePgResultForMetadata env
  let type : SqliteType :=
    match c.result with
    | none => .null
    | some r =>
      if idx < 0 ∨ c.numCols ≤ idx then .null
      else if c.metadataOnly then sqliteTypeForOid (r.ftype idx.toNat)
      else if !c.onRow then .null
      else if (r.value c.currentRow.toNat idx.toNat).isNone && !reader.nullTypeFromOid then .null
      else sqliteTypeForOid (r.ftype idx.toNat)
  (type, c)

/-- **A column's text, as computed from the current row.** -/
def liveText (idx : ℤ) : Bytes := (reader.textOutput (c.liveCell idx)).1

/-- `pin_text_to_statement`: a text in a buffer is copied to the statement. -/
def pinTextToStatement (idx : ℤ) (text : Bytes) (fromRing : Bool) : Cursor :=
  if !fromRing || idx < 0 then c
  else
    { c with
      capacity := max c.capacity (idx.toNat + 1)
      rowCache := c.rowCache.put c.currentRow (.text idx.toNat) text }

/-- **`sqlite3_column_text`.**  The check of the column's type before it asks for the columns
twice over. -/
def columnText (idx : ℤ) (env again : Lookup) : Bytes × Cursor :=
  let c := (c.ensurePgResultForMetadata env).ensurePgResultForMetadata again
  match if 0 ≤ idx ∧ idx < c.capacity then c.rowCache.find c.currentRow (.text idx.toNat)
    else none with
  | some text => (text, c)
  | none =>
    match reader.textOutput (c.liveCell idx) with
    | (text, fromRing) => (text, c.pinTextToStatement idx text fromRing)

/-- **A column's blob, as computed from the current row.** -/
def liveBlob (idx : ℤ) : Option Bytes := blobOutput (c.liveCell idx)

/-- `pg_decode_bytea_cached_impl`: what had to be decoded is kept. -/
def pgDecodeByteaCached (idx : ℕ) (source : Bytes) : Option Bytes × Cursor :=
  match c.decoded.find c.currentRow idx with
  | some b => (some b, c)
  | none =>
    match pgDecodeBytea source with
    | .hex b => (some b, { c with decoded := c.decoded.put c.currentRow idx b })
    | .raw b => (some b, { c with decoded := c.decoded.turn c.currentRow })
    | .failed => (none, { c with decoded := c.decoded.turn c.currentRow })

/-- `materialize_live_blob`. -/
def materializeLiveBlob (idx : ℕ) (source : Bytes) : Option Bytes × Cursor :=
  match c.rowCache.find c.currentRow (.blob idx) with
  | some b => (some b, c)
  | none =>
    if source = [] then (none, { c with rowCache := c.rowCache.turn c.currentRow })
    else (some source, { c with rowCache := c.rowCache.put c.currentRow (.blob idx) source })

/-- **`sqlite3_column_blob`.** -/
def columnBlob (idx : ℤ) : Option Bytes × Cursor :=
  match c.liveCell idx with
  | none => (none, c)
  | some cell =>
    if c.capacity ≤ idx.toNat then (none, c)
    else if cell.oid = byteaOid then c.pgDecodeByteaCached idx.toNat cell.source
    else c.materializeLiveBlob idx.toNat cell.source

/-- `sqlite3_column_bytes`. -/
def columnBytes (idx : ℤ) : ℕ × Cursor :=
  match c.liveCell idx with
  | none => (0, c)
  | some cell =>
    if cell.oid = byteaOid then
      match c.pgDecodeByteaCached idx.toNat cell.source with
      | (b, c) => ((b.getD []).length, c)
    else (cell.source.length, c)

/-! ### Moving on -/

/-- The row caches are emptied, `step_read_clear_row_caches`. -/
def clearRowCaches : Cursor := { c with rowCache := .empty (-1), decoded := .empty (-1) }

/-- `rust_stmt_clear_result`. -/
def clearResult : Cursor :=
  { c.clearRowCaches with
    result := none, currentRow := -1, numRows := 0, numCols := 0, metadataOnly := false,
    streaming := false, readDone := false }

/-- `sqlite3_reset`. -/
def reset : Cursor := { c.clearResult with params := c.params.reset }

/-- A result of which every row is here. -/
def takeRows (r : PgResult) : Cursor :=
  { c with
    result := some r, numRows := r.ntuples, numCols := r.nfields, currentRow := 0,
    capacity := max c.capacity r.nfields }

end Cursor

/-- What sending the query brings: all rows, the first of a stream, a stream of none, no result
at all of a stream, or a failure, before or after a stream was begun.  A connection that cannot
be made ready fails as one that may be tried again. -/
inductive Fetched where
  | eager (r : PgResult)
  | streamed (r : PgResult)
  | streamedNone
  | streamedNothing
  | failed (streamed : Bool) (kind : ErrorClass)

/-- The next of a stream. -/
inductive Streamed where
  | row (r : PgResult)
  | finished
  | broken

/-- **What one attempt of a step meets.** -/
structure StepEnv where
  /-- The read path is reached: there is a connection, and the shim is not out of the way. -/
  reached : Bool
  /-- What is answered if it is not. -/
  otherwise : Rc
  /-- The thread's connection-error mark is set already. -/
  marked : Bool
  /-- The connection is another than the one it streams from. -/
  crossed : Bool
  /-- The connection it streams from is closed. -/
  closed : Bool
  next : Streamed
  fetched : Fetched
  /-- What a statement that is not registered gets. -/
  ran : Option PgResult

/-- An attempt: the answer, the statement after it, and whether the connection-error mark was
set. -/
structure Attempt where
  rc : Rc
  cursor : Cursor
  connError : Bool

namespace Cursor

variable (c : Cursor)

/-- `rust_step_read_prepare_reexecution_state`: a stream of another connection is given up, a
result fetched for its columns is dropped. -/
def prepareReexecution (crossed : Bool) : Cursor :=
  let c := if c.streaming && crossed then c.clearResult else c
  if c.result.isSome && c.metadataOnly then
    { c with result := none, metadataOnly := false, currentRow := -1 }
  else c

/-- `streaming_next_impl`. -/
def streamingNext (env : StepEnv) : Attempt :=
  if env.closed then ⟨.done, { c with streaming := false, readDone := true }, false⟩
  else
    let c := { c.clearRowCaches with result := none }
    let ended := { c with streaming := false, readDone := true }
    match env.next with
    | .row r =>
      ⟨.row, { c with
        result := some r, currentRow := 0, numRows := 1, numCols := r.nfields,
        capacity := max c.capacity r.nfields }, false⟩
    | .finished => ⟨.done, ended, false⟩
    | .broken => ⟨.error, ended, false⟩

/-- `eager_next_impl`. -/
def eagerNext : Attempt :=
  let c := { c with currentRow := c.currentRow + 1 }
  if (c.numRows : ℤ) ≤ c.currentRow then ⟨.done, { c with result := none, readDone := true }, false⟩
  else ⟨.row, c, false⟩

/-- `rust_step_read_first_execute`, with `eager_fetch_result` and `streaming_fetch_result`. -/
def firstExecute : Fetched → Attempt
  | .eager r =>
    let c := { c.takeRows r with metadataOnly := false }
    if 0 < r.ntuples then ⟨.row, c, false⟩ else ⟨.done, { c with readDone := true }, false⟩
  | .streamed r =>
    ⟨.row, { c with
      result := some r, currentRow := 0, numRows := 1, numCols := r.nfields, streaming := true,
      metadataOnly := false, capacity := max c.capacity r.nfields }, false⟩
  | .streamedNone =>
    ⟨.done, { c with numCols := 0, numRows := 0, metadataOnly := false, readDone := true }, false⟩
  | .streamedNothing => ⟨.done, { c with metadataOnly := false, readDone := true }, false⟩
  | .failed streamed kind =>
    let c := { c with result := none, metadataOnly := c.metadataOnly && !streamed }
    match kind with
    | .fail => ⟨.error, { c with readDone := true }, false⟩
    | .stalePlan | .retry => ⟨.error, c, true⟩

/-- The read branch of one attempt. -/
def readAttempt (env : StepEnv) : Attempt :=
  if c.readDone then ⟨.done, c, false⟩
  else
    let c := c.prepareReexecution env.crossed
    if c.streaming then c.streamingNext env
    else if c.result.isSome then c.eagerNext
    else c.firstExecute env.fetched

/-- A statement of the thread's cache: `rust_step_cached_read_finalize_advance` moves on in the
result, and where there is none `rust_step_cached_read_execute` runs the query. -/
def cachedAttempt (env : StepEnv) : Attempt :=
  if c.result.isSome then
    let c := { c with currentRow := c.currentRow + 1 }
    if (c.numRows : ℤ) ≤ c.currentRow then ⟨.done, { c with result := none }, false⟩
    else ⟨.row, c, false⟩
  else
    match env.ran with
    | none => ⟨.error, c, false⟩
    | some r => ⟨if 0 < r.ntuples then .row else .done, c.takeRows r, false⟩

/-- One attempt. -/
def attempt (env : StepEnv) : Attempt :=
  if !env.reached then ⟨env.otherwise, c, false⟩
  else if c.isCached then c.cachedAttempt env
  else c.readAttempt env

/-- **`sqlite3_step`** with so many retries left; `envs` has what each attempt meets.  Only a
registered statement is tried again. -/
def step (c : Cursor) : ℕ → (ℕ → StepEnv) → Rc × Cursor
  | 0, envs => ((c.attempt (envs 0)).rc, (c.attempt (envs 0)).cursor)
  | retries + 1, envs =>
    let a := c.attempt (envs 0)
    if a.rc.isError && ((envs 0).marked || a.connError) && !c.isCached then
      step a.cursor.clearResult retries fun i => envs (i + 1)
    else (a.rc, a.cursor)

end Cursor

/-- **A call on a read statement.**  A bind fills the slot of a parameter. -/
inductive Call where
  | type (idx : ℤ) (env : Lookup)
  | text (idx : ℤ) (env again : Lookup)
  | blob (idx : ℤ)
  | bytes (idx : ℤ)
  | bind (env : BindEnv) (idx : ℤ) (slot : Slot)
  | clearBindings
  | step (retries : ℕ) (envs : ℕ → StepEnv)
  | reset

/-- The statement after a call. -/
def Cursor.next (reader : Reader) (c : Cursor) : Call → Cursor
  | .type idx env => (c.columnType reader idx env).2
  | .text idx env again => (c.columnText reader idx env again).2
  | .blob idx => (c.columnBlob idx).2
  | .bytes idx => (c.columnBytes idx).2
  | .bind env idx slot => { c with params := c.params.store env idx slot }
  | .clearBindings => { c with params := c.params.clearBindings }
  | .step retries envs => (c.step retries envs).2
  | .reset => c.reset

end PlexPostgres.Column
