import PlexPostgres.Column.Values

/-!
# A row from the result, and from a cached copy of it

A statement's rows come from the result itself or from a copy of it in the query cache, and each
accessor has a branch for either.  The branches were written separately: a `bytea` is decoded in
one only, an empty value has no blob in one only, one reads a number from the first 127 bytes and
the other from all of them, and `sqlite3_column_int` hides the type of a collection in one only.
-/

namespace PlexPostgres.Column

open PlexPostgres.Bind (Bytes ascii bytesToPgHex)
open PlexPostgres.Cache (CachedRow CachedResult Content Given StoreEnv i32)

/-! ### The copy -/

/-- A text in UTF-8. -/
def utf8 (t : Text) : Bytes := (String.ofList t).toByteArray.data.toList

/-- `CStr::to_str`. -/
def ofUtf8 (b : Bytes) : Option Text := (String.fromUTF8? ⟨b.toArray⟩).map String.toList

theorem ofUtf8_utf8 (t : Text) : ofUtf8 (utf8 t) = some t := by
  rw [ofUtf8, utf8, Array.toArray_toList, String.fromUTF8?, dif_pos (String.ofList t).isValidUTF8,
    Option.map_some]
  exact congrArg some (String.toList_ofList (l := t))

/-- `rust_query_cache_store_from_pgresult`: the arrays of a result. -/
def PgResult.given (r : PgResult) (cacheKey : UInt64) : Given where
  cacheKey := cacheKey
  numRows := r.ntuples
  numCols := r.nfields
  colTypes := r.ftype
  colNames c := some (utf8 (r.fname c))
  values flat := r.value (flat / r.nfields) (flat % r.nfields)
  lengths flat := ((r.value (flat / r.nfields) (flat % r.nfields)).getD []).length
  isNull flat := (r.value (flat / r.nfields) (flat % r.nfields)).isNone

/-- A row of the copy. -/
def PgResult.copyRow (r : PgResult) (row : ℕ) : CachedRow where
  values := (List.range r.nfields).map (r.value row)
  lengths := (List.range r.nfields).map fun col => ((r.value row col).getD []).length
  isNull := (List.range r.nfields).map fun col => (r.value row col).isNone

/-- **The cached copy of a result.** -/
def PgResult.copy (r : PgResult) : Content where
  numRows := r.ntuples
  numCols := r.nfields
  colTypes := some ((List.range r.nfields).map r.ftype)
  colNames := some ((List.range r.nfields).map fun col => some (utf8 (r.fname col)))
  rows := some ((List.range r.ntuples).map r.copyRow)

section Copy

variable {r : PgResult} {cacheKey : UInt64} {env : StoreEnv}

theorem given_flat (row : ℕ) {col : ℕ} (inside : col < r.nfields) :
    (row * r.nfields + col) / r.nfields = row ∧ (row * r.nfields + col) % r.nfields = col := by
  have positive : 0 < r.nfields := by omega
  rw [Nat.mul_comm]
  exact ⟨by rw [Nat.mul_add_div positive, Nat.div_eq_of_lt inside, Nat.add_zero],
    by rw [Nat.mul_add_mod, Nat.mod_eq_of_lt inside]⟩

variable {total after : ℕ}

theorem copyCells_given {row : ℕ} {cols : List ℕ} (inside : ∀ col ∈ cols, col < r.nfields)
    {cells : List (Option Bytes × ℕ × Bool)}
    (copied : (r.given cacheKey).copyCells env (row * r.nfields) cols total = some (cells, after)) :
    cells = cols.map fun col =>
      (r.value row col, ((r.value row col).getD []).length, (r.value row col).isNone) := by
  induction cols generalizing total cells with
  | nil =>
    cases copied
    rfl
  | cons col cols ih =>
    have inside' := fun col' mem => inside col' (List.mem_cons_of_mem col mem)
    obtain ⟨atRow, atCol⟩ := given_flat row (inside col List.mem_cons_self)
    have isNull : (r.given cacheKey).isNull (row * r.nfields + col) = (r.value row col).isNone := by
      simp only [PgResult.given, atRow, atCol]
    have lengths : (r.given cacheKey).lengths (row * r.nfields + col) =
        ((r.value row col).getD []).length := by
      simp only [PgResult.given, atRow, atCol]
    have values : (r.given cacheKey).values (row * r.nfields + col) = r.value row col := by
      simp only [PgResult.given, atRow, atCol]
    rw [Given.copyCells, isNull] at copied
    cases found : r.value row col with
    | none =>
      simp only [found, Option.isNone_none, if_true, Option.bind_eq_bind,
        Option.bind_eq_some_iff] at copied
      obtain ⟨⟨rest, _⟩, copiedRest, same⟩ := copied
      cases same
      rw [List.map_cons, found, ih inside' copiedRest]
      rfl
    | some b =>
      simp only [found, Option.isNone_some, Bool.false_eq_true, if_false, Given.copiedValue,
        lengths, values, Option.getD_some, List.take_length] at copied
      split at copied
      · cases copied
      split at copied
      · cases copied
      obtain ⟨⟨rest, _⟩, copiedRest, same⟩ := Option.bind_eq_some_iff.1 copied
      cases same
      rw [List.map_cons, found, ih inside' copiedRest]
      rfl

theorem copyRow_given {row : ℕ} {crow : CachedRow}
    (copied : (r.given cacheKey).copyRow env row total = some (crow, after)) :
    crow = r.copyRow row := by
  unfold Given.copyRow at copied
  split at copied
  · cases copied
  obtain ⟨⟨cells, _⟩, copiedCells, same⟩ := Option.bind_eq_some_iff.1 copied
  cases same
  have inside : ∀ col ∈ (r.given cacheKey).columns, col < r.nfields := fun col mem =>
    List.mem_range.1 mem
  rw [copyCells_given inside copiedCells]
  simp only [List.map_map]
  rfl

theorem copyRows_given {rows : List ℕ} {crows : List CachedRow}
    (copied : (r.given cacheKey).copyRows env rows total = .ok crows) :
    crows = rows.map r.copyRow := by
  induction rows generalizing total crows with
  | nil =>
    cases copied
    rfl
  | cons row rows ih =>
    rw [Given.copyRows] at copied
    cases copiedRow : (r.given cacheKey).copyRow env row total with
    | none => simp [copiedRow] at copied
    | some done =>
      obtain ⟨crow, after⟩ := done
      simp only [copiedRow] at copied
      cases copiedRest : (r.given cacheKey).copyRows env rows after with
      | error failed => simp [copiedRest, Bind.bind, Except.bind] at copied
      | ok rest =>
        simp only [copiedRest, Bind.bind, Except.bind, pure, Except.pure] at copied
        cases copied
        rw [List.map_cons, copyRow_given copiedRow, ih copiedRest]

/-- **What a store leaves is the copy**, if the names could be copied too. -/
theorem fill_eq_copy {e : CachedResult} (named : ∀ col, env.nameAlloc col = true)
    (filled : ((r.given cacheKey).fill env e).1 = true) :
    ((r.given cacheKey).fill env e).2.content = r.copy := by
  unfold Given.fill at filled ⊢
  by_cases types : env.typesAlloc = true
  · by_cases names : env.namesAlloc = true
    · by_cases rowsAlloc : env.rowsAlloc = true
      · simp only [types, names, rowsAlloc, not_true_eq_false, if_false] at filled ⊢
        split at filled
        · cases filled
        next rows copied =>
          have copiedRows := copyRows_given copied
          have copiedNames : (r.given cacheKey).copiedNames env =
              (List.range r.nfields).map fun col => some (utf8 (r.fname col)) := by
            simp only [Given.copiedNames, named, if_true]
            rfl
          simp only [copiedRows, copiedNames]
          rfl
      · simp [types, names, rowsAlloc] at filled
    · simp [types, names] at filled
  · simp [types] at filled

end Copy

/-! ### The two branches of each accessor -/

/-- **What the accessors answer for one column.** -/
structure Answers where
  type : SqliteType
  int : ℤ
  int64 : ℤ
  text : Bytes
  blob : Option Bytes
  bytes : ℕ

/-- What the accessors find in a copy: the column's name and type, the mark of a null, the bytes
and their number. -/
structure CachedCell where
  name : Text
  oid : ℕ
  isNull : Bool
  value : Option Bytes
  length : ℕ

/-- `load_cached_type_state`, `load_cached_scalar_state`, `load_cached_text_state` and the like.
A name or a type that was not copied reads as none. -/
def loadCached (c : Content) (row idx : ℤ) : Option CachedCell :=
  if idx < 0 ∨ c.numCols ≤ idx ∨ row < 0 ∨ c.numRows ≤ row then none
  else do
    let rows ← c.rows
    let crow ← rows[row.toNat]?
    let isNull ← crow.isNull[idx.toNat]?
    return {
      name := ((c.colNames.bind (·[idx.toNat]?)).join.bind ofUtf8).getD []
      oid := (c.colTypes.bind (·[idx.toNat]?)).getD 0
      isNull := isNull
      value := crow.values[idx.toNat]?.join
      length := crow.lengths[idx.toNat]?.getD 0 }

/-- The value of a cell that is not null, with its name and type. -/
def CachedCell.cell (cell : CachedCell) : Option Cell :=
  if cell.isNull then none else cell.value.map (⟨cell.name, cell.oid, ·⟩)

/-- What C takes for a text ends at a zero. -/
def cString (b : Bytes) : Bytes := b.takeWhile (· ≠ 0)

variable (reader : Reader) (sql : Option Text)

/-- **The answers from a copy**, for the statement that stands on a row of it. -/
def cachedAnswers (c : Content) (row idx : ℤ) : Answers :=
  let loaded := loadCached c row idx
  let cell := loaded.bind CachedCell.cell
  { -- `resolve_cached_column_type`
    type := match loaded with
      | none => .null
      | some loaded =>
        if loaded.isNull && !reader.nullTypeFromOid then .null else sqliteTypeForOid loaded.oid
    -- the branches of `column_int_impl` and `column_int64_impl`: the first does not mask
    int := (cell.map fun cell => pgTextToInt (cString cell.source)).getD 0
    int64 := (cell.map fun cell =>
      maskCollectionMetadataType sql cell.name (pgTextToInt64 (cString cell.source))).getD 0
    -- `write_cached_text_output`
    text := (reader.textOutput (cell.map fun cell =>
      { cell with source := cString cell.source })).1
    -- `load_cached_blob_ptr` and `load_cached_bytes_len`
    blob := cell.map Cell.source
    bytes := match loaded with
      | none => 0
      | some loaded => if loaded.isNull then 0 else loaded.length }

/-- The bytes that `load_live_scalar_state` copies of a value to its buffer of 128. -/
def scalarBufferSize : ℕ := 128

namespace Cursor

variable (c : Cursor)

/-- The value that `load_live_scalar_state` has read. -/
def liveScalar (idx : ℤ) (env : Lookup) : Option Cell :=
  ((c.ensurePgResultForMetadata env).liveCell idx).map fun cell =>
    { cell with source := cString (cell.source.take (scalarBufferSize - 1)) }

/-- `sqlite3_column_int`. -/
def columnInt (idx : ℤ) (env : Lookup) : ℤ :=
  ((c.liveScalar idx env).map fun cell =>
    maskCollectionMetadataType sql cell.name (pgTextToInt cell.source)).getD 0

/-- `sqlite3_column_int64`. -/
def columnInt64 (idx : ℤ) (env : Lookup) : ℤ :=
  ((c.liveScalar idx env).map fun cell =>
    maskCollectionMetadataType sql cell.name (pgTextToInt64 cell.source)).getD 0

/-- **The answers from the result.** -/
def answers (idx : ℤ) (env : Lookup) : Answers where
  type := (c.columnType reader idx env).1
  int := c.columnInt sql idx env
  int64 := c.columnInt64 sql idx env
  text := (c.columnText reader idx env env).1
  blob := (c.columnBlob idx).1
  bytes := (c.columnBytes idx).1

/-- The statement with its rows, standing on one. -/
def standing (r : PgResult) (row : ℤ) : Cursor :=
  { c.clearResult.takeRows r with currentRow := row }

end Cursor

/-! ### Numbers from the first bytes -/

theorem le_foldl_digits {digits : Text} (all : ∀ c ∈ digits, c.isDigit = true) {n : ℤ}
    (nonneg : 0 ≤ n) :
    n ≤ digits.foldl (fun (n : ℤ) (c : Char) => 10 * n + (c.toNat - 48)) n := by
  induction digits generalizing n with
  | nil => exact le_rfl
  | cons c digits ih =>
    have digit : 48 ≤ c.toNat := by
      have low := (Bool.and_eq_true_iff.1 (all c List.mem_cons_self)).1
      exact of_decide_eq_true low
    have further : n ≤ 10 * n + ((c.toNat : ℤ) - 48) := by omega
    exact further.trans (ih (fun d mem => all d (List.mem_cons_of_mem c mem)) (by omega))

theorem leadingNumber_nonneg (t : Text) : 0 ≤ leadingNumber t :=
  le_foldl_digits (fun _ mem => List.mem_takeWhile_imp mem) le_rfl

/-- More digits never make a number smaller. -/
theorem leadingNumber_le_append (t more : Text) : leadingNumber t ≤ leadingNumber (t ++ more) := by
  unfold leadingNumber
  rw [List.takeWhile_append]
  split
  next whole =>
    rw [List.foldl_append, (List.takeWhile_prefix Char.isDigit).eq_of_length whole]
    refine le_foldl_digits (fun _ mem => List.mem_takeWhile_imp mem) ?_
    have nonneg := leadingNumber_nonneg t
    rwa [leadingNumber, (List.takeWhile_prefix Char.isDigit).eq_of_length whole] at nonneg
  · exact le_rfl

/-- A text that begins with a positive number is one. -/
theorem atoll_pos_append {t : Text} (positive : 0 < atoll t) (more : Text) :
    0 < atoll (t ++ more) := by
  unfold atoll at positive ⊢
  rw [List.dropWhile_append]
  cases rest : t.dropWhile isCSpace with
  | nil => simp [rest, leadingNumber] at positive
  | cons c rest' =>
    have grows := leadingNumber_le_append rest' more
    have nonneg := leadingNumber_nonneg rest'
    simp only [rest, List.isEmpty_cons, Bool.false_eq_true, if_false, List.cons_append,
      lt_max_iff, lt_min_iff] at positive ⊢
    replace positive := (positive.resolve_left (by decide)).1
    refine Or.inr ⟨?_, by decide⟩
    by_cases minus : c = '-'
    · subst minus
      exact absurd positive (not_lt_of_ge (neg_nonpos.2 nonneg))
    by_cases plus : c = '+'
    · subst plus
      exact positive.trans_le grows
    · have grows := leadingNumber_le_append (c :: rest') more
      simp only [List.cons_append] at grows
      simp [minus, plus] at positive ⊢
      omega

/-- The number at the front of a value is not lost behind it. -/
theorem pgTextToInt64_ne_zero {b : Bytes} {k : ℕ} (front : pgTextToInt64 (b.take k) = 18) :
    pgTextToInt64 b ≠ 0 := by
  have split : chars b = chars (b.take k) ++ chars (b.drop k) := by
    rw [chars, chars, chars, ← List.map_append, List.take_append_drop]
  unfold pgTextToInt64 PlexPostgres.pgTextToInt64 at front ⊢
  split at front
  · cases front
  split at front
  · cases front
  have positive : 0 < atoll (chars b) := by
    rw [split]
    exact atoll_pos_append (by omega) _
  split
  · decide
  split
  next single =>
    rw [single] at positive
    exact absurd positive (by decide)
  · omega

/-! ### The condition -/

/-- **A cell that both branches read alike**: no `bytea` in PostgreSQL's hexadecimals, nothing
empty but a `bytea`, a number that ends within the first 127 bytes, and no collection's type
where that is hidden. -/
structure Cell.ReadAlike (sql : Option Text) (cell : Cell) : Prop where
  notHex : cell.oid = byteaOid → ¬ [92, 120] <+: cell.source
  notEmpty : cell.oid ≠ byteaOid → cell.source ≠ []
  number : pgTextToInt64 (cell.source.take (scalarBufferSize - 1)) = pgTextToInt64 cell.source
  shown : hidesCollections sql cell.name = true → pgTextToInt cell.source ≠ 18

theorem length_hexPairs {hex b : Bytes} (decoded : hexPairs hex = some b) :
    hex.length = 2 * b.length := by
  fun_induction hexPairs hex generalizing b with
  | case1 =>
    cases decoded
    rfl
  | case2 => cases decoded
  | case3 hi lo rest ih =>
    simp only [Option.bind_eq_bind, Option.bind_eq_some_iff] at decoded
    obtain ⟨_, _, _, _, rest', decodedRest, same⟩ := decoded
    cases same
    simp only [List.length_cons, ih decodedRest]
    omega

/-- Decoding makes a value shorter. -/
theorem length_decoded_lt {source : Bytes} (hex : [92, 120] <+: source) :
    ((pgDecodeBytea source).bytes.getD []).length < source.length := by
  obtain ⟨digits, rfl⟩ := hex
  simp only [List.cons_append, List.nil_append, pgDecodeBytea, decodeHexBytes]
  by_cases none : digits = []
  · simp [none, Decoded.bytes]
  · rw [if_neg none]
    cases decoded : hexPairs digits with
    | none => simp [Decoded.bytes]
    | some b =>
      have twice := length_hexPairs decoded
      simp only [Decoded.bytes, Option.getD_some, List.length_cons]
      omega

theorem decoded_of_not_hex {source : Bytes} (raw : ¬ [92, 120] <+: source) :
    (pgDecodeBytea source).bytes = some source := by
  unfold pgDecodeBytea
  split
  · exact absurd ⟨_, rfl⟩ raw
  · rfl

/-- The length that is answered for a value. -/
def byteCount (cell : Cell) : ℕ :=
  if cell.oid = byteaOid then ((pgDecodeBytea cell.source).bytes.getD []).length
  else cell.source.length

theorem blob_and_bytes_iff (cell : Cell) :
    (some cell.source = blobOutput (some cell) ∧ cell.source.length = byteCount cell) ↔
      (cell.oid = byteaOid → ¬ [92, 120] <+: cell.source) ∧
        (cell.oid ≠ byteaOid → cell.source ≠ []) := by
  unfold blobOutput byteCount
  by_cases bytea : cell.oid = byteaOid
  · simp only [bytea, if_true]
    constructor
    · intro same
      exact ⟨fun _ hex => (length_decoded_lt hex).ne' same.2, absurd rfl⟩
    · intro alike
      rw [decoded_of_not_hex (alike.1 trivial)]
      exact ⟨rfl, rfl⟩
  · by_cases empty : cell.source = []
    · simp [bytea, empty]
    · simp [bytea, empty]

/-- Where the numbers agree, by the two numbers that are read. -/
theorem numbers_iff (hidden : Prop) [Decidable hidden] {front whole : ℤ}
    (kept : front = 18 → whole ≠ 0) :
    (i32 whole = (if i32 front = 18 ∧ hidden then 0 else i32 front) ∧
      (if whole = 18 ∧ hidden then 0 else whole) = if front = 18 ∧ hidden then 0 else front) ↔
      front = whole ∧ (hidden → i32 whole ≠ 18) := by
  have eighteen : i32 18 = 18 := by decide
  have zero : i32 0 = 0 := by decide
  by_cases hides : hidden
  · simp only [hides, and_true, true_imp_iff]
    constructor
    · rintro ⟨ints, int64s⟩
      by_cases masked : i32 front = 18
      · rw [if_pos masked] at ints
        have notEighteen : whole ≠ 18 := by
          intro same
          rw [same, eighteen] at ints
          cases ints
        rw [if_neg notEighteen] at int64s
        split at int64s
        next same => exact absurd int64s (kept same)
        · rw [int64s, masked] at ints
          cases ints
      · have notEighteen : front ≠ 18 := fun same => masked (same ▸ eighteen)
        rw [if_neg masked] at ints
        rw [if_neg notEighteen] at int64s
        split at int64s
        next same =>
          rw [← int64s, same, eighteen, zero] at ints
          cases ints
        · exact ⟨int64s.symm, fun same => masked (ints ▸ same)⟩
    · rintro ⟨rfl, shown⟩
      exact ⟨(if_neg shown).symm, rfl⟩
  · simp only [hides, and_false, if_false, false_imp_iff, and_true]
    exact ⟨fun same => same.2.symm, fun same => ⟨congrArg i32 same.symm, same.symm⟩⟩

/-! ### The answers by the cell -/

/-- The type of a column of the current row. -/
def typeAt (r : PgResult) (row idx : ℤ) : SqliteType :=
  if 0 ≤ idx ∧ idx < r.nfields ∧ 0 ≤ row ∧ row < r.ntuples then
    if (r.value row.toNat idx.toNat).isNone && !reader.nullTypeFromOid then .null
    else sqliteTypeForOid (r.ftype idx.toNat)
  else .null

theorem loadCached_copy (r : PgResult) (row idx : ℤ) :
    loadCached r.copy row idx =
      if 0 ≤ idx ∧ idx < r.nfields ∧ 0 ≤ row ∧ row < r.ntuples then
        let value := r.value row.toNat idx.toNat
        some ⟨r.fname idx.toNat, r.ftype idx.toNat, value.isNone, value, (value.getD []).length⟩
      else none := by
  unfold loadCached
  by_cases inside : 0 ≤ idx ∧ idx < r.nfields ∧ 0 ≤ row ∧ row < r.ntuples
  · have outside : ¬ (idx < 0 ∨ r.copy.numCols ≤ idx ∨ row < 0 ∨ r.copy.numRows ≤ row) := by
      simp only [PgResult.copy]
      omega
    have col : idx.toNat < r.nfields := by omega
    have row' : row.toNat < r.ntuples := by omega
    rw [if_pos inside, if_neg outside]
    simp [PgResult.copy, PgResult.copyRow, col, row', ofUtf8_utf8]
  · have outside : idx < 0 ∨ r.copy.numCols ≤ idx ∨ row < 0 ∨ r.copy.numRows ≤ row := by
      simp only [PgResult.copy]
      omega
    rw [if_neg inside, if_pos outside]

theorem cString_of_noNul {b : Bytes} (noNul : 0 ∉ b) : cString b = b := by
  refine List.takeWhile_eq_self_iff.2 fun x mem => decide_eq_true ?_
  rintro rfl
  exact noNul mem

/-- **The answers from the copy.** -/
theorem cachedAnswers_copy (r : TextResult) (row idx : ℤ) :
    cachedAnswers reader sql r.copy row idx =
      { type := typeAt reader r.toPgResult row idx
        int := ((r.cell row idx).map fun cell => pgTextToInt cell.source).getD 0
        int64 := ((r.cell row idx).map fun cell =>
          maskCollectionMetadataType sql cell.name (pgTextToInt64 cell.source)).getD 0
        text := (reader.textOutput (r.cell row idx)).1
        blob := (r.cell row idx).map Cell.source
        bytes := ((r.cell row idx).map fun cell => cell.source.length).getD 0 } := by
  have noNul : ∀ cell, r.cell row idx = some cell → cString cell.source = cell.source :=
    fun cell there => cString_of_noNul (r.asSent there).noNul
  unfold cachedAnswers typeAt PgResult.cell at *
  rw [loadCached_copy]
  by_cases inside : 0 ≤ idx ∧ idx < r.nfields ∧ 0 ≤ row ∧ row < r.ntuples
  · simp only [if_pos inside] at noNul ⊢
    cases found : r.value row.toNat idx.toNat with
    | none => simp [CachedCell.cell]
    | some b =>
      have same : cString b = b := noNul _ (by rw [found]; rfl)
      simp [CachedCell.cell, same]
  · simp [if_neg inside]

section Standing

variable (c : Cursor) (r : PgResult) (row idx : ℤ) (env : Lookup)

/-- A statement that stands on a row has nothing to ask for. -/
theorem ensure_standing : (c.standing r row).ensurePgResultForMetadata env = c.standing r row :=
  rfl

theorem liveCell_standing : (c.standing r row).liveCell idx = r.cell row idx := by
  change (if idx < 0 ∨ (r.nfields : ℤ) ≤ idx then none
    else if (!(decide (0 ≤ row) && decide (row < r.ntuples))) = true then none
    else (r.value row.toNat idx.toNat).map fun source =>
      Cell.mk (r.fname idx.toNat) (r.ftype idx.toNat) source) = _
  unfold PgResult.cell
  grind

theorem columnType_standing :
    ((c.standing r row).columnType reader idx env).1 = typeAt reader r row idx := by
  change (if idx < 0 ∨ (r.nfields : ℤ) ≤ idx then SqliteType.null
    else if (!(decide (0 ≤ row) && decide (row < r.ntuples))) = true then .null
    else if ((r.value row.toNat idx.toNat).isNone && !reader.nullTypeFromOid) = true then .null
    else sqliteTypeForOid (r.ftype idx.toNat)) = _
  unfold typeAt
  grind

/-- Nothing is kept of the row. -/
theorem find_standing (slot : RowSlot) :
    (c.standing r row).rowCache.find (c.standing r row).currentRow slot = none := by
  change (if (-1 : ℤ) = row then none else none) = none
  exact ite_self none

theorem columnText_standing : ((c.standing r row).columnText reader idx env env).1 =
    (reader.textOutput (r.cell row idx)).1 := by
  unfold Cursor.columnText
  simp only [ensure_standing, find_standing, liveCell_standing, ite_self]

theorem pgDecodeByteaCached_standing (col : ℕ) (source : Bytes) :
    ((c.standing r row).pgDecodeByteaCached col source).1 = (pgDecodeBytea source).bytes := by
  have nothing : (c.standing r row).decoded.find (c.standing r row).currentRow col = none := by
    change (if (-1 : ℤ) = row then none else none) = none
    exact ite_self none
  unfold Cursor.pgDecodeByteaCached
  simp only [nothing]
  cases pgDecodeBytea source <;> rfl

theorem columnBlob_standing :
    ((c.standing r row).columnBlob idx).1 = blobOutput (r.cell row idx) := by
  unfold Cursor.columnBlob
  rw [liveCell_standing]
  cases there : r.cell row idx with
  | none => rfl
  | some cell =>
    have room : ¬ (c.standing r row).capacity ≤ idx.toNat := by
      unfold PgResult.cell at there
      split at there
      next inside =>
        change ¬ max c.capacity r.nfields ≤ idx.toNat
        omega
      · cases there
    simp only [if_neg room, blobOutput]
    split
    · rw [pgDecodeByteaCached_standing]
    · unfold Cursor.materializeLiveBlob
      simp only [find_standing]
      split <;> rfl

theorem columnBytes_standing :
    ((c.standing r row).columnBytes idx).1 = ((r.cell row idx).map byteCount).getD 0 := by
  unfold Cursor.columnBytes
  rw [liveCell_standing]
  cases r.cell row idx with
  | none => rfl
  | some cell =>
    simp only [Option.map_some, Option.getD_some, byteCount]
    split
    · rw [← pgDecodeByteaCached_standing c r row idx.toNat]
    · rfl

end Standing

/-- **The answers from the result.** -/
theorem answers_standing (c : Cursor) (r : TextResult) (row idx : ℤ) (env : Lookup) :
    (c.standing r.toPgResult row).answers reader sql idx env =
      { type := typeAt reader r.toPgResult row idx
        int := ((r.cell row idx).map fun cell => maskCollectionMetadataType sql cell.name
          (pgTextToInt (cell.source.take (scalarBufferSize - 1)))).getD 0
        int64 := ((r.cell row idx).map fun cell => maskCollectionMetadataType sql cell.name
          (pgTextToInt64 (cell.source.take (scalarBufferSize - 1)))).getD 0
        text := (reader.textOutput (r.cell row idx)).1
        blob := blobOutput (r.cell row idx)
        bytes := ((r.cell row idx).map byteCount).getD 0 } := by
  have noNul : ∀ cell, r.cell row idx = some cell →
      cString (cell.source.take (scalarBufferSize - 1)) =
        cell.source.take (scalarBufferSize - 1) := fun cell there =>
    cString_of_noNul fun mem => (r.asSent there).noNul (List.mem_of_mem_take mem)
  have scalar : (c.standing r.toPgResult row).liveScalar idx env = (r.cell row idx).map fun cell =>
      { cell with source := cell.source.take (scalarBufferSize - 1) } := by
    rw [Cursor.liveScalar, ensure_standing, liveCell_standing]
    exact Option.map_congr fun cell there => by rw [noNul cell there]
  unfold Cursor.answers Cursor.columnInt Cursor.columnInt64
  rw [scalar, columnType_standing, columnText_standing, columnBlob_standing,
    columnBytes_standing]
  simp only [Option.map_map]
  rfl

/-- **A cell is answered for alike from the copy and from the result** just if both branches read
it alike. -/
theorem answers_alike_iff (c : Cursor) (r : TextResult) (row idx : ℤ) (env : Lookup) :
    cachedAnswers reader sql r.copy row idx =
        (c.standing r.toPgResult row).answers reader sql idx env ↔
      ∀ cell ∈ r.cell row idx, cell.ReadAlike sql := by
  rw [cachedAnswers_copy, answers_standing]
  cases there : r.cell row idx with
  | none => simp [blobOutput]
  | some cell =>
    have numbers := numbers_iff (hidesCollections sql cell.name = true)
      (pgTextToInt64_ne_zero (b := cell.source) (k := scalarBufferSize - 1))
    have blobs := blob_and_bytes_iff cell
    simp only [Answers.mk.injEq, Option.map_some, Option.getD_some, true_and,
      maskCollectionMetadataType, pgTextToInt] at numbers ⊢
    constructor
    · rintro ⟨int, int64, blob, bytes⟩ _ ⟨⟩
      obtain ⟨number, shown⟩ := numbers.1 ⟨int, int64⟩
      obtain ⟨notHex, notEmpty⟩ := blobs.1 ⟨blob, bytes⟩
      exact ⟨notHex, notEmpty, number, shown⟩
    · intro alike
      have alike := alike cell rfl
      obtain ⟨int, int64⟩ := numbers.2 ⟨alike.number, alike.shown⟩
      obtain ⟨blob, bytes⟩ := blobs.2 ⟨alike.notHex, alike.notEmpty⟩
      exact ⟨int, int64, blob, bytes⟩

/-- A `bytea` of one byte. -/
def thumb : TextResult :=
  .single ⟨"thumb".toList, byteaOid, ascii ['\\', 'x', '4', '2']⟩
    ⟨by decide, fun _ integer => nomatch integer⟩

/-- Two items, one of them without a thumb. -/
def thumbs : PgResult where
  columns := [("id".toList, 20), ("thumb".toList, byteaOid)]
  rows := [[some (ascii ['7']), some (ascii ['\\', 'x', '4', '2'])], [some (ascii ['8']), none]]

/-- They are stored where memory lasts, in the place of another result. -/
theorem thumbs_stored :
    let env : StoreEnv := ⟨0, 0, true, true, fun _ => true, true, fun _ => true, fun _ => true,
      fun _ => []⟩
    let before := ((thumb.given 1).fill env .empty).2
    before.content ≠ .empty ∧ ((thumbs.given 2).fill env before).2.content = thumbs.copy :=
  ⟨by decide +kernel, fill_eq_copy (fun _ => rfl) (by decide +kernel)⟩

/-- The type of a collection. -/
def collectionType : TextResult :=
  .single ⟨"metadata_type".toList, 23, ascii "18".toList⟩
    ⟨by decide, fun bits integer => by cases integer; exact ⟨18, by decide⟩⟩

/-- The copy's blob is in hexadecimals, and its `sqlite3_column_int` does not hide a
collection. -/
theorem copy_undecoded_and_unmasked :
    let sql := some "SELECT metadata_type FROM taggings as related".toList
    let reader := Reader.ofSql sql false
    let stmt := Cursor.prepared false false (.unnamed [] [])
    let env : Lookup := ⟨false, none, none⟩
    (cachedAnswers reader sql thumb.copy 0 0).blob = some (ascii ['\\', 'x', '4', '2']) ∧
      ((stmt.standing thumb.toPgResult 0).answers reader sql 0 env).blob =
        some (ascii "B".toList) ∧
      (cachedAnswers reader sql collectionType.copy 0 0).int = 18 ∧
      ((stmt.standing collectionType.toPgResult 0).answers reader sql 0 env).int = 0 := by
  intro sql reader stmt env
  rw [cachedAnswers_copy, answers_standing, cachedAnswers_copy, answers_standing]
  decide +kernel

/-! ### Blobs there and back -/

/-- The hexadecimal digits of bytes. -/
def hexDigits (b : Bytes) : Bytes :=
  b.flatMap fun byte => ascii [(byte.toNat / 16).digitChar, (byte.toNat % 16).digitChar]

/-- The text that PostgreSQL prints for a `bytea`. -/
def byteaOut (b : Bytes) : Bytes := 92 :: 120 :: hexDigits b

/-- The `bytea` that PostgreSQL reads in an empty text, or in one of hexadecimal digits. -/
def byteaIn : Bytes → Option Bytes
  | [] => some []
  | 92 :: 120 :: hex => hexPairs hex
  | _ => none

/-- The bytes that are read back where these were bound. -/
def blobBack (b : Bytes) : Option Bytes := do
  (pgDecodeBytea (byteaOut (← byteaIn (bytesToPgHex b)))).bytes

theorem hexPairs_hexDigits (b : Bytes) : hexPairs (hexDigits b) = some b := by
  induction b with
  | nil => rfl
  | cons byte b ih =>
    have digit : ∀ d < 16, hexVal d.digitChar.toNat.toUInt8 = some d.toUInt8 := by decide
    have halves : ∀ n < 256, Nat.toUInt8 (n / 16) <<< 4 ||| Nat.toUInt8 (n % 16) =
        Nat.toUInt8 n := by decide +kernel
    have small := byte.toNat_lt
    have high := digit (byte.toNat / 16) (by omega)
    have low := digit (byte.toNat % 16) (by omega)
    have whole := halves byte.toNat small
    rw [show Nat.toUInt8 byte.toNat = byte from UInt8.ofNat_toNat] at whole
    change (do
      let hi ← hexVal (byte.toNat / 16).digitChar.toNat.toUInt8
      let lo ← hexVal (byte.toNat % 16).digitChar.toNat.toUInt8
      let rest ← hexPairs (hexDigits b)
      return ((hi <<< 4) ||| lo) :: rest) = _
    rw [high, low, ih]
    simp [whole]

/-- **A blob is read back as it was bound**, exactly if it is not empty. -/
theorem blobBack_iff (b : Bytes) : blobBack b = some b ↔ b ≠ [] := by
  cases b with
  | nil => decide
  | cons byte b =>
    have read : byteaIn (bytesToPgHex (byte :: b)) = some (byte :: b) :=
      hexPairs_hexDigits (byte :: b)
    have shown : decodeHexBytes (hexDigits (byte :: b)) = some (byte :: b) :=
      (if_neg (by simp [hexDigits, ascii])).trans (hexPairs_hexDigits _)
    simp [blobBack, read, byteaOut, pgDecodeBytea, shown, Decoded.bytes]

theorem emptyBlob_fails :
    byteaIn (bytesToPgHex []) = some [] ∧ pgDecodeBytea (byteaOut []) = .failed := by
  decide

end PlexPostgres.Column
