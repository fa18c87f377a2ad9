import PlexPostgres.Column.Cursor
import PlexPostgres.Library.Runs

/-!
# What a column answers is the current row's

The copies a statement keeps of its columns go by the number of the row.  Every result has a row
of number 0, so a copy is the current row's only if it was dropped, or its row passed, before
another result came to stand under the same number.

A reset drops the copies, and so does each row of a stream.  A step that runs the query does not.
It is left to find the caches without a row, and it need not: a statement that was just prepared,
or was described because its parameters are unbound, stands at row 0 without having one.  A text
asked for then is empty, is kept for row 0, and is what the first row answers.
-/

namespace PlexPostgres.Column

open PlexPostgres.Bind (Bytes Params ascii)

/-! ### The current row -/

namespace Cursor

variable (c d : Cursor)

theorem liveCell_of_no_result (none : c.result = none) : c.liveCell = fun _ => Option.none := by
  funext idx
  rw [liveCell, none]

theorem liveCell_of_no_row (off : c.onRow = false) : c.liveCell = fun _ => Option.none := by
  funext idx
  unfold liveCell
  cases c.result with
  | none => rfl
  | some r => simp [off]

theorem liveCell_of_no_columns (none : c.numCols = 0) : c.liveCell = fun _ => Option.none := by
  funext idx
  have outside : idx < 0 ∨ (c.numCols : ℤ) ≤ idx := by omega
  unfold liveCell
  cases c.result with
  | none => rfl
  | some r => exact if_pos outside

theorem onRow_of_neg (neg : c.currentRow < 0) : c.onRow = false := by
  have outside : ¬0 ≤ c.currentRow := by omega
  simp [onRow, outside]

theorem row_of_onRow (onRow : c.onRow = true) : 0 ≤ c.currentRow := by
  by_contra neg
  rw [c.onRow_of_neg (by omega)] at onRow
  cases onRow

variable {idx : ℤ} {cell : Cell}

/-- A value is a column's. -/
theorem idx_of_liveCell (live : c.liveCell idx = some cell) :
    0 ≤ idx ∧ idx < c.numCols := by
  by_contra outside
  have outside : idx < 0 ∨ (c.numCols : ℤ) ≤ idx := by omega
  unfold liveCell at live
  cases result : c.result with
  | none => simp [result] at live
  | some r => simp [result, outside] at live

/-- **The statement stands on a row** of a result that is not there for its columns alone: a
registered statement drops such a result, one of the thread's cache moves on in it. -/
def Stands : Prop :=
  c.result.isSome = true ∧ c.onRow = true ∧ (c.isCached = true ∨ c.metadataOnly = false)

instance : Decidable c.Stands := inferInstanceAs (Decidable (_ ∧ _ ∧ _))

/-- Neither cache has a row. -/
def NothingKept : Prop := c.rowCache.key < 0 ∧ c.decoded.key < 0

instance : Decidable c.NothingKept := inferInstanceAs (Decidable (_ ∧ _))

/-- **The condition on a step**: the statement moves on from a row, or is registered and at its
end or in mid-stream; else nothing is kept for a row. -/
def StepKept : Prop :=
  c.Stands ∨ (c.isCached = false ∧ (c.readDone = true ∨ c.streaming = true)) ∨ c.NothingKept

instance : Decidable c.StepKept := inferInstanceAs (Decidable (_ ∨ _ ∨ _))

/-- **The condition on a call.** -/
def Kept : Call → Prop
  | .step _ _ => c.StepKept
  | .type _ _ | .text _ _ _ | .blob _ | .bytes _ | .bind _ _ _ | .clearBindings | .reset => True

/-! ### The invariant -/

/-- What the caches of texts and blobs should hold, for a row with these values. -/
def rowView (reader : Reader) (cells : ℤ → Option Cell) : RowSlot → Option Bytes
  | .text col => some (reader.textOutput (cells col)).1
  | .blob col => blobOutput (cells col)

/-- What the cache of decoded values should hold. -/
def decodedView (cells : ℤ → Option Cell) (col : ℕ) : Option Bytes := blobOutput (cells col)

variable {ι : Type*}

/-- **A cache is the current row's.**  What it holds under the number of the current row is that
row's; with no row to its key, or no columns to the result, it holds what no row would give; and
its key is never ahead of the row the statement stands on. -/
structure Keeps (view : (ℤ → Option Cell) → ι → Option Bytes) (cache : Keyed ℤ ι Bytes) :
    Prop where
  sound : cache.Sound (view c.liveCell) c.currentRow
  blank : cache.key < 0 ∨ c.numCols = 0 → cache.Holds (view fun _ => none)
  behind : c.Stands → cache.key ≤ c.currentRow

variable {c d} {view : (ℤ → Option Cell) → ι → Option Bytes} {cache : Keyed ℤ ι Bytes}

namespace Keeps

/-- **A cache without a row is every row's.** -/
theorem of_neg (keeps : c.Keeps view cache) (neg : cache.key < 0) : d.Keeps view cache where
  sound := by
    intro same
    rw [d.liveCell_of_no_row (d.onRow_of_neg (by omega))]
    exact keeps.blank (.inl neg)
  blank := fun _ => keeps.blank (.inl neg)
  behind := by
    rintro ⟨-, onRow, -⟩
    exact neg.le.trans (d.row_of_onRow onRow)

theorem empty : d.Keeps view (.empty (-1)) where
  sound := (Keyed.holds_empty _ _).sound _
  blank := fun _ => Keyed.holds_empty _ _
  behind := by
    rintro ⟨-, onRow, -⟩
    exact (by decide : (-1 : ℤ) ≤ 0).trans (d.row_of_onRow onRow)

section

variable (keeps : c.Keeps view cache)
include keeps

/-- **A row further on has nothing kept.** -/
theorem ahead (columns : d.numCols = c.numCols)
    (lt : cache.key < d.currentRow) : d.Keeps view cache where
  sound same := absurd same lt.ne
  blank := by rw [columns]; exact keeps.blank
  behind := fun _ => lt.le

/-- The result is dropped, and the statement stands before its first row. -/
theorem dropped (columns : d.numCols = c.numCols)
    (none : d.result = none) (neg : d.currentRow < 0) : d.Keeps view cache where
  sound := by
    intro same
    rw [d.liveCell_of_no_result none]
    exact keeps.blank (.inl (by omega))
  blank := by rw [columns]; exact keeps.blank
  behind := by
    rintro ⟨some, -, -⟩
    rw [none] at some
    cases some

/-- The columns were not known, and a result without a current row brings them. -/
theorem described (columns : c.numCols = 0) (off : d.onRow = false) :
    d.Keeps view cache where
  sound := by
    rw [d.liveCell_of_no_row off]
    exact (keeps.blank (.inr columns)).sound _
  blank := fun _ => keeps.blank (.inr columns)
  behind := by
    rintro ⟨-, onRow, -⟩
    rw [off] at onRow
    cases onRow

/-- Nothing that concerns the current row changes. -/
theorem same (cells : d.liveCell = c.liveCell)
    (row : d.currentRow = c.currentRow) (columns : d.numCols = c.numCols)
    (stands : d.Stands → c.Stands) : d.Keeps view cache where
  sound := by rw [cells, row]; exact keeps.sound
  blank := by rw [columns]; exact keeps.blank
  behind := by rw [row]; exact keeps.behind ∘ stands

end

/-- A cache of the current row's values is the current row's. -/
theorem of_holds (holds : cache.Holds (view c.liveCell)) (key : cache.key = c.currentRow) :
    c.Keeps view cache where
  sound := holds.sound _
  blank := by
    rintro (neg | columns)
    · rwa [c.liveCell_of_no_row (c.onRow_of_neg (by omega))] at holds
    · rwa [c.liveCell_of_no_columns columns] at holds
  behind := fun _ => key.le

/-- **A value of the current row may be kept.** -/
theorem put [DecidableEq ι] (keeps : c.Keeps view cache) {i : ι} {a : Bytes}
    (right : view c.liveCell i = some a) : c.Keeps view (cache.put c.currentRow i a) :=
  of_holds (keeps.sound.put right) rfl

theorem turn (keeps : c.Keeps view cache) : c.Keeps view (cache.turn c.currentRow) :=
  of_holds keeps.sound.turn (Keyed.turn_key _ _)

end Keeps

/-- **Everything kept under the current row's number is the current row's.** -/
structure Current (reader : Reader) (c : Cursor) : Prop where
  room : c.numCols ≤ c.capacity
  row : c.Keeps (rowView reader) c.rowCache
  decoded : c.Keeps decodedView c.decoded

variable {reader : Reader}

namespace Current

/-- With nothing kept, the statement may come to stand on any row. -/
theorem of_nothingKept (current : c.Current reader) (nothing : c.NothingKept)
    (room : d.numCols ≤ d.capacity) (row : d.rowCache = c.rowCache)
    (decoded : d.decoded = c.decoded) : d.Current reader where
  room := room
  row := by rw [row]; exact current.row.of_neg nothing.1
  decoded := by rw [decoded]; exact current.decoded.of_neg nothing.2

/-- Nothing that concerns the current row or the caches changes. -/
theorem same (current : c.Current reader) (room : d.numCols ≤ d.capacity)
    (cells : d.liveCell = c.liveCell) (row : d.currentRow = c.currentRow)
    (columns : d.numCols = c.numCols) (stands : d.Stands → c.Stands)
    (rowCache : d.rowCache = c.rowCache) (decoded : d.decoded = c.decoded) :
    d.Current reader where
  room := room
  row := by rw [rowCache]; exact current.row.same cells row columns stands
  decoded := by rw [decoded]; exact current.decoded.same cells row columns stands

end Current

/-! ### The accessors -/

/-- **A request for the columns does nothing, or brings a result without a current row** to a
statement without one. -/
theorem ensurePgResultForMetadata_cases (c : Cursor) (env : Lookup) :
    c.ensurePgResultForMetadata env = c ∨
      (c.result = none ∧ c.numCols = 0 ∧ ∃ r rows row,
        c.ensurePgResultForMetadata env = c.setMetadataResult r rows row ∧
        (c.setMetadataResult r rows row).onRow = false) := by
  unfold ensurePgResultForMetadata
  split
  · exact .inl rfl
  next missing =>
    simp only [Bool.or_eq_true, not_or, decide_eq_true_eq, Bool.not_eq_true] at missing
    have none : c.result = none := by simpa using missing.1.1
    have columns : c.numCols = 0 := by omega
    split
    · exact .inr ⟨none, columns, _, _, _, rfl, by simp [setMetadataResult, onRow]⟩
    · exact .inr ⟨none, columns, _, _, _, rfl, onRow_of_neg _ (by simp [setMetadataResult])⟩
    · exact .inl rfl
    · exact .inl rfl
    · exact .inl rfl

theorem ensurePgResultForMetadata_liveCell (c : Cursor) (env : Lookup) :
    (c.ensurePgResultForMetadata env).liveCell = c.liveCell := by
  obtain same | ⟨none, -, r, rows, row, brought, off⟩ := c.ensurePgResultForMetadata_cases env
  · rw [same]
  · rw [brought, liveCell_of_no_row _ off, liveCell_of_no_result c none]

namespace Current

section

variable (current : c.Current reader)
include current

theorem ensurePgResultForMetadata (env : Lookup) :
    (c.ensurePgResultForMetadata env).Current reader := by
  obtain same | ⟨-, columns, r, rows, row, brought, off⟩ := c.ensurePgResultForMetadata_cases env
  · rwa [same]
  · rw [brought]
    exact {
      room := le_max_right _ _
      row := current.row.described columns off
      decoded := current.decoded.described columns off }

/-- A text of the current row's is kept. -/
theorem pinTextToStatement (idx : ℤ) (fromRing : Bool) :
    (c.pinTextToStatement idx (c.liveText reader idx) fromRing).Current reader := by
  unfold Cursor.pinTextToStatement
  split
  · exact current
  next kept =>
    simp only [Bool.or_eq_true, not_or, decide_eq_true_eq, not_lt] at kept
    have right : rowView reader c.liveCell (.text idx.toNat) = some (c.liveText reader idx) := by
      rw [rowView, Int.toNat_of_nonneg kept.2, liveText]
    exact {
      room := current.room.trans (le_max_left _ _)
      row := (current.row.put right).same rfl rfl rfl id
      decoded := current.decoded.same rfl rfl rfl id }

/-- **`sqlite3_column_text` answers the current row's text.** -/
theorem columnText (idx : ℤ) (env again : Lookup) :
    (c.columnText reader idx env again).1 = c.liveText reader idx ∧
      (c.columnText reader idx env again).2.Current reader := by
  have looked := (current.ensurePgResultForMetadata env).ensurePgResultForMetadata again
  have text : c.liveText reader idx =
      ((c.ensurePgResultForMetadata env).ensurePgResultForMetadata again).liveText reader idx := by
    simp only [liveText, ensurePgResultForMetadata_liveCell]
  rw [text]
  unfold Cursor.columnText
  generalize (c.ensurePgResultForMetadata env).ensurePgResultForMetadata again = c' at looked
  dsimp only
  split
  next kept found =>
    split at found
    next inside =>
      have right := looked.row.sound.find found
      rw [rowView, Int.toNat_of_nonneg inside.1] at right
      exact ⟨(Option.some.inj right).symm, looked⟩
    · cases found
  · exact ⟨rfl, looked.pinTextToStatement idx _⟩

/-- A `bytea` of the current row's is decoded, or was. -/
theorem pgDecodeByteaCached (live : c.liveCell idx = some cell)
    (bytea : cell.oid = byteaOid) :
    (c.pgDecodeByteaCached idx.toNat cell.source).1 = c.liveBlob idx ∧
      (c.pgDecodeByteaCached idx.toNat cell.source).2.Current reader := by
  have column : ((idx.toNat : ℕ) : ℤ) = idx := Int.toNat_of_nonneg (c.idx_of_liveCell live).1
  have blob : c.liveBlob idx = (pgDecodeBytea cell.source).bytes := by
    rw [liveBlob, live, blobOutput, if_pos bytea]
  have turned : { c with decoded := c.decoded.turn c.currentRow }.Current reader := {
    room := current.room
    row := current.row.same rfl rfl rfl id
    decoded := current.decoded.turn.same rfl rfl rfl id }
  unfold Cursor.pgDecodeByteaCached
  split
  next b found =>
    have right := current.decoded.sound.find found
    rw [decodedView, column] at right
    exact ⟨right.symm, current⟩
  · rw [blob]
    cases decodes : pgDecodeBytea cell.source with
    | raw | failed => exact ⟨rfl, turned⟩
    | hex b =>
      have right : decodedView c.liveCell idx.toNat = some b := by
        rw [decodedView, column, ← liveBlob, blob, decodes, Decoded.bytes]
      exact ⟨rfl, {
        room := current.room
        row := current.row.same rfl rfl rfl id
        decoded := (current.decoded.put right).same rfl rfl rfl id }⟩

/-- Any other value of the current row's is copied, or was. -/
theorem materializeLiveBlob (live : c.liveCell idx = some cell)
    (other : cell.oid ≠ byteaOid) :
    (c.materializeLiveBlob idx.toNat cell.source).1 = c.liveBlob idx ∧
      (c.materializeLiveBlob idx.toNat cell.source).2.Current reader := by
  have column : ((idx.toNat : ℕ) : ℤ) = idx := Int.toNat_of_nonneg (c.idx_of_liveCell live).1
  have blob : c.liveBlob idx = if cell.source = [] then none else some cell.source := by
    rw [liveBlob, live, blobOutput, if_neg other]
  unfold Cursor.materializeLiveBlob
  split
  next b found =>
    have right := current.row.sound.find found
    rw [rowView, column] at right
    exact ⟨right.symm, current⟩
  · rw [blob]
    split
    next => exact ⟨rfl, {
        room := current.room
        row := current.row.turn.same rfl rfl rfl id
        decoded := current.decoded.same rfl rfl rfl id }⟩
    next some_ =>
      have right : rowView reader c.liveCell (.blob idx.toNat) = some cell.source := by
        rw [rowView, column, ← liveBlob, blob, if_neg some_]
      exact ⟨rfl, {
        room := current.room
        row := (current.row.put right).same rfl rfl rfl id
        decoded := current.decoded.same rfl rfl rfl id }⟩

/-- **`sqlite3_column_blob` answers the current row's blob.** -/
theorem columnBlob (idx : ℤ) :
    (c.columnBlob idx).1 = c.liveBlob idx ∧ (c.columnBlob idx).2.Current reader := by
  unfold Cursor.columnBlob
  cases live : c.liveCell idx with
  | none => exact ⟨by rw [liveBlob, live, blobOutput], current⟩
  | some cell =>
    have inside := c.idx_of_liveCell live
    have fits : ¬c.capacity ≤ idx.toNat := by
      have room := current.room
      omega
    dsimp only
    rw [if_neg fits]
    split
    next bytea => exact current.pgDecodeByteaCached live bytea
    next other => exact current.materializeLiveBlob live other

theorem columnBytes (idx : ℤ) :
    (c.columnBytes idx).2.Current reader := by
  unfold Cursor.columnBytes
  cases live : c.liveCell idx with
  | none => exact current
  | some cell =>
    dsimp only
    split
    next bytea => exact (current.pgDecodeByteaCached live bytea).2
    · exact current

end

/-! ### Moving on -/

theorem clearResult (c : Cursor) : c.clearResult.Current reader where
  room := Nat.zero_le _
  row := .empty
  decoded := .empty

section

variable (current : c.Current reader)
include current

/-- A result fetched for its columns is dropped. -/
theorem prepareReexecution (crossed : Bool) :
    (c.prepareReexecution crossed).Current reader := by
  unfold Cursor.prepareReexecution
  have begun : (if c.streaming && crossed then c.clearResult else c).Current reader := by
    split
    · exact clearResult c
    · exact current
  generalize (if c.streaming && crossed then c.clearResult else c) = c' at begun
  dsimp only
  split
  · exact {
      room := begun.room
      row := begun.row.dropped rfl rfl neg_one_lt_zero
      decoded := begun.decoded.dropped rfl rfl neg_one_lt_zero }
  · exact begun

theorem streamingNext (env : StepEnv) :
    (c.streamingNext env).cursor.Current reader := by
  unfold Cursor.streamingNext
  split
  · exact current.same current.room rfl rfl rfl id rfl rfl
  · cases env.next with
    | row r => exact ⟨le_max_right _ _, .empty, .empty⟩
    | finished | broken => exact ⟨current.room, .empty, .empty⟩

/-- **The next row of a result is further on** than anything kept. -/
theorem further (on : c.Stands ∨ c.NothingKept)
    (room : d.numCols ≤ d.capacity) (columns : d.numCols = c.numCols)
    (row : d.currentRow = c.currentRow + 1) (rowCache : d.rowCache = c.rowCache)
    (decoded : d.decoded = c.decoded) : d.Current reader := by
  obtain stands | nothing := on
  · have behind := current.row.behind stands
    have behind' := current.decoded.behind stands
    exact {
      room := room
      row := by rw [rowCache]; exact current.row.ahead columns (by omega)
      decoded := by rw [decoded]; exact current.decoded.ahead columns (by omega) }
  · exact current.of_nothingKept nothing room rowCache decoded

theorem eagerNext (on : c.Stands ∨ c.NothingKept) :
    c.eagerNext.cursor.Current reader := by
  unfold Cursor.eagerNext
  dsimp only
  split <;> exact current.further on current.room rfl rfl rfl rfl

theorem firstExecute (nothing : c.NothingKept) (fetched : Fetched) :
    (c.firstExecute fetched).cursor.Current reader := by
  cases fetched with
  | eager r =>
    unfold Cursor.firstExecute
    dsimp only
    split <;> exact current.of_nothingKept nothing (le_max_right _ _) rfl rfl
  | streamed r => exact current.of_nothingKept nothing (le_max_right _ _) rfl rfl
  | streamedNone => exact current.of_nothingKept nothing (Nat.zero_le _) rfl rfl
  | streamedNothing => exact current.of_nothingKept nothing current.room rfl rfl
  | failed streamed kind =>
    cases kind <;> exact current.of_nothingKept nothing current.room rfl rfl

end

end Current

theorem nothingKept_clearResult (c : Cursor) : c.clearResult.NothingKept :=
  ⟨neg_one_lt_zero, neg_one_lt_zero⟩

/-- **Where a registered statement stands when its next row is taken**, not from a stream: still
on a row of its result, or before the first with nothing kept. -/
theorem stands_or_nothingKept {crossed : Bool} (kept : c.StepKept)
    (registered : c.isCached = false) (more : c.readDone = false)
    (whole : (c.prepareReexecution crossed).streaming = false) :
    (c.prepareReexecution crossed).Stands ∨ (c.prepareReexecution crossed).NothingKept := by
  cases given : c.streaming && crossed with
  | true =>
    have cleared : c.prepareReexecution crossed = c.clearResult := by
      simp only [prepareReexecution, given, if_true]
      rfl
    rw [cleared]
    exact .inr c.nothingKept_clearResult
  | false =>
    simp only [prepareReexecution, given, Bool.false_eq_true, if_false] at whole ⊢
    obtain stands | ⟨-, ending⟩ | nothing := kept
    · have rows : ¬(c.result.isSome && c.metadataOnly) = true := by
        obtain cached | rows := stands.2.2
        · rw [registered] at cached
          cases cached
        · simp [rows]
      rw [if_neg rows]
      exact .inl stands
    · have own : c.streaming = false := by split at whole <;> exact whole
      simp [more, own] at ending
    · refine .inr ?_
      split <;> exact nothing

namespace Current

section

variable (current : c.Current reader)
include current

theorem readAttempt (registered : c.isCached = false)
    (kept : c.StepKept) (env : StepEnv) : (c.readAttempt env).cursor.Current reader := by
  unfold Cursor.readAttempt
  split
  · exact current
  next more =>
    have begun := current.prepareReexecution env.crossed
    dsimp only
    split
    · exact begun.streamingNext env
    next whole =>
      have on := stands_or_nothingKept kept registered (by simpa using more) (by simpa using whole)
      split
      · exact begun.eagerNext on
      next none => exact begun.firstExecute (on.resolve_left fun stands => none stands.1) _

theorem cachedAttempt (cached : c.isCached = true)
    (kept : c.StepKept) (env : StepEnv) : (c.cachedAttempt env).cursor.Current reader := by
  have on : c.Stands ∨ c.NothingKept := by
    obtain stands | ⟨registered, -⟩ | nothing := kept
    · exact .inl stands
    · rw [cached] at registered
      cases registered
    · exact .inr nothing
  unfold Cursor.cachedAttempt
  split
  · dsimp only
    split <;> exact current.further on current.room rfl rfl rfl rfl
  next missing =>
    have nothing : c.NothingKept := on.resolve_left fun stands => missing stands.1
    cases env.ran with
    | none => exact current
    | some r => exact current.of_nothingKept nothing (le_max_right _ _) rfl rfl

theorem attempt (kept : c.StepKept) (env : StepEnv) :
    (c.attempt env).cursor.Current reader := by
  unfold Cursor.attempt
  split
  · exact current
  split
  next cached => exact current.cachedAttempt cached kept env
  next registered => exact current.readAttempt (by simpa using registered) kept env

/-- **A step keeps what is kept current.**  An attempt after the first begins with nothing
kept. -/
theorem step (kept : c.StepKept) (retries : ℕ)
    (envs : ℕ → StepEnv) : (c.step retries envs).2.Current reader := by
  induction retries generalizing c envs with
  | zero => exact current.attempt kept (envs 0)
  | succ retries ih =>
    unfold Cursor.step
    dsimp only
    split
    · exact ih (clearResult _) (.inr (.inr (nothingKept_clearResult _))) _
    · exact current.attempt kept (envs 0)

/-- **One call keeps what is kept current.** -/
theorem next {call : Call} (kept : c.Kept call) :
    (c.next reader call).Current reader := by
  cases call with
  | type idx env => exact current.ensurePgResultForMetadata env
  | text idx env again => exact (current.columnText idx env again).2
  | blob idx => exact (current.columnBlob idx).2
  | bytes idx => exact current.columnBytes idx
  | bind | clearBindings => exact current.same current.room rfl rfl rfl id rfl rfl
  | step retries envs => exact current.step kept retries envs
  | reset => exact ⟨Nat.zero_le _, .empty, .empty⟩

end

end Current

end Cursor

/-! ### Runs -/

/-- The calls that leave a statement where it stands. -/
def Call.isAccess : Call → Bool
  | .type _ _ | .text _ _ _ | .blob _ | .bytes _ | .bind _ _ _ | .clearBindings => true
  | .step _ _ | .reset => false

namespace Cursor

variable (reader : Reader) (c : Cursor)

theorem pgDecodeByteaCached_liveCell (idx : ℕ) (source : Bytes) :
    (c.pgDecodeByteaCached idx source).2.liveCell = c.liveCell := by
  unfold pgDecodeByteaCached
  split
  · rfl
  · split <;> rfl

theorem columnBlob_liveCell (idx : ℤ) : (c.columnBlob idx).2.liveCell = c.liveCell := by
  unfold columnBlob
  split
  · rfl
  split
  · rfl
  split
  · exact c.pgDecodeByteaCached_liveCell _ _
  · unfold materializeLiveBlob
    split
    · rfl
    · split <;> rfl

theorem columnBytes_liveCell (idx : ℤ) : (c.columnBytes idx).2.liveCell = c.liveCell := by
  unfold columnBytes
  split
  · rfl
  split
  · exact c.pgDecodeByteaCached_liveCell _ _
  · rfl

theorem columnText_liveCell (idx : ℤ) (env again : Lookup) :
    (c.columnText reader idx env again).2.liveCell = c.liveCell := by
  have looked : ((c.ensurePgResultForMetadata env).ensurePgResultForMetadata again).liveCell =
      c.liveCell := by
    simp only [ensurePgResultForMetadata_liveCell]
  unfold columnText
  dsimp only
  split
  · exact looked
  · refine .trans ?_ looked
    unfold pinTextToStatement
    split <;> rfl

/-- **An access leaves the current row's values as they are.** -/
theorem next_liveCell {call : Call} (access : call.isAccess = true) :
    (c.next reader call).liveCell = c.liveCell := by
  cases call with
  | type idx env => exact c.ensurePgResultForMetadata_liveCell env
  | text idx env again => exact c.columnText_liveCell reader idx env again
  | blob idx => exact c.columnBlob_liveCell idx
  | bytes idx => exact c.columnBytes_liveCell idx
  | bind | clearBindings => rfl
  | step | reset => cases access

theorem final_liveCell {accesses : List Call} (later : ∀ call ∈ accesses, call.isAccess = true) :
    (Runs.final (next reader) c accesses).liveCell = c.liveCell := by
  induction accesses generalizing c with
  | nil => rfl
  | cons call accesses ih =>
    obtain ⟨access, rest⟩ := List.forall_mem_cons.mp later
    rw [Runs.final_cons, ih _ rest, c.next_liveCell reader access]

/-- **What a column answers after a step is the row's the step made current.**  In every run of
calls on a read statement in which each step that takes the statement to its first row finds
nothing kept for a row: after any step, and any accesses and binds that follow it,
`sqlite3_column_text` and `sqlite3_column_blob` answer what is computed from the result and the
row that step left. -/
theorem answers_from_current_row (reader : Reader) (isCached named : Bool) (params : Params)
    (before : List Call) (retries : ℕ) (envs : ℕ → StepEnv) (accesses : List Call)
    (later : ∀ call ∈ accesses, call.isAccess = true)
    (kept : Runs.Meets (next reader) Kept (prepared isCached named params)
      (before ++ .step retries envs :: accesses))
    (idx : ℤ) (env again : Lookup) :
    let stepped := Runs.final (next reader) (prepared isCached named params)
      (before ++ [.step retries envs])
    let c := Runs.final (next reader) stepped accesses
    (c.columnText reader idx env again).1 = stepped.liveText reader idx ∧
      (c.columnBlob idx).1 = stepped.liveBlob idx := by
  intro stepped c
  have whole : c = Runs.final (next reader) (prepared isCached named params)
      (before ++ .step retries envs :: accesses) := by
    rw [← List.singleton_append, ← List.append_assoc, Runs.final_append]
  have current : c.Current reader := by
    rw [whole]
    exact kept.invariant (Current reader) (fun _ _ current kept => current.next kept)
      ⟨le_rfl, .empty, .empty⟩
  have cells : c.liveCell = stepped.liveCell := stepped.final_liveCell reader later
  have text : c.liveText reader idx = stepped.liveText reader idx := by simp only [liveText, cells]
  have blob : c.liveBlob idx = stepped.liveBlob idx := by simp only [liveBlob, cells]
  exact ⟨(current.columnText idx env again).1.trans text, (current.columnBlob idx).1.trans blob⟩

end Cursor

/-- Texts are read as they are. -/
def Reader.plain : Reader := ⟨fun _ _ _ => .same, false⟩

/-- A query with one parameter, not yet bound. -/
def oneParam : Params := .unnamed [] [.null]

/-- One film. -/
def oneFilm : PgResult := ⟨[("title".toList, 25)], [[some (ascii "Alien".toList)]]⟩

/-- The server answers: described, the query has the columns of `r`, and run it has its rows. -/
def Lookup.answers (r : PgResult) : Lookup := ⟨true, some { r with rows := [] }, some r⟩

/-- The query is run, and every row fetched. -/
def StepEnv.fetches (r : PgResult) : StepEnv :=
  ⟨true, .error, false, false, false, .finished, .eager r, none⟩

/-- The parameter is bound. -/
def Call.bindOne : Call := .bind .unnamed 1 (.buffer (ascii "1".toList))

namespace Cursor

/-- A query whose parameter is bound, stepped, answers its row's title, also after its columns
were asked for. -/
theorem answers_from_current_row_of_read :
    let stepped := Runs.final (next .plain) (prepared false true oneParam)
      [.bindOne, .step 0 fun _ => .fetches oneFilm]
    let c := Runs.final (next .plain) stepped [.type 0 (.answers oneFilm), .blob 0]
    (c.columnText .plain 0 (.answers oneFilm) (.answers oneFilm)).1 = ascii "Alien".toList :=
  (answers_from_current_row .plain false true oneParam [.bindOne] 0 (fun _ => .fetches oneFilm)
    [.type 0 (.answers oneFilm), .blob 0] (by decide)
    ⟨trivial, .inr (.inr ⟨by decide, by decide⟩), trivial, trivial, trivial⟩ 0 (.answers oneFilm)
    (.answers oneFilm)).1.trans (by decide)

/-- **A text kept from before the first step.**  The title is asked for while the parameter is not
bound: the query is described, and stands at row 0 of no rows.  Bound and stepped, its first row
has a title, and the empty text is answered. -/
theorem text_kept_from_describe :
    let c := Runs.final (next .plain) (prepared false true oneParam)
      [.text 0 (.answers oneFilm) (.answers oneFilm), .bindOne,
        .step 0 fun _ => .fetches oneFilm]
    c.liveText .plain 0 = ascii "Alien".toList ∧
      (c.columnText .plain 0 (.answers oneFilm) (.answers oneFilm)).1 = [] := by
  decide

end Cursor

end PlexPostgres.Column
