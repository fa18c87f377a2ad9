import PlexPostgres.Library.Text
import PlexPostgres.Translate.ConflictRules

/-!
# INSERT OR REPLACE, REPLACE INTO and INSERT OR IGNORE

The pass that gives these statements an ON CONFLICT clause.  Its target is looked up by the
name of the table; a table that is not known gets `(id)` if the statement lists that column,
and none otherwise.  The update assigns the listed columns, without `id` and without the
columns of the target.

What the emitted statement does to a table depends on the table's keys and on the columns
the statement lists, and the pass knows neither the one nor all of the other.  `Sound` is
the exact condition under which it leaves the rows SQLite would leave, whatever the table
holds.
-/

namespace PlexPostgres.Translate

open Text UniqueKeys Sqlite Postgres

/-! ### The pass -/

/-- The algorithm behind `INSERT OR`. -/
inductive SqliteOnConflict where
  | rollback
  | abort
  | fail
  | ignore
  | replace
  deriving DecidableEq, Repr

/-- What is done about a conflict; an assignment is `column = excluded.column`. -/
inductive OnConflictAction where
  | doNothing
  | doUpdate (assignments : List Text)
  deriving DecidableEq, Repr

structure OnConflict where
  conflictTarget : Option (List Text)
  action : OnConflictAction
  deriving DecidableEq, Repr

/-- **An INSERT** as far as the pass reads and writes it; `table` is the last part of its
name. -/
structure Insert where
  table : Text
  columns : List Text
  or : Option SqliteOnConflict
  replaceInto : Bool
  on : Option OnConflict
  returning : Option (List Text)
  deriving DecidableEq, Repr

/-- The tables with a primary key `id`. -/
def idTables : List Text :=
  ["tags", "taggings", "metadata_items", "media_items", "media_parts", "media_streams",
    "settings", "accounts", "directories", "library_sections", "statistics_media",
    "statistics_resources", "devices", "play_queue_items", "play_queue_generators",
    "play_queues", "activities", "locations", "plugins", "media_grabs",
    "versioned_metadata_items", "external_metadata_items", "external_metadata_sources",
    "metadata_item_views", "metadata_item_accounts", "metadata_item_clusterings",
    "media_item_settings", "media_provider_resources", "media_subscriptions",
    "metadata_relations", "metadata_subscription_desired_items", "sync_schema_versions",
    "spellfix_metadata_titles", "section_locations", "hub_templates", "blobs"].map (·.toList)

/-- The tables whose conflict target is another unique key. -/
def keyedTables : List (Text × List Text) :=
  [("statistics_bandwidth", ["account_id", "device_id", "timespan", "at", "lan"]),
    ("metadata_item_settings", ["account_id", "guid"]),
    ("locatables", ["location_id", "locatable_id", "locatable_type"]),
    ("location_places", ["location_id", "guid"]),
    ("media_stream_settings", ["media_stream_id", "account_id"]),
    ("preferences", ["name"]),
    ("schema_migrations", ["version"])].map fun (table, columns) =>
      (table.toList, columns.map (·.toList))

/-- The column most tables are keyed by. -/
def idColumn : Text := "id".toList

/-- **`get_conflict_columns`.** -/
def getConflictColumns (tableName : Text) : Option (List Text) :=
  if toLowercase tableName ∈ idTables then some [idColumn]
  else keyedTables.lookup (toLowercase tableName)

/-- **`should_add_returning_id`**: `id` is in the names of the target, anywhere. -/
def shouldAddReturningId (conflictCols : Option (List Text)) : Bool :=
  conflictCols.any fun cols =>
    contains "id".toList (toLowercase (List.intercalate ", ".toList cols))

/-- The columns that the update assigns. -/
def assignedColumns (columns excludeCols : List Text) : List Text :=
  columns.filter fun col =>
    toLowercase col ≠ idColumn && !excludeCols.any (toLowercase · = toLowercase col)

/-- **`make_do_update`.** -/
def makeDoUpdate (columns : List Text) (conflictTarget : Option (List Text))
    (excludeCols : List Text) : OnConflict :=
  ⟨conflictTarget, .doUpdate (assignedColumns columns excludeCols)⟩

/-- The target of a replacement: that of the table, or `id` if it is listed. -/
def replaceTarget (table : Text) (columns : List Text) : Option (List Text) :=
  (getConflictColumns (toLowercase table)).or
    (if columns.any (asciiLower · = idColumn) then some [idColumn] else none)

/-- The columns that the update of a replacement leaves out. -/
def replaceExcluded (table : Text) : List Text :=
  match (getConflictColumns (toLowercase table)).map (·.map toLowercase) with
  | some (c :: cs) => c :: cs
  | _ => [idColumn]

/-- **`transform_insert`.** -/
def transformInsert (insert : Insert) : Insert :=
  if insert.on.isSome then insert
  else if insert.or = some .replace ∨ insert.replaceInto then
    { insert with
      on := some (makeDoUpdate insert.columns (replaceTarget insert.table insert.columns)
        (replaceExcluded insert.table))
      or := none
      replaceInto := false
      returning :=
        if shouldAddReturningId (getConflictColumns (toLowercase insert.table)) then
          some [idColumn]
        else insert.returning }
  else if insert.or = some .ignore then
    { insert with
      on := some ⟨getConflictColumns (toLowercase insert.table), .doNothing⟩
      or := none }
  else insert

/-! ### Tables and statements -/

variable {V : Type*} [DecidableEq V]

/-- **A table**: its columns, unique keys and defaults.  Names are in lower case. -/
structure Table (V : Type*) where
  columns : List Text
  keys : List (List Text)
  defaults : Row Text V
  keysKnown : ∀ key ∈ keys, key ⊆ columns
  defaultsKnown : ∀ c ∉ columns, defaults c = none

/-- The columns are those of a unique key, in any order. -/
def Table.HasKey (t : Table V) (columns : List Text) : Prop :=
  ∃ key ∈ t.keys, key ⊆ columns ∧ columns ⊆ key

omit [DecidableEq V] in
instance (t : Table V) (columns : List Text) : Decidable (t.HasKey columns) :=
  inferInstanceAs (Decidable (∃ key ∈ t.keys, _))

/-- The statements the pass rewrites. -/
inductive Resolution where
  | orReplace
  | replaceInto
  | orIgnore
  deriving DecidableEq, Repr

/-- **A statement on a table**, with a column list and rows of values. -/
structure Statement (t : Table V) where
  kind : Resolution
  table : Text
  columns : List Text
  rows : List (List (Option V))
  known : ∀ c ∈ columns, toLowercase c ∈ t.columns
  nodup : (columns.map toLowercase).Nodup
  nonempty : rows ≠ []
  full : ∀ values ∈ rows, values.length = columns.length

namespace Statement

variable {t : Table V} (s : Statement t)

omit [DecidableEq V] in
/-- What the parser makes of the statement. -/
def parse : Insert where
  table := s.table
  columns := s.columns
  or := match s.kind with
    | .orReplace => some .replace
    | .replaceInto => none
    | .orIgnore => some .ignore
  replaceInto := s.kind = .replaceInto
  on := none
  returning := none

omit [DecidableEq V] in
/-- **A row to be inserted**: columns that are not listed take their defaults. -/
def newRow (values : List (Option V)) : Row Text V := fun c =>
  (((s.columns.map toLowercase).zip values).lookup c).getD (t.defaults c)

omit [DecidableEq V] in
/-- The rows to be inserted. -/
def newRows : List (Row Text V) := s.rows.map s.newRow

end Statement

/-- **What PostgreSQL does with a statement**; `none` if it fails. -/
def execPostgres (t : Table V) (insert : Insert) (ns rows : List (Row Text V)) :
    Option (List (Row Text V)) :=
  -- SQLite's clauses are not PostgreSQL's syntax, and what is returned has to be a column.
  if insert.or.isSome ∨ insert.replaceInto ∨
      (insert.returning.any fun columns => columns.any (· ∉ t.columns)) then none
  else
    let written := match insert.on with
      | none => ns.foldlM (insertRow t.keys) (unwritten rows)
      | some ⟨none, .doNothing⟩ => ns.foldlM (doNothing t.keys t.keys) (unwritten rows)
      | some ⟨some target, .doNothing⟩ =>
        if t.HasKey target then ns.foldlM (doNothing [target] t.keys) (unwritten rows) else none
      -- An update needs a target, and an empty list of assignments is no syntax.
      | some ⟨none, .doUpdate _⟩ => none
      | some ⟨some target, .doUpdate assignments⟩ =>
        if t.HasKey target ∧ assignments ≠ [] then
          ns.foldlM (doUpdate t.keys target (assignments.map toLowercase)) (unwritten rows)
        else none
    written.map (·.map Prod.fst)

/-- **What SQLite does with it.** -/
def execSqlite {t : Table V} (s : Statement t) (rows : List (Row Text V)) : List (Row Text V) :=
  match s.kind with
  | .orReplace | .replaceInto => s.newRows.foldl (orReplace t.keys) rows
  | .orIgnore => s.newRows.foldl (orIgnore t.keys) rows

/-- **The emitted statement succeeds and leaves the rows that SQLite leaves**, whatever the
table holds. -/
def Agrees {t : Table V} (s : Statement t) : Prop :=
  ∀ rows, Content t.columns t.keys rows →
    ∃ out, execPostgres t (transformInsert s.parse) s.newRows rows = some out ∧
      out.Perm (execSqlite s rows)

/-- **A replacement that comes out right.** -/
structure ReplaceSound {t : Table V} (s : Statement t) (target : List Text) : Prop where
  /-- The target is a unique key of the table. -/
  hasKey : t.HasKey target
  /-- Something is left to assign. -/
  assigns : assignedColumns s.columns (replaceExcluded s.table) ≠ []
  /-- If `id` is to be returned, there is such a column. -/
  returns : shouldAddReturningId (getConflictColumns (toLowercase s.table)) = true →
    idColumn ∈ t.columns
  /-- The update does what a replacement does. -/
  update : UpdateSound t.columns t.keys target
    ((assignedColumns s.columns (replaceExcluded s.table)).map toLowercase) s.newRows

/-- **When the emitted statement does what SQLite does.** -/
def Sound {t : Table V} (s : Statement t) : Prop :=
  match s.kind with
  | .orReplace | .replaceInto =>
    ∃ target, replaceTarget s.table s.columns = some target ∧ ReplaceSound s target
  | .orIgnore =>
    ∀ target, getConflictColumns (toLowercase s.table) = some target →
      t.HasKey target ∧ SkipSound t.keys target s.newRows

/-! ### What the pass emits -/

section

variable {t : Table V} (s : Statement t)

omit [DecidableEq V] in
theorem transformInsert_replace (replaces : s.kind ≠ .orIgnore) :
    transformInsert s.parse =
      { s.parse with
        on := some (makeDoUpdate s.columns (replaceTarget s.table s.columns)
          (replaceExcluded s.table))
        or := none
        replaceInto := false
        returning :=
          if shouldAddReturningId (getConflictColumns (toLowercase s.table)) then some [idColumn]
          else none } := by
  have isReplace : s.parse.or = some .replace ∨ s.parse.replaceInto = true := by
    cases kind : s.kind with
    | orReplace => exact .inl (by rw [Statement.parse, kind])
    | replaceInto => exact .inr (by rw [Statement.parse, kind]; rfl)
    | orIgnore => exact absurd kind replaces
  rw [transformInsert, if_neg (by simp [Statement.parse]), if_pos isReplace]
  rfl

omit [DecidableEq V] in
theorem transformInsert_ignore (ignores : s.kind = .orIgnore) :
    transformInsert s.parse =
      { s.parse with
        on := some ⟨getConflictColumns (toLowercase s.table), .doNothing⟩
        or := none } := by
  have notReplace : ¬ (s.parse.or = some .replace ∨ s.parse.replaceInto = true) := by
    simp [Statement.parse, ignores]
  have isIgnore : s.parse.or = some .ignore := by simp [Statement.parse, ignores]
  rw [transformInsert, if_neg (by simp [Statement.parse]), if_neg notReplace, if_pos isIgnore]
  rfl

/-! ### What the emitted statement does -/

omit [DecidableEq V] in
theorem newRows_fit : ∀ n ∈ s.newRows, ∀ c ∉ t.columns, n c = none := by
  intro n mem c unknown
  obtain ⟨values, -, rfl⟩ := List.mem_map.mp mem
  have notListed : ((s.columns.map toLowercase).zip values).lookup c = none := by
    rw [List.lookup_eq_none_iff]
    rintro ⟨name, value⟩ pair
    have listed : name ∈ s.columns.map toLowercase := (List.of_mem_zip pair).1
    obtain ⟨column, isListed, rfl⟩ := List.mem_map.mp listed
    have other : c ≠ toLowercase column := fun same => unknown (same ▸ s.known column isListed)
    simpa using other
  rw [Statement.newRow, notListed]
  exact t.defaultsKnown c unknown

theorem execPostgres_replace (replaces : s.kind ≠ .orIgnore) (rows : List (Row Text V)) :
    execPostgres t (transformInsert s.parse) s.newRows rows =
      if shouldAddReturningId (getConflictColumns (toLowercase s.table)) = true ∧
          idColumn ∉ t.columns then none
      else (replaceTarget s.table s.columns).bind fun target =>
        if t.HasKey target ∧ assignedColumns s.columns (replaceExcluded s.table) ≠ [] then
          (s.newRows.foldlM (doUpdate t.keys target
            ((assignedColumns s.columns (replaceExcluded s.table)).map toLowercase))
            (unwritten rows)).map (·.map Prod.fst)
        else none := by
  rw [transformInsert_replace s replaces]
  have unreturned : (Option.any (fun columns => columns.any (· ∉ t.columns))
      (if shouldAddReturningId (getConflictColumns (toLowercase s.table)) then some [idColumn]
        else none)) = true ↔
      shouldAddReturningId (getConflictColumns (toLowercase s.table)) = true ∧
        idColumn ∉ t.columns := by
    split <;> simp_all
  unfold execPostgres
  simp only [Option.isSome_none, Bool.false_eq_true, false_or, unreturned, makeDoUpdate]
  split
  · rfl
  · cases replaceTarget s.table s.columns with
    | none => rfl
    | some target =>
      dsimp only [Option.bind_some]
      split <;> rfl

theorem execPostgres_ignore (ignores : s.kind = .orIgnore) (rows : List (Row Text V)) :
    execPostgres t (transformInsert s.parse) s.newRows rows =
      (getConflictColumns (toLowercase s.table)).elim
        ((s.newRows.foldlM (doNothing t.keys t.keys) (unwritten rows)).map (·.map Prod.fst))
        fun target =>
          if t.HasKey target then
            (s.newRows.foldlM (doNothing [target] t.keys) (unwritten rows)).map (·.map Prod.fst)
          else none := by
  have plain : ¬ (s.parse.replaceInto = true ∨
      (s.parse.returning.any fun columns => columns.any (· ∉ t.columns)) = true) := by
    simp [Statement.parse, ignores]
  rw [transformInsert_ignore s ignores]
  unfold execPostgres
  simp only [Option.isSome_none, Bool.false_eq_true, false_or]
  rw [if_neg plain]
  cases getConflictColumns (toLowercase s.table) with
  | none => rfl
  | some target =>
    dsimp only [Option.elim_some]
    split <;> rfl

/-! ### When the rows are the same -/

theorem agrees_replace_iff [Inhabited V] (replaces : s.kind ≠ .orIgnore) :
    Agrees s ↔
      ∃ target, replaceTarget s.table s.columns = some target ∧ ReplaceSound s target := by
  have sqlite (rows : List (Row Text V)) :
      execSqlite s rows = s.newRows.foldl (orReplace t.keys) rows := by
    unfold execSqlite
    cases kind : s.kind with
    | orReplace | replaceInto => rfl
    | orIgnore => exact absurd kind replaces
  unfold Agrees
  simp only [execPostgres_replace s replaces, sqlite]
  constructor
  · intro agrees
    -- A statement that does not fail has its target, something to assign and its column.
    have returned : ¬ (shouldAddReturningId (getConflictColumns (toLowercase s.table)) = true ∧
        idColumn ∉ t.columns) := by
      intro fails
      obtain ⟨out, done, -⟩ := agrees [] content_nil
      rw [if_pos fails] at done
      cases done
    simp only [if_neg returned] at agrees
    cases found : replaceTarget s.table s.columns with
    | none =>
      obtain ⟨out, done, -⟩ := agrees [] content_nil
      rw [found] at done
      cases done
    | some target =>
      simp only [found, Option.bind_some] at agrees
      have runs : t.HasKey target ∧ assignedColumns s.columns (replaceExcluded s.table) ≠ [] := by
        by_contra fails
        obtain ⟨out, done, -⟩ := agrees [] content_nil
        rw [if_neg fails] at done
        cases done
      simp only [if_pos runs] at agrees
      obtain ⟨key, isKey, sub, sup⟩ := runs.1
      refine ⟨target, rfl, runs.1, runs.2, fun adds => ?_, ?_⟩
      · exact Decidable.not_not.mp fun missing => returned ⟨adds, missing⟩
      · refine (updatesAgree_iff t.keysKnown isKey sub sup (newRows_fit s)).mp ?_
        intro rows content
        obtain ⟨out, done, same⟩ := agrees rows content
        obtain ⟨written, ran, rfl⟩ := Option.map_eq_some_iff.mp done
        exact ⟨written, ran, same⟩
  · rintro ⟨target, found, sound⟩ rows content
    obtain ⟨key, isKey, sub, sup⟩ := sound.hasKey
    obtain ⟨out, ran, same⟩ :=
      (updatesAgree_iff t.keysKnown isKey sub sup (newRows_fit s)).mpr sound.update rows content
    refine ⟨_, ?_, same⟩
    rw [if_neg fun fails => fails.2 (sound.returns fails.1), found, Option.bind_some,
      if_pos ⟨sound.hasKey, sound.assigns⟩, ran]
    rfl

theorem agrees_ignore_iff (ignores : s.kind = .orIgnore) :
    Agrees s ↔ ∀ target, getConflictColumns (toLowercase s.table) = some target →
      t.HasKey target ∧ SkipSound t.keys target s.newRows := by
  have sqlite (rows : List (Row Text V)) :
      execSqlite s rows = s.newRows.foldl (orIgnore t.keys) rows := by
    rw [execSqlite, ignores]
  unfold Agrees
  simp only [execPostgres_ignore s ignores, sqlite]
  cases found : getConflictColumns (toLowercase s.table) with
  | none =>
    refine ⟨fun _ target absent => absurd absent (by simp), fun _ rows content => ?_⟩
    have always : SkipsAgree t.columns t.keys t.keys s.newRows := skipsAgree_all
    obtain ⟨out, ran, same⟩ := always rows content
    exact ⟨_, by rw [Option.elim_none, ran]; rfl, same⟩
  | some target =>
    simp only [Option.elim_some, Option.some.injEq, forall_eq']
    constructor
    · intro agrees
      have runs : t.HasKey target := by
        by_contra fails
        obtain ⟨out, done, -⟩ := agrees [] content_nil
        rw [if_neg fails] at done
        cases done
      have hasKey := runs
      obtain ⟨key, isKey, sub, -⟩ := hasKey
      refine ⟨runs, (skipsAgree_iff t.keysKnown isKey sub).mp fun rows content => ?_⟩
      obtain ⟨out, done, same⟩ := agrees rows content
      rw [if_pos runs] at done
      obtain ⟨written, ran, rfl⟩ := Option.map_eq_some_iff.mp done
      exact ⟨written, ran, same⟩
    · rintro ⟨runs, sound⟩ rows content
      have hasKey := runs
      obtain ⟨key, isKey, sub, -⟩ := hasKey
      obtain ⟨out, ran, same⟩ :=
        (skipsAgree_iff t.keysKnown isKey sub).mpr sound rows content
      exact ⟨_, by rw [if_pos runs, ran]; rfl, same⟩

end

/-- **The emitted statement leaves what SQLite leaves exactly when it is sound.** -/
theorem agrees_iff [Inhabited V] {t : Table V} (s : Statement t) : Agrees s ↔ Sound s := by
  unfold Sound
  cases kind : s.kind with
  | orReplace | replaceInto => exact agrees_replace_iff s (by simp [kind])
  | orIgnore => exact agrees_ignore_iff s kind

/-! ### Two statements -/

/-- A table with two columns and the key `id`. -/
def tags : Table ℕ where
  columns := ["id".toList, "tag".toList]
  keys := [["id".toList]]
  defaults _ := none
  keysKnown := by decide
  defaultsKnown _ _ := rfl

/-- A replacement of both columns. -/
def replaceBoth : Statement tags where
  kind := .orReplace
  table := "tags".toList
  columns := ["id".toList, "tag".toList]
  rows := [[some 1, some 5], [some 2, some 6]]
  known := by decide
  nodup := by decide
  nonempty := by decide
  full := by decide

theorem replaceBoth_agrees : Agrees replaceBoth := by
  refine (agrees_iff replaceBoth).mpr ⟨[idColumn], by decide, by decide, by decide, by decide, ?_⟩
  refine ⟨?_, fun _ => by decide, by decide⟩
  intro n _ key isKey _
  obtain rfl : key = ["id".toList] := by simpa [tags] using isKey
  exact List.Subset.refl _

/-- A table with a third column. -/
def counted : Table ℕ where
  columns := ["id".toList, "tag".toList, "uses".toList]
  keys := [["id".toList]]
  defaults c := if c = "uses".toList then some 0 else none
  keysKnown := by decide
  defaultsKnown c unknown := by
    rw [if_neg]
    rintro rfl
    exact unknown (by decide)

/-- A replacement that does not list it. -/
def replaceTwo : Statement counted where
  kind := .orReplace
  table := "tags".toList
  columns := ["id".toList, "tag".toList]
  rows := [[some 1, some 5]]
  known := by decide
  nodup := by decide
  nonempty := by decide
  full := by decide

/-- The row that is to be replaced. -/
def oldRow : Row Text ℕ := fun c =>
  if c = "id".toList then some 1 else if c = "tag".toList then some 4
  else if c = "uses".toList then some 9 else none

/-- **A column that is not listed keeps its old value**, where SQLite gives it its default. -/
theorem replaceTwo_keeps_uses : ¬ Agrees replaceTwo := by
  intro agrees
  have content : Content counted.columns counted.keys [oldRow] := by
    refine content_singleton fun c unknown => ?_
    have other : ∀ d ∈ counted.columns, c ≠ d := fun d mem same => unknown (same ▸ mem)
    rw [oldRow, if_neg (other _ (by decide)), if_neg (other _ (by decide)),
      if_neg (other _ (by decide))]
  obtain ⟨out, done, same⟩ := agrees [oldRow] content
  have uses : out.map (· "uses".toList) = [some 9] := by
    have evaluated : (execPostgres counted (transformInsert replaceTwo.parse) replaceTwo.newRows
        [oldRow]).map (·.map (· "uses".toList)) = some [some 9] := by
      decide
    rw [done] at evaluated
    exact Option.some.inj evaluated
  have defaulted : (execSqlite replaceTwo [oldRow]).map (· "uses".toList) = [some 0] := by decide
  have perm := same.map (· "uses".toList)
  rw [uses, defaulted] at perm
  exact absurd perm (by decide)

end PlexPostgres.Translate
