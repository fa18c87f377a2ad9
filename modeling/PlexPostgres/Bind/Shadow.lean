import Mathlib.Data.List.ReduceOption
import PlexPostgres.Bind.Params
import PlexPostgres.Translate.Numbering

/-!
# The shadow of a routed statement

A statement that is routed to PostgreSQL has a shadow: a statement SQLite prepares in its place,
with one parameter for each slot of the translation (`dummy_shadow_sql`).  The same list of names
is read three times: as the text of the shadow, by SQLite's numbering of that text, and by the
bind, which searches the list for the name of the index it is given.
-/

namespace PlexPostgres.Bind

open Text Sqlite

/-- What the shadow asks of one parameter. -/
def shadowItem : Option Text → Text
  | some name => ':' :: name ++ " IS NOT NULL".toList
  | none => "? IS NOT NULL".toList

/-- **The text of the shadow.** -/
def dummyShadowSql (names : List (Option Text)) : Text :=
  if names = [] then "SELECT 1 WHERE 0".toList
  else "SELECT 1 WHERE ".toList ++ " AND ".toList.intercalate (names.map shadowItem)

example : dummyShadowSql [some "id".toList, none] =
    "SELECT 1 WHERE :id IS NOT NULL AND ? IS NOT NULL".toList := by decide

/-- `bind_parameter_name_impl`, the name of an index of a routed statement. -/
def parameterName (names : List (Option Text)) (idx : ℤ) : Option Text :=
  if 0 < idx ∧ idx ≤ names.length then (names[(idx - 1).toNat]?).join else none

/-- **The lists a translation yields**: no name twice, and each of them one SQLite reads as a
whole. -/
structure WellNamed (names : List (Option Text)) : Prop where
  distinct : names.reduceOption.Nodup
  nonempty : ∀ name, some name ∈ names → name ≠ []
  readable : ∀ name, some name ∈ names → name.all isIdChar = true

variable {names : List (Option Text)}

theorem WellNamed.tail {name : Option Text} (well : WellNamed (name :: names)) :
    WellNamed names := by
  refine ⟨?_, fun n mem => well.nonempty n (.tail _ mem),
    fun n mem => well.readable n (.tail _ mem)⟩
  have distinct := well.distinct
  cases name with
  | none => exact distinct
  | some name => exact (List.nodup_cons.mp distinct).2

/-! ### Reading the shadow -/

variable {name : Text}

section Scan

theorem scan_name (token : Text) (colon : token.head? = some ':')
    (readable : name.all isIdChar = true) (rest : Text) :
    scanVariables .plain (.variable token) (name ++ ' ' :: rest) =
      (token ++ name) :: scanVariables .plain .between rest := by
  induction name generalizing token with
  | nil =>
    rw [List.append_nil]
    have ends : Reading.continues token ' ' = false := by simp [Reading.continues, colon]; decide
    simp only [List.nil_append, scanVariables, Reading.next, ends]
    rfl
  | cons c name ih =>
    obtain ⟨isId, others⟩ := (Bool.and_eq_true _ _).mp readable
    have goes : Reading.continues token c = true := by simp [Reading.continues, colon, isId]
    rw [List.cons_append, scanVariables, next_plain_of_tame (isTame_of_test _ isId rfl)]
    simp only [Reading.next, goes]
    have more := ih (token ++ [c]) (by simp [colon]) others
    simpa using more

/-- The parameter of the shadow for one slot. -/
def shadowParameter : Option Text → Parameter
  | none => .anonymous
  | some name =>
    if nonempty : name ≠ [] then .named .colon ⟨name, nonempty⟩ else .anonymous

theorem shadowParameter_some (nonempty : name ≠ []) :
    shadowParameter (some name) = .named .colon ⟨name, nonempty⟩ := dif_pos nonempty

theorem scan_item {name : Option Text} (well : WellNamed [name]) (rest : Text) :
    scanVariables .plain .between (shadowItem name ++ rest) =
      (shadowParameter name).text :: scanVariables .plain .word rest := by
  cases name with
  | none => rfl
  | some name =>
    have scanned := scan_name [':'] rfl (well.readable name (by simp))
      ("IS NOT NULL".toList ++ rest)
    have text : (shadowParameter (some name)).text = ':' :: name := by
      rw [shadowParameter_some (well.nonempty name (by simp))]
      rfl
    have spelled : shadowItem (some name) ++ rest =
        ':' :: (name ++ ' ' :: ("IS NOT NULL".toList ++ rest)) :=
      List.append_assoc (':' :: name) " IS NOT NULL".toList rest
    rw [text, spelled]
    exact scanned

theorem WellNamed.head {name : Option Text} (well : WellNamed (name :: names)) :
    WellNamed [name] := by
  refine ⟨?_, fun n mem => ?_, fun n mem => ?_⟩
  · cases name with
    | none => exact List.nodup_nil
    | some name => exact List.nodup_singleton name
  · exact well.nonempty n (List.mem_singleton.mp mem ▸ List.mem_cons_self)
  · exact well.readable n (List.mem_singleton.mp mem ▸ List.mem_cons_self)

theorem scan_items {name : Option Text} (well : WellNamed (name :: names)) :
    scanVariables .plain .between (" AND ".toList.intercalate ((name :: names).map shadowItem)) =
      ((name :: names).map shadowParameter).map Parameter.text := by
  induction names generalizing name with
  | nil =>
    have scanned := scan_item well.head []
    rw [List.append_nil] at scanned
    rw [List.map_singleton, List.intercalate_singleton]
    exact scanned
  | cons next names ih =>
    rw [List.map_cons, List.map_cons, List.intercalate_cons_cons, List.append_assoc,
      scan_item well.head]
    exact congrArg _ (ih well.tail)

/-- **What SQLite's tokenizer finds in the shadow**: a parameter for each slot. -/
theorem parameters_dummyShadowSql (well : WellNamed names) :
    parameters (dummyShadowSql names) = some (names.map shadowParameter) := by
  have tokens : variableTokens (dummyShadowSql names) =
      (names.map shadowParameter).map Parameter.text := by
    cases names with
    | nil => rfl
    | cons name names =>
      rw [variableTokens, dummyShadowSql, if_neg (List.cons_ne_nil _ _)]
      exact scan_items well
  rw [parameters, tokens]
  exact mapM_read_text _

end Scan

/-! ### Numbering the shadow -/

section Number

/-- SQLite after the parameters of `names`, from `v` on: they have the numbers after `v`'s, and
their names. -/
structure Labels (v : Variables) (names : List (Option Text)) (w : Variables) : Prop where
  count : w.count = v.count + names.length
  old : ∀ n ≤ v.count, w.label n = v.label n
  new : ∀ i name, names[i]? = some name → w.label (v.count + 1 + i) = name.map (':' :: ·)

/-- One more in front. -/
theorem Labels.cons {v v' w : Variables} {name : Option Text} (labels : Labels v' names w)
    (grows : v'.count = v.count + 1) (old : ∀ n ≤ v.count, v'.label n = v.label n)
    (first : v'.label (v.count + 1) = name.map (':' :: ·)) : Labels v (name :: names) w := by
  refine ⟨?_, fun n le => ?_, fun i other at_i => ?_⟩
  · rw [labels.count, grows, List.length_cons]
    omega
  · rw [labels.old n (by omega), old n le]
  · cases i with
    | zero =>
      obtain rfl : name = other := by simpa using at_i
      rw [Nat.add_zero, labels.old _ grows.ge, first]
    | succ i =>
      have there := labels.new i other (by simpa using at_i)
      rw [grows] at there
      rw [← there]
      congr 1
      omega

/-- **New names are numbered one after the other**, and each number has its name. -/
theorem number_shadow (well : WellNamed names) {v : Variables} (distinct : v.Distinct)
    (new : ∀ name, some name ∈ names → v.find (':' :: name) = none) :
    Labelling.labels Variables.assign v (names.map shadowParameter) =
        List.range' (v.count + 1) names.length ∧
      Labels v names (Labelling.final Variables.assign v (names.map shadowParameter)) := by
  induction names generalizing v with
  | nil => exact ⟨rfl, rfl, fun _ _ => rfl, fun i name none => by simp at none⟩
  | cons name names ih =>
    rw [List.map_cons, Labelling.labels_cons, Labelling.final_cons, List.length_cons,
      List.range'_succ]
    cases name with
    | none =>
      obtain ⟨slots, labels⟩ := ih well.tail (distinct.assign .anonymous)
        fun other mem => new other (.tail _ mem)
      refine ⟨congrArg _ slots, labels.cons rfl (fun _ _ => rfl) ?_⟩
      exact distinct.label_of_lt (Nat.lt_succ_self _)
    | some name =>
      have nonempty := well.nonempty name List.mem_cons_self
      have missing := new name List.mem_cons_self
      have given := @Variables.assign_new v .colon ⟨name, nonempty⟩ missing
      have fresh : name ∉ names.reduceOption := (List.nodup_cons.mp well.distinct).1
      have kept := distinct.assign (.named .colon ⟨name, nonempty⟩)
      rw [shadowParameter_some nonempty]
      rw [given] at kept ⊢
      obtain ⟨slots, labels⟩ := ih well.tail kept fun other mem => by
        have differs : ':' :: other ≠ ':' :: name := by
          intro same
          rw [(List.cons.inj same).2] at mem
          exact fresh (List.reduceOption_mem_iff.mpr mem)
        rw [Variables.find_append, new other (.tail _ mem)]
        exact if_neg differs
      refine ⟨congrArg _ slots, labels.cons rfl (fun n le => ?_) ?_⟩
      · rw [Variables.label_append, if_neg (by omega), Option.or_none]
      · rw [Variables.label_append, if_pos rfl, distinct.label_of_lt (Nat.lt_succ_self _)]
        rfl

end Number

/-! ### What a translation yields -/

section Yields

/-- The names that are recorded are known, and the list is as it should be. -/
structure Recorded (n : Translate.Numbering) : Prop where
  well : WellNamed n.paramNames
  known : ∀ name, some name ∈ n.paramNames → n.names name ≠ none

theorem WellNamed.append_nones (well : WellNamed names) (k : ℕ) :
    WellNamed (names ++ List.replicate k none) := by
  have named : ∀ {name : Text}, some name ∈ names ++ List.replicate k none → some name ∈ names := by
    intro name mem
    rcases List.mem_append.mp mem with old | new
    · exact old
    · exact absurd (List.eq_of_mem_replicate new) (by simp)
  refine ⟨?_, fun name mem => well.nonempty name (named mem),
    fun name mem => well.readable name (named mem)⟩
  rw [List.reduceOption_append, List.reduceOption_replicate_none, List.append_nil]
  exact well.distinct

theorem WellNamed.append_some (well : WellNamed names) (fresh : some name ∉ names)
    (nonempty : name ≠ []) (readable : name.all isIdChar = true) :
    WellNamed (names ++ [some name]) := by
  refine ⟨?_, fun other mem => ?_, fun other mem => ?_⟩
  · rw [List.reduceOption_append]
    refine well.distinct.append (List.nodup_singleton name) ?_
    simpa [List.reduceOption_mem_iff] using fresh
  · rcases List.mem_append.mp mem with old | new
    · exact well.nonempty other old
    · obtain rfl : other = name := by simpa using new
      exact nonempty
  · rcases List.mem_append.mp mem with old | new
    · exact well.readable other old
    · obtain rfl : other = name := by simpa using new
      exact readable

variable {n : Translate.Numbering}

theorem Recorded.explicit (recorded : Recorded n) (k : ℕ) :
    Recorded (n.explicit k) := by
  refine ⟨recorded.well.append_nones _, fun name mem => recorded.known name ?_⟩
  rcases List.mem_append.mp mem with old | new
  · exact old
  · exact absurd (List.eq_of_mem_replicate new) (by simp)

theorem Recorded.named (recorded : Recorded n) (nonempty : name ≠ [])
    (readable : name.all isIdChar = true) :
    Recorded (n.named name).2 := by
  cases known : n.names name with
  | some k =>
    rw [Translate.Numbering.named_known known]
    exact recorded
  | none =>
    rw [Translate.Numbering.named_new known]
    refine ⟨recorded.well.append_some (fun mem => recorded.known name mem known) nonempty
      readable, fun other mem => ?_⟩
    dsimp only
    by_cases same : other = name
    · rw [same, Function.update_self]
      exact Option.some_ne_none _
    · have old : some other ∈ n.paramNames := by simpa [same] using mem
      rw [Function.update_of_ne same]
      exact recorded.known other old

/-- **One parameter** whose name SQLite can read. -/
theorem Recorded.slot (recorded : Recorded n) {p : Parameter}
    (readable : ∀ m name, p = .named m name → name.1.all isIdChar = true) :
    Recorded (n.slot p.text).2 := by
  cases p with
  | anonymous =>
    refine ⟨recorded.well.append_nones 1, fun name mem => recorded.known name ?_⟩
    have kept : some name ∈ n.paramNames ++ [none] := mem
    simpa using kept
  | numbered d =>
    rw [Translate.Numbering.slot_numbered]
    split
    · exact recorded.explicit d.value
    · exact recorded
  | named m name =>
    rw [Translate.Numbering.slot_named]
    split
    · exact recorded
    · exact recorded.named name.2 (readable m name rfl)

/-- **The placeholder pass yields such a list**, from the parameters of any statement. -/
theorem wellNamed_paramNames {ps : List Parameter}
    (readable : ∀ m name, .named m name ∈ ps → name.1.all isIdChar = true) :
    WellNamed (Translate.paramNames (ps.map Parameter.text)) := by
  unfold Translate.paramNames Translate.numbering
  rw [Labelling.final_map]
  refine (Labelling.final_invariant Recorded (fun p mem n recorded => ?_) ?_).well
  · exact recorded.slot fun m name same => readable m name (same ▸ mem)
  · have empty : ∀ name : Text, some name ∉ Translate.Numbering.start.paramNames :=
      fun _ => List.not_mem_nil
    exact ⟨⟨List.nodup_nil, fun name mem => absurd mem (empty name),
      fun name mem => absurd mem (empty name)⟩, fun name mem => absurd mem (empty name)⟩

/-- One name under two marks. -/
theorem wellNamed_twoMarks :
    WellNamed (Translate.paramNames
      ([.named .colon ⟨['a'], by decide⟩, .named .at ⟨['a'], by decide⟩].map Parameter.text)) :=
  wellNamed_paramNames fun m name mem => by
    simp at mem
    rcases mem with ⟨-, rfl⟩ | ⟨-, rfl⟩ <;> decide

end Yields

/-! ### Binding by index -/

section Index

/-- A name stands at one place of the list. -/
theorem WellNamed.place (well : WellNamed names) {i j : ℕ} (at_i : names[i]? = some (some name))
    (at_j : names[j]? = some (some name)) : i = j := by
  induction names generalizing i j with
  | nil => cases at_i
  | cons first names ih =>
    have absent : ∀ {k : ℕ}, first = some name → names[k]? ≠ some (some name) := by
      rintro k rfl there
      exact (List.nodup_cons.mp well.distinct).1
        (List.reduceOption_mem_iff.mpr (List.mem_of_getElem? there))
    cases i with
    | zero =>
      cases j with
      | zero => rfl
      | succ j => exact absurd at_j (absent (by simpa using at_i))
    | succ i =>
      cases j with
      | zero => exact absurd at_i (absent (by simpa using at_j))
      | succ j => exact congrArg (· + 1) (ih well.tail at_i at_j)

/-- The search of a bind ends where the name stands. -/
theorem WellNamed.idxOf (well : WellNamed names) {i : ℕ} (at_i : names[i]? = some (some name)) :
    names.idxOf? (some (Params.cleanName name)) = some i := by
  have mem : some name ∈ names := List.mem_of_getElem? at_i
  have clean : Params.cleanName name = name := by
    unfold Params.cleanName
    split
    · exact absurd (List.all_eq_true.mp (well.readable _ mem) ':' List.mem_cons_self) (by decide)
    · rfl
  obtain ⟨bound, there⟩ := List.getElem?_eq_some_iff.mp at_i
  rw [clean, List.idxOf?_eq_some_iff]
  refine ⟨bound, there, fun j before again => ?_⟩
  have same : j = i := well.place (List.getElem?_eq_some_iff.mpr ⟨by omega, again⟩) at_i
  omega

variable {p : Params} {env : BindEnv}

theorem mapped_inRange (well : WellNamed names) (ofNames : p.names = names)
    (sized : p.slots.length = names.length) {idx : ℤ} (low : 1 ≤ idx)
    (high : idx ≤ names.length) : p.mappedParamIndex env idx = some (idx - 1).toNat := by
  have mapped : p.pgMapParamIndex env idx = idx - 1 := by
    obtain ⟨name, at_idx⟩ : ∃ name, names[(idx - 1).toNat]? = some name :=
      ⟨_, List.getElem?_eq_getElem (by omega)⟩
    have some : names ≠ [] := by
      rintro rfl
      simp at at_idx
    unfold Params.pgMapParamIndex
    rw [ofNames, if_neg some, if_pos ⟨by omega, high⟩, at_idx]
    cases name with
    | none => rfl
    | some name =>
      simp only [Option.join_some, well.idxOf at_idx]
      exact Int.toNat_of_nonneg (by omega)
  have slots : p.slots ≠ [] := by
    intro none
    rw [none, List.length_nil] at sized
    omega
  unfold Params.mappedParamIndex
  simp only [mapped]
  rw [if_neg (by simp [slots]; omega), if_neg (by omega)]

theorem mapped_outOfRange (ofNames : p.names = names) (sized : p.slots.length = names.length)
    (asks : env.paramName = parameterName names) {idx : ℤ}
    (outside : ¬ (1 ≤ idx ∧ idx ≤ names.length)) : p.mappedParamIndex env idx = none := by
  by_cases low : 1 ≤ idx
  · have beyond : ¬ (0 < idx ∧ idx ≤ names.length) := by omega
    have mapped : p.pgMapParamIndex env idx = idx - 1 := by
      unfold Params.pgMapParamIndex
      rw [ofNames, if_neg beyond, asks, parameterName, if_neg beyond]
      split <;> rfl
    unfold Params.mappedParamIndex
    simp only [mapped]
    split
    · rfl
    · rw [if_pos (by omega)]
  · unfold Params.mappedParamIndex
    rw [if_pos (by simp; omega)]

end Index

/-- **The three readings of the list agree.**  SQLite numbers the parameters of the shadow 1, 2, …,
each named as the list says, and a bind reaches the slot of its index, or answers
`SQLITE_RANGE`. -/
theorem shadow_and_bind_agree {names : List (Option Text)} (well : WellNamed names) :
    (∃ ps, parameters (dummyShadowSql names) = some ps ∧
      Variables.slots ps = List.range' 1 names.length ∧
      (Variables.number ps).count = names.length ∧
      ∀ i name, names[i]? = some name →
        (Variables.number ps).label (i + 1) = name.map (':' :: ·)) ∧
    ∀ (p : Params) (env : BindEnv), p.names = names → p.slots.length = names.length →
      env.paramName = parameterName names → ∀ idx : ℤ,
        (1 ≤ idx ∧ idx ≤ names.length →
          p.mappedParamIndex env idx = some (idx - 1).toNat ∧ p.routedBindRc env idx = .ok) ∧
        (¬ (1 ≤ idx ∧ idx ≤ names.length) →
          p.mappedParamIndex env idx = none ∧ p.routedBindRc env idx = .range) := by
  constructor
  · obtain ⟨slots, labels⟩ := number_shadow well Variables.distinct_start fun _ _ => rfl
    refine ⟨_, parameters_dummyShadowSql well, slots, ?_, fun i name at_i => ?_⟩
    · exact labels.count.trans (Nat.zero_add _)
    · rw [← labels.new i name at_i, Nat.add_comm]
      rfl
  · intro p env ofNames sized asks idx
    refine ⟨fun ⟨low, high⟩ => ?_, fun outside => ?_⟩
    · have mapped : p.mappedParamIndex env idx = some (idx - 1).toNat :=
        mapped_inRange well ofNames sized low high
      refine ⟨mapped, ?_⟩
      rw [Params.routedBindRc, if_neg (by omega), mapped]
      rfl
    · have mapped := mapped_outOfRange ofNames sized asks outside
      refine ⟨mapped, ?_⟩
      rw [Params.routedBindRc, mapped]
      split <;> rfl

/-- The names of `:id`, `?` and `@title`. -/
def threeNames : List (Option Text) := [some "id".toList, none, some "title".toList]

/-- A statement with them, before anything is bound. -/
def threeParams : Params := ⟨[], threeNames, List.replicate 3 .null, .inr rfl⟩

theorem shadow_of_threeNames :
    threeNames = Translate.paramNames [":id".toList, "?".toList, "@title".toList] ∧
      (∃ ps, parameters (dummyShadowSql threeNames) = some ps ∧
        (Variables.number ps).label 3 = some ":title".toList) ∧
      threeParams.routedBindRc ⟨false, parameterName threeNames, []⟩ 3 = .ok ∧
      threeParams.routedBindRc ⟨false, parameterName threeNames, []⟩ 4 = .range := by
  have names : ∀ name, some name ∈ threeNames → name = "id".toList ∨ name = "title".toList := by
    intro name mem
    simpa [threeNames] using mem
  have well : WellNamed threeNames := by
    refine ⟨by decide, fun name mem => ?_, fun name mem => ?_⟩
    · rcases names name mem with rfl | rfl <;> decide
    · rcases names name mem with rfl | rfl <;> decide
  obtain ⟨⟨ps, found, -, -, labels⟩, binds⟩ := shadow_and_bind_agree well
  have bind := binds threeParams ⟨false, parameterName threeNames, []⟩ rfl rfl rfl
  exact ⟨by decide, ⟨ps, found, labels 2 _ rfl⟩, ((bind 3).1 (by decide)).2,
    ((bind 4).2 (by decide)).2⟩

end PlexPostgres.Bind
