import PlexPostgres.Postgres.OnConflict
import PlexPostgres.Sqlite.Insert

/-!
# ON CONFLICT in the place of OR REPLACE and OR IGNORE

SQLite resolves a conflict on any unique key of the table; PostgreSQL on the one key the
clause names, and it fails on any other.  It also writes the row it conflicts with where
SQLite puts a new row in its place, and it writes no row twice.  So the two leave the same
rows in every table content if and only if the new rows can conflict on no key that does
not hold the named one, the update assigns every other column, and the new rows do not
conflict with each other.

The conditions are on the new rows and the table's columns and keys; the property is over
every content.
-/

namespace PlexPostgres.Translate

open UniqueKeys Sqlite Postgres

variable {C V : Type*} [DecidableEq C] [DecidableEq V]

/-- **What a table can hold**: rows that are kept apart, with values in its columns. -/
structure Content (columns : List C) (keys : List (List C)) (rows : List (Row C V)) : Prop where
  distinct : Distinct keys rows
  fits : ∀ r ∈ rows, ∀ c ∉ columns, r c = none

/-- The rows before a statement. -/
def unwritten (rows : List (Row C V)) : List (Tuple C V) := rows.map (·, false)

omit [DecidableEq C] [DecidableEq V] in
theorem map_unwritten (rows : List (Row C V)) : (unwritten rows).map Prod.fst = rows := by
  rw [unwritten, List.map_map]
  exact List.map_id rows

/-- **`DO UPDATE` leaves the rows that `OR REPLACE` leaves**, whatever the table holds. -/
def UpdatesAgree (columns : List C) (keys : List (List C)) (target assigned : List C)
    (ns : List (Row C V)) : Prop :=
  ∀ rows, Content columns keys rows →
    ∃ out, ns.foldlM (doUpdate keys target assigned) (unwritten rows) = some out ∧
      (out.map Prod.fst).Perm (ns.foldl (orReplace keys) rows)

/-- **When it does.** -/
structure UpdateSound (columns : List C) (keys : List (List C)) (target assigned : List C)
    (ns : List (Row C V)) : Prop where
  /-- A key on which a new row can conflict holds the target. -/
  contained : ∀ n ∈ ns, ∀ key ∈ keys, agree key n n = true → target ⊆ key
  /-- If a new row can conflict on the target, all other columns are assigned. -/
  covers : (∃ n ∈ ns, agree target n n = true) → ∀ c ∈ columns, c ∈ target ∨ c ∈ assigned
  /-- The new rows do not conflict with each other. -/
  apart : ns.Pairwise fun n m => agree target n m = false

/-- **`DO NOTHING` leaves the rows that `OR IGNORE` leaves**, whatever the table holds. -/
def SkipsAgree (columns : List C) (keys arbiters : List (List C)) (ns : List (Row C V)) : Prop :=
  ∀ rows, Content columns keys rows →
    ∃ out, ns.foldlM (doNothing arbiters keys) (unwritten rows) = some out ∧
      (out.map Prod.fst).Perm (ns.foldl (orIgnore keys) rows)

/-- **When it does, with a target**: a new row that can conflict on a key without the target
comes behind one that it conflicts with on the target. -/
def SkipSound (keys : List (List C)) (target : List C) (ns : List (Row C V)) : Prop :=
  ∀ before n after, ns = before ++ n :: after →
    (∃ m ∈ before, agree target m n = true) ∨
      ∀ key ∈ keys, agree key n n = true → target ⊆ key

/-! ### Runs that do not fail -/

variable {α β : Type*} {f : β → α → Option β} {b out : β}

theorem foldlM_append_cons {before after : List α} {a : α}
    (done : (before ++ a :: after).foldlM f b = some out) :
    ∃ mid next, before.foldlM f b = some mid ∧ f mid a = some next ∧
      after.foldlM f next = some out := by
  rw [List.foldlM_append, Option.bind_eq_bind, Option.bind_eq_some_iff] at done
  obtain ⟨mid, first, rest⟩ := done
  rw [List.foldlM_cons, Option.bind_eq_bind, Option.bind_eq_some_iff] at rest
  obtain ⟨next, step, last⟩ := rest
  exact ⟨mid, next, first, step, last⟩

/-- What each step of a run keeps is true at its end. -/
theorem foldlM_invariant (P : β → Prop) {l : List α}
    (step : ∀ a ∈ l, ∀ b b', P b → f b a = some b' → P b') (start : P b)
    (done : l.foldlM f b = some out) : P out := by
  induction l generalizing b with
  | nil =>
    cases done
    exact start
  | cons a l ih =>
    rw [List.foldlM_cons, Option.bind_eq_bind, Option.bind_eq_some_iff] at done
    obtain ⟨next, one, rest⟩ := done
    exact ih (fun d mem => step d (by simp [mem])) (step a (by simp) b next start one) rest

section

variable {columns : List C} {keys : List (List C)} {target assigned : List C}
  {ns : List (Row C V)}

omit [DecidableEq C] in
theorem content_singleton {r : Row C V} (fits : ∀ c ∉ columns, r c = none) :
    Content columns keys [r] :=
  ⟨List.pairwise_singleton _ _, by simpa using fits⟩

omit [DecidableEq C] in
theorem content_nil : Content columns keys ([] : List (Row C V)) := ⟨List.Pairwise.nil, by simp⟩

/-! ### DO UPDATE: the conditions are needed -/

/-- The only row the statement did not write is `e`. -/
def Besides (e : Row C V) (st : List (Tuple C V)) : Prop :=
  (e, false) ∈ st ∧ ∀ r, (r, false) ∈ st → r = e

omit [DecidableEq C] [DecidableEq V] in
theorem besides_unwritten (e : Row C V) : Besides e (unwritten [e]) := by
  simp [Besides, unwritten]

variable {e n : Row C V} {st st' : List (Tuple C V)}

/-- New rows that do not conflict with `e` on the target leave it alone. -/
theorem Besides.step (besides : Besides e st) (free : agree target n e = false)
    (done : doUpdate keys target assigned st n = some st') : Besides e st' := by
  rcases doUpdate_cases done with ⟨-, -, rfl⟩ | ⟨r, rest, perm, conflicts, -⟩
  · refine ⟨List.mem_append_left _ besides.1, fun r mem => besides.2 r ?_⟩
    simpa using mem
  · rw [besides.2 r (perm.mem_iff.mpr (by simp)), free] at conflicts
    cases conflicts

theorem contained_of_updatesAgree (keysKnown : ∀ key ∈ keys, key ⊆ columns)
    (agrees : UpdatesAgree columns keys target assigned ns) :
    ∀ n ∈ ns, ∀ key ∈ keys, agree key n n = true → target ⊆ key := by
  intro n mem key isKey whole c inTarget
  by_contra outside
  -- A row that conflicts with `n` on this key, and on the target with nothing.
  have free (m : Row C V) : agree target m (only key n) = false :=
    not_agree_only inTarget outside n m
  have fits : ∀ d ∉ columns, only key n d = none := fun d unknown =>
    if_neg fun inKey => unknown (keysKnown key isKey inKey)
  obtain ⟨out, done, -⟩ := agrees [only key n] (content_singleton fits)
  obtain ⟨before, after, rfl⟩ := List.append_of_mem mem
  obtain ⟨mid, next, first, one, -⟩ := foldlM_append_cons done
  have besides : Besides (only key n) mid :=
    foldlM_invariant _ (fun m _ _ _ besides step => besides.step (free m) step)
      (besides_unwritten _) first
  rcases doUpdate_cases one with ⟨-, apart, -⟩ | ⟨r, rest, perm, conflicts, -⟩
  · have clashes : clash keys n (only key n) = true := clash_iff.mpr ⟨key, isKey, agree_only whole⟩
    rw [apart _ besides.1] at clashes
    cases clashes
  · rw [besides.2 r (perm.mem_iff.mpr (by simp)), free] at conflicts
    cases conflicts

variable {rows : List (Row C V)}

/-- In an empty table every row is inserted, none of them in conflict with an earlier one. -/
theorem apart_of_written {out : List (Tuple C V)}
    (done : ns.foldlM (doUpdate keys target assigned) (rows.map (·, true)) = some out) :
    (∀ r ∈ rows, ∀ n ∈ ns, agree target n r = false) ∧
      ns.Pairwise fun n m => agree target n m = false := by
  induction ns generalizing rows with
  | nil => simp
  | cons n ns ih =>
    rw [List.foldlM_cons, Option.bind_eq_bind, Option.bind_eq_some_iff] at done
    obtain ⟨next, one, rest⟩ := done
    rcases doUpdate_cases one with ⟨free, -, rfl⟩ | ⟨r, _, perm, -, -⟩
    · have again : rows.map (·, true) ++ [(n, true)] = (rows ++ [n]).map (·, true) := by simp
      rw [again] at rest
      obtain ⟨older, pairwise⟩ := ih rest
      refine ⟨fun r mem m isNew => ?_, List.pairwise_cons.mpr ⟨fun m mem => ?_, pairwise⟩⟩
      · rcases List.mem_cons.mp isNew with rfl | later
        · exact free (r, true) (List.mem_map_of_mem mem)
        · exact older r (by simp [mem]) m later
      · rw [agree_comm]
        exact older n (by simp) m mem
    · have unwritten := perm.mem_iff.mpr (List.mem_cons_self (a := (r, false)))
      simp at unwritten

theorem apart_of_updatesAgree (agrees : UpdatesAgree columns keys target assigned ns) :
    ns.Pairwise fun n m => agree target n m = false := by
  obtain ⟨out, done, -⟩ := agrees [] content_nil
  have written : ns.foldlM (doUpdate keys target assigned) (([] : List (Row C V)).map (·, true)) =
      some out := done
  exact (apart_of_written written).2

/-- Another value, or NULL for a value. -/
def other [Inhabited V] : Option V → Option V
  | none => some default
  | some _ => none

omit [DecidableEq V] in
theorem other_ne [Inhabited V] (v : Option V) : other v ≠ v := by cases v <;> simp [other]

/-- A row that the statement has written stays to its end. -/
theorem mem_of_written {out : List (Tuple C V)} (mem : (e, true) ∈ st)
    (done : ns.foldlM (doUpdate keys target assigned) st = some out) : (e, true) ∈ out := by
  refine foldlM_invariant (fun st => (e, true) ∈ st) (fun n _ st st' mem one => ?_) mem done
  rcases doUpdate_cases one with ⟨-, -, rfl⟩ | ⟨r, rest, perm, -, rfl⟩
  · exact List.mem_append_left _ mem
  · refine List.mem_cons_of_mem _ ?_
    simpa using perm.mem_iff.mp mem

theorem agree_update {r : Row C V} (conflicts : agree target n r = true) :
    agree target n (update assigned n r) = true := by
  rw [agree_iff] at conflicts ⊢
  intro c mem
  obtain ⟨some, same⟩ := conflicts c mem
  refine ⟨some, ?_⟩
  rw [update]
  split
  · rfl
  · exact same

variable {base : List C}

theorem covers_of_updatesAgree [Inhabited V] (isKey : base ∈ keys) (sub : base ⊆ target)
    (targetKnown : target ⊆ columns) (agrees : UpdatesAgree columns keys target assigned ns) :
    (∃ n ∈ ns, agree target n n = true) → ∀ c ∈ columns, c ∈ target ∨ c ∈ assigned := by
  rintro ⟨n, mem, whole⟩ c known
  by_contra missing
  obtain ⟨outside, unassigned⟩ := not_or.mp missing
  have pairwise := apart_of_updatesAgree agrees
  -- A row that conflicts with `n` on the target and differs in the missing column.
  let e : Row C V := fun d => if d ∈ target then n d else if d = c then other (n c) else none
  have conflicts : agree target n e = true := by
    rw [agree_iff] at whole ⊢
    exact fun d inTarget => ⟨(whole d inTarget).1, (if_pos inTarget).symm⟩
  have fits : ∀ d ∉ columns, e d = none := by
    intro d unknown
    have notTarget : d ∉ target := fun inTarget => unknown (targetKnown inTarget)
    have notC : d ≠ c := fun same => unknown (same ▸ known)
    simp [e, notTarget, notC]
  have differs : e c ≠ n c := by
    simp only [e, if_neg outside, if_pos]
    exact other_ne _
  obtain ⟨out, done, same⟩ := agrees [e] (content_singleton fits)
  obtain ⟨before, after, rfl⟩ := List.append_of_mem mem
  obtain ⟨mid, next, first, one, last⟩ := foldlM_append_cons done
  obtain ⟨-, laterPairwise, cross⟩ := List.pairwise_append.mp pairwise
  have apart : ∀ m ∈ before ++ after, agree target m n = false := by
    intro m isOther
    rcases List.mem_append.mp isOther with earlier | later
    · exact cross m earlier n (by simp)
    · rw [agree_comm]
      exact List.rel_of_pairwise_cons laterPairwise later
  have besides : Besides e mid := by
    refine foldlM_invariant _ (fun m earlier _ _ besides step => besides.step ?_ step)
      (besides_unwritten e) first
    refine Bool.eq_false_iff.mpr fun both => ?_
    have none := apart m (List.mem_append_left _ earlier)
    rw [agree_trans both (agree_symm conflicts)] at none
    cases none
  have written : (update assigned n e, true) ∈ next := by
    rcases doUpdate_cases one with ⟨free, -, -⟩ | ⟨r, rest, perm, -, rfl⟩
    · rw [free (e, false) besides.1] at conflicts
      cases conflicts
    · rw [besides.2 r (perm.mem_iff.mpr (by simp))]
      simp
  have left : update assigned n e ∈ (before ++ n :: after).foldl (orReplace keys) [e] :=
    same.mem_iff.mp (List.mem_map_of_mem (f := Prod.fst) (mem_of_written written last))
  have kept : update assigned n e c = e c := if_neg unassigned
  rcases mem_foldl_orReplace left with isNew | ⟨-, free⟩
  · -- Then it is `n` itself, the only new row with these values in the target.
    have isN : update assigned n e = n := by
      by_contra ne
      have isOther : update assigned n e ∈ before ++ after := by simpa [ne] using isNew
      have none := apart _ isOther
      rw [agree_symm (agree_update conflicts)] at none
      cases none
    exact differs (kept.symm.trans (congrFun isN c))
  · have clashes : clash keys n (update assigned n e) = true :=
      clash_iff.mpr ⟨base, isKey, agree_mono sub (agree_update conflicts)⟩
    rw [free n (by simp)] at clashes
    cases clashes

/-! ### DO UPDATE: the conditions are enough -/

/-- **PostgreSQL has the rows that SQLite has**, and those the statement has written do not
conflict with those that are to come. -/
structure Follows (columns : List C) (keys : List (List C)) (target : List C)
    (later : List (Row C V)) (st : List (Tuple C V)) (rows : List (Row C V)) : Prop where
  same : (st.map Prod.fst).Perm rows
  content : Content columns keys rows
  written : ∀ r, (r, true) ∈ st → ∀ n ∈ later, agree target r n = false

omit [DecidableEq C] in
theorem UpdateSound.tail (sound : UpdateSound columns keys target assigned (n :: ns)) :
    UpdateSound columns keys target assigned ns where
  contained m mem := sound.contained m (by simp [mem])
  covers := fun ⟨m, mem, whole⟩ => sound.covers ⟨m, by simp [mem], whole⟩
  apart := (List.pairwise_cons.mp sound.apart).2

omit [DecidableEq C] in
theorem content_orReplace (content : Content columns keys rows) (fits : ∀ c ∉ columns, n c = none) :
    Content columns keys (orReplace keys rows n) := by
  refine ⟨distinct_orReplace content.distinct, fun r mem => ?_⟩
  rcases mem_orReplace.mp mem with ⟨old, -⟩ | rfl
  · exact content.fits r old
  · exact fits

omit [DecidableEq C] in
/-- A new row conflicts on no key but where it conflicts on the target. -/
theorem UpdateSound.not_clash {r : Row C V}
    (sound : UpdateSound columns keys target assigned (n :: ns)) (free : agree target n r = false) :
    clash keys n r = false := by
  refine clash_eq_false_iff.mpr fun key isKey => Bool.eq_false_iff.mpr fun both => ?_
  rw [agree_mono (sound.contained n (by simp) key isKey (agree_self both)) both] at free
  cases free

/-- The row it conflicts with becomes the new row. -/
theorem UpdateSound.update_eq {r : Row C V}
    (sound : UpdateSound columns keys target assigned (n :: ns))
    (conflicts : agree target n r = true) (newFits : ∀ c ∉ columns, n c = none)
    (fits : ∀ c ∉ columns, r c = none) : update assigned n r = n := by
  funext c
  rw [update]
  split
  · rfl
  next unassigned =>
    by_cases known : c ∈ columns
    · have inTarget : c ∈ target :=
        (sound.covers ⟨n, by simp, agree_self conflicts⟩ c known).resolve_right unassigned
      exact (agree_iff.mp conflicts c inTarget).2.symm
    · rw [fits c known, newFits c known]

/-- **One row.** -/
theorem Follows.step (isKey : base ∈ keys) (sub : base ⊆ target)
    (sound : UpdateSound columns keys target assigned (n :: ns))
    (newFits : ∀ c ∉ columns, n c = none)
    (follows : Follows columns keys target (n :: ns) st rows) :
    ∃ st', doUpdate keys target assigned st n = some st' ∧
      Follows columns keys target ns st' (orReplace keys rows n) := by
  have content := content_orReplace follows.content newFits
  have later : ∀ m ∈ ns, agree target n m = false := (List.pairwise_cons.mp sound.apart).1
  cases found : st.find? fun s => agree target n s.1 with
  | none =>
    have none : ∀ s ∈ st, agree target n s.1 = false := fun s mem => by
      simpa using List.find?_eq_none.mp found s mem
    have free : ∀ s ∈ st, clash keys n s.1 = false := fun s mem => sound.not_clash (none s mem)
    refine ⟨_, by simp only [doUpdate, found]; exact insertRow_of_free free, ?_, content, ?_⟩
    · have all : rows.filter (!clash keys n ·) = rows := by
        refine List.filter_eq_self.mpr fun r mem => ?_
        obtain ⟨s, isIn, rfl⟩ := List.mem_map.mp (follows.same.mem_iff.mpr mem)
        simp [free s isIn]
      rw [orReplace, all, List.map_append]
      exact follows.same.append_right [n]
    · intro r mem m isNew
      rcases List.mem_append.mp mem with old | last
      · exact follows.written r old m (by simp [isNew])
      · obtain rfl : r = n := by simpa using last
        exact later m isNew
  | some s =>
    obtain ⟨r, own⟩ := s
    have conflicts : agree target n r = true :=
      List.find?_some (p := fun s : Tuple C V => agree target n s.1) found
    have perm := perm_of_find found
    have mem : (r, own) ∈ st := perm.mem_iff.mpr (by simp)
    obtain rfl : own = false := by
      cases own with
      | false => rfl
      | true =>
        have none := follows.written r mem n (by simp)
        rw [agree_symm conflicts] at none
        cases none
    generalize others : st.eraseP (fun s => agree target n s.1) = rest at perm
    have split : rows.Perm (r :: rest.map Prod.fst) :=
      follows.same.symm.trans (perm.map Prod.fst)
    have apart : Distinct keys (r :: rest.map Prod.fst) :=
      (split.pairwise_iff fun apart => clash_comm.trans apart).mp follows.content.distinct
    have becomes := sound.update_eq conflicts newFits
      (follows.content.fits r (split.mem_iff.mpr (by simp)))
    -- The other rows differ from the one that conflicts, so they do not.
    have free : ∀ s ∈ rest, clash keys n s.1 = false := by
      intro s isIn
      refine sound.not_clash (Bool.eq_false_iff.mpr fun both => ?_)
      have none := apart.not_agree isKey (agree_mono sub conflicts) s.1 (List.mem_map_of_mem isIn)
      rw [agree_mono sub both] at none
      cases none
    refine ⟨_, doUpdate_of_found found (by rw [others, becomes]; exact free), ?_, content, ?_⟩
    · have clashes : clash keys n r = true := clash_iff.mpr ⟨base, isKey, agree_mono sub conflicts⟩
      have all : (rest.map Prod.fst).filter (!clash keys n ·) = rest.map Prod.fst := by
        refine List.filter_eq_self.mpr fun t isIn => ?_
        obtain ⟨s, inRest, rfl⟩ := List.mem_map.mp isIn
        simp [free s inRest]
      refine List.Perm.trans ?_ ((split.filter _).append_right _).symm
      rw [List.filter_cons_of_neg (by simp [clashes]), all, becomes, others]
      exact (List.perm_append_singleton n _).symm
    · intro t isIn m isNew
      rw [becomes, others] at isIn
      rcases List.mem_cons.mp isIn with same | old
      · obtain rfl : t = n := congrArg Prod.fst same
        exact later m isNew
      · exact follows.written t (perm.mem_iff.mpr (by simp [old])) m (by simp [isNew])

/-- **The rows of a statement.** -/
theorem Follows.run (isKey : base ∈ keys) (sub : base ⊆ target)
    (sound : UpdateSound columns keys target assigned ns)
    (newFits : ∀ n ∈ ns, ∀ c ∉ columns, n c = none)
    (follows : Follows columns keys target ns st rows) :
    ∃ out, ns.foldlM (doUpdate keys target assigned) st = some out ∧
      (out.map Prod.fst).Perm (ns.foldl (orReplace keys) rows) := by
  induction ns generalizing st rows with
  | nil => exact ⟨st, rfl, follows.same⟩
  | cons n ns ih =>
    obtain ⟨st', one, follows'⟩ := follows.step isKey sub sound (newFits n (by simp))
    obtain ⟨out, rest, same⟩ := ih sound.tail (fun m mem => newFits m (by simp [mem])) follows'
    refine ⟨out, ?_, same⟩
    rw [List.foldlM_cons, one]
    exact rest

/-- **When `DO UPDATE` leaves what `OR REPLACE` leaves.** -/
theorem updatesAgree_iff [Inhabited V] (keysKnown : ∀ key ∈ keys, key ⊆ columns)
    (isKey : base ∈ keys) (sub : base ⊆ target) (sup : target ⊆ base)
    (newFits : ∀ n ∈ ns, ∀ c ∉ columns, n c = none) :
    UpdatesAgree columns keys target assigned ns ↔
      UpdateSound columns keys target assigned ns := by
  constructor
  · intro agrees
    exact ⟨contained_of_updatesAgree keysKnown agrees,
      covers_of_updatesAgree isKey sub (List.Subset.trans sup (keysKnown base isKey)) agrees,
      apart_of_updatesAgree agrees⟩
  · intro sound rows content
    refine Follows.run isKey sub sound newFits ⟨?_, content, ?_⟩
    · rw [map_unwritten]
    · simp [unwritten]

/-! ### DO NOTHING -/

variable {arbiters : List (List C)}

omit [DecidableEq C] in
/-- What a row that does not fail does. -/
theorem doNothing_cases (done : doNothing arbiters keys st n = some st') :
    st' = st ∨ (∀ s ∈ st, clash keys n s.1 = false) ∧ st' = st ++ [(n, true)] := by
  unfold doNothing at done
  split at done
  · exact .inl (Option.some.inj done).symm
  · exact .inr (insertRow_eq_some done)

theorem skipSound_of_skipsAgree (keysKnown : ∀ key ∈ keys, key ⊆ columns)
    (agrees : SkipsAgree columns keys [target] ns) : SkipSound keys target ns := by
  rintro before n after rfl
  by_contra bad
  simp only [not_or, not_exists, not_and] at bad
  obtain ⟨fresh, notAll⟩ := bad
  push Not at notAll
  obtain ⟨key, isKey, whole, notSub⟩ := notAll
  obtain ⟨c, inTarget, outside⟩ : ∃ c ∈ target, c ∉ key := by
    by_contra none
    push Not at none
    exact notSub none
  have fits : ∀ d ∉ columns, only key n d = none := fun d unknown =>
    if_neg fun inKey => unknown (keysKnown key isKey inKey)
  obtain ⟨out, done, -⟩ := agrees [only key n] (content_singleton fits)
  obtain ⟨mid, next, first, one, -⟩ := foldlM_append_cons done
  -- The row that conflicts on the key is still there, and all others are new.
  have known : (only key n, false) ∈ mid ∧ ∀ s ∈ mid, s.1 = only key n ∨ s.1 ∈ before := by
    refine foldlM_invariant
      (fun st => (only key n, false) ∈ st ∧ ∀ s ∈ st, s.1 = only key n ∨ s.1 ∈ before)
      (fun m earlier st st' known step => ?_) (by simp [unwritten]) first
    rcases doNothing_cases step with rfl | ⟨-, rfl⟩
    · exact known
    · exact ⟨List.mem_append_left _ known.1,
        List.forall_mem_append.mpr ⟨known.2, List.forall_mem_singleton.mpr (.inr earlier)⟩⟩
  have noArbiter : ∀ s ∈ mid, clash [target] n s.1 = false := by
    intro s mem
    rw [clash_singleton]
    rcases known.2 s mem with same | earlier
    · rw [same]
      exact not_agree_only inTarget outside n n
    · rw [agree_comm]
      exact Bool.eq_false_iff.mpr (fresh s.1 earlier)
  have inserted : insertRow keys mid n = some next := by
    rwa [doNothing, if_neg fun some => any_clash_iff.mp some noArbiter] at one
  have clashes : clash keys n (only key n) = true := clash_iff.mpr ⟨key, isKey, agree_only whole⟩
  rw [(insertRow_eq_some inserted).1 _ known.1] at clashes
  cases clashes

omit [DecidableEq C] in
/-- **One row**: what is skipped by one is skipped by the other. -/
theorem doNothing_eq
    (same : (∃ s ∈ st, clash arbiters n s.1 = true) ↔ ∃ s ∈ st, clash keys n s.1 = true) :
    ∃ st', doNothing arbiters keys st n = some st' ∧
      st'.map Prod.fst = orIgnore keys (st.map Prod.fst) n := by
  by_cases skips : ∃ s ∈ st, clash keys n s.1 = true
  · refine ⟨st, ?_, ?_⟩
    · rw [doNothing, if_pos (List.any_eq_true.mpr (same.mpr skips))]
    · have any : (st.map Prod.fst).any (clash keys n) = true := by
        rw [List.any_map]
        exact List.any_eq_true.mpr skips
      rw [orIgnore, if_pos any]
  · have free : ∀ s ∈ st, clash keys n s.1 = false := fun s mem =>
      Bool.eq_false_iff.mpr fun clashes => skips ⟨s, mem, clashes⟩
    refine ⟨st ++ [(n, true)], ?_, ?_⟩
    · rw [doNothing, if_neg fun some => skips (same.mp (List.any_eq_true.mp some)),
        insertRow_of_free free]
    · have none : ¬ (st.map Prod.fst).any (clash keys n) = true := by
        rw [List.any_map]
        exact fun some => skips (List.any_eq_true.mp some)
      rw [orIgnore, if_neg none, List.map_append]
      rfl

omit [DecidableEq C] in
/-- **Without a target `DO NOTHING` always leaves what `OR IGNORE` leaves.** -/
theorem skipsAgree_all : SkipsAgree columns keys keys ns := by
  intro rows _
  suffices ∀ st : List (Tuple C V), ∃ out, ns.foldlM (doNothing keys keys) st = some out ∧
      out.map Prod.fst = ns.foldl (orIgnore keys) (st.map Prod.fst) by
    obtain ⟨out, done, same⟩ := this (unwritten rows)
    exact ⟨out, done, by rw [same, map_unwritten]⟩
  intro st
  induction ns generalizing st with
  | nil => exact ⟨st, rfl, rfl⟩
  | cons n ns ih =>
    have both : (∃ s ∈ st, clash keys n s.1 = true) ↔ ∃ s ∈ st, clash keys n s.1 = true := Iff.rfl
    obtain ⟨st', one, same⟩ := doNothing_eq both
    obtain ⟨out, rest, last⟩ := ih st'
    refine ⟨out, ?_, ?_⟩
    · rw [List.foldlM_cons, one]
      exact rest
    · rw [last, same, List.foldl_cons]

omit [DecidableEq C] in
/-- Every row so far conflicts on the target with one of the table, if with any. -/
theorem skips_run (isKey : base ∈ keys) (sub : base ⊆ target) {before : List (Row C V)}
    (sound : SkipSound keys target (before ++ ns))
    (seen : ∀ m ∈ before, agree target m m = true → ∃ s ∈ st, agree target m s.1 = true) :
    ∃ out, ns.foldlM (doNothing [target] keys) st = some out ∧
      out.map Prod.fst = ns.foldl (orIgnore keys) (st.map Prod.fst) := by
  induction ns generalizing before st with
  | nil => exact ⟨st, rfl, rfl⟩
  | cons n ns ih =>
    have same : (∃ s ∈ st, clash [target] n s.1 = true) ↔ ∃ s ∈ st, clash keys n s.1 = true := by
      simp only [clash_singleton]
      constructor
      · rintro ⟨s, mem, both⟩
        exact ⟨s, mem, clash_iff.mpr ⟨base, isKey, agree_mono sub both⟩⟩
      · rintro ⟨s, mem, clashes⟩
        obtain ⟨key, inKeys, both⟩ := clash_iff.mp clashes
        rcases sound before n ns rfl with ⟨m, earlier, likes⟩ | all
        · obtain ⟨t, inTable, conflicts⟩ := seen m earlier (agree_self likes)
          exact ⟨t, inTable, agree_trans (agree_symm likes) conflicts⟩
        · exact ⟨s, mem, agree_mono (all key inKeys (agree_self both)) both⟩
    obtain ⟨st', one, rows⟩ := doNothing_eq same
    have grown : ∀ s ∈ st, s ∈ st' := by
      rcases doNothing_cases one with rfl | ⟨-, rfl⟩
      · exact fun s mem => mem
      · exact fun s mem => List.mem_append_left _ mem
    have seen' : ∀ m ∈ before ++ [n], agree target m m = true →
        ∃ s ∈ st', agree target m s.1 = true := by
      intro m mem whole
      rcases List.mem_append.mp mem with earlier | isNew
      · obtain ⟨s, inTable, conflicts⟩ := seen m earlier whole
        exact ⟨s, grown s inTable, conflicts⟩
      · obtain rfl : m = n := by simpa using isNew
        by_cases skips : ∃ s ∈ st, agree target m s.1 = true
        · obtain ⟨s, inTable, conflicts⟩ := skips
          exact ⟨s, grown s inTable, conflicts⟩
        · have inserted : insertRow keys st m = some st' := by
            rwa [doNothing, if_neg fun some => skips (by
              simpa only [clash_singleton] using List.any_eq_true.mp some)] at one
          refine ⟨(m, true), ?_, whole⟩
          rw [(insertRow_eq_some inserted).2]
          simp
    obtain ⟨out, rest, last⟩ := ih (by simpa using sound) seen'
    refine ⟨out, ?_, ?_⟩
    · rw [List.foldlM_cons, one]
      exact rest
    · rw [last, rows, List.foldl_cons]

/-- **When `DO NOTHING` with a target leaves what `OR IGNORE` leaves.** -/
theorem skipsAgree_iff (keysKnown : ∀ key ∈ keys, key ⊆ columns) (isKey : base ∈ keys)
    (sub : base ⊆ target) :
    SkipsAgree columns keys [target] ns ↔ SkipSound keys target ns := by
  refine ⟨skipSound_of_skipsAgree keysKnown, fun sound rows _ => ?_⟩
  have seen : ∀ m ∈ ([] : List (Row C V)), agree target m m = true →
      ∃ s ∈ unwritten rows, agree target m s.1 = true := by
    simp
  obtain ⟨out, done, same⟩ := skips_run isKey sub (show SkipSound keys target ([] ++ ns) from sound)
    seen
  exact ⟨out, done, by rw [same, map_unwritten]⟩

end

end PlexPostgres.Translate
