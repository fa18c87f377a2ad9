import Mathlib.Data.List.AList
import Mathlib.Data.List.MinMax
import PlexPostgres.Bind.Params

/-!
# The declared type of an aliased column

The declared types of columns are remembered under `table_column`.  An alias is looked up as it
is and then compared with every key: a key matches if the alias starts with its table and ends
with its column, and the longest matching key is taken.  Of two of one length it is the one that
the iteration over the hash map comes to first.

A key matches exactly if it is the alias with a stretch cut out, from one underscore up to another
(or repeated, if the second stands before the first).  Two matching keys are of one length if as
much is cut out for the one as for the other.
-/

namespace PlexPostgres.Column

open PlexPostgres.Bind (Bytes ascii isUtf8)

/-- `DECLTYPE_CACHE`: types under their keys, in the order of an iteration. -/
abbrev DecltypeCache := AList fun _ : Bytes => Bytes

abbrev DecltypeCache.Entry := Σ _ : Bytes, Bytes

/-- `alias_matches_cache_key`. -/
def aliasMatchesCacheKey (name key : Bytes) : Bool :=
  name == key || (List.range key.length).any fun idx =>
    let table := key.take idx
    let column := key.drop (idx + 1)
    key[idx]? == some 95 && !table.isEmpty && !column.isEmpty && table.isPrefixOf name &&
      name[table.length]? == some 95 && (95 :: column).isSuffixOf name

namespace DecltypeCache

/-- One round of the loop: the best match so far, and the next entry. -/
def better (name : Bytes) (best : Option Entry) (e : Entry) : Option Entry :=
  if aliasMatchesCacheKey name e.1 then
    match best with
    | some b => if b.1.length < e.1.length then some e else best
    | none => some e
  else best

/-- The loop over the entries. -/
def bestMatch (name : Bytes) (cache : DecltypeCache) : Option Entry :=
  cache.entries.foldl (better name) none

/-- `rust_decltype_cache_lookup_alias`. -/
def lookupAlias (name : Bytes) (cache : DecltypeCache) : Option Bytes :=
  if name = [] ∨ isUtf8 name = false then none
  else (cache.lookup name).or ((cache.bestMatch name).map Sigma.snd)

/-- The entries whose keys match. -/
def candidates (name : Bytes) (cache : DecltypeCache) : List Entry :=
  cache.entries.filter (aliasMatchesCacheKey name ·.1)

/-- The entry has the longest of the matching keys, or one of them. -/
def Longest (name : Bytes) (cache : DecltypeCache) (e : Entry) : Prop :=
  e ∈ cache.candidates name ∧ ∀ f ∈ cache.candidates name, f.1.length ≤ e.1.length

variable {name : Bytes} {cache iterated : DecltypeCache} {e : Entry}

theorem bestMatch_eq_argmax :
    cache.bestMatch name = (cache.candidates name).argmax (fun e => e.1.length) := by
  rw [bestMatch, List.argmax, candidates, List.foldl_filter]
  congr 1
  funext best e
  cases best <;> rfl

/-- **The order of the iteration decides** between the longest matching keys, and nothing else:
an entry is found in some order exactly if its key is one of them. -/
theorem exists_bestMatch_iff :
    (∃ iterated : DecltypeCache, iterated.entries.Perm cache.entries ∧
      iterated.bestMatch name = some e) ↔ cache.Longest name e := by
  constructor
  · rintro ⟨iterated, perm, found⟩
    rw [bestMatch_eq_argmax] at found
    have same : (iterated.candidates name).Perm (cache.candidates name) := perm.filter _
    refine ⟨same.mem_iff.mp (List.argmax_mem found), fun f mem => ?_⟩
    exact List.le_of_mem_argmax (f := fun e : Entry => e.1.length) (same.mem_iff.mpr mem) found
  · rintro ⟨mem, longest⟩
    obtain ⟨known, isMatch⟩ := List.mem_filter.mp mem
    have perm := List.perm_cons_erase known
    let iterated : DecltypeCache := ⟨_, (List.perm_nodupKeys perm).mp cache.nodupKeys⟩
    have same : (cache.candidates name).Perm (iterated.candidates name) := perm.filter _
    have first : iterated.candidates name = e :: _ := List.filter_cons_of_pos isMatch
    refine ⟨iterated, perm.symm, ?_⟩
    rw [bestMatch_eq_argmax, List.argmax_eq_some_iff]
    refine ⟨same.mem_iff.mp mem, fun f inside => longest f (same.mem_iff.mpr inside),
      fun f _ _ => ?_⟩
    rw [first, List.idxOf_cons_self]
    exact Nat.zero_le _

/-! ### Keys that match -/

/-- **The key is the alias with a stretch cut out**, from the underscore at `p` to the one at `q`:
its table stands before the first, its column behind the second. -/
structure CutOut (name : Bytes) (p q : ℕ) (key : Bytes) : Prop where
  table : 0 < p
  column : q + 1 < name.length
  first : name[p]? = some 95
  second : name[q]? = some 95
  key_eq : key = name.take p ++ name.drop q

theorem CutOut.length {p q : ℕ} {key : Bytes} (cut : CutOut name p q key) :
    key.length + q = name.length + p := by
  have inside := (List.getElem?_eq_some_iff.mp cut.first).1
  have := cut.column
  rw [cut.key_eq, List.length_append, List.length_take, List.length_drop]
  omega

/-- **A key matches exactly if it is the alias**, or the alias with a stretch cut out. -/
theorem aliasMatchesCacheKey_iff {key : Bytes} :
    aliasMatchesCacheKey name key = true ↔ name = key ∨ ∃ p q, CutOut name p q key := by
  simp only [aliasMatchesCacheKey, Bool.or_eq_true, beq_iff_eq, List.any_eq_true, List.mem_range,
    Bool.and_eq_true, Bool.not_eq_true', List.isEmpty_eq_false_iff, List.isPrefixOf_iff_prefix,
    List.isSuffixOf_iff_suffix]
  refine or_congr_right ⟨?_, ?_⟩
  · rintro ⟨p, inside, ⟨⟨⟨⟨underscore, table⟩, column⟩, before⟩, next⟩, rest, rfl⟩
    have length : (key.take p).length = p := List.length_take_of_le inside.le
    obtain ⟨_, is95⟩ := List.getElem?_eq_some_iff.mp underscore
    have behind : key.drop p = 95 :: key.drop (p + 1) := is95 ▸ List.drop_eq_getElem_cons inside
    rw [length] at next
    refine ⟨p, rest.length, ?_, ?_, next, ?_, ?_⟩
    · exact Nat.pos_of_ne_zero fun zero => table (by rw [zero, List.take_zero])
    · have := List.length_pos_iff.mpr column
      rw [List.length_append, List.length_cons]
      omega
    · rw [List.getElem?_append_right le_rfl, Nat.sub_self]
      rfl
    · have table := List.prefix_iff_eq_take.mp before
      rw [length] at table
      rw [List.drop_left, ← table, ← behind, List.take_append_drop]
  · rintro ⟨p, q, cut⟩
    have lengths := cut.length
    have column := cut.column
    have inside := (List.getElem?_eq_some_iff.mp cut.first).1
    obtain ⟨_, is95⟩ := List.getElem?_eq_some_iff.mp cut.second
    have length : (name.take p).length = p := List.length_take_of_le inside.le
    have before : key.take p = name.take p := by rw [cut.key_eq, List.take_left' length]
    have behind : key.drop p = name.drop q := by rw [cut.key_eq, List.drop_left' length]
    have further : key.drop (p + 1) = name.drop (q + 1) := by
      rw [← List.drop_drop, behind, List.drop_drop]
    have last : name.drop q = 95 :: name.drop (q + 1) := is95 ▸ List.drop_eq_getElem_cons _
    refine ⟨p, by omega, ⟨⟨⟨⟨?_, ?_⟩, ?_⟩, ?_⟩, ?_⟩, ?_⟩
    · rw [← Nat.add_zero p, ← List.getElem?_drop, behind, last]
      rfl
    · rw [before]
      exact List.ne_nil_of_length_pos (length.symm ▸ cut.table)
    · rw [further]
      exact List.ne_nil_of_length_pos (by rw [List.length_drop]; omega)
    · exact before ▸ List.take_prefix p name
    · rw [before, length, cut.first]
    · rw [further, ← last]
      exact List.drop_suffix q name

/-- **The keys that cut out least have one type**: two that cut out as much have, unless a third
cuts out less. -/
def CutsAgree (name : Bytes) (cache : DecltypeCache) : Prop :=
  ∀ e ∈ cache.entries, ∀ f ∈ cache.entries, ∀ p q p' q', CutOut name p q e.1 →
    CutOut name p' q' f.1 → q + p' = q' + p → e.2 = f.2 ∨
      ∃ g ∈ cache.entries, ∃ u v, CutOut name u v g.1 ∧ v + p < q + u

theorem mem_candidates_iff (unknown : name ∉ cache) :
    e ∈ cache.candidates name ↔ e ∈ cache.entries ∧ ∃ p q, CutOut name p q e.1 := by
  refine List.mem_filter.trans (and_congr_right fun mem => ?_)
  refine aliasMatchesCacheKey_iff.trans (or_iff_right fun same => unknown ?_)
  rw [same]
  exact AList.mem_keys.mpr (List.mem_map_of_mem mem)

theorem longest_of_least (unknown : name ∉ cache) (known : e ∈ cache.entries) {p q : ℕ}
    (cut : CutOut name p q e.1)
    (least : ∀ g ∈ cache.entries, ∀ u v, CutOut name u v g.1 → q + u ≤ v + p) :
    cache.Longest name e := by
  refine ⟨(mem_candidates_iff unknown).mpr ⟨known, p, q, cut⟩, fun g matched => ?_⟩
  obtain ⟨mem, u, v, other⟩ := (mem_candidates_iff unknown).mp matched
  have := least g mem u v other
  have := cut.length
  have := other.length
  omega

/-- Where the alias is no key, the longest matching keys are those that cut out least. -/
theorem cutsAgree_iff (unknown : name ∉ cache) :
    cache.CutsAgree name ↔ ∀ e f, cache.Longest name e → cache.Longest name f → e.2 = f.2 := by
  constructor
  · rintro agree e f ⟨he, longest⟩ ⟨hf, longest'⟩
    obtain ⟨known, p, q, cut⟩ := (mem_candidates_iff unknown).mp he
    obtain ⟨known', p', q', cut'⟩ := (mem_candidates_iff unknown).mp hf
    have lengths := cut.length
    have lengths' := cut'.length
    have sameLength := le_antisymm (longest' e he) (longest f hf)
    rcases agree e known f known' p q p' q' cut cut' (by omega) with same | ⟨g, mem, u, v, less⟩
    · exact same
    · have longer := longest g ((mem_candidates_iff unknown).mpr ⟨mem, u, v, less.1⟩)
      have := less.1.length
      have := less.2
      omega
  · intro alike e known f known' p q p' q' cut cut' amount
    by_contra apart
    push Not at apart
    obtain ⟨differ, least⟩ := apart
    refine differ (alike e f (longest_of_least unknown known cut least)
      (longest_of_least unknown known' cut' fun g mem u v other => ?_))
    have := least g mem u v other
    omega

/-- **The type an alias gets does not depend on the order** of the iteration exactly when the
alias is not looked for, is a key, or the keys that cut out least of it have one type. -/
theorem lookupAlias_perm_iff (name : Bytes) (cache : DecltypeCache) :
    (∀ iterated : DecltypeCache, iterated.entries.Perm cache.entries →
      iterated.lookupAlias name = cache.lookupAlias name) ↔
    (name = [] ∨ isUtf8 name = false) ∨ name ∈ cache ∨ cache.CutsAgree name := by
  by_cases empty : name = [] ∨ isUtf8 name = false
  · simp only [lookupAlias, empty, if_true, implies_true, true_or]
  by_cases known : name ∈ cache
  · obtain ⟨type, stored⟩ := Option.isSome_iff_exists.mp (AList.lookup_isSome.mpr known)
    refine iff_of_true (fun iterated perm => ?_) (.inr (.inl known))
    rw [lookupAlias, lookupAlias, AList.perm_lookup perm, stored, Option.some_or, Option.some_or]
  have searched (iterated : DecltypeCache) (perm : iterated.entries.Perm cache.entries) :
      iterated.lookupAlias name = (iterated.bestMatch name).map Sigma.snd := by
    rw [lookupAlias, if_neg empty, AList.perm_lookup perm, AList.lookup_eq_none.mpr known,
      Option.none_or]
  rw [cutsAgree_iff known]
  simp only [empty, known, false_or]
  constructor
  · intro same e f he hf
    obtain ⟨i, iPerm, first⟩ := exists_bestMatch_iff.mpr he
    obtain ⟨j, jPerm, second⟩ := exists_bestMatch_iff.mpr hf
    have alike := (same i iPerm).trans (same j jPerm).symm
    rw [searched i iPerm, searched j jPerm, first, second] at alike
    exact Option.some.inj alike
  · intro alike iterated perm
    rw [searched iterated perm, searched cache (.refl _)]
    have none_iff : iterated.bestMatch name = none ↔ cache.bestMatch name = none := by
      rw [bestMatch_eq_argmax, bestMatch_eq_argmax, List.argmax_eq_none, List.argmax_eq_none,
        candidates, candidates, ← List.length_eq_zero_iff, (perm.filter _).length_eq,
        List.length_eq_zero_iff]
    cases second : cache.bestMatch name with
    | none => rw [none_iff.mpr second]
    | some f =>
      obtain ⟨e, first⟩ := Option.ne_none_iff_exists'.mp (mt none_iff.mp (by simp [second]))
      rw [first, Option.map_some, Option.map_some,
        alike e f (exists_bestMatch_iff.mp ⟨iterated, perm, first⟩)
          (exists_bestMatch_iff.mp ⟨cache, .refl _, second⟩)]

/-- `d` of table `a_x` and `b_d` of table `a`. -/
def twoColumns : DecltypeCache :=
  ⟨[⟨ascii "a_x_d".toList, ascii "BLOB".toList⟩, ⟨ascii "a_b_d".toList, ascii "TEXT".toList⟩],
    by simp [List.NodupKeys, List.keys, ascii]⟩

/-- The alias `a_x_b_d` has the type of the one or the other. -/
theorem twoColumns_either : ∃ iterated : DecltypeCache,
    iterated.entries.Perm twoColumns.entries ∧
      iterated.lookupAlias (ascii "a_x_b_d".toList) ≠
        twoColumns.lookupAlias (ascii "a_x_b_d".toList) :=
  ⟨⟨twoColumns.entries.reverse, (List.perm_nodupKeys (List.reverse_perm _)).mpr
    twoColumns.nodupKeys⟩, List.reverse_perm _, by decide +kernel⟩

end DecltypeCache

end PlexPostgres.Column
