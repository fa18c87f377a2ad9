import Mathlib
import PlexPostgres.Library.Text

/-!
# The schemas of the Live TV guides

Each DVR's guide is a database file of its own, and a schema of its own.  A new guide is loaded
into a second file, which is then renamed onto the guide's.  The schema of a file is read off its
path: no two DVRs share one, and a load does not have that of its guide.
-/

namespace PlexPostgres.Routing

/-- What the names of the files beside a database end in. -/
def journals : List Text := ["-wal".toList, "-shm".toList, "-journal".toList]

def guidePrefix : Text := "tv.plex.providers.epg.".toList

def guideLoadSuffix : Text := "-loading".toList

def dbSuffix : Text := ".db".toList

def isHexDigit (c : Char) : Bool :=
  c.isDigit || 'a' ≤ c && c ≤ 'f' || 'A' ≤ c && c ≤ 'F'

/-- A provider and the groups of a uuid. -/
abbrev IsGuide (provider : Text) (groups : List Text) : Prop :=
  provider ≠ [] ∧ provider.all (fun c => c.isAlphanum || c == '_') ∧
    groups.map List.length = [8, 4, 4, 4, 12] ∧ groups.flatten.all isHexDigit

/-- The groups of the uuid in the name of a guide.  Lengths are in characters: a name with others
than ASCII ones is refused either way. -/
def uuidGroups (stem : Text) : Option (List Text) := do
  let (provider, uuid) := stem.splitAt (stem.length - 36)
  let provider ← provider.dropSuffix? ['-']
  let groups := uuid.splitOn '-'
  if 38 ≤ stem.length ∧ IsGuide provider groups then some groups else none

/-- The DVR of a guide's file, and whether it is the guide's load. -/
def guideDvrForPath (path : Text) : Option (Text × Bool) := do
  let p := (journals.findSome? path.dropSuffix?).getD path
  let name := p.rtakeWhile (· ≠ '/')
  let stem ← (← name.dropPrefix? guidePrefix).dropSuffix? dbSuffix
  let (stem, load) := ((stem.dropSuffix? guideLoadSuffix).map (·, true)).getD (stem, false)
  return (Text.asciiLower (← uuidGroups stem).flatten, load)

/-- **`epg_schema_for_path`.** -/
def epgSchemaForPath (path : Text) : Option Text := do
  let (dvr, load) ← guideDvrForPath path
  return "epg_".toList ++ (dvr ++ if load then "_next".toList else [])

def isGuideLoadPath (path : Text) : Bool := (guideDvrForPath path).any (·.2)

/-- **A rename that puts a load in the place of its guide.** -/
def guideSwapPaths (old new : Text) : Bool :=
  match old.dropSuffix? (guideLoadSuffix ++ dbSuffix) with
  | none => false
  | some stem =>
    new.length = stem.length + 3 && stem.isPrefixOf new && dbSuffix.isSuffixOf new &&
      (epgSchemaForPath new).isSome && !isGuideLoadPath new

/-- The name of a guide, or of its load. -/
def guideName (provider : Text) (groups : List Text) (load : Bool) : Text :=
  provider ++ ['-'] ++ ['-'].intercalate groups ++ if load then guideLoadSuffix else []

/-- **A file of a guide**: the guide of a DVR or its load, in any folder, or a file beside it. -/
structure GuideFile where
  file : Text
  provider : Text
  /-- The groups of the DVR's uuid. -/
  groups : List Text
  load : Bool
  journal : Text
  isGuide : IsGuide provider groups
  named : file.rtakeWhile (· ≠ '/') = guidePrefix ++ (guideName provider groups load ++ dbSuffix)
  isJournal : journal = [] ∨ journal ∈ journals

def GuideFile.path (g : GuideFile) : Text := g.file ++ g.journal

theorem dropSuffix?_iff {l r s : Text} : l.dropSuffix? s = some r ↔ l = r ++ s := by
  simp [List.dropSuffix?_eq_some_iff]

/-- A path ends in one way. -/
theorem ending_unique {r r' s t : Text} (hs : s ∈ dbSuffix :: journals)
    (ht : t ∈ dbSuffix :: journals) (same : r ++ s = r' ++ t) : s = t := by
  have one : ∀ s ∈ dbSuffix :: journals, ∀ t ∈ dbSuffix :: journals, s <:+ t → s = t := by decide
  rcases List.suffix_or_suffix_of_suffix ⟨r, same⟩ (List.suffix_append r' t) with h | h
  · exact one s hs t ht h
  · exact (one t ht s hs h).symm

section Groups

variable {provider : Text} {groups : List Text} (valid : IsGuide provider groups)
include valid

theorem IsGuide.not_mem {c : Char} (no : isHexDigit c = false) (t : Text) (mem : t ∈ groups) :
    c ∉ t := by
  intro there
  have yes := List.all_eq_true.mp valid.2.2.2 c (List.mem_flatten_of_mem mem there)
  rw [no] at yes
  cases yes

theorem IsGuide.exists_groups : ∃ a b c d e, groups = [a, b, c, d, e] ∧
    (['-'].intercalate groups).length = 36 ∧ e.length = 12 := by
  obtain ⟨-, -, sizes, -⟩ := valid
  simp only [List.map_eq_cons_iff, List.map_eq_nil_iff] at sizes
  obtain ⟨a, _, h, ha, b, _, rfl, hb, c, _, rfl, hc, d, _, rfl, hd, e, _, rfl, he, rfl⟩ := sizes
  exact ⟨a, b, c, d, e, h, by simp [List.intercalate, *], he⟩

/-- The name of a guide ends in the last group of its uuid. -/
theorem IsGuide.exists_last :
    ∃ l, ∃ e ∈ groups, e.length = 12 ∧ guideName provider groups false = l ++ e := by
  obtain ⟨a, b, c, d, e, rfl, -, last⟩ := valid.exists_groups
  exact ⟨provider ++ ['-'] ++ ['-'].intercalate [a, b, c, d, []], e, by simp, last,
    by simp [guideName, List.intercalate]⟩

/-- The name of a guide does not end as that of a load. -/
theorem IsGuide.not_load :
    (guideName provider groups false).dropSuffix? guideLoadSuffix = none := by
  obtain ⟨l, e, mem, last, name⟩ := valid.exists_last
  refine Option.eq_none_iff_forall_ne_some.mpr fun r found => ?_
  -- The last group is longer than the suffix, which has letters that no group has.
  have ends : guideLoadSuffix <:+ e :=
    List.suffix_of_suffix_length_le ⟨r, (dropSuffix?_iff.mp found).symm⟩ ⟨l, name.symm⟩
      (by rw [last]; decide)
  exact valid.not_mem (c := 'g') rfl e mem (ends.subset (by decide))

end Groups

theorem uuidGroups_eq_some_iff {stem : Text} {groups : List Text} :
    uuidGroups stem = some groups ↔
      ∃ provider, stem = guideName provider groups false ∧ IsGuide provider groups := by
  simp only [uuidGroups, List.splitAt_eq, Option.bind_eq_bind, Option.bind_eq_some_iff,
    dropSuffix?_iff, Option.ite_none_right_eq_some, Option.some.injEq]
  constructor
  · rintro ⟨provider, cut, ⟨-, valid⟩, rfl⟩
    refine ⟨provider, ?_, valid⟩
    simp [guideName, List.intercalate_splitOn, ← cut]
  · rintro ⟨provider, rfl, valid⟩
    obtain ⟨_, _, _, _, _, five, size, -⟩ := valid.exists_groups
    have some : 0 < provider.length := List.length_pos_iff.mpr valid.1
    have name : guideName provider groups false =
      (provider ++ ['-']) ++ ['-'].intercalate groups := List.append_nil _
    have long : (guideName provider groups false).length = (provider ++ ['-']).length + 36 := by
      rw [name, List.length_append, size]
    rw [long, Nat.add_sub_cancel, name, List.take_left, List.drop_left,
      List.splitOn_intercalate '-' (valid.not_mem rfl) (by simp [five])]
    refine ⟨provider, rfl, ⟨?_, valid⟩, rfl⟩
    rw [List.length_append, List.length_singleton]
    omega

theorem strip_journal (g : GuideFile) :
    (journals.findSome? g.path.dropSuffix?).getD g.path = g.file := by
  obtain ⟨r, file⟩ : dbSuffix <:+ g.file := by
    refine .trans ?_ (List.rtakeWhile_suffix (· ≠ '/') g.file)
    rw [g.named, ← List.append_assoc]
    exact List.suffix_append _ _
  cases h : journals.findSome? g.path.dropSuffix? with
  | none =>
    rcases g.isJournal with bare | beside
    · rw [GuideFile.path, bare, List.append_nil, Option.getD_none]
    · have kept := List.findSome?_eq_none_iff.mp h _ beside
      rw [GuideFile.path, dropSuffix?_iff.mpr rfl] at kept
      cases kept
  | some r' =>
    obtain ⟨s, mem, ends⟩ := List.exists_of_findSome?_eq_some h
    rw [dropSuffix?_iff, GuideFile.path] at ends
    rcases g.isJournal with bare | beside
    · rw [bare, List.append_nil, ← file] at ends
      obtain rfl := ending_unique (.head _) (.tail _ mem) ends
      exact absurd mem (by decide)
    · rw [ending_unique (.tail _ beside) (.tail _ mem) ends] at ends
      exact (List.append_cancel_right ends).symm

theorem GuideFile.dvr (g : GuideFile) :
    guideDvrForPath g.path = some (Text.asciiLower g.groups.flatten, g.load) := by
  have groups := uuidGroups_eq_some_iff.mpr ⟨g.provider, rfl, g.isGuide⟩
  rw [guideDvrForPath, strip_journal, g.named,
    List.dropPrefix?_append_of_beq _ (beq_self_eq_true _)]
  simp only [Option.bind_eq_bind, Option.bind_some]
  rw [dropSuffix?_iff.mpr rfl]
  cases g.load with
  | false => simp [g.isGuide.not_load, groups]
  | true =>
    have load : (guideName g.provider g.groups true).dropSuffix? guideLoadSuffix =
      some (guideName g.provider g.groups false) := dropSuffix?_iff.mpr (by simp [guideName])
    simp [load, groups]

theorem exists_guideFile_of_schema {path : Text} (known : (epgSchemaForPath path).isSome = true) :
    ∃ g : GuideFile, g.path = path := by
  obtain ⟨schema, found⟩ := Option.isSome_iff_exists.mp known
  simp only [epgSchemaForPath, guideDvrForPath, Option.bind_eq_bind, Option.bind_eq_some_iff,
    dropSuffix?_iff, List.dropPrefix?_eq_some_iff, beq_iff_eq, Option.pure_def] at found
  obtain ⟨_, ⟨_, ⟨_, name, rfl⟩, stem, rfl, groups, parts, -⟩, -⟩ := found
  obtain ⟨provider, guide, valid⟩ := uuidGroups_eq_some_iff.mp parts
  obtain ⟨load, rfl⟩ : ∃ load, stem = guideName provider groups load := by
    cases h : stem.dropSuffix? guideLoadSuffix with
    | none => exact ⟨false, by simpa [h] using guide⟩
    | some r =>
      obtain rfl : r = _ := by simpa [h] using guide
      exact ⟨true, by simp [dropSuffix?_iff.mp h, guideName]⟩
  cases h : journals.findSome? path.dropSuffix? with
  | none =>
    rw [h] at name
    exact ⟨⟨path, provider, groups, load, [], valid, name, .inl rfl⟩, List.append_nil _⟩
  | some r =>
    rw [h] at name
    obtain ⟨s, mem, ends⟩ := List.exists_of_findSome?_eq_some h
    exact ⟨⟨r, provider, groups, load, s, valid, name, .inr mem⟩, (dropSuffix?_iff.mp ends).symm⟩

/-- What stands before the ending of a guide's file is a digit of its uuid, or of `-loading`. -/
theorem epgSchemaForPath_eq_none {path : Text} {c : Char} (ends : [c] ++ dbSuffix <:+ path)
    (notHex : isHexDigit c = false) (notLoad : c ∉ guideLoadSuffix) :
    epgSchemaForPath path = none := by
  by_contra known
  obtain ⟨g, rfl⟩ := exists_guideFile_of_schema (Option.isSome_iff_ne_none.mpr known)
  obtain ⟨r, same⟩ := ends
  rw [← List.append_assoc] at same
  have alone : g.journal = [] := by
    refine g.isJournal.resolve_right fun mem => ?_
    rw [← ending_unique List.mem_cons_self (List.mem_cons_of_mem _ mem) same] at mem
    exact absurd mem (by decide)
  obtain ⟨folder, whole⟩ := List.rtakeWhile_suffix (· ≠ '/') g.file
  rw [GuideFile.path, alone, List.append_nil, ← whole, g.named, ← List.append_assoc,
    ← List.append_assoc] at same
  have among (l s : Text) (ne : s ≠ [])
      (name : guideName g.provider g.groups g.load = l ++ s) : c ∈ s := by
    have last := congrArg List.getLast? (List.append_cancel_right same)
    rw [name, ← List.append_assoc, List.getLast?_append_of_ne_nil _ ne,
      List.getLast?_concat] at last
    exact List.mem_of_getLast? last.symm
  cases load : g.load with
  | true =>
    rw [load] at among
    exact notLoad (among _ guideLoadSuffix (by decide) rfl)
  | false =>
    obtain ⟨l, e, mem, twelve, name⟩ := g.isGuide.exists_last
    rw [load] at among
    exact g.isGuide.not_mem notHex e mem (among l e (by rintro rfl; cases twelve) name)

/-- The last part of a path, if what is added has no slash. -/
theorem fileName_append (l : Text) {r : Text} (plain : '/' ∉ r) :
    (l ++ r).rtakeWhile (· ≠ '/') = l.rtakeWhile (· ≠ '/') ++ r := by
  rw [List.rtakeWhile, List.reverse_append, List.takeWhile_append_of_pos (by grind)]
  simp [List.rtakeWhile]

theorem GuideFile.schema (g : GuideFile) : epgSchemaForPath g.path =
    some ("epg_".toList ++ ((g.groups.map Text.asciiLower).flatten ++
      if g.load then "_next".toList else [])) := by
  rw [epgSchemaForPath, g.dvr, Text.asciiLower, List.map_flatten]
  rfl

/-- A guide's load is renamed onto the guide. -/
theorem guides_of_swap {old new : Text} (swap : guideSwapPaths old new = true) :
    ∃ g load : GuideFile, g.path = new ∧ load.path = old ∧ g.load = false ∧ load.load = true ∧
      load.groups = g.groups := by
  unfold guideSwapPaths at swap
  split at swap
  · cases swap
  next stem ends =>
    obtain rfl := dropSuffix?_iff.mp ends
    simp only [Bool.and_eq_true, decide_eq_true_eq, List.isPrefixOf_iff_prefix,
      List.isSuffixOf_iff_suffix] at swap
    obtain ⟨⟨⟨⟨size, rest, rfl⟩, last⟩, known⟩, guide⟩ := swap
    obtain rfl : rest = dbSuffix := by
      have three : dbSuffix.length = rest.length := by simpa [dbSuffix] using size.symm
      have ends := List.suffix_of_suffix_length_le last (List.suffix_append stem rest) three.le
      exact (ends.eq_of_length three).symm
    obtain ⟨g, path⟩ := exists_guideFile_of_schema known
    have live : g.load = false := by
      simpa [isGuideLoadPath, ← path, g.dvr] using guide
    have bare : g.journal = [] := g.isJournal.resolve_right fun beside => by
      rw [ending_unique (.tail _ beside) (.head _) path] at beside
      exact absurd beside (by decide)
    rw [GuideFile.path, bare, List.append_nil] at path
    have named := g.named
    rw [path, fileName_append _ (by decide), live, ← List.append_assoc,
      List.append_cancel_right_eq] at named
    have loaded : (stem ++ (guideLoadSuffix ++ dbSuffix)).rtakeWhile (· ≠ '/') =
        guidePrefix ++ (guideName g.provider g.groups true ++ dbSuffix) := by
      rw [fileName_append _ (by decide), named]
      simp [guideName]
    refine ⟨g, ⟨_, g.provider, g.groups, true, [], g.isGuide, loaded, .inl rfl⟩, ?_,
      List.append_nil _, live, rfl, rfl⟩
    rw [GuideFile.path, bare, path, List.append_nil]

/-- **The schemas of two guide files** are equal exactly if they are of the same DVR and both
loads or both not; and the load that a rename puts in the place of a guide has the guide's schema
with the suffix added. -/
theorem guide_schemas :
    (∀ path, (epgSchemaForPath path).isSome = true ↔ ∃ g : GuideFile, g.path = path) ∧
    (∀ g g' : GuideFile, epgSchemaForPath g.path = epgSchemaForPath g'.path ↔
      g.groups.map Text.asciiLower = g'.groups.map Text.asciiLower ∧ g.load = g'.load) ∧
    ∀ old new, guideSwapPaths old new = true → ∃ schema, epgSchemaForPath new = some schema ∧
      epgSchemaForPath old = some (schema ++ "_next".toList) := by
  refine ⟨fun path => ⟨exists_guideFile_of_schema, ?_⟩, fun g g' => ?_, fun old new swap => ?_⟩
  · rintro ⟨g, rfl⟩
    rw [g.schema]
    rfl
  · have sizes : (g.groups.map Text.asciiLower).map List.length =
        (g'.groups.map Text.asciiLower).map List.length := by
      simpa [Text.asciiLower, Function.comp_def] using g.isGuide.2.2.1.trans g'.isGuide.2.2.1.symm
    rw [g.schema, g'.schema, Option.some.injEq, List.append_cancel_left_eq]
    constructor
    · intro same
      obtain ⟨dvr, loads⟩ := List.append_inj same (by simp only [List.length_flatten, sizes])
      refine ⟨List.eq_iff_flatten_eq.mpr ⟨dvr, sizes⟩, ?_⟩
      cases h : g.load <;> cases h' : g'.load <;> simp_all
    · rintro ⟨same, loads⟩
      rw [same, loads]
  · obtain ⟨g, load, rfl, rfl, h, h', same⟩ := guides_of_swap swap
    refine ⟨_, g.schema, ?_⟩
    simp [load.schema, h, h', same]

example :
    let stem := "/data/tv.plex.providers.epg.cloud-0AB001b3-182f-4835-897c-43a9ed6797c5".toList
    guideSwapPaths (stem ++ "-loading.db".toList) (stem ++ ".db".toList) = true ∧
      epgSchemaForPath (stem ++ ".db".toList) =
        some "epg_0ab001b3182f4835897c43a9ed6797c5".toList := by
  decide +kernel

end PlexPostgres.Routing
