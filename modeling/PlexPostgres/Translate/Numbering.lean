import Mathlib.Algebra.Order.Ring.Int
import PlexPostgres.Sqlite.Parameters

/-!
# The placeholder pass

The translation replaces SQLite's parameters by PostgreSQL's `$1`, `$2`, … and records the name
of each slot (`placeholders.rs`).  The pass visits the placeholder tokens of a statement in the
order of its text; what it gives each of them depends on the tokens alone.

A name is recorded without its mark, as the bind layer compares names.  That is one of three ways
in which its numbers are not SQLite's.
-/

namespace PlexPostgres.Translate

open Text Sqlite

/-! ### Parsing -/

/-- `str::parse::<usize>`: digits, perhaps behind a plus sign, in 64 bits. -/
def parseUsize (t : Text) : Option ℕ :=
  let digits := if t.head? = some '+' then t.tail else t
  if digits ≠ [] ∧ digits.all Char.isDigit = true ∧ decimalValue digits < 2 ^ 64 then
    some (decimalValue digits)
  else none

/-- `str::split_once`. -/
def splitOnce (c : Char) : Text → Option (Text × Text)
  | [] => none
  | d :: t => if d = c then some ([], t) else (splitOnce c t).map fun (l, r) => (d :: l, r)

theorem splitOnce_eq_none {c : Char} {t : Text} (free : c ∉ t) : splitOnce c t = none := by
  induction t with
  | nil => rfl
  | cons d t ih =>
    rw [splitOnce, if_neg fun same => free (by simp [same]), ih fun mem => free (by simp [mem])]
    rfl

theorem notMem_of_digits {c : Char} (other : c.isDigit = false) {digits : Text}
    (isDigits : digits.all Char.isDigit = true) : c ∉ digits := by
  intro mem
  rw [List.all_eq_true.mp isDigits c mem] at other
  cases other

theorem parseUsize_digits {digits : Text} (nonempty : digits ≠ [])
    (isDigits : digits.all Char.isDigit = true) :
    parseUsize digits =
      if decimalValue digits < 2 ^ 64 then some (decimalValue digits) else none := by
  have noSign : digits.head? ≠ some '+' := by
    intro sign
    exact notMem_of_digits (by decide) isDigits (List.mem_of_mem_head? sign)
  unfold parseUsize
  simp [noSign, nonempty, isDigits]

/-! ### Slots -/

/-- **The slots so far**: a name or none for each, and the slot of each name. -/
structure Numbering where
  paramNames : List (Option Text)
  names : Text → Option ℕ

variable {name : Text} {k : ℕ}

namespace Numbering

/-- At the beginning of the first statement. -/
def start : Numbering := ⟨[], fun _ => none⟩

variable (n : Numbering)

/-- The slot after the last. -/
def fresh (name : Option Text) : ℕ × Numbering :=
  (n.paramNames.length + 1, { n with paramNames := n.paramNames ++ [name] })

/-- Slot `k`; the slots before it are there then too. -/
def explicit (k : ℕ) : Numbering :=
  { n with paramNames := n.paramNames ++ List.replicate (k - n.paramNames.length) none }

/-- Slot `k` under a name. -/
def explicitNamed (k : ℕ) (name : Text) : Numbering :=
  { paramNames := (n.explicit k).paramNames.set (k - 1) (some name)
    names := Function.update n.names name (some k) }

/-- The slot of a name. -/
def named (name : Text) : ℕ × Numbering :=
  match n.names name with
  | some k => (k, n)
  | none =>
    let (k, m) := n.fresh (some name)
    (k, { m with names := Function.update m.names name (some k) })

theorem named_known {n : Numbering} (known : n.names name = some k) :
    n.named name = (k, n) := by
  unfold named
  rw [known]

theorem named_new {n : Numbering} (missing : n.names name = none) :
    n.named name =
      (n.paramNames.length + 1,
        ⟨n.paramNames ++ [some name],
          Function.update n.names name (some (n.paramNames.length + 1))⟩) := by
  unfold named
  rw [missing]
  rfl

/-- The digits behind a question mark, and the name behind a colon after them. -/
def splitName (rest : Text) : Text × Option Text :=
  match splitOnce ':' rest with
  | some (digits, name) => if name = [] then (rest, none) else (digits, some name)
  | none => (rest, none)

/-- The slot its digits say, under a name if it has one. -/
def explicitSlot (digits : Text) (name : Option Text) : Option ℕ × Numbering :=
  match (parseUsize digits).filter (1 ≤ ·), name with
  | none, _ => (none, n)
  | some k, some name => (some k, n.explicitNamed k name)
  | some k, none => (some k, n.explicit k)

/-- **The slot of a token**, none if it is left as it is written. -/
def slot (token : Text) : Option ℕ × Numbering :=
  match token with
  | [] => (none, n)
  | ['?'] => let (k, m) := n.fresh none; (some k, m)
  | '?' :: rest => n.explicitSlot (splitName rest).1 (splitName rest).2
  | mark :: name =>
    if mark = ':' ∨ mark = '@' ∨ mark = '$' then
      if name = [] then (none, n)
      -- A number of PostgreSQL's own: a translation is translated again.
      else if mark = '$' ∧ name.all Char.isDigit = true then (none, n)
      else let (k, m) := n.named name; (some k, m)
    else (none, n)

end Numbering

/-- **The slots of the tokens of a statement.** -/
def slots (tokens : List Text) : List (Option ℕ) :=
  Labelling.labels Numbering.slot .start tokens

/-- What is recorded in the end. -/
def numbering (tokens : List Text) : Numbering :=
  Labelling.final Numbering.slot .start tokens

/-- **The names of the slots.** -/
def paramNames (tokens : List Text) : List (Option Text) := (numbering tokens).paramNames

/-! ### The slot of a parameter -/

/-- Is a parameter left as it is written, as one of PostgreSQL's own? -/
def isPostgres : Parameter → Bool
  | .named .dollar name => name.1.all Char.isDigit
  | _ => false

namespace Numbering

variable (n : Numbering)

theorem length_explicit (k : ℕ) :
    (n.explicit k).paramNames.length = max n.paramNames.length k := by
  simp only [explicit, List.length_append, List.length_replicate]
  omega

theorem slot_question {rest : Text} (nonempty : rest ≠ []) :
    n.slot ('?' :: rest) = n.explicitSlot (splitName rest).1 (splitName rest).2 := by
  cases rest with
  | nil => exact absurd rfl nonempty
  | cons c rest => rfl

theorem slot_numbered (d : Numeral) :
    n.slot (Parameter.numbered d).text =
      if d.value < 2 ^ 64 then (some d.value, n.explicit d.value) else (none, n) := by
  have noName : splitName d.digits = (d.digits, none) := by
    unfold splitName
    rw [splitOnce_eq_none (notMem_of_digits (by decide) d.isDigits)]
  have parsed : parseUsize d.digits = if d.value < 2 ^ 64 then some d.value else none :=
    parseUsize_digits d.digits_ne_nil d.isDigits
  have positive : 1 ≤ d.value := d.positive
  rw [Parameter.text, slot_question n d.digits_ne_nil, noName]
  unfold explicitSlot
  rw [parsed]
  by_cases small : d.value < 2 ^ 64
  · rw [if_pos small, if_pos small, Option.filter_some_pos (by simpa using positive)]
  · rw [if_neg small, if_neg small, Option.filter_none]

theorem slot_named (mark : Mark) (name : Name) :
    n.slot (Parameter.named mark name).text =
      if isPostgres (.named mark name) = true then (none, n)
      else (some (n.named name).1, (n.named name).2) := by
  obtain ⟨name, nonempty⟩ := name
  cases mark <;> simp [slot, Parameter.text, Mark.char, isPostgres, nonempty]

/-- A name that was given a slot keeps it. -/
theorem names_slot {n : Numbering} (known : n.names name = some k) (p : Parameter) :
    (n.slot p.text).2.names name = some k := by
  cases p with
  | anonymous => exact known
  | numbered d =>
    rw [slot_numbered]
    split <;> exact known
  | named mark other =>
    rw [slot_named]
    split
    · exact known
    · cases other' : n.names other with
      | some j => rw [named_known other']; exact known
      | none =>
        have differs : name ≠ other := by
          rintro rfl
          rw [other'] at known
          cases known
        rw [named_new other']
        exact (Function.update_of_ne differs _ _).trans known

/-- The slot of a name is known once it has been given. -/
theorem names_named (name : Text) : (n.named name).2.names name = some (n.named name).1 := by
  cases known : n.names name with
  | some k => rw [named_known known]; exact known
  | none => rw [named_new known]; exact Function.update_self ..

end Numbering

/-! ### Agreement with SQLite -/

/-- **The statements whose parameters are numbered as SQLite does**: no `?NNN` needs more than
64 bits, no name is a dollar sign and digits, and no name stands behind two marks. -/
structure Agreeable (ps : List Parameter) : Prop where
  fits : ∀ d, .numbered d ∈ ps → d.value < 2 ^ 64
  ours : ∀ p ∈ ps, isPostgres p = false
  oneMark : ∀ m m' name, .named m name ∈ ps → .named m' name ∈ ps → m = m'

/-- SQLite and the pass have numbered the same parameters of the statement `ps`. -/
structure Related (ps : List Parameter) (v : Variables) (n : Numbering) : Prop where
  count : n.paramNames.length = v.count
  names : ∀ (m : Mark) (name : Name), .named m name ∈ ps →
    n.names name = v.find (Parameter.named m name).text

section Agreement

variable {ps : List Parameter} {v : Variables} {n : Numbering}

theorem find_assign_numbered (v : Variables) (d : Numeral) (m : Mark) (name : Name) :
    (v.assign (.numbered d)).2.find (Parameter.named m name).text =
      v.find (Parameter.named m name).text := by
  unfold Variables.assign
  dsimp only
  split
  · have differs : (Parameter.named m name).text ≠ (Parameter.numbered d).text := by
      intro same
      have mark : m.char = '?' := (List.cons.inj same).1
      cases m <;> exact absurd mark (by decide)
    rw [Variables.find_append, if_neg differs, Option.or_none]
  · rfl

theorem Related.slot_named (agreeable : Agreeable ps) (related : Related ps v n) {m : Mark}
    {name : Name} (mem : .named m name ∈ ps) :
    (n.named name).1 = (v.assign (.named m name)).1 ∧
      Related ps (v.assign (.named m name)).2 (n.named name).2 := by
  have both := related.names m name mem
  cases known : v.find (Parameter.named m name).text with
  | some k =>
    rw [Variables.assign_known known, Numbering.named_known (both.trans known)]
    exact ⟨rfl, related⟩
  | none =>
    rw [Variables.assign_new known, Numbering.named_new (both.trans known), related.count]
    refine ⟨rfl, ?_, fun m' name' mem' => ?_⟩
    · exact (List.length_append ..).trans (congrArg (· + 1) related.count)
    · rw [Variables.find_append]
      by_cases same : name' = name
      · subst same
        -- The mark is the same one too, since no name of the statement has two.
        rw [agreeable.oneMark m' m name' mem' mem, known, if_pos rfl]
        exact Function.update_self ..
      · have text : (Parameter.named m' name').text ≠ (Parameter.named m name).text :=
          fun alike => same (Parameter.text_named_injective alike).2
        rw [if_neg text, Option.or_none, ← related.names m' name' mem']
        exact Function.update_of_ne (fun alike => same (Subtype.ext alike)) _ _

/-- **One parameter** of an agreeable statement gets SQLite's number. -/
theorem Related.slot (agreeable : Agreeable ps) (related : Related ps v n) {p : Parameter}
    (mem : p ∈ ps) :
    (n.slot p.text).1 = some (v.assign p).1 ∧ Related ps (v.assign p).2 (n.slot p.text).2 := by
  cases p with
  | anonymous =>
    refine ⟨congrArg (fun k => some (k + 1)) related.count, ?_, related.names⟩
    exact (List.length_append ..).trans (congrArg (· + 1) related.count)
  | numbered d =>
    rw [Numbering.slot_numbered, if_pos (agreeable.fits d mem)]
    refine ⟨rfl, ?_, fun m name mem => ?_⟩
    · rw [Numbering.length_explicit, related.count]
      rfl
    · rw [find_assign_numbered]
      exact related.names m name mem
  | named m name =>
    rw [Numbering.slot_named, if_neg (by simp [agreeable.ours _ mem])]
    obtain ⟨same, kept⟩ := related.slot_named agreeable mem
    exact ⟨congrArg some same, kept⟩

theorem Agreeable.related (agreeable : Agreeable ps) :
    List.Forall₂ (fun k k' => k' = some k) (Variables.slots ps)
        (Translate.slots (ps.map Parameter.text)) ∧
      Related ps (Variables.number ps) (numbering (ps.map Parameter.text)) :=
  Labelling.labels_related Parameter.text (Related ps) _
    (fun _ mem _ _ related => related.slot agreeable mem) ⟨rfl, fun _ _ _ => rfl⟩

/-! ### Only agreeable statements -/

/-- If the numbers are SQLite's, none is missing. -/
theorem slot_ne_none (same : slots (ps.map Parameter.text) = (Variables.slots ps).map some)
    {p : Parameter} (mem : p ∈ ps) : ¬ ∀ n : Numbering, (n.slot p.text).1 = none := by
  intro left
  have missing : none ∈ slots (ps.map Parameter.text) :=
    Labelling.mem_labels Numbering.slot left (List.mem_map_of_mem mem) .start
  rw [same] at missing
  simp at missing

/-- What the pass knows of a parameter: the slot of its name. -/
def Numbering.known (n : Numbering) : Parameter → Option (Option ℕ)
  | .named _ name => (n.names name).map some
  | .anonymous | .numbered _ => none

/-- The slot of a name is what the pass knows of it in the end. -/
theorem slots_settled (ps : List Parameter) :
    List.Forall₂
      (fun p k => (∃ m name, p = .named m name) ∧ isPostgres p = false →
        (numbering (ps.map Parameter.text)).known p = some k)
      ps (slots (ps.map Parameter.text)) := by
  unfold slots numbering
  rw [Labelling.labels_map, Labelling.final_map]
  apply Labelling.labels_settled (fun n p => Numbering.slot n p.text) Numbering.known
  · rintro n p ⟨⟨m, name, rfl⟩, ours⟩
    rw [Numbering.slot_named, if_neg (by simp [ours])]
    exact congrArg (Option.map some) (n.names_named name)
  · intro n p k q known
    cases p with
    | anonymous | numbered => cases known
    | named m name =>
      obtain ⟨j, had, rfl⟩ := Option.map_eq_some_iff.mp known
      exact congrArg (Option.map some) (Numbering.names_slot had q)

/-- The number SQLite gives a name is the one it has in the end. -/
theorem sqlite_settled (ps : List Parameter) :
    List.Forall₂
      (fun p k => (∃ m name, p = .named m name) → (Variables.number ps).find p.text = some k)
      ps (Variables.slots ps) := by
  apply Labelling.labels_settled Variables.assign fun v p => v.find p.text
  · rintro v p ⟨m, name, rfl⟩
    exact v.find_assign_named m name
  · intro v p k q found
    exact Variables.find_assign found q

/-- If the numbers are SQLite's, a name is known under the same one in the end. -/
theorem known_in_the_end (same : slots (ps.map Parameter.text) = (Variables.slots ps).map some)
    {m : Mark} {name : Name} (mem : .named m name ∈ ps)
    (ours : isPostgres (.named m name) = false) :
    ∃ k, (Variables.number ps).find (Parameter.named m name).text = some k ∧
      (numbering (ps.map Parameter.text)).names name = some k := by
  have passes := slots_settled ps
  rw [same, List.forall₂_map_right_iff] at passes
  have sqlite := sqlite_settled ps
  obtain ⟨i, bound, at_i⟩ := List.getElem_of_mem mem
  have bound' : i < (Variables.slots ps).length := sqlite.length_eq ▸ bound
  have known := (List.forall₂_iff_get.mp passes).2 i bound bound'
  have found := (List.forall₂_iff_get.mp sqlite).2 i bound bound'
  simp only [List.get_eq_getElem, at_i] at known found
  refine ⟨_, found ⟨m, name, rfl⟩, ?_⟩
  obtain ⟨k, eq, same⟩ := Option.map_eq_some_iff.mp (known ⟨⟨m, name, rfl⟩, ours⟩)
  rw [eq, Option.some.inj same]

theorem agreeable_of_same
    (same : slots (ps.map Parameter.text) = (Variables.slots ps).map some) : Agreeable ps := by
  have ours : ∀ p ∈ ps, isPostgres p = false := by
    intro p mem
    by_contra postgres
    refine slot_ne_none same mem fun n => ?_
    cases p with
    | anonymous | numbered _ => exact absurd rfl postgres
    | named m name => rw [Numbering.slot_named, if_pos (by simpa using postgres)]
  refine ⟨fun d mem => ?_, ours, fun m m' name mem mem' => ?_⟩
  · by_contra big
    refine slot_ne_none same mem fun n => ?_
    rw [Numbering.slot_numbered, if_neg big]
  · obtain ⟨k, found, known⟩ := known_in_the_end same mem (ours _ mem)
    obtain ⟨k', found', known'⟩ := known_in_the_end same mem' (ours _ mem')
    obtain rfl : k = k' := Option.some.inj (known.symm.trans known')
    have alike := Variables.find_injective (Variables.distinct_number ps) found found'
    exact (Parameter.text_named_injective alike).1

end Agreement

/-- **The pass numbers the parameters of a statement as SQLite does**, each of them and their
count, if and only if the statement is agreeable. -/
theorem slots_eq_iff (ps : List Parameter) :
    slots (ps.map Parameter.text) = (Variables.slots ps).map some ∧
        (paramNames (ps.map Parameter.text)).length = (Variables.number ps).count ↔
      Agreeable ps := by
  constructor
  · exact fun same => agreeable_of_same same.1
  · intro agreeable
    obtain ⟨same, related⟩ := agreeable.related
    refine ⟨?_, related.count⟩
    symm
    rw [← List.forall₂_eq_eq_eq, List.forall₂_map_left_iff]
    exact same.imp fun _ _ eq => eq.symm

/-- The name `a`. -/
def nameA : Name := ⟨['a'], by decide⟩

/-- **`:a` and `@a` share a slot**, where SQLite has two. -/
theorem colon_and_at_share_slot :
    slots ([.named .colon nameA, .named .at nameA].map Parameter.text) = [some 1, some 1] ∧
      Variables.slots [.named .colon nameA, .named .at nameA] = [1, 2] := by
  decide

end PlexPostgres.Translate
