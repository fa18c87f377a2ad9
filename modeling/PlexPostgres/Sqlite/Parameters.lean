import Mathlib.Data.List.Nodup
import PlexPostgres.Library.Labelling
import PlexPostgres.Sqlite.Script

/-!
# The parameters of a statement, as SQLite numbers them

A parameter is written `?`, `?NNN`, `:name`, `@name` or `$name`.  SQLite's parser numbers them
from front to back (`sqlite3ExprAssignVarNumber`): `?` takes one more than the largest number so
far, `?NNN` is NNN, and a name, its mark included, takes a new number the first time and the same
one afterwards.
-/

namespace PlexPostgres.Sqlite

open Text

/-! ### Parameters -/

/-- What a name starts with. -/
inductive Mark where
  | colon
  | at
  | dollar
  deriving DecidableEq, Repr

def Mark.char : Mark → Char
  | .colon => ':'
  | .at => '@'
  | .dollar => '$'

theorem Mark.char_injective : Function.Injective Mark.char := by
  intro m m' same
  cases m <;> cases m' <;> first | rfl | exact absurd same (by decide)

/-- The number a text of digits is. -/
def decimalValue (digits : Text) : ℕ := Nat.ofDigitChars 10 digits 0

/-- **The NNN of a `?NNN`**: digits, and not zero. -/
structure Numeral where
  digits : Text
  isDigits : digits.all Char.isDigit = true
  positive : 1 ≤ decimalValue digits
  deriving DecidableEq

def Numeral.value (n : Numeral) : ℕ := decimalValue n.digits

theorem Numeral.digits_ne_nil (n : Numeral) : n.digits ≠ [] := by
  intro none
  have positive := n.positive
  rw [none] at positive
  exact absurd positive (by decide)

/-- The name of a parameter, without its mark. -/
abbrev Name := { name : Text // name ≠ [] }

/-- **A parameter** of a statement. -/
inductive Parameter where
  | anonymous
  | numbered (n : Numeral)
  | named (mark : Mark) (name : Name)
  deriving DecidableEq

namespace Parameter

/-- How it is written. -/
def text : Parameter → Text
  | .anonymous => ['?']
  | .numbered n => '?' :: n.digits
  | .named mark name => mark.char :: name

/-- Two names written alike are one. -/
theorem text_named_injective {m m' : Mark} {name name' : Name}
    (same : (named m name).text = (named m' name').text) : m = m' ∧ name = name' := by
  obtain ⟨sameMark, sameName⟩ := List.cons.inj same
  exact ⟨Mark.char_injective sameMark, Subtype.ext sameName⟩

/-- The name behind a mark, if there is one. -/
def readName (mark : Mark) (name : Text) : Option Parameter :=
  if nonempty : name ≠ [] then some (.named mark ⟨name, nonempty⟩) else none

/-- **The parameter a token is**, none if SQLite refuses it. -/
def read : Text → Option Parameter
  | ['?'] => some .anonymous
  | '?' :: digits =>
    if h : digits.all Char.isDigit = true ∧ 1 ≤ decimalValue digits then
      some (.numbered ⟨digits, h.1, h.2⟩)
    else none
  | ':' :: name => readName .colon name
  | '@' :: name => readName .at name
  | '$' :: name => readName .dollar name
  | _ => none

theorem read_text (p : Parameter) : read p.text = some p := by
  cases p with
  | anonymous => rfl
  | numbered n =>
    have whole : read ('?' :: n.digits) =
        if h : n.digits.all Char.isDigit = true ∧ 1 ≤ decimalValue n.digits then
          some (.numbered ⟨n.digits, h.1, h.2⟩)
        else none := by
      unfold read
      split
      next only => exact absurd (List.cons.inj only).2 n.digits_ne_nil
      next same => rw [(List.cons.inj same).2]
      all_goals simp_all
    rw [text, whole, dif_pos ⟨n.isDigits, n.positive⟩]
  | named mark name => cases mark <;> exact dif_pos name.2

end Parameter

/-! ### Numbering -/

/-- **What has been numbered**: the largest number, and the names with theirs, the oldest
first. -/
structure Variables where
  count : ℕ
  names : List (Text × ℕ)
  deriving DecidableEq, Repr

namespace Variables

/-- At the beginning of a statement. -/
def start : Variables := ⟨0, []⟩

/-- The number of a name, written with its mark. -/
def find (v : Variables) (text : Text) : Option ℕ := v.names.lookup text

/-- **The name of a number**, `sqlite3_bind_parameter_name`. -/
def label (v : Variables) (n : ℕ) : Option Text := (v.names.find? (·.2 = n)).map (·.1)

/-- **One parameter**: its number. -/
def assign (v : Variables) (p : Parameter) : ℕ × Variables :=
  match p with
  | .anonymous => (v.count + 1, { v with count := v.count + 1 })
  | .numbered n =>
    -- A number that has no name yet is named by how it is written.
    (n.value,
      { count := max v.count n.value
        names := if v.label n.value = none then v.names ++ [(p.text, n.value)] else v.names })
  | .named _ _ =>
    match v.find p.text with
    | some n => (n, v)
    | none => (v.count + 1, ⟨v.count + 1, v.names ++ [(p.text, v.count + 1)]⟩)

variable {v : Variables} {mark : Mark} {n : ℕ}

theorem assign_known {name : Name} (known : v.find (Parameter.named mark name).text = some n) :
    v.assign (.named mark name) = (n, v) := by
  unfold assign
  dsimp only
  rw [known]

theorem assign_new {name : Name} (missing : v.find (Parameter.named mark name).text = none) :
    v.assign (.named mark name) =
      (v.count + 1, ⟨v.count + 1,
        v.names ++ [((Parameter.named mark name).text, v.count + 1)]⟩) := by
  unfold assign
  dsimp only
  rw [missing]

/-- **The numbers of the parameters of a statement.** -/
def slots (ps : List Parameter) : List ℕ := Labelling.labels assign start ps

/-- What has been numbered at its end. -/
def number (ps : List Parameter) : Variables := Labelling.final assign start ps

/-! ### Names keep their numbers -/

theorem find_append (v : Variables) (count : ℕ) (name text : Text) (n : ℕ) :
    find ⟨count, v.names ++ [(name, n)]⟩ text =
      (v.find text).or (if text = name then some n else none) := by
  unfold find
  rw [List.lookup_append, List.lookup_cons, List.lookup_nil]
  congr 1
  split <;> simp_all

variable {text : Text}

theorem find_append_of_some (found : v.find text = some n) (more : List (Text × ℕ)) :
    (v.names ++ more).lookup text = some n := by
  rw [List.lookup_append]
  exact Option.or_eq_some_iff.mpr (.inl found)

/-- A name that was given a number keeps it. -/
theorem find_assign (found : v.find text = some n) (p : Parameter) :
    (v.assign p).2.find text = some n := by
  cases p with
  | anonymous => exact found
  | numbered k =>
    unfold assign find
    dsimp only
    split
    · exact find_append_of_some found _
    · exact found
  | named mark name =>
    cases known : v.find (Parameter.named mark name).text with
    | some k => rw [assign_known known]; exact found
    | none => rw [assign_new known]; exact find_append_of_some found _

/-- A name is found once it has been numbered. -/
theorem find_assign_named (v : Variables) (mark : Mark) (name : Name) :
    (v.assign (.named mark name)).2.find (Parameter.named mark name).text =
      some (v.assign (.named mark name)).1 := by
  cases known : v.find (Parameter.named mark name).text with
  | some k => rw [assign_known known]; exact known
  | none => rw [assign_new known, find_append, known, if_pos rfl]; rfl

/-- **No number has two names**, and none is beyond the largest. -/
structure Distinct (v : Variables) : Prop where
  nodup : (v.names.map (·.2)).Nodup
  bounded : ∀ entry ∈ v.names, entry.2 ≤ v.count

theorem distinct_start : start.Distinct := ⟨List.nodup_nil, fun _ none => by cases none⟩

theorem Distinct.append (distinct : v.Distinct) {count : ℕ} (grows : v.count ≤ count)
    (within : n ≤ count) (fresh : n ∉ v.names.map (·.2)) :
    Distinct ⟨count, v.names ++ [(text, n)]⟩ := by
  constructor
  · rw [List.map_append]
    exact distinct.nodup.append (List.nodup_singleton n) (by simpa using fresh)
  · exact List.forall_mem_append.mpr
      ⟨fun entry old => (distinct.bounded entry old).trans grows,
        List.forall_mem_singleton.mpr within⟩

/-- A number beyond the largest has no name. -/
theorem Distinct.label_of_lt (distinct : v.Distinct) (beyond : v.count < n) :
    v.label n = none := by
  apply Option.map_eq_none_iff.mpr
  rw [List.find?_eq_none]
  intro entry mem same
  have bound := distinct.bounded entry mem
  have same : entry.2 = n := by simpa using same
  omega

theorem label_append (v : Variables) (count : ℕ) (text : Text) (k n : ℕ) :
    label ⟨count, v.names ++ [(text, k)]⟩ n =
      (v.label n).or (if k = n then some text else none) := by
  unfold label
  rw [List.find?_append, Option.map_or]
  congr 1
  by_cases same : k = n <;> simp [same]

theorem Distinct.assign (distinct : v.Distinct) (p : Parameter) :
    (v.assign p).2.Distinct := by
  cases p with
  | anonymous =>
    exact ⟨distinct.nodup, fun entry mem => (distinct.bounded entry mem).trans (Nat.le_succ _)⟩
  | numbered k =>
    unfold Variables.assign
    dsimp only
    split
    next unnamed =>
      refine distinct.append (le_max_left _ _) (le_max_right _ _) fun mem => ?_
      obtain ⟨entry, mem, same⟩ := List.mem_map.mp mem
      have named := Option.map_eq_none_iff.mp unnamed
      exact absurd same (by simpa using List.find?_eq_none.mp named entry mem)
    · exact ⟨distinct.nodup,
        fun entry mem => (distinct.bounded entry mem).trans (le_max_left _ _)⟩
  | named mark name =>
    cases known : v.find (Parameter.named mark name).text with
    | some k => rw [assign_known known]; exact distinct
    | none =>
      rw [assign_new known]
      refine distinct.append (Nat.le_succ _) le_rfl fun mem => ?_
      obtain ⟨entry, mem, same⟩ := List.mem_map.mp mem
      have bound := distinct.bounded entry mem
      omega

theorem distinct_number (ps : List Parameter) : (number ps).Distinct :=
  Labelling.final_invariant Distinct (fun p _ _ distinct => distinct.assign p) distinct_start

theorem mem_of_find (found : v.find text = some n) :
    (text, n) ∈ v.names := by
  unfold find at found
  obtain ⟨l, r, split, -⟩ := List.lookup_eq_some_iff.mp found
  rw [split]
  simp

/-- **Two names have two numbers.** -/
theorem find_injective (distinct : v.Distinct) {text' : Text} (found : v.find text = some n)
    (found' : v.find text' = some n) : text = text' := by
  have same := List.inj_on_of_nodup_map distinct.nodup (mem_of_find found) (mem_of_find found') rfl
  exact congrArg Prod.fst same

end Variables

/-! ### Parameters in a text -/

/-- What the tokenizer is reading outside of literals and comments: nothing, a word, or a
parameter, with its text so far. -/
inductive Reading where
  | between
  | word
  | variable (token : Text)
  deriving DecidableEq, Repr

namespace Reading

/-- What a character begins. -/
def starting (c : Char) : Reading :=
  if c = '?' ∨ c = ':' ∨ c = '@' ∨ c = '$' ∨ c = '#' then .variable [c]
  else if isIdChar c then .word
  else .between

/-- Does a parameter go on with a character?  (The forms with `::` and parentheses that only Tcl
uses are left out.) -/
def continues (token : Text) (c : Char) : Bool :=
  if token.head? = some '?' then c.isDigit else isIdChar c

/-- **One character**: the parameter that ended before it, and what is being read now. -/
def next (r : Reading) (c : Char) : List Text × Reading :=
  match r with
  | .between => ([], starting c)
  | .word => ([], if isIdChar c then .word else starting c)
  | .variable token =>
    if continues token c then ([], .variable (token ++ [c])) else ([token], starting c)

/-- The end of the text. -/
def finish : Reading → List Text
  | .variable token => [token]
  | .between | .word => []

end Reading

/-- The parameters in the rest of a text. -/
def scanVariables : LexMode → Reading → Text → List Text
  | _, r, [] => r.finish
  | mode, r, c :: t =>
    let after := mode.next c t.head?
    if mode ≠ .plain then scanVariables after .between t
    else (r.next c).1 ++ scanVariables after (r.next c).2 t

/-- **The parameters in a text**, as they are written. -/
def variableTokens (sql : Text) : List Text := scanVariables .plain .between sql

/-- **The parameters of a statement**, none if SQLite refuses one of them. -/
def parameters (sql : Text) : Option (List Parameter) := (variableTokens sql).mapM Parameter.read

theorem mapM_read_text (ps : List Parameter) :
    (ps.map Parameter.text).mapM Parameter.read = some ps := by
  induction ps with
  | nil => rfl
  | cons p ps ih => simp [Parameter.read_text, ih]

example : variableTokens "a = ?2 AND b$1=$x -- ?\n OR c = '?' || @y".toList =
    ["?2".toList, "$x".toList, "@y".toList] := by decide

end PlexPostgres.Sqlite
