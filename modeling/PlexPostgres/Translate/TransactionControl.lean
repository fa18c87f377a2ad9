import Mathlib.Data.List.Forall2
import PlexPostgres.Translate.Splitter

/-!
# The transaction-control pass

One of the passes over the text of a script before it is parsed.  It goes through the
statements the splitter finds, turns SQLite's forms of transaction control into PostgreSQL's,
and joins them again.  The forms with a savepoint are looked for anywhere in the statement, so
that a column named `release` is enough to make a query transaction control.
-/

namespace PlexPostgres.Translate

open Text Sqlite

/-! ### The pass -/

/-- `str::split_once`: what stands behind the first occurrence of a phrase. -/
def afterFirst (phrase : Text) : Text → Option Text
  | [] => if phrase = [] then some [] else none
  | c :: t =>
    if startsWith phrase (c :: t) then some ((c :: t).drop phrase.length)
    else afterFirst phrase t

/-- What becomes `BEGIN`. -/
def beginLeads : List Text :=
  ["begin immediate".toList, "begin deferred".toList, "begin exclusive".toList,
    "begin transaction".toList]

/-- What becomes `COMMIT`. -/
def commitLeads : List Text := ["end transaction".toList, "commit transaction".toList]

/-- The phrases in front of a savepoint's name and what is written in their place. -/
def savepointPhrases : List (Text × Text) :=
  [("rollback transaction to savepoint ".toList, "ROLLBACK TO SAVEPOINT ".toList),
    ("rollback transaction to ".toList, "ROLLBACK TO SAVEPOINT ".toList),
    ("rollback to savepoint ".toList, "ROLLBACK TO SAVEPOINT ".toList),
    ("rollback to ".toList, "ROLLBACK TO SAVEPOINT ".toList),
    ("release savepoint ".toList, "RELEASE SAVEPOINT ".toList),
    ("release ".toList, "RELEASE SAVEPOINT ".toList),
    ("savepoint ".toList, "SAVEPOINT ".toList)]

/-- A statement with one of the phrases, its beginning replaced up to the phrase. -/
def renamed (t : Text) (rule : Text × Text) : Option Text :=
  (afterFirst rule.1 (asciiLower t)).map fun rest =>
    rule.2 ++ trim (t.drop (t.length - rest.length))

/-- **One statement** of the pass. -/
def rewriteStatement (t : Text) : Text :=
  let lower := asciiLower t
  if beginLeads.any (startsWith · lower) ∨ lower = "begin".toList then "BEGIN".toList
  else if lower = "end".toList ∨ commitLeads.any (startsWith · lower) then "COMMIT".toList
  else (savepointPhrases.findSome? (renamed t)).getD t

/-- **What the pass makes of the statements of a script**, in their order. -/
def rewrittenStatements (sql : Text) : List Text :=
  (clean (splitSqlStatements sql)).map rewriteStatement

/-- **`rewrite_transaction_control_statements`.** -/
def rewriteTransactionControlStatements (sql : Text) : Text :=
  List.intercalate "; ".toList (rewrittenStatements sql)

example : rewriteTransactionControlStatements "begin immediate; delete from t;release sp".toList =
    "BEGIN; delete from t; RELEASE SAVEPOINT sp".toList := by
  decide +kernel

/-! ### What the pass is for -/

/-- The first words the pass is for. -/
def controlWords : List Text :=
  ["begin".toList, "end".toList, "commit".toList, "rollback".toList, "savepoint".toList,
    "release".toList]

/-- The first word of a statement, in lower case. -/
def firstWord (stmt : Text) : Text :=
  asciiLower ((skipNoise isAsciiWhitespace (fun _ => []) .blank stmt).takeWhile isIdChar)

/-- **The statement is transaction control.** -/
def IsControl (stmt : Text) : Prop := firstWord stmt ∈ controlWords

instance (stmt : Text) : Decidable (IsControl stmt) := inferInstanceAs (Decidable (_ ∈ _))

/-- **Every other statement comes out unchanged and in its place.** -/
def Kept (script : Text) : Prop :=
  List.Forall₂ (fun before after => IsControl before ∨ after = before)
    (clean (splitSqlStatements script)) (rewrittenStatements script)

instance (script : Text) : Decidable (Kept script) :=
  inferInstanceAs (Decidable (List.Forall₂ _ _ _))

/-- **None of the phrases is in the statement**, in whatever case. -/
def Unphrased (stmt : Text) : Prop :=
  ∀ rule ∈ savepointPhrases, ¬ rule.1 <:+: asciiLower stmt

instance (stmt : Text) : Decidable (Unphrased stmt) :=
  inferInstanceAs (Decidable (∀ rule ∈ savepointPhrases, _))

/-! ### First words -/

variable {c : Char} {lead q : Text}

theorem isIdChar_of_toLower (folded : isIdChar c.toLower = true) :
    isIdChar c = true := by
  by_cases upper : 'A'.val ≤ c.val ∧ c.val ≤ 'Z'.val
  · have letter : c.isAlpha = true := by
      delta Char.isAlpha Char.isUpper
      exact Bool.or_eq_true_iff.mpr (.inl (decide_eq_true upper))
    simp [isIdChar, Char.isAlphanum, letter]
  · rwa [show c.toLower = c from dif_neg upper] at folded

/-- What folds to something below the small letters is that itself. -/
theorem eq_of_toLower {d : Char} (folded : c.toLower = d) (low : d.toNat < 97) : c = d := by
  by_cases upper : 'A'.val ≤ c.val ∧ c.val ≤ 'Z'.val
  · have first : 65 ≤ c.val.toNat := upper.1
    have last : c.val.toNat ≤ 90 := upper.2
    have moved : c.toLower.val.toNat = c.val.toNat + 32 := by
      have val : c.toLower.val = c.val + 32 :=
        congrArg Char.val (show c.toLower = _ from dif_pos upper)
      rw [val, UInt32.toNat_add]
      exact Nat.mod_eq_of_lt (by show c.val.toNat + 32 < 2 ^ 32; omega)
    rw [folded] at moved
    change d.val.toNat < 97 at low
    omega
  · rwa [show c.toLower = c from dif_neg upper] at folded

/-- **A text that begins with one of the words**, in any case, and a blank behind it. -/
theorem isControl_of_lower {word rest : Text} (mem : word ∈ controlWords)
    (lower : asciiLower q = word ++ rest) (stops : ∀ c ∈ rest.head?, c = ' ') : IsControl q := by
  have words : ∀ word ∈ controlWords, word ≠ [] ∧ word.all Char.isLower = true := by decide
  obtain ⟨ne, letters⟩ := words word mem
  obtain ⟨w, r, rfl, rfl, rfl⟩ := List.map_eq_append_iff.mp lower
  have inWord : ∀ c ∈ w, isIdChar c = true := by
    intro c isIn
    have letter : c.toLower.isAlpha = true := by
      delta Char.isAlpha
      rw [List.all_eq_true.mp letters _ (List.mem_map_of_mem isIn), Bool.or_true]
    exact isIdChar_of_toLower (by simp [isIdChar, Char.isAlphanum, letter])
  have outside : r.takeWhile isIdChar = [] := by
    cases r with
    | nil => rfl
    | cons c r =>
      have blank : c = ' ' := eq_of_toLower (stops c.toLower rfl) (by decide)
      rw [blank]
      rfl
  have solid : Solid (w ++ r) := by
    obtain ⟨c, w, rfl⟩ := List.exists_cons_of_ne_nil (show w ≠ [] by simpa using ne)
    have other (d : Char) (foreign : isIdChar d = false) : c ≠ d :=
      ne_of_test (inWord c (by simp)) foreign
    refine ⟨c, w ++ r, rfl, ?_, fun dash => other '-' rfl dash.1,
      fun slash => other '/' rfl slash.1⟩
    simp [isAsciiWhitespace, other ' ' rfl, other '\t' rfl, other '\n' rfl, other '\x0c' rfl,
      other '\r' rfl]
  have word : firstWord (w ++ r) = asciiLower w := by
    rw [firstWord, skipNoise_solid _ solid, List.takeWhile_append_of_pos inWord, outside,
      List.append_nil]
  rw [IsControl, word]
  exact mem

/-- **A text that begins with such words** and a blank behind the first. -/
theorem isControl_of_words {words : Text}
    (first : words.takeWhile (· ≠ ' ') ∈ controlWords ∧
      (words.dropWhile (· ≠ ' ')).head? = some ' ') (lead : words <+: asciiLower q) :
    IsControl q := by
  obtain ⟨rest, lower⟩ := lead
  rw [← List.takeWhile_append_dropWhile (p := (· ≠ ' ')) (l := words), List.append_assoc] at lower
  refine isControl_of_lower first.1 lower.symm fun c head => ?_
  rw [List.head?_append, first.2, Option.some_or] at head
  exact (Option.some.inj head).symm

/-! ### What a statement becomes -/

theorem afterFirst_eq_none_iff {phrase : Text} (ne : phrase ≠ []) (t : Text) :
    afterFirst phrase t = none ↔ ¬ phrase <:+: t := by
  induction t with
  | nil => simp [afterFirst, ne]
  | cons c t ih =>
    rw [afterFirst, List.infix_cons_iff]
    split
    next leads => simp [startsWith_iff.mp leads]
    next other =>
      rw [ih, not_or, ← startsWith_iff]
      simp [other]

theorem renamed_eq_none_iff (q : Text) :
    savepointPhrases.findSome? (renamed q) = none ↔ Unphrased q := by
  rw [List.findSome?_eq_none_iff]
  refine forall₂_congr fun rule mem => ?_
  have ne : ∀ rule ∈ savepointPhrases, rule.1 ≠ [] := by decide
  rw [renamed, Option.map_eq_none_iff, afterFirst_eq_none_iff (ne rule mem)]

/-- The forms without a name are transaction control. -/
theorem isControl_of_lead (mem : lead ∈ beginLeads ++ commitLeads)
    (leads : startsWith lead (asciiLower q) = true) : IsControl q := by
  have first : ∀ lead ∈ beginLeads ++ commitLeads, lead.takeWhile (· ≠ ' ') ∈ controlWords ∧
      (lead.dropWhile (· ≠ ' ')).head? = some ' ' := by
    decide
  exact isControl_of_words (first lead mem) (startsWith_iff.mp leads)

/-- **What another statement becomes.** -/
theorem rewriteStatement_of_not_isControl (other : ¬ IsControl q) :
    rewriteStatement q = (savepointPhrases.findSome? (renamed q)).getD q := by
  have notBegin : ¬ (beginLeads.any (startsWith · (asciiLower q)) = true ∨
      asciiLower q = "begin".toList) := by
    rintro (any | whole)
    · obtain ⟨lead, mem, leads⟩ := List.any_eq_true.mp any
      exact other (isControl_of_lead (List.mem_append_left _ mem) leads)
    · exact other (isControl_of_lower (show "begin".toList ∈ controlWords by decide)
        (whole.trans (List.append_nil _).symm) (by simp))
  have notEnd : ¬ (asciiLower q = "end".toList ∨
      commitLeads.any (startsWith · (asciiLower q)) = true) := by
    rintro (whole | any)
    · exact other (isControl_of_lower (show "end".toList ∈ controlWords by decide)
        (whole.trans (List.append_nil _).symm) (by simp))
    · obtain ⟨lead, mem, leads⟩ := List.any_eq_true.mp any
      exact other (isControl_of_lead (List.mem_append_right _ mem) leads)
  rw [rewriteStatement, if_neg notBegin, if_neg notEnd]

/-- **A statement with one of the phrases becomes transaction control.** -/
theorem rewriteStatement_of_phrased (other : ¬ IsControl q) (phrased : ¬ Unphrased q) :
    ∃ rule ∈ savepointPhrases, rule.2 <+: rewriteStatement q := by
  rw [rewriteStatement_of_not_isControl other]
  cases found : savepointPhrases.findSome? (renamed q) with
  | none => exact absurd ((renamed_eq_none_iff q).mp found) phrased
  | some r =>
    obtain ⟨rule, mem, became⟩ := List.exists_of_findSome?_eq_some found
    obtain ⟨rest, -, rfl⟩ := Option.map_eq_some_iff.mp became
    exact ⟨rule, mem, List.prefix_append _ _⟩

/-- **A statement that is no transaction control is kept just if it has none of the phrases**:
what is written in their place begins with a word of transaction control. -/
theorem rewriteStatement_eq_iff (other : ¬ IsControl q) : rewriteStatement q = q ↔ Unphrased q := by
  constructor
  · intro same
    by_contra phrased
    obtain ⟨rule, mem, begins⟩ := rewriteStatement_of_phrased other phrased
    rw [same] at begins
    have control : ∀ rule ∈ savepointPhrases,
        (asciiLower rule.2).takeWhile (· ≠ ' ') ∈ controlWords ∧
          ((asciiLower rule.2).dropWhile (· ≠ ' ')).head? = some ' ' := by
      decide
    exact other (isControl_of_words (control rule mem) (begins.map Char.toLower))
  · intro free
    rw [rewriteStatement_of_not_isControl other, (renamed_eq_none_iff q).mpr free,
      Option.getD_none]

/-- **When the other statements are kept**: the pass changes no statement but transaction control
if and only if none of the others has one of the phrases in it. -/
theorem kept_iff_unphrased (script : Text) :
    Kept script ↔ ∀ q ∈ clean (splitSqlStatements script), IsControl q ∨ Unphrased q := by
  rw [Kept, rewrittenStatements, List.forall₂_map_right_iff, List.forall₂_same]
  refine forall₂_congr fun q _ => ?_
  by_cases control : IsControl q
  · simp [control]
  · rw [or_iff_right control, or_iff_right control, rewriteStatement_eq_iff control]

/-- A trigger, a comment behind a COMMIT and a quoted column `release` are kept. -/
example : Kept "CREATE TRIGGER x AFTER INSERT ON t BEGIN DELETE FROM u; END".toList ∧
    Kept "BEGIN; UPDATE t SET \x22release\x22 = 'a;b'; COMMIT /* done */".toList := by
  decide +kernel

/-- **A column named `release`** makes a query a statement about a savepoint. -/
theorem column_release_lost :
    ¬ Kept "SELECT release FROM albums".toList ∧
      rewriteTransactionControlStatements "SELECT release FROM albums".toList =
        "RELEASE SAVEPOINT FROM albums".toList := by
  decide +kernel

end PlexPostgres.Translate
