import PlexPostgres.Library.Cut
import PlexPostgres.Sqlite.Script

/-!
# Where the splitter cuts a script

`split_sql_statements` knows the two quotation marks and nothing else, and does not cut a script
that has the words of a trigger in it.  It should cut where SQLite ends a statement, and its
parts, joined with semicolons, should be the script again.

A semicolon in a comment, in a name between brackets or backquotes, or in the body of a temporary
trigger is cut at all the same, unless a quotation mark is open before it.  A mark in a comment
takes the splitter out of step, which is no harm if there is no semicolon behind it.  And a part
loses the white space around it: the end of a line that ends a comment, so that the semicolon
behind it is read as part of the comment when the parts are joined.
-/

namespace PlexPostgres.Translate

open Text Sqlite

/-! ### The splitter -/

/-- **The statements of the rest of a script.**  `inside` is the mark of the quotation the
splitter is in, `doubled` says that the next character is the second of a doubled mark. -/
def splitFrom : Option Char → Bool → Text → Text → List Text
  | _, _, cur, [] => lastPart cur
  | inside, true, cur, c :: t => splitFrom inside false (cur ++ [c]) t
  | inside, false, cur, c :: t =>
    if inside = some c then
      if t.head? = some c then splitFrom inside true (cur ++ [c]) t
      else splitFrom none false (cur ++ [c]) t
    else if inside = none ∧ (c = singleQuote ∨ c = doubleQuote) then
      splitFrom (some c) false (cur ++ [c]) t
    else if inside = none ∧ c = ';' then trim cur :: splitFrom none false [] t
    else splitFrom inside false (cur ++ [c]) t

/-- The script has the words of a trigger. -/
def hasTrigger (sql : Text) : Bool := contains "create trigger".toList (asciiLower sql)

/-- **`split_sql_statements`.**  A script that has the words of a trigger is one statement. -/
def splitSqlStatements (sql : Text) : List Text :=
  if hasTrigger sql then lastPart sql else splitFrom none false [] sql

/-! ### What the splitter is for -/

/-- The pieces without the white space around them, and without the empty ones. -/
def clean (ps : List Text) : List Text := (ps.map trim).filter (· ≠ [])

/-- **SQLite's pieces of a script**: its statements, and comments that stand alone. -/
def pieces (script : Text) : List Text := clean (Sqlite.split .start [] script)

/-- **The splitter does what it is for**: its parts are SQLite's pieces of the script, and the
parts joined with semicolons have the pieces of the script. -/
def Whole (script : Text) : Prop :=
  splitSqlStatements script = parts (Sqlite.split .start [] script) ∧
    pieces (List.intercalate [';'] (splitSqlStatements script)) = pieces script

instance (script : Text) : Decidable (Whole script) := inferInstanceAs (Decidable (_ ∧ _))

/-- The quotation mark that waits for its second behind a character. -/
def openMark (inside : Option Char) (c : Char) : Option Char :=
  if inside = some c then none
  else if inside = none ∧ (c = singleQuote ∨ c = doubleQuote) then some c
  else inside

/-- **A semicolon ends a statement just if the quotation marks before it pair up**, whatever they
stand in; if the script has the words of a trigger, none ends one. -/
def inStep (triggered : Bool) : Scanner → Option Char → Text → Bool
  | _, _, [] => true
  | s, inside, c :: t =>
    decide (c = ';' → (s.ends c = true ↔ triggered = false ∧ inside = none)) &&
      inStep triggered (if s.ends c then .start else s.next c t.head?) (openMark inside c) t

/-- Does a semicolon behind the text end the statement, and none before it? -/
def closes : Scanner → Text → Bool
  | s, [] => s.ends ';'
  | s, c :: t => !s.ends c && closes (s.next c (t.head?.or (some ';'))) t

/-! ### The two cutters -/

/-- SQLite's scanner as a cutter. -/
def sqliteCutter : Cutter Scanner ';' where
  start := .start
  ends := Scanner.ends
  next := Scanner.next
  at_sep ended := (Scanner.plain_of_ends ended).2

/-- The splitter as a cutter: it counts quotation marks. -/
def marksCutter (triggered : Bool) : Cutter (Option Char) ';' where
  start := none
  ends inside c := !triggered && inside = none && c = ';'
  next inside c _ := openMark inside c
  at_sep ended := by simpa using (Bool.and_eq_true_iff.mp ended).2

theorem split_eq_cut (s : Scanner) (piece t : Text) :
    Sqlite.split s piece t = sqliteCutter.cut s piece t := by
  induction t generalizing s piece with
  | nil => rfl
  | cons c t ih =>
    rw [Sqlite.split, Cutter.cut, ih, ih]
    rfl

theorem marksCutter_ends {triggered : Bool} {inside : Option Char} {c : Char} :
    (marksCutter triggered).ends inside c = true ↔
      (triggered = false ∧ inside = none) ∧ c = ';' := by
  simp [marksCutter]

/-- Where the splitter does not cut, it reads on. -/
theorem cut_marks {triggered : Bool} {inside : Option Char} {c : Char}
    (on : ¬ ((triggered = false ∧ inside = none) ∧ c = ';')) (cur t : Text) :
    (marksCutter triggered).cut inside cur (c :: t) =
      (marksCutter triggered).cut (openMark inside c) (cur ++ [c]) t := by
  rw [Cutter.cut, if_neg (by rwa [marksCutter_ends])]
  rfl

/-- **A doubled mark is two marks** to the splitter: all that counts is which one is open. -/
theorem splitFrom_eq (t : Text) :
    (∀ inside cur, (∀ c ∈ inside, c = singleQuote ∨ c = doubleQuote) →
      splitFrom inside false cur t = parts ((marksCutter false).cut inside cur t)) ∧
    ∀ c cur, (c = singleQuote ∨ c = doubleQuote) → t.head? = some c →
      splitFrom (some c) true cur t = parts ((marksCutter false).cut none cur t) := by
  induction t with
  | nil => exact ⟨fun _ _ _ => rfl, by simp⟩
  | cons d t ih =>
    obtain ⟨read, second⟩ := ih
    have notSemicolon (mark : d = singleQuote ∨ d = doubleQuote) : d ≠ ';' := by
      rcases mark with rfl | rfl <;> decide
    refine ⟨fun inside cur mark => ?_, fun c cur mark head => ?_⟩
    · rw [splitFrom]
      by_cases closing : inside = some d
      · subst closing
        rw [if_pos rfl, cut_marks (by simp), openMark, if_pos rfl]
        split
        next twice => exact second d _ (mark d rfl) twice
        next => exact read none _ (by simp)
      rw [if_neg closing]
      by_cases opening : inside = none ∧ (d = singleQuote ∨ d = doubleQuote)
      · rw [if_pos opening, cut_marks (by simp [notSemicolon opening.2]), openMark,
          if_neg closing, if_pos opening]
        exact read _ _ (by simpa using opening.2)
      rw [if_neg opening]
      by_cases cut : inside = none ∧ d = ';'
      · rw [if_pos cut, Cutter.cut, if_pos (marksCutter_ends.mpr ⟨⟨rfl, cut.1⟩, cut.2⟩),
          parts_cons _ (Cutter.cut_ne_nil _ _ _ _)]
        exact congrArg _ (read none [] (by simp))
      · rw [if_neg cut, cut_marks (by simpa using cut), openMark, if_neg closing, if_neg opening]
        exact read inside _ mark
    · obtain rfl : d = c := by simpa using head
      rw [splitFrom, cut_marks (by simp [notSemicolon mark]), openMark, if_neg (by simp),
        if_pos ⟨rfl, mark⟩]
      exact read _ _ (by simpa using mark)

/-- **The splitter as a cutter.** -/
theorem splitSqlStatements_eq (script : Text) :
    splitSqlStatements script = parts ((marksCutter (hasTrigger script)).cut none [] script) := by
  have unbroken (inside : Option Char) (piece t : Text) :
      (marksCutter true).cut inside piece t = [piece ++ t] := by
    induction t generalizing inside piece with
    | nil => simp [Cutter.cut]
    | cons c t ih =>
      rw [cut_marks (by simp), ih, List.append_assoc]
      rfl
  rw [splitSqlStatements]
  cases hasTrigger script with
  | true => rw [unbroken]; rfl
  | false => exact (splitFrom_eq script).1 none [] (by simp)

theorem agree_eq_inStep (triggered : Bool) (s : Scanner) (inside : Option Char) (t : Text) :
    Cutter.agree sqliteCutter (marksCutter triggered) s inside t =
      inStep triggered s inside t := by
  induction t generalizing s inside with
  | nil => rfl
  | cons c t ih =>
    have behind : (marksCutter triggered).after inside c t.head? = openMark inside c := by
      rw [Cutter.after]
      split
      next ended =>
        obtain ⟨⟨-, rfl⟩, rfl⟩ := marksCutter_ends.mp ended
        rfl
      next => rfl
    rw [Cutter.agree, inStep, behind, ih]
    congr 1
    rw [Bool.eq_iff_iff, beq_iff_eq, Bool.eq_iff_iff, marksCutter_ends, decide_eq_true_eq]
    by_cases semicolon : c = ';'
    · simp [sqliteCutter, semicolon]
    · simp [sqliteCutter, semicolon, s.ends_of_ne semicolon]

/-- **The splitter finds SQLite's pieces just if it is in step.** -/
theorem splitSqlStatements_iff (script : Text) :
    splitSqlStatements script = parts (Sqlite.split .start [] script) ↔
      inStep (hasTrigger script) .start none script = true := by
  rw [splitSqlStatements_eq, split_eq_cut, ← agree_eq_inStep, eq_comm]
  exact Cutter.parts_cut_eq_iff (by decide) _ _ _ _ _ _

/-! ### Trimming a piece -/

theorem clean_cons (p : Text) (ps : List Text) :
    clean (p :: ps) = (if trim p = [] then [] else [trim p]) ++ clean ps := by
  by_cases blank : trim p = [] <;> simp [clean, blank]

theorem clean_parts (ps : List Text) : clean (parts ps) = clean ps := by
  fun_induction parts ps with
  | case1 => rfl
  | case2 p => by_cases blank : trim p = [] <;> simp [lastPart, clean, blank, trim_trim]
  | case3 p q ps ih => rw [clean_cons, clean_cons, trim_trim, ih]

/-- **Every semicolon in plain text ends the statement**: its first word is past and was none of
those that matter, or begins with white space. -/
def Eager (s : Scanner) : Prop :=
  s.stage = .normal ∨ s.stage = .start ∧ ∃ c ∈ s.word.head?, isWhitespace c = true

variable {s s' : Scanner} {c : Char} {lead q t : Text}

theorem Eager.reached (eager : Eager s) : s.reached = .normal := by
  unfold Scanner.reached
  obtain normal | ⟨start, c, head, blank⟩ := eager
  · rw [normal]
    split <;> rfl
  · obtain ⟨word, whole⟩ := eq_cons_of_head head
    rw [whole, if_neg (List.cons_ne_nil c word), start, ofWord_of_blank (by simpa using blank)]
    rfl

theorem Eager.next (eager : Eager s) (inside : s.ends c = false) (following : Option Char) :
    Eager (s.next c following) := by
  have reached := eager.reached
  unfold Scanner.next
  dsimp only
  split
  · exact eager
  next plain =>
    split
    · obtain normal | ⟨start, d, head, blank⟩ := eager
      · exact .inl normal
      · obtain ⟨word, whole⟩ := eq_cons_of_head head
        exact .inr ⟨start, d, by rw [whole]; rfl, blank⟩
    split
    next semicolon =>
      simp only [ne_eq, not_not] at plain
      simp [Scanner.ends, plain, semicolon, reached, Stage.isComplete] at inside
    split
    · exact .inl reached
    · exact .inl (by rw [reached]; rfl)

/-- What an eager scanner does not cut, no other one does. -/
theorem uncut_of_eager (eager : Eager s) (mode : s'.mode = s.mode) (whole : uncut s t = true) :
    uncut s' t = true := by
  induction t generalizing s s' with
  | nil => rfl
  | cons c t ih =>
    rw [uncut, Bool.and_eq_true, Bool.not_eq_true'] at whole
    obtain ⟨inside, later⟩ := whole
    have inside' : s'.ends c = false := by
      refine Bool.eq_false_iff.mpr fun ended => ?_
      obtain ⟨plain, rfl⟩ := Scanner.plain_of_ends ended
      simp [Scanner.ends, ← mode, plain, eager.reached, Stage.isComplete] at inside
    rw [uncut, inside', Bool.not_false, Bool.true_and]
    refine ih (eager.next inside _) ?_ later
    rw [Scanner.next_mode, Scanner.next_mode, mode]

/-- White space in front of a statement leaves the scanner where it is, or makes it eager. -/
theorem next_start_of_blank (blank : isWhitespace c = true) (following : Option Char) :
    Scanner.start.next c following = .start ∨ Eager (Scanner.start.next c following) := by
  have plain := next_plain_of_tame (isTame_of_isWhitespace blank) following
  have notSemicolon : c ≠ ';' := ne_of_test blank rfl
  simp only [Scanner.next, Scanner.start, plain, notSemicolon]
  by_cases inWord : isIdChar c = true
  · exact .inr (.inr (by simp [inWord, blank]))
  · by_cases ascii : isAsciiWhitespace c = true
    · exact .inl (by simp [inWord, ascii, Scanner.reached])
    · exact .inr (.inl (by simp [inWord, ascii, Scanner.reached, Stage.token]))

theorem uncut_blanks (blank : ∀ c ∈ lead, isWhitespace c = true)
    (whole : uncut .start (lead ++ t) = true) : uncut .start t = true := by
  induction lead with
  | nil => exact whole
  | cons c lead ih =>
    refine ih (fun d mem => blank d (by simp [mem])) ?_
    have isBlank := blank c (by simp)
    rw [List.cons_append, uncut, Bool.and_eq_true] at whole
    obtain same | eager := next_start_of_blank isBlank (lead ++ t).head?
    · rw [← same]
      exact whole.2
    · refine uncut_of_eager eager ?_ whole.2
      rw [Scanner.next_mode, show Scanner.start.mode = .plain from rfl,
        next_plain_of_tame (isTame_of_isWhitespace isBlank)]

theorem uncut_append {b : Text} (whole : uncut s (q ++ b) = true) : uncut s q = true := by
  induction q generalizing s with
  | nil => rfl
  | cons c q ih =>
    rw [List.cons_append, uncut, Bool.and_eq_true] at whole
    rw [uncut, whole.1, Bool.true_and]
    cases q with
    | nil => rfl
    | cons d q => exact ih whole.2

/-- **Trimming does not make a piece two.** -/
theorem uncut_trim (whole : uncut .start t = true) : uncut .start (trim t) = true := by
  obtain ⟨before, after, same, blank, -⟩ := exists_trim t
  rw [same, List.append_assoc] at whole
  exact uncut_append (uncut_blanks blank whole)

/-! ### The parts joined -/

theorem split_of_closes (closed : closes s q = true) (piece b : Text) :
    Sqlite.split s piece (q ++ ';' :: b) = (piece ++ q) :: Sqlite.split .start [] b := by
  induction q generalizing s piece with
  | nil =>
    rw [closes] at closed
    rw [List.nil_append, Sqlite.split, if_pos closed, List.append_nil]
  | cons c q ih =>
    rw [closes, Bool.and_eq_true, Bool.not_eq_true'] at closed
    have following : (q ++ ';' :: b).head? = q.head?.or (some ';') := List.head?_append
    rw [List.cons_append, Sqlite.split, if_neg (by simp [closed.1]), following, ih closed.2,
      List.append_assoc]
    rfl

/-- What does not close goes on behind the semicolon. -/
theorem split_of_not_closes (whole : uncut s q = true) (open' : closes s q = false)
    (piece b : Text) :
    ∃ p rest, Sqlite.split s piece (q ++ ';' :: b) = p :: rest ∧ piece ++ q ++ [';'] <+: p := by
  induction q generalizing s piece with
  | nil =>
    rw [closes] at open'
    obtain ⟨p, rest, split, further⟩ :=
      sqliteCutter.exists_cut_cons (s.next ';' b.head?) (piece ++ [';']) b
    refine ⟨p, rest, ?_, by simpa using further⟩
    rw [List.nil_append, Sqlite.split, if_neg (by simp [open']), split_eq_cut]
    exact split
  | cons c q ih =>
    rw [uncut, Bool.and_eq_true, Bool.not_eq_true'] at whole
    rw [closes, whole.1, Bool.not_false, Bool.true_and] at open'
    have following : (q ++ ';' :: b).head? = q.head?.or (some ';') := List.head?_append
    have later : uncut (s.next c (q.head?.or (some ';'))) q = true := by
      cases q with
      | nil => rfl
      | cons d q => exact whole.2
    obtain ⟨p, rest, split, further⟩ := ih later open' (piece ++ [c])
    refine ⟨p, rest, ?_, by simpa using further⟩
    rw [List.cons_append, Sqlite.split, if_neg (by simp [whole.1]), following, split]

/-- **Parts that are joined stay apart** just if each but the last closes. -/
theorem pieces_joined_iff {ps : List Text}
    (solid : ∀ q ∈ ps, trim q = q ∧ uncut .start q = true) :
    pieces (List.intercalate [';'] ps) = clean ps ↔
      ∀ q ∈ ps.dropLast, closes .start q = true := by
  induction ps with
  | nil => exact iff_of_true rfl (by simp)
  | cons q ps ih =>
    obtain ⟨trimmed, whole⟩ := solid q List.mem_cons_self
    cases ps with
    | nil =>
      refine iff_of_true ?_ (by simp)
      rw [pieces, List.intercalate_singleton, split_of_uncut whole, List.nil_append]
    | cons q' ps =>
      have later := ih fun r mem => solid r (List.mem_cons_of_mem q mem)
      rw [pieces, List.intercalate_cons_cons, List.append_assoc, List.singleton_append,
        List.dropLast_cons_cons, List.forall_mem_cons]
      by_cases closed : closes .start q = true
      · rw [split_of_closes closed, List.nil_append, clean_cons, clean_cons q,
          List.append_cancel_left_eq]
        exact later.trans (and_iff_right closed).symm
      · have ne : trim q ≠ [] := by
          rw [trimmed]
          rintro rfl
          exact closed rfl
        obtain ⟨p, rest, split, further⟩ := split_of_not_closes whole
          (Bool.eq_false_iff.2 closed) [] (List.intercalate [';'] (q' :: ps))
        refine iff_of_false ?_ fun all => closed all.1
        obtain ⟨solid', other⟩ := trim_of_prefix (by decide) further
        rw [split, clean_cons, clean_cons q, if_neg ne, if_neg solid']
        exact fun same => other (List.cons.inj same).1

/-- **When the splitter does what it is for**: the semicolons that end a statement are those before
which the quotation marks pair up, none if the script has the words of a trigger, and each piece
but the last closes when its white space is gone. -/
theorem whole_iff (script : Text) :
    Whole script ↔ inStep (hasTrigger script) .start none script = true ∧
      ∀ q ∈ (parts (Sqlite.split .start [] script)).dropLast, closes .start q = true := by
  rw [Whole, splitSqlStatements_iff]
  refine and_congr_right fun same => ?_
  have solid : ∀ q ∈ parts (Sqlite.split .start [] script),
      trim q = q ∧ uncut .start q = true := by
    intro q mem
    obtain ⟨p, isPiece, rfl⟩ := mem_parts mem
    exact ⟨trim_trim p, uncut_trim (uncut_of_mem_split isPiece)⟩
  rw [(splitSqlStatements_iff script).2 same, ← pieces_joined_iff solid, clean_parts]
  rfl

/-- **A comment with a semicolon, or with a quotation mark in front of one**, a name between
brackets, the body of a temporary trigger, a statement behind a trigger and a line comment in
front of a semicolon: none of them is split as SQLite reads it and joined again. -/
theorem comment_cut :
    splitSqlStatements "SELECT 1 /* ; */".toList = ["SELECT 1 /*".toList, "*/".toList] ∧
      ¬ Whole "SELECT 1 /* ; */".toList ∧
      ¬ Whole "SELECT 1 -- don't\n; SELECT 2".toList ∧
      ¬ Whole "SELECT [a;b] FROM t".toList ∧
      ¬ Whole "CREATE TEMP TRIGGER x AFTER INSERT ON t BEGIN DELETE FROM u; END".toList ∧
      ¬ Whole "CREATE TRIGGER x AFTER INSERT ON t BEGIN DELETE FROM u; END; SELECT 1".toList ∧
      ¬ Whole "SELECT 1 -- one\n; SELECT 2".toList := by
  decide +kernel

/-- A quoted semicolon, a trigger that stands alone and a stray mark at the end are no harm. -/
example : Whole "/* one */ SELECT [a b] FROM t WHERE c = 'x;''y';; DELETE FROM t; ".toList ∧
    Whole "CREATE TRIGGER x AFTER INSERT ON t BEGIN DELETE FROM u; END".toList ∧
    Whole "SELECT a FROM t -- the user's title".toList := by
  decide +kernel

end PlexPostgres.Translate
