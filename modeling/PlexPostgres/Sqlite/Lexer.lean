import PlexPostgres.Library.Noise

/-!
# Literals and comments of SQL text

How SQLite's tokenizer reads a text as far as quotation marks and comments go: a scanner
that goes through the characters one by one and knows, at each, whether it is inside a
comment, a string literal or a quoted name.
-/

namespace PlexPostgres.Sqlite

open Text

/-- What the scanner is in.  `opening` and `closing` are the second characters of `/*` and
`*/`, `escaped` is the second of a doubled quotation mark. -/
inductive LexMode where
  | plain
  | line
  | opening
  | block
  | closing
  | quoted (close : Char)
  | escaped (close : Char)
  deriving DecidableEq, Repr

/-- **One character**, the one after it known. -/
def LexMode.next (mode : LexMode) (c : Char) (following : Option Char) : LexMode :=
  match mode with
  | .plain =>
    if c = '-' ∧ following = some '-' then .line
    else if c = '/' ∧ following = some '*' then .opening
    else if c = singleQuote ∨ c = doubleQuote ∨ c = backQuote then .quoted c
    else if c = '[' then .quoted ']'
    else .plain
  | .line => if c = '\n' then .plain else .line
  | .opening => .block
  | .block => if c = '*' ∧ following = some '/' then .closing else .block
  | .closing => .plain
  | .quoted close =>
    -- A mark inside its own quotation is doubled; brackets have no such form.
    if c = close then if close ≠ ']' ∧ following = some close then .escaped close else .plain
    else .quoted close
  | .escaped close => .quoted close

/-! ### The content of literals -/

/-- Is the scanner in a single-quoted literal? -/
def LexMode.inLiteral (mode : LexMode) : Bool :=
  mode = .quoted singleQuote || mode = .escaped singleQuote

/-- The rest of a text with `content` in the place of what its literals hold. -/
def fillFrom (content : Text) : LexMode → Text → Text
  | _, [] => []
  | mode, c :: t =>
    let next := mode.next c t.head?
    if mode.inLiteral then
      -- What the literal held goes, up to the mark that closes it.
      if next.inLiteral then fillFrom content next t else c :: fillFrom content next t
    else if next.inLiteral then c :: (content ++ fillFrom content next t)
    else c :: fillFrom content next t

/-- **A text with `content` in every literal.** -/
def fill (content sql : Text) : Text := fillFrom content .plain sql

/-- **A text with its literals emptied.** -/
def mask (sql : Text) : Text := fill [] sql

/-- Is there a literal in the rest of a text? -/
def hasLiteralFrom : LexMode → Text → Bool
  | _, [] => false
  | mode, c :: t => (mode.next c t.head?).inLiteral || hasLiteralFrom (mode.next c t.head?) t

/-- **Has a text a single-quoted literal?** -/
def hasLiteral (sql : Text) : Bool := hasLiteralFrom .plain sql

example : mask "a = 'it''s' -- 'no'".toList = "a = '' -- 'no'".toList := by decide

/-! ### How the scanner enters and leaves a literal -/

variable {mode : LexMode} {c : Char}

namespace LexMode

variable {following : Option Char}

@[simp] theorem inLiteral_plain : plain.inLiteral = false := rfl

@[simp] theorem inLiteral_line : line.inLiteral = false := rfl

@[simp] theorem inLiteral_opening : opening.inLiteral = false := rfl

@[simp] theorem inLiteral_block : block.inLiteral = false := rfl

@[simp] theorem inLiteral_closing : closing.inLiteral = false := rfl

@[simp] theorem inLiteral_quoted (close : Char) :
    (quoted close).inLiteral = decide (close = singleQuote) := by
  simp [inLiteral]

@[simp] theorem inLiteral_escaped (close : Char) :
    (escaped close).inLiteral = decide (close = singleQuote) := by
  simp [inLiteral]

/-- A literal is entered from plain text, at a quotation mark, whatever follows it. -/
theorem enters (outside : mode.inLiteral = false)
    (inside : (mode.next c following).inLiteral = true) :
    mode = .plain ∧ c = singleQuote := by
  cases mode with
  | plain =>
    refine ⟨rfl, ?_⟩
    by_contra other
    unfold next at inside
    dsimp only at inside
    split_ifs at inside with line opening mark bracket <;> simp [other] at inside
    exact absurd inside (by decide)
  | line => simp only [next] at inside; split_ifs at inside <;> simp at inside
  | opening => simp [next] at inside
  | block => simp only [next] at inside; split_ifs at inside <;> simp at inside
  | closing => simp [next] at inside
  | quoted close =>
    have other : close ≠ singleQuote := by simpa using outside
    simp only [next] at inside
    split_ifs at inside <;> simp [other] at inside
  | escaped close =>
    have other : close ≠ singleQuote := by simpa using outside
    simp [next, other] at inside

theorem next_plain_singleQuote (following : Option Char) :
    plain.next singleQuote following = .quoted singleQuote := by
  have notDash : singleQuote ≠ '-' := by decide
  have notSlash : singleQuote ≠ '/' := by decide
  simp [next, notDash, notSlash]

/-- A literal is left at a quotation mark that none follows. -/
theorem leaves (inside : mode.inLiteral = true)
    (outside : (mode.next c following).inLiteral = false) :
    mode = .quoted singleQuote ∧ c = singleQuote ∧ mode.next c following = .plain := by
  cases mode with
  | plain | line | opening | block | closing => cases inside
  | quoted close =>
    obtain rfl : close = singleQuote := by simpa using inside
    simp only [next] at outside ⊢
    split_ifs at outside ⊢ <;> simp_all
  | escaped close =>
    have same : close = singleQuote := by simpa using inside
    simp [next, same] at outside

end LexMode

/-! ### Filling twice -/

section Fill

variable (content other : Text)

variable {t : Text}

@[simp] theorem fillFrom_nil (mode : LexMode) : fillFrom content mode [] = [] := by
  cases mode <;> rfl

theorem fillFrom_outside (outside : mode.inLiteral = false)
    (stays : (mode.next c t.head?).inLiteral = false) :
    fillFrom content mode (c :: t) = c :: fillFrom content (mode.next c t.head?) t := by
  rw [fillFrom, outside, stays]
  rfl

theorem fillFrom_enters :
    fillFrom content .plain (singleQuote :: t) =
      singleQuote :: (content ++ fillFrom content (.quoted singleQuote) t) := by
  rw [fillFrom, LexMode.next_plain_singleQuote]
  simp

theorem fillFrom_inside (inside : mode.inLiteral = true)
    (stays : (mode.next c t.head?).inLiteral = true) :
    fillFrom content mode (c :: t) = fillFrom content (mode.next c t.head?) t := by
  rw [fillFrom, inside, stays]
  rfl

theorem fillFrom_leaves (inside : mode.inLiteral = true)
    (left : (mode.next c t.head?).inLiteral = false) :
    fillFrom content mode (c :: t) = c :: fillFrom content .plain t := by
  obtain ⟨-, -, plain⟩ := LexMode.leaves inside left
  rw [fillFrom, inside, left, plain]
  rfl

/-- Outside of a literal the next character is kept. -/
theorem head_fillFrom (outside : mode.inLiteral = false) (t : Text) :
    (fillFrom content mode t).head? = t.head? := by
  cases t with
  | nil => rw [fillFrom_nil]
  | cons c t =>
    rw [fillFrom, outside, if_neg Bool.false_ne_true]
    split <;> rfl

/-- Content without the mark does not end the literal it stands in. -/
theorem fillFrom_content {text : Text} (inside : singleQuote ∉ text) (t : Text) :
    fillFrom content (.quoted singleQuote) (text ++ t) =
      fillFrom content (.quoted singleQuote) t := by
  induction text with
  | nil => rfl
  | cons c text ih =>
    have notMark : c ≠ singleQuote := fun same => inside (by simp [same])
    have stays : ∀ following,
        (LexMode.quoted singleQuote).next c following = .quoted singleQuote := by
      intro following
      simp [LexMode.next, notMark]
    rw [List.cons_append, fillFrom_inside content (by simp) (by simp [stays]), stays]
    exact ih fun mem => inside (by simp [mem])

/-- **What a literal held before does not matter** to what it is filled with. -/
theorem fillFrom_fillFrom (inside : singleQuote ∉ other) (t : Text) :
    ∀ mode : LexMode,
      (mode.inLiteral = false →
        fillFrom content mode (fillFrom other mode t) = fillFrom content mode t) ∧
      (mode.inLiteral = true →
        fillFrom content (.quoted singleQuote) (fillFrom other mode t) =
          fillFrom content mode t) := by
  induction t with
  | nil => intro mode; simp
  | cons c t ih =>
    intro mode
    refine ⟨fun outside => ?_, fun literal => ?_⟩
    · cases next : (mode.next c t.head?).inLiteral with
      | true =>
        obtain ⟨rfl, rfl⟩ := LexMode.enters outside next
        rw [fillFrom_enters, fillFrom_enters, fillFrom_enters, fillFrom_content _ inside,
          (ih _).2 (by simp)]
      | false =>
        have same : mode.next c (fillFrom other (mode.next c t.head?) t).head? =
            mode.next c t.head? := by
          rw [head_fillFrom other next]
        rw [fillFrom_outside other outside next,
          fillFrom_outside content outside (by rw [same]; exact next), same,
          fillFrom_outside content outside next, (ih _).1 next]
    · cases next : (mode.next c t.head?).inLiteral with
      | true =>
        rw [fillFrom_inside other literal next, fillFrom_inside content literal next,
          (ih _).2 next]
      | false =>
        obtain ⟨rfl, rfl, plain⟩ := LexMode.leaves literal next
        have same : (LexMode.quoted singleQuote).next singleQuote
            (fillFrom other .plain t).head? = .plain := by
          rw [head_fillFrom other LexMode.inLiteral_plain, plain]
        rw [fillFrom_leaves other literal next,
          fillFrom_leaves content literal (by rw [same]; rfl),
          fillFrom_leaves content literal next, (ih _).1 LexMode.inLiteral_plain]

/-- Filling the literals of a text leaves its mask. -/
theorem mask_fill {content : Text} (inside : singleQuote ∉ content) (sql : Text) :
    mask (fill content sql) = mask sql :=
  (fillFrom_fillFrom [] content inside sql .plain).1 rfl

/-- Filling neither makes nor removes a literal. -/
theorem hasLiteralFrom_fillFrom (t : Text) :
    ∀ mode : LexMode, mode.inLiteral = false →
      hasLiteralFrom mode (fillFrom content mode t) = hasLiteralFrom mode t := by
  induction t with
  | nil => intro mode _; rw [fillFrom_nil]
  | cons c t ih =>
    intro mode outside
    cases next : (mode.next c t.head?).inLiteral with
    | true =>
      obtain ⟨rfl, rfl⟩ := LexMode.enters outside next
      rw [fillFrom_enters]
      simp [hasLiteralFrom, LexMode.next_plain_singleQuote]
    | false =>
      rw [fillFrom_outside content outside next, hasLiteralFrom, hasLiteralFrom,
        head_fillFrom content next, ih _ next]

/-- A text without literals has nothing to fill. -/
theorem fillFrom_of_noLiteral (t : Text) :
    ∀ mode : LexMode, mode.inLiteral = false → hasLiteralFrom mode t = false →
      fillFrom content mode t = t := by
  induction t with
  | nil => intro mode _ _; rw [fillFrom_nil]
  | cons c t ih =>
    intro mode outside none
    rw [hasLiteralFrom, Bool.or_eq_false_iff] at none
    rw [fillFrom_outside content outside none.1, ih _ none.1 none.2]

/-- A filled text has the content, if it has a literal to hold it. -/
theorem infix_fillFrom (t : Text) :
    ∀ mode : LexMode, mode.inLiteral = false → hasLiteralFrom mode t = true →
      content <:+: fillFrom content mode t := by
  induction t with
  | nil => intro mode _ some; cases some
  | cons c t ih =>
    intro mode outside some
    cases next : (mode.next c t.head?).inLiteral with
    | true =>
      obtain ⟨rfl, rfl⟩ := LexMode.enters outside next
      rw [fillFrom_enters]
      exact (List.prefix_append _ _).isInfix.trans (List.suffix_cons _ _).isInfix
    | false =>
      rw [hasLiteralFrom, next, Bool.false_or] at some
      rw [fillFrom_outside content outside next]
      exact (ih _ next some).trans (List.suffix_cons _ _).isInfix

end Fill

/-- **A text without literals is the only one with its mask.** -/
theorem eq_of_mask_eq {s s' : Text} (none : hasLiteral s = false) (same : mask s' = mask s) :
    s' = s := by
  have none' : hasLiteral s' = false := by
    rw [← none, hasLiteral, hasLiteral, ← hasLiteralFrom_fillFrom [] s' .plain rfl,
      ← hasLiteralFrom_fillFrom [] s .plain rfl]
    exact congrArg (hasLiteralFrom .plain) same
  have whole : ∀ {t}, hasLiteral t = false → mask t = t := fun h =>
    fillFrom_of_noLiteral [] _ .plain rfl h
  rw [← whole none', same, whole none]

/-! ### Leaving out what stands behind a mark -/

/-- **One text is another with pieces left out, each behind a mark.** -/
inductive Erased (mark : Char) : Text → Text → Prop
  | nil : Erased mark [] []
  | keep (c : Char) {long short : Text} : Erased mark long short →
      Erased mark (c :: long) (c :: short)
  | drop (piece : Text) {long short : Text} : Erased mark long short →
      Erased mark (mark :: (piece ++ long)) (mark :: short)

namespace Erased

variable {mark : Char} {long short fragment : Text}

theorem refl (t : Text) : Erased mark t t := by
  induction t with
  | nil => exact .nil
  | cons c t ih => exact .keep c ih

theorem append_left (t : Text) (erased : Erased mark long short) :
    Erased mark (t ++ long) (t ++ short) := by
  induction t with
  | nil => exact erased
  | cons c t ih => exact .keep c ih

/-- What the shorter text begins with, up to the first mark, the longer one begins with. -/
theorem startsWith (erased : Erased mark long short) (free : mark ∉ fragment)
    (starts : fragment <+: short) : fragment <+: long := by
  induction erased generalizing fragment with
  | nil => exact starts
  | keep c _ ih =>
    cases fragment with
    | nil => exact List.nil_prefix
    | cons d fragment =>
      obtain ⟨rfl, rest⟩ := List.cons_prefix_cons.mp starts
      exact List.cons_prefix_cons.mpr ⟨rfl, ih (fun mem => free (by simp [mem])) rest⟩
  | drop piece _ ih =>
    cases fragment with
    | nil => exact List.nil_prefix
    | cons d fragment =>
      obtain ⟨rfl, -⟩ := List.cons_prefix_cons.mp starts
      exact absurd (by simp) free

/-- **A fragment without the mark is found in the longer text** if in the shorter one. -/
theorem contains (erased : Erased mark long short) (free : mark ∉ fragment)
    (found : fragment <:+: short) : fragment <:+: long := by
  induction erased with
  | nil => exact found
  | keep c erased ih =>
    rcases List.infix_cons_iff.mp found with first | later
    · exact ((erased.keep c).startsWith free first).isInfix
    · exact (ih later).trans (List.suffix_cons _ _).isInfix
  | drop piece erased ih =>
    rcases List.infix_cons_iff.mp found with first | later
    · exact ((erased.drop piece).startsWith free first).isInfix
    · exact ((ih later).trans (List.suffix_append _ _).isInfix).trans
        (List.suffix_cons _ _).isInfix

/-- Lower case goes along, if it keeps the mark. -/
theorem toLowercase (erased : Erased mark long short) (kept : lowerChar mark = [mark]) :
    Erased mark (Text.toLowercase long) (Text.toLowercase short) := by
  induction erased with
  | nil => exact .nil
  | keep c _ ih =>
    rw [toLowercase_cons, toLowercase_cons]
    exact ih.append_left (lowerChar c)
  | drop piece _ ih =>
    rw [toLowercase_cons, toLowercase_cons, toLowercase_append, kept]
    exact ih.drop (Text.toLowercase piece)

end Erased

/-- **Emptying the literals** leaves out pieces behind quotation marks. -/
theorem erased_fillFrom (t : Text) :
    ∀ mode : LexMode,
      (mode.inLiteral = false → Erased singleQuote t (fillFrom [] mode t)) ∧
      (mode.inLiteral = true → ∃ piece long,
        t = piece ++ long ∧ Erased singleQuote long (fillFrom [] mode t)) := by
  induction t with
  | nil =>
    intro mode
    rw [fillFrom_nil]
    exact ⟨fun _ => .nil, fun _ => ⟨[], [], rfl, .nil⟩⟩
  | cons c t ih =>
    intro mode
    refine ⟨fun outside => ?_, fun literal => ?_⟩
    · cases next : (mode.next c t.head?).inLiteral with
      | true =>
        obtain ⟨rfl, rfl⟩ := LexMode.enters outside next
        obtain ⟨piece, long, rfl, erased⟩ := (ih (.quoted singleQuote)).2 (by simp)
        rw [fillFrom_enters, List.nil_append]
        exact erased.drop piece
      | false =>
        rw [fillFrom_outside [] outside next]
        exact ((ih _).1 next).keep c
    · cases next : (mode.next c t.head?).inLiteral with
      | true =>
        obtain ⟨piece, long, rfl, erased⟩ := (ih _).2 next
        rw [fillFrom_inside [] literal next]
        exact ⟨c :: piece, long, rfl, erased⟩
      | false =>
        rw [fillFrom_leaves [] literal next]
        exact ⟨[], c :: t, rfl, ((ih .plain).1 rfl).keep c⟩

theorem erased_mask (sql : Text) : Erased singleQuote sql (mask sql) :=
  (erased_fillFrom sql .plain).1 rfl

end PlexPostgres.Sqlite
