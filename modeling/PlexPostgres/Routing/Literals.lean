import PlexPostgres.Routing.Lists
import PlexPostgres.Sqlite.Script

/-!
# Routing and the content of literals

Two statements with one mask differ inside their single-quoted literals only.  Routing
should not tell them apart, and does: the passthrough test looks for the names of SQLite's
tables anywhere in the text, so a value that spells one diverts the statement that carries
it (`literal_diverts`).

The fragments searched for have no quotation mark in them, so what is found in a text with
its literals emptied is found whatever they hold.  `route_iff_literal_free` puts both
together: the statements that are routed alike whatever their literals hold are those
without literals, and those that go to SQLite in any case.
-/

namespace PlexPostgres.Routing

open Text Sqlite

/-! ### Leading noise and literals -/

/-- What the tokenizer is in where the scanner of noise is. -/
def lexMode : NoiseMode → LexMode
  | .blank => .plain
  | .line => .line
  | .opening => .opening
  | .block => .block
  | .closing => .closing

variable {mode mode' : NoiseMode} {c : Char} {t : Text}

@[simp] theorem inLiteral_lexMode (mode : NoiseMode) : (lexMode mode).inLiteral = false := by
  cases mode <;> rfl

/-- A character of the noise keeps the tokenizer outside of literals. -/
theorem fillFrom_noise (content : Text) (next : (lexMode mode).next c t.head? = lexMode mode') :
    fillFrom content (lexMode mode) (c :: t) = c :: fillFrom content (lexMode mode') t ∧
      hasLiteralFrom (lexMode mode) (c :: t) = hasLiteralFrom (lexMode mode') t := by
  constructor
  · rw [fillFrom_outside content (inLiteral_lexMode mode) (by rw [next]; exact inLiteral_lexMode _),
      next]
  · rw [hasLiteralFrom, next, inLiteral_lexMode, Bool.false_or]

section Noise

variable (leftover : Char → Text) (content : Text)

/-- Where the scanner of noise stops, filling literals does not move it. -/
theorem skipNoise_fillFrom_stop (notLine : ¬ (c = '-' ∧ t.head? = some '-'))
    (notBlock : ¬ (c = '/' ∧ t.head? = some '*')) (solid : isAsciiWhitespace c = false) :
    skipNoise isAsciiWhitespace leftover .blank (fillFrom content .plain (c :: t)) =
      fillFrom content .plain (c :: t) := by
  cases enters : (LexMode.plain.next c t.head?).inLiteral with
  | true =>
    obtain ⟨-, rfl⟩ := LexMode.enters LexMode.inLiteral_plain enters
    rw [fillFrom_enters]
    refine skipNoise_solid leftover ⟨_, _, rfl, solid, ?_, ?_⟩
    · rintro ⟨dash, -⟩
      exact absurd dash (by decide)
    · rintro ⟨slash, -⟩
      exact absurd slash (by decide)
  | false =>
    rw [fillFrom_outside content LexMode.inLiteral_plain enters]
    refine skipNoise_solid leftover ⟨_, _, rfl, solid, ?_, ?_⟩
    · rwa [head_fillFrom content enters]
    · rwa [head_fillFrom content enters]

/-- **Skipping noise and filling literals go together**: either what is left is filled the
same, or there is no literal at all and nothing changes. -/
def FillsAlike (mode : NoiseMode) (t : Text) : Prop :=
  (skipNoise isAsciiWhitespace leftover mode (fillFrom content (lexMode mode) t) =
      fillFrom content .plain (skipNoise isAsciiWhitespace leftover mode t) ∧
    hasLiteralFrom .plain (skipNoise isAsciiWhitespace leftover mode t) =
      hasLiteralFrom (lexMode mode) t) ∨
  (skipNoise isAsciiWhitespace leftover mode (fillFrom content (lexMode mode) t) =
      skipNoise isAsciiWhitespace leftover mode t ∧
    hasLiteralFrom (lexMode mode) t = false)

variable {leftover content}

/-- A step that both scanners take. -/
theorem FillsAlike.step (alike : FillsAlike leftover content mode' t)
    (next : (lexMode mode).next c t.head? = lexMode mode')
    (skips : ∀ rest : Text, rest.head? = t.head? →
      skipNoise isAsciiWhitespace leftover mode (c :: rest) =
        skipNoise isAsciiWhitespace leftover mode' rest) :
    FillsAlike leftover content mode (c :: t) := by
  obtain ⟨filled, literal⟩ := fillFrom_noise content next
  unfold FillsAlike at alike ⊢
  rw [filled, literal, skips t rfl,
    skips _ (head_fillFrom content (inLiteral_lexMode mode') t)]
  exact alike

theorem fillsAlike (t : Text) : ∀ mode : NoiseMode, FillsAlike leftover content mode t := by
  induction t with
  | nil =>
    intro mode
    unfold FillsAlike
    rw [fillFrom_nil, skipNoise_nil]
    exact .inr ⟨rfl, rfl⟩
  | cons c t ih =>
    intro mode
    cases mode with
    | blank =>
      by_cases isLine : c = '-' ∧ t.head? = some '-'
      · refine (ih .line).step (by simp [lexMode, LexMode.next, isLine]) ?_
        intro rest head
        rw [skipNoise, head, if_pos isLine]
      by_cases isBlock : c = '/' ∧ t.head? = some '*'
      · refine (ih .opening).step (by simp [lexMode, LexMode.next, isBlock]) ?_
        intro rest head
        rw [skipNoise, head, if_neg isLine, if_pos isBlock]
      by_cases blank : isAsciiWhitespace c = true
      · refine (ih .blank).step (next_plain_of_tame (isTame_of_test _ blank rfl) _) ?_
        intro rest head
        rw [skipNoise, head, if_neg isLine, if_neg isBlock, if_pos blank]
      · have solid : isAsciiWhitespace c = false := by simpa using blank
        have stops : skipNoise isAsciiWhitespace leftover .blank (c :: t) = c :: t :=
          skipNoise_solid leftover ⟨c, t, rfl, solid, isLine, isBlock⟩
        unfold FillsAlike
        rw [stops]
        exact .inl ⟨skipNoise_fillFrom_stop leftover content isLine isBlock solid, rfl⟩
    | line =>
      by_cases feed : c = '\n'
      · refine (ih .blank).step (by simp [lexMode, LexMode.next, feed]) ?_
        intro rest _
        rw [skipNoise, if_pos feed]
      · refine (ih .line).step (by simp [lexMode, LexMode.next, feed]) ?_
        intro rest _
        rw [skipNoise, if_neg feed]
    | opening => exact (ih .block).step rfl fun rest _ => by rw [skipNoise]
    | block =>
      by_cases closes : c = '*' ∧ t.head? = some '/'
      · refine (ih .closing).step (by simp [lexMode, LexMode.next, closes]) ?_
        intro rest head
        rw [skipNoise, head, if_pos closes]
      by_cases last : t = []
      · -- The comment is never closed: there is no literal, and one character is left.
        subst last
        unfold FillsAlike
        refine .inr ⟨?_, ?_⟩
        · rw [lexMode, fillFrom_of_noLiteral content [c] .block rfl]
          simp [hasLiteralFrom, LexMode.next]
        · simp [lexMode, hasLiteralFrom, LexMode.next]
      · refine (ih .block).step (by simp [lexMode, LexMode.next, closes]) ?_
        intro rest head
        have more : rest ≠ [] := by
          rintro rfl
          exact last (List.head?_eq_none_iff.mp head.symm)
        rw [skipNoise, head, if_neg closes, if_neg more]
    | closing => exact (ih .blank).step rfl fun rest _ => by rw [skipNoise]

end Noise

/-- The text behind the noise, with the literals filled. -/
theorem stripLeading_fill (content sql : Text) :
    (stripLeading (fill content sql) = fill content (stripLeading sql) ∧
      hasLiteral (stripLeading sql) = hasLiteral sql) ∨
    (stripLeading (fill content sql) = stripLeading sql ∧ hasLiteral sql = false) :=
  fillsAlike sql .blank

/-! ### The passthrough test -/

/-- **A value can divert a statement**: with the name of SQLite's schema table in its
literals a statement is left to SQLite. -/
theorem isSqlitePassthrough_fill {sql : Text} (literal : hasLiteral sql = true) :
    isSqlitePassthrough (fill "sqlite_master".toList sql) = true := by
  obtain ⟨filled, same⟩ : stripLeading (fill "sqlite_master".toList sql) =
      fill "sqlite_master".toList (stripLeading sql) ∧
      hasLiteral (stripLeading sql) = hasLiteral sql := by
    rcases stripLeading_fill "sqlite_master".toList sql with alike | ⟨-, none⟩
    · exact alike
    · rw [literal] at none
      cases none
  obtain ⟨before, after, whole⟩ : "sqlite_master".toList <:+:
      fill "sqlite_master".toList (stripLeading sql) :=
    infix_fillFrom _ _ .plain rfl (same.trans literal)
  unfold isSqlitePassthrough
  have found : contains "sqlite_master".toList
      (toLowercase (stripLeading (fill "sqlite_master".toList sql))) = true := by
    rw [filled, ← whole, toLowercase_append, toLowercase_append, contains_iff]
    exact ⟨_, _, rfl⟩
  generalize stripLeading (fill "sqlite_master".toList sql) = body at found
  have some : body ≠ [] := by
    rintro rfl
    cases found
  have listed : engineTables.any (contains · (toLowercase body)) = true :=
    List.any_eq_true.mpr ⟨_, by decide, found⟩
  simp [some, listed]

/-- **Nothing a literal holds takes a statement off the list** that is on it with its
literals emptied. -/
theorem isSqlitePassthrough_of_mask {sql : Text} (left : isSqlitePassthrough (mask sql) = true) :
    isSqlitePassthrough sql = true := by
  have erased : Erased singleQuote (stripLeading sql) (stripLeading (mask sql)) := by
    rcases stripLeading_fill [] sql with ⟨filled, -⟩ | ⟨same, -⟩
    · rw [mask, filled]
      exact erased_mask _
    · rw [mask, same]
      exact .refl _
  have lower := erased.toLowercase (by decide)
  have freeLeads : ∀ lead ∈ engineLeads, singleQuote ∉ lead := by decide
  have freeTables : ∀ table ∈ engineTables, singleQuote ∉ table := by decide
  unfold isSqlitePassthrough at left ⊢
  simp only [Bool.and_eq_true, Bool.or_eq_true, List.any_eq_true, startsWith_iff,
    contains_iff] at left ⊢
  obtain ⟨some, found⟩ := left
  refine ⟨?_, ?_⟩
  · generalize stripLeading sql = long, stripLeading (mask sql) = short at erased some
    cases erased with
    | nil => exact some
    | keep | drop => rfl
  · rcases found with ⟨lead, mem, starts⟩ | ⟨table, mem, found⟩
    · exact .inl ⟨lead, mem, lower.startsWith (freeLeads lead mem) starts⟩
    · exact .inr ⟨table, mem, lower.contains (freeTables table mem) found⟩

/-- **Which statements are routed alike whatever their literals hold**: those without
literals, and those that SQLite has in any case. -/
theorem route_iff_literal_free (debug : Option Text) (sql : Text) :
    (∀ sql', mask sql' = mask sql → route debug sql' = route debug sql) ↔
      hasLiteral sql = false ∨ isSqlitePassthrough (mask sql) = true := by
  have passes : ∀ {t}, isSqlitePassthrough t = true → route debug t = .passthrough := by
    intro t left
    rw [route, if_pos left]
  constructor
  · intro alike
    by_contra neither
    simp only [not_or, Bool.not_eq_false, Bool.not_eq_true] at neither
    obtain ⟨literal, kept⟩ := neither
    have diverted := alike (fill "sqlite_master".toList sql) (mask_fill (by decide) sql)
    have emptied := alike (mask sql) (mask_fill (by simp) sql)
    rw [passes (isSqlitePassthrough_fill literal)] at diverted
    rw [← diverted, route, if_neg (by simp [kept])] at emptied
    split_ifs at emptied
  · rintro (none | left) sql' same
    · rw [eq_of_mask_eq none same]
    · have left' : isSqlitePassthrough (mask sql') = true := by rw [same]; exact left
      rw [passes (isSqlitePassthrough_of_mask left), passes (isSqlitePassthrough_of_mask left')]

/-- **A value diverts a write**: the two statements differ inside a literal only, one is a
write and the other is left to SQLite. -/
theorem literal_diverts :
    let plain := "UPDATE t SET a = 'x'".toList
    let diverted := "UPDATE t SET a = 'sqlite_master'".toList
    mask plain = mask diverted ∧ route none plain = .write ∧
      route none diverted = .passthrough := by
  exact ⟨by decide, by decide, by decide⟩

end PlexPostgres.Routing
