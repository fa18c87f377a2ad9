import PlexPostgres.Library.Text

/-!
# Leading noise of SQL text

In front of a statement there may be white space, `-- …` comments up to the end
of their line and `/* … */` comments, in any number.  `skipNoise` is the scanner
that skips them, one character at a time with a mode for the comment it is in;
`Noise` is the grammar of what it skips.

Scanners differ in two points: which characters they take for white space, and a
block comment that is never closed, of which `leftover` says what is left, from its
last character.

`skipNoise_noise` connects the two: complete noise in front of a text is skipped
and the scanner goes on with the text.
-/

namespace Text

/-- What a scanner of noise is in; `opening` and `closing` are the second characters
of `/*` and `*/`. -/
inductive NoiseMode where
  | blank
  | line
  | opening
  | block
  | closing
  deriving DecidableEq, Repr

/-- **Skip leading noise.**  The line feed that ends a `--` comment is white space
itself, so it is passed over with the comment. -/
def skipNoise (isBlank : Char → Bool) (leftover : Char → Text) : NoiseMode → Text → Text
  | _, [] => []
  | .blank, c :: t =>
    if c = '-' ∧ t.head? = some '-' then skipNoise isBlank leftover .line t
    else if c = '/' ∧ t.head? = some '*' then skipNoise isBlank leftover .opening t
    else if isBlank c then skipNoise isBlank leftover .blank t
    else c :: t
  | .line, c :: t =>
    if c = '\n' then skipNoise isBlank leftover .blank t else skipNoise isBlank leftover .line t
  | .opening, _ :: t => skipNoise isBlank leftover .block t
  | .block, c :: t =>
    if c = '*' ∧ t.head? = some '/' then skipNoise isBlank leftover .closing t
    else if t = [] then leftover c
    else skipNoise isBlank leftover .block t
  | .closing, _ :: t => skipNoise isBlank leftover .blank t

/-- The inside of a block comment: `*/` occurs first right after it. -/
def BlockInside (t : Text) : Prop := ¬ ['*', '/'] <:+: t ++ ['*']

/-- **Complete noise**: white space and closed comments. -/
inductive Noise : Text → Prop
  | nil : Noise []
  | blank (c : Char) (t : Text) : isAsciiWhitespace c = true → Noise t → Noise (c :: t)
  | line (l t : Text) : '\n' ∉ l → Noise t → Noise ('-' :: '-' :: (l ++ '\n' :: t))
  | block (b t : Text) : BlockInside b → Noise t →
      Noise ('/' :: '*' :: (b ++ '*' :: '/' :: t))

/-- A text that begins with something other than noise. -/
def Solid (t : Text) : Prop :=
  ∃ c rest, t = c :: rest ∧ isAsciiWhitespace c = false ∧
    ¬ (c = '-' ∧ rest.head? = some '-') ∧ ¬ (c = '/' ∧ rest.head? = some '*')

variable (leftover : Char → Text)

@[simp] theorem skipNoise_nil (isBlank : Char → Bool) (mode : NoiseMode) :
    skipNoise isBlank leftover mode [] = [] := by
  cases mode <;> rfl

theorem skipNoise_solid {t : Text} (h : Solid t) :
    skipNoise isAsciiWhitespace leftover .blank t = t := by
  obtain ⟨c, rest, rfl, hws, hline, hblock⟩ := h
  rw [skipNoise, if_neg hline, if_neg hblock, if_neg (by simp [hws])]

theorem skipNoise_blank {isBlank : Char → Bool} (dash : isBlank '-' = false)
    (slash : isBlank '/' = false) {c : Char} (h : isBlank c = true) (t : Text) :
    skipNoise isBlank leftover .blank (c :: t) = skipNoise isBlank leftover .blank t := by
  rw [skipNoise, if_neg (by simp [ne_of_test h dash]), if_neg (by simp [ne_of_test h slash]),
    if_pos h]

theorem skipNoise_line {l : Text} (h : '\n' ∉ l) (t : Text) :
    skipNoise isAsciiWhitespace leftover .line (l ++ '\n' :: t) =
      skipNoise isAsciiWhitespace leftover .blank t := by
  induction l with
  | nil => rfl
  | cons c l ih =>
    have hc : c ≠ '\n' := fun same => h (by simp [same])
    rw [List.cons_append, skipNoise, if_neg hc]
    exact ih fun mem => h (by simp [mem])

/-- The first character inside a block comment does not close it. -/
theorem BlockInside.tail {c : Char} {b : Text} (h : BlockInside (c :: b)) (t : Text) :
    BlockInside b ∧ ¬ (c = '*' ∧ (b ++ '*' :: '/' :: t).head? = some '/') := by
  refine ⟨fun found => h (found.trans (List.suffix_cons _ _).isInfix), ?_⟩
  rintro ⟨rfl, next⟩
  cases b with
  | nil => cases next
  | cons d b =>
    obtain rfl : d = '/' := by simpa using next
    exact h ⟨[], b ++ ['*'], rfl⟩

theorem skipNoise_block {b : Text} (h : BlockInside b) (t : Text) :
    skipNoise isAsciiWhitespace leftover .block (b ++ '*' :: '/' :: t) =
      skipNoise isAsciiWhitespace leftover .blank t := by
  induction b with
  | nil => rfl
  | cons c b ih =>
    obtain ⟨inside, notClosed⟩ := h.tail t
    rw [List.cons_append, skipNoise, if_neg notClosed, if_neg (by simp)]
    exact ih inside

/-- **Complete noise is skipped**, and the scan goes on behind it. -/
theorem skipNoise_noise {noise : Text} (h : Noise noise) (t : Text) :
    skipNoise isAsciiWhitespace leftover .blank (noise ++ t) =
      skipNoise isAsciiWhitespace leftover .blank t := by
  induction h with
  | nil => rfl
  | blank c noise hc _ ih =>
    rw [List.cons_append, skipNoise_blank leftover rfl rfl hc]
    exact ih
  | line l noise hl _ ih =>
    have start :
        skipNoise isAsciiWhitespace leftover .blank ('-' :: '-' :: (l ++ '\n' :: noise) ++ t) =
          skipNoise isAsciiWhitespace leftover .line (l ++ '\n' :: (noise ++ t)) := by
      simp [skipNoise]
    rw [start, skipNoise_line leftover hl]
    exact ih
  | block b noise hb _ ih =>
    have start :
        skipNoise isAsciiWhitespace leftover .blank
            ('/' :: '*' :: (b ++ '*' :: '/' :: noise) ++ t) =
          skipNoise isAsciiWhitespace leftover .block (b ++ '*' :: '/' :: (noise ++ t)) := by
      simp [skipNoise]
    rw [start, skipNoise_block leftover hb]
    exact ih

/-! ### What was skipped -/

/-- A `--` comment ends at its line feed, or with the text. -/
theorem exists_line_of_skipNoise (isBlank : Char → Bool) (t : Text) :
    (∃ l rest, t = l ++ '\n' :: rest ∧ '\n' ∉ l ∧
      skipNoise isBlank leftover .line t = skipNoise isBlank leftover .blank rest) ∨
      skipNoise isBlank leftover .line t = [] := by
  induction t with
  | nil => exact .inr rfl
  | cons c t ih =>
    by_cases feed : c = '\n'
    · subst feed
      exact .inl ⟨[], t, rfl, by simp, by rw [skipNoise, if_pos rfl]⟩
    · rw [skipNoise, if_neg feed]
      rcases ih with ⟨l, rest, rfl, outside, skipped⟩ | nothing
      · exact .inl ⟨c :: l, rest, rfl, by simp [outside, Ne.symm feed], skipped⟩
      · exact .inr nothing

/-- A block comment ends at the first `*/`, or with the text. -/
theorem exists_block_of_skipNoise (isBlank : Char → Bool) (t : Text) :
    (∃ b rest, t = b ++ '*' :: '/' :: rest ∧ BlockInside b ∧
      skipNoise isBlank leftover .block t = skipNoise isBlank leftover .blank rest) ∨
      skipNoise isBlank leftover .block t = [] ∨
      ∃ c, skipNoise isBlank leftover .block t = leftover c := by
  induction t with
  | nil => exact .inr (.inl rfl)
  | cons c t ih =>
    by_cases closes : c = '*' ∧ t.head? = some '/'
    · obtain ⟨rfl, next⟩ := closes
      obtain ⟨rest, rfl⟩ : ∃ rest, t = '/' :: rest := by
        cases t with
        | nil => cases next
        | cons d rest => exact ⟨rest, by simpa using next⟩
      refine .inl ⟨[], rest, rfl, ?_, ?_⟩
      · intro found
        have short := found.length_le
        simp at short
      · simp [skipNoise]
    · rw [skipNoise, if_neg closes]
      by_cases last : t = []
      · rw [if_pos last]
        exact .inr (.inr ⟨c, rfl⟩)
      · rw [if_neg last]
        rcases ih with ⟨b, rest, rfl, inside, skipped⟩ | unclosed
        · refine .inl ⟨c :: b, rest, rfl, ?_, skipped⟩
          intro found
          rcases List.infix_cons_iff.mp found with first | later
          · -- `*/` at the front would have closed the comment.
            refine closes ?_
            cases b with
            | nil => simp at first
            | cons d b => simpa [eq_comm] using first
          · exact inside later
        · exact .inr unclosed

theorem eq_cons_of_head {c : Char} {t : Text} (h : t.head? = some c) : ∃ rest, t = c :: rest := by
  cases t with
  | nil => cases h
  | cons d rest =>
    obtain rfl : d = c := by simpa using h
    exact ⟨rest, rfl⟩

/-- **What is skipped in front of a text is complete noise**, if something is left of it. -/
theorem exists_noise_of_skipNoise (t : Text) :
    (∃ noise, Noise noise ∧ t = noise ++ skipNoise isAsciiWhitespace leftover .blank t ∧
      Solid (skipNoise isAsciiWhitespace leftover .blank t)) ∨
      skipNoise isAsciiWhitespace leftover .blank t = [] ∨
      ∃ c, skipNoise isAsciiWhitespace leftover .blank t = leftover c := by
  induction length : t.length using Nat.strong_induction_on generalizing t with
  | _ n ih =>
    have further (front rest : Text) (shorter : rest.length < n)
        (adds : ∀ noise, Noise noise → Noise (front ++ noise)) :
        let left := skipNoise isAsciiWhitespace leftover .blank rest
        (∃ noise, Noise noise ∧ front ++ rest = noise ++ left ∧ Solid left) ∨ left = [] ∨
          ∃ c, left = leftover c := by
      rcases ih rest.length shorter rest rfl with ⟨noise, isNoise, whole, solid⟩ | unclosed
      · exact .inl ⟨front ++ noise, adds noise isNoise, by rw [List.append_assoc, ← whole], solid⟩
      · exact .inr unclosed
    cases t with
    | nil => exact .inr (.inl rfl)
    | cons c t =>
      rw [skipNoise]
      split
      next isLine =>
        obtain ⟨rfl, next⟩ := isLine
        obtain ⟨body, rfl⟩ := eq_cons_of_head next
        rw [skipNoise, if_neg (by decide)]
        rcases exists_line_of_skipNoise leftover isAsciiWhitespace body with
          ⟨l, rest, rfl, outside, skipped⟩ | nothing
        · rw [skipped]
          simpa using further ('-' :: '-' :: (l ++ ['\n'])) rest (by simp at length; omega)
            fun noise isNoise => by simpa using Noise.line l noise outside isNoise
        · exact .inr (.inl nothing)
      next notLine =>
        split
        next isBlock =>
          obtain ⟨rfl, next⟩ := isBlock
          obtain ⟨body, rfl⟩ := eq_cons_of_head next
          rw [skipNoise]
          rcases exists_block_of_skipNoise leftover isAsciiWhitespace body with
            ⟨b, rest, rfl, inside, skipped⟩ | unclosed
          · rw [skipped]
            simpa using further ('/' :: '*' :: (b ++ ['*', '/'])) rest (by simp at length; omega)
              fun noise isNoise => by simpa using Noise.block b noise inside isNoise
          · exact .inr unclosed
        next notBlock =>
          split
          next isBlank =>
            exact further [c] t (by simp at length; omega) fun noise => .blank c noise isBlank
          next notBlank =>
            exact .inl ⟨[], .nil, rfl, c, t, rfl, by simpa using notBlank, notLine, notBlock⟩

end Text
