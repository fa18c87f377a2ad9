import PlexPostgres.Sqlite.Lexer

/-!
# The statements of a script

`sqlite3_exec` takes a script and runs its statements one by one.  A statement ends at a
semicolon that is not in a literal, a quoted name or a comment, and not in the body of a
CREATE TRIGGER, which ends with `END` and a semicolon of its own.  This is how
`sqlite3_complete` recognises the end of a statement, and the scanner here is its.
-/

namespace PlexPostgres.Sqlite

open Text

/-- The words that matter for the end of a statement. -/
inductive ScriptToken where
  | other
  | explain
  | create
  | temp
  | trigger
  | endWord
  deriving DecidableEq, Repr

/-- What a word is. -/
def ScriptToken.ofWord (word : Text) : ScriptToken :=
  let lower := asciiLower word
  if lower = "explain".toList then .explain
  else if lower = "create".toList then .create
  else if lower = "temp".toList ∨ lower = "temporary".toList then .temp
  else if lower = "trigger".toList then .trigger
  else if lower = "end".toList then .endWord
  else .other

/-- **How far a statement has come.**  `trigger`, `semicolon` and `ending` are in the body
of a trigger: anywhere in it, after a semicolon of it, and after an `END` there. -/
inductive Stage where
  | start
  | normal
  | explain
  | create
  | trigger
  | semicolon
  | ending
  deriving DecidableEq, Repr

namespace Stage

/-- A word, or any other token that is no semicolon. -/
def token : Stage → ScriptToken → Stage
  | .start, .explain => .explain
  | .start, .create => .create
  | .start, _ => .normal
  | .normal, _ => .normal
  | .explain, .other => .explain
  | .explain, .create => .create
  | .explain, _ => .normal
  | .create, .temp => .create
  | .create, .trigger => .trigger
  | .create, _ => .normal
  | .semicolon, .endWord => .ending
  | .trigger, _ | .semicolon, _ | .ending, _ => .trigger

/-- Does a semicolon end the statement here? -/
def isComplete : Stage → Bool
  | .trigger | .semicolon => false
  | .start | .normal | .explain | .create | .ending => true

end Stage

/-- May a character stand in a word?  Everything beyond ASCII may. -/
def isIdChar (c : Char) : Bool := c.isAlphanum || c == '_' || c == '$' || 128 ≤ c.toNat

/-- **The scanner**: what it is in, the word it is reading, and how far the statement has
come without that word. -/
structure Scanner where
  mode : LexMode
  word : Text
  stage : Stage
  deriving DecidableEq, Repr

namespace Scanner

/-- At the beginning of a statement. -/
def start : Scanner := ⟨.plain, [], .start⟩

/-- How far the statement has come, the word included. -/
def reached (s : Scanner) : Stage :=
  if s.word = [] then s.stage else s.stage.token (.ofWord s.word)

/-- Does the statement end at this character? -/
def ends (s : Scanner) (c : Char) : Bool := s.mode = .plain && c = ';' && s.reached.isComplete

/-- **One character** that does not end the statement. -/
def next (s : Scanner) (c : Char) (following : Option Char) : Scanner :=
  let mode := s.mode.next c following
  if s.mode ≠ .plain then { s with mode }
  else if isIdChar c then { s with mode, word := s.word ++ [c] }
  else if c = ';' then ⟨mode, [], .semicolon⟩
  else if isAsciiWhitespace c || mode = .line || mode = .opening then ⟨mode, [], s.reached⟩
  else ⟨mode, [], s.reached.token .other⟩

end Scanner

/-- **The pieces of a script**; `piece` is what has been read of the first. -/
def split : Scanner → Text → Text → List Text
  | _, piece, [] => [piece]
  | s, piece, c :: t =>
    if s.ends c then piece :: split .start [] t
    else split (s.next c t.head?) (piece ++ [c]) t

/-- Is there nothing in a piece but white space and comments? -/
def isBlankPiece (piece : Text) : Bool := skipNoise isWhitespace (fun _ => []) .blank piece = []

/-- **The statements of a script.** -/
def statements (script : Text) : List Text := (split .start [] script).filter (!isBlankPiece ·)

example : statements "BEGIN; -- a;b\nDELETE FROM t WHERE a = ';' ;; /* end */".toList =
    ["BEGIN".toList, " -- a;b\nDELETE FROM t WHERE a = ';' ".toList] := by
  decide

example : (statements
    "CREATE TRIGGER x AFTER INSERT ON t BEGIN DELETE FROM u; END; END".toList).length
    = 2 := by
  decide

/-! ### A piece is one piece -/

/-- **No statement ends in the text.** -/
def uncut : Scanner → Text → Bool
  | _, [] => true
  | s, c :: t => !s.ends c && uncut (s.next c t.head?) t

theorem split_of_uncut {s : Scanner} {q : Text} (whole : uncut s q = true) (piece : Text) :
    split s piece q = [piece ++ q] := by
  induction q generalizing s piece with
  | nil => simp [split]
  | cons c q ih =>
    rw [uncut, Bool.and_eq_true, Bool.not_eq_true'] at whole
    rw [split, if_neg (by simp [whole.1]), ih whole.2, List.append_assoc]
    rfl

/-- No statement ends in a piece of a script. -/
theorem uncut_split (s : Scanner) (piece t : Text) :
    ∃ first rest, split s piece t = (piece ++ first) :: rest ∧ first <+: t ∧
      uncut s first = true ∧ ∀ u ∈ rest, uncut .start u = true := by
  induction t generalizing s piece with
  | nil => exact ⟨[], [], by simp [split], List.nil_prefix, rfl, by simp⟩
  | cons c t ih =>
    rw [split]
    split
    next ended =>
      refine ⟨[], _, by rw [List.append_nil], List.nil_prefix, rfl, fun u mem => ?_⟩
      obtain ⟨first, rest, pieces, -, whole, others⟩ := ih .start []
      rw [pieces, List.nil_append] at mem
      rcases List.mem_cons.mp mem with rfl | mem
      · exact whole
      · exact others u mem
    next inside =>
      obtain ⟨first, rest, pieces, lead, whole, others⟩ := ih (s.next c t.head?) (piece ++ [c])
      refine ⟨c :: first, rest, by rw [pieces]; simp, List.prefix_cons_inj c |>.mpr lead, ?_,
        others⟩
      rw [uncut, Bool.eq_false_iff.mpr inside, Bool.not_false, Bool.true_and]
      cases first with
      | nil => rfl
      | cons d first =>
        obtain ⟨after, rfl⟩ := lead
        exact whole

theorem uncut_of_mem_split {script p : Text} (mem : p ∈ split .start [] script) :
    uncut .start p = true := by
  obtain ⟨first, rest, pieces, -, whole, others⟩ := uncut_split .start [] script
  rw [pieces, List.nil_append] at mem
  rcases List.mem_cons.mp mem with rfl | mem
  · exact whole
  · exact others p mem

/-! ### Texts that stay in one statement -/

/-- A character that neither opens anything nor ends a statement. -/
def isTame (c : Char) : Bool :=
  c ≠ ';' && c ≠ '-' && c ≠ '/' && c ≠ '[' && c ≠ singleQuote && c ≠ doubleQuote && c ≠ backQuote

variable {c : Char}

/-- A character that passes a test which none of the others passes. -/
theorem isTame_of_test (p : Char → Bool) (passed : p c = true)
    (others : [';', '-', '/', '[', singleQuote, doubleQuote, backQuote].any p = false) :
    isTame c = true := by
  have apart : c ∉ [';', '-', '/', '[', singleQuote, doubleQuote, backQuote] := fun mem =>
    List.any_eq_false.mp others c mem passed
  simpa [isTame, and_assoc] using apart

theorem isTame_of_isWhitespace (blank : isWhitespace c = true) : isTame c = true :=
  isTame_of_test isWhitespace blank rfl

theorem next_plain_of_tame (tame : isTame c = true) (following : Option Char) :
    LexMode.plain.next c following = .plain := by
  simp only [isTame, Bool.and_eq_true, decide_eq_true_eq] at tame
  simp [LexMode.next, tame]

theorem Scanner.plain_of_ends {s : Scanner} (ended : s.ends c = true) :
    s.mode = .plain ∧ c = ';' := by
  simp only [Scanner.ends, Bool.and_eq_true, decide_eq_true_eq] at ended
  exact ended.1

theorem Scanner.ends_of_ne (s : Scanner) (other : c ≠ ';') : s.ends c = false :=
  Bool.eq_false_iff.mpr fun ended => other (plain_of_ends ended).2

theorem Scanner.next_mode (s : Scanner) (c : Char) (following : Option Char) :
    (s.next c following).mode = s.mode.next c following := by
  unfold Scanner.next
  dsimp only
  split_ifs <;> rfl

variable {a : Text} {s : Scanner}

/-- Tame text is read into the piece. -/
theorem split_tame (tame : ∀ c ∈ a, isTame c = true) (plain : s.mode = .plain) (piece b : Text) :
    ∃ s' : Scanner, s'.mode = .plain ∧ split s piece (a ++ b) = split s' (piece ++ a) b := by
  induction a generalizing s piece with
  | nil => exact ⟨s, plain, by simp⟩
  | cons c a ih =>
    have isTame := tame c (by simp)
    have notEnd : s.ends c = false := s.ends_of_ne (ne_of_test isTame rfl)
    have stays : (s.next c (a ++ b).head?).mode = .plain := by
      rw [Scanner.next_mode, plain, next_plain_of_tame isTame]
    obtain ⟨s', plain', read⟩ := ih (fun d mem => tame d (by simp [mem])) stays (piece ++ [c])
    refine ⟨s', plain', ?_⟩
    rw [List.cons_append, split, if_neg (by simp [notEnd]), read, List.append_assoc]
    rfl

variable {b : Text}

/-- Inside a quotation everything up to its closing mark is read into the piece. -/
theorem split_quoted {close : Char} (inside : close ∉ a) (quoted : s.mode = .quoted close)
    (piece : Text) (single : b.head? ≠ some close) :
    ∃ s' : Scanner, s'.mode = .plain ∧
      split s piece (a ++ close :: b) = split s' (piece ++ a ++ [close]) b := by
  have notEnd (t : Scanner) (inQuote : t.mode = .quoted close) (c : Char) : t.ends c = false := by
    simp [Scanner.ends, inQuote]
  induction a generalizing s piece with
  | nil =>
    refine ⟨s.next close b.head?, ?_, ?_⟩
    · rw [Scanner.next_mode, quoted]
      simp [LexMode.next, single]
    · rw [List.nil_append, split, if_neg (by simp [notEnd s quoted]), List.append_nil]
  | cons c a ih =>
    have other : c ≠ close := by
      rintro rfl
      simp at inside
    have stays : (s.next c (a ++ close :: b).head?).mode = .quoted close := by
      rw [Scanner.next_mode, quoted]
      simp [LexMode.next, other]
    obtain ⟨s', plain', read⟩ := ih (fun mem => inside (by simp [mem])) stays (piece ++ [c])
    refine ⟨s', plain', ?_⟩
    rw [List.cons_append, split, if_neg (by simp [notEnd s quoted]), read]
    simp

/-! ### Noise in front of a statement -/

/-- A character in front of a statement that leaves the scanner where it is. -/
theorem split_start_step {mode mode' : LexMode} (piece : Text) {t : Text}
    (notEnd : (⟨mode, [], .start⟩ : Scanner).ends c = false)
    (step : (⟨mode, [], .start⟩ : Scanner).next c t.head? = ⟨mode', [], .start⟩) :
    split ⟨mode, [], .start⟩ piece (c :: t) = split ⟨mode', [], .start⟩ (piece ++ [c]) t := by
  rw [split, if_neg (by simp [notEnd]), step]

theorem split_line {l : Text} (outside : '\n' ∉ l) (piece t : Text) :
    split ⟨.line, [], .start⟩ piece (l ++ '\n' :: t) =
      split .start (piece ++ l ++ ['\n']) t := by
  induction l generalizing piece with
  | nil =>
    rw [List.nil_append, List.append_nil]
    exact split_start_step piece rfl rfl
  | cons c l ih =>
    have notFeed : c ≠ '\n' := fun same => outside (by simp [same])
    rw [List.cons_append, split_start_step piece rfl
      (show _ = (⟨.line, [], .start⟩ : Scanner) by simp [Scanner.next, LexMode.next, notFeed]),
      ih fun mem => outside (by simp [mem])]
    simp

theorem split_block (inside : BlockInside b) (piece t : Text) :
    split ⟨.block, [], .start⟩ piece (b ++ '*' :: '/' :: t) =
      split .start (piece ++ b ++ ['*', '/']) t := by
  induction b generalizing piece with
  | nil =>
    have star : split ⟨.block, [], .start⟩ piece ('*' :: '/' :: t) =
        split ⟨.closing, [], .start⟩ (piece ++ ['*']) ('/' :: t) :=
      split_start_step piece rfl rfl
    have slash : split ⟨.closing, [], .start⟩ (piece ++ ['*']) ('/' :: t) =
        split .start (piece ++ ['*'] ++ ['/']) t := split_start_step _ rfl rfl
    rw [List.nil_append, List.append_nil, star, slash, List.append_assoc]
    rfl
  | cons c b ih =>
    obtain ⟨later, notClosed⟩ := inside.tail t
    have stays : (⟨.block, [], .start⟩ : Scanner).next c (b ++ '*' :: '/' :: t).head? =
        ⟨.block, [], .start⟩ := by
      simp only [Scanner.next, LexMode.next, if_neg notClosed]
      rfl
    rw [List.cons_append, split_start_step piece rfl stays, ih later]
    simp

/-- **Noise in front of a statement** is read into its piece, and no statement has begun. -/
theorem split_noise {noise : Text} (isNoise : Noise noise) (piece t : Text) :
    split .start piece (noise ++ t) = split .start (piece ++ noise) t := by
  induction isNoise generalizing piece with
  | nil => simp
  | blank c noise isBlank _ ih =>
    have stays : Scanner.start.next c (noise ++ t).head? = .start := by
      simp only [isAsciiWhitespace, Bool.or_eq_true, beq_iff_eq] at isBlank
      obtain (((rfl | rfl) | rfl) | rfl) | rfl := isBlank <;> rfl
    have notEnd : Scanner.start.ends c = false :=
      Scanner.start.ends_of_ne (ne_of_test isBlank rfl)
    have read : split .start piece (c :: (noise ++ t)) =
        split .start (piece ++ [c]) (noise ++ t) := split_start_step piece notEnd stays
    rw [List.cons_append, read, ih]
    simp
  | line l noise outside _ ih =>
    have opened : split .start piece ('-' :: '-' :: (l ++ '\n' :: (noise ++ t))) =
        split ⟨.line, [], .start⟩ (piece ++ ['-', '-']) (l ++ '\n' :: (noise ++ t)) := by
      rw [Scanner.start, split_start_step piece rfl
        (show _ = (⟨.line, [], .start⟩ : Scanner) from rfl),
        split_start_step _ rfl (show _ = (⟨.line, [], .start⟩ : Scanner) from rfl)]
      simp
    have whole : '-' :: '-' :: (l ++ '\n' :: noise) ++ t =
        '-' :: '-' :: (l ++ '\n' :: (noise ++ t)) := by simp
    rw [whole, opened, split_line outside, ih]
    simp
  | block b noise inside _ ih =>
    have opened : split .start piece ('/' :: '*' :: (b ++ '*' :: '/' :: (noise ++ t))) =
        split ⟨.block, [], .start⟩ (piece ++ ['/', '*']) (b ++ '*' :: '/' :: (noise ++ t)) := by
      rw [Scanner.start, split_start_step piece rfl
        (show _ = (⟨.opening, [], .start⟩ : Scanner) from rfl),
        split_start_step _ rfl (show _ = (⟨.block, [], .start⟩ : Scanner) from rfl)]
      simp
    have whole : '/' :: '*' :: (b ++ '*' :: '/' :: noise) ++ t =
        '/' :: '*' :: (b ++ '*' :: '/' :: (noise ++ t)) := by simp
    rw [whole, opened, split_block inside, ih]
    simp

/-! ### White space and semicolons behind a statement -/

/-- White space or a semicolon. -/
def isTail (c : Char) : Bool := isWhitespace c || c = ';'

theorem isBlankPiece_of_whitespace {piece : Text} (blank : ∀ c ∈ piece, isWhitespace c = true) :
    isBlankPiece piece = true := by
  suffices skipNoise isWhitespace (fun _ => []) .blank piece = [] by simpa [isBlankPiece] using this
  induction piece with
  | nil => rfl
  | cons c piece ih =>
    rw [skipNoise_blank _ rfl rfl (blank c (by simp))]
    exact ih fun d mem => blank d (by simp [mem])

theorem ofWord_of_blank {word : Text} (blank : ∀ c ∈ word.head?, isWhitespace c = true) :
    ScriptToken.ofWord word = .other := by
  -- The keywords begin with letters, and no white space folds into a letter.
  have foreign (keyword : Text) (letters : keyword.head?.all (!isWhitespace ·) = true)
      (ne : keyword ≠ []) : asciiLower word ≠ keyword := by
    intro same
    cases word with
    | nil => exact ne same.symm
    | cons c word =>
      have isBlank := blank c rfl
      have folded : c.toLower = c := toLower_of_isWhitespace isBlank
      rw [← same] at letters
      simp [asciiLower, folded, isBlank] at letters
  unfold ScriptToken.ofWord
  simp only [foreign "explain".toList (by decide) (by decide),
    foreign "create".toList (by decide) (by decide), foreign "temp".toList (by decide) (by decide),
    foreign "temporary".toList (by decide) (by decide),
    foreign "trigger".toList (by decide) (by decide), foreign "end".toList (by decide) (by decide)]
  rfl

/-- Before the first word of a statement, or past it, but in no trigger. -/
structure Scanner.Loose (s : Scanner) : Prop where
  mode : s.mode = .plain
  word : ∀ c ∈ s.word, isWhitespace c = true
  stage : s.stage = .start ∨ s.stage = .normal

theorem Scanner.loose_start : Scanner.start.Loose := ⟨rfl, by simp [Scanner.start], .inl rfl⟩

theorem Scanner.Loose.reached (loose : s.Loose) :
    s.reached = .start ∨ s.reached = .normal := by
  unfold Scanner.reached
  split
  · exact loose.stage
  · rw [ofWord_of_blank fun c head => loose.word c (List.mem_of_mem_head? head)]
    rcases loose.stage with stage | stage
    · exact .inr (by rw [stage]; rfl)
    · exact .inr (by rw [stage]; rfl)

theorem Scanner.Loose.next (loose : s.Loose) (blank : isWhitespace c = true)
    (following : Option Char) : (s.next c following).Loose := by
  have plain := next_plain_of_tame (isTame_of_isWhitespace blank) following
  by_cases inWord : isIdChar c = true
  · have grown : s.next c following = ⟨.plain, s.word ++ [c], s.stage⟩ := by
      simp [Scanner.next, loose.mode, inWord, plain]
    rw [grown]
    exact ⟨rfl, List.forall_mem_append.mpr ⟨loose.word, List.forall_mem_singleton.mpr blank⟩,
      loose.stage⟩
  · have notSemicolon : c ≠ ';' := ne_of_test blank rfl
    have moved : s.next c following = ⟨.plain, [], s.reached⟩ ∨
        s.next c following = ⟨.plain, [], s.reached.token .other⟩ := by
      simp only [Scanner.next, loose.mode, plain, inWord, notSemicolon]
      split_ifs <;> simp_all
    rcases moved with moved | moved
    · rw [moved]
      exact ⟨rfl, by simp, loose.reached⟩
    · rw [moved]
      refine ⟨rfl, by simp, .inr ?_⟩
      rcases loose.reached with reached | reached
      · rw [reached]; rfl
      · rw [reached]; rfl

/-- Between semicolons that follow each other there is white space only. -/
theorem split_tail_blank (tail : ∀ c ∈ b, isTail c = true) (loose : s.Loose) {piece : Text}
    (blank : ∀ c ∈ piece, isWhitespace c = true) :
    ∀ p ∈ split s piece b, ∀ c ∈ p, isWhitespace c = true := by
  induction b generalizing s piece with
  | nil =>
    intro p mem
    obtain rfl : p = piece := by simpa [split] using mem
    exact blank
  | cons c b ih =>
    have later : ∀ d ∈ b, isTail d = true := fun d mem => tail d (by simp [mem])
    rw [split]
    split
    · intro p mem
      rcases List.mem_cons.mp mem with rfl | mem
      · exact blank
      · exact ih later Scanner.loose_start (by simp) p mem
    next notEnd =>
      have isBlank : isWhitespace c = true := by
        rcases Bool.or_eq_true_iff.mp (tail c (by simp)) with isBlank | isSemicolon
        · exact isBlank
        · -- A semicolon would have ended the piece.
          refine absurd ?_ notEnd
          have complete : s.reached.isComplete = true := by
            rcases loose.reached with reached | reached
            · rw [reached]; rfl
            · rw [reached]; rfl
          simpa [Scanner.ends, loose.mode, complete] using isSemicolon
      exact ih later (loose.next isBlank _)
        (List.forall_mem_append.mpr ⟨blank, List.forall_mem_singleton.mpr isBlank⟩)

/-- **White space and semicolons behind a text** begin no further statement. -/
theorem split_tail (tail : ∀ c ∈ b, isTail c = true) (plain : s.mode = .plain) (piece : Text) :
    ∃ p rest, split s piece b = p :: rest ∧ ∀ q ∈ rest, isBlankPiece q = true := by
  induction b generalizing s piece with
  | nil => exact ⟨piece, [], rfl, by simp⟩
  | cons c b ih =>
    have later : ∀ d ∈ b, isTail d = true := fun d mem => tail d (by simp [mem])
    rw [split]
    split
    · refine ⟨piece, _, rfl, fun q mem => isBlankPiece_of_whitespace ?_⟩
      exact split_tail_blank later Scanner.loose_start (by simp) q mem
    · refine ih later ?_ (piece ++ [c])
      rw [Scanner.next_mode, plain]
      rcases Bool.or_eq_true_iff.mp (tail c (by simp)) with isBlank | isSemicolon
      · exact next_plain_of_tame (isTame_of_isWhitespace isBlank) _
      · obtain rfl : c = ';' := by simpa using isSemicolon
        rfl

end PlexPostgres.Sqlite
