import Mathlib.Data.List.Chain
import PlexPostgres.Library.Runs
import PlexPostgres.Sqlite.Transaction
import PlexPostgres.Txn.Classify

/-!
# Recognition and planning, beside SQLite

The shim and SQLite read the same statements.  The shim recognises them with
`classifySql` and moves its frame stack with `plan`; SQLite has a grammar and a
machine of its own (`Sqlite.ControlStatement`, `Sqlite.Transaction`).

A statement that is *plainly written* — white space only between its words, a
savepoint name of letters, digits, `_` and `$`, no name after `TRANSACTION`, and
at the end nothing but white space and one run of semicolons — is recognised as
what SQLite takes it for (`classifySql_sql`).  What is left is names: the shim
compares them as written, SQLite without regard to case.  So the two agree along
every run in which the savepoint a RELEASE or ROLLBACK TO means is written as it
was when it was set (`Clear`), and disagree as soon as it is not
(`release_in_other_case`).
-/

namespace PlexPostgres.Txn

open Text Sqlite
open ControlStatement (body)

/-! ### Characters of names -/

theorem isNameChar_bounds {c : Char} (h : isNameChar c = true) :
    (48 ≤ c.toNat ∧ c.toNat ≤ 57) ∨ (65 ≤ c.toNat ∧ c.toNat ≤ 90) ∨
      (97 ≤ c.toNat ∧ c.toNat ≤ 122) ∨ c.toNat = 95 ∨ c.toNat = 36 := by
  have nine : '9'.val.toNat = 57 := rfl
  have upperZ : 'Z'.val.toNat = 90 := rfl
  have lowerZ : 'z'.val.toNat = 122 := rfl
  have zero : '0'.val.toNat = 48 := rfl
  have upperA : 'A'.val.toNat = 65 := rfl
  have lowerA : 'a'.val.toNat = 97 := rfl
  have same : c.val.toNat = c.toNat := rfl
  delta isNameChar Char.isAlphanum Char.isAlpha Char.isUpper Char.isLower Char.isDigit at h
  simp only [Bool.or_eq_true, Bool.and_eq_true, decide_eq_true_eq, beq_iff_eq, ge_iff_le,
    UInt32.le_iff_toNat_le] at h
  rcases h with (h | rfl) | rfl
  · omega
  · decide
  · decide

/-- A character of a plainly written word: of a name, or a quotation mark. -/
def isWordChar (c : Char) : Bool :=
  isNameChar c || c == doubleQuote || c == singleQuote || c == backQuote || c == '[' || c == ']'

theorem isWordChar_spec {c : Char} (h : isWordChar c = true) :
    isWhitespace c = false ∧ isAsciiWhitespace c = false ∧ c ≠ ';' ∧ c ≠ '-' ∧ c ≠ '/' := by
  have graphic : 0x21 ≤ c.toNat ∧ c.toNat ≤ 0x7e ∧ c.toNat ≠ 59 ∧ c.toNat ≠ 45 ∧
      c.toNat ≠ 47 := by
    simp only [isWordChar, Bool.or_eq_true, beq_iff_eq] at h
    rcases h with ((((h | rfl) | rfl) | rfl) | rfl) | rfl
    · have bounds := isNameChar_bounds h
      omega
    all_goals decide
  obtain ⟨low, high, semicolon, dash, slash⟩ := graphic
  have notWs : isWhitespace c = false := by
    simp only [isWhitespace, Bool.or_eq_false_iff, Bool.and_eq_false_iff, decide_eq_false_iff_not,
      beq_eq_false_iff_ne]
    omega
  refine ⟨notWs, ?_, ?_, ?_, ?_⟩
  · by_contra ascii
    rw [isWhitespace_of_isAsciiWhitespace (by simpa using ascii)] at notWs
    cases notWs
  · rintro rfl
    exact semicolon rfl
  · rintro rfl
    exact dash rfl
  · rintro rfl
    exact slash rfl

/-! ### Plainly written statements -/

/-- A word whose text is a name the shim accepts. -/
def PlainWord (w : Word) : Prop := w.text ≠ [] ∧ ∀ c ∈ w.text, isNameChar c = true

instance : DecidablePred PlainWord := fun w =>
  decidable_of_iff (w.text ≠ [] ∧ w.text.all isNameChar = true)
    (by rw [PlainWord, List.all_eq_true])

/-- No word but TO follows TRANSACTION: the transaction is not given a name. -/
def Unnamed (words : List Word) : Prop :=
  words.IsChain fun w next => w.Is .transaction → next.Is .toWord

instance : DecidablePred Unnamed := fun words =>
  inferInstanceAs (Decidable (words.IsChain fun w next => w.Is .transaction → next.Is .toWord))

/-- **A plainly written statement.** -/
structure PlainStatement (st : ControlStatement) : Prop where
  words : ∀ w ∈ st.words, PlainWord w
  gaps : ∀ piece ∈ st.rest, piece.1 ≠ [] ∧ ∀ c ∈ piece.1, isAsciiWhitespace c = true
  tail : ∃ before semicolons after, st.tail = before ++ semicolons ++ after ∧
    (∀ c ∈ before, isAsciiWhitespace c = true) ∧ (∀ c ∈ semicolons, c = ';') ∧
    ∀ c ∈ after, isAsciiWhitespace c = true
  unnamed : Unnamed st.words

/-- No quotation mark stands inside a plain word, so none is doubled. -/
theorem render_quoted {q : Quote} {t : Text} (plain : PlainWord (.quoted q t)) :
    (Word.quoted q t).render = q.first :: (t ++ [q.last]) := by
  have notMark : ∀ c ∈ t, c ≠ q.last := by
    rintro c hc rfl
    have name := plain.2 _ hc
    cases q <;> exact absurd name (by decide)
  have copied : (t.flatMap fun c => if c = q.last then [c, c] else [c]) = t := by
    rw [List.flatMap_congr (g := fun c => [c]) fun c hc => if_neg (notMark c hc)]
    simp
  cases q with
  | bracket => rfl
  | double | single | back => rw [Word.render, copied]; simp

theorem render_ne_nil {w : Word} (plain : PlainWord w) : w.render ≠ [] := by
  cases w with
  | bare t => exact plain.1
  | quoted q t => rw [render_quoted plain]; simp

theorem isWordChar_of_mem_render {w : Word} (plain : PlainWord w) :
    ∀ c ∈ w.render, isWordChar c = true := by
  intro c hc
  cases w with
  | bare t => simp [isWordChar, plain.2 c hc]
  | quoted q t =>
    rw [render_quoted plain] at hc
    rcases List.mem_cons.mp hc with rfl | hc
    · cases q <;> decide
    rcases List.mem_append.mp hc with hc | hc
    · simp [isWordChar, plain.2 c hc]
    · rw [List.mem_singleton.mp hc]
      cases q <;> decide

/-- A word is a keyword exactly when its text, in lower case, is: quotation marks
are no letters. -/
@[simp] theorem asciiLower_render_eq_iff (w : Word) (keyword : Keyword) :
    asciiLower w.render = keyword.text ↔ w.Is keyword := by
  cases w with
  | bare t => rfl
  | quoted q t =>
    refine iff_of_false (fun same => ?_) id
    have letter := keyword.isLower_head
    rw [← same] at letter
    cases q <;> exact absurd (letter _ rfl) (by decide)

/-- The shim reads a plain word, bare or quoted, as the name it denotes. -/
theorem savepointName_render {w : Word} (plain : PlainWord w) :
    savepointName w.render = some w.text := by
  have chars := isWordChar_of_mem_render plain
  have trimmed : trim w.render = w.render :=
    trim_eq_self fun c hc => (isWordChar_spec (chars c hc)).1
  have kept : trimEndMatches ';' w.render = w.render :=
    rdropWhile_of_getLast fun c hc => by
      simpa using (isWordChar_spec (chars c (List.mem_of_getLast? hc))).2.2.1
  have accepted : (w.text.isEmpty || !w.text.all isNameChar) = false := by
    simpa [plain.1] using plain.2
  rw [savepointName, trimmed, kept, trimmed]
  cases w with
  | bare t =>
    have unquoted : ∀ first last : Char, isNameChar first = false →
        isQuotedBy first last t = false := by
      intro first last notName
      have differs : t.head? ≠ some first := fun same => by
        rw [plain.2 first (List.mem_of_mem_head? same)] at notName
        cases notName
      simp [isQuotedBy, differs]
    simp only [Word.render, unquoted doubleQuote _ (by decide),
      unquoted singleQuote _ (by decide), unquoted backQuote _ (by decide),
      unquoted '[' _ (by decide), Bool.or_self, Bool.false_eq_true, if_false]
    rw [Word.text] at accepted
    simp [accepted, Word.text]
  | quoted q t =>
    have last : (q.first :: (t ++ [q.last])).getLast? = some q.last := by
      rw [← List.cons_append, List.getLast?_append_of_ne_nil _ (by simp)]
      rfl
    have quoted : isQuotedBy q.first q.last (q.first :: (t ++ [q.last])) = true := by
      simp [isQuotedBy, last]
    rw [render_quoted plain]
    rw [Word.text] at accepted
    -- Whichever mark it is, one of the four tests finds it at both ends.
    cases q <;> simp only [Quote.first, Quote.last] at quoted <;>
      simp [Quote.first, Quote.last, quoted, accepted, Word.text]

/-! ### The text of a plain statement -/

variable {first : Word} {rest : List (Text × Word)}

/-- The ends of a statement's words: a word character first, and one last. -/
theorem body_ends (plainFirst : PlainWord first) (plainRest : ∀ piece ∈ rest, PlainWord piece.2) :
    (∃ c tail, body first rest = c :: tail ∧ isWordChar c = true) ∧
      ∃ init c, body first rest = init ++ [c] ∧ isWordChar c = true := by
  induction rest generalizing first with
  | nil =>
    have chars := isWordChar_of_mem_render plainFirst
    obtain ⟨c, tail, hc⟩ := List.exists_cons_of_ne_nil (render_ne_nil plainFirst)
    obtain ⟨init, d, hd⟩ := List.eq_nil_or_concat'  first.render |>.resolve_left
      (render_ne_nil plainFirst)
    exact ⟨⟨c, tail, hc, chars c (by simp [hc])⟩, init, d, hd, chars d (by simp [hd])⟩
  | cons piece rest ih =>
    obtain ⟨gap, w⟩ := piece
    have chars := isWordChar_of_mem_render plainFirst
    obtain ⟨c, tail, hc⟩ := List.exists_cons_of_ne_nil (render_ne_nil plainFirst)
    obtain ⟨-, init, d, hd, wordChar⟩ := ih (plainRest (gap, w) (by simp))
      fun q hq => plainRest q (by simp [hq])
    refine ⟨⟨c, tail ++ gap ++ body w rest, ?_, chars c (by simp [hc])⟩,
      first.render ++ gap ++ init, d, ?_, wordChar⟩
    · simp [body, hc]
    · simp [body, hd]

/-- Splitting at white space gives the words back. -/
theorem splitWhitespace_body (plainFirst : PlainWord first)
    (plainRest : ∀ piece ∈ rest, PlainWord piece.2)
    (gaps : ∀ piece ∈ rest, piece.1 ≠ [] ∧ ∀ c ∈ piece.1, isAsciiWhitespace c = true) :
    splitWhitespace (body first rest) =
      (first :: rest.map Prod.snd).map Word.render := by
  induction rest generalizing first with
  | nil =>
    exact splitWhitespace_single (render_ne_nil plainFirst) fun c hc =>
      (isWordChar_spec (isWordChar_of_mem_render plainFirst c hc)).1
  | cons piece rest ih =>
    obtain ⟨gap, w⟩ := piece
    obtain ⟨gapNe, gapBlank⟩ := gaps (gap, w) (by simp)
    have next := ih (plainRest (gap, w) (by simp)) (fun q hq => plainRest q (by simp [hq]))
      fun q hq => gaps q (by simp [hq])
    rw [body, splitWhitespace_word (render_ne_nil plainFirst)
      (fun c hc => (isWordChar_spec (isWordChar_of_mem_render plainFirst c hc)).1) gapNe
      (fun c hc => isWhitespace_of_isAsciiWhitespace (gapBlank c hc)), next]
    rfl

variable {st : ControlStatement}

/-- What is split is exactly the words with the white space between them. -/
theorem classifyBody_sql (plain : PlainStatement st) :
    classifyBody st.sql = body st.first st.rest := by
  have plainFirst : PlainWord st.first := plain.words st.first (by simp [ControlStatement.words])
  have plainRest : ∀ piece ∈ st.rest, PlainWord piece.2 := fun piece mem =>
    plain.words piece.2 (List.mem_cons_of_mem _ (List.mem_map_of_mem mem))
  obtain ⟨before, semicolons, after, tail, hbefore, hsemi, hafter⟩ := plain.tail
  obtain ⟨⟨c, text, starts, firstChar⟩, init, d, ends, lastChar⟩ :=
    body_ends plainFirst plainRest
  have solid : Solid (body st.first st.rest ++ st.tail) := by
    obtain ⟨-, notBlank, -, notDash, notSlash⟩ := isWordChar_spec firstChar
    refine ⟨c, text ++ st.tail, by rw [starts, List.cons_append], notBlank, ?_, ?_⟩
    · exact fun h => notDash h.1
    · exact fun h => notSlash h.1
  have stripped : stripLeadingNoise st.sql = body st.first st.rest ++ st.tail := by
    rw [stripLeadingNoise, ControlStatement.sql, List.append_assoc, skipNoise_noise _ st.lead_noise,
      skipNoise_solid _ solid]
  rw [classifyBody, stripped, tail]
  refine trim_trimEndMatches_trim (by decide) (by simp [starts]) ?_ ?_ ?_ hsemi ?_
  · intro x hx
    rw [starts] at hx
    obtain rfl : c = x := by simpa using hx
    exact (isWordChar_spec firstChar).1
  · intro x hx
    rw [ends, List.getLast?_concat] at hx
    obtain rfl : d = x := by simpa using hx
    exact ⟨(isWordChar_spec lastChar).1, (isWordChar_spec lastChar).2.2.1⟩
  · exact fun x hx => isWhitespace_of_isAsciiWhitespace (hbefore x hx)
  · exact fun x hx => isWhitespace_of_isAsciiWhitespace (hafter x hx)

/-! ### The command a plain statement is -/

theorem transOpt_unnamed {trans : List Word} (h : TransOpt trans) (unnamed : Unnamed trans) :
    trans = [] ∨ ∃ w, trans = [w] ∧ asciiLower w.render = Keyword.transaction.text := by
  cases h with
  | none => exact .inl rfl
  | word w hw => exact .inr ⟨w, rfl, (asciiLower_render_eq_iff w _).mpr hw⟩
  | named w name hw hname =>
    have named : w.Is .transaction → name.Is .toWord := by simpa [Unnamed] using unnamed
    exact absurd (named hw) hname

variable {cmd : TxnCmd}

/-- **The words of a plain statement are recognised** as the command SQLite's grammar
gives them. -/
theorem classifyWords_render {words : List Word} (grammar : Command words cmd)
    (plain : ∀ w ∈ words, PlainWord w) (unnamed : Unnamed words) :
    classifyWords (words.map Word.render) = some cmd := by
  have name : ∀ w ∈ words, savepointName w.render = some w.text :=
    fun w mem => savepointName_render (plain w mem)
  have lower : ∀ {w : Word} {k : Keyword}, w.Is k → asciiLower w.render = k.text :=
    fun h => (asciiLower_render_eq_iff _ _).mpr h
  cases grammar with
  | begin b trans hb htrans =>
    obtain rfl | ⟨w, rfl, hw⟩ := transOpt_unnamed htrans unnamed.tail
    · simp [classifyWords, lower hb]
    · simp [classifyWords, lower hb, hw, beginWords]
  | beginMode b mode trans hb hmode htrans =>
    have hmode : asciiLower mode.render ∈ beginWords := by
      rcases hmode with h | h | h <;> rw [lower h] <;> decide
    have htransaction : Keyword.transaction.text ∈ beginWords := by decide
    obtain rfl | ⟨w, rfl, hw⟩ := transOpt_unnamed htrans unnamed.tail.tail
    · simp [classifyWords, lower hb, hmode]
    · simp [classifyWords, lower hb, hmode, hw, htransaction]
  | commit c trans hc htrans =>
    obtain rfl | ⟨w, rfl, hw⟩ := transOpt_unnamed htrans unnamed.tail
    · rcases hc with hc | hc <;> simp [classifyWords, lower hc]
    · rcases hc with hc | hc <;> simp [classifyWords, lower hc, hw]
  | rollback r trans hr htrans =>
    obtain rfl | ⟨w, rfl, hw⟩ := transOpt_unnamed htrans unnamed.tail
    · simp [classifyWords, classifyRollback, lower hr]
    · simp [classifyWords, classifyRollback, lower hr, hw]
  | rollbackTo r trans toward target hr htrans ht hn =>
    have named := name target (by simp)
    obtain rfl | ⟨w, rfl, hw⟩ := transOpt_unnamed htrans unnamed.tail.left_of_append
    · simp [classifyWords, classifyRollback, lower hr, lower ht, named, hn]
    · simp [classifyWords, classifyRollback, lower hr, hw, lower ht, named, hn]
  | rollbackToSavepoint r trans toward sp target hr htrans ht hs =>
    have named := name target (by simp)
    obtain rfl | ⟨w, rfl, hw⟩ := transOpt_unnamed htrans unnamed.tail.left_of_append
    · simp [classifyWords, classifyRollback, lower hr, lower ht, lower hs, named]
    · simp [classifyWords, classifyRollback, lower hr, hw, lower ht, lower hs, named]
  | savepoint s target hs =>
    simp [classifyWords, lower hs, name target (by simp)]
  | release r target hr hn =>
    simp [classifyWords, classifyRelease, lower hr, hn, name target (by simp)]
  | releaseSavepoint r sp target hr hs =>
    simp [classifyWords, classifyRelease, lower hr, lower hs, name target (by simp)]

/-- **A plain statement is recognised** as what SQLite takes it for. -/
theorem classifySql_sql (plain : PlainStatement st) :
    classifySql st.sql = some st.cmd := by
  have plainFirst : PlainWord st.first := plain.words st.first (by simp [ControlStatement.words])
  have plainRest : ∀ piece ∈ st.rest, PlainWord piece.2 := fun piece mem =>
    plain.words piece.2 (List.mem_cons_of_mem _ (List.mem_map_of_mem mem))
  rw [classifySql, classifyBody_sql plain, splitWhitespace_body plainFirst plainRest plain.gaps]
  exact classifyWords_render st.grammar plain.words plain.unnamed

/-! ### The two machines side by side -/

/-- What the shim believes and what SQLite has open. -/
structure Both where
  shim : TxnState
  sqlite : Transaction
  deriving DecidableEq

namespace Both

def start : Both := ⟨.empty, .none⟩

/-- Both read one statement; what the shim does not recognise changes nothing. -/
def step (b : Both) (st : ControlStatement) : Both :=
  ⟨match classifySql st.sql with
    | some cmd => (plan b.shim cmd).2
    | none => b.shim,
   b.sqlite.step st.cmd⟩

/-- No BEGIN is issued inside an open transaction. -/
def NotNested (b : Both) (st : ControlStatement) : Prop :=
  st.cmd = .begin → b.sqlite.isOpen = false

/-- The savepoint a RELEASE or ROLLBACK TO means is written as when it was set. -/
def SameSpelling (b : Both) (cmd : TxnCmd) : Prop :=
  ∀ n below found, cmd = .release n ∨ cmd = .rollbackTo n →
    Stack.innermost (Transaction.sameName n) b.sqlite.savepoints = some (below, found) → found = n

/-- **The statement leaves no room for disagreement**: it is plainly written, and a
savepoint it means is spelled as it was. -/
def Clear (b : Both) (st : ControlStatement) : Prop :=
  PlainStatement st ∧ b.SameSpelling st.cmd

/-- The shim believes a transaction open exactly when SQLite has one open, with as
many savepoints. -/
def Agree (b : Both) : Prop :=
  (b.shim.frames ≠ [] ↔ b.sqlite.isOpen = true) ∧
    b.shim.frames.countP (fun f => f.name?.isSome) = b.sqlite.savepoints.length

instance : DecidablePred Agree := fun b =>
  inferInstanceAs (Decidable ((b.shim.frames ≠ [] ↔ b.sqlite.isOpen = true) ∧
    b.shim.frames.countP (fun f => f.name?.isSome) = b.sqlite.savepoints.length))

/-- **The frames are SQLite's stack**, with the outer frame below it while something
is open. -/
def Same (b : Both) : Prop :=
  b.shim.frames =
    if b.sqlite.isOpen then .outer b.sqlite.explicit :: b.sqlite.savepoints.map .savepoint else []

variable {b : Both}

theorem Same.agree (h : b.Same) : b.Agree := by
  have savepointsCount : ∀ l : List Text,
      (l.map Frame.savepoint).countP (fun f => f.name?.isSome) = l.length := by
    intro l
    rw [List.countP_eq_length.mpr, List.length_map]
    simp [Frame.name?]
  rw [Same] at h
  cases isOpen : b.sqlite.isOpen with
  | false =>
    have none : b.sqlite.savepoints = [] := by
      simp only [Transaction.isOpen, Bool.or_eq_false_iff] at isOpen
      simpa using isOpen.2
    simp [Agree, h, isOpen, none]
  | true =>
    rw [isOpen, if_pos rfl] at h
    refine ⟨by simp [h, isOpen], ?_⟩
    rw [h, List.countP_cons_of_neg (by simp [Frame.name?]), savepointsCount]

theorem Same.of_ne_nil (h : b.Same) (ne : b.shim.frames ≠ []) :
    b.sqlite.isOpen = true ∧
      b.shim.frames = .outer b.sqlite.explicit :: b.sqlite.savepoints.map .savepoint := by
  rw [Same] at h
  split at h
  · exact ⟨‹_›, h⟩
  · exact absurd h ne

theorem Same.of_nil (h : b.Same) (idle : b.shim.frames = []) :
    b.sqlite = Transaction.none := by
  rw [Same, idle] at h
  split at h
  · cases h
  · rename_i closed
    have closed : b.sqlite.explicit = false ∧ b.sqlite.savepoints = [] := by
      simpa [Transaction.isOpen] using closed
    exact Transaction.ext closed.1 closed.2

/-- With the spelling kept, SQLite's innermost savepoint of a name is the innermost one
written so. -/
theorem SameSpelling.innermost_eq (h : b.SameSpelling cmd) {n : Text}
    (hn : cmd = .release n ∨ cmd = .rollbackTo n) :
    Stack.innermost (Transaction.sameName n) b.sqlite.savepoints =
      Stack.innermost (· == n) b.sqlite.savepoints := by
  refine (Stack.innermost_eq_of_narrower ?_ ?_).symm
  · intro m hm
    rw [eq_of_beq hm]
    exact beq_self_eq_true _
  · intro below found hfound
    rw [h n below found hn hfound]
    exact beq_self_eq_true _

/-- The innermost savepoint frame written `n`, on SQLite's stack. -/
theorem Same.innermost_known (h : b.Same) {below above : List Frame} {n : Text}
    (split : b.shim.frames = below ++ .savepoint n :: above)
    (innermost : Frame.savepoint n ∉ above) :
    ∃ inner, below = .outer b.sqlite.explicit :: inner.map .savepoint ∧
      Stack.innermost (· == n) b.sqlite.savepoints = some (inner, n) := by
  obtain ⟨-, frames⟩ := h.of_ne_nil (by simp [split])
  rw [split] at frames
  cases below with
  | nil => cases (List.cons.inj frames).1
  | cons bottom inner =>
    rw [List.cons_append] at frames
    obtain ⟨rfl, rest⟩ := List.cons.inj frames
    obtain ⟨names, more, hsplit, rfl, hmore⟩ := List.map_eq_append_iff.mp rest.symm
    obtain ⟨m, last, rfl, hm, rfl⟩ := List.map_eq_cons_iff.mp hmore
    obtain rfl : m = n := by simpa using hm
    refine ⟨names, rfl, (Stack.innermost_eq_some_iff _ _ _ _).mpr ⟨by simp, last, hsplit, ?_⟩⟩
    intro other mem
    refine beq_eq_false_iff_ne.mpr ?_
    rintro rfl
    exact innermost (List.mem_map_of_mem mem)

theorem Same.innermost_unknown (h : b.Same) {n : Text}
    (unknown : Frame.savepoint n ∉ b.shim.frames) :
    Stack.innermost (· == n) b.sqlite.savepoints = none := by
  refine (Stack.innermost_eq_none_iff _ _).mpr fun m mem => beq_eq_false_iff_ne.mpr ?_
  rintro rfl
  by_cases idle : b.shim.frames = []
  · rw [h.of_nil idle] at mem
    cases mem
  · rw [(h.of_ne_nil idle).2] at unknown
    exact unknown (List.mem_cons_of_mem _ (List.mem_map_of_mem mem))

/-- **One clear statement keeps the frames SQLite's stack.** -/
theorem Same.after_step (h : b.Same) (notNested : b.NotNested st) (clear : b.Clear st) :
    (b.step st).Same := by
  obtain ⟨plain, spelling⟩ := clear
  have planned := (plan_planned b.shim st.cmd).1
  rw [step, classifySql_sql plain, Same]
  dsimp only
  generalize hcmd : st.cmd = cmd at planned spelling ⊢
  generalize (plan b.shim cmd).1 = sql, (plan b.shim cmd).2.frames = after at planned ⊢
  generalize hframes : b.shim.frames = frames at planned
  cases planned with
  | beginIdle => rw [h.of_nil hframes]; rfl
  | beginNested _ isOpen =>
    have closed := notNested hcmd
    rw [(h.of_ne_nil (hframes ▸ isOpen)).1] at closed
    cases closed
  | commitIdle | rollbackIdle | commitOuter | rollbackOuter => rfl
  | commitNested below n | rollbackNested below n =>
    -- SQLite's stack holds no frame of a nested BEGIN.
    have frames := (h.of_ne_nil (by simp [hframes])).2
    have mem : Frame.nestedBegin n ∈ b.shim.frames := by simp [hframes]
    rw [frames] at mem
    simp at mem
  | savepointIdle n => rw [h.of_nil hframes]; rfl
  | savepointInner _ n isOpen =>
    have frames := (h.of_ne_nil (hframes ▸ isOpen)).2
    rw [hframes] at frames
    simp [frames, Transaction.step, Transaction.isOpen]
  | releaseUnknown _ n unknown =>
    have found := h.innermost_unknown (hframes ▸ unknown)
    rw [← spelling.innermost_eq (.inl rfl)] at found
    rw [Same, hframes] at h
    simpa [Transaction.step, found] using h
  | releaseOuter above n innermost =>
    rw [← List.singleton_append] at hframes
    obtain ⟨inner, below, found⟩ := h.innermost_known hframes innermost
    rw [← spelling.innermost_eq (.inl rfl)] at found
    obtain ⟨implicit, none⟩ := List.cons.inj below
    have implicit : b.sqlite.explicit = false := by simpa using implicit.symm
    have none : inner = [] := by simpa using none.symm
    simp [Transaction.step, found, Transaction.isOpen, implicit, none]
  | releaseInner below above n innermost notOuter =>
    obtain ⟨inner, rfl, found⟩ := h.innermost_known hframes innermost
    rw [← spelling.innermost_eq (.inl rfl)] at found
    have stillOpen : b.sqlite.explicit = false → inner ≠ [] := by
      rintro implicit rfl
      exact notOuter (by simp [implicit])
    simpa [Transaction.step, found, Transaction.isOpen] using stillOpen
  | rollbackToUnknown _ n unknown =>
    have found := h.innermost_unknown (hframes ▸ unknown)
    rw [← spelling.innermost_eq (.inr rfl)] at found
    rw [Same, hframes] at h
    simpa [Transaction.step, found] using h
  | rollbackToKnown below above n innermost =>
    obtain ⟨inner, rfl, found⟩ := h.innermost_known hframes innermost
    rw [← spelling.innermost_eq (.inr rfl)] at found
    simp [Transaction.step, found, Transaction.isOpen]

end Both

/-- **Along every run of clear statements the shim and SQLite agree**: for every list
of transaction-control statements in which no BEGIN is issued inside an open
transaction and each statement is clear where it stands, after every one of them. -/
theorem classify_plan_agrees_with_sqlite (sts sofar : List ControlStatement)
    (meets : Runs.Meets Both.step (fun b st => b.NotNested st ∧ b.Clear st) Both.start sts)
    (part : sofar <+: sts) : (Runs.final Both.step Both.start sofar).Agree :=
  ((meets.shorter part).invariant Both.Same
    (fun _ _ same ok => same.after_step ok.1 ok.2) rfl).agree

/-- Two bare words with a space between them are plainly written. -/
theorem plainStatement_pair {first second : Text}
    (valid : ∀ w ∈ [Word.bare first, Word.bare second], w.Valid)
    (grammar : Command [.bare first, .bare second] cmd)
    (plain : ∀ w ∈ [Word.bare first, Word.bare second], PlainWord w)
    (unnamed : Unnamed [.bare first, .bare second]) :
    PlainStatement (.pair first second cmd valid grammar) where
  words := plain
  gaps := by
    intro piece mem
    obtain rfl := List.mem_singleton.mp mem
    exact ⟨List.cons_ne_nil _ _, by simp [isAsciiWhitespace]⟩
  tail := ⟨[], [], [], rfl, by simp, by simp, by simp⟩
  unnamed := unnamed

/-- `SAVEPOINT A`. -/
def savepointUpper : ControlStatement :=
  .pair "SAVEPOINT".toList "A".toList (.savepoint "A".toList) (by decide) (.savepoint _ _ rfl)

/-- `RELEASE A`. -/
def releaseUpper : ControlStatement :=
  .pair "RELEASE".toList "A".toList (.release "A".toList) (by decide) (.release _ _ rfl (by decide))

/-- `RELEASE a`. -/
def releaseLower : ControlStatement :=
  .pair "RELEASE".toList "a".toList (.release "a".toList) (by decide) (.release _ _ rfl (by decide))

/-- A savepoint released as it was set, opening a transaction and committing it. -/
theorem classify_plan_agrees_same_case :
    (Runs.final Both.step Both.start [savepointUpper, releaseUpper]).Agree := by
  have meets : Runs.Meets Both.step (fun b st => b.NotNested st ∧ b.Clear st) Both.start
      [savepointUpper, releaseUpper] := by
    refine ⟨⟨fun begin => ?_, ?_, ?_⟩, ⟨fun begin => ?_, ?_, ?_⟩, trivial⟩
    · cases begin
    · exact plainStatement_pair _ _ (by decide) (by decide)
    · rintro n below found (h | h) <;> cases h
    · cases begin
    · exact plainStatement_pair _ _ (by decide) (by decide)
    · rintro n below found (h | h) hfound <;> cases h
      have set : Stack.innermost (Transaction.sameName "A".toList)
          (Both.start.step savepointUpper).sqlite.savepoints = some ([], "A".toList) := by decide
      rw [set] at hfound
      cases hfound
      rfl
  exact classify_plan_agrees_with_sqlite _ _ meets (List.prefix_refl _)

/-- **A savepoint released in another case**: SQLite has committed and has nothing
open, while the shim takes the name for an unknown one and keeps the transaction. -/
theorem release_in_other_case :
    Runs.Meets Both.step Both.NotNested Both.start [savepointUpper, releaseLower] ∧
      (Runs.final Both.step Both.start [savepointUpper, releaseLower]).sqlite.isOpen = false ∧
      ¬ (Runs.final Both.step Both.start [savepointUpper, releaseLower]).Agree := by
  refine ⟨⟨?_, ?_, trivial⟩, by decide, by decide⟩
  · exact fun begin => by cases begin
  · exact fun begin => by cases begin

end PlexPostgres.Txn
