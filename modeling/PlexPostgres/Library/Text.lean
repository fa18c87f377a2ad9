import Mathlib.Data.List.DropRight

/-!
# Text as a list of characters

The string operations that hand-written classifiers of SQL text are made of:
case folding, trimming, splitting into words and searching for a fragment.  Each
is a computable function on `Text := List Char` with the equations its callers
rewrite by.

Two notions of white space occur and differ: `isAsciiWhitespace` is what a byte
test accepts, `isWhitespace` the Unicode property `White_Space` that the
character-based trimming and splitting functions use.
-/

/-- **Text**, one character a list element. -/
abbrev Text := List Char

namespace Text

/-- Texts are compared character by character. -/
instance lawfulBEq : LawfulBEq Text := inferInstance

/-! ### Quotation marks -/

def doubleQuote : Char := '\x22'

def singleQuote : Char := '\x27'

def backQuote : Char := '\x60'

/-! ### White space -/

/-- ASCII white space: space, tab, line feed, form feed, carriage return. -/
def isAsciiWhitespace (c : Char) : Bool :=
  c == ' ' || c == '\t' || c == '\n' || c == '\x0c' || c == '\r'

/-- The Unicode property `White_Space`. -/
def isWhitespace (c : Char) : Bool :=
  (0x09 ≤ c.toNat && c.toNat ≤ 0x0d) || c.toNat == 0x20 || c.toNat == 0x85 ||
  c.toNat == 0xa0 || c.toNat == 0x1680 || (0x2000 ≤ c.toNat && c.toNat ≤ 0x200a) ||
  c.toNat == 0x2028 || c.toNat == 0x2029 || c.toNat == 0x202f || c.toNat == 0x205f ||
  c.toNat == 0x3000

variable {c : Char}

theorem isWhitespace_of_isAsciiWhitespace (h : isAsciiWhitespace c = true) :
    isWhitespace c = true := by
  simp only [isAsciiWhitespace, Bool.or_eq_true, beq_iff_eq] at h
  obtain (((rfl | rfl) | rfl) | rfl) | rfl := h <;> decide

/-- Of two characters one passes a test and one does not. -/
theorem ne_of_test {p : Char → Bool} {d : Char} (passed : p c = true) (foreign : p d = false) :
    c ≠ d := by
  rintro rfl
  cases passed.symm.trans foreign

/-! ### Case -/

/-- **ASCII lower case**, character by character. -/
def asciiLower (t : Text) : Text := t.map Char.toLower

@[simp] theorem asciiLower_nil : asciiLower [] = [] := rfl

@[simp] theorem asciiLower_append (s t : Text) :
    asciiLower (s ++ t) = asciiLower s ++ asciiLower t := List.map_append

theorem toLower_of_isDigit (h : c.isDigit = true) : c.toLower = c := by
  have upper : c.val ≤ '9'.val := by
    simp only [Char.isDigit, Bool.and_eq_true, decide_eq_true_eq] at h
    exact h.2
  have small : ¬ ('A'.val ≤ c.val ∧ c.val ≤ 'Z'.val) := by
    rintro ⟨low, -⟩
    exact absurd (UInt32.le_trans low upper) (by decide)
  exact dif_neg small

theorem toLower_of_isWhitespace (h : isWhitespace c = true) : c.toLower = c := by
  have notUpper : ¬ ('A'.val ≤ c.val ∧ c.val ≤ 'Z'.val) := by
    rintro ⟨low, high⟩
    have lower : 65 ≤ c.toNat := low
    have upper : c.toNat ≤ 90 := high
    simp only [isWhitespace, Bool.or_eq_true, Bool.and_eq_true, decide_eq_true_eq, beq_iff_eq] at h
    omega
  exact dif_neg notUpper

/-- A number is written without letters, so folding it changes nothing. -/
@[simp] theorem asciiLower_toDigits (n : ℕ) :
    asciiLower (Nat.toDigits 10 n) = Nat.toDigits 10 n :=
  (List.map_congr_left fun _ hc =>
    toLower_of_isDigit (Nat.isDigit_of_mem_toDigits (by decide) (by decide) hc)).trans
    (List.map_id _)

/-- Lower case of one character, as far as ASCII fragments can tell: the Kelvin sign and
the dotted capital I are the only characters beyond ASCII that fold into it. -/
def lowerChar (c : Char) : Text :=
  if c = '\u212a' then ['k'] else if c = '\u0130' then ['i', '\u0307'] else [c.toLower]

/-- **Unicode lower case**; letters beyond ASCII that do not fold into it stay. -/
def toLowercase (t : Text) : Text := t.flatMap lowerChar

@[simp] theorem toLowercase_nil : toLowercase [] = [] := rfl

@[simp] theorem toLowercase_cons (c : Char) (t : Text) :
    toLowercase (c :: t) = lowerChar c ++ toLowercase t := rfl

@[simp] theorem toLowercase_append (s t : Text) :
    toLowercase (s ++ t) = toLowercase s ++ toLowercase t := List.flatMap_append

/-! ### Fragments -/

/-- Does `t` start with `lead`? -/
def startsWith (lead t : Text) : Bool := lead.isPrefixOf t

/-- Does `needle` occur in `t`? -/
def contains (needle : Text) : Text → Bool
  | [] => startsWith needle []
  | c :: t => startsWith needle (c :: t) || contains needle t

theorem startsWith_iff {lead t : Text} : startsWith lead t = true ↔ lead <+: t :=
  List.isPrefixOf_iff_prefix

theorem contains_iff {needle t : Text} : contains needle t = true ↔ needle <:+: t := by
  induction t with
  | nil => rw [contains, startsWith_iff, List.prefix_nil, List.infix_nil]
  | cons c t ih => rw [contains, Bool.or_eq_true, startsWith_iff, ih, List.infix_cons_iff]

/-- The same, letter case apart; an empty fragment is never found. -/
def containsIcase (needle t : Text) : Bool :=
  !needle.isEmpty && contains (asciiLower needle) (asciiLower t)

/-- Does `t` start with `lead`, letter case apart? -/
def startsWithIcase (lead t : Text) : Bool :=
  !lead.isEmpty && startsWith (asciiLower lead) (asciiLower t)

/-! ### Trimming -/

/-- Drop white space at the end. -/
def trimEnd (t : Text) : Text := t.rdropWhile isWhitespace

/-- Drop white space at both ends. -/
def trim (t : Text) : Text := trimEnd (t.dropWhile isWhitespace)

/-- Drop every `c` at the end. -/
def trimEndMatches (c : Char) (t : Text) : Text := t.rdropWhile (· == c)

variable {α : Type*} {p : α → Bool}

theorem rdropWhile_of_getLast {l : List α} (h : ∀ a ∈ l.getLast?, p a = false) :
    l.rdropWhile p = l := by
  rw [List.rdropWhile_eq_self_iff]
  intro ne
  simpa using h _ (List.getLast?_eq_some_getLast ne)

/-- Nothing is dropped before what stays. -/
theorem rdropWhile_append {l : List α} (h : ∀ a ∈ l.getLast?, p a = false) (r : List α) :
    (l ++ r).rdropWhile p = l ++ r.rdropWhile p := by
  induction r using List.reverseRecOn with
  | nil => simpa using rdropWhile_of_getLast h
  | append_singleton r a ih =>
    rw [← List.append_assoc, List.rdropWhile_concat, List.rdropWhile_concat, ih]
    split
    · rfl
    · rw [List.append_assoc]

/-- What is dropped at the end of a list. -/
theorem exists_rdropWhile (p : α → Bool) (l : List α) :
    ∃ dropped, l = l.rdropWhile p ++ dropped ∧ ∀ a ∈ dropped, p a = true :=
  ⟨l.rtakeWhile p, List.rdropWhile_append_rtakeWhile.symm, fun _ => List.mem_rtakeWhile_imp⟩

/-- What is trimmed off a text. -/
theorem exists_trim (t : Text) :
    ∃ before after, t = before ++ trim t ++ after ∧ (∀ c ∈ before, isWhitespace c = true) ∧
      ∀ c ∈ after, isWhitespace c = true := by
  obtain ⟨after, whole, blank⟩ := exists_rdropWhile isWhitespace (t.dropWhile isWhitespace)
  refine ⟨t.takeWhile isWhitespace, after, ?_, fun c mem => List.mem_takeWhile_imp mem, blank⟩
  rw [List.append_assoc, trim, trimEnd, ← whole, List.takeWhile_append_dropWhile]

/-- A text that neither begins nor ends with white space, between white space,
trims to itself. -/
theorem trim_of_ends {before t after : Text} (hbefore : ∀ c ∈ before, isWhitespace c = true)
    (hafter : ∀ c ∈ after, isWhitespace c = true) (ne : t ≠ [])
    (first : ∀ c ∈ t.head?, isWhitespace c = false)
    (last : ∀ c ∈ t.getLast?, isWhitespace c = false) : trim (before ++ t ++ after) = t := by
  obtain ⟨c, rest, rfl⟩ := List.exists_cons_of_ne_nil ne
  have start : ((c :: rest) ++ after).dropWhile isWhitespace = (c :: rest) ++ after := by
    rw [List.cons_append, List.dropWhile_cons_of_neg]
    simpa using first c rfl
  rw [trim, trimEnd, List.append_assoc, List.dropWhile_append_of_pos hbefore, start,
    rdropWhile_append last, List.rdropWhile_eq_nil_iff.mpr hafter, List.append_nil]

/-- **White space and one run of a closing mark** behind a text are trimmed off. -/
theorem trim_trimEndMatches_trim {mark : Char} (hmark : isWhitespace mark = false)
    {t before marks after : Text} (ne : t ≠ []) (first : ∀ c ∈ t.head?, isWhitespace c = false)
    (last : ∀ c ∈ t.getLast?, isWhitespace c = false ∧ c ≠ mark)
    (hbefore : ∀ c ∈ before, isWhitespace c = true) (hmarks : ∀ c ∈ marks, c = mark)
    (hafter : ∀ c ∈ after, isWhitespace c = true) :
    trim (trimEndMatches mark (trim (t ++ (before ++ marks ++ after)))) = t := by
  have trimmed : ∀ {blank : Text}, (∀ c ∈ blank, isWhitespace c = true) → trim (t ++ blank) = t :=
    fun hblank => by
      rw [← List.nil_append t]
      exact trim_of_ends (by simp) hblank ne first fun c hc => (last c hc).1
  by_cases noMarks : marks = []
  · subst noMarks
    have unmarked : trimEndMatches mark t = t :=
      rdropWhile_of_getLast fun c hc => by simpa using (last c hc).2
    have alone : trim t = t := by
      have padded : trim (t ++ []) = t := trimmed (by simp)
      rwa [List.append_nil] at padded
    rw [List.append_nil, trimmed, unmarked, alone]
    exact List.forall_mem_append.mpr ⟨hbefore, hafter⟩
  · -- The first trim stops at the marks, the second removes the white space before them.
    have stops : trim (t ++ (before ++ marks ++ after)) = t ++ before ++ marks := by
      have whole : t ++ (before ++ marks ++ after) = [] ++ (t ++ before ++ marks) ++ after := by
        simp
      rw [whole]
      refine trim_of_ends (by simp) hafter (by simp [ne]) ?_ ?_
      · intro c hc
        rw [List.append_assoc, List.head?_append_of_ne_nil _ ne] at hc
        exact first c hc
      · intro c hc
        rw [List.getLast?_append_of_ne_nil _ noMarks] at hc
        rw [hmarks c (List.mem_of_getLast? hc), hmark]
    have unmarked : ∀ c ∈ (t ++ before).getLast?, (c == mark) = false := by
      intro c hc
      rcases List.eq_nil_or_concat' before with rfl | ⟨init, d, rfl⟩
      · rw [List.append_nil] at hc
        simpa using (last c hc).2
      · rw [← List.append_assoc, List.getLast?_concat] at hc
        obtain rfl : d = c := by simpa using hc
        exact beq_eq_false_iff_ne.mpr (ne_of_test (hbefore d (by simp)) hmark)
    rw [stops, trimEndMatches, rdropWhile_append unmarked,
      List.rdropWhile_eq_nil_iff.mpr (by simpa using hmarks), List.append_nil, trimmed hbefore]

theorem trim_eq_self {t : Text} (h : ∀ c ∈ t, isWhitespace c = false) : trim t = t := by
  cases t with
  | nil => rfl
  | cons c rest =>
    rw [trim, List.dropWhile_cons_of_neg (by simp [h c])]
    exact rdropWhile_of_getLast fun d hd => h d (List.mem_of_getLast? hd)

/-! ### Words -/

/-- **The words of a text**: its maximal pieces without white space. -/
def splitWhitespace (t : Text) : List Text := (t.splitOnP isWhitespace).filter (· ≠ [])

@[simp] theorem splitWhitespace_nil : splitWhitespace [] = [] := rfl

theorem splitWhitespace_blank (hc : isWhitespace c = true) (t : Text) :
    splitWhitespace (c :: t) = splitWhitespace t := by
  have split : ([] ++ c :: t).splitOnP isWhitespace = [] :: t.splitOnP isWhitespace :=
    List.splitOnP_append_cons_of_forall_mem (by simp) c hc t
  rw [List.nil_append] at split
  simp [splitWhitespace, split]

theorem splitWhitespace_blanks {gap : Text} (hgap : ∀ c ∈ gap, isWhitespace c = true)
    (t : Text) : splitWhitespace (gap ++ t) = splitWhitespace t := by
  induction gap with
  | nil => rfl
  | cons c gap ih =>
    rw [List.cons_append, splitWhitespace_blank (hgap c (by simp))]
    exact ih fun d hd => hgap d (by simp [hd])

/-- A word followed by white space is split off. -/
theorem splitWhitespace_word {w gap : Text} (ne : w ≠ [])
    (hw : ∀ c ∈ w, isWhitespace c = false) (hne : gap ≠ [])
    (hgap : ∀ c ∈ gap, isWhitespace c = true) (t : Text) :
    splitWhitespace (w ++ gap ++ t) = w :: splitWhitespace t := by
  obtain ⟨c, rest, rfl⟩ := List.exists_cons_of_ne_nil hne
  have split : (w ++ c :: (rest ++ t)).splitOnP isWhitespace =
      w :: (rest ++ t).splitOnP isWhitespace :=
    List.splitOnP_append_cons_of_forall_mem hw c (hgap c (by simp)) _
  have tail : splitWhitespace (rest ++ t) = splitWhitespace t :=
    splitWhitespace_blanks (fun d hd => hgap d (by simp [hd])) t
  rw [List.append_assoc, List.cons_append, splitWhitespace, split, List.filter_cons_of_pos]
  · exact congrArg (w :: ·) tail
  · simpa using ne

/-- A text without white space is one word. -/
theorem splitWhitespace_single {w : Text} (ne : w ≠ [])
    (hw : ∀ c ∈ w, isWhitespace c = false) : splitWhitespace w = [w] := by
  rw [splitWhitespace, List.splitOnP_eq_singleton hw, List.filter_cons_of_pos]
  · rfl
  · simpa using ne

/-- A text is white space up to its first word, if it has one. -/
theorem splitWhitespace_cases (t : Text) :
    (splitWhitespace t = [] ∧ ∀ c ∈ t, isWhitespace c = true) ∨
      ∃ gap w rest, t = gap ++ w ++ rest ∧ (∀ c ∈ gap, isWhitespace c = true) ∧
        (∀ c ∈ w, isWhitespace c = false) ∧ splitWhitespace t = w :: splitWhitespace rest := by
  induction t with
  | nil => exact .inl ⟨rfl, by simp⟩
  | cons c t ih =>
    by_cases blank : isWhitespace c = true
    · rw [splitWhitespace_blank blank]
      rcases ih with ⟨none, blanks⟩ | ⟨gap, w, rest, rfl, blanks, word⟩
      · exact .inl ⟨none, by simpa [blank] using blanks⟩
      · exact .inr ⟨c :: gap, w, rest, rfl, by simpa [blank] using blanks, word⟩
    · have parts : c :: t = (c :: t).takeWhile (!isWhitespace ·) ++
          (c :: t).dropWhile (!isWhitespace ·) := List.takeWhile_append_dropWhile.symm
      have solid : ∀ d ∈ (c :: t).takeWhile (!isWhitespace ·), isWhitespace d = false := by
        intro d mem
        simpa using List.mem_takeWhile_imp mem
      have ne : (c :: t).takeWhile (!isWhitespace ·) ≠ [] := by
        rw [List.takeWhile_cons_of_pos (by simpa using blank)]
        simp
      generalize (c :: t).takeWhile (!isWhitespace ·) = w at parts solid ne
      have stops : ∀ d ∈ ((c :: t).dropWhile (!isWhitespace ·)).head?, isWhitespace d = true := by
        intro d head
        have dropped := List.head?_dropWhile_not (!isWhitespace ·) (c :: t)
        rw [head] at dropped
        simpa using dropped
      generalize (c :: t).dropWhile (!isWhitespace ·) = rest at parts stops
      refine .inr ⟨[], w, rest, parts, by simp, solid, ?_⟩
      rw [parts]
      cases rest with
      | nil => simpa using splitWhitespace_single ne solid
      | cons d rest =>
        have isBlank := stops d rfl
        have word : splitWhitespace (w ++ [d] ++ rest) = w :: splitWhitespace rest :=
          splitWhitespace_word ne solid (by simp) (by simpa using isBlank) rest
        rw [splitWhitespace_blank isBlank, ← word]
        simp

/-- **Where the last word stands**: before it there are white space and the other words,
behind it white space. -/
theorem exists_last_of_splitWhitespace {t : Text} {init : List Text} {last : Text}
    (words : splitWhitespace t = init ++ [last]) :
    ∃ before after, t = before ++ last ++ after ∧ (∀ c ∈ last, isWhitespace c = false) ∧
      (∀ c ∈ after, isWhitespace c = true) ∧
      ∀ c ∈ before, isWhitespace c = true ∨ ∃ w ∈ init, c ∈ w := by
  induction init generalizing t with
  | nil =>
    rcases splitWhitespace_cases t with ⟨none, -⟩ | ⟨gap, w, rest, rfl, blanks, solid, split⟩
    · rw [none] at words
      cases words
    · rw [split] at words
      obtain ⟨rfl, done⟩ : w = last ∧ splitWhitespace rest = [] := by simpa using words
      rcases splitWhitespace_cases rest with ⟨-, blank⟩ | ⟨_, v, _, -, -, -, more⟩
      · exact ⟨gap, rest, rfl, solid, blank, fun c mem => .inl (blanks c mem)⟩
      · rw [more] at done
        cases done
  | cons first init ih =>
    rcases splitWhitespace_cases t with ⟨none, -⟩ | ⟨gap, w, rest, rfl, blanks, solid, split⟩
    · rw [none] at words
      cases words
    · rw [split] at words
      obtain ⟨rfl, more⟩ : w = first ∧ splitWhitespace rest = init ++ [last] := by
        simpa using words
      obtain ⟨before, after, rfl, lastSolid, blank, known⟩ := ih more
      refine ⟨gap ++ w ++ before, after, by simp, lastSolid, blank, fun c mem => ?_⟩
      rcases List.mem_append.mp mem with mem | mem
      · rcases List.mem_append.mp mem with mem | mem
        · exact .inl (blanks c mem)
        · exact .inr ⟨w, by simp, mem⟩
      · rcases known c mem with isBlank | ⟨v, inInit, inWord⟩
        · exact .inl isBlank
        · exact .inr ⟨v, by simp [inInit], inWord⟩

end Text
