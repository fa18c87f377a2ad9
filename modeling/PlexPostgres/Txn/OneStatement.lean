import PlexPostgres.Sqlite.Script
import PlexPostgres.Txn.Classify

/-!
# Transaction control is one statement

`classify_sql` reads a whole text.  What it recognises is a single statement: the words it
accepts hold no semicolon, no quotation mark but those around a savepoint's name, and no
comment, and behind them there is nothing but white space and semicolons.

`statements_of_classified` is the result: a script that is classified has one statement
at most.
-/

namespace PlexPostgres.Txn

open Text Sqlite

/-! ### The words -/

/-- A keyword, in any case. -/
def IsKeyword (word : Text) : Prop := ∃ k : Keyword, asciiLower word = k.text

theorem IsKeyword.tame {word : Text} (keyword : IsKeyword word) : ∀ c ∈ word, isTame c = true := by
  obtain ⟨k, lower⟩ := keyword
  intro c mem
  -- The marks that are not tame are not letters: they fold to themselves.
  refine isTame_of_test (fun d => isTame d.toLower) ?_ rfl
  have letter : c.toLower ∈ k.text := by
    rw [← lower]
    exact List.mem_map_of_mem mem
  have letters : ∀ d ∈ k.text, isTame d = true := by
    cases k <;> exact List.all_eq_true.mp (by decide)
  exact letters _ letter

/-- Text that opens nothing, or a name between quotation marks. -/
inductive Closed : Text → Prop
  | tame (t : Text) : (∀ c ∈ t, isTame c = true) → Closed t
  | quoted (first last : Char) (t : Text) :
      (∀ following, LexMode.plain.next first following = .quoted last) → isTail last = false →
      last ∉ t → Closed (first :: (t ++ [last]))

variable {first last : Char} {t : Text}

theorem eq_of_isQuotedBy (quoted : isQuotedBy first last t = true) :
    t = first :: (t.tail.dropLast ++ [last]) := by
  simp only [isQuotedBy, Bool.and_eq_true, beq_iff_eq, decide_eq_true_eq] at quoted
  obtain ⟨⟨head, final⟩, long⟩ := quoted
  obtain ⟨rest, rfl⟩ := eq_cons_of_head head
  have ne : rest ≠ [] := by
    rintro rfl
    simp at long
  have final' : rest.getLast? = some last := by
    rwa [List.getLast?_cons_of_ne_nil ne] at final
  rw [List.tail_cons, List.dropLast_append_getLast? last final']

/-- The marks a name may stand between open a quotation that ends with its own mark. -/
theorem Closed.of_isQuotedBy (quoted : isQuotedBy first last t = true)
    (opens : ∀ following, LexMode.plain.next first following = .quoted last)
    (mark : isTail last = false) (foreign : isNameChar last = false)
    (name : t.tail.dropLast.all isNameChar = true) :
    Closed t := by
  rw [eq_of_isQuotedBy quoted]
  exact .quoted first last _ opens mark fun mem =>
    ne_of_test (List.all_eq_true.mp name last mem) foreign rfl

/-- **A word with a savepoint's name in it** is closed, semicolons behind it apart. -/
theorem closed_of_savepointName {word name : Text} (solid : ∀ c ∈ word, isWhitespace c = false)
    (named : savepointName word = some name) :
    ∃ core semicolons, word = core ++ semicolons ∧ Closed core ∧ ∀ c ∈ semicolons, c = ';' := by
  obtain ⟨semicolons, whole, marks⟩ := exists_rdropWhile (· == ';') word
  have trimmed : trim word = word := trim_eq_self solid
  have core : trim (trimEndMatches ';' (trim word)) = trimEndMatches ';' word := by
    rw [trimmed]
    refine trim_eq_self fun c mem => solid c ?_
    rw [whole]
    exact List.mem_append_left _ mem
  refine ⟨trimEndMatches ';' word, semicolons, whole, ?_, fun c mem => by simpa using marks c mem⟩
  unfold savepointName at named
  rw [core] at named
  dsimp only at named
  generalize trimEndMatches ';' word = t at named
  have valid {u : Text} (checked : (if (u.isEmpty || !u.all isNameChar) = true then none
      else some u) = some name) : u.all isNameChar = true := by
    by_contra wrong
    rw [if_pos (by simp [wrong])] at checked
    cases checked
  split at named
  next quoted =>
    simp only [Bool.or_eq_true] at quoted
    obtain ((double | single) | back) | bracket := quoted
    · exact .of_isQuotedBy double (fun _ => rfl) rfl rfl (valid named)
    · exact .of_isQuotedBy single (fun _ => rfl) rfl rfl (valid named)
    · exact .of_isQuotedBy back (fun _ => rfl) rfl rfl (valid named)
    · exact .of_isQuotedBy bracket (fun _ => rfl) rfl rfl (valid named)
  · exact .tame t fun c mem =>
      isTame_of_test isNameChar (List.all_eq_true.mp (valid named) c mem) rfl

/-- **What is classified**: keywords, the last word perhaps a savepoint's name. -/
def Recognised (words : List Text) : Prop :=
  ∃ init last, words = init ++ [last] ∧ (∀ w ∈ init, IsKeyword w) ∧
    (IsKeyword last ∨ ∃ name, savepointName last = some name)

variable {words : List Text}

theorem Recognised.of_keywords (ne : words ≠ []) (keywords : ∀ w ∈ words, IsKeyword w) :
    Recognised words := by
  refine ⟨words.dropLast, words.getLast ne, (List.dropLast_append_getLast ne).symm, ?_, .inl ?_⟩
  · exact fun w mem => keywords w (List.dropLast_subset _ mem)
  · exact keywords _ (List.getLast_mem ne)

theorem Recognised.of_name {init : List Text} {last name : Text} (whole : words = init ++ [last])
    (keywords : ∀ w ∈ init, IsKeyword w) (named : savepointName last = some name) :
    Recognised words :=
  ⟨init, last, whole, keywords, .inr ⟨name, named⟩⟩

variable {lead ys : List Text} {cmd : TxnCmd}

/-- The name a ROLLBACK goes back to is the last of its words; `lead` has those before TO. -/
theorem last_of_rollbackTo {idx : ℕ} (positive : 0 < idx)
    (classified :
      ((lead ++ ys)[(lead ++ ys).length - (ys.map asciiLower).length + idx - 1]?.bind fun word =>
        (savepointName word).bind fun name =>
          if (lead ++ ys).length = (lead ++ ys).length - (ys.map asciiLower).length + idx - 1 + 1
          then some (TxnCmd.rollbackTo name) else none) = some cmd) :
    ys.length = idx ∧ ∃ word name, ys[idx - 1]? = some word ∧ savepointName word = some name := by
  obtain ⟨word, found, rest⟩ := Option.bind_eq_some_iff.mp classified
  obtain ⟨name, named, checked⟩ := Option.bind_eq_some_iff.mp rest
  have length : (lead ++ ys).length =
      (lead ++ ys).length - (ys.map asciiLower).length + idx - 1 + 1 := by
    by_contra other
    rw [if_neg other] at checked
    cases checked
  simp only [List.length_append, List.length_map] at length found
  refine ⟨by omega, word, name, ?_, named⟩
  have place : lead.length + ys.length - ys.length + idx - 1 = lead.length + (idx - 1) := by omega
  rwa [place, List.getElem?_append_right (by omega), Nat.add_sub_cancel_left] at found

/-- ROLLBACK and what follows it, `lead` being the words read so far. -/
theorem recognised_rollbackTo (keywords : ∀ w ∈ lead, IsKeyword w) (ne : ys ≠ [])
    (isTo : (ys.map asciiLower).head? = some Keyword.toWord.text)
    (classified :
      (let idx := if (ys.map asciiLower)[1]? = some Keyword.savepoint.text then 3 else 2
      let nameIdx := (lead ++ ys).length - (ys.map asciiLower).length + idx - 1
      (lead ++ ys)[nameIdx]?.bind fun word => (savepointName word).bind fun name =>
        if (lead ++ ys).length = nameIdx + 1 then some (TxnCmd.rollbackTo name) else none) =
      some cmd) : Recognised (lead ++ ys) := by
  obtain ⟨t, zs, rfl⟩ := List.exists_cons_of_ne_nil ne
  have toWord : IsKeyword t := ⟨.toWord, by simpa using isTo⟩
  dsimp only at classified
  by_cases isSavepoint : ((t :: zs).map asciiLower)[1]? = some Keyword.savepoint.text
  · rw [if_pos isSavepoint] at classified
    obtain ⟨length, word, name, found, named⟩ := last_of_rollbackTo (by decide) classified
    obtain ⟨s, v, rfl⟩ : ∃ s v, zs = [s, v] := List.length_eq_two.mp (by simpa using length)
    obtain rfl : v = word := by simpa using found
    have savepointWord : IsKeyword s := ⟨.savepoint, by simpa using isSavepoint⟩
    have whole : lead ++ [t, s, v] = (lead ++ [t, s]) ++ [v] := by simp
    refine .of_name whole (List.forall_mem_append.mpr ⟨keywords, ?_⟩) named
    exact List.forall_mem_cons.mpr ⟨toWord, List.forall_mem_singleton.mpr savepointWord⟩
  · rw [if_neg isSavepoint] at classified
    obtain ⟨length, word, name, found, named⟩ := last_of_rollbackTo (by decide) classified
    obtain ⟨v, rfl⟩ : ∃ v, zs = [v] := List.length_eq_one_iff.mp (by simpa using length)
    obtain rfl : v = word := by simpa using found
    have whole : lead ++ [t, v] = (lead ++ [t]) ++ [v] := by simp
    exact .of_name whole (List.forall_mem_append.mpr
      ⟨keywords, List.forall_mem_singleton.mpr toWord⟩) named

theorem recognised_rollback {first : Text} {rest : List Text} (keyword : IsKeyword first)
    (classified : classifyRollback (first :: rest) = some cmd) :
    Recognised (first :: rest) := by
  have single : ∀ w ∈ [first], IsKeyword w := by simpa using keyword
  -- TRANSACTION, if it is there, joins the words read so far.
  obtain ⟨lead, ys, whole, keywords, after⟩ : ∃ lead ys, first :: rest = lead ++ ys ∧
      (∀ w ∈ lead, IsKeyword w) ∧
      (if ((first :: rest).map asciiLower).tail.head? = some Keyword.transaction.text then
        ((first :: rest).map asciiLower).tail.tail else ((first :: rest).map asciiLower).tail) =
        ys.map asciiLower := by
    split
    next isTransaction =>
      cases rest with
      | nil => cases isTransaction
      | cons w rest =>
        refine ⟨[first, w], rest, rfl, ?_, rfl⟩
        have transactionWord : IsKeyword w := ⟨.transaction, by simpa using isTransaction⟩
        simp [keyword, transactionWord]
    · exact ⟨[first], rest, rfl, single, rfl⟩
  rw [classifyRollback] at classified
  dsimp only at classified
  rw [after, whole] at classified
  rw [whole]
  by_cases none : ys = []
  · subst none
    rw [List.append_nil] at whole ⊢
    refine .of_keywords ?_ keywords
    rw [← whole]
    simp
  · rw [if_neg (by simpa using none)] at classified
    split at classified
    · cases classified
    next isTo => exact recognised_rollbackTo keywords none (by simpa using isTo) classified

theorem recognised_release {first : Text} {rest : List Text} (keyword : IsKeyword first)
    (classified : classifyRelease (first :: rest) = some cmd) :
    Recognised (first :: rest) := by
  unfold classifyRelease at classified
  extract_lets nameIdx at classified
  have length : (first :: rest).length = nameIdx + 1 := by
    by_contra other
    rw [if_pos other] at classified
    cases classified
  rw [if_neg (by simpa using length)] at classified
  obtain ⟨word, found, named⟩ := Option.bind_eq_some_iff.mp classified
  obtain ⟨name, named, -⟩ := Option.map_eq_some_iff.mp named
  by_cases isSavepoint : ((first :: rest).map asciiLower)[1]? = some Keyword.savepoint.text
  · have place : nameIdx = 2 := if_pos isSavepoint
    rw [place] at length found
    obtain ⟨s, v, rfl⟩ : ∃ s v, rest = [s, v] := List.length_eq_two.mp (by simpa using length)
    obtain rfl : v = word := by simpa using found
    have savepointWord : IsKeyword s := ⟨.savepoint, by simpa using isSavepoint⟩
    have whole : [first, s, v] = [first, s] ++ [v] := rfl
    exact .of_name whole (by simp [keyword, savepointWord]) named
  · have place : nameIdx = 1 := if_neg isSavepoint
    rw [place] at length found
    obtain ⟨v, rfl⟩ : ∃ v, rest = [v] := List.length_eq_one_iff.mp (by simpa using length)
    obtain rfl : v = word := by simpa using found
    have whole : [first, v] = [first] ++ [v] := rfl
    exact .of_name whole (by simpa using keyword) named

/-- **The words of a classified text.** -/
theorem recognised_of_classifyWords (classified : classifyWords words = some cmd) :
    Recognised words := by
  cases words with
  | nil => cases classified
  | cons word rest =>
    have allKeywords (keyword : IsKeyword word)
        (others : ∀ lower ∈ rest.map asciiLower, ∃ k : Keyword, lower = k.text) :
        Recognised (word :: rest) := by
      refine .of_keywords (by simp) fun w mem => ?_
      rcases List.mem_cons.mp mem with rfl | mem
      · exact keyword
      · exact others _ (List.mem_map_of_mem mem)
    rw [classifyWords] at classified
    split at classified
    next isBegin =>
      split at classified
      next all =>
        refine allKeywords ⟨.begin, isBegin⟩ fun lower mem => ?_
        have member := List.all_eq_true.mp all lower mem
        simp only [beginWords, List.mem_cons, List.not_mem_nil, or_false, decide_eq_true_eq]
          at member
        rcases member with rfl | rfl | rfl | rfl
        · exact ⟨.deferred, rfl⟩
        · exact ⟨.immediate, rfl⟩
        · exact ⟨.exclusive, rfl⟩
        · exact ⟨.transaction, rfl⟩
      · cases classified
    · split at classified
      next isCommit =>
        have keyword : IsKeyword word := by
          rcases isCommit with isCommit | isEnd
          · exact ⟨.commit, isCommit⟩
          · exact ⟨.endWord, isEnd⟩
        split at classified
        next all =>
          refine allKeywords keyword fun lower mem => ⟨.transaction, ?_⟩
          simpa using List.all_eq_true.mp all lower mem
        · cases classified
      · split at classified
        next isRollback => exact recognised_rollback ⟨.rollback, isRollback⟩ classified
        · split at classified
          next isSavepoint =>
            split at classified
            · cases classified
            next length =>
              obtain ⟨v, rfl⟩ : ∃ v, rest = [v] := by
                refine List.length_eq_one_iff.mp ?_
                simpa using length
              obtain ⟨name, named, -⟩ := Option.map_eq_some_iff.mp
                (show (savepointName v).map TxnCmd.savepoint = some cmd from classified)
              have keyword : IsKeyword word := ⟨.savepoint, isSavepoint⟩
              have whole : [word, v] = [word] ++ [v] := rfl
              exact .of_name whole (by simpa using keyword) named
          · split at classified
            next isRelease => exact recognised_release ⟨.release, isRelease⟩ classified
            · cases classified

/-! ### The text -/

/-- Closed text is read into the piece. -/
theorem split_closed {core : Text} (closed : Closed core) {s : Scanner} (plain : s.mode = .plain)
    (piece : Text) {b : Text} (tail : ∀ c ∈ b, isTail c = true) :
    ∃ s' : Scanner, s'.mode = .plain ∧ split s piece (core ++ b) = split s' (piece ++ core) b := by
  cases closed with
  | tame _ tame => exact split_tame tame plain piece b
  | quoted first last t opens mark inside =>
    have notEnd : s.ends first = false := by
      refine s.ends_of_ne ?_
      rintro rfl
      have opened := opens none
      simp [LexMode.next, singleQuote, doubleQuote, backQuote] at opened
    have single : b.head? ≠ some last := by
      intro head
      rw [tail last (List.mem_of_head? head)] at mark
      cases mark
    have quoted : (s.next first (t ++ last :: b).head?).mode = .quoted last := by
      rw [Scanner.next_mode, plain]
      exact opens _
    obtain ⟨s', plain', read⟩ := split_quoted inside quoted (piece ++ [first]) single
    refine ⟨s', plain', ?_⟩
    have whole : first :: (t ++ [last]) ++ b = first :: (t ++ last :: b) := by simp
    rw [whole, split, if_neg (by simp [notEnd]), read]
    simp

/-- What is split into words, in its place: white space before it, white space and
semicolons behind it. -/
theorem exists_classifyBody (sql : Text) :
    ∃ before after, stripLeadingNoise sql = before ++ classifyBody sql ++ after ∧
      (∀ c ∈ before, isWhitespace c = true) ∧ ∀ c ∈ after, isTail c = true := by
  obtain ⟨u, v, outer, uBlank, vBlank⟩ := exists_trim (stripLeadingNoise sql)
  obtain ⟨semicolons, marked, marks⟩ :=
    exists_rdropWhile (· == ';') (trim (stripLeadingNoise sql))
  obtain ⟨u', v', inner, uBlank', vBlank'⟩ :=
    exists_trim (trimEndMatches ';' (trim (stripLeadingNoise sql)))
  have blankTail {t : Text} (blank : ∀ c ∈ t, isWhitespace c = true) : ∀ c ∈ t, isTail c = true :=
    fun c mem => by simp [isTail, blank c mem]
  have markTail : ∀ c ∈ semicolons, isTail c = true := fun c mem => by
    simpa [isTail] using .inr (by simpa using marks c mem)
  refine ⟨u ++ u', v' ++ semicolons ++ v, ?_, List.forall_mem_append.mpr ⟨uBlank, uBlank'⟩,
    List.forall_mem_append.mpr ⟨List.forall_mem_append.mpr ⟨blankTail vBlank', markTail⟩,
      blankTail vBlank⟩⟩
  · calc stripLeadingNoise sql
        = u ++ trim (stripLeadingNoise sql) ++ v := outer
      _ = u ++ (trimEndMatches ';' (trim (stripLeadingNoise sql)) ++ semicolons) ++ v := by
          rw [trimEndMatches, ← marked]
      _ = u ++ ((u' ++ classifyBody sql ++ v') ++ semicolons) ++ v := by
          rw [classifyBody, ← inner]
      _ = u ++ u' ++ classifyBody sql ++ (v' ++ semicolons ++ v) := by simp

/-- **A classified text, part by part**: tame text, a closed word, and a tail. -/
theorem exists_parts_of_classified {sql : Text} (classified : classifySql sql = some cmd) :
    ∃ a core b, stripLeadingNoise sql = a ++ core ++ b ∧ (∀ c ∈ a, isTame c = true) ∧
      Closed core ∧ ∀ c ∈ b, isTail c = true := by
  obtain ⟨init, last, words, keywords, isLast⟩ := recognised_of_classifyWords classified
  obtain ⟨before, after, body, solid, afterBlank, known⟩ := exists_last_of_splitWhitespace words
  obtain ⟨u, v, whole, uBlank, vTail⟩ := exists_classifyBody sql
  obtain ⟨core, semicolons, rfl, closed, marks⟩ : ∃ core semicolons, last = core ++ semicolons ∧
      Closed core ∧ ∀ c ∈ semicolons, c = ';' := by
    rcases isLast with keyword | ⟨name, named⟩
    · exact ⟨last, [], by simp, .tame last keyword.tame, by simp⟩
    · exact closed_of_savepointName solid named
  refine ⟨u ++ before, core, semicolons ++ after ++ v, ?_, fun c mem => ?_, closed, fun c mem => ?_⟩
  · rw [whole, body]
    simp
  · rcases List.mem_append.mp mem with mem | mem
    · exact isTame_of_isWhitespace (uBlank c mem)
    · rcases known c mem with blank | ⟨w, inInit, inWord⟩
      · exact isTame_of_isWhitespace blank
      · exact (keywords w inInit).tame c inWord
  · rcases List.mem_append.mp mem with mem | mem
    · rcases List.mem_append.mp mem with mem | mem
      · simp [isTail, marks c mem]
      · simp [isTail, afterBlank c mem]
    · exact vTail c mem

/-- **Transaction control is one statement.** -/
theorem statements_of_classified {sql : Text} (classified : classifySql sql = some cmd) :
    (statements sql).length ≤ 1 := by
  obtain ⟨a, core, b, parts, tame, closed, tail⟩ := exists_parts_of_classified classified
  have found : stripLeadingNoise sql ≠ [] := by
    intro none
    rw [classifySql, classifyBody, none] at classified
    cases classified
  obtain ⟨noise, isNoise, whole⟩ : ∃ noise, Noise noise ∧ sql = noise ++ stripLeadingNoise sql := by
    rcases exists_noise_of_skipNoise (fun _ => []) sql with
      ⟨noise, isNoise, whole, -⟩ | none | ⟨_, none⟩
    · exact ⟨noise, isNoise, whole⟩
    · exact absurd none found
    · exact absurd none found
  have noted : split .start [] sql = split .start noise (a ++ (core ++ b)) := by
    rw [whole, parts, split_noise isNoise]
    simp
  obtain ⟨s, plain, readTame⟩ := split_tame tame (show Scanner.start.mode = .plain from rfl)
    noise (core ++ b)
  obtain ⟨s', plain', readCore⟩ := split_closed closed plain (noise ++ a) tail
  obtain ⟨p, rest, readTail, blank⟩ := split_tail tail plain' (noise ++ a ++ core)
  have pieces : split .start [] sql = p :: rest := by rw [noted, readTame, readCore, readTail]
  have dropped : rest.filter (!isBlankPiece ·) = [] := by
    refine List.filter_eq_nil_iff.mpr fun q mem => ?_
    simp [blank q mem]
  rw [statements, pieces, List.filter_cons, dropped]
  split
  · simp
  · simp

end PlexPostgres.Txn
