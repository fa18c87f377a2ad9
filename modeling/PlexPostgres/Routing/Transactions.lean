import PlexPostgres.Routing.Prepare
import PlexPostgres.Txn.OneStatement

/-!
# How transaction control is registered

Two recognisers look at a transaction statement.  `classify_sql` splits the text into words, and
what it recognises joins the statements that are registered; the skip list compares first
letters, and what is on it is registered as skipped, so that its step reaches the transaction
forwarder.  A statement the first knows and the second does not is registered as a read.

They differ on three things: white space beyond ASCII before the first word, what stands behind
`RELEASE`, and the names of SQLite's tables, which may be the name of a savepoint.
-/

namespace PlexPostgres.Routing

open Text Step Txn

/-! ### The first word -/

/-- The words transaction control begins with. -/
def controlWords : List Keyword := [.begin, .commit, .endWord, .rollback, .savepoint, .release]

/-- **Transaction control, as it is spelled**: perhaps white space, then a keyword. -/
structure FirstWord (body : Text) (k : Keyword) (gap rest : Text) : Prop where
  control : k ∈ controlWords
  blank : ∀ c ∈ gap, isWhitespace c = true
  lower : toLowercase body = gap ++ k.text ++ rest
  ascii : ∃ rest', asciiLower body = gap ++ k.text ++ rest'
  head : gap = [] ↔ ∀ c ∈ body.head?, isWhitespace c = false

theorem classifyRollback_cases {words : List Text} {cmd : TxnCmd}
    (classified : classifyRollback words = some cmd) : ∀ name, cmd ≠ .release name := by
  rintro name rfl
  unfold classifyRollback at classified
  dsimp only at classified
  generalize (if (words.map asciiLower).tail.head? = some Keyword.transaction.text then
    (words.map asciiLower).tail.tail else (words.map asciiLower).tail) = rest at classified
  split at classified
  · cases classified
  split at classified
  · cases classified
  · obtain ⟨word, -, named⟩ := Option.bind_eq_some_iff.mp classified
    obtain ⟨other, -, whole⟩ := Option.bind_eq_some_iff.mp named
    simp at whole

/-- The first word of what is classified; `RELEASE` is the one that releases. -/
theorem controlWord_of_classifyWords {word : Text} {words : List Text} {cmd : TxnCmd}
    (classified : classifyWords (word :: words) = some cmd) :
    ∃ k ∈ controlWords, asciiLower word = k.text ∧
      ((∃ name, cmd = .release name) ↔ k = .release) := by
  rw [classifyWords] at classified
  split at classified
  next isBegin =>
    obtain ⟨-, rfl⟩ : _ ∧ TxnCmd.begin = cmd := by simpa using classified
    exact ⟨.begin, by decide, isBegin, by simp⟩
  split at classified
  next isCommit =>
    obtain ⟨-, rfl⟩ : _ ∧ TxnCmd.commit = cmd := by simpa using classified
    rcases isCommit with isCommit | isEnd
    · exact ⟨.commit, by decide, isCommit, by simp⟩
    · exact ⟨.endWord, by decide, isEnd, by simp⟩
  split at classified
  next isRollback =>
    refine ⟨.rollback, by decide, isRollback, ?_⟩
    simpa using classifyRollback_cases classified
  split at classified
  next isSavepoint =>
    refine ⟨.savepoint, by decide, isSavepoint, ?_⟩
    split at classified
    · cases classified
    · obtain ⟨v, -, named⟩ := Option.bind_eq_some_iff.mp classified
      obtain ⟨name, -, rfl⟩ := Option.map_eq_some_iff.mp named
      simp
  split at classified
  next isRelease =>
    refine ⟨.release, by decide, isRelease, ?_⟩
    unfold classifyRelease at classified
    dsimp only at classified
    generalize (if ((word :: words).map asciiLower)[1]? = some Keyword.savepoint.text then 2
      else 1) = nameIdx at classified
    split at classified
    · cases classified
    · obtain ⟨v, -, named⟩ := Option.bind_eq_some_iff.mp classified
      obtain ⟨name, -, rfl⟩ := Option.map_eq_some_iff.mp named
      simp
  · cases classified

/-- A word that is a keyword up to the case of ASCII letters is one up to any case. -/
theorem toLowercase_of_asciiLower {word lower : Text} (same : asciiLower word = lower)
    (isAscii : lower.all (·.toNat < 128) = true) : toLowercase word = lower := by
  subst same
  induction word with
  | nil => rfl
  | cons c word ih =>
    obtain ⟨first, others⟩ := (Bool.and_eq_true _ _).mp isAscii
    have one : lowerChar c = [c.toLower] := by
      unfold lowerChar
      rw [if_neg, if_neg]
      · rintro rfl
        exact absurd first (by decide)
      · rintro rfl
        exact absurd first (by decide)
    rw [toLowercase_cons, one, ih others]
    rfl

theorem toLowercase_of_blank {gap : Text} (blank : ∀ c ∈ gap, isWhitespace c = true) :
    toLowercase gap = gap ∧ asciiLower gap = gap := by
  induction gap with
  | nil => exact ⟨rfl, rfl⟩
  | cons c gap ih =>
    have isBlank := blank c List.mem_cons_self
    have same := toLower_of_isWhitespace isBlank
    have one : lowerChar c = [c] := by
      unfold lowerChar
      rw [if_neg, if_neg, same]
      · rintro rfl
        exact absurd isBlank (by decide)
      · rintro rfl
        exact absurd isBlank (by decide)
    obtain ⟨unicode, ascii⟩ := ih fun d mem => blank d (List.mem_cons_of_mem c mem)
    refine ⟨by rw [toLowercase_cons, one, unicode]; rfl, ?_⟩
    rw [asciiLower, List.map_cons, same]
    exact congrArg (c :: ·) ascii

/-- **The first word of transaction control.** -/
theorem firstWord_of_classified {sql : Text} {cmd : TxnCmd}
    (classified : classifySql sql = some cmd) :
    ∃ k gap rest, FirstWord (stripLeadingNoise sql) k gap rest ∧
      ((∃ name, cmd = .release name) ↔ k = .release) := by
  obtain ⟨before, after, whole, beforeBlank, -⟩ := exists_classifyBody sql
  rw [classifySql] at classified
  rcases splitWhitespace_cases (classifyBody sql) with
    ⟨none, -⟩ | ⟨gap, word, rest, body, gapBlank, solid, split⟩
  · rw [none] at classified
    cases classified
  · rw [split] at classified
    obtain ⟨k, control, isWord, releases⟩ := controlWord_of_classifyWords classified
    have blank : ∀ c ∈ before ++ gap, isWhitespace c = true :=
      List.forall_mem_append.mpr ⟨beforeBlank, gapBlank⟩
    have parts : stripLeadingNoise sql = (before ++ gap) ++ word ++ (rest ++ after) := by
      rw [whole, body]
      simp
    have letters : k.text.all (·.toNat < 128) = true := by cases k <;> decide
    refine ⟨k, before ++ gap, toLowercase (rest ++ after), ⟨control, blank, ?_, ?_, ?_⟩, releases⟩
    · rw [parts, toLowercase_append, toLowercase_append, (toLowercase_of_blank blank).1,
        toLowercase_of_asciiLower isWord letters]
    · refine ⟨asciiLower (rest ++ after), ?_⟩
      rw [parts, asciiLower_append, asciiLower_append, (toLowercase_of_blank blank).2, isWord]
    · rw [parts]
      cases lead : before ++ gap with
      | nil =>
        have nonempty : word ≠ [] := by
          rintro rfl
          cases k <;> cases isWord
        obtain ⟨c, word, rfl⟩ := List.exists_cons_of_ne_nil nonempty
        have first := solid c List.mem_cons_self
        simpa using first
      | cons c more =>
        have isBlank := blank c (by simp [lead])
        simp [isBlank]

/-! ### First letters -/

section Leads

variable {body : Text} {k : Keyword} {gap rest : Text}

/-- What the text of a statement begins with, if it begins with a keyword. -/
theorem FirstWord.compatible (first : FirstWord body k gap rest) {lead : Text}
    (letter : lead.head?.any (!isWhitespace ·) = true) {lower rest' : Text}
    (text : lower = gap ++ k.text ++ rest') (starts : startsWith lead lower = true) :
    gap = [] ∧ (lead <+: k.text ∨ k.text <+: lead) := by
  have isPrefix : lead <+: gap ++ k.text ++ rest' := text ▸ startsWith_iff.mp starts
  have unspaced : gap = [] := by
    cases lead' : gap with
    | nil => rfl
    | cons c more =>
      exfalso
      rw [lead'] at isPrefix
      cases lead with
      | nil => cases letter
      | cons d lead =>
        have same : d = c := (List.cons_prefix_cons.mp isPrefix).1
        have isBlank := first.blank c (by simp [lead'])
        simp [same, isBlank] at letter
  refine ⟨unspaced, ?_⟩
  rw [unspaced, List.nil_append] at isPrefix
  exact List.prefix_or_prefix_of_prefix isPrefix (List.prefix_append _ _)

/-- Leads of other statements do not fit. -/
theorem FirstWord.not_startsWith (first : FirstWord body k gap rest) {lead : Text}
    (letter : lead.head?.any (!isWhitespace ·) = true)
    (other : ∀ k ∈ controlWords, ¬ lead <+: k.text ∧ ¬ k.text <+: lead) :
    startsWith lead (toLowercase body) = false ∧ startsWith lead (asciiLower body) = false := by
  obtain ⟨notShort, notLong⟩ := other k first.control
  obtain ⟨rest', ascii⟩ := first.ascii
  constructor <;> rw [Bool.eq_false_iff] <;> intro starts
  · exact (first.compatible letter first.lower starts).2.elim notShort notLong
  · exact (first.compatible letter ascii starts).2.elim notShort notLong

theorem FirstWord.none_startsWith (first : FirstWord body k gap rest) {leads : List Text}
    (others : ∀ lead ∈ leads, lead.head?.any (!isWhitespace ·) = true ∧
      ∀ k ∈ controlWords, ¬ lead <+: k.text ∧ ¬ k.text <+: lead) :
    leads.any (startsWith · (toLowercase body)) = false := by
  rw [List.any_eq_false]
  intro lead mem
  rw [(first.not_startsWith (others lead mem).1 (others lead mem).2).1]
  exact Bool.false_ne_true

/-- **When the skip list knows transaction control by its first letters.** -/
theorem FirstWord.skipLeads_iff (first : FirstWord body k gap rest) :
    skipLeads.any (startsWith · (toLowercase body)) = true ↔
      (∀ c ∈ body.head?, isWhitespace c = false) ∧
        (k = .release → startsWith "release ".toList (toLowercase body) = true) := by
  rw [← first.head, List.any_eq_true]
  constructor
  · rintro ⟨lead, mem, starts⟩
    have letters : ∀ lead ∈ skipLeads, lead.head?.any (!isWhitespace ·) = true := by decide
    obtain ⟨unspaced, fits⟩ := first.compatible (letters lead mem) first.lower starts
    refine ⟨unspaced, ?_⟩
    rintro rfl
    have only : ∀ lead ∈ skipLeads,
        (lead <+: Keyword.release.text ∨ Keyword.release.text <+: lead) →
          lead = "release ".toList := by
      decide
    rw [← only lead mem fits]
    exact starts
  · rintro ⟨unspaced, releases⟩
    by_cases isRelease : k = .release
    · exact ⟨_, by decide, releases isRelease⟩
    · have listed : ∀ k ∈ controlWords, k ≠ .release → k.text ∈ skipLeads := by decide
      refine ⟨k.text, listed k first.control isRelease, startsWith_iff.mpr ?_⟩
      rw [first.lower, unspaced, List.nil_append]
      exact List.prefix_append _ _

end Leads

/-! ### Both recognisers -/

section Classified

variable {debug : Option Text} {sql : Text} {cmd : TxnCmd}

/-- The routing lists see the same text behind the noise. -/
theorem stripLeading_of_classified (classified : classifySql sql = some cmd) :
    stripLeading sql = stripLeadingNoise sql ∧ stripLeading sql ≠ [] := by
  have found : stripLeadingNoise sql ≠ [] := by
    intro none
    rw [classifySql, classifyBody, none] at classified
    cases classified
  rcases exists_noise_of_skipNoise (fun _ => []) sql with
    ⟨noise, isNoise, whole, solid⟩ | none | ⟨_, none⟩
  · have same : stripLeading sql = stripLeadingNoise sql := by
      conv_lhs => rw [whole]
      rw [stripLeading, skipNoise_noise _ isNoise, skipNoise_solid _ solid]
      rfl
    exact ⟨same, same ▸ found⟩
  · exact absurd none found
  · exact absurd none found

/-- Transaction control is neither a read nor a write. -/
theorem notRow_of_classified (classified : classifySql sql = some cmd) :
    isReadOperation sql = false ∧ isWriteOperation sql = false := by
  obtain ⟨same, -⟩ := stripLeading_of_classified classified
  obtain ⟨k, gap, rest, first, -⟩ := firstWord_of_classified classified
  constructor
  · rw [isReadOperation, same]
    exact (first.not_startsWith (by decide) (by decide)).2
  · rw [isWriteOperation, same]
    exact first.none_startsWith (by decide)

/-- It is left to SQLite only for one of its tables. -/
theorem isSqlitePassthrough_of_classified (classified : classifySql sql = some cmd) :
    isSqlitePassthrough sql = engineTables.any (contains · (toLowercase (stripLeading sql))) := by
  obtain ⟨same, found⟩ := stripLeading_of_classified classified
  obtain ⟨k, gap, rest, first, -⟩ := firstWord_of_classified classified
  have noLead : engineLeads.any (startsWith · (toLowercase (stripLeading sql))) = false := by
    rw [same]
    exact first.none_startsWith (by decide)
  unfold isSqlitePassthrough
  simp [noLead, found]

/-- **How transaction control is spelled that both recognisers know**: it names none of SQLite's
tables, and either no white space beyond ASCII stands before its first word and a blank behind
`RELEASE`, or something else puts it on the skip list. -/
structure Spelled (debug : Option Text) (sql : Text) (cmd : TxnCmd) : Prop where
  noTable : engineTables.any (contains · (toLowercase (stripLeading sql))) = false
  listed :
    ((∀ c ∈ (stripLeading sql).head?, isWhitespace c = false) ∧
      ((∃ name, cmd = .release name) →
        startsWith "release ".toList (toLowercase (stripLeading sql)) = true)) ∨
    (debugFragments debug).any (contains · (toLowercase sql)) = true ∨
    skipFragments.any (contains · (toLowercase sql)) = true

theorem spelled_iff (classified : classifySql sql = some cmd) :
    Spelled debug sql cmd ↔ isSqlitePassthrough sql = false ∧ shouldSkip debug sql = true := by
  obtain ⟨same, found⟩ := stripLeading_of_classified classified
  obtain ⟨k, gap, rest, first, releases⟩ := firstWord_of_classified classified
  have leads := first.skipLeads_iff
  rw [← same, ← releases] at leads
  have skips : shouldSkip debug sql = true ↔
      skipLeads.any (startsWith · (toLowercase (stripLeading sql))) = true ∨
      (debugFragments debug).any (contains · (toLowercase sql)) = true ∨
      skipFragments.any (contains · (toLowercase sql)) = true := by
    unfold shouldSkip
    rw [List.isEmpty_eq_false_iff.mpr found, Bool.not_false, Bool.true_and, Bool.or_eq_true,
      Bool.or_eq_true, or_assoc]
  rw [isSqlitePassthrough_of_classified classified, skips, leads]
  exact ⟨fun spelled => ⟨spelled.noTable, spelled.listed⟩, fun both => ⟨both.1, both.2⟩⟩

/-! ### The paths -/

variable {env : FlowEnv}

/-- Only what is on the skip list is registered as skipped. -/
theorem stackFlow_ne_skipped (serves : env.Serves) (run : shouldSkip debug sql = false)
    (fromWorker : Bool) : stackFlow fromWorker debug env sql ≠ .registered .skipped := by
  rw [stackFlow_of_serves serves, mainFlow_of_serves serves, run, if_neg Bool.false_ne_true]
  split_ifs <;> simp

/-- **The usual path** takes it, and looks at the skip list. -/
theorem mainFlow_of_classified (classified : classifySql sql = some cmd) (serves : env.Serves) :
    mainFlow debug env sql = .registered .skipped ↔ Spelled debug sql cmd := by
  have routed : isRouted (some ⟨true, true, true⟩) sql = true := by
    unfold isRouted
    rw [classified]
    simp [FoundConn.serves]
  rw [spelled_iff classified, mainFlow_of_serves serves, routed]
  cases isSqlitePassthrough sql <;> cases shouldSkip debug sql <;> simp
  split <;> simp

/-- **On a low stack** it is refused, or taken for a query of the On Deck view. -/
theorem stackFlow_of_classified (classified : classifySql sql = some cmd) (serves : env.Serves) :
    stackFlow false debug env sql = .registered .skipped ↔
      Spelled debug sql cmd ∧ 64000 ≤ env.stackRemaining ∧
        (isOnDeck sql = true → 100000 ≤ env.stackRemaining) := by
  obtain ⟨read, write⟩ := notRow_of_classified classified
  rw [stackFlow_of_serves serves, read, write]
  simp only [Bool.or_self, Bool.false_eq_true, if_false]
  split
  next deck =>
    simp only [Bool.and_eq_true, decide_eq_true_eq] at deck
    constructor
    · intro skipped
      cases skipped
    · rintro ⟨-, -, enough⟩
      exact absurd (enough deck.1) (Int.not_le.mpr deck.2)
  next notDeck =>
    have enough : isOnDeck sql = true → 100000 ≤ env.stackRemaining := by
      intro deck
      simpa [deck] using notDeck
    split
    next low =>
      simp only [Bool.and_eq_true, decide_eq_true_eq] at low
      constructor
      · intro refused
        cases refused
      · rintro ⟨-, enough, -⟩
        exact absurd enough (Int.not_le.mpr low.2)
    next notLow =>
      rw [mainFlow_of_classified classified serves]
      refine ⟨fun spelled => ⟨spelled, ?_, enough⟩, fun all => all.1⟩
      simpa [((spelled_iff classified).mp spelled).1] using notLow

end Classified

/-- **Transaction control is registered as skipped**, wherever PostgreSQL is active, if and only
if both recognisers know its spelling and the stack is not low. -/
theorem classified_skipped_iff (debug : Option Text) {env : PrepareEnv} (serves : env.Serves)
    {sql : Text} {cmd : TxnCmd} (classified : classifySql sql = some cmd) :
    prepare debug env sql = .registered .skipped ↔
      Spelled debug sql cmd ∧ 64000 ≤ env.own.stackRemaining ∧
        (isOnDeck sql = true → 100000 ≤ env.own.stackRemaining) := by
  rw [prepare_of_serves serves]
  cases skip : shouldSkip debug sql with
  | true =>
    rw [Bool.not_true, Bool.and_false, if_neg Bool.false_ne_true]
    exact stackFlow_of_classified classified serves.own
  | false =>
    -- What is not on the skip list is not skipped, on the worker's thread either.
    have notSpelled : ¬ Spelled debug sql cmd := by
      rw [spelled_iff classified, skip]
      exact fun both => Bool.noConfusion both.2
    refine ⟨fun skipped => ?_, fun all => absurd all.1 notSpelled⟩
    split at skipped
    · exact absurd skipped (stackFlow_ne_skipped serves.worker skip true)
    · exact absurd skipped (stackFlow_ne_skipped serves.own skip false)

/-- A `SAVEPOINT` behind a comment, with stack to spare. -/
theorem savepoint_skipped :
    prepare none .calm "/* x */ SAVEPOINT sp1;".toList = .registered .skipped := by
  have classified : classifySql "/* x */ SAVEPOINT sp1;".toList = some
    (.savepoint "sp1".toList) := by
    decide
  have head : (stripLeading "/* x */ SAVEPOINT sp1;".toList).head? = some 'S' := by decide
  have unspaced : ∀ c ∈ (stripLeading "/* x */ SAVEPOINT sp1;".toList).head?,
      isWhitespace c = false := by
    rw [head]
    intro c first
    cases first
    decide
  exact (classified_skipped_iff none PrepareEnv.serves_calm classified).mpr
    ⟨⟨by decide, .inl ⟨unspaced, by simp⟩⟩, by decide, by decide⟩

/-- **A `RELEASE` with a tab behind it** is recognised, and registered as a read. -/
theorem release_registered_as_read :
    classifySql "RELEASE\tsp1".toList = some (.release "sp1".toList) ∧
      prepare none .calm "RELEASE\tsp1".toList = .registered .read := by
  decide

end PlexPostgres.Routing
