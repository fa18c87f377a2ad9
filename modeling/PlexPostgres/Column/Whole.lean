import PlexPostgres.Column.Served

/-!
# Texts as a whole, and their lengths

SQLite promises that `sqlite3_column_bytes` is the length of what `sqlite3_column_text` hands out.
The shim rewrites some texts, and computes the length from the value PostgreSQL sent: a greatest
or least number that is printed as a time, and an address that is shortened, have another length
than is answered.  A rewritten text is also cut off at the end of a buffer, an unchanged one is
not.
-/

namespace PlexPostgres.Column

open PlexPostgres.Bind (Bytes ascii decimal isUtf8)
open Text

/-! ### Addresses -/

/-- **There is an address of a server's library in it.** -/
def HasLibraryUri (b : Bytes) : Prop :=
  ∃ before skipped after, b = before ++ serverPrefix ++ skipped ++ libraryNeedle ++ after

variable {needle b : Bytes}

theorem eq_of_cut {before after : Bytes} (found : cut needle b = some (before, after)) :
    b = before ++ needle ++ after := by
  induction b generalizing before with
  | nil => cases found
  | cons x b ih =>
    rw [cut] at found
    split at found
    next lead =>
      cases found
      exact (List.prefix_iff_eq_append.1 (List.isPrefixOf_iff_prefix.1 lead)).symm
    · obtain ⟨⟨before', after'⟩, foundLater, same⟩ := Option.map_eq_some_iff.1 found
      cases same
      rw [List.cons_append, List.cons_append, ← ih foundLater]

/-- What is found is found as early as anywhere. -/
theorem cut_of_occurrence (nonempty : needle ≠ []) (before after : Bytes) :
    ∃ first rest, cut needle (before ++ needle ++ after) = some (first, rest) ∧ after <:+ rest := by
  induction before with
  | nil =>
    obtain ⟨x, needle', rfl⟩ := List.exists_cons_of_ne_nil nonempty
    refine ⟨[], after, ?_, List.suffix_rfl⟩
    have lead : (x :: needle').isPrefixOf (x :: (needle' ++ after)) = true :=
      List.isPrefixOf_iff_prefix.2 (List.prefix_append (x :: needle') after)
    rw [List.nil_append, List.cons_append, cut, if_pos lead]
    simp
  | cons x before ih =>
    rw [List.cons_append, List.cons_append, cut]
    split
    · refine ⟨[], _, rfl, ?_⟩
      have inside : needle.length ≤ (x :: (before ++ needle)).length := by
        simp only [List.length_cons, List.length_append]
        omega
      rw [← List.cons_append, List.drop_append_of_le_length inside]
      exact List.suffix_append _ _
    · obtain ⟨first, rest, found, later⟩ := ih
      exact ⟨x :: first, rest, by rw [found]; rfl, later⟩

/-- The first prefix of an address is followed by the rest of one, if any is. -/
theorem hasLibraryUri_iff (b : Bytes) :
    HasLibraryUri b ↔ ∃ before tail skipped after,
      cut serverPrefix b = some (before, tail) ∧
        cut libraryNeedle tail = some (skipped, after) := by
  constructor
  · rintro ⟨before, skipped, after, rfl⟩
    obtain ⟨first, tail, found, later⟩ := cut_of_occurrence
      (show serverPrefix ≠ [] by decide) before (skipped ++ libraryNeedle ++ after)
    obtain ⟨front, rfl⟩ := later
    obtain ⟨passed, rest, foundRest, -⟩ := cut_of_occurrence
      (show libraryNeedle ≠ [] by decide) (front ++ skipped) after
    refine ⟨first, front ++ (skipped ++ libraryNeedle ++ after), passed, rest, ?_, ?_⟩
    · simpa only [List.append_assoc] using found
    · simpa only [List.append_assoc] using foundRest
  · rintro ⟨before, tail, skipped, after, found, foundRest⟩
    refine ⟨before, skipped, after, ?_⟩
    rw [eq_of_cut found, eq_of_cut foundRest]
    simp only [List.append_assoc]

theorem HasLibraryUri.of_append {front : Bytes} (uri : HasLibraryUri b) :
    HasLibraryUri (front ++ b) := by
  obtain ⟨before, skipped, after, rfl⟩ := uri
  exact ⟨front ++ before, skipped, after, by simp only [List.append_assoc]⟩

/-- Without an address no round rewrites anything. -/
theorem rewrites_of_none {cap rounds : ℕ} {rest out : Bytes} {rewrites : ℕ}
    (none : ¬ HasLibraryUri rest) :
    (rewriteRounds cap rounds rest out rewrites).2 = rewrites := by
  induction rounds generalizing rest out with
  | zero => rfl
  | succ rounds ih =>
    rw [rewriteRounds]
    split
    · rfl
    cases found : cut serverPrefix rest with
    | none => rfl
    | some parts =>
      obtain ⟨before, tail⟩ := parts
      simp only
      split
      · rfl
      cases foundRest : cut libraryNeedle tail with
      | none =>
        refine ih fun uri => none ?_
        rw [eq_of_cut found]
        exact uri.of_append
      | some parts =>
        exact absurd ((hasLibraryUri_iff rest).2 ⟨_, _, _, _, found, foundRest⟩) none

theorem rewriteServerLibraryUri_of_none {cap : ℕ} {source : Bytes}
    (none : ¬ HasLibraryUri source) : rewriteServerLibraryUri cap source = Option.none := by
  have rewrites : (rewriteRounds cap source.length source [] 0).2 = 0 := rewrites_of_none none
  unfold rewriteServerLibraryUri
  split
  · rfl
  split
  · rfl
  next ran => rw [ran] at rewrites; cases rewrites

/-- The addresses of a text, shortened: so many of them. -/
def shorten : (most : ℕ) → Bytes → Bytes
  | 0, b => b
  | most + 1, b =>
    match cut serverPrefix b with
    | none => b
    | some (before, tail) =>
      match cut libraryNeedle tail with
      | none => b
      | some (_, after) => before ++ libraryPrefix ++ shorten most after

/-- **A text with every address of a server's library shortened.** -/
def shortened (b : Bytes) : Bytes := shorten b.length b

theorem length_shorten_le (most : ℕ) (b : Bytes) : (shorten most b).length ≤ b.length := by
  induction most generalizing b with
  | zero => exact le_rfl
  | succ most ih =>
    rw [shorten]
    cases found : cut serverPrefix b with
    | none => exact le_rfl
    | some parts =>
      obtain ⟨before, tail⟩ := parts
      simp only
      cases foundRest : cut libraryNeedle tail with
      | none => exact le_rfl
      | some parts =>
        obtain ⟨skipped, after⟩ := parts
        have rest := ih after
        have sizes : libraryPrefix.length ≤ serverPrefix.length + libraryNeedle.length := by decide
        rw [eq_of_cut found, eq_of_cut foundRest]
        simp only [List.length_append]
        omega

theorem shortened_of_none (none : ¬ HasLibraryUri b) : shortened b = b := by
  unfold shortened
  cases b.length with
  | zero => rfl
  | succ most =>
    rw [shorten]
    cases found : cut serverPrefix b with
    | none => rfl
    | some parts =>
      simp only
      cases foundRest : cut libraryNeedle parts.2 with
      | none => rfl
      | some rest => exact absurd ((hasLibraryUri_iff b).2 ⟨_, _, _, _, found, foundRest⟩) none

theorem length_shortened_lt (uri : HasLibraryUri b) :
    0 < (shortened b).length ∧ (shortened b).length < b.length := by
  obtain ⟨before, tail, skipped, after, found, foundRest⟩ := (hasLibraryUri_iff b).1 uri
  have whole := congrArg List.length (eq_of_cut found)
  have tailLength := congrArg List.length (eq_of_cut foundRest)
  have sizes : libraryPrefix.length = 10 ∧ serverPrefix.length = 9 ∧ libraryNeedle.length = 37 := by
    decide
  simp only [List.length_append] at whole tailLength
  have room : b.length = b.length - 1 + 1 := by omega
  have rest := length_shorten_le (b.length - 1) after
  rw [shortened, room, shorten, found]
  simp only [foundRest, List.length_append]
  omega

/-! ### Numbers and times -/

theorem chars_ascii {t : Text} (all : ∀ c ∈ t, c.toNat < 256) : chars (ascii t) = t := by
  rw [chars, ascii, List.map_map]
  refine (List.map_congr_left fun c mem => ?_).trans (List.map_id t)
  have small : c.toNat % 256 = c.toNat := Nat.mod_eq_of_lt (all c mem)
  simp [small]

theorem toNat_of_isDigit {c : Char} (digit : c.isDigit = true) : 48 ≤ c.toNat ∧ c.toNat ≤ 57 := by
  obtain ⟨low, high⟩ := Bool.and_eq_true_iff.1 digit
  exact ⟨of_decide_eq_true low, of_decide_eq_true high⟩

theorem foldl_digits {digits : Text} (all : ∀ c ∈ digits, c.isDigit = true) (n : ℕ) :
    digits.foldl (fun (n : ℤ) (c : Char) => 10 * n + (c.toNat - 48)) n =
      (Nat.ofDigitChars 10 digits n : ℤ) := by
  induction digits generalizing n with
  | nil => rfl
  | cons c digits ih =>
    have digit : 48 ≤ c.toNat := toNat_of_isDigit (all c List.mem_cons_self) |>.1
    have step : 10 * (n : ℤ) + ((c.toNat : ℤ) - 48) = ((10 * n + (c.toNat - 48) : ℕ) : ℤ) := by
      omega
    rw [List.foldl_cons, step, ih fun d mem => all d (List.mem_cons_of_mem c mem)]
    rfl

theorem leadingNumber_toDigits (n : ℕ) : leadingNumber (Nat.toDigits 10 n) = n := by
  have digits : ∀ c ∈ Nat.toDigits 10 n, c.isDigit = true := fun c mem =>
    Nat.isDigit_of_mem_toDigits (by decide) (by decide) mem
  rw [leadingNumber, List.takeWhile_eq_self_iff.2 digits, ← Int.natCast_zero,
    foldl_digits digits, Nat.ofDigitChars_toDigits (by decide) (by decide)]

/-- The characters of a number: a sign, and digits. -/
theorem mem_sign_or_digit {n : ℤ} {c : Char}
    (mem : c ∈ (if n < 0 then ['-'] else []) ++ Nat.toDigits 10 n.natAbs) :
    c = '-' ∨ c.isDigit = true := by
  rcases List.mem_append.1 mem with sign | digit
  · split at sign
    · exact .inl (List.mem_singleton.1 sign)
    · cases sign
  · exact .inr (Nat.isDigit_of_mem_toDigits (by decide) (by decide) digit)

theorem toNat_sign_or_digit {c : Char} (is : c = '-' ∨ c.isDigit = true) : c.toNat ≤ 57 := by
  obtain rfl | digit := is
  · decide
  · exact (toNat_of_isDigit digit).2

/-- **What was printed is read back.** -/
theorem pgTextToInt64_decimal {n : ℤ} (low : -2 ^ 63 ≤ n) (high : n < 2 ^ 63) :
    pgTextToInt64 (decimal n) = n := by
  obtain ⟨c, rest, digits⟩ := List.exists_cons_of_length_pos
    (Nat.length_toDigits_pos (b := 10) (n := n.natAbs))
  have value := leadingNumber_toDigits n.natAbs
  have digit : c.isDigit = true :=
    Nat.isDigit_of_mem_toDigits (by decide) (by decide) (digits ▸ List.mem_cons_self)
  have range := toNat_of_isDigit digit
  have readChars : chars (decimal n) =
      (if n < 0 then ['-'] else []) ++ Nat.toDigits 10 n.natAbs :=
    chars_ascii fun c mem => by
      have small := toNat_sign_or_digit (mem_sign_or_digit mem)
      omega
  rw [pgTextToInt64, readChars, digits]
  rw [digits] at value
  by_cases negative : n < 0
  · have whole : atoll ('-' :: c :: rest) = n := by
      change max (-2 ^ 63) (min (-leadingNumber (c :: rest)) (2 ^ 63 - 1)) = n
      omega
    rw [if_pos negative]
    exact (if_neg (by simp)).trans ((if_neg (by simp)).trans whole)
  · have notSpace : isCSpace c = false := by
      unfold isCSpace
      have other : c ≠ ' ' := by
        rintro rfl
        cases digit
      simp only [other, decide_false, Bool.false_or, Bool.and_eq_false_iff,
        decide_eq_false_iff_not]
      omega
    have whole : atoll (c :: rest) = n := by
      unfold atoll
      rw [List.dropWhile_cons_of_neg (by simp [notSpace])]
      split
      next same => cases same; cases digit
      next same => cases same; cases digit
      · have whole : (n.natAbs : ℤ) = n := Int.natAbs_of_nonneg (by omega)
        rw [value, whole]
        change max (-2 ^ 63) (min n (2 ^ 63 - 1)) = n
        omega
    rw [if_neg negative, List.nil_append]
    refine (if_neg ?_).trans ((if_neg ?_).trans whole)
    · intro same
      cases same
      cases digit
    · intro same
      cases same
      cases digit

/-- A number in decimals has no letter in it. -/
theorem letter_not_mem_decimal (n : ℤ) : 115 ∉ decimal n := by
  intro mem
  obtain ⟨c, among, same⟩ := List.mem_map.1 mem
  have small := toNat_sign_or_digit (mem_sign_or_digit among)
  have same := congrArg UInt8.toNat same
  simp at same
  omega

theorem civilFromMarch_year (days : ℕ) : 400 * (days / 146097) ≤ (civilFromMarch days).1 := by
  unfold civilFromMarch
  generalize days / 146097 = era
  simp only
  split
  · exact Nat.le_add_right _ _
  · exact (Nat.le_add_right _ _).trans (Nat.le_add_right _ _)

theorem civilDate_year (days : ℕ) : 1000 ≤ (civilDate days).1 := by
  have era : 4 ≤ (days + 719468) / 146097 :=
    (Nat.le_div_iff_mul_le (by decide)).2 (Nat.le_add_left_of_le (by decide))
  have year := civilFromMarch_year (days + 719468)
  unfold civilDate
  omega

/-- A time takes more bytes than its number. -/
theorem length_datetime {epoch : ℤ} {time : Bytes}
    (formatted : formatEpochToDatetimeUtc epoch = some time) :
    (decimal epoch).length < time.length := by
  unfold formatEpochToDatetimeUtc at formatted
  split at formatted
  · cases formatted
  next inside =>
  obtain ⟨positive, last⟩ := not_or.1 inside
  rw [lastEpoch] at last
  have short : (Nat.toDigits 10 epoch.natAbs).length ≤ 17 :=
    (Nat.length_toDigits_le_iff (by decide) (by decide)).2 (by omega)
  have unsigned : ¬ epoch < 0 := by omega
  have late := civilDate_year (epoch.toNat / 86400)
  generalize civilDate (epoch.toNat / 86400) = date at late formatted
  obtain ⟨year, month, day⟩ := date
  have long : ¬ (Nat.toDigits 10 year).length ≤ 3 := by
    rw [Nat.length_toDigits_le_iff (by decide) (by decide)]
    exact not_lt_of_ge late
  cases formatted
  simp only [decimal, ascii, if_neg unsigned, List.nil_append, List.length_map,
    List.length_append, List.length_cons, twoDigits, List.length_nil]
  omega

/-! ### The text that should be handed out -/

/-- **The whole text of a value**, after the rewrites. -/
def documentedText (sql : Option Text) (cell : Cell) : Bytes :=
  ((reformatAggregate sql cell.name cell.oid cell.source).or
    (booleanDigit cell.oid cell.source)).getD (shortened cell.source)

/-- Where the rows of a statement come from. -/
inductive Serving where
  | result
  | copy
  deriving DecidableEq, Repr

/-- The answers for a column. -/
def servedAnswers (serving : Serving) (reader : Reader) (sql : Option Text) (c : Cursor)
    (r : PgResult) (row idx : ℤ) (env : Lookup) : Answers :=
  match serving with
  | .result => (c.standing r row).answers reader sql idx env
  | .copy => cachedAnswers reader sql r.copy row idx

/-- **A number that is printed as a time**: an `int8` that is the greatest or least of what sounds
like times, and is the second of a year. -/
def Cell.PrintedAsTime (sql : Option Text) (cell : Cell) : Prop :=
  cell.oid = 20 ∧ ofTimes sql cell.name = true ∧ 0 < pgTextToInt64 cell.source ∧
    pgTextToInt64 cell.source ≤ lastEpoch

/-- **A cell whose text is handed out whole and with its length.** -/
structure Cell.HandedWhole (serving : Serving) (sql : Option Text) (cell : Cell) : Prop where
  utf8 : isUtf8 cell.source = true
  notHex : serving = .result → cell.oid = byteaOid → ¬ [92, 120] <+: cell.source
  notTime : ¬ cell.PrintedAsTime sql
  noUri : ¬ HasLibraryUri cell.source

/-- The length that is answered for a cell. -/
def servedCount (serving : Serving) (cell : Cell) : ℕ :=
  match serving with
  | .result => byteCount cell
  | .copy => cell.source.length

theorem servedAnswers_cell (serving : Serving) (reader : Reader) (sql : Option Text) (c : Cursor)
    (r : TextResult) (row idx : ℤ) (env : Lookup) {cell : Cell}
    (there : r.cell row idx = some cell) :
    let answers := servedAnswers serving reader sql c r.toPgResult row idx env
    answers.text = (reader.textOutput (some cell)).1 ∧
      answers.bytes = servedCount serving cell := by
  cases serving with
  | result =>
    rw [servedAnswers, answers_standing, there]
    exact ⟨rfl, rfl⟩
  | copy =>
    rw [servedAnswers, cachedAnswers_copy, there]
    exact ⟨rfl, rfl⟩

/-- A greatest or least is an aggregate. -/
theorem isAggregateAlias_of_ofTimes {sql : Option Text} {name : Text}
    (times : ofTimes sql name = true) : isAggregateAlias name = true := by
  have lowered : asciiLower name = "max".toList ∨ asciiLower name = "min".toList := by
    simpa using (Bool.and_eq_true_iff.1 times).1
  have trimmed : trim name = name := by
    refine trim_eq_self fun c mem => ?_
    by_contra blank
    have blank := Bool.eq_true_of_not_eq_false blank
    have lower : c ∈ asciiLower name := by
      rw [← toLower_of_isWhitespace blank]
      exact List.mem_map_of_mem mem
    have letters : ['m', 'a', 'x', 'm', 'i', 'n'].any isWhitespace = false := by decide
    refine List.any_eq_false.1 letters c ?_ blank
    rcases lowered with max | min
    · rw [max] at lower
      exact List.mem_append_left ['m', 'i', 'n'] lower
    · rw [min] at lower
      exact List.mem_append_right ['m', 'a', 'x'] lower
  unfold isAggregateAlias
  rw [trimmed]
  rcases lowered with max | min
  · rw [max]
    decide
  · rw [min]
    decide

theorem formatEpoch_eq_none_iff (epoch : ℤ) :
    formatEpochToDatetimeUtc epoch = none ↔ ¬ (0 < epoch ∧ epoch ≤ lastEpoch) := by
  unfold formatEpochToDatetimeUtc
  generalize civilDate (epoch.toNat / 86400) = date
  obtain ⟨year, month, day⟩ := date
  rw [ite_eq_left_iff, not_or, not_le, not_lt]
  constructor
  · intro given inside
    cases given inside
  · exact fun outside inside => absurd inside outside

section Cells

variable {sql : Option Text} {cell : Cell}

/-- An `int8` is printed as it came unless it is printed as a time; other aggregates are printed
as they came. -/
theorem reformatAggregate_cases (sent : AsSent cell.oid cell.source) (sql : Option Text) :
    (reformatAggregate sql cell.name cell.oid cell.source = none ∧ ¬ cell.PrintedAsTime sql) ∨
      115 ∉ cell.source ∧ cell.oid ≠ byteaOid ∧
        ((reformatAggregate sql cell.name cell.oid cell.source = some cell.source ∧
            ¬ cell.PrintedAsTime sql) ∨
          ∃ time, reformatAggregate sql cell.name cell.oid cell.source = some time ∧
            cell.source.length < time.length ∧ cell.PrintedAsTime sql) := by
  unfold reformatAggregate
  by_cases other : cell.oid ∉ [20, 21, 23] ∨ ¬ isAggregateAlias cell.name = true
  · refine .inl ⟨if_pos other, ?_⟩
    rintro ⟨int8, times, -⟩
    rcases other with notInteger | notAggregate
    · exact notInteger (by rw [int8]; decide)
    · exact notAggregate (isAggregateAlias_of_ofTimes times)
  rw [if_neg other]
  obtain ⟨integer, -⟩ := not_or.1 other
  have integer : cell.oid = 20 ∨ cell.oid = 21 ∨ cell.oid = 23 := by
    simpa using not_not.1 integer
  refine .inr ?_
  by_cases int8 : cell.oid = 20
  · obtain ⟨n, low, high, printed⟩ := sent.integer 64 (by rw [int8]; rfl)
    have read : pgTextToInt64 cell.source = n := printed ▸ pgTextToInt64_decimal low high
    refine ⟨printed ▸ letter_not_mem_decimal n, int8 ▸ by decide, ?_⟩
    simp only [int8, if_true, read, ← printed, Cell.PrintedAsTime, true_and]
    by_cases times : ofTimes sql cell.name = true
    · simp only [times, if_true, true_and]
      cases formatted : formatEpochToDatetimeUtc n with
      | none => exact .inl ⟨rfl, (formatEpoch_eq_none_iff n).1 formatted⟩
      | some time =>
        refine .inr ⟨time, rfl, printed ▸ length_datetime formatted, ?_⟩
        by_contra outside
        rw [(formatEpoch_eq_none_iff n).2 outside] at formatted
        cases formatted
    · exact .inl ⟨if_neg times, fun asTime => times asTime.1⟩
  · obtain ⟨n, low, high, printed⟩ :
      ∃ n : ℤ, -2 ^ 31 ≤ n ∧ n < 2 ^ 31 ∧ cell.source = decimal n := by
      rcases integer.resolve_left int8 with int2 | int4
      · obtain ⟨n, low, high, printed⟩ := sent.integer 16 (by rw [int2]; rfl)
        exact ⟨n, by omega, by omega, printed⟩
      · exact sent.integer 32 (by rw [int4]; rfl)
    have read : pgTextToInt cell.source = n := by
      rw [pgTextToInt, printed, pgTextToInt64_decimal (by omega) (by omega), Cache.i32]
      exact Int.bmod_eq_of_le (by omega) (by omega)
    have notBytea : cell.oid ≠ byteaOid := by
      rw [byteaOid]
      omega
    refine ⟨printed ▸ letter_not_mem_decimal n, notBytea, .inl ⟨?_, fun asTime => int8 asTime.1⟩⟩
    rw [if_neg int8, read, printed]

theorem booleanDigit_eq_some {oid : ℕ} {source digit : Bytes}
    (is : booleanDigit oid source = some digit) :
    oid = 16 ∧ (source = ascii ['t'] ∨ source = ascii ['f']) ∧ digit.length = 1 := by
  unfold booleanDigit at is
  split at is
  next true' =>
    cases is
    exact ⟨true'.1, .inl true'.2, rfl⟩
  split at is
  next false' =>
    cases is
    exact ⟨false'.1, .inr false'.2, rfl⟩
  · cases is

theorem HasLibraryUri.letter (uri : HasLibraryUri b) : 115 ∈ b := by
  obtain ⟨before, skipped, after, rfl⟩ := uri
  have letter : 115 ∈ serverPrefix := by decide
  simp only [List.mem_append]
  exact .inl (.inl (.inl (.inr letter)))

theorem hexVal_of_mem {hex : Bytes} (decoded : hexPairs hex = some b) {x : UInt8} (mem : x ∈ hex) :
    hexVal x ≠ none := by
  fun_induction hexPairs hex generalizing b with
  | case1 => cases mem
  | case2 => cases decoded
  | case3 hi lo rest ih =>
    simp only [Option.bind_eq_bind, Option.bind_eq_some_iff] at decoded
    obtain ⟨_, first, _, second, _, decodedRest, -⟩ := decoded
    rcases List.mem_cons.1 mem with rfl | mem
    · rw [first]
      exact Option.some_ne_none _
    rcases List.mem_cons.1 mem with rfl | mem
    · rw [second]
      exact Option.some_ne_none _
    · exact ih decodedRest mem

/-- What is no hexadecimal has no length. -/
theorem servedCount_of_hex {serving : Serving} (served : serving = .result)
    (bytea : cell.oid = byteaOid) (hex : [92, 120] <+: cell.source) (letter : 115 ∈ cell.source) :
    servedCount serving cell = 0 := by
  obtain ⟨digits, same⟩ := hex
  have among : 115 ∈ digits := by
    rw [← same] at letter
    rcases List.mem_append.1 letter with lead | among
    · exact absurd lead (by decide)
    · exact among
  subst served
  simp only [servedCount, byteCount, if_pos bytea, ← same, List.cons_append, List.nil_append,
    pgDecodeBytea, decodeHexBytes, if_neg (List.ne_nil_of_mem among)]
  cases decoded : hexPairs digits with
  | none => rfl
  | some b => exact absurd (by decide) (hexVal_of_mem decoded among)

theorem servedCount_eq_length_iff {serving : Serving} :
    servedCount serving cell = cell.source.length ↔
      (serving = .result → cell.oid = byteaOid → ¬ [92, 120] <+: cell.source) := by
  cases serving with
  | copy => simp [servedCount]
  | result =>
    simp only [servedCount, byteCount, true_imp_iff]
    split
    next bytea =>
      simp only [bytea, true_imp_iff]
      constructor
      · exact fun same hex => (length_decoded_lt hex).ne same
      · intro raw
        rw [decoded_of_not_hex raw]
        rfl
    next other => simp [other]

theorem textOutput_ofSql (nullTypeFromOid : Bool) :
    ((Reader.ofSql sql nullTypeFromOid).textOutput (some cell)).1 =
      if isUtf8 cell.source = true then
        (((reformatAggregate sql cell.name cell.oid cell.source).or
          (booleanDigit cell.oid cell.source)).or
            (rewriteServerLibraryUri (textBufferSize - 1) cell.source)).getD cell.source
      else [] := by
  simp only [Reader.textOutput, Reader.ofSql, columnTextTransform, Option.or_assoc]
  by_cases utf8 : isUtf8 cell.source = true
  · simp only [utf8, not_true_eq_false, if_false, if_true]
    cases (reformatAggregate sql cell.name cell.oid cell.source).or
      ((booleanDigit cell.oid cell.source).or
        (rewriteServerLibraryUri (textBufferSize - 1) cell.source)) <;> rfl
  · rw [if_pos utf8, if_neg utf8]

/-- **One cell.** -/
theorem cell_handed_whole_iff (sent : AsSent cell.oid cell.source) (serving : Serving)
    {text : Bytes} (handed : text = if isUtf8 cell.source = true then
        (((reformatAggregate sql cell.name cell.oid cell.source).or
          (booleanDigit cell.oid cell.source)).or
            (rewriteServerLibraryUri (textBufferSize - 1) cell.source)).getD cell.source
      else []) :
    (text = documentedText sql cell ∧ servedCount serving cell = text.length) ↔
      cell.HandedWhole serving sql := by
  unfold documentedText
  by_cases utf8 : isUtf8 cell.source = true
  · rw [if_pos utf8] at handed
    rcases reformatAggregate_cases sent sql with ⟨unprinted, notTime⟩ |
      ⟨letterless, notBytea, ⟨printed, notTime⟩ | ⟨time, printed, longer, asTime⟩⟩
    · rw [unprinted, Option.none_or] at handed ⊢
      cases boolean : booleanDigit cell.oid cell.source with
      | some digit =>
        obtain ⟨bool, letter, one⟩ := booleanDigit_eq_some boolean
        have single : cell.source.length = 1 := by
          rcases letter with same | same <;> rw [same] <;> rfl
        have notHex : serving = .result → cell.oid = byteaOid → ¬ [92, 120] <+: cell.source :=
          fun _ bytea => absurd (bool.symm.trans bytea) (by decide)
        have noUri : ¬ HasLibraryUri cell.source := by
          intro uri
          have lengths := length_shortened_lt uri
          omega
        rw [boolean] at handed
        subst handed
        exact iff_of_true
          ⟨rfl, (servedCount_eq_length_iff.2 notHex).trans (single.trans one.symm)⟩
          ⟨utf8, notHex, notTime, noUri⟩
      | none =>
        rw [boolean, Option.none_or] at handed
        by_cases uri : HasLibraryUri cell.source
        · refine iff_of_false ?_ fun whole => whole.noUri uri
          rintro ⟨same, count⟩
          have lengths := length_shortened_lt uri
          rw [same, Option.getD_none] at count
          by_cases raw : serving = .result → cell.oid = byteaOid → ¬ [92, 120] <+: cell.source
          · rw [servedCount_eq_length_iff.2 raw] at count
            omega
          · obtain ⟨result, bytea, hex⟩ : serving = .result ∧ cell.oid = byteaOid ∧
                [92, 120] <+: cell.source := by simpa using raw
            rw [servedCount_of_hex result bytea hex uri.letter] at count
            omega
        · rw [rewriteServerLibraryUri_of_none uri] at handed
          rw [Option.getD_none, shortened_of_none uri, handed, Option.getD_none]
          constructor
          · rintro ⟨-, count⟩
            exact ⟨utf8, servedCount_eq_length_iff.1 count, notTime, uri⟩
          · intro whole
            exact ⟨rfl, servedCount_eq_length_iff.2 whole.notHex⟩
    · have notHex : serving = .result → cell.oid = byteaOid → ¬ [92, 120] <+: cell.source :=
        fun _ bytea => absurd bytea notBytea
      rw [printed, Option.some_or, Option.some_or] at handed
      rw [printed, Option.some_or, handed]
      exact iff_of_true ⟨rfl, servedCount_eq_length_iff.2 notHex⟩
        ⟨utf8, notHex, notTime, fun uri => letterless uri.letter⟩
    · refine iff_of_false ?_ fun whole => whole.notTime asTime
      rintro ⟨-, count⟩
      rw [printed, Option.some_or, Option.some_or] at handed
      rw [servedCount_eq_length_iff.2 fun _ bytea => absurd bytea notBytea, handed] at count
      exact longer.ne count
  · rw [if_neg utf8] at handed
    refine iff_of_false ?_ fun whole => utf8 whole.utf8
    rintro ⟨same, count⟩
    have nonempty : cell.source ≠ [] := by
      intro empty
      exact utf8 (by rw [empty]; rfl)
    rw [handed, List.length_nil] at count
    by_cases raw : serving = .result → cell.oid = byteaOid → ¬ [92, 120] <+: cell.source
    · rw [servedCount_eq_length_iff.2 raw] at count
      exact nonempty (List.length_eq_zero_iff.1 count)
    · obtain ⟨result, bytea, hex⟩ : serving = .result ∧ cell.oid = byteaOid ∧
          [92, 120] <+: cell.source := by simpa using raw
      have unprinted : reformatAggregate sql cell.name cell.oid cell.source = none := by
        rw [bytea]
        exact if_pos (.inl (by decide))
      have notBoolean : booleanDigit cell.oid cell.source = none := by
        rw [bytea]
        rfl
      rw [handed, unprinted, notBoolean, Option.none_or, Option.getD_none] at same
      by_cases uri : HasLibraryUri cell.source
      · have lengths := length_shortened_lt uri
        rw [← same] at lengths
        exact absurd lengths.1 (Nat.lt_irrefl 0)
      · exact nonempty ((shortened_of_none uri).symm.trans same.symm)

end Cells

/-- **The text of a cell is handed out whole and with its length** just if it is UTF-8, is no
`bytea` in hexadecimals that is read from the result, is not printed as a time and has no address
in it. -/
theorem handed_whole_iff (serving : Serving) (sql : Option Text) (nullTypeFromOid : Bool)
    (c : Cursor) (r : TextResult) (row idx : ℤ) (env : Lookup) :
    (∀ cell ∈ r.cell row idx,
      let answers := servedAnswers serving (.ofSql sql nullTypeFromOid) sql c
        r.toPgResult row idx env
      answers.text = documentedText sql cell ∧ answers.bytes = answers.text.length) ↔
      ∀ cell ∈ r.cell row idx, cell.HandedWhole serving sql := by
  refine forall₂_congr fun cell there => ?_
  obtain ⟨text, bytes⟩ := servedAnswers_cell serving (.ofSql sql nullTypeFromOid) sql c r row idx
    env there
  simp only [text, bytes]
  exact cell_handed_whole_iff (r.asSent there) serving (textOutput_ofSql nullTypeFromOid)

/-- An address of a server's library. -/
def libraryAddress : TextResult :=
  .single ⟨"uri".toList, 25, ascii "server://1/com.plexapp.plugins.library/library/2".toList⟩
    ⟨by decide, fun _ integer => nomatch integer⟩

/-- The time of the last update. -/
def lastUpdate : TextResult :=
  .single ⟨"max".toList, 20, ascii "1709210096".toList⟩
    ⟨by decide, fun bits integer => by cases integer; exact ⟨1709210096, by decide⟩⟩

/-- The address is handed out as 11 bytes and the time as 19, with the lengths of what PostgreSQL
sent. -/
theorem lengths_of_what_was_sent :
    let sql := some "SELECT max(updated_at) FROM metadata_items".toList
    let answers (r : TextResult) := servedAnswers .result (.ofSql sql false) sql
      (Cursor.prepared false false (.unnamed [] [])) r.toPgResult 0 0 ⟨false, none, none⟩
    (answers libraryAddress).text = ascii "library://2".toList ∧
      (answers libraryAddress).bytes = 48 ∧
      (answers lastUpdate).text = ascii "2024-02-29 12:34:56".toList ∧
      (answers lastUpdate).bytes = 10 := by
  intro sql answers
  have answered : ∀ r, answers r = _ := fun r => answers_standing (.ofSql sql false) sql
    (Cursor.prepared false false (.unnamed [] [])) r 0 0 ⟨false, none, none⟩
  simp only [answered]
  decide +kernel

end PlexPostgres.Column
