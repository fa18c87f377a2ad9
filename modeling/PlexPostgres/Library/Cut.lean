import PlexPostgres.Library.Text

/-!
# Cutting a text

A cutter reads a text from left to right and cuts it at some of its separators, beginning anew
behind each cut.  The pieces are handed on without the white space around them, and a blank last
one not at all.
-/

namespace Text

variable {σ τ : Type*} {sep : Char}

/-! ### Pieces that are handed on -/

theorem trim_trim (t : Text) : trim (trim t) = trim t := by
  have start : (trim t).dropWhile isWhitespace = trim t := by
    cases parts : trim t with
    | nil => rfl
    | cons c rest =>
      obtain ⟨more, whole⟩ := List.rdropWhile_prefix isWhitespace (t.dropWhile isWhitespace)
      have dropped := List.head?_dropWhile_not isWhitespace t
      rw [← whole, show (t.dropWhile isWhitespace).rdropWhile isWhitespace = c :: rest from parts]
        at dropped
      exact List.dropWhile_cons_of_neg (by simpa using dropped)
  rw [trim, start]
  exact List.rdropWhile_idempotent ..

/-- What is left at the end of a text. -/
def lastPart (piece : Text) : List Text := if trim piece = [] then [] else [trim piece]

/-- **The pieces of a text as they are handed on**: trimmed, and without a blank last one. -/
def parts : List Text → List Text
  | [] => []
  | [p] => lastPart p
  | p :: q :: ps => trim p :: parts (q :: ps)

theorem parts_cons (p : Text) {ps : List Text} (ne : ps ≠ []) :
    parts (p :: ps) = trim p :: parts ps := by
  obtain ⟨q, ps, rfl⟩ := List.exists_cons_of_ne_nil ne
  rfl

/-- Every part is a piece, trimmed. -/
theorem mem_parts {q : Text} {ps : List Text} (mem : q ∈ parts ps) : ∃ p ∈ ps, q = trim p := by
  fun_induction parts ps with
  | case1 => cases mem
  | case2 p =>
    rw [lastPart] at mem
    split at mem
    · cases mem
    · exact ⟨p, List.mem_singleton_self p, List.mem_singleton.1 mem⟩
  | case3 p p' ps ih =>
    rcases List.mem_cons.1 mem with rfl | later
    · exact ⟨p, List.mem_cons_self, rfl⟩
    · obtain ⟨r, isPiece, same⟩ := ih later
      exact ⟨r, List.mem_cons_of_mem p isPiece, same⟩

theorem count_trim (solid : isWhitespace sep = false) (t : Text) :
    (trim t).count sep = t.count sep := by
  obtain ⟨before, after, whole, blank, blank'⟩ := exists_trim t
  have none : ∀ l : Text, (∀ c ∈ l, isWhitespace c = true) → l.count sep = 0 := fun l blank =>
    List.count_eq_zero_of_not_mem fun mem => absurd (blank _ mem) (by simp [solid])
  conv_rhs => rw [whole]
  rw [List.count_append, List.count_append, none _ blank, none _ blank']
  omega

/-- A piece that goes on behind a separator is another one. -/
theorem trim_of_prefix (solid : isWhitespace sep = false) {p q : Text}
    (further : q ++ [sep] <+: p) : trim p ≠ [] ∧ trim p ≠ trim q := by
  have more : q.count sep < (trim p).count sep := by
    obtain ⟨rest, rfl⟩ := further
    rw [count_trim solid, List.count_append, List.count_append, List.count_singleton_self]
    omega
  refine ⟨fun blank => ?_, fun same => ?_⟩
  · rw [blank] at more
    cases more
  · rw [same, count_trim solid] at more
    exact lt_irrefl _ more

theorem parts_ne_of_further (solid : isWhitespace sep = false) {p q : Text}
    (further : q ++ [sep] <+: p) (ps qs : List Text) : parts (p :: ps) ≠ trim q :: qs := by
  obtain ⟨notBlank, other⟩ := trim_of_prefix solid further
  intro same
  cases ps with
  | nil =>
    rw [parts, lastPart, if_neg notBlank] at same
    exact other (List.cons.inj same).1
  | cons p' ps =>
    rw [parts] at same
    exact other (List.cons.inj same).1

/-! ### Cutters -/

/-- **A cutter**: where it begins, whether it cuts at a character, and how it reads on with the
character behind it in view.  It cuts at separators only. -/
structure Cutter (σ : Type*) (sep : Char) where
  start : σ
  ends : σ → Char → Bool
  next : σ → Char → Option Char → σ
  at_sep : ∀ {s c}, ends s c = true → c = sep

namespace Cutter

/-- **The pieces of a text**; `piece` is what has been read of the first. -/
def cut (k : Cutter σ sep) : σ → Text → Text → List Text
  | _, piece, [] => [piece]
  | s, piece, c :: t =>
    if k.ends s c then piece :: k.cut k.start [] t
    else k.cut (k.next s c t.head?) (piece ++ [c]) t

/-- The state behind a character. -/
def after (k : Cutter σ sep) (s : σ) (c : Char) (following : Option Char) : σ :=
  if k.ends s c then k.start else k.next s c following

/-- **Two cutters cut a text at the same places.** -/
def agree (k : Cutter σ sep) (l : Cutter τ sep) : σ → τ → Text → Bool
  | _, _, [] => true
  | s, r, c :: t =>
    k.ends s c == l.ends r c && agree k l (k.after s c t.head?) (l.after r c t.head?) t

/-- The first piece begins with what has been read of it. -/
theorem exists_cut_cons (k : Cutter σ sep) (s : σ) (piece t : Text) :
    ∃ p rest, k.cut s piece t = p :: rest ∧ piece <+: p := by
  induction t generalizing s piece with
  | nil => exact ⟨piece, [], rfl, List.prefix_rfl⟩
  | cons c t ih =>
    rw [cut]
    split
    · exact ⟨piece, _, rfl, List.prefix_rfl⟩
    · obtain ⟨p, rest, whole, lead⟩ := ih (k.next s c t.head?) (piece ++ [c])
      exact ⟨p, rest, whole, (List.prefix_append _ _).trans lead⟩

theorem cut_ne_nil (k : Cutter σ sep) (s : σ) (piece t : Text) : k.cut s piece t ≠ [] := by
  obtain ⟨p, rest, whole, -⟩ := k.exists_cut_cons s piece t
  rw [whole]
  exact List.cons_ne_nil p rest

/-- Where one cutter goes on behind a separator and the other cuts, the parts differ. -/
theorem parts_cut_ne (solid : isWhitespace sep = false) (k : Cutter σ sep) (s : σ)
    (piece t : Text) (qs : List Text) (ne : qs ≠ []) :
    parts (k.cut s (piece ++ [sep]) t) ≠ parts (piece :: qs) := by
  obtain ⟨p, rest, whole, further⟩ := k.exists_cut_cons s (piece ++ [sep]) t
  rw [whole, parts_cons piece ne]
  exact parts_ne_of_further solid further rest _

/-- **Two cutters hand on the same parts just if they cut at the same places.** -/
theorem parts_cut_eq_iff (solid : isWhitespace sep = false) (k : Cutter σ sep) (l : Cutter τ sep)
    (s : σ) (r : τ) (piece t : Text) :
    parts (k.cut s piece t) = parts (l.cut r piece t) ↔ agree k l s r t = true := by
  induction t generalizing s r piece with
  | nil => exact iff_of_true rfl rfl
  | cons c t ih =>
    rw [cut, cut, agree, after, after]
    cases ended : k.ends s c <;> cases ended' : l.ends r c
    · simpa using ih (k.next s c t.head?) (l.next r c t.head?) (piece ++ [c])
    · obtain rfl := l.at_sep ended'
      simpa using parts_cut_ne solid k (k.next s c t.head?) piece t _ (l.cut_ne_nil l.start [] t)
    · obtain rfl := k.at_sep ended
      simpa using
        (parts_cut_ne solid l (l.next r c t.head?) piece t _ (k.cut_ne_nil k.start [] t)).symm
    · simp only [reduceIte, parts_cons _ (cut_ne_nil _ _ _ _), List.cons.injEq, true_and,
        BEq.rfl, Bool.true_and]
      exact ih k.start l.start []

end Cutter

end Text
