import PlexPostgres.Library.Noise
import PlexPostgres.Txn.Plan

/-!
# SQLite's transactions

What the program in front of the shim expects: SQLite's own notion of an open
transaction, and the texts SQLite reads as transaction control.
-/

namespace PlexPostgres.Sqlite

open Text Txn

/-! ### The machine -/

/-- **SQLite's transaction state.**  A savepoint set with no transaction open opens
one, which is not explicit. -/
@[ext]
structure Transaction where
  explicit : Bool
  savepoints : List Text
  deriving DecidableEq, Repr

namespace Transaction

/-- Nothing open. -/
def none : Transaction := ⟨false, []⟩

def isOpen (s : Transaction) : Bool := s.explicit || !s.savepoints.isEmpty

/-- Do two savepoint names mean the same savepoint? -/
def sameName (n m : Text) : Bool := asciiLower n == asciiLower m

/-- **One command.**  BEGIN in an open transaction, COMMIT and ROLLBACK outside one
and a name that is not on the stack are errors that change nothing.  Releasing the
last savepoint of a transaction that is not explicit leaves nothing open: it
commits. -/
def step (s : Transaction) : TxnCmd → Transaction
  | .begin => if s.isOpen then s else ⟨true, []⟩
  | .commit | .rollback => none
  | .savepoint n => { s with savepoints := s.savepoints ++ [n] }
  | .release n =>
    match Stack.innermost (sameName n) s.savepoints with
    | .none => s
    | some (below, _) => { s with savepoints := below }
  | .rollbackTo n =>
    match Stack.innermost (sameName n) s.savepoints with
    | .none => s
    | some (below, found) => { s with savepoints := below ++ [found] }

end Transaction

/-! ### The words of a statement -/

/-- The ways to quote an identifier. -/
inductive Quote where
  | double
  | single
  | back
  | bracket
  deriving DecidableEq, Repr

namespace Quote

def first : Quote → Char
  | double => doubleQuote
  | single => singleQuote
  | back => backQuote
  | bracket => '['

def last : Quote → Char
  | double => doubleQuote
  | single => singleQuote
  | back => backQuote
  | bracket => ']'

end Quote

/-- A token of a transaction-control statement: a keyword or bare name, or a name
in quotes. -/
inductive Word where
  | bare (text : Text)
  | quoted (quote : Quote) (text : Text)
  deriving DecidableEq, Repr

namespace Word

/-- The name a word denotes. -/
def text : Word → Text
  | bare t => t
  | quoted _ t => t

/-- How a word is written; a quotation mark inside quotes is written twice, except
in brackets. -/
def render : Word → Text
  | bare t => t
  | quoted .bracket t => '[' :: (t ++ [']'])
  | quoted q t => q.first :: ((t.flatMap fun c => if c = q.last then [c, c] else [c]) ++ [q.last])

/-- A keyword, in any case. -/
def Is (keyword : Keyword) : Word → Prop
  | bare t => asciiLower t = keyword.text
  | quoted _ _ => False

instance (keyword : Keyword) : DecidablePred (Is keyword)
  | bare t => inferInstanceAs (Decidable (asciiLower t = keyword.text))
  | quoted _ _ => inferInstanceAs (Decidable False)

/-- A character of a bare identifier. -/
def isIdentChar (c : Char) : Bool := c.isAlphanum || c == '_' || c == '$' || 0x80 ≤ c.toNat

/-- What SQLite's tokenizer reads as one token: an identifier does not begin with a
digit or a dollar sign, and a closing bracket ends a bracketed name. -/
def Valid : Word → Prop
  | bare t => t ≠ [] ∧ (∀ c ∈ t, isIdentChar c = true) ∧
      ∀ c ∈ t.head?, c.isDigit = false ∧ c ≠ '$'
  | quoted .bracket t => ']' ∉ t
  | quoted _ _ => True

instance : DecidablePred Valid
  | bare t => decidable_of_iff (t ≠ [] ∧ t.all isIdentChar = true ∧
      t.head?.all (fun c => !c.isDigit && c != '$') = true) (by cases t <;> simp [Valid])
  | quoted .bracket t => inferInstanceAs (Decidable (']' ∉ t))
  | quoted .double _ | quoted .single _ | quoted .back _ => isTrue trivial

/-- Is a word written in quotes? -/
def isQuoted : Word → Bool
  | bare _ => false
  | quoted _ _ => true

end Word

/-- `[TRANSACTION [name]]`. -/
inductive TransOpt : List Word → Prop
  | none : TransOpt []
  | word (w : Word) : w.Is .transaction → TransOpt [w]
  | named (w name : Word) : w.Is .transaction → ¬ name.Is .toWord →
      TransOpt [w, name]

/-- **SQLite's grammar of transaction control.** -/
inductive Command : List Word → TxnCmd → Prop
  | begin (b : Word) (trans : List Word) : b.Is .begin → TransOpt trans →
      Command (b :: trans) .begin
  | beginMode (b mode : Word) (trans : List Word) : b.Is .begin →
      (mode.Is .deferred ∨ mode.Is .immediate ∨ mode.Is .exclusive) →
      TransOpt trans → Command (b :: mode :: trans) .begin
  | commit (c : Word) (trans : List Word) : (c.Is .commit ∨ c.Is .endWord) →
      TransOpt trans → Command (c :: trans) .commit
  | rollback (r : Word) (trans : List Word) : r.Is .rollback → TransOpt trans →
      Command (r :: trans) .rollback
  | rollbackTo (r : Word) (trans : List Word) (toward name : Word) : r.Is .rollback →
      TransOpt trans → toward.Is .toWord → ¬ name.Is .savepoint →
      Command (r :: (trans ++ [toward, name])) (.rollbackTo name.text)
  | rollbackToSavepoint (r : Word) (trans : List Word) (toward sp name : Word) :
      r.Is .rollback → TransOpt trans → toward.Is .toWord → sp.Is .savepoint →
      Command (r :: (trans ++ [toward, sp, name])) (.rollbackTo name.text)
  | savepoint (s name : Word) : s.Is .savepoint →
      Command [s, name] (.savepoint name.text)
  | release (r name : Word) : r.Is .release → ¬ name.Is .savepoint →
      Command [r, name] (.release name.text)
  | releaseSavepoint (r sp name : Word) : r.Is .release → sp.Is .savepoint →
      Command [r, sp, name] (.release name.text)

/-! ### Statements as text -/

/-- Something stands between two bare words; quotation marks separate by themselves. -/
def Separated : Word → List (Text × Word) → Prop
  | _, [] => True
  | w, (gap, next) :: rest =>
    (gap = [] → w.isQuoted = true ∨ next.isQuoted = true) ∧ Separated next rest

/-- What may follow a statement: semicolons and noise, the last comment open or not. -/
inductive Trailing : Text → Prop
  | nil : Trailing []
  | semicolon (t : Text) : Trailing t → Trailing (';' :: t)
  | noise (n t : Text) : Noise n → Trailing t → Trailing (n ++ t)
  | openLine (l : Text) : '\n' ∉ l → Trailing ('-' :: '-' :: l)
  | openBlock (b : Text) : ¬ ['*', '/'] <:+: b → Trailing ('/' :: '*' :: b)

/-- **A transaction-control statement, as text**: the first word with the noise
before it, each further word with the noise between it and the one before, and
what follows the last. -/
structure ControlStatement where
  lead : Text
  first : Word
  rest : List (Text × Word)
  tail : Text
  cmd : TxnCmd
  lead_noise : Noise lead
  gap_noise : ∀ piece ∈ rest, Noise piece.1
  separated : Separated first rest
  trailing : Trailing tail
  valid : ∀ w ∈ first :: rest.map Prod.snd, w.Valid
  grammar : Command (first :: rest.map Prod.snd) cmd

namespace ControlStatement

def words (s : ControlStatement) : List Word := s.first :: s.rest.map Prod.snd

/-- The words from the first on, with the noise between them. -/
def body (first : Word) : List (Text × Word) → Text
  | [] => first.render
  | (gap, w) :: rest => first.render ++ gap ++ body w rest

def sql (s : ControlStatement) : Text := s.lead ++ body s.first s.rest ++ s.tail

/-- Two bare words with a space between them. -/
def pair (first second : Text) (cmd : TxnCmd)
    (valid : ∀ w ∈ [Word.bare first, Word.bare second], w.Valid)
    (grammar : Command [.bare first, .bare second] cmd) : ControlStatement where
  lead := []
  first := .bare first
  rest := [(" ".toList, .bare second)]
  tail := []
  cmd := cmd
  lead_noise := .nil
  gap_noise := by simpa using Noise.blank ' ' [] rfl .nil
  separated := ⟨fun empty => absurd empty (by decide), trivial⟩
  trailing := .nil
  valid := valid
  grammar := grammar

end ControlStatement

end PlexPostgres.Sqlite
