import PlexPostgres.Library.Noise
import PlexPostgres.Txn.Plan

/-!
# Recognising transaction control

`classify_sql` decides whether a statement Plex prepared is transaction control,
and which.  It looks at the text word by word: leading noise and trailing
semicolons go, the rest is split at white space, and the words are compared with
SQLite's keywords in any case.

`classifyWords` is that comparison; `classifySql` puts the text handling in front
of it.  Savepoint names keep the case they were written in.
-/

namespace PlexPostgres.Txn

open Text

/-- Leading white space and comments go; an unclosed block comment goes whole. -/
def stripLeadingNoise (sql : Text) : Text :=
  skipNoise isAsciiWhitespace (fun _ => []) .blank sql

/-- May a character stand in a savepoint name? -/
def isNameChar (c : Char) : Bool := c.isAlphanum || c == '_' || c == '$'

/-- `t` between the characters `first` and `last`. -/
def isQuotedBy (first last : Char) (t : Text) : Bool :=
  t.head? == some first && t.getLast? == some last && 2 ≤ t.length

/-- **A savepoint name** as SQLite accepts it: an identifier, bare or quoted. -/
def savepointName (token : Text) : Option Text :=
  let t := trim (trimEndMatches ';' (trim token))
  let unquoted :=
    if isQuotedBy doubleQuote doubleQuote t || isQuotedBy singleQuote singleQuote t ||
        isQuotedBy backQuote backQuote t || isQuotedBy '[' ']' t then
      t.tail.dropLast
    else t
  if unquoted.isEmpty || !unquoted.all isNameChar then none else some unquoted

/-- The words `BEGIN` may be followed by. -/
def beginWords : List Text :=
  [Keyword.deferred.text, Keyword.immediate.text, Keyword.exclusive.text, Keyword.transaction.text]

/-- `ROLLBACK [TRANSACTION] [TO [SAVEPOINT] name]`, the first word known. -/
def classifyRollback (words : List Text) : Option TxnCmd :=
  let rest := (words.map asciiLower).tail
  let rest := if rest.head? = some Keyword.transaction.text then rest.tail else rest
  if rest = [] then some .rollback
  else if rest.head? ≠ some Keyword.toWord.text then none
  else
    let idx := if rest[1]? = some Keyword.savepoint.text then 3 else 2
    let nameIdx := words.length - rest.length + idx - 1
    -- Names keep their case: the original words are used.
    words[nameIdx]?.bind fun word =>
      (savepointName word).bind fun name =>
        if words.length = nameIdx + 1 then some (.rollbackTo name) else none

/-- `RELEASE [SAVEPOINT] name`, the first word known. -/
def classifyRelease (words : List Text) : Option TxnCmd :=
  let nameIdx := if (words.map asciiLower)[1]? = some Keyword.savepoint.text then 2 else 1
  if words.length ≠ nameIdx + 1 then none
  else words[nameIdx]?.bind fun word => (savepointName word).map .release

/-- **What transaction control a list of words is**, or none for anything else. -/
def classifyWords : List Text → Option TxnCmd
  | [] => none
  | word :: words =>
    let first := asciiLower word
    if first = Keyword.begin.text then
      -- BEGIN [DEFERRED|IMMEDIATE|EXCLUSIVE] [TRANSACTION]
      if (words.map asciiLower).all (· ∈ beginWords) then some .begin else none
    else if first = Keyword.commit.text ∨ first = Keyword.endWord.text then
      -- COMMIT [TRANSACTION] / END [TRANSACTION]
      if (words.map asciiLower).all (· = Keyword.transaction.text) then some .commit else none
    else if first = Keyword.rollback.text then classifyRollback (word :: words)
    else if first = Keyword.savepoint.text then
      -- SAVEPOINT name
      if (word :: words).length ≠ 2 then none
      else words.head?.bind fun name => (savepointName name).map .savepoint
    else if first = Keyword.release.text then classifyRelease (word :: words)
    else none

/-- The text `classify_sql` splits into words. -/
def classifyBody (sql : Text) : Text :=
  trim (trimEndMatches ';' (trim (stripLeadingNoise sql)))

/-- **What transaction control `sql` is**, or none for any other statement. -/
def classifySql (sql : Text) : Option TxnCmd := classifyWords (splitWhitespace (classifyBody sql))

example :
    classifySql "ROLLBACK TRANSACTION TO [sp1]".toList = some (.rollbackTo "sp1".toList) := by
  decide

end PlexPostgres.Txn
