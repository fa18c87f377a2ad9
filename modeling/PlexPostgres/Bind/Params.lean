import Mathlib.Data.Nat.Digits.Defs
import PlexPostgres.Library.Text

/-!
# The parameters of a registered statement

`sqlite3_bind_*` on a statement routed to PostgreSQL leaves the value, as text, in a slot of the
statement: a number in a buffer the slot has of its own, anything else in memory of its own.
`sqlite3_step` sends what the slots point to.

A text or a blob comes with a destructor, which the shim calls itself, since real SQLite is not
asked.  What a bind does to the caller's buffer is kept in a log: each time bytes of it are
read, and each call of the destructor.
-/

namespace PlexPostgres.Bind

open Text

abbrev Bytes := List UInt8

/-! ### Values as text -/

def isContinuation (b : UInt8) : Bool := 0x80 ≤ b && b ≤ 0xBF

/-- The first two bytes of a character of three. -/
def leadsThree (a b : UInt8) : Bool :=
  (a = 0xE0 && 0xA0 ≤ b && b ≤ 0xBF) || (a = 0xED && 0x80 ≤ b && b ≤ 0x9F) ||
    (0xE1 ≤ a && a ≤ 0xEF && a ≠ 0xED && isContinuation b)

/-- The first two bytes of a character of four. -/
def leadsFour (a b : UInt8) : Bool :=
  (a = 0xF0 && 0x90 ≤ b && b ≤ 0xBF) || (a = 0xF4 && 0x80 ≤ b && b ≤ 0x8F) ||
    (0xF1 ≤ a && a ≤ 0xF3 && isContinuation b)

/-- Are the bytes UTF-8? -/
def isUtf8 : Bytes → Bool
  | [] => true
  | a :: rest =>
    if a < 0x80 then isUtf8 rest
    else
      match rest with
      | [] => false
      | b :: rest =>
        if 0xC2 ≤ a && a ≤ 0xDF && isContinuation b then isUtf8 rest
        else
          match rest with
          | [] => false
          | c :: rest =>
            if leadsThree a b && isContinuation c then isUtf8 rest
            else
              match rest with
              | [] => false
              | d :: rest =>
                leadsFour a b && isContinuation c && isContinuation d && isUtf8 rest

/-- `contains_binary_bytes`: a gzip header, a zero, or no UTF-8. -/
def containsBinaryBytes (b : Bytes) : Bool :=
  [0x1F, 0x8B].isPrefixOf b || b.contains 0 || !isUtf8 b

/-- Characters of ASCII as bytes. -/
def ascii (t : Text) : Bytes := t.map fun c => c.toNat.toUInt8

/-- `bytes_to_pg_hex`: PostgreSQL's text for bytes. -/
def bytesToPgHex (b : Bytes) : Bytes :=
  if b = [] then []
  else ascii ['\\', 'x'] ++
    b.flatMap fun byte => ascii [(byte.toNat / 16).digitChar, (byte.toNat % 16).digitChar]

example : bytesToPgHex [0x1F, 0x8B] = ascii ['\\', 'x', '1', 'f', '8', 'b'] := by decide

/-- `%lld`. -/
def decimal (n : ℤ) : Bytes :=
  ascii ((if n < 0 then ['-'] else []) ++ Nat.toDigits 10 n.natAbs)

/-- The 64-bit integers. -/
abbrev Int64Value := { n : ℤ // -2 ^ 63 ≤ n ∧ n < 2 ^ 63 }

/-- `PARAM_BUF_LEN`. -/
def paramBufLen : ℕ := 32

/-- **How a double is printed**, `%.17g`; the text and its zero fit a slot's buffer.  To SQLite a
double that is not a number is null. -/
structure Printer (δ : Type*) where
  print : δ → Bytes
  isNaN : δ → Bool
  fits : ∀ x, (print x).length < paramBufLen

/-- **A value** that SQLite binds. -/
inductive Value (δ : Type*) where
  | null
  | int (n : Int64Value)
  | double (x : δ)
  | text (t : Bytes)
  | blob (b : Bytes)
  deriving DecidableEq

/-- **A parameter** as PostgreSQL is sent it: null, a text, or whatever is found where the
pointer leads. -/
inductive Param where
  | null
  | text (t : Bytes)
  | wild
  deriving DecidableEq, Repr

variable {δ : Type*} (printer : Printer δ)

/-- The text of a text: its bytes in hexadecimal if it is binary. -/
def textParam (t : Bytes) : Bytes := if containsBinaryBytes t then bytesToPgHex t else t

/-- **The parameter a value should be sent as.** -/
def Value.param : Value δ → Param
  | .null => .null
  | .int n => .text (decimal n)
  | .double x => if printer.isNaN x then .null else .text (printer.print x)
  | .text t => .text (textParam t)
  | .blob b => .text (bytesToPgHex b)

/-! ### Slots -/

/-- **Where a slot points**: nowhere, to memory of its own, to memory of its own with contents
that are nobody's, or to the slot's buffer. -/
inductive Slot where
  | null
  | heap (t : Bytes)
  | wild
  | buffer (t : Bytes)
  deriving DecidableEq, Repr

/-- What is sent for it. -/
def Slot.param : Slot → Param
  | .null => .null
  | .heap t | .buffer t => .text t
  | .wild => .wild

/-- `snprintf` into the slot's buffer. -/
def Slot.print (t : Bytes) : Slot := .buffer (t.take (paramBufLen - 1))

/-- **The parameters of a statement**: its SQL, the names of its parameters (none if the
translation gave none), and a slot for each. -/
structure Params where
  sql : Text
  names : List (Option Text)
  slots : List Slot
  named : names = [] ∨ names.length = slots.length

/-- Parameters without names. -/
def Params.unnamed (sql : Text) (slots : List Slot) : Params := ⟨sql, [], slots, .inl rfl⟩

/-- What a bind meets: `BYPASS_UUID_INTERCEPT`, the names of the parameters by
`sqlite3_bind_parameter_name`, and the server's own identifier. -/
structure BindEnv where
  bypass : Bool
  paramName : ℤ → Option Text
  machineIdentifier : Bytes

/-- The parameters have no names. -/
def BindEnv.unnamed : BindEnv := ⟨false, fun _ => none, []⟩

/-- What a bind answers. -/
inductive BindRc where
  | ok
  | range
  deriving DecidableEq, Repr

namespace Params

variable (p : Params)

/-- A name without the colon before it. -/
def cleanName : Text → Text
  | ':' :: t => t
  | t => t

/-- `pg_map_param_index`, from SQLite's index; −1 is none. -/
def pgMapParamIndex (env : BindEnv) (idx : ℤ) : ℤ :=
  if p.names = [] then idx - 1
  else
    match if 0 < idx ∧ idx ≤ p.names.length then (p.names[(idx - 1).toNat]?).join
      else env.paramName idx with
    | none => idx - 1
    | some name =>
      match p.names.idxOf? (some (cleanName name)) with
      | some i => i
      | none => -1

/-- **The slot of a parameter**, `mapped_param_index`. -/
def mappedParamIndex (env : BindEnv) (idx : ℤ) : Option ℕ :=
  if idx ≤ 0 || p.slots = [] then none
  else
    let i := p.pgMapParamIndex env idx
    if i < 0 ∨ p.slots.length ≤ i.toNat then none else some i.toNat

/-- `routed_bind_rc`. -/
def routedBindRc (env : BindEnv) (idx : ℤ) : BindRc :=
  if idx ≤ 0 then .range
  else if (p.mappedParamIndex env idx).isSome then .ok
  else .range

/-- Fill a slot; what it held is freed first. -/
def setSlot (i : ℕ) (slot : Slot) : Params :=
  { p with
    slots := p.slots.set i slot
    named := by rw [List.length_set]; exact p.named }

/-- Fill the slot of a parameter, if it has one. -/
def store (env : BindEnv) (idx : ℤ) (slot : Slot) : Params :=
  match p.mappedParamIndex env idx with
  | some i => p.setSlot i slot
  | none => p

/-! ### Binds without a buffer -/

/-- `sqlite3_bind_int` and `sqlite3_bind_int64`. -/
def bindInt (env : BindEnv) (idx : ℤ) (n : Int64Value) : BindRc × Params :=
  (p.routedBindRc env idx, p.store env idx (.print (decimal n)))

/-- `sqlite3_bind_double`. -/
def bindDouble (env : BindEnv) (idx : ℤ) (x : δ) : BindRc × Params :=
  (p.routedBindRc env idx, p.store env idx (.print (printer.print x)))

/-- `sqlite3_bind_null`. -/
def bindNull (env : BindEnv) (idx : ℤ) : BindRc × Params :=
  (p.routedBindRc env idx, p.store env idx .null)

/-- `store_sqlite_value_param`.  A text ends at its first zero.  The bytes of a blob are kept as
they are; they are sent as a text, which ends at a zero too, if there is one among them. -/
def valueSlot : Value δ → Slot
  | .null => .null
  | .int n => .heap (decimal n)
  | .double x => .heap (printer.print x)
  | .text t => .heap (t.takeWhile (· ≠ 0))
  | .blob b =>
    if b = [] then .null
    else if b.contains 0 then .heap (b.takeWhile (· ≠ 0))
    else .wild

/-- `sqlite3_bind_value`. -/
def bindValue (env : BindEnv) (idx : ℤ) (v : Value δ) : BindRc × Params :=
  (p.routedBindRc env idx, p.store env idx (valueSlot printer v))

end Params

/-! ### Binds with a buffer -/

/-- The destructor of a bind.  A caller's own does what it likes with the buffer it is given:
it may overwrite it, or release it. -/
inductive Destructor where
  | static
  | transient
  | custom (behaviour : Bytes → Option Bytes)

/-- The buffer a pointer leads to: the caller's, or one of the shim's. -/
inductive Pointer where
  | caller
  | shim
  deriving DecidableEq, Repr

/-- What is done with a buffer. -/
inductive Touch where
  | read (ptr : Pointer)
  | destroyed (ptr : Pointer)
  deriving DecidableEq, Repr

/-- The encoding of a text that is bound: UTF-8, or UTF-16, with the UTF-8 that SQLite makes of a
buffer and its length. -/
inductive Encoding where
  | utf8
  | utf16 (decode : Bytes → Option ℕ → Bytes)

/-- **The four binds with a buffer**, and their length: negative, or all ones in 64 bits, if a
text ends at its first zero.  The shim does not look at the encoding. -/
inductive Buffered where
  | text (nBytes : ℤ)
  | text64 (nBytes : ℕ) (encoding : Encoding)
  | blob (nBytes : ℤ)
  | blob64 (nBytes : ℕ)

namespace Buffered

/-- The length, none up to the first zero.  A blob's is read without its sign. -/
def length : Buffered → Option ℕ
  | .text n => if n < 0 then none else some n.toNat
  | .text64 n _ => if n = 2 ^ 64 - 1 then none else some n
  | .blob n => some (n % 2 ^ 64).toNat
  | .blob64 n => some n

def isText : Buffered → Bool
  | .text _ | .text64 .. => true
  | .blob _ | .blob64 _ => false

/-- `sqlite3_bind_text` writes its value to the log. -/
def logs : Buffered → Bool
  | .text _ => true
  | .text64 .. | .blob _ | .blob64 _ => false

end Buffered

/-- **The bytes found in a buffer**, none if it is not there or ends before them. -/
def readBytes (buffer : Option Bytes) : Option ℕ → Option Bytes
  | some 0 => some []
  | some n => buffer.bind fun b => if n ≤ b.length then some (b.take n) else none
  | none => buffer.bind fun b => if b.contains 0 then some (b.takeWhile (· ≠ 0)) else none

/-- Reading them, unless there are none to read. -/
def reading (ptr : Pointer) (length : Option ℕ) : List Touch :=
  if length = some 0 then [] else [.read ptr]

/-- `invoke_destructor_if_custom`: what is left of the buffer. -/
def invokeDestructorIfCustom (ptr : Pointer) (buffer : Bytes) :
    Destructor → Option Bytes × List Touch
  | .static | .transient => (some buffer, [])
  | .custom behaviour => (behaviour buffer, [.destroyed ptr])

/-- `store_text_param` and `store_blob_hex_param`: the slot for what is found in the buffer. -/
def bufferSlot (isText : Bool) (buffer : Option Bytes) (length : Option ℕ) : Slot :=
  match readBytes buffer length with
  | none => .wild
  | some b => .heap (if isText then textParam b else bytesToPgHex b)

/-- **The outcome of a bind**: the answer, the slots, and what was done with the buffer. -/
structure Bound where
  rc : BindRc
  params : Params
  log : List Touch

namespace Params

variable (p : Params)

/-- Is the parameter one for a device's identifier, by its name or by the SQL? -/
def isIdentifier (env : BindEnv) (idx : ℤ) : Bool :=
  match env.paramName idx with
  | some name => contains "identifier".toList (toLowercase name)
  | none =>
    contains "where identifier".toList (toLowercase p.sql) ||
      (contains "select".toList (toLowercase p.sql) && idx = 1)

/-- A text on a statement about devices is looked at. -/
def looksAtDevices (env : BindEnv) : Bool := !env.bypass && contains "devices".toList p.sql

/-- **An empty identifier** of a device is replaced with the server's own. -/
def intercepts (env : BindEnv) (idx : ℤ) (bind : Buffered) (buffer : Bytes) : Bool :=
  bind.isText && p.looksAtDevices env &&
    ((bind.length.getD (buffer.takeWhile (· ≠ 0)).length) = 0) && p.isIdentifier env idx

/-- The SQL of statements whose texts are written to the log. -/
def isLogged : Bool :=
  contains "devices".toList p.sql || contains "library_sections".toList p.sql ||
    contains "plugins".toList p.sql

/-- **A bind with a buffer.**  The destructor is called before the value is stored. -/
def bindBuffer (env : BindEnv) (idx : ℤ) (bind : Buffered) (val : Option Bytes)
    (destructor : Destructor) : Bound :=
  match val with
  -- A null pointer binds null, and nothing is destroyed.
  | none => ⟨p.routedBindRc env idx, p.store env idx .null, []⟩
  | some caller =>
    let measured := if bind.isText && p.looksAtDevices env && bind.length = none
      then [.read .caller] else []
    let (ptr, buffer, length) := if p.intercepts env idx bind caller
      then (.shim, env.machineIdentifier, some env.machineIdentifier.length)
      else (.caller, caller, bind.length)
    let logged := if bind.logs && p.isLogged then reading ptr length else []
    let (left, destroyed) := invokeDestructorIfCustom ptr buffer destructor
    match p.mappedParamIndex env idx with
    | none => ⟨p.routedBindRc env idx, p, measured ++ logged ++ destroyed⟩
    | some i =>
      ⟨p.routedBindRc env idx, p.setSlot i (bufferSlot bind.isText left length),
        measured ++ logged ++ destroyed ++ reading ptr length⟩

/-- `sqlite3_bind_text`. -/
def bindText (env : BindEnv) (idx : ℤ) (val : Option Bytes) (nBytes : ℤ)
    (destructor : Destructor) : Bound :=
  p.bindBuffer env idx (.text nBytes) val destructor

/-- `sqlite3_bind_text64`. -/
def bindText64 (env : BindEnv) (idx : ℤ) (val : Option Bytes) (nBytes : ℕ)
    (destructor : Destructor) (encoding : Encoding) : Bound :=
  p.bindBuffer env idx (.text64 nBytes encoding) val destructor

/-- `sqlite3_bind_blob`. -/
def bindBlob (env : BindEnv) (idx : ℤ) (val : Option Bytes) (nBytes : ℤ)
    (destructor : Destructor) : Bound :=
  p.bindBuffer env idx (.blob nBytes) val destructor

/-- `sqlite3_bind_blob64`. -/
def bindBlob64 (env : BindEnv) (idx : ℤ) (val : Option Bytes) (nBytes : ℕ)
    (destructor : Destructor) : Bound :=
  p.bindBuffer env idx (.blob64 nBytes) val destructor

/-! ### The other calls -/

/-- What `sqlite3_reset` leaves of a slot: memory of its own is freed, a number stays. -/
def resetSlot : Slot → Slot
  | .heap _ | .wild | .null => .null
  | .buffer t => .buffer t

/-- `sqlite3_reset`, as far as the parameters go. -/
def reset : Params :=
  { p with
    slots := p.slots.map resetSlot
    named := by rw [List.length_map]; exact p.named }

/-- `sqlite3_clear_bindings`. -/
def clearBindings : Params :=
  { p with
    slots := p.slots.map fun _ => .null
    named := by rw [List.length_map]; exact p.named }

/-- **The parameters that are sent** with the statement. -/
def sent : List Param := p.slots.map Slot.param

end Params

end PlexPostgres.Bind
