import PlexPostgres.Bind.Params
import PlexPostgres.Library.Runs

/-!
# The parameters sent are the values bound

To SQLite a statement has a value for each parameter: the one bound last since the bindings
were cleared, and null before that.  `sqlite3_reset` is not about them.  What PostgreSQL is sent
at a step should be those values.

The slots of a statement follow the bindings bind by bind.  They part from them at a reset, which
forgets every value that is not a number in its slot's buffer; and at a few binds: a value that
is bound with `sqlite3_bind_value` is not stored as one bound by its own kind, an empty
identifier of a device is replaced, a double that is not a number is stored as a text, and so is
UTF-16 as if it were UTF-8.  Four binds are not the shim's at all: they reach SQLite alone.
-/

namespace PlexPostgres.Bind

variable {δ : Type*}

/-! ### What SQLite has bound -/

/-- **The values of the parameters**, by their index from 1 on. -/
abbrev Bindings (δ : Type*) := ℤ → Value δ

/-- **The binds that the shim has no function for.**  A pointer is null to SQL. -/
inductive Uninterposed where
  | zeroblob (n : ℤ)
  | zeroblob64 (n : ℕ)
  | text16 (val : Option Bytes) (nBytes : ℤ) (decode : Bytes → Option ℕ → Bytes)
  | pointer

/-- **A call** on a registered statement. -/
inductive Call (δ : Type*) where
  | bindInt (idx : ℤ) (n : Int64Value)
  | bindDouble (idx : ℤ) (x : δ)
  | bindNull (idx : ℤ)
  | bindValue (idx : ℤ) (v : Value δ)
  | bindBuffer (idx : ℤ) (bind : Buffered) (val : Option Bytes) (destructor : Destructor)
  | uninterposed (idx : ℤ) (bind : Uninterposed)
  | reset
  | clearBindings
  | step

def Buffered.encoding : Buffered → Encoding
  | .text64 _ encoding => encoding
  | .text _ | .blob _ | .blob64 _ => .utf8

/-- The value a buffer holds, if it is as long as the caller says. -/
def Buffered.value (bind : Buffered) (val : Option Bytes) : Option (Value δ) :=
  match val, bind.encoding with
  | none, _ => some .null
  | some buffer, .utf16 decode => some (.text (decode buffer bind.length))
  | some _, .utf8 =>
    (readBytes val bind.length).map fun b => if bind.isText then .text b else .blob b

def Uninterposed.value : Uninterposed → Value δ
  | .zeroblob n => .blob (List.replicate n.toNat 0)
  | .zeroblob64 n => .blob (List.replicate n 0)
  | .text16 (some buffer) n decode => .text (decode buffer (if n < 0 then none else some n.toNat))
  | .text16 none _ _ | .pointer => .null

/-- What a bind binds, and to which parameter. -/
def Call.bound (printer : Printer δ) : Call δ → Option (ℤ × Value δ)
  | .bindInt idx n => some (idx, .int n)
  | .bindDouble idx x => some (idx, if printer.isNaN x then .null else .double x)
  | .bindNull idx => some (idx, .null)
  | .bindValue idx v => some (idx, v)
  | .bindBuffer idx bind val _ => (bind.value val).map (idx, ·)
  | .uninterposed idx bind => some (idx, bind.value)
  | .reset | .clearBindings | .step => none

/-- **The bindings after a call**, of a statement with `count` parameters.  A bind to a
parameter there is not changes nothing. -/
def Bindings.after (printer : Printer δ) (count : ℕ) (values : Bindings δ) (call : Call δ) :
    Bindings δ :=
  match call, call.bound printer with
  | .clearBindings, _ => fun _ => .null
  | _, some (idx, v) => if 1 ≤ idx ∧ idx ≤ count then Function.update values idx v else values
  | _, none => values

/-! ### The slots -/

/-- The slots after a call. -/
def Params.after (printer : Printer δ) (env : BindEnv) (p : Params) : Call δ → Params
  | .bindInt idx n => (p.bindInt env idx n).2
  | .bindDouble idx x => (p.bindDouble printer env idx x).2
  | .bindNull idx => (p.bindNull env idx).2
  | .bindValue idx v => (p.bindValue printer env idx v).2
  | .bindBuffer idx bind val destructor => (p.bindBuffer env idx bind val destructor).params
  | .reset => p.reset
  | .clearBindings => p.clearBindings
  | .uninterposed .. | .step => p

/-- **The names lead each parameter to its own slot**: no two slots have one name, none begins
with a colon, and no parameter past them has the name of one. -/
structure Numbered (env : BindEnv) (names : List (Option Text)) : Prop where
  distinct : ∀ (i j : ℕ) (name : Text), names[i]? = some (some name) →
    names[j]? = some (some name) → i = j
  plain : ∀ name, some name ∈ names → Params.cleanName name = name
  past : ∀ (idx : ℤ) (name : Text), names.length < idx → env.paramName idx = some name →
    some (Params.cleanName name) ∉ names

/-- **A statement's slots beside its bindings.** -/
structure Binding (δ : Type*) where
  params : Params
  values : Bindings δ

/-- A call is made. -/
def Binding.next (printer : Printer δ) (env : BindEnv) (b : Binding δ) (call : Call δ) :
    Binding δ where
  params := b.params.after printer env call
  values := b.values.after printer b.params.slots.length call

/-- **The condition on a call.**  A double is a number.  A value bound with `sqlite3_bind_value` is
no blob and no binary text.  A buffer is as long as the caller says, its text is UTF-8 and is not
replaced, and what its destructor leaves reads the same.  A bind that the shim has no function for
is to no parameter of the statement.  A reset finds no parameter with a text, a blob, or anything
else in memory of its own. -/
def Call.Kept (printer : Printer δ) (env : BindEnv) (b : Binding δ) : Call δ → Prop
  | .bindValue _ (.blob _) => False
  | .bindValue _ (.text t) => containsBinaryBytes t = false
  | .bindDouble _ x | .bindValue _ (.double x) => printer.isNaN x = false
  | .bindBuffer idx bind (some buffer) destructor =>
    bind.encoding = .utf8 ∧
    (readBytes (some buffer) bind.length).isSome = true ∧
    b.params.intercepts env idx bind buffer = false ∧
    readBytes (invokeDestructorIfCustom .caller buffer destructor).1 bind.length =
      readBytes (some buffer) bind.length
  | .reset => ∀ slot ∈ b.params.slots, Params.resetSlot slot = slot
  | .uninterposed idx _ => ¬(1 ≤ idx ∧ idx ≤ b.params.slots.length)
  | .bindValue _ .null | .bindValue _ (.int _) | .bindInt _ _ | .bindNull _ => True
  | .bindBuffer _ _ none _ | .clearBindings | .step => True

/-! ### The slot of a parameter -/

namespace Params

variable (p : Params) {env : BindEnv}

theorem length_names (named : p.names ≠ []) : p.names.length = p.slots.length :=
  p.named.resolve_left named

/-- A parameter with a slot has the slot of its own place. -/
theorem pgMapParamIndex_within (numbered : Numbered env p.names) {idx : ℤ} (positive : 1 ≤ idx)
    (within : idx ≤ p.slots.length) : p.pgMapParamIndex env idx = idx - 1 := by
  unfold pgMapParamIndex
  split
  · rfl
  next named =>
    rw [if_pos ⟨by omega, by rw [p.length_names named]; exact within⟩]
    cases there : p.names[(idx - 1).toNat]? with
    | none => rfl
    | some name =>
      cases name with
      | none => rfl
      | some name =>
        simp only [Option.join_some, numbered.plain name (List.mem_of_getElem? there)]
        cases found : p.names.idxOf? (some name) with
        | none => exact absurd (List.mem_of_getElem? there) (List.idxOf?_eq_none_iff.mp found)
        | some i =>
          obtain ⟨small, same, -⟩ := List.idxOf?_eq_some_iff.mp found
          have here := numbered.distinct i (idx - 1).toNat name
            (List.getElem?_eq_some_iff.mpr ⟨small, same⟩) there
          dsimp only
          omega

/-- A parameter past the slots has none. -/
theorem pgMapParamIndex_past (numbered : Numbered env p.names) {idx : ℤ}
    (past : p.slots.length < idx) :
    p.pgMapParamIndex env idx < 0 ∨ p.slots.length ≤ (p.pgMapParamIndex env idx).toNat := by
  unfold pgMapParamIndex
  split
  · exact .inr (by omega)
  next named =>
    have length := p.length_names named
    rw [if_neg (by omega)]
    cases name : env.paramName idx with
    | none => exact .inr (by dsimp only; omega)
    | some name' =>
      have missing := numbered.past idx name' (by omega) name
      rw [← List.idxOf?_eq_none_iff] at missing
      simp only [missing]
      exact .inl (by decide)

/-- **A parameter is led to its own slot.** -/
theorem mappedParamIndex_of_numbered (numbered : Numbered env p.names) (idx : ℤ) :
    p.mappedParamIndex env idx =
      if 1 ≤ idx ∧ idx ≤ p.slots.length then some (idx - 1).toNat else none := by
  unfold mappedParamIndex
  by_cases positive : 1 ≤ idx
  · by_cases within : idx ≤ p.slots.length
    · have some_ : p.slots ≠ [] := by
        intro nothing
        rw [nothing] at within
        exact absurd within (by simp; omega)
      have nonempty : ¬(idx ≤ 0 || decide (p.slots = [])) = true := by simp [some_]; omega
      have inside : ¬(idx - 1 < 0 ∨ p.slots.length ≤ (idx - 1).toNat) := by omega
      have both : 1 ≤ idx ∧ idx ≤ p.slots.length := ⟨positive, within⟩
      rw [if_neg nonempty, if_pos both]
      dsimp only
      rw [p.pgMapParamIndex_within numbered positive within, if_neg inside]
    · have outside : ¬(1 ≤ idx ∧ idx ≤ p.slots.length) := fun both => within both.2
      rw [if_neg outside]
      split
      · rfl
      · exact if_pos (p.pgMapParamIndex_past numbered (by omega))
  · rw [if_pos (by simp; omega), if_neg (fun both => positive both.1)]

/-- A bind whose text is not replaced stores what is left in the caller's buffer. -/
theorem bindBuffer_params (env : BindEnv) {idx : ℤ} {bind : Buffered} {buffer : Bytes}
    (own : p.intercepts env idx bind buffer = false) (destructor : Destructor) :
    (p.bindBuffer env idx bind (some buffer) destructor).params =
      p.store env idx (bufferSlot bind.isText
        (invokeDestructorIfCustom .caller buffer destructor).1 bind.length) := by
  simp only [bindBuffer, own, Bool.false_eq_true, if_false, store]
  cases p.mappedParamIndex env idx <;> rfl

end Params

/-! ### The texts of values -/

/-- A 64-bit integer fits a slot's buffer. -/
theorem length_decimal (n : Int64Value) : (decimal n).length < paramBufLen := by
  obtain ⟨n, low, high⟩ := n
  have digits : (Nat.toDigits 10 n.natAbs).length ≤ 20 :=
    Nat.toDigits_length 10 n.natAbs 20 (by decide) (by omega)
  simp only [decimal, ascii, List.length_map, List.length_append, paramBufLen]
  split
  · rw [List.length_singleton]
    omega
  · rw [List.length_nil]
    omega

theorem param_print {t : Bytes} (fits : t.length < paramBufLen) :
    (Slot.print t).param = .text t := by
  rw [Slot.print, List.take_of_length_le (by omega)]
  rfl

/-- A value that is bound as it is. -/
theorem param_valueSlot (printer : Printer δ) {v : Value δ} (notBlob : ∀ b, v ≠ .blob b)
    (number : ∀ x, v = .double x → printer.isNaN x = false)
    (plain : ∀ t, v = .text t → containsBinaryBytes t = false) :
    (Params.valueSlot printer v).param = v.param printer := by
  cases v with
  | null | int => rfl
  | double x => rw [Value.param, number x rfl]; rfl
  | blob b => exact absurd rfl (notBlob b)
  | text t =>
    have plain := plain t rfl
    have nonzero : t.takeWhile (· ≠ 0) = t := by
      simp only [containsBinaryBytes, Bool.or_eq_false_iff, List.contains_eq_mem,
        decide_eq_false_iff_not] at plain
      rw [List.takeWhile_eq_self_iff]
      intro b mem
      refine decide_eq_true fun zero => ?_
      rw [zero] at mem
      exact plain.1.2 mem
    simp only [Params.valueSlot, nonzero, Slot.param, Value.param, textParam, plain,
      Bool.false_eq_true, if_false]

theorem param_bufferSlot (printer : Printer δ) (isText : Bool) {left : Option Bytes}
    {length : Option ℕ} {b : Bytes} (read : readBytes left length = some b) :
    (bufferSlot isText left length).param =
      (if isText then .text b else .blob b : Value δ).param printer := by
  rw [bufferSlot, read]
  cases isText <;> rfl

/-! ### Runs -/

namespace Binding

variable {printer : Printer δ} {env : BindEnv} {b : Binding δ}

/-- **The slots match the bindings.** -/
def Matches (printer : Printer δ) (p : Params) (values : Bindings δ) : Prop :=
  ∀ (i : ℕ) (slot : Slot), p.slots[i]? = some slot →
    slot.param = (values (i + 1)).param printer

variable {p : Params} {values : Bindings δ}

/-- A slot is filled with the value of its parameter. -/
theorem Matches.store (matched : Matches printer p values) (numbered : Numbered env p.names)
    (idx : ℤ) {slot : Slot} {v : Value δ} (same : slot.param = v.param printer) :
    Matches printer (p.store env idx slot)
      (if 1 ≤ idx ∧ idx ≤ p.slots.length then Function.update values idx v else values) := by
  rw [Params.store, p.mappedParamIndex_of_numbered numbered]
  by_cases within : 1 ≤ idx ∧ idx ≤ p.slots.length
  · rw [if_pos within, if_pos within]
    intro i slot' there
    simp only [Params.setSlot, List.getElem?_set] at there
    split at there
    next here =>
      split at there
      · obtain rfl := Option.some.inj there
        rw [show (i : ℤ) + 1 = idx by omega, Function.update_self]
        exact same
      · cases there
    next elsewhere =>
      rw [Function.update_of_ne (by omega)]
      exact matched i slot' there
  · rw [if_neg within, if_neg within]
    exact matched

/-- **What a call leaves**: the slots match the bindings. -/
theorem Matches.next (matched : Matches printer b.params b.values)
    (numbered : Numbered env b.params.names) {call : Call δ} (kept : call.Kept printer env b) :
    Matches printer (b.next printer env call).params (b.next printer env call).values := by
  cases call with
  | bindInt idx n => exact matched.store numbered idx (param_print (length_decimal n))
  | bindDouble idx x =>
    have number : printer.isNaN x = false := kept
    have stored := matched.store numbered idx (v := .double x) <| by
      rw [param_print (printer.fits x), Value.param, number]
      rfl
    simpa only [Binding.next, Params.after, Params.bindDouble, Bindings.after, Call.bound, number,
      Bool.false_eq_true, if_false] using stored
  | bindNull idx => exact matched.store numbered idx rfl
  | bindValue idx v =>
    refine matched.store numbered idx (param_valueSlot printer ?_ ?_ ?_)
    · rintro blob rfl
      exact kept
    · rintro x rfl
      exact kept
    · rintro t rfl
      exact kept
  | bindBuffer idx bind val destructor =>
    cases val with
    | none =>
      have stored : Matches printer (b.params.store env idx .null) _ :=
        matched.store numbered idx (v := .null) rfl
      simpa only [Binding.next, Params.after, Params.bindBuffer, Bindings.after, Call.bound,
        Buffered.value, Option.map_some] using stored
    | some buffer =>
      obtain ⟨encoding, long, own, left⟩ := kept
      obtain ⟨bytes, held⟩ := Option.isSome_iff_exists.mp long
      have stored := matched.store numbered idx
        (param_bufferSlot printer bind.isText (left.trans held))
      rw [← Params.bindBuffer_params _ env own] at stored
      simpa only [Binding.next, Params.after, Bindings.after, Call.bound, Buffered.value, encoding,
        held, Option.map_some] using stored
  | uninterposed idx bind =>
    have outside : ¬(1 ≤ idx ∧ idx ≤ b.params.slots.length) := kept
    simpa only [Binding.next, Params.after, Bindings.after, Call.bound, outside, if_false]
      using matched
  | reset =>
    have same : b.params.slots.map Params.resetSlot = b.params.slots :=
      (List.map_congr_left kept).trans (List.map_id _)
    intro i slot there
    refine matched i slot ?_
    rw [← same]
    exact there
  | clearBindings =>
    intro i slot there
    rw [Binding.next, Params.after, Params.clearBindings, List.getElem?_map] at there
    obtain ⟨old, -, rfl⟩ := Option.map_eq_some_iff.mp there
    rfl
  | step => exact matched

theorem Matches.sent (matched : Matches printer b.params b.values) : b.params.sent =
    (List.range b.params.slots.length).map fun i : ℕ => (b.values (i + 1)).param printer := by
  refine List.ext_getElem? fun i => ?_
  rw [Params.sent, List.getElem?_map, List.getElem?_map]
  cases there : b.params.slots[i]? with
  | some slot =>
    have small := (List.getElem?_eq_some_iff.mp there).1
    rw [List.getElem?_range small, Option.map_some, Option.map_some, matched i slot there]
  | none =>
    rw [List.getElem?_eq_none_iff] at there
    rw [List.getElem?_eq_none (by rw [List.length_range]; exact there)]
    rfl

/-- No call changes the names or the number of the parameters. -/
theorem next_shape (printer : Printer δ) (env : BindEnv) (b : Binding δ) (call : Call δ) :
    (b.next printer env call).params.names = b.params.names ∧
      (b.next printer env call).params.slots.length = b.params.slots.length := by
  have stored (idx : ℤ) (slot : Slot) : (b.params.store env idx slot).names = b.params.names ∧
      (b.params.store env idx slot).slots.length = b.params.slots.length := by
    unfold Params.store
    split
    · exact ⟨rfl, List.length_set⟩
    · exact ⟨rfl, rfl⟩
  cases call with
  | bindInt | bindDouble | bindNull | bindValue => exact stored _ _
  | bindBuffer idx bind val destructor =>
    cases val with
    | none => exact stored idx .null
    | some buffer =>
      simp only [next, Params.after, Params.bindBuffer]
      split
      · exact ⟨rfl, rfl⟩
      · exact ⟨rfl, List.length_set⟩
  | reset | clearBindings => exact ⟨rfl, List.length_map _⟩
  | uninterposed | step => exact ⟨rfl, rfl⟩

/-- **The parameters sent are the values bound.**  The names of a statement's parameters lead
each to its own slot, and nothing is bound yet.  After every run of calls that all meet the
condition, what is sent for each parameter is the value bound to it last since the bindings were
cleared, and null if there is none. -/
theorem sent_is_bound (printer : Printer δ) (env : BindEnv) (p : Params)
    (numbered : Numbered env p.names) (unbound : ∀ slot ∈ p.slots, slot = .null)
    (calls : List (Call δ))
    (kept : Runs.Meets (next printer env) (fun b call => call.Kept printer env b)
      ⟨p, fun _ => .null⟩ calls) :
    let now := Runs.final (next printer env) ⟨p, fun _ => .null⟩ calls
    now.params.sent =
      (List.range p.slots.length).map fun i : ℕ => (now.values (i + 1)).param printer := by
  intro now
  have holds : Matches printer now.params now.values ∧ now.params.names = p.names ∧
      now.params.slots.length = p.slots.length := by
    refine kept.invariant (fun b : Binding δ => Matches printer b.params b.values ∧
      b.params.names = p.names ∧ b.params.slots.length = p.slots.length) ?_ ⟨?_, rfl, rfl⟩
    · rintro b call ⟨matched, names, length⟩ ok
      obtain ⟨sameNames, sameLength⟩ := next_shape printer env b call
      refine ⟨matched.next (by rw [names]; exact numbered) ok, ?_, ?_⟩
      · rw [sameNames, names]
      · rw [sameLength, length]
    · intro i slot there
      rw [unbound slot (List.mem_of_getElem? there)]
      rfl
  obtain ⟨matched, -, length⟩ := holds
  rw [← length]
  exact matched.sent

/-! ### Two runs -/

/-- A statement with two parameters that have no names. -/
def twoParams : Params := .unnamed "INSERT INTO t VALUES (?, ?)".toList [.null, .null]

/-- No doubles are bound. -/
def noDoubles : Printer Empty := ⟨nofun, nofun, nofun⟩

/-- The first parameter is bound to the number 7. -/
def bindsSeven : Call Empty := .bindInt 1 ⟨7, by decide⟩

/-- The second is bound to the text `abc`. -/
def bindsAbc : Call Empty := .bindBuffer 2 (.text (-1)) (some [97, 98, 99, 0]) .static

theorem sent_is_bound_of_two :
    (Runs.final (next noDoubles .unnamed) ⟨twoParams, fun _ => .null⟩
      [bindsSeven, bindsAbc]).params.sent = [.text [55], .text [97, 98, 99]] := by
  have kept : Runs.Meets (next noDoubles .unnamed)
      (fun b call => call.Kept noDoubles BindEnv.unnamed b)
      ⟨twoParams, fun _ => .null⟩ [bindsSeven, bindsAbc] :=
    ⟨trivial, ⟨rfl, by decide, by decide, by decide⟩, trivial⟩
  exact sent_is_bound noDoubles .unnamed twoParams ⟨nofun, nofun, nofun⟩ (by decide)
    [bindsSeven, bindsAbc] kept

/-- **A text forgotten at a reset.**  The number stays, the text is sent as null from then on;
to SQLite it is still bound. -/
theorem text_forgotten_at_reset :
    let now := Runs.final (next noDoubles .unnamed) ⟨twoParams, fun _ => .null⟩
      [bindsSeven, bindsAbc, .step, .reset, .step]
    now.values 1 = .int ⟨7, by decide⟩ ∧ now.values 2 = .text [97, 98, 99] ∧
      now.params.sent = [.text [55], .null] := by
  decide

end Binding

end PlexPostgres.Bind
