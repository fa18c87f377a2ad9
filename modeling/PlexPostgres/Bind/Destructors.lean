import PlexPostgres.Bind.Params

/-!
# The destructor of a bound buffer

A caller who binds a text or a blob with a destructor of its own gives the buffer away: it is
the shim's until the destructor is called with it, once, and nobody's after that.  What is
stored has to be what the buffer held when it was bound, whatever the destructor does.

The shim calls the destructor first and copies the value afterwards, so every bind that stores
anything reads bytes that are no longer there to be read.  Where an identifier is replaced it is
the replacement that the destructor is called with.
-/

namespace PlexPostgres.Bind

/-- The pointer of a destruction. -/
def Touch.destroyedPtr : Touch → Option Pointer
  | .destroyed ptr => some ptr
  | .read _ => none

/-- **The pointers the destructor was called with.** -/
def destroyedWith (log : List Touch) : List Pointer := log.filterMap Touch.destroyedPtr

/-- **Bytes are read after the destructor has run.** -/
def readsAfterDestroyed : List Touch → Bool
  | [] => false
  | .read _ :: log => readsAfterDestroyed log
  | .destroyed _ :: log => log.any fun touch => touch.destroyedPtr = none

/-- **The buffer is handled as its owner may expect**: its destructor is called once, with the
pointer that was given; no byte is read after that; and what is stored, if the parameter has a
slot, is what the buffer held. -/
structure HeldByBuffer (p : Params) (env : BindEnv) (idx : ℤ) (bind : Buffered)
    (val : Option Bytes) (bound : Bound) : Prop where
  once : destroyedWith bound.log = [.caller]
  unread : readsAfterDestroyed bound.log = false
  stored : ∀ i, p.mappedParamIndex env idx = some i →
    bound.params = p.setSlot i (bufferSlot bind.isText val bind.length)

/-! ### The log of a bind -/

/-- Only reads. -/
def OnlyReads (log : List Touch) : Prop := ∀ touch ∈ log, ∃ ptr, touch = .read ptr

theorem onlyReads_nil : OnlyReads [] := nofun

theorem onlyReads_reading (ptr : Pointer) (length : Option ℕ) : OnlyReads (reading ptr length) := by
  intro touch mem
  unfold reading at mem
  split at mem
  · cases mem
  · exact ⟨ptr, List.mem_singleton.mp mem⟩

variable {log : List Touch}

theorem onlyReads_ite {b : Bool} (reads : OnlyReads log) :
    OnlyReads (if b then log else []) := by
  split
  · exact reads
  · exact onlyReads_nil

theorem OnlyReads.append {log' : List Touch} (reads : OnlyReads log) (reads' : OnlyReads log') :
    OnlyReads (log ++ log') :=
  List.forall_mem_append.mpr ⟨reads, reads'⟩

theorem OnlyReads.destroyedWith (reads : OnlyReads log) :
    destroyedWith log = [] := by
  refine List.filterMap_eq_nil_iff.mpr fun touch mem => ?_
  obtain ⟨ptr, rfl⟩ := reads touch mem
  rfl

/-- What is read first does not matter. -/
theorem OnlyReads.readsAfterDestroyed_append (reads : OnlyReads log) (rest : List Touch) :
    readsAfterDestroyed (log ++ rest) = readsAfterDestroyed rest := by
  induction log with
  | nil => rfl
  | cons touch log ih =>
    obtain ⟨ptr, rfl⟩ := reads touch List.mem_cons_self
    exact ih fun touch mem => reads touch (List.mem_cons_of_mem _ mem)

/-- **The log of a destruction** between reads. -/
theorem log_spec {before after : List Touch} (ptr : Pointer) (early : OnlyReads before)
    (late : OnlyReads after) :
    destroyedWith (before ++ [.destroyed ptr] ++ after) = [ptr] ∧
      (readsAfterDestroyed (before ++ [.destroyed ptr] ++ after) = false ↔ after = []) := by
  constructor
  · show List.filterMap _ _ = _
    rw [List.filterMap_append, List.filterMap_append, show before.filterMap _ = [] from
      early.destroyedWith, show after.filterMap _ = [] from late.destroyedWith]
    rfl
  · rw [List.append_assoc, early.readsAfterDestroyed_append]
    cases after with
    | nil => exact ⟨fun _ => rfl, fun _ => rfl⟩
    | cons touch after =>
      obtain ⟨ptr', rfl⟩ := late touch List.mem_cons_self
      simp [readsAfterDestroyed, Touch.destroyedPtr]

theorem reading_eq_nil {ptr : Pointer} {length : Option ℕ} :
    reading ptr length = [] ↔ length = some 0 := by
  unfold reading
  split
  next zero => exact ⟨fun _ => zero, fun _ => rfl⟩
  next nonzero => exact ⟨fun nothing => (nomatch nothing), fun zero => absurd zero nonzero⟩

/-! ### The four binds -/

section

variable (p : Params) (env : BindEnv) (idx : ℤ) (bind : Buffered) (buffer : Bytes)
  (behaviour : Bytes → Option Bytes)

/-- The bytes looked at before anything is destroyed are only read. -/
theorem onlyReads_before (ptr : Pointer) (length : Option ℕ) :
    OnlyReads ((if bind.isText && p.looksAtDevices env && bind.length = none
        then [.read .caller] else []) ++
      (if bind.logs && p.isLogged then reading ptr length else [])) := by
  refine OnlyReads.append (onlyReads_ite fun touch mem => ?_)
    (onlyReads_ite (onlyReads_reading ptr length))
  exact ⟨.caller, List.mem_singleton.mp mem⟩

/-- A text that is replaced: the destructor is called with the replacement. -/
theorem destroyedWith_of_intercepts (replaced : p.intercepts env idx bind buffer = true) :
    destroyedWith (p.bindBuffer env idx bind (some buffer) (.custom behaviour)).log = [.shim] := by
  have before := onlyReads_before p env bind .shim (some env.machineIdentifier.length)
  simp only [Params.bindBuffer, replaced, if_true, invokeDestructorIfCustom]
  split
  · simpa using (log_spec .shim before onlyReads_nil).1
  · exact (log_spec .shim before (onlyReads_reading _ _)).1

/-- A parameter without a slot: the destructor is the last to touch the buffer. -/
theorem held_of_unmapped (own : p.intercepts env idx bind buffer = false)
    (unmapped : p.mappedParamIndex env idx = none) :
    HeldByBuffer p env idx bind (some buffer)
      (p.bindBuffer env idx bind (some buffer) (.custom behaviour)) := by
  have before := onlyReads_before p env bind .caller bind.length
  have shape := log_spec .caller before onlyReads_nil
  rw [List.append_nil] at shape
  simp only [Params.bindBuffer, own, Bool.false_eq_true, if_false, invokeDestructorIfCustom,
    unmapped]
  refine ⟨shape.1, shape.2.mpr rfl, fun i mapped => ?_⟩
  rw [unmapped] at mapped
  cases mapped

/-- A parameter with a slot: the value is read after the buffer was destroyed, unless there is
nothing to read. -/
theorem held_iff_of_mapped (own : p.intercepts env idx bind buffer = false) {i : ℕ}
    (mapped : p.mappedParamIndex env idx = some i) :
    HeldByBuffer p env idx bind (some buffer)
      (p.bindBuffer env idx bind (some buffer) (.custom behaviour)) ↔ bind.length = some 0 := by
  have before := onlyReads_before p env bind .caller bind.length
  have shape := log_spec .caller before (onlyReads_reading .caller bind.length)
  rw [reading_eq_nil] at shape
  simp only [Params.bindBuffer, own, Bool.false_eq_true, if_false, invokeDestructorIfCustom,
    mapped]
  refine ⟨fun held => shape.2.mp held.unread, fun zero => ⟨shape.1, shape.2.mpr zero, ?_⟩⟩
  intro i' mapped'
  cases mapped.symm.trans mapped'
  rw [zero]
  rfl

end

/-- **The destructor and the buffer.**  A bind with a destructor of the caller's own handles the
buffer as its owner may expect exactly when there is a buffer, its text is not replaced, and
nothing has to be read: the parameter has no slot, or the length is given as 0. -/
theorem buffer_held_iff (p : Params) (env : BindEnv) (idx : ℤ) (bind : Buffered)
    (val : Option Bytes) (behaviour : Bytes → Option Bytes) :
    HeldByBuffer p env idx bind val (p.bindBuffer env idx bind val (.custom behaviour)) ↔
      ∃ buffer, val = some buffer ∧ p.intercepts env idx bind buffer = false ∧
        (p.mappedParamIndex env idx = none ∨ bind.length = some 0) := by
  cases val with
  | none =>
    constructor
    · intro held
      cases held.once
    · rintro ⟨buffer, given, -⟩
      cases given
  | some buffer =>
    simp only [Option.some.injEq, exists_eq_left']
    cases own : p.intercepts env idx bind buffer with
    | true =>
      refine ⟨fun held => ?_, fun condition => (nomatch condition.1)⟩
      have once := held.once
      rw [destroyedWith_of_intercepts p env idx bind buffer behaviour own] at once
      cases once
    | false =>
      cases mapped : p.mappedParamIndex env idx with
      | none =>
        refine ⟨fun _ => ⟨rfl, .inl rfl⟩, fun _ => ?_⟩
        exact held_of_unmapped p env idx bind buffer behaviour own mapped
      | some i =>
        rw [held_iff_of_mapped p env idx bind buffer behaviour own mapped]
        exact ⟨fun zero => ⟨rfl, .inr zero⟩, fun condition =>
          condition.2.resolve_left nofun⟩

/-! ### One bind -/

/-- A statement with one parameter, whose name is not known. -/
def oneParam : Params := .unnamed "INSERT INTO t VALUES (?)".toList [.null]

/-- **A text read after it was released.**  The text `abc` is bound with a destructor that
releases it.  The destructor is called, then the bytes are read; what is stored is nobody's. -/
theorem text_read_after_release :
    let bound := oneParam.bindText .unnamed 1 (some (ascii "abc".toList)) 3 (.custom fun _ => none)
    bound.rc = .ok ∧ bound.log = [.destroyed .caller, .read .caller] ∧
      bound.params.sent = [.wild] ∧
      ¬HeldByBuffer oneParam .unnamed 1 (.text 3) (some (ascii "abc".toList)) bound := by
  refine ⟨by decide, by decide, by decide, fun held => ?_⟩
  have unread := held.unread
  revert unread
  decide

end PlexPostgres.Bind
