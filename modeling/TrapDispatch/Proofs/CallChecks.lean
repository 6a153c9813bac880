import TrapDispatch.Syscall.Table

/-!
# Checks of system calls

What the two checks of a call let through, argument by argument, and what the address
guard allows. Every call in a table that was built by insertion fits the argument
registers.
-/

namespace TrapDispatch

variable {σ α : Type}

/-- What it means for a guard to allow a range: it starts below the top of user memory
and inside the window, and ends there without wrapping around. -/
structure AddressGuard.Allows (guard : AddressGuard) (pointer length : UInt64)
    (requester : Privilege) : Prop where
  requester : requester ≠ .monitor
  nonzero : pointer ≠ 0
  wrap : pointer.toNat + length.toNat < UInt64.size
  below : pointer < guard.userTop
  top : pointer.toNat + length.toNat ≤ guard.userTop.toNat
  start : guard.window.start ≤ pointer
  stop : pointer.toNat + length.toNat ≤ guard.window.stop.toNat
  inside : length = 0 → pointer < guard.window.stop

theorem AddressGuard.isValid_iff (guard : AddressGuard) (pointer length : UInt64)
    (requester : Privilege) :
    guard.isValid pointer length requester = true ↔ guard.Allows pointer length requester := by
  have hchecks : guard.isValid pointer length requester = true ↔ requester ≠ .monitor ∧
      pointer ≠ 0 ∧ ¬ (pointer + length).toNat < pointer.toNat ∧
      (¬ guard.userTop.toNat < (pointer + length).toNat ∧ ¬ guard.userTop.toNat ≤ pointer.toNat) ∧
      guard.window.start.toNat ≤ pointer.toNat ∧ (if length = 0 then
        pointer.toNat < guard.window.stop.toNat
        else (pointer + length).toNat ≤ guard.window.stop.toNat) := by
    unfold AddressGuard.isValid AddressGuard.overlapsKernel UserRange.contains
    by_cases h : length = 0 <;> simp [h, UInt64.lt_iff_toNat_lt, UInt64.le_iff_toNat_le]
  have hsum : (pointer + length).toNat = (pointer.toNat + length.toNat) % UInt64.size :=
    UInt64.toNat_add pointer length
  have hpointer : pointer.toNat < UInt64.size := pointer.toNat_lt
  have hlength : length.toNat < UInt64.size := length.toNat_lt
  have hzero : length = 0 ↔ length.toNat = 0 := by
    rw [← UInt64.toNat_inj]
    rfl
  rw [hchecks]
  constructor
  · rintro ⟨hrequester, hnonzero, hwrap, ⟨htop, hbelow⟩, hstart, hstop⟩
    -- The guard compares the wrapped sum; a sum that wrapped would lie below the pointer.
    have hfits : pointer.toNat + length.toNat < UInt64.size := by
      unfold UInt64.size at *
      omega
    rw [Nat.mod_eq_of_lt hfits] at hsum
    rw [hsum] at htop hstop
    refine ⟨hrequester, hnonzero, hfits, ?_, by omega, hstart, ?_, ?_⟩
    · exact UInt64.lt_iff_toNat_lt.mpr (by omega)
    · split at hstop
      next h => rw [hzero.mp h]; omega
      · exact hstop
    · intro h
      rw [if_pos h] at hstop
      exact UInt64.lt_iff_toNat_lt.mpr hstop
  · intro h
    have hbelow := UInt64.lt_iff_toNat_lt.mp h.below
    rw [Nat.mod_eq_of_lt h.wrap] at hsum
    refine ⟨h.requester, h.nonzero, by omega, ⟨?_, by omega⟩, h.start, ?_⟩
    · rw [hsum]
      exact Nat.not_lt.mpr h.top
    · split
      next hempty => exact UInt64.lt_iff_toNat_lt.mp (h.inside hempty)
      · rw [hsum]
        exact h.stop

namespace CallShape

/-- The register that an argument starts at, behind those of the arguments before it. -/
def register (shape : CallShape) (index : Nat) : Nat :=
  ArgumentKind.widths (shape.arguments.take index)

structure Fits (shape : CallShape) : Prop where
  width : shape.width ≤ argumentRegisters
  required : shape.required ≤ shape.arguments.length

/-- The registers of an argument end where those of the next one start. -/
theorem register_succ {shape : CallShape} {index : Nat} {kind : ArgumentKind}
    (h : shape.arguments[index]? = some kind) :
    shape.register (index + 1) = shape.register index + kind.width := by
  unfold register
  rw [List.take_add_one, h, ArgumentKind.widths_append]
  rfl

theorem register_le_width (shape : CallShape) (index : Nat) : shape.register index ≤ shape.width := by
  have hsplit := ArgumentKind.widths_append (shape.arguments.take index) (shape.arguments.drop index)
  rw [List.take_append_drop] at hsplit
  unfold register width
  rw [hsplit]
  exact Nat.le_add_right _ _

theorem length_le_width (shape : CallShape) : shape.arguments.length ≤ shape.width := by
  unfold width
  induction shape.arguments with
  | nil => exact Nat.le_refl 0
  | cons kind rest ih =>
    have hkind := kind.width_pos
    rw [List.length_cons, ArgumentKind.widths_cons]
    omega

namespace Fits

variable {shape : CallShape}

theorem length_le (h : shape.Fits) : shape.arguments.length ≤ argumentRegisters :=
  Nat.le_trans shape.length_le_width h.width

theorem register_le (h : shape.Fits) {index : Nat} {kind : ArgumentKind}
    (hkind : shape.arguments[index]? = some kind) :
    shape.register index + kind.width ≤ argumentRegisters := by
  rw [← register_succ hkind]
  exact Nat.le_trans (shape.register_le_width _) h.width

end Fits

end CallShape

namespace SyscallTable

/-- Tables that can be built: those of every kernel, and what insertion makes of them. -/
inductive Reachable : SyscallTable σ → Prop where
  | empty : Reachable {}
  | builtin {table : SyscallTable σ} (h : SyscallTable.builtin = .ok table) : Reachable table
  | insert {table next : SyscallTable σ} {descriptor : CallDescriptor σ} (h : Reachable table)
      (hinsert : table.insert descriptor = .ok next) : Reachable next

/-- Whether every call fits and sits in the slot of its number. -/
def Ordered (table : SyscallTable σ) : Prop :=
  ∀ number descriptor, table.lookup number = some descriptor →
    descriptor.shape.Fits ∧ descriptor.shape.number = number

theorem lookup_empty (number : UInt64) : ({} : SyscallTable σ).lookup number = none := by
  unfold lookup
  rw [Vector.getElem?_replicate]
  split <;> rfl

theorem ordered_empty : Ordered ({} : SyscallTable σ) := by
  intro number descriptor h
  rw [lookup_empty] at h
  cases h

theorem lt_of_lookup {table : SyscallTable σ} {number : UInt64} {descriptor : CallDescriptor σ}
    (h : table.lookup number = some descriptor) : number.toNat < maxSyscalls := by
  unfold lookup at h
  cases hslot : table.slots[number.toNat]? with
  | none =>
    rw [hslot] at h
    cases h
  | some slot => exact (Vector.getElem?_eq_some_iff.mp hslot).1

theorem lookup_insert {table next : SyscallTable σ} {descriptor : CallDescriptor σ}
    (hinsert : table.insert descriptor = .ok next) (number : UInt64) :
    next.lookup number = if descriptor.shape.number = number then some descriptor
      else table.lookup number := by
  unfold SyscallTable.insert at hinsert
  simp only at hinsert
  split at hinsert
  · cases hinsert
  split at hinsert
  next hfits =>
    split at hinsert
    · cases hinsert
    · cases hinsert
      unfold lookup
      rw [Vector.getElem?_set]
      simp only [UInt64.toNat_inj]
      split <;> rfl
  · cases hinsert

theorem fits_of_insert {table next : SyscallTable σ} {descriptor : CallDescriptor σ}
    (hinsert : table.insert descriptor = .ok next) : descriptor.shape.Fits := by
  unfold SyscallTable.insert at hinsert
  simp only at hinsert
  split at hinsert
  · cases hinsert
  next h =>
    rw [not_or, Nat.not_lt, Nat.not_lt] at h
    exact ⟨h.1, h.2⟩

theorem Ordered.insert {table next : SyscallTable σ} {descriptor : CallDescriptor σ}
    (h : table.Ordered) (hinsert : table.insert descriptor = .ok next) : next.Ordered := by
  intro number found hfound
  rw [lookup_insert hinsert] at hfound
  split at hfound
  next hnumber =>
    cases hfound
    exact ⟨fits_of_insert hinsert, hnumber⟩
  · exact h number found hfound

theorem Ordered.insertAll {table next : SyscallTable σ} {descriptors : List (CallDescriptor σ)}
    (h : table.Ordered) (hinsert : table.insertAll descriptors = .ok next) : next.Ordered := by
  unfold SyscallTable.insertAll at hinsert
  induction descriptors generalizing table with
  | nil =>
    cases hinsert
    exact h
  | cons descriptor rest ih =>
    rw [List.foldlM_cons] at hinsert
    cases hfirst : table.insert descriptor with
    | error why =>
      rw [hfirst] at hinsert
      cases hinsert
    | ok between =>
      rw [hfirst] at hinsert
      exact ih (h.insert hfirst) hinsert

theorem Reachable.ordered {table : SyscallTable σ} (h : table.Reachable) : table.Ordered := by
  induction h with
  | empty => exact ordered_empty
  | builtin h => exact ordered_empty.insertAll h
  | insert _ hinsert ih => exact ih.insert hinsert

end SyscallTable

def ArgumentKind.lengthIn (words : ArgumentWords) (register : Nat) : ArgumentKind → UInt64
  | .int => 0
  | .input size | .output size => size
  | .buffer _ => words.word (register + 1)

/-- Whether a handler may get an argument for a kind whose registers start at `register`:
the integer that is there, a buffer that is empty or allowed, or nothing if the pointer
is null and not required. -/
def ArgumentKind.Passes (kind : ArgumentKind) (words : ArgumentWords) (register : Nat)
    (guard : AddressGuard) (caller : Privilege) (required : Prop) : Argument → Prop
  | .absent => kind.isPointer = true ∧ words.word register = 0 ∧ ¬ required
  | .int value => kind = .int ∧ value = words.word register
  | .user memory => kind.direction? = some memory.direction ∧
    memory.address = words.word register ∧ memory.length = kind.lengthIn words register ∧
    (kind.isBuffer = true ∧ memory.address = 0 ∧ memory.length = 0 ∨
      guard.Allows memory.address memory.length caller)

namespace RawArgument

theorem read_eq (words : ArgumentWords) (register : Nat) (kind : ArgumentKind) :
    read words register kind = ⟨kind, words.word register, kind.lengthIn words register⟩ := by
  cases kind <;> rfl

/-- Every argument is read from the register behind those of the arguments before it. -/
theorem getElem?_split (words : ArgumentWords) (start : Nat) (kinds : List ArgumentKind)
    (index : Nat) : (split words start kinds)[index]? =
      kinds[index]?.map (read words (start + ArgumentKind.widths (kinds.take index))) := by
  induction kinds generalizing start index with
  | nil => rfl
  | cons kind rest ih =>
    cases index with
    | zero => rfl
    | succ index =>
      rw [split, List.getElem?_cons_succ, List.getElem?_cons_succ, ih, List.take_succ_cons,
        ArgumentKind.widths_cons, Nat.add_assoc]

theorem passes_of_validate {words : ArgumentWords} {register : Nat} {kind : ArgumentKind}
    {guard : AddressGuard} {caller : Privilege} {argument : Argument} {required : Prop}
    (h : (read words register kind).validate guard caller = .ok argument)
    (hmissing : required → (read words register kind).isMissing = false) :
    kind.Passes words register guard caller required argument := by
  rw [read_eq] at h hmissing
  unfold validate at h
  simp only at h
  split at h
  next hdirection =>
    cases h
    cases kind <;> first | exact ⟨rfl, rfl⟩ | cases hdirection
  next direction hdirection =>
    split at h
    next hnull =>
      split at h
      next hempty =>
        cases h
        exact ⟨hdirection, hnull.symm, hempty.2.symm, Or.inl ⟨hempty.1, rfl, rfl⟩⟩
      next hfull =>
        cases h
        have hpointer : kind.isPointer = true := by
          cases kind <;> first | rfl | cases hdirection
        refine ⟨hpointer, hnull, fun hrequired => ?_⟩
        have hpresent := hmissing hrequired
        simp only [isMissing, hpointer, hnull] at hpresent
        simp only [Bool.true_and, decide_true, Bool.not_eq_false', Bool.and_eq_true,
          decide_eq_true_eq] at hpresent
        exact hfull hpresent
    next hnonzero =>
      split at h
      next hvalid =>
        cases h
        exact ⟨hdirection, rfl, rfl, Or.inr ((guard.isValid_iff _ _ _).mp hvalid)⟩
      · cases h

end RawArgument

theorem getElem?_of_mapM {ε β : Type} {f : α → Except ε β} {xs : List α} {ys : List β}
    (h : xs.mapM f = .ok ys) : ys.length = xs.length ∧
      ∀ (index : Nat) x, xs[index]? = some x → ∃ y, ys[index]? = some y ∧ f x = .ok y := by
  induction xs generalizing ys with
  | nil =>
    cases h
    exact ⟨rfl, fun index x hx => by cases hx⟩
  | cons first rest ih =>
    rw [List.mapM_cons] at h
    cases hfirst : f first with
    | error why =>
      rw [hfirst] at h
      cases h
    | ok value =>
      cases hrest : rest.mapM f with
      | error why =>
        rw [hfirst, hrest] at h
        cases h
      | ok values =>
        rw [hfirst, hrest] at h
        cases h
        obtain ⟨hlength, hvalues⟩ := ih hrest
        refine ⟨congrArg (· + 1) hlength, fun index x hx => ?_⟩
        cases index with
        | zero =>
          cases hx
          exact ⟨value, rfl, hfirst⟩
        | succ index => exact hvalues index x hx

namespace CallShape.Fits

variable {shape : CallShape} {words : ArgumentWords}

theorem getElem?_rawArguments (h : shape.Fits) (words : ArgumentWords) (index : Nat) :
    (shape.rawArguments words)[index]? =
      shape.arguments[index]?.map (RawArgument.read words (shape.register index)) := by
  unfold rawArguments
  rw [List.take_of_length_le h.length_le, RawArgument.getElem?_split, Nat.zero_add]
  rfl

theorem not_isMissing {index : Nat} {raw : RawArgument} (hcheck : shape.check words = .ok ())
    (hraw : (shape.rawArguments words)[index]? = some raw) (hrequired : index < shape.required) :
    raw.isMissing = false := by
  unfold check at hcheck
  split at hcheck
  · cases hcheck
  split at hcheck
  · cases hcheck
  next hnone =>
    rw [Bool.not_eq_true, List.any_eq_false] at hnone
    have hmem : raw ∈ (shape.rawArguments words).take shape.required := by
      apply List.mem_of_getElem? (i := index)
      rw [List.getElem?_take_of_lt hrequired, hraw]
    simpa using hnone raw hmem

/-- What the two checks of a call let through. -/
theorem passes (h : shape.Fits) {guard : AddressGuard} {caller : Privilege} {arguments : Arguments}
    (hcheck : shape.check words = .ok ())
    (hvalidate : shape.validate words guard caller = .ok arguments) :
    arguments.size = shape.arguments.length ∧
      ∀ index kind, shape.arguments[index]? = some kind →
        ArgumentKind.Passes kind words (shape.register index) guard caller (index < shape.required)
          (arguments.get index) := by
  unfold validate at hvalidate
  cases hvalues : (shape.rawArguments words).mapM (RawArgument.validate guard caller) with
  | error code =>
    rw [hvalues] at hvalidate
    cases hvalidate
  | ok values =>
    rw [hvalues] at hvalidate
    cases hvalidate
    obtain ⟨hlength, hargument⟩ := getElem?_of_mapM hvalues
    refine ⟨?_, fun index kind hkind => ?_⟩
    · unfold Arguments.size
      rw [hlength, rawArguments, RawArgument.length_split, List.take_of_length_le h.length_le]
    · have hraw := h.getElem?_rawArguments words index
      rw [hkind, Option.map_some] at hraw
      obtain ⟨argument, hget, hvalid⟩ := hargument index _ hraw
      unfold Arguments.get
      rw [hget]
      exact RawArgument.passes_of_validate hvalid (not_isMissing hcheck hraw)

end CallShape.Fits

end TrapDispatch
