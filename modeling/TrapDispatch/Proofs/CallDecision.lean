import TrapDispatch.Proofs.Calm
import TrapDispatch.Proofs.CallChecks

/-!
# Decisions on system calls

Whether a call reaches its handler is decided by its number, the level of its caller and
the arguments that it presents, in this order; where the arguments stand does not
matter. What a call does follows from that decision: one that is rejected leaves the
frame and the requests of its trap alone, and asks for no more than the user window.
-/

namespace TrapDispatch

variable {σ α : Type}

/-- An argument as the caller of a system call presents it. -/
structure PresentedArgument where
  kind : ArgumentKind
  value : UInt64
  length : UInt64
  required : Bool
  deriving DecidableEq

namespace PresentedArgument

def raw (argument : PresentedArgument) : RawArgument :=
  ⟨argument.kind, argument.value, argument.length⟩

/-- Whether a required pointer is null; a buffer of length zero may be. -/
def IsMissing (argument : PresentedArgument) : Prop :=
  argument.required = true ∧ argument.kind.isPointer = true ∧ argument.value = 0 ∧
    ¬ (argument.kind.isBuffer = true ∧ argument.length = 0)

/-- Whether a pointer that is there names memory that its caller may not use. -/
def IsForbidden (guard : AddressGuard) (caller : Privilege) (argument : PresentedArgument) : Prop :=
  argument.kind.isPointer = true ∧ argument.value ≠ 0 ∧
    ¬ guard.Allows argument.value argument.length caller

instance (argument : PresentedArgument) : Decidable argument.IsMissing := by
  unfold IsMissing
  infer_instance

instance (guard : AddressGuard) (caller : Privilege) (argument : PresentedArgument) :
    Decidable (argument.IsForbidden guard caller) :=
  decidable_of_iff (argument.kind.isPointer = true ∧ argument.value ≠ 0 ∧
    guard.isValid argument.value argument.length caller = false) (by
      unfold IsForbidden
      rw [← guard.isValid_iff, Bool.not_eq_true])

theorem isMissing_iff (argument : PresentedArgument) :
    argument.IsMissing ↔ argument.required = true ∧ argument.raw.isMissing = true := by
  unfold IsMissing RawArgument.isMissing raw
  simp only [Bool.and_eq_true, decide_eq_true_eq, Bool.not_eq_true', ← Bool.not_eq_true, and_assoc]

theorem validate_raw (guard : AddressGuard) (caller : Privilege) (argument : PresentedArgument) :
    argument.raw.validate guard caller = .error .efault ∧ argument.IsForbidden guard caller ∨
      (∃ value, argument.raw.validate guard caller = .ok value) ∧
        ¬ argument.IsForbidden guard caller := by
  have hpointer : argument.kind.direction? = none ↔ argument.kind.isPointer = false := by
    cases argument.kind <;> simp [ArgumentKind.direction?, ArgumentKind.isPointer]
  unfold IsForbidden RawArgument.validate raw
  simp only
  split
  next hnone =>
    refine Or.inr ⟨⟨_, rfl⟩, fun h => ?_⟩
    rw [hpointer.mp hnone] at h
    cases h.1
  next direction hdirection =>
    split
    next hnull =>
      refine Or.inr ⟨?_, fun h => h.2.1 hnull⟩
      split
      · exact ⟨_, rfl⟩
      · exact ⟨_, rfl⟩
    next hnonzero =>
      split
      next hvalid => exact Or.inr ⟨⟨_, rfl⟩, fun h => h.2.2 ((guard.isValid_iff _ _ _).mp hvalid)⟩
      next hinvalid =>
        refine Or.inl ⟨rfl, ?_, hnonzero, fun h => hinvalid ((guard.isValid_iff _ _ _).mpr h)⟩
        rw [← Bool.not_eq_false, ← hpointer, hdirection]
        exact Option.some_ne_none direction

end PresentedArgument

namespace CallShape

def presented (shape : CallShape) (words : ArgumentWords) : List PresentedArgument :=
  shape.arguments.mapIdx fun index kind =>
    { kind
      value := words.word (shape.register index)
      length := kind.lengthIn words (shape.register index)
      required := decide (index < shape.required) }

/-- Whether a register behind those of the declared arguments is in use. -/
def HasStray (shape : CallShape) (words : ArgumentWords) : Prop :=
  ∃ register : Fin argumentRegisters, shape.width ≤ register.val ∧ words.word register.val ≠ 0

instance (shape : CallShape) (words : ArgumentWords) : Decidable (shape.HasStray words) := by
  unfold HasStray
  infer_instance

/-- What there is to object to a call, whatever its handler does: first the level of its
caller, then the shape of its arguments, then the memory that they name. -/
def objection (shape : CallShape) (words : ArgumentWords) (guard : AddressGuard)
    (caller : Privilege) : Option ErrorCode :=
  if caller.rank < shape.minPrivilege.rank then some .eperm
  else if shape.HasStray words ∨ ∃ argument ∈ shape.presented words, argument.IsMissing then
    some .einval
  else if ∃ argument ∈ shape.presented words, argument.IsForbidden guard caller then some .efault
  else none

theorem objection_perm {shape other : CallShape} {words otherWords : ArgumentWords}
    (hlevel : other.minPrivilege = shape.minPrivilege)
    (hstray : other.HasStray otherWords ↔ shape.HasStray words)
    (hperm : (other.presented otherWords).Perm (shape.presented words)) (guard : AddressGuard)
    (caller : Privilege) :
    other.objection otherWords guard caller = shape.objection words guard caller := by
  unfold objection
  simp only [hlevel, hstray, hperm.mem_iff]

theorem hasStray_iff (shape : CallShape) (words : ArgumentWords) :
    (words.toList.drop shape.width).any (· ≠ 0) = true ↔ shape.HasStray words := by
  have hget : ∀ index, words.word index = (words.toList[index]?).getD 0 := by
    intro index
    unfold ArgumentWords.word
    rw [Vector.getElem?_toList]
  rw [List.any_eq_true]
  constructor
  · rintro ⟨word, hmem, hne⟩
    obtain ⟨offset, hoffset⟩ := List.mem_iff_getElem?.mp hmem
    rw [List.getElem?_drop] at hoffset
    have hlt := (List.getElem?_eq_some_iff.mp hoffset).1
    rw [Vector.length_toList] at hlt
    refine ⟨⟨shape.width + offset, hlt⟩, Nat.le_add_right _ _, ?_⟩
    rw [hget, hoffset]
    simpa using hne
  · rintro ⟨⟨index, hbound⟩, hwidth, hne⟩
    cases hword : words.toList[index]? with
    | none =>
      rw [hget, hword] at hne
      exact absurd rfl hne
    | some word =>
      rw [hget, hword] at hne
      refine ⟨word, List.mem_iff_getElem?.mpr ⟨index - shape.width, ?_⟩, by simpa using hne⟩
      rw [List.getElem?_drop, Nat.add_sub_cancel' hwidth]
      exact hword

namespace Fits

variable {shape : CallShape}

theorem rawArguments_eq (h : shape.Fits) (words : ArgumentWords) :
    shape.rawArguments words = (shape.presented words).map PresentedArgument.raw := by
  apply List.ext_getElem?
  intro index
  rw [h.getElem?_rawArguments words index, List.getElem?_map, presented, List.getElem?_mapIdx]
  cases shape.arguments[index]? with
  | none => rfl
  | some kind => exact congrArg some (RawArgument.read_eq words _ kind)

theorem anyMissing_iff (h : shape.Fits) (words : ArgumentWords) :
    ((shape.rawArguments words).take shape.required).any RawArgument.isMissing = true ↔
      ∃ argument ∈ shape.presented words, argument.IsMissing := by
  rw [List.any_eq_true, h.rawArguments_eq words]
  have hrequired : ∀ index argument, (shape.presented words)[index]? = some argument →
      (argument.required = true ↔ index < shape.required) := by
    intro index argument hget
    rw [presented, List.getElem?_mapIdx] at hget
    cases hkind : shape.arguments[index]? with
    | none =>
      rw [hkind] at hget
      cases hget
    | some kind =>
      rw [hkind] at hget
      cases hget
      simp
  constructor
  · rintro ⟨raw, hmem, hmissing⟩
    obtain ⟨index, hget⟩ := List.mem_iff_getElem?.mp hmem
    rw [List.getElem?_take, List.getElem?_map] at hget
    split at hget
    next hindex =>
      obtain ⟨argument, hargument, rfl⟩ := Option.map_eq_some_iff.mp hget
      have hneeded := (hrequired index argument hargument).mpr hindex
      exact ⟨argument, List.mem_of_getElem? hargument, argument.isMissing_iff.mpr ⟨hneeded, hmissing⟩⟩
    next => cases hget
  · rintro ⟨argument, hmem, hmissing⟩
    obtain ⟨index, hget⟩ := List.mem_iff_getElem?.mp hmem
    obtain ⟨hneeded, hraw⟩ := argument.isMissing_iff.mp hmissing
    have hindex := (hrequired index argument hget).mp hneeded
    refine ⟨argument.raw, List.mem_iff_getElem?.mpr ⟨index, ?_⟩, hraw⟩
    rw [List.getElem?_take_of_lt hindex, List.getElem?_map, hget, Option.map_some]

theorem check_eq (h : shape.Fits) (words : ArgumentWords) :
    shape.check words =
      if shape.HasStray words ∨ ∃ argument ∈ shape.presented words, argument.IsMissing then
        .error .einval
      else .ok () := by
  have hany := shape.hasStray_iff words
  have hmissed := h.anyMissing_iff words
  unfold check
  by_cases hstray : shape.HasStray words
  · rw [if_pos (hany.mpr hstray), if_pos (Or.inl hstray)]
  · rw [if_neg (mt hany.mp hstray)]
    by_cases hmissing : ∃ argument ∈ shape.presented words, argument.IsMissing
    · rw [if_pos (hmissed.mpr hmissing), if_pos (Or.inr hmissing)]
    · rw [if_neg (mt hmissed.mp hmissing), if_neg (not_or.mpr ⟨hstray, hmissing⟩)]

end Fits

end CallShape

/-- Where all failures are the same, a list as a whole fails as soon as one of its
members does. -/
theorem mapM_eq_of_same_failure {ε β : Type} {f : α → Except ε β} {failure : ε}
    {property : α → Prop} {xs : List α}
    (h : ∀ x ∈ xs, f x = .error failure ∧ property x ∨ (∃ y, f x = .ok y) ∧ ¬ property x) :
    xs.mapM f = .error failure ∧ (∃ x ∈ xs, property x) ∨
      (∃ ys, xs.mapM f = .ok ys) ∧ ∀ x ∈ xs, ¬ property x := by
  induction xs with
  | nil => exact Or.inr ⟨⟨[], rfl⟩, fun x hx => by cases hx⟩
  | cons first rest ih =>
    have hrest := ih fun x hx => h x (List.mem_cons_of_mem _ hx)
    rw [List.mapM_cons]
    rcases h first List.mem_cons_self with ⟨hfirst, hfails⟩ | ⟨⟨y, hfirst⟩, hpasses⟩
    · rw [hfirst]
      exact Or.inl ⟨rfl, first, List.mem_cons_self, hfails⟩
    rw [hfirst]
    rcases hrest with ⟨hfailed, x, hx, hfails⟩ | ⟨⟨ys, hpassed⟩, hall⟩
    · rw [hfailed]
      exact Or.inl ⟨rfl, x, List.mem_cons_of_mem _ hx, hfails⟩
    · rw [hpassed]
      refine Or.inr ⟨⟨y :: ys, rfl⟩, fun x hx => ?_⟩
      rcases List.mem_cons.mp hx with rfl | hx
      · exact hpasses
      · exact hall x hx

/-- Validation fails exactly if a presented argument is forbidden. -/
theorem CallShape.Fits.validate_cases {shape : CallShape} (h : shape.Fits) (words : ArgumentWords)
    (guard : AddressGuard) (caller : Privilege) :
    shape.validate words guard caller = .error .efault ∧
        (∃ argument ∈ shape.presented words, argument.IsForbidden guard caller) ∨
      (∃ arguments, shape.validate words guard caller = .ok arguments) ∧
        ¬ ∃ argument ∈ shape.presented words, argument.IsForbidden guard caller := by
  have hall := mapM_eq_of_same_failure
    (f := RawArgument.validate guard caller ∘ PresentedArgument.raw)
    fun argument (_ : argument ∈ shape.presented words) => argument.validate_raw guard caller
  unfold CallShape.validate
  rw [h.rawArguments_eq words, List.mapM_map]
  rcases hall with ⟨hfailed, hmem⟩ | ⟨⟨values, hpassed⟩, hnone⟩
  · rw [hfailed]
    exact Or.inl ⟨rfl, hmem⟩
  · rw [hpassed]
    exact Or.inr ⟨⟨⟨values⟩, rfl⟩, fun ⟨argument, hmem, hforbidden⟩ =>
      hnone argument hmem hforbidden⟩

namespace SyscallTable

/-- The checks of a call one after the other, with a user window. -/
def screen (table : SyscallTable σ) (number : UInt64) (words : ArgumentWords) (caller : Frame)
    (window : UserRange) : Except ErrorCode (CallDescriptor σ) :=
  match table.lookup number with
  | none => .error .enosys
  | some descriptor =>
    if caller.privilege.permits descriptor.shape.minPrivilege = false then .error .eperm
    else match descriptor.shape.check words with
      | .error code => .error code
      | .ok () =>
        match descriptor.shape.validate words ⟨window, caller.arch.userTop⟩ caller.privilege with
        | .error code => .error code
        | .ok _ => .ok descriptor

/-- The decision on a call, with a user window: an error, or the call to be handled. -/
def verdict (table : SyscallTable σ) (number : UInt64) (words : ArgumentWords) (caller : Frame)
    (window : UserRange) : Except ErrorCode (CallDescriptor σ) :=
  match table.lookup number with
  | none => .error .enosys
  | some descriptor =>
    match descriptor.shape.objection words ⟨window, caller.arch.userTop⟩ caller.privilege with
    | some code => .error code
    | none => .ok descriptor

/-- The checks come to the decision. -/
theorem Ordered.screen_eq {table : SyscallTable σ} (h : table.Ordered) (number : UInt64)
    (words : ArgumentWords) (caller : Frame) (window : UserRange) :
    table.screen number words caller window = table.verdict number words caller window := by
  unfold screen verdict
  split
  · rfl
  next descriptor hlookup =>
    have hfits := (h number descriptor hlookup).1
    have hpermits : caller.privilege.permits descriptor.shape.minPrivilege = false ↔
        caller.privilege.rank < descriptor.shape.minPrivilege.rank := by
      rw [← Bool.not_eq_true, Privilege.permits_iff, Nat.not_le]
    unfold CallShape.objection
    by_cases hlevel : caller.privilege.rank < descriptor.shape.minPrivilege.rank
    · rw [if_pos (hpermits.mpr hlevel), if_pos hlevel]
    rw [if_neg (mt hpermits.mp hlevel), if_neg hlevel, hfits.check_eq words]
    by_cases hshape : descriptor.shape.HasStray words ∨
        ∃ argument ∈ descriptor.shape.presented words, argument.IsMissing
    · rw [if_pos hshape, if_pos hshape]
    rw [if_neg hshape, if_neg hshape]
    rcases hfits.validate_cases words ⟨window, caller.arch.userTop⟩ caller.privilege with
      ⟨hvalidate, hforbidden⟩ | ⟨⟨arguments, hvalidate⟩, hallowed⟩
    · rw [if_pos hforbidden, hvalidate]
    · rw [if_neg hallowed, hvalidate]

end SyscallTable

end TrapDispatch
