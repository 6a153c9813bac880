import TrapDispatch.Proofs.LoadedContexts
import TrapDispatch.Proofs.Resumption

/-!
# Restored frames

What is written back into the raw frame of a trap. A context that is resumed where it
was keeps every register but the return register and the program counter, where those
were changed.
-/

namespace TrapDispatch

variable {σ : Type}

namespace Arm

def x0 : Nat := 0

theorem x0_lt : x0 < 31 := by
  decide

end Arm

namespace RiscV

/-- Vector 3 is that of cause 3 alone. -/
theorem cause_of_vector {cause : UInt64} (h : vectorOfCause cause = 3) : cause = 3 := by
  unfold vectorOfCause at h
  simp only at h
  split at h
  · rename_i hcode
    by_cases hflag : cause &&& interruptFlag = 0
    · rw [if_neg (Decidable.not_not.mpr hflag), UInt64.zero_add, UInt64.outside_eq hflag] at h
      exact h
    · -- The vectors of interrupts are those from 16 on.
      rw [if_pos hflag] at h
      have hlt : (cause &&& ~~~interruptFlag).toNat < 16 := UInt64.lt_iff_toNat_lt.mp hcode
      have hfits : interruptBase.toNat + (cause &&& ~~~interruptFlag).toNat < UInt64.size :=
        Nat.lt_trans (Nat.add_lt_add_left hlt _) (by decide)
      have hsum := congrArg UInt64.toNat h
      rw [UInt64.toNat_add, Nat.mod_eq_of_lt hfits] at hsum
      change 16 + (cause &&& ~~~interruptFlag).toNat = 3 at hsum
      omega
  · exact absurd h (by decide)

theorem eq_of_exceptionKind {frame : Frame} {vector : UInt64}
    (h : exceptionKind frame vector = .breakpoint) : vector = 3 := by
  have hcode : ExceptionCause.ofCode vector = some .breakpoint := by
    unfold exceptionKind at h
    split at h
    case h_8 hbreakpoint => exact hbreakpoint
    all_goals cases h
  unfold ExceptionCause.ofCode at hcode
  split at hcode
  case h_4 hvector => exact UInt64.toNat_inj.mp hvector
  all_goals cases hcode

theorem cause_of_breakpoint {kernel : Kernel σ} {raw : RawFrame}
    (h : kernel.cause raw.capture = .exception .breakpoint) : raw.scause = 3 := by
  obtain ⟨entry, hentry, hkind⟩ := Kernel.exists_entry_of_cause h nofun
  have hvector : entry.vector = vectorOfCause raw.scause := by
    rw [VectorTable.eq_slot_of_lookup hentry]
    rfl
  unfold Cause.ofTrap at hkind
  split at hkind
  · cases hkind
  split at hkind
  · cases hkind
  change decode raw.capture entry = _ at hkind
  unfold decode at hkind
  split at hkind
  · cases hkind
  · cases hkind
  · rw [hvector] at hkind
    exact cause_of_vector (eq_of_exceptionKind (Cause.exception.inj hkind))

end RiscV

theorem Frame.register_setReturnValue (frame : Frame) (value : UInt64) :
    (frame.setReturnValue value).register frame.arch.returnRegister = value := by
  unfold register setReturnValue
  rw [if_pos frame.arch.returnRegister_lt]
  simp

namespace RawFrame

/-- The frame with another value in the return register of system calls: rax, x0 or a0. -/
def withReturn (value : UInt64) : RawFrame → RawFrame
  | x86 raw => x86 { raw with rax := value }
  | arm raw => arm { raw with registers := raw.registers.set Arm.x0 value Arm.x0_lt }
  | riscV raw => riscV { raw with registers := raw.registers.set RiscV.a0 value RiscV.a0_lt }

/-- The frame with its program counter moved on, and wrapping around. -/
def advanced (bytes : UInt64) : RawFrame → RawFrame
  | x86 raw => x86 { raw with rip := raw.rip + bytes }
  | arm raw => arm { raw with elr := raw.elr + bytes }
  | riscV raw => riscV { raw with sepc := raw.sepc + bytes }

def afterCall (raw : RawFrame) : Option CallResult → RawFrame
  | none => raw
  | some result => (raw.withReturn result.encode).advanced raw.arch.callAdvance

/-- Bytes of the breakpoint that trapped, as far as it is still to be stepped over. -/
def breakpointLength : RawFrame → UInt64
  | x86 _ => 0
  | arm _ => 4
  | riscV raw => RiscV.instructionLength raw.parcel.toUInt16

theorem advanced_zero (raw : RawFrame) : raw.advanced 0 = raw := by
  cases raw <;> simp [advanced]

theorem restore_advance (raw : RawFrame) (bytes : UInt64) :
    raw.restore (raw.capture.advance bytes) = raw.advanced bytes := by
  by_cases h : bytes = 0
  · rw [h, Frame.advance_zero, restore_capture, advanced_zero]
  · unfold Frame.advance
    rw [if_neg h]
    cases raw <;> rfl

/-- What is written back of a result and a step are the return register and the program
counter. -/
theorem restore_setReturnValue (raw : RawFrame) (value bytes : UInt64) :
    raw.restore ((raw.capture.setReturnValue value).advance bytes) =
      (raw.withReturn value).advanced bytes := by
  have hvalue := raw.capture.register_setReturnValue value
  by_cases h : bytes = 0
  · rw [h, Frame.advance_zero, advanced_zero]
    cases raw with
    | x86 raw => exact congrArg (fun rax => x86 { raw with rax }) hvalue
    | arm raw =>
      exact congrArg (fun x0 => arm
        { raw with registers := raw.registers.set Arm.x0 x0 Arm.x0_lt }) hvalue
    | riscV raw =>
      exact congrArg (fun a0 => riscV
        { raw with registers := raw.registers.set RiscV.a0 a0 RiscV.a0_lt }) hvalue
  · unfold Frame.advance
    rw [if_neg h]
    cases raw with
    | x86 raw => exact congrArg (fun rax => x86 { raw with rax, rip := raw.rip + bytes }) hvalue
    | arm raw =>
      exact congrArg (fun x0 => arm { raw with
        registers := raw.registers.set Arm.x0 x0 Arm.x0_lt
        elr := raw.elr + bytes }) hvalue
    | riscV raw =>
      exact congrArg (fun a0 => riscV { raw with
        registers := raw.registers.set RiscV.a0 a0 RiscV.a0_lt
        sepc := raw.sepc + bytes }) hvalue

theorem restore_afterCall (raw : RawFrame) (result : Option CallResult) :
    raw.restore (raw.capture.afterCall result) = raw.afterCall result := by
  cases result with
  | none => exact raw.restore_capture
  | some result =>
    unfold Frame.afterCall afterCall
    rw [arch_capture]
    exact raw.restore_setReturnValue result.encode raw.arch.callAdvance

theorem breakpointLength_capture {kernel : Kernel σ} {raw : RawFrame}
    (h : kernel.cause raw.capture = .exception .breakpoint) :
    TrapDispatch.breakpointLength raw.capture = raw.breakpointLength := by
  cases raw with
  | x86 raw => rfl
  | arm raw => rfl
  | riscV raw =>
    have hcause : raw.scause = 3 := RiscV.cause_of_breakpoint h
    unfold TrapDispatch.breakpointLength breakpointLength
    change RiscV.instructionLength (if raw.scause = 3 then raw.parcel else raw.stval).toUInt16 = _
    rw [if_pos hcause]

end RawFrame

namespace X86.RawFrame

theorem resuming_counter (raw : RawFrame) (next : Frame) (counter : UInt64) (dirty : Dirty) :
    raw.resuming { next with counter, dirty } = { raw.resuming next with rip := counter } := by
  have hleading : leading { next with counter, dirty } = leading next := rfl
  unfold resuming
  rw [hleading]

theorem resuming_setReturnValue (raw : RawFrame) {next : Frame} (harch : next.arch = .x86_64)
    (value : UInt64) :
    raw.resuming (next.setReturnValue value) = { raw.resuming next with rax := value } := by
  have hleading : leading (next.setReturnValue value) = (leading next).set 0 value := by
    ext i hi
    simp [leading, Frame.setReturnValue, harch, Arch.returnRegister, Vector.getElem_set]
  unfold resuming
  rw [hleading]
  simp [withRegisters, Frame.setReturnValue]

end X86.RawFrame

namespace RawFrame

theorem resuming_advance (raw : RawFrame) (next : Frame) (bytes : UInt64) :
    raw.resuming (next.advance bytes) = (raw.resuming next).advanced bytes := by
  by_cases h : bytes = 0
  · rw [h, Frame.advance_zero, advanced_zero]
  · unfold Frame.advance
    rw [if_neg h]
    cases raw with
    | x86 raw => exact congrArg x86 (raw.resuming_counter next _ _)
    | arm raw => rfl
    | riscV raw => rfl

theorem resuming_setReturnValue (raw : RawFrame) {next : Frame} (harch : next.arch = raw.arch)
    (value : UInt64) :
    raw.resuming (next.setReturnValue value) = (raw.resuming next).withReturn value := by
  obtain ⟨arch, registers, counter, stack, status, privilege, vector, syndrome, fault, dirty⟩ :=
    next
  cases harch
  cases raw with
  | x86 raw => exact congrArg x86 (raw.resuming_setReturnValue rfl value)
  | arm raw => rfl
  | riscV raw =>
    -- The return register is not the stack pointer.
    have hregisters : (registers.set RiscV.a0 value RiscV.a0_lt).set RiscV.sp stack RiscV.sp_lt =
        (registers.set RiscV.sp stack RiscV.sp_lt).set RiscV.a0 value RiscV.a0_lt :=
      Vector.set_comm _ _ (by decide)
    exact congrArg (fun registers => riscV { raw with
      registers, sepc := counter, sstatus := RiscV.statusAt privilege status }) hregisters

/-- A context goes on with a result, and behind its instruction, where these are written back. -/
theorem resuming_afterCall (raw : RawFrame) {next : Frame} (harch : next.arch = raw.arch)
    (result : Option CallResult) :
    raw.resuming (next.afterCall result) = (raw.resuming next).afterCall result := by
  cases result with
  | none => rfl
  | some result =>
    unfold Frame.afterCall afterCall
    simp only
    rw [resuming_advance, resuming_setReturnValue raw harch, arch_resuming, harch]

/-- So does one that was captured. -/
theorem resuming_capture_afterCall {context raw : RawFrame} (harch : context.arch = raw.arch)
    (hlevel : context.privilege ≠ .monitor) (result : Option CallResult) :
    raw.resuming (context.capture.afterCall result) = (context.afterCall result).resumedIn raw := by
  rw [raw.resuming_afterCall (by rw [arch_capture, harch]), resuming_capture harch hlevel]
  cases result with
  | none => rfl
  | some result => cases context <;> cases raw <;> cases harch <;> rfl

end RawFrame

end TrapDispatch
