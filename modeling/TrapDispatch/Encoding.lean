import TrapDispatch.Encoding.Arm
import TrapDispatch.Encoding.RiscV
import TrapDispatch.Encoding.X86

/-!
# Trap encodings

Selects the encoding of an architecture. Unassigned slots, and software traps
raised from below the level of their slot, are decided here for all of them.
-/

namespace TrapDispatch

def Arch.vectorInfo : Arch → UInt64 → VectorInfo
  | .x86_64 => X86.vectorInfo
  | .aarch64 => Arm.vectorInfo
  | .riscv64 => RiscV.vectorInfo

/-- Bytes to step over a breakpoint that trapped. `int3` reports the address
behind itself; the others report their own, and a RISC-V breakpoint has the
length of its parcel. -/
def breakpointLength (frame : Frame) : UInt64 :=
  match frame.arch with
  | .x86_64 => 0
  | .aarch64 => 4
  | .riscv64 => RiscV.instructionLength frame.faultAddress.toUInt16

/-- Classifies a trap taken through a slot. -/
def Cause.ofTrap (frame : Frame) (entry : VectorEntry) : Cause :=
  if entry.assigned = false then .unassigned
  else if entry.trapClass = .software ∧ frame.privilege.rank < entry.minPrivilege.rank then
    .exception .generalProtection
  else
    match frame.arch with
    | .x86_64 => X86.decode frame entry
    | .aarch64 => Arm.decode frame entry
    | .riscv64 => RiscV.decode frame entry

/-- A register frame in the layout of one architecture. -/
inductive RawFrame where
  | x86 (raw : X86.RawFrame)
  | arm (raw : Arm.RawFrame)
  | riscV (raw : RiscV.RawFrame)
  deriving DecidableEq

namespace RawFrame

def privilege : RawFrame → Privilege
  | x86 raw => raw.privilege
  | arm raw => raw.privilege
  | riscV raw => raw.privilege

def capture : RawFrame → Frame
  | x86 raw => raw.capture
  | arm raw => raw.capture
  | riscV raw => raw.capture

/-- Writes back what changed in the generic view. -/
def restore (frame : Frame) : RawFrame → RawFrame
  | x86 raw => x86 (raw.restore frame)
  | arm raw => arm (raw.restore frame)
  | riscV raw => riscV (raw.restore frame)

theorem restore_capture (raw : RawFrame) : raw.restore raw.capture = raw := by
  cases raw <;> rfl

end RawFrame
end TrapDispatch
