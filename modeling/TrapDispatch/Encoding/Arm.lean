import TrapDispatch.Cause
import TrapDispatch.Vector

/-!
# The AArch64 trap encoding

The vector table has four groups of four entries: synchronous, IRQ, FIQ and
system error, for the current level on either stack and for lower levels. Only
the kernel's own stack and 64-bit user code are in use. Synchronous entries are
told apart by the syndrome, which may turn one into a system call.
-/

namespace TrapDispatch.Arm

/-- Alignment the vector base register asks for. -/
def tableAlignment : UInt64 := 0x800

/-- Bits of the saved status that hold the exception level. -/
def levelField : UInt64 := 0xC

/-- `svc #0`: x8; x0 to x5; the result in x0. -/
def svcConvention : Convention :=
  { number := 8
    arguments := #v[0, 1, 2, 3, 4, 5]
    result := 0
    advance := 0 }

/-- Position of an entry within its group. -/
inductive EntryKind where
  | sync
  | irq
  | fiq
  | systemError
  deriving DecidableEq, Repr

namespace EntryKind

def ofVector (vector : UInt64) : EntryKind :=
  match (vector % 4).toNat with
  | 0 => sync
  | 1 => irq
  | 2 => fiq
  | _ => systemError

def name : EntryKind → String
  | sync => "Sync"
  | irq => "Irq"
  | fiq => "Fiq"
  | systemError => "SError"

end EntryKind

/-- Exception class field of the syndrome. -/
inductive ExceptionClass where
  | unknown
  | waitInstruction
  | illegalExecution
  | svc
  | instructionAbortLower
  | instructionAbortSame
  | counterAlignment
  | dataAbortLower
  | dataAbortSame
  | stackAlignment
  | floatingPoint
  | systemError
  | breakpointLower
  | breakpointSame
  | stepLower
  | stepSame
  | watchpointLower
  | watchpointSame
  | brk
  | other
  deriving DecidableEq, Repr

namespace ExceptionClass

/-- Class of a syndrome: its bits 26 to 31. -/
def ofSyndrome (syndrome : UInt64) : ExceptionClass :=
  match ((syndrome >>> 26) &&& 0x3F).toNat with
  | 0x00 => unknown
  | 0x01 => waitInstruction
  | 0x0E => illegalExecution
  | 0x15 => svc
  | 0x20 => instructionAbortLower
  | 0x21 => instructionAbortSame
  | 0x22 => counterAlignment
  | 0x24 => dataAbortLower
  | 0x25 => dataAbortSame
  | 0x26 => stackAlignment
  | 0x2C => floatingPoint
  | 0x2F => systemError
  | 0x30 => breakpointLower
  | 0x31 => breakpointSame
  | 0x32 => stepLower
  | 0x33 => stepSame
  | 0x34 => watchpointLower
  | 0x35 => watchpointSame
  | 0x3C => brk
  | _ => other

def name : ExceptionClass → String
  | unknown => "Unknown"
  | waitInstruction => "WfiWfe"
  | illegalExecution => "IllegalExecution"
  | svc => "SvcAarch64"
  | instructionAbortLower => "InstructionAbortLowerEl"
  | instructionAbortSame => "InstructionAbortSameEl"
  | counterAlignment => "PcAlignment"
  | dataAbortLower => "DataAbortLowerEl"
  | dataAbortSame => "DataAbortSameEl"
  | stackAlignment => "SpAlignment"
  | floatingPoint => "FpException"
  | systemError => "SError"
  | breakpointLower => "BreakpointLowerEl"
  | breakpointSame => "BreakpointSameEl"
  | stepLower => "SoftwareStepLowerEl"
  | stepSame => "SoftwareStepSameEl"
  | watchpointLower => "WatchpointLowerEl"
  | watchpointSame => "WatchpointSameEl"
  | brk => "Brk"
  | other => "Other"

end ExceptionClass

/-- Registers as the trampoline lays them out on the stack. -/
structure RawFrame where
  registers : Vector UInt64 31 := Vector.replicate 31 0
  sp : UInt64 := 0
  elr : UInt64 := 0
  spsr : UInt64 := 0
  esr : UInt64 := 0
  far : UInt64 := 0
  vector : UInt64 := 0
  deriving DecidableEq

namespace RawFrame

/-- Level the trap was taken from: bits 2 and 3 of the saved status. -/
def privilege (raw : RawFrame) : Privilege :=
  Privilege.ofExceptionLevel ((raw.spsr >>> 2) &&& 3).toUInt8

def capture (raw : RawFrame) : Frame :=
  { arch := .aarch64
    registers := raw.registers
    counter := raw.elr
    stack := raw.sp
    status := raw.spsr
    privilege := raw.privilege
    vector := raw.vector
    syndrome := raw.esr
    faultAddress := raw.far
    dirty := {} }

/-- Writes back what changed in the generic view. -/
def restore (raw : RawFrame) (frame : Frame) : RawFrame :=
  if frame.dirty.context then
    let level : UInt64 := if frame.privilege = .user then 0 else 1
    { raw with
      registers := frame.registers
      elr := frame.counter
      sp := frame.stack
      spsr := (frame.status &&& ~~~levelField) ||| (level <<< 2) }
  else
    { raw with
      registers :=
        if frame.dirty.returnValue then raw.registers.set 0 (frame.register 0) else raw.registers
      elr := if frame.dirty.counter then frame.counter else raw.elr }

end RawFrame

def vectorInfo (vector : UInt64) : VectorInfo :=
  let describe (syncLevel : Privilege) : VectorInfo :=
    match EntryKind.ofVector vector with
    | .sync => .defined .exception syncLevel
    | .irq | .fiq => .defined .interrupt .kernel
    | .systemError => .defined .exception .kernel
  if vector / 4 = 1 then describe .kernel
  else if vector / 4 = 2 then describe .user
  else .undefined

/-- The fault behind an abort, told by its status code. -/
def abortKind (frame : Frame) (access : Access) : ExceptionKind :=
  let status := frame.syndrome &&& 0x3F
  if 0x04 ≤ status ∧ status ≤ 0x0F then .pageFault ⟨frame.faultAddress⟩ access
  else if status = 0x21 then .alignment
  else if status = 0x10 then .machineCheck
  else .generalProtection

/-- Classifies a trap through a synchronous entry. -/
def decodeSync (frame : Frame) : Cause :=
  match ExceptionClass.ofSyndrome frame.syndrome with
  | .svc => .syscall svcConvention
  | .unknown | .illegalExecution => .exception .illegalInstruction
  | .dataAbortLower | .dataAbortSame =>
    .exception (abortKind frame (if frame.syndrome &&& 0x40 ≠ 0 then .write else .read))
  | .instructionAbortLower | .instructionAbortSame => .exception (abortKind frame .execute)
  | .counterAlignment | .stackAlignment => .exception .alignment
  | .floatingPoint => .exception .floatingPoint
  | .systemError => .exception .machineCheck
  | .brk => .exception .breakpoint
  | .breakpointLower | .breakpointSame | .stepLower | .stepSame
  | .watchpointLower | .watchpointSame => .exception .debug
  | .waitInstruction | .other => .exception (.other frame.syndrome)

/-- Classifies a trap through an assigned slot. -/
def decode (frame : Frame) (entry : VectorEntry) : Cause :=
  match EntryKind.ofVector entry.vector with
  | .irq | .fiq => .interrupt
  | .systemError => .exception .machineCheck
  | .sync => decodeSync frame

end TrapDispatch.Arm
