import TrapDispatch.Cause
import TrapDispatch.Vector

/-!
# The RISC-V trap encoding

All traps enter one trampoline; the vector is the cause itself. Exception code
`c` is vector `c`, interrupt code `i` is vector `16 + i`, and a code from 16 up
has no vector.
-/

namespace TrapDispatch.RiscV

/-- First vector of an interrupt. -/
def interruptBase : UInt64 := 16

/-- Vector of a cause outside the table. -/
def vectorLimit : UInt64 := 32

/-- Bit of the cause register that marks an interrupt. -/
def interruptFlag : UInt64 := 0x8000000000000000

/-- `ecall`: a7; a0 to a5; the result in a0. The saved address is that of the
instruction. -/
def ecallConvention : Convention :=
  { number := 16
    arguments := #v[9, 10, 11, 12, 13, 14]
    result := 9
    advance := 4 }

/-- Exception causes with a defined meaning. -/
inductive ExceptionCause where
  | instructionMisaligned
  | instructionAccess
  | illegalInstruction
  | breakpoint
  | loadMisaligned
  | loadAccess
  | storeMisaligned
  | storeAccess
  | callFromUser
  | callFromSupervisor
  | instructionPage
  | loadPage
  | storePage
  deriving DecidableEq, Repr

namespace ExceptionCause

/-- Cause of an exception code; reserved codes have none. -/
def ofCode (code : UInt64) : Option ExceptionCause :=
  match code.toNat with
  | 0 => some instructionMisaligned
  | 1 => some instructionAccess
  | 2 => some illegalInstruction
  | 3 => some breakpoint
  | 4 => some loadMisaligned
  | 5 => some loadAccess
  | 6 => some storeMisaligned
  | 7 => some storeAccess
  | 8 => some callFromUser
  | 9 => some callFromSupervisor
  | 12 => some instructionPage
  | 13 => some loadPage
  | 15 => some storePage
  | _ => none

def name : ExceptionCause → String
  | instructionMisaligned => "InstrAddrMisaligned"
  | instructionAccess => "InstrAccessFault"
  | illegalInstruction => "IllegalInstr"
  | breakpoint => "Breakpoint"
  | loadMisaligned => "LoadAddrMisaligned"
  | loadAccess => "LoadAccessFault"
  | storeMisaligned => "StoreAddrMisaligned"
  | storeAccess => "StoreAccessFault"
  | callFromUser => "EnvCallFromU"
  | callFromSupervisor => "EnvCallFromS"
  | instructionPage => "InstrPageFault"
  | loadPage => "LoadPageFault"
  | storePage => "StorePageFault"

end ExceptionCause

/-- Interrupt causes that reach supervisor mode. -/
inductive InterruptCause where
  | software
  | timer
  | external
  deriving DecidableEq, Repr

def InterruptCause.code : InterruptCause → UInt64
  | .software => 1
  | .timer => 5
  | .external => 9

/-- Bytes of the instruction with this lowest parcel: four if its two low bits
are set, else two. -/
def instructionLength (parcel : UInt16) : UInt64 :=
  if parcel &&& 3 = 3 then 4 else 2

def vectorOfCause (cause : UInt64) : UInt64 :=
  let code := cause &&& ~~~interruptFlag
  let base := if cause &&& interruptFlag ≠ 0 then interruptBase else 0
  if code < interruptBase then base + code else vectorLimit

/-- Registers as the trampoline lays them out on the stack; `registers` holds x1
to x31. -/
structure RawFrame where
  registers : Vector UInt64 31 := Vector.replicate 31 0
  sepc : UInt64 := 0
  sstatus : UInt64 := 0
  scause : UInt64 := 0
  stval : UInt64 := 0
  parcel : UInt64 := 0
  deriving DecidableEq

/-- Status bit saying that the trap came from supervisor mode. -/
def previousSupervisor : UInt64 := 0x100

namespace RawFrame

def privilege (raw : RawFrame) : Privilege :=
  if raw.sstatus &&& previousSupervisor ≠ 0 then .kernel else .user

/-- The generic view. A breakpoint reports its instruction parcel where other
traps report the faulting address. -/
def capture (raw : RawFrame) : Frame :=
  { arch := .riscv64
    registers := raw.registers
    counter := raw.sepc
    stack := raw.registers[1]
    status := raw.sstatus
    privilege := raw.privilege
    vector := vectorOfCause raw.scause
    syndrome := raw.scause
    faultAddress := if raw.scause = 3 then raw.parcel else raw.stval
    dirty := {} }

/-- Writes back what changed in the generic view. -/
def restore (raw : RawFrame) (frame : Frame) : RawFrame :=
  if frame.dirty.context then
    { raw with
      registers := frame.registers.set 1 frame.stack
      sepc := frame.counter
      sstatus :=
        if frame.privilege = .user then frame.status &&& ~~~previousSupervisor
        else frame.status ||| previousSupervisor }
  else
    { raw with
      registers :=
        if frame.dirty.returnValue then raw.registers.set 9 (frame.register 9) else raw.registers
      sepc := if frame.dirty.counter then frame.counter else raw.sepc }

end RawFrame

def vectorInfo (vector : UInt64) : VectorInfo :=
  if interruptBase ≤ vector then
    let code := vector - interruptBase
    if code = InterruptCause.software.code ∨ code = InterruptCause.timer.code
        ∨ code = InterruptCause.external.code then .defined .interrupt .kernel
    else .undefined
  else
    match ExceptionCause.ofCode vector with
    | some .callFromUser => .defined .software .user
    | some .breakpoint => .defined .exception .user
    | some .callFromSupervisor | none => .undefined
    | some _ => .defined .exception .kernel

def exceptionKind (frame : Frame) (vector : UInt64) : ExceptionKind :=
  match ExceptionCause.ofCode vector with
  | some .instructionMisaligned | some .loadMisaligned | some .storeMisaligned => .alignment
  | some .instructionAccess | some .loadAccess | some .storeAccess => .generalProtection
  | some .illegalInstruction => .illegalInstruction
  | some .breakpoint => .breakpoint
  | some .instructionPage => .pageFault ⟨frame.faultAddress⟩ .execute
  | some .loadPage => .pageFault ⟨frame.faultAddress⟩ .read
  | some .storePage => .pageFault ⟨frame.faultAddress⟩ .write
  | some .callFromUser | some .callFromSupervisor | none => .other frame.syndrome

/-- Classifies a trap through an assigned slot. -/
def decode (frame : Frame) (entry : VectorEntry) : Cause :=
  match entry.trapClass with
  | .interrupt => .interrupt
  | .software => .syscall ecallConvention
  | .exception => .exception (exceptionKind frame entry.vector)

end TrapDispatch.RiscV
