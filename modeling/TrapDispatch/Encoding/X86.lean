import TrapDispatch.Cause
import TrapDispatch.Vector

/-!
# The x86_64 trap encoding

Vectors 0 to 31 are processor exceptions, 32 to 255 device interrupts, and 0x80
the legacy system call gate. The `syscall` instruction enters with vector 0x80
too and is told apart by the tag in its error code.
-/

namespace TrapDispatch.X86

/-- First device interrupt vector. -/
def interruptBase : UInt64 := 32

def syscallVector : UInt64 := 0x80

/-- Error code that the `syscall` entry supplies. -/
def syscallTag : UInt64 := 1

/-- Selectors of the kernel and user segments. -/
def kernelCode : UInt64 := 0x08
def kernelData : UInt64 := 0x10
def userData : UInt64 := 0x1B
def userCode : UInt64 := 0x23

/-- `syscall`: rax; rdi, rsi, rdx, r10, r8, r9. The saved address is already past
the instruction. -/
def syscallConvention : Convention :=
  { number := 0
    arguments := #v[5, 4, 3, 9, 7, 8]
    result := 0
    advance := 0 }

/-- `int 0x80`: rax; rbx, rcx, rdx, rsi, rdi, rbp. -/
def gateConvention : Convention :=
  { number := 0
    arguments := #v[1, 2, 3, 4, 5, 6]
    result := 0
    advance := 0 }

/-- The always-one bit of the flags register. -/
def reservedFlag : UInt64 := 0x2

/-- Flags that `syscall` clears: trap, interrupt enable and direction. -/
def maskedFlags : UInt64 := 0x700

/-- Selector bases from which `sysret` and `syscall` compute their segments. -/
def selectorBases : UInt16 × UInt16 :=
  ((userData - 8).toUInt16, kernelCode.toUInt16)

/-- Registers as the trampoline lays them out on the stack. -/
structure RawFrame where
  cr2 : UInt64 := 0
  r15 : UInt64 := 0
  r14 : UInt64 := 0
  r13 : UInt64 := 0
  r12 : UInt64 := 0
  r11 : UInt64 := 0
  r10 : UInt64 := 0
  r9 : UInt64 := 0
  r8 : UInt64 := 0
  rbp : UInt64 := 0
  rdi : UInt64 := 0
  rsi : UInt64 := 0
  rdx : UInt64 := 0
  rcx : UInt64 := 0
  rbx : UInt64 := 0
  rax : UInt64 := 0
  vector : UInt64 := 0
  errorCode : UInt64 := 0
  rip : UInt64 := 0
  cs : UInt64 := 0
  rflags : UInt64 := 0
  rsp : UInt64 := 0
  ss : UInt64 := 0
  deriving DecidableEq, Repr

namespace RawFrame

/-- The general registers in the order of the generic frame. -/
def registers (raw : RawFrame) : Vector UInt64 15 :=
  #v[raw.rax, raw.rbx, raw.rcx, raw.rdx, raw.rsi, raw.rdi, raw.rbp, raw.r8,
    raw.r9, raw.r10, raw.r11, raw.r12, raw.r13, raw.r14, raw.r15]

def withRegisters (raw : RawFrame) (values : Vector UInt64 15) : RawFrame :=
  { raw with
    rax := values[0], rbx := values[1], rcx := values[2], rdx := values[3]
    rsi := values[4], rdi := values[5], rbp := values[6], r8 := values[7]
    r9 := values[8], r10 := values[9], r11 := values[10], r12 := values[11]
    r13 := values[12], r14 := values[13], r15 := values[14] }

@[simp] theorem registers_withRegisters (raw : RawFrame) (values : Vector UInt64 15) :
    (raw.withRegisters values).registers = values := by
  ext i hi
  match i, hi with
  | 0, _ | 1, _ | 2, _ | 3, _ | 4, _ | 5, _ | 6, _ | 7, _ => rfl
  | 8, _ | 9, _ | 10, _ | 11, _ | 12, _ | 13, _ | 14, _ => rfl

def privilege (raw : RawFrame) : Privilege :=
  Privilege.ofRing (raw.cs &&& 3).toUInt8

def capture (raw : RawFrame) : Frame :=
  { arch := .x86_64
    registers := raw.registers ++ Vector.replicate 16 (0 : UInt64)
    counter := raw.rip
    stack := raw.rsp
    status := raw.rflags
    privilege := raw.privilege
    vector := raw.vector
    syndrome := raw.errorCode
    faultAddress := raw.cr2
    dirty := {} }

/-- The first fifteen registers of a generic frame. -/
def leading (frame : Frame) : Vector UInt64 15 :=
  Vector.ofFn fun index : Fin 15 => frame.registers[index]

/-- Writes back what changed in the generic view. -/
def restore (raw : RawFrame) (frame : Frame) : RawFrame :=
  if frame.dirty.context then
    let (code, data) :=
      if frame.privilege = .user then (userCode, userData) else (kernelCode, kernelData)
    { raw.withRegisters (leading frame) with
      rip := frame.counter
      rsp := frame.stack
      rflags := frame.status ||| reservedFlag
      cs := code
      ss := data }
  else
    { raw with
      rax := if frame.dirty.returnValue then frame.register 0 else raw.rax
      rip := if frame.dirty.counter then frame.counter else raw.rip }

end RawFrame

def vectorInfo (vector : UInt64) : VectorInfo :=
  if vector = 3 ∨ vector = 4 then .defined .exception .user
  else if vector = 9 ∨ vector = 15 ∨ (22 ≤ vector ∧ vector ≤ 27) ∨ vector = 31 then .undefined
  else if vector < interruptBase then .defined .exception .kernel
  else if vector = syscallVector then .defined .software .user
  else if vector ≤ 255 then .defined .interrupt .kernel
  else .undefined

/-- What a page fault's error code says about the access. -/
def faultAccess (errorCode : UInt64) : Access :=
  if errorCode &&& 0x10 ≠ 0 then .execute
  else if errorCode &&& 0x2 ≠ 0 then .write
  else .read

def exceptionKind (frame : Frame) : ExceptionKind :=
  match frame.vector.toNat with
  | 0 => .divideByZero
  | 1 => .debug
  | 3 => .breakpoint
  | 6 => .illegalInstruction
  | 7 | 16 | 19 => .floatingPoint
  | 8 => .doubleFault
  | 10 | 11 | 12 | 13 | 21 => .generalProtection
  | 14 => .pageFault ⟨frame.faultAddress⟩ (faultAccess frame.syndrome)
  | 17 => .alignment
  | 18 => .machineCheck
  | _ => .other frame.vector

/-- Classifies a trap through an assigned slot. -/
def decode (frame : Frame) (entry : VectorEntry) : Cause :=
  match entry.trapClass with
  | .interrupt => .interrupt
  | .software =>
    .syscall (if frame.syndrome = syscallTag then syscallConvention else gateConvention)
  | .exception => .exception (exceptionKind frame)

end TrapDispatch.X86
