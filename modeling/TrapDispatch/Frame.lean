import TrapDispatch.Arch
import TrapDispatch.Privilege

/-!
# Trap frames

The architecture-neutral registers of an interrupted context. The code that runs
on behalf of a trap changes them in three ways: it writes the return register,
moves the program counter past the trapping instruction, or replaces the whole
context. Each way leaves a mark, and restoring writes back only what is marked.
-/

namespace TrapDispatch

/-- Which parts of a frame changed since it was captured. -/
structure Dirty where
  returnValue : Bool := false
  counter : Bool := false
  context : Bool := false
  deriving DecidableEq, Repr, Inhabited

namespace Dirty

def any (dirty : Dirty) : Bool :=
  dirty.returnValue || dirty.counter || dirty.context

end Dirty

/-- Registers of an interrupted context, in the order of its architecture. -/
structure Frame where
  arch : Arch
  registers : Vector UInt64 31
  counter : UInt64
  stack : UInt64
  status : UInt64
  privilege : Privilege
  vector : UInt64
  syndrome : UInt64
  faultAddress : UInt64
  dirty : Dirty
  deriving DecidableEq

namespace Frame

def fresh (arch : Arch) (privilege : Privilege) : Frame :=
  { arch, privilege
    registers := Vector.replicate 31 0
    counter := 0
    stack := 0
    status := 0
    vector := 0
    syndrome := 0
    faultAddress := 0
    dirty := {} }

instance : Inhabited Frame := ⟨fresh .x86_64 .user⟩

/-- A saved register; zero past the registers of the architecture. -/
def register (frame : Frame) (index : Nat) : UInt64 :=
  if index < frame.arch.registerCount then frame.registers[index]?.getD 0 else 0

/-- Sets a saved register; positions past those of the architecture are ignored. -/
def withRegister (frame : Frame) (index : Nat) (value : UInt64) : Frame :=
  if index < frame.arch.registerCount then
    { frame with registers := frame.registers.setIfInBounds index value }
  else frame

/-- The saved registers of the architecture, in order. -/
def savedRegisters (frame : Frame) : List UInt64 :=
  frame.registers.toList.take frame.arch.registerCount

/-- The value of the system call return register. -/
def returnValue (frame : Frame) : UInt64 :=
  frame.registers[frame.arch.returnRegister]

def setReturnValue (frame : Frame) (value : UInt64) : Frame :=
  { frame with
    registers := frame.registers.set frame.arch.returnRegister value
    dirty := { frame.dirty with returnValue := true } }

@[simp] theorem returnValue_setReturnValue (frame : Frame) (value : UInt64) :
    (frame.setReturnValue value).returnValue = value := by
  simp [returnValue, setReturnValue]

/-- Steps over `bytes` bytes of code; a step of zero bytes is no change. -/
def advance (frame : Frame) (bytes : UInt64) : Frame :=
  if bytes = 0 then frame
  else { frame with
    counter := frame.counter + bytes
    dirty := { frame.dirty with counter := true } }

@[simp] theorem advance_zero (frame : Frame) : frame.advance 0 = frame := by
  simp [advance]

theorem counter_advance (frame : Frame) (bytes : UInt64) :
    (frame.advance bytes).counter = frame.counter + bytes := by
  unfold advance
  split <;> simp_all

/-- Replaces the context. What identifies the current trap is kept: it says how
the trap was entered, not where it returns to. -/
def switchTo (frame next : Frame) : Frame :=
  { frame with
    registers := next.registers
    counter := next.counter
    stack := next.stack
    status := next.status
    privilege := next.privilege
    dirty := { frame.dirty with context := true } }

def isModified (frame : Frame) : Bool :=
  frame.dirty.any

end Frame
end TrapDispatch
