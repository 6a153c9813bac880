import TrapDispatch.Encoding.RiscV
import TrapDispatch.Interrupt.Controller
import TrapDispatch.Interrupt.Registers

/-!
# CLINT and PLIC

Two kinds of lines reach a hart. Local lines, numbered from 1024, are raised by
the timer and by software, and are masked in the hart's interrupt enables.
External lines, 1 to 1023, are multiplexed by the PLIC: a claim tells the line,
and writing it back completes it.
-/

namespace TrapDispatch

/-- A variable that computations in `m` can read and write. -/
structure Cell (m : Type → Type u) (α : Type) where
  get : m α
  set : α → m Unit

/-- Interrupt enables and pending bits of a hart. -/
structure LocalInterrupts (m : Type → Type u) where
  enable : UInt64 → m Unit
  disable : UInt64 → m Unit
  clearPending : UInt64 → m Unit

/-- The interrupt controller of one hart. -/
structure Plic (m : Type → Type u) where
  registers : RegisterBlock m
  hart : LocalInterrupts m
  /-- The hart's context at the PLIC. -/
  context : UInt64
  /-- Enable bits of the local lines that are masked. -/
  localMasked : Cell m UInt64

namespace Plic

/-- Number of local interrupt cause 0. -/
def localBase : UInt32 := 1024

/-- External sources; source 0 does not exist. -/
def sourceCount : UInt32 := 1024

def maxPriority : UInt8 := 7

/-- Layout of the registers. -/
def priorityOffset : UInt64 := 0x0000
def enableOffset : UInt64 := 0x2000
def enableStride : UInt64 := 0x80
def claimOffset : UInt64 := 0x200004
def contextStride : UInt64 := 0x1000

def localLine (cause : RiscV.InterruptCause) : Irq :=
  ⟨localBase + cause.code.toUInt32⟩

/-- Enable bit of a local line; the external cause is not one. -/
def localFlag (irq : Irq) : Option UInt64 :=
  if irq = localLine .software then some 0x2
  else if irq = localLine .timer then some 0x20
  else none

/-- Whether a line is an external source. -/
def isExternal (irq : Irq) : Bool :=
  0 < irq.number && irq.number < sourceCount

variable {m : Type → Type u} [Monad m] (plic : Plic m)

/-- Offset of the context's claim register. -/
def claimRegister : UInt64 :=
  claimOffset + contextStride * plic.context

/-- Offset of the context's enable word for a source. -/
def enableWord (source : UInt32) : UInt64 :=
  enableOffset + enableStride * plic.context + 4 * (source.toUInt64 / 32)

def setEnabled (irq : Irq) (enabled : Bool) : m Unit := do
  if isExternal irq then
    let offset := plic.enableWord irq.number
    let bit := (1 : UInt32) <<< (irq.number % 32)
    let word ← plic.registers.read32 offset
    plic.registers.write32 offset (if enabled then word ||| bit else word &&& ~~~bit)
  else match localFlag irq with
    | none => return ()
    | some flag =>
      let masked ← plic.localMasked.get
      if enabled then
        plic.localMasked.set (masked &&& ~~~flag)
        plic.hart.enable flag
      else
        plic.localMasked.set (masked ||| flag)
        plic.hart.disable flag

def isLocalMasked (irq : Irq) : m Bool := do
  match localFlag irq with
  | none => return false
  | some flag => return (← plic.localMasked.get) &&& flag ≠ 0

/-- A local line, unless it is masked. -/
def localPending (cause : RiscV.InterruptCause) : m (Option Irq) := do
  return if ← plic.isLocalMasked (localLine cause) then none else some (localLine cause)

/-- The line behind a vector; an external one is claimed. -/
def pending (vector : UInt64) : m (Option Irq) := do
  if vector < RiscV.interruptBase then return none
  let cause := vector - RiscV.interruptBase
  if cause = RiscV.InterruptCause.external.code then
    let claimed ← plic.registers.read32 plic.claimRegister
    return if claimed = 0 then none else some ⟨claimed⟩
  if cause = RiscV.InterruptCause.timer.code then plic.localPending .timer
  else if cause = RiscV.InterruptCause.software.code then plic.localPending .software
  else return none

/-- Clears the pending bit of the software line; the claim acknowledged external
lines, and the scheduler re-arms the timer. -/
def acknowledge (irq : Irq) : m Unit := do
  if irq = localLine .software then plic.hart.clearPending 0x2

/-- Completes an external line. -/
def endOfInterrupt (irq : Irq) : m Unit := do
  if isExternal irq then plic.registers.write32 plic.claimRegister irq.number

/-- Sets the priority of an external source. -/
def setPriority (irq : Irq) (level : UInt8) : m (Except ControllerError Unit) := do
  if (localFlag irq).isSome then return .error .priorityUnsupported
  if isExternal irq = false then return .error (.invalidIrq irq)
  if maxPriority < level then return .error (.invalidPriority level)
  plic.registers.write32 (priorityOffset + 4 * irq.number.toUInt64) level.toUInt32
  return .ok ()

/-- The driver of a hart's controller; every line is level-triggered. -/
def controller : Controller m where
  name := "clint-plic"
  triggerMode _ := pure .level
  pending := plic.pending
  mask irq := plic.setEnabled irq false
  unmask irq := plic.setEnabled irq true
  acknowledge := plic.acknowledge
  endOfInterrupt := plic.endOfInterrupt
  setPriority := plic.setPriority

end Plic
end TrapDispatch
