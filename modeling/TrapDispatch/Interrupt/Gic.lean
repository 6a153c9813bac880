import TrapDispatch.Interrupt.Controller
import TrapDispatch.Interrupt.Registers
import TrapDispatch.Log.Record
import TrapDispatch.Log.Target

/-!
# The ARM generic interrupt controller

The distributor holds an enable bit, a priority byte and a two-bit trigger
configuration for every line. Version 3 keeps those of the private lines, below
32, in a redistributor. The interface of a CPU tells the pending line, hands it
out once, and takes its end.
-/

namespace TrapDispatch

/-- A controller; one with a redistributor is of version 3. -/
structure Gic (m : Type → Type u) where
  distributor : RegisterBlock m
  redistributor : Option (RegisterBlock m)
  cpuInterface : RegisterBlock m

namespace Gic

/-- Line number that says that nothing is pending. -/
def spuriousLine : UInt32 := 1023

/-- First shared line. -/
def sharedBase : UInt32 := 32

/-- Largest line number the driver accepts. -/
def maxLine : UInt32 := 1019

/-- Bits of the line number in the registers of the CPU interface. -/
def lineField : UInt32 := 0x3FF

/-- Offsets of the register arrays. -/
def setEnable : UInt64 := 0x100
def clearEnable : UInt64 := 0x180
def priorities : UInt64 := 0x400
def configuration : UInt64 := 0xC00

/-- Offsets in the CPU interface: acknowledge, end, and highest pending line. -/
def acknowledgeOffset : UInt64 := 0x0C
def endOffset : UInt64 := 0x10
def pendingOffset : UInt64 := 0x18

/-- Offset of the private lines' registers in a redistributor. -/
def privateFrame : UInt64 := 0x10000

variable {m : Type → Type u} [Monad m] (gic : Gic m)

def version : String :=
  if gic.redistributor.isSome then "V3" else "V2"

def name : String :=
  if gic.redistributor.isSome then "gicv3" else "gicv2"

/-- The highest pending line, left pending. -/
def peek : m (Option Irq) := do
  let line := (← gic.cpuInterface.read32 pendingOffset) &&& lineField
  return if line = spuriousLine then none else some ⟨line⟩

/-- Block that holds the registers of a line, and where they start there. -/
def bank (irq : Irq) : RegisterBlock m × UInt64 :=
  match gic.redistributor with
  | some redistributor =>
    if irq.number < sharedBase then (redistributor, privateFrame) else (gic.distributor, 0)
  | none => (gic.distributor, 0)

/-- Writes a word in which only the bit of a line is set. -/
def writeEnableBit (irq : Irq) (array : UInt64) : m Unit :=
  let (io, base) := gic.bank irq
  io.write32 (base + array + 4 * (irq.number.toUInt64 / 32)) ((1 : UInt32) <<< (irq.number % 32))

/-- How a line signals; software lines are edge-triggered. -/
def triggerMode (irq : Irq) : m TriggerMode := do
  if irq.number < 16 then return .edge
  let (io, base) := gic.bank irq
  let word ← io.read32 (base + configuration + 4 * (irq.number.toUInt64 / 16))
  let bit := (1 : UInt32) <<< (2 * (irq.number % 16) + 1)
  return if word &&& bit ≠ 0 then .edge else .level

/-- Takes the pending line. The acknowledge register is left alone if nothing is
pending. -/
def pending [MonadRecord m] : m (Option Irq) := do
  match ← gic.peek with
  | none => return none
  | some _ =>
    let line := (← gic.cpuInterface.read32 acknowledgeOffset) &&& lineField
    if line = spuriousLine then
      recordAt .warn LogTarget.gic s!"{gic.name}: spurious interrupt"
      return none
    return some ⟨line⟩

def mask (irq : Irq) : m Unit := do
  if irq.number ≤ maxLine then gic.writeEnableBit irq clearEnable

def unmask (irq : Irq) : m Unit := do
  if irq.number ≤ maxLine then gic.writeEnableBit irq setEnable

/-- Sets the priority byte of a line. -/
def setPriority (irq : Irq) (level : UInt8) : m (Except ControllerError Unit) := do
  if maxLine < irq.number then return .error (.invalidIrq irq)
  let (io, base) := gic.bank irq
  let offset := base + priorities + (irq.number.toUInt64 &&& ~~~3)
  let shift := (irq.number &&& 3) * 8
  let word ← io.read32 offset
  io.write32 offset (withLaneByte word shift level)
  return .ok ()

def controller [MonadRecord m] : Controller m where
  name := gic.name
  triggerMode := gic.triggerMode
  pending _ := gic.pending
  mask := gic.mask
  unmask := gic.unmask
  acknowledge _ := pure ()
  endOfInterrupt irq := gic.cpuInterface.write32 endOffset irq.number
  setPriority := gic.setPriority

end Gic
end TrapDispatch
