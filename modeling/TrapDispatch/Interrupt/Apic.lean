import TrapDispatch.Interrupt.Controller
import TrapDispatch.Interrupt.Registers

/-!
# Local APIC and I/O APIC

Lines are routed by the redirection table of the I/O APIC, whose registers are
reached through a select register and a data window. The local APIC takes part
at the end of an interrupt only.
-/

namespace TrapDispatch.Apic

/-- Vector of line 0. -/
def vectorBase : UInt64 := 32

def spuriousVector : UInt64 := 0xFF

/-- Lines of the I/O APIC. -/
def lineCount : UInt32 := 24

/-- Local register that ends an interrupt. -/
def localEnd : UInt64 := 0xB0

/-- Select register and data window of the I/O APIC. -/
def selectOffset : UInt64 := 0x00
def windowOffset : UInt64 := 0x10

/-- Bits of a redirection entry. -/
def maskedBit : UInt32 := 0x10000
def levelBit : UInt32 := 0x8000

/-- Register index of the low half of a line's redirection entry. -/
def redirectionIndex (irq : Irq) : UInt32 :=
  0x10 + 2 * irq.number

variable {m : Type → Type u} [Monad m] (localApic ioApic : RegisterBlock m)

/-- Reads the low half of a redirection entry. -/
def readRedirection (irq : Irq) : m UInt32 := do
  ioApic.write32 selectOffset (redirectionIndex irq)
  ioApic.read32 windowOffset

/-- Changes the low half of a redirection entry. -/
def updateRedirection (irq : Irq) (change : UInt32 → UInt32) : m Unit := do
  ioApic.write32 selectOffset (redirectionIndex irq)
  let entry ← ioApic.read32 windowOffset
  ioApic.write32 windowOffset (change entry)

/-- How a line signals; lines the table does not have are edge-triggered. -/
def triggerMode (irq : Irq) : m TriggerMode := do
  if lineCount ≤ irq.number then return .edge
  return if (← readRedirection ioApic irq) &&& levelBit ≠ 0 then .level else .edge

/-- The line behind a vector. -/
def pending (vector : UInt64) : Option Irq :=
  if vector = spuriousVector ∨ vector < vectorBase then none
  else some ⟨(vector - vectorBase).toUInt32⟩

/-- Sets the mask bit of a line. -/
def mask (irq : Irq) : m Unit := do
  if irq.number < lineCount then updateRedirection ioApic irq (· ||| maskedBit)

/-- Clears the mask bit of a line. -/
def unmask (irq : Irq) : m Unit := do
  if irq.number < lineCount then updateRedirection ioApic irq (· &&& ~~~maskedBit)

def controller : Controller m where
  name := "apic"
  triggerMode := triggerMode ioApic
  pending vector := pure (pending vector)
  mask := mask ioApic
  unmask := unmask ioApic
  acknowledge _ := pure ()
  endOfInterrupt _ := localApic.write32 localEnd 0
  setPriority _ _ := pure (.error .priorityUnsupported)

end TrapDispatch.Apic
