import TrapDispatch.Vector.Table

/-!
# Interrupt gates

The sixteen-byte descriptors of the x86_64 interrupt table. The target address
is spread over three fields; the attribute byte says that the gate is present,
that it closes interrupts on entry, and which ring may raise it.
-/

namespace TrapDispatch.X86

/-- One gate descriptor; the default is not present. -/
structure Gate where
  offsetLow : UInt16 := 0
  selector : UInt16 := 0
  stackIndex : UInt8 := 0
  attributes : UInt8 := 0
  offsetMiddle : UInt16 := 0
  offsetHigh : UInt32 := 0
  reserved : UInt32 := 0
  deriving DecidableEq, Repr, Inhabited

/-- Attribute bits of a present gate of the interrupt kind. -/
def presentInterruptGate : UInt8 := 0x8E

/-- Attributes of a present interrupt gate for a ring. -/
def gateAttributes (ring : UInt8) : UInt8 :=
  presentInterruptGate ||| ((ring &&& 3) <<< 5)

/-- Ring that may raise a gate with these attributes. -/
def gateRing (attributes : UInt8) : UInt8 :=
  (attributes >>> 5) &&& 3

namespace Gate

/-- A present interrupt gate. -/
def interrupt (target : UInt64) (selector : UInt16) (ring : UInt8) : Gate :=
  { offsetLow := target.toUInt16
    selector
    attributes := gateAttributes ring
    offsetMiddle := (target >>> 16).toUInt16
    offsetHigh := (target >>> 32).toUInt32 }

def target (gate : Gate) : UInt64 :=
  gate.offsetLow.toUInt64 ||| (gate.offsetMiddle.toUInt64 <<< 16)
    ||| (gate.offsetHigh.toUInt64 <<< 32)

/-- The defined attribute bits. -/
def definedAttributes (gate : Gate) : UInt8 :=
  gate.attributes &&& 0xEE

/-- Memory image, least significant byte first in every field. -/
def bytes (gate : Gate) : List UInt8 :=
  let low16 (value : UInt16) : List UInt8 := [value.toUInt8, (value >>> 8).toUInt8]
  let low32 (value : UInt32) : List UInt8 :=
    [value.toUInt8, (value >>> 8).toUInt8, (value >>> 16).toUInt8, (value >>> 24).toUInt8]
  low16 gate.offsetLow ++ low16 gate.selector ++ [gate.stackIndex, gate.attributes]
    ++ low16 gate.offsetMiddle ++ low32 gate.offsetHigh ++ low32 gate.reserved

@[simp] theorem length_bytes (gate : Gate) : gate.bytes.length = 16 := rfl

/-- The gate of a table entry, on the kernel's code segment. -/
def ofEntry (entry : VectorEntry) : Gate :=
  interrupt entry.target kernelCode.toUInt16 entry.minPrivilege.ring

end Gate

/-- Slot `n` of the interrupt table that encodes a vector table; slots past the
end of the vector table keep the default gate. -/
def gateAt (table : VectorTable) (n : Fin 256) : Gate :=
  if n.val < table.size then .ofEntry (table.slot (UInt64.ofNat n.val)) else {}

/-- The interrupt table that encodes a vector table. -/
def interruptTable (table : VectorTable) : Vector Gate 256 :=
  Vector.ofFn (gateAt table)

end TrapDispatch.X86
