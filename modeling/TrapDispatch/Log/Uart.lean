import TrapDispatch.Interrupt.Registers
import TrapDispatch.Program

/-!
# The PL011 console

A byte is written once the transmit queue has room; until then the flag register
is read again. A newline is sent as a carriage return and a newline.
-/

namespace TrapDispatch.Uart

/-- Accesses the console makes to its registers. -/
inductive Access where
  | readFlags
  | writeData (word : UInt32)

abbrev Access.Reply : Access → Type
  | .readFlags => UInt32
  | .writeData _ => Unit

abbrev registers : Signature := ⟨Access, Access.Reply⟩

/-- Offsets of the data and the flag register. -/
def dataOffset : UInt64 := 0x00
def flagOffset : UInt64 := 0x18

/-- Flag that says that the transmit queue is full. -/
def queueFull : UInt32 := 0x20

/-- Reads the flags until the queue has room. -/
def awaitRoom : Program registers Unit :=
  .repeatUntil do
    let flags : UInt32 ← .ask (S := registers) .readFlags
    return if flags &&& queueFull ≠ 0 then none else some ()

def putByte (byte : UInt8) : Program registers Unit := do
  awaitRoom
  .ask (S := registers) (.writeData byte.toUInt32)

/-- The bytes that stand for a byte of text. -/
def expand (byte : UInt8) : List UInt8 :=
  if byte = 0x0A then [0x0D, 0x0A] else [byte]

def putBytes : List UInt8 → Program registers Unit
  | [] => pure ()
  | byte :: rest => do
    putByte byte
    putBytes rest

def puts (text : String) : Program registers Unit :=
  putBytes (text.toUTF8.toList.flatMap expand)

end TrapDispatch.Uart
