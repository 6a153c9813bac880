import TrapDispatch.Frame
import TrapDispatch.Text.Hexadecimal

/-!
# Text of a frame

A headline, the special registers on two lines, and the saved registers three to
a line, every value with sixteen digits.
-/

namespace TrapDispatch
namespace Frame

/-- Splits a list into rows of three. -/
def rows {α : Type} : List α → List (List α)
  | a :: b :: c :: rest => [a, b, c] :: rows rest
  | [] => []
  | short => [short]

/-- A register number on two places, filled up on the right. -/
def registerLabel (index : Nat) : String :=
  if index < 10 then s!" r{index} : " else s!" r{index}: "

/-- The text of a frame, as it appears in traces. -/
def trace (frame : Frame) : String :=
  let word (value : UInt64) := hexPadded 16 value.toNat
  let cell (entry : UInt64 × Nat) := registerLabel entry.2 ++ word entry.1
  let line (entries : List (UInt64 × Nat)) := " " ++ String.join (entries.map cell) ++ "\n"
  s!"TrapFrame({frame.arch.name}, {frame.privilege.name} mode, vector {frame.vector})\n"
    ++ s!" pc : {word frame.counter}  sp : {word frame.stack}  st : {word frame.status}\n"
    ++ s!" syn: {word frame.syndrome}  far: {word frame.faultAddress}\n"
    ++ String.join ((rows frame.savedRegisters.zipIdx).map line)

end Frame
end TrapDispatch
