import TrapDispatch.Address
import TrapDispatch.Frame

/-!
# Causes of traps

What a trap turns out to be once its architecture's encoding has been read.
-/

namespace TrapDispatch

/-- Faults that a processor detects. -/
inductive ExceptionKind where
  | divideByZero
  | debug
  | breakpoint
  | illegalInstruction
  | generalProtection
  | pageFault (address : Address) (access : Access)
  | alignment
  | floatingPoint
  | doubleFault
  | machineCheck
  | other (cause : UInt64)
  deriving DecidableEq, Repr, Inhabited

namespace ExceptionKind

/-- Faults that are fatal to the kernel, wherever they come from. -/
def isAlwaysFatal : ExceptionKind → Bool
  | doubleFault => true
  | machineCheck => true
  | _ => false

/-- The kind without its data. -/
def name : ExceptionKind → String
  | divideByZero => "DivideByZero"
  | debug => "Debug"
  | breakpoint => "Breakpoint"
  | illegalInstruction => "IllegalInstruction"
  | generalProtection => "GeneralProtection"
  | pageFault _ _ => "PageFault"
  | alignment => "Alignment"
  | floatingPoint => "FloatingPoint"
  | doubleFault => "DoubleFault"
  | machineCheck => "MachineCheck"
  | other _ => "Other"

/-- The kind and its data, as it appears in traces. -/
def trace : ExceptionKind → String
  | pageFault address access =>
    "PageFault \x7b addr: " ++ address.trace ++ ", access: " ++ access.name ++ " \x7d"
  | other cause => s!"Other({cause})"
  | kind => kind.name

end ExceptionKind

/-- Which saved registers a system call instruction uses. -/
structure Convention where
  number : Nat
  arguments : Vector Nat 6
  result : Nat
  advance : UInt64
  deriving DecidableEq

/-- The six raw argument words of a call. -/
abbrev ArgumentWords := Vector UInt64 6

namespace Convention

def numberIn (convention : Convention) (frame : Frame) : UInt64 :=
  frame.register convention.number

/-- The six argument words a frame carries. -/
def argumentsIn (convention : Convention) (frame : Frame) : ArgumentWords :=
  convention.arguments.map frame.register

end Convention

/-- Result of classifying a trap. -/
inductive Cause where
  | exception (kind : ExceptionKind)
  | interrupt
  | syscall (convention : Convention)
  | unassigned
  deriving DecidableEq

end TrapDispatch
