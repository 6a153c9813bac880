import TrapDispatch.Cause
import TrapDispatch.Error
import TrapDispatch.Syscall.Argument
import TrapDispatch.Text.Quoted
import TrapDispatch.UserRange

/-!
# Shapes of system calls

The declared side of a call, and the two checks made before its handler runs.
The shape check looks at registers only: those beyond the declared arguments are
zero, and required pointers are not null. Validation then asks the address guard
about every pointer that is there. A buffer of length zero may be null, for
nothing moves through it.
-/

namespace TrapDispatch

/-- Argument registers of every convention. -/
def argumentRegisters : Nat := 6

/-- What is declared about a call. -/
structure CallShape where
  number : UInt64
  name : String
  arguments : List ArgumentKind := []
  /-- Leading arguments that are required. -/
  required : Nat := 0
  minPrivilege : Privilege := .user
  /-- Whether a pending signal ends a wait. -/
  interruptible : Bool := false
  deriving DecidableEq

namespace CallShape

def width (shape : CallShape) : Nat :=
  ArgumentKind.widths shape.arguments

/-- The shape as it appears in traces. -/
def trace (shape : CallShape) : String :=
  let arguments := ", ".intercalate (shape.arguments.map ArgumentKind.trace)
  "SyscallDescriptor \x7b " ++ s!"number: {shape.number}, name: {quoted shape.name}, "
    ++ s!"args: [{arguments}], min_args: {shape.required}, "
    ++ s!"min_privilege: {shape.minPrivilege.traceName}, "
    ++ s!"interruptible: {shape.interruptible}" ++ " \x7d"

end CallShape

/-- An argument word; registers that do not exist read as zero. -/
def ArgumentWords.word (words : ArgumentWords) (index : Nat) : UInt64 :=
  words[index]?.getD 0

/-- Pointer or value of an argument, and the length that goes with it. -/
structure RawArgument where
  kind : ArgumentKind
  value : UInt64
  length : UInt64
  deriving DecidableEq

namespace RawArgument

/-- The raw argument of a kind whose registers start at `register`. -/
def read (words : ArgumentWords) (register : Nat) : ArgumentKind → RawArgument
  | .int => ⟨.int, words.word register, 0⟩
  | .input size => ⟨.input size, words.word register, size⟩
  | .output size => ⟨.output size, words.word register, size⟩
  | .buffer direction => ⟨.buffer direction, words.word register, words.word (register + 1)⟩

/-- Splits the registers from `register` on among arguments. -/
def split (words : ArgumentWords) (register : Nat) : List ArgumentKind → List RawArgument
  | [] => []
  | kind :: rest => read words register kind :: split words (register + kind.width) rest

@[simp] theorem length_split (words : ArgumentWords) (register : Nat)
    (kinds : List ArgumentKind) : (split words register kinds).length = kinds.length := by
  induction kinds generalizing register with
  | nil => rfl
  | cons kind rest ih => simp [split, ih]

/-- Whether a required argument may not have this value. -/
def isMissing (raw : RawArgument) : Bool :=
  raw.kind.isPointer && raw.value = 0 && !(raw.kind.isBuffer && raw.length = 0)

/-- The argument for the handler, once the guard agrees. -/
def validate (guard : AddressGuard) (caller : Privilege) (raw : RawArgument) :
    Except ErrorCode Argument :=
  match raw.kind.direction? with
  | none => .ok (.int raw.value)
  | some direction =>
    if raw.value = 0 then
      if raw.kind.isBuffer ∧ raw.length = 0 then .ok (.user ⟨0, 0, direction⟩) else .ok .absent
    else if guard.isValid raw.value raw.length caller then
      .ok (.user ⟨raw.value, raw.length, direction⟩)
    else .error .efault

end RawArgument

namespace CallShape

/-- The raw arguments of a call. Only as many as there are registers can be
declared. -/
def rawArguments (shape : CallShape) (words : ArgumentWords) : List RawArgument :=
  RawArgument.split words 0 (shape.arguments.take argumentRegisters)

/-- Checks the registers against the declared arguments. -/
def check (shape : CallShape) (words : ArgumentWords) : Except ErrorCode Unit :=
  if (words.toList.drop shape.width).any (· ≠ 0) then .error .einval
  else if ((shape.rawArguments words).take shape.required).any RawArgument.isMissing then
    .error .einval
  else .ok ()

/-- Validates every argument; the first pointer that the guard refuses decides. -/
def validate (shape : CallShape) (words : ArgumentWords) (guard : AddressGuard)
    (caller : Privilege) : Except ErrorCode Arguments := do
  let values ← (shape.rawArguments words).mapM (RawArgument.validate guard caller)
  return ⟨values⟩

end CallShape
end TrapDispatch
