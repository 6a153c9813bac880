import TrapDispatch.Address

/-!
# System call arguments

An argument is declared as an integer, a pointer to an object of fixed size, or
a pointer with a length in the next register. What a handler receives are
integers, buffers that were checked, and optional pointers that were left out.
-/

namespace TrapDispatch

/-- Which way data moves through a buffer, seen from the kernel. -/
inductive Direction where
  | read
  | write
  deriving DecidableEq, Repr, Inhabited

def Direction.name : Direction → String
  | .read => "Read"
  | .write => "Write"

/-- Declared kind of an argument. -/
inductive ArgumentKind where
  | int
  /-- Pointer to an object of this size that the kernel reads. -/
  | input (size : UInt64)
  /-- Pointer to an object of this size that the kernel writes. -/
  | output (size : UInt64)
  /-- Pointer and length, in two registers. -/
  | buffer (direction : Direction)
  deriving DecidableEq, Repr

namespace ArgumentKind

/-- Registers an argument takes. -/
def width : ArgumentKind → Nat
  | buffer _ => 2
  | _ => 1

theorem width_pos (kind : ArgumentKind) : 0 < kind.width := by
  cases kind <;> simp [width]

/-- Registers that several arguments take. -/
def widths (kinds : List ArgumentKind) : Nat :=
  kinds.foldr (fun kind rest => kind.width + rest) 0

@[simp] theorem widths_cons (kind : ArgumentKind) (rest : List ArgumentKind) :
    widths (kind :: rest) = kind.width + widths rest := rfl

theorem widths_append (first second : List ArgumentKind) :
    widths (first ++ second) = widths first + widths second := by
  induction first with
  | nil => exact (Nat.zero_add _).symm
  | cons kind rest ih => rw [List.cons_append, widths_cons, ih, widths_cons, Nat.add_assoc]

def isPointer : ArgumentKind → Bool
  | int => false
  | _ => true

/-- Whether the argument is a pointer with a length. -/
def isBuffer : ArgumentKind → Bool
  | buffer _ => true
  | _ => false

/-- Which way data moves through the argument's memory, if it names any. -/
def direction? : ArgumentKind → Option Direction
  | int => none
  | input _ => some .read
  | output _ => some .write
  | buffer direction => some direction

/-- The kind as it appears in traces. -/
def trace : ArgumentKind → String
  | int => "Int"
  | input size => s!"UserIn({size})"
  | output size => s!"UserOut({size})"
  | buffer direction => s!"UserBuffer({direction.name})"

end ArgumentKind

/-- User memory that was checked for a caller. -/
structure UserBuffer where
  address : UInt64
  length : UInt64
  direction : Direction
  deriving DecidableEq, Repr

/-- An argument as a handler receives it. -/
inductive Argument where
  | absent
  | int (value : UInt64)
  | user (buffer : UserBuffer)
  deriving DecidableEq, Repr

/-- The arguments of a call, by declared position. -/
structure Arguments where
  values : List Argument
  deriving DecidableEq, Repr

namespace Arguments

def size (arguments : Arguments) : Nat :=
  arguments.values.length

/-- The argument at a position; past the declared ones all are absent. -/
def get (arguments : Arguments) (index : Nat) : Argument :=
  arguments.values[index]?.getD .absent

/-- The integer at a position, or zero. -/
def int (arguments : Arguments) (index : Nat) : UInt64 :=
  match arguments.get index with
  | .int value => value
  | _ => 0

/-- The buffer at a position, if there is one. -/
def buffer (arguments : Arguments) (index : Nat) : Option UserBuffer :=
  match arguments.get index with
  | .user buffer => some buffer
  | _ => none

end Arguments
end TrapDispatch
