import TrapDispatch.Privilege

/-!
# Vectors

The static description of the slots of a hardware trap table.
-/

namespace TrapDispatch

/-- What a vector is for. -/
inductive TrapClass where
  | exception
  | interrupt
  | software
  deriving DecidableEq, Repr, Inhabited

def TrapClass.name : TrapClass → String
  | .exception => "exception"
  | .interrupt => "irq"
  | .software => "software trap"

/-- Static properties of one vector. -/
structure VectorInfo where
  trapClass : TrapClass
  /-- Lowest level that may raise the vector with an instruction. -/
  minPrivilege : Privilege
  assigned : Bool
  deriving DecidableEq, Repr

namespace VectorInfo

def defined (trapClass : TrapClass) (minPrivilege : Privilege) : VectorInfo :=
  ⟨trapClass, minPrivilege, true⟩

def undefined : VectorInfo :=
  ⟨.exception, .kernel, false⟩

end VectorInfo

/-- One slot of a vector table. -/
structure VectorEntry where
  vector : UInt64
  trapClass : TrapClass
  target : UInt64
  minPrivilege : Privilege
  assigned : Bool
  deriving DecidableEq, Repr

end TrapDispatch
