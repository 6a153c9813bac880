/-!
# Privilege levels

Every architecture's privilege model is folded onto three ordered levels.
-/

namespace TrapDispatch

/-- Level of the code that was interrupted, lowest first. -/
inductive Privilege where
  | user
  | kernel
  | monitor
  deriving DecidableEq, Repr, Inhabited

namespace Privilege

/-- Place in the order of levels. -/
def rank : Privilege → Nat
  | user => 0
  | kernel => 1
  | monitor => 2

/-- Whether a caller meets a required level. -/
def permits (caller required : Privilege) : Bool :=
  required.rank ≤ caller.rank

theorem permits_iff (caller required : Privilege) :
    permits caller required = true ↔ required.rank ≤ caller.rank := by
  simp [permits]

/-- Level of an x86 protection ring; only ring 3 is user code. -/
def ofRing (ring : UInt8) : Privilege :=
  if ring &&& 3 = 3 then user else kernel

def ofExceptionLevel (el : UInt8) : Privilege :=
  if el &&& 3 = 0 then user else if el &&& 3 = 1 then kernel else monitor

def ofMode (mode : UInt8) : Privilege :=
  if mode &&& 3 = 0 then user else if mode &&& 3 = 1 then kernel else monitor

/-- Ring that may raise a gate reserved for this level. -/
def ring : Privilege → UInt8
  | user => 3
  | kernel => 0
  | monitor => 0

def name : Privilege → String
  | user => "user"
  | kernel => "kernel"
  | monitor => "monitor"

def traceName : Privilege → String
  | user => "User"
  | kernel => "Kernel"
  | monitor => "Monitor"

end Privilege
end TrapDispatch
