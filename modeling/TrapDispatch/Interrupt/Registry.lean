import TrapDispatch.Interrupt.Line
import TrapDispatch.Log.Record
import TrapDispatch.Log.Target

/-!
# The handler registry

At most one device handler for every line. Each registration gets a fresh
generation, which its handle carries, so a handle from an earlier registration
of the same line is stale.
-/

namespace TrapDispatch

/-- Lines of the registry: 1024 of the controller and 16 of the CPU. -/
def maxIrqs : Nat := 1040

/-- Names a device handler. -/
abbrev HandlerId := Nat

/-- One registration. -/
structure HandlerEntry where
  irq : Irq
  driver : UInt32
  handler : HandlerId
  /-- Disabled handlers are skipped. -/
  enabled : Bool
  generation : UInt32
  deriving DecidableEq, Repr

/-- The entry as it appears in traces. -/
def HandlerEntry.trace (entry : HandlerEntry) : String :=
  s!"Handler({entry.irq.text}, driver={entry.driver}, enabled={entry.enabled}, "
    ++ s!"gen={entry.generation})"

/-- Proof of a registration, needed to change or remove it. -/
structure RegistrationHandle where
  irq : Irq
  generation : UInt32
  deriving DecidableEq, Repr

/-- Why the registry refused. -/
inductive RegistryError where
  | alreadyRegistered
  | notFound
  | invalidIrq
  deriving DecidableEq, Repr

def RegistryError.message : RegistryError → String
  | .alreadyRegistered => "line already has a handler"
  | .notFound => "no such registration"
  | .invalidIrq => "IRQ number out of range"

/-- Calls to a registry. -/
inductive RegistryCall where
  | register (irq : Irq) (driver : UInt32) (handler : HandlerId)
  | unregister (handle : RegistrationHandle)
  | setEnabled (handle : RegistrationHandle) (enabled : Bool)
  | lookup (irq : Irq)
  | isRegistered (irq : Irq)
  deriving DecidableEq

/-- What comes of a call. -/
inductive RegistryReply where
  | issued (handle : RegistrationHandle)
  | done
  | refused (why : RegistryError)
  | found (entry : Option HandlerEntry)
  | told (answer : Bool)
  deriving DecidableEq

namespace RegistryReply

def ofIssue : Except RegistryError RegistrationHandle → RegistryReply
  | .ok handle => .issued handle
  | .error why => .refused why

def ofChange : Except RegistryError Unit → RegistryReply
  | .ok () => .done
  | .error why => .refused why

end RegistryReply

/-- Registrations by line. -/
structure Registry where
  entries : Vector (Option HandlerEntry) maxIrqs := Vector.replicate maxIrqs none
  nextGeneration : UInt32 := 1

namespace Registry

/-- The generation after this one; zero is never given out. -/
def generationAfter (generation : UInt32) : UInt32 :=
  if generation + 1 = 0 then 1 else generation + 1

def lookup (registry : Registry) (irq : Irq) : Option HandlerEntry :=
  (registry.entries[irq.number.toNat]?).join

/-- Replaces the registration of a line that the registry has. -/
def put (registry : Registry) (line : Nat) (entry : Option HandlerEntry) : Registry :=
  { registry with entries := registry.entries.setIfInBounds line entry }

/-- Attaches a handler to a line; it starts enabled. -/
def register (registry : Registry) (irq : Irq) (driver : UInt32) (handler : HandlerId) :
    Except RegistryError (RegistrationHandle × Registry) :=
  if maxIrqs ≤ irq.number.toNat then .error .invalidIrq
  else if (registry.lookup irq).isSome then .error .alreadyRegistered
  else
    let generation := registry.nextGeneration
    let entry := { irq, driver, handler, enabled := true, generation }
    .ok ({ irq, generation },
      { registry.put irq.number.toNat (some entry) with
        nextGeneration := generationAfter generation })

/-- The registration that a handle names. -/
def live (registry : Registry) (handle : RegistrationHandle) :
    Except RegistryError HandlerEntry :=
  if maxIrqs ≤ handle.irq.number.toNat then .error .invalidIrq
  else match registry.lookup handle.irq with
    | some entry => if entry.generation = handle.generation then .ok entry else .error .notFound
    | none => .error .notFound

/-- Removes the registration that a handle names. -/
def unregister (registry : Registry) (handle : RegistrationHandle) :
    Except RegistryError Registry := do
  let _ ← registry.live handle
  return registry.put handle.irq.number.toNat none

/-- Enables or disables the registration that a handle names. -/
def setEnabled (registry : Registry) (handle : RegistrationHandle) (enabled : Bool) :
    Except RegistryError Registry := do
  let entry ← registry.live handle
  return registry.put handle.irq.number.toNat (some { entry with enabled })

def isRegistered (registry : Registry) (irq : Irq) : Bool :=
  (registry.lookup irq).isSome

/-- Makes a call. -/
def perform (registry : Registry) : RegistryCall → RegistryReply × Registry
  | .register irq driver handler =>
    match registry.register irq driver handler with
    | .ok (handle, next) => (.issued handle, next)
    | .error why => (.refused why, registry)
  | .unregister handle =>
    match registry.unregister handle with
    | .ok next => (.done, next)
    | .error why => (.refused why, registry)
  | .setEnabled handle enabled =>
    match registry.setEnabled handle enabled with
    | .ok next => (.done, next)
    | .error why => (.refused why, registry)
  | .lookup irq => (.found (registry.lookup irq), registry)
  | .isRegistered irq => (.told (registry.isRegistered irq), registry)

/-- Attaches a handler, unless that is refused. -/
def registering (registry : Registry) (irq : Irq) (driver : UInt32) (handler : HandlerId) :
    Except RegistryError RegistrationHandle × Registry :=
  match registry.register irq driver handler with
  | .ok (handle, registry) => (.ok handle, registry)
  | .error why => (.error why, registry)

/-- Changes a registry, unless that is refused. -/
def changing (registry : Registry) (change : Registry → Except RegistryError Registry) :
    Except RegistryError Unit × Registry :=
  match change registry with
  | .ok registry => (.ok (), registry)
  | .error why => (.error why, registry)

theorem perform_register (registry : Registry) (irq : Irq) (driver : UInt32)
    (handler : HandlerId) : registry.perform (.register irq driver handler) =
      (.ofIssue (registry.registering irq driver handler).1,
        (registry.registering irq driver handler).2) := by
  unfold registering
  simp only [perform]
  cases registry.register irq driver handler <;> rfl

theorem perform_unregister (registry : Registry) (handle : RegistrationHandle) :
    registry.perform (.unregister handle) = (.ofChange (registry.changing (·.unregister handle)).1,
      (registry.changing (·.unregister handle)).2) := by
  unfold changing
  simp only [perform]
  cases registry.unregister handle <;> rfl

theorem perform_setEnabled (registry : Registry) (handle : RegistrationHandle) (enabled : Bool) :
    registry.perform (.setEnabled handle enabled) =
      (.ofChange (registry.changing (·.setEnabled handle enabled)).1,
        (registry.changing (·.setEnabled handle enabled)).2) := by
  unfold changing
  simp only [perform]
  cases registry.setEnabled handle enabled <;> rfl

def registeredRecord (irq : Irq) (driver : UInt32) : Record :=
  { level := .debug
    target := LogTarget.registry
    text := s!"registry: {irq.text} -> driver {driver}" }

def releasedRecord (irq : Irq) : Record :=
  { level := .debug
    target := LogTarget.registry
    text := s!"registry: {irq.text} released" }

end Registry
end TrapDispatch
