import Mathlib.Logic.Function.Basic
import TrapDispatch.Proofs.AlikeDrivers

/-!
# Drivers over plain memory

Devices whose registers are plain memory, under names of any kind, and a driver of any of the
controllers over the blocks that it is given. The driver answers every sequence of calls in the
same way and leaves the same bytes, whether the blocks have byte accesses or words only.
-/

namespace TrapDispatch

/-- Plain memories by name, beside the records that were left and the state of a hart. -/
structure PlainDevices (ι η : Type) where
  memories : ι → ByteMemory
  records : List Record
  hart : η

namespace PlainDevices

variable {ι η α β : Type}

instance : MonadRecord (StateM (PlainDevices ι η)) where
  record entry := fun devices => ((), { devices with records := entry :: devices.records })

/-- Whether all memories hold the same bytes, and all else is equal. -/
structure Same (one other : PlainDevices ι η) : Prop where
  memories : ∀ name, (one.memories name).Same (other.memories name)
  records : one.records = other.records
  hart : one.hart = other.hart

theorem Same.refl (devices : PlainDevices ι η) : devices.Same devices :=
  ⟨fun name => ByteMemory.Same.refl (devices.memories name), rfl, rfl⟩

theorem alike_record (level : Level) (target text : String) :
    Alike Same (recordAt level target text : StateM (PlainDevices ι η) Unit)
      (recordAt level target text) :=
  fun _ _ h => ⟨rfl, h.memories, congrArg (_ :: ·) h.records, h.hart⟩

/-! ### The state of the hart -/

def onHart (access : StateM η α) : StateM (PlainDevices ι η) α := fun devices =>
  ((access devices.hart).1, { devices with hart := (access devices.hart).2 })

theorem alike_onHart (access : StateM η α) :
    Alike Same (onHart access : StateM (PlainDevices ι η) α) (onHart access) := by
  intro one other h
  unfold onHart
  rw [h.hart]
  exact ⟨rfl, h.memories, h.records, rfl⟩

/-! ### The memory of a name -/

variable [DecidableEq ι]

def onMemory (name : ι) (access : StateM ByteMemory α) : StateM (PlainDevices ι η) α :=
  fun devices => ((access (devices.memories name)).1,
    { devices with
      memories := Function.update devices.memories name (access (devices.memories name)).2 })

theorem onMemory_pure (name : ι) (value : α) :
    (onMemory name (pure value) : StateM (PlainDevices ι η) α) = pure value := by
  funext devices
  exact congrArg (fun memories => (value, { devices with memories }))
    (Function.update_eq_self name devices.memories)

theorem onMemory_bind (name : ι) (access : StateM ByteMemory α) (next : α → StateM ByteMemory β) :
    (onMemory name (access >>= next) : StateM (PlainDevices ι η) β) =
      onMemory name access >>= fun value => onMemory name (next value) := by
  funext devices
  change onMemory name (access >>= next) devices =
    onMemory name (next (access (devices.memories name)).1) (onMemory name access devices).2
  simp only [onMemory, Function.update_self, Function.update_idem]
  rfl

theorem alike_onMemory (name : ι) {one other : StateM ByteMemory α}
    (h : Alike ByteMemory.Same one other) :
    Alike Same (onMemory name one : StateM (PlainDevices ι η) α) (onMemory name other) := by
  intro devices devices' hsame
  obtain ⟨hvalue, hmemory⟩ := h _ _ (hsame.memories name)
  refine ⟨hvalue, fun item => ?_, hsame.records, hsame.hart⟩
  change (Function.update devices.memories name _ item).Same
    (Function.update devices'.memories name _ item)
  by_cases hitem : item = name
  · subst hitem
    rw [Function.update_self, Function.update_self]
    exact hmemory
  · rw [Function.update_of_ne hitem, Function.update_of_ne hitem]
    exact hsame.memories item

/-- The registers of a name, with the accesses of a block of memory. -/
def registers (block : RegisterBlock (StateM ByteMemory)) (name : ι) :
    RegisterBlock (StateM (PlainDevices ι η)) where
  read32 offset := onMemory name (block.read32 offset)
  write32 offset word := onMemory name (block.write32 offset word)
  read8 offset := onMemory name (block.read8 offset)
  write8 offset byte := onMemory name (block.write8 offset byte)

/-- Byte accesses through the words of a name are those through the words of its memory. -/
theorem wordsOnly_registers (block : RegisterBlock (StateM ByteMemory)) (name : ι) :
    (registers block name : RegisterBlock (StateM (PlainDevices ι η))).wordsOnly =
      registers block.wordsOnly name := by
  simp only [registers, RegisterBlock.wordsOnly, RegisterBlock.ofWords, onMemory_bind,
    onMemory_pure]

theorem alike_registers {one other : RegisterBlock (StateM ByteMemory)}
    (h : one.Alike ByteMemory.Same other) (name : ι) :
    (registers one name : RegisterBlock (StateM (PlainDevices ι η))).Alike Same
      (registers other name) where
  read32 offset := alike_onMemory name (h.read32 offset)
  write32 offset word := alike_onMemory name (h.write32 offset word)
  read8 offset := alike_onMemory name (h.read8 offset)
  write8 offset byte := alike_onMemory name (h.write8 offset byte)

theorem alike_wordsOnly (name : ι) :
    (registers ByteMemory.block name : RegisterBlock (StateM (PlainDevices ι η))).Alike Same
      (registers ByteMemory.block name).wordsOnly := by
  rw [wordsOnly_registers]
  exact alike_registers ByteMemory.alike_wordsOnly name

end PlainDevices

/-! ### The drivers -/

/-- A driver of one of the controllers, with the names of its register blocks. -/
inductive PlainDriver (ι η : Type) where
  | pic (ports : ι) (offset : UInt64)
  | apic (localApic ioApic : ι)
  | gic (distributor : ι) (redistributor : Option ι) (cpuInterface : ι)
  | plic (registers : ι) (hart : LocalInterrupts (StateM η)) (context : UInt64)
    (localMasked : Cell (StateM η) UInt64)

namespace PlainDriver

variable {ι η : Type}

def controller (registers : ι → RegisterBlock (StateM (PlainDevices ι η))) :
    PlainDriver ι η → Controller (StateM (PlainDevices ι η))
  | .pic ports offset => Pic.controller (registers ports) offset
  | .apic localApic ioApic => Apic.controller (registers localApic) (registers ioApic)
  | .gic distributor redistributor cpuInterface =>
    Gic.controller {
      distributor := registers distributor
      redistributor := redistributor.map registers
      cpuInterface := registers cpuInterface }
  | .plic block hart context localMasked =>
    Plic.controller {
      registers := registers block
      hart := {
        enable := fun flag => PlainDevices.onHart (hart.enable flag)
        disable := fun flag => PlainDevices.onHart (hart.disable flag)
        clearPending := fun flag => PlainDevices.onHart (hart.clearPending flag) }
      context
      localMasked := {
        get := PlainDevices.onHart localMasked.get
        set := fun flags => PlainDevices.onHart (localMasked.set flags) } }

/-- A driver over blocks that are alike, name by name, is alike. -/
theorem alike_controller {one other : ι → RegisterBlock (StateM (PlainDevices ι η))}
    (h : ∀ name, (one name).Alike PlainDevices.Same (other name)) (driver : PlainDriver ι η) :
    (driver.controller one).Alike PlainDevices.Same (driver.controller other) := by
  cases driver with
  | pic ports offset => exact Pic.alike_controller (h ports) PlainDevices.alike_record offset
  | apic localApic ioApic => exact Apic.alike_controller (h ioApic) (h localApic)
  | gic distributor redistributor cpuInterface =>
    refine Gic.alike_controller ⟨h distributor, ?_, h cpuInterface⟩ PlainDevices.alike_record
    cases redistributor with
    | none => exact .none
    | some name => exact .some (h name)
  | plic block hart context localMasked =>
    exact Plic.alike_controller {
      registers := h block
      enable := fun flag => PlainDevices.alike_onHart (hart.enable flag)
      disable := fun flag => PlainDevices.alike_onHart (hart.disable flag)
      clearPending := fun flag => PlainDevices.alike_onHart (hart.clearPending flag)
      context := rfl
      get := PlainDevices.alike_onHart localMasked.get
      set := fun flags => PlainDevices.alike_onHart (localMasked.set flags) }

end PlainDriver

/-- Plain memory is as good without byte accesses of its own as with them: any sequence of accesses
gives the same values and leaves the same bytes, and a byte that is written is the only one to
change. So every driver over such memories answers any sequence of calls in the same way, leaves
the same records, and leaves the same bytes in all registers. -/
theorem words_suffice {ι η : Type} [DecidableEq ι] :
    (∀ (accesses : List RegisterAccess) (memory : ByteMemory),
      (accesses.mapM ByteMemory.block.perform memory).1 =
          (accesses.mapM ByteMemory.block.wordsOnly.perform memory).1 ∧
        (accesses.mapM ByteMemory.block.perform memory).2.Same
          (accesses.mapM ByteMemory.block.wordsOnly.perform memory).2) ∧
    (∀ (memory : ByteMemory) (offset : UInt64) (byte : UInt8) (address : UInt64),
      (ByteMemory.block.write8 offset byte memory).2.get address =
          (if address = offset then byte else memory.get address) ∧
        (ByteMemory.block.wordsOnly.write8 offset byte memory).2.get address =
          (if address = offset then byte else memory.get address)) ∧
    ∀ (driver : PlainDriver ι η) (calls : List ControllerCall) (devices : PlainDevices ι η),
      let native := PlainDevices.registers ByteMemory.block
      let words := fun name => (native name).wordsOnly
      (calls.mapM (driver.controller native).answer devices).1 =
          (calls.mapM (driver.controller words).answer devices).1 ∧
        (calls.mapM (driver.controller native).answer devices).2.Same
          (calls.mapM (driver.controller words).answer devices).2 := by
  refine ⟨fun accesses memory => ?_, fun memory offset byte address => ⟨?_, ?_⟩,
    fun driver calls devices => ?_⟩
  · exact Alike.mapM ByteMemory.alike_wordsOnly.perform accesses _ _ (ByteMemory.Same.refl memory)
  · exact ByteMemory.get_set memory offset address byte
  · exact ByteMemory.get_write8_wordsOnly memory offset byte address
  · have halike := PlainDriver.alike_controller PlainDevices.alike_wordsOnly driver
    exact Alike.mapM halike.answer calls _ _ (PlainDevices.Same.refl devices)

end TrapDispatch
