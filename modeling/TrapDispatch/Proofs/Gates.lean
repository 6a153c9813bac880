import Mathlib.Data.Nat.Digits.Defs
import TrapDispatch.Encoding.Gate
import TrapDispatch.Interrupt.Registers

/-!
# Gates as the processor reads them

A gate descriptor is a number of 128 bits, the least significant byte first. The processor finds
the fields of a gate at fixed bits of it, and the gate of a vector at sixteen times the vector in
the image of the interrupt table. What is read there is what the gate was made of.
-/

namespace TrapDispatch.X86

/-- The number that bytes make up, the least significant first. -/
def littleEndian (bytes : List UInt8) : Nat :=
  Nat.ofDigits 256 (bytes.map UInt8.toNat)

/-- Some neighbouring bits of a number. -/
def bitField (word first width : Nat) : Nat :=
  word / 2 ^ first % 2 ^ width

/-- A gate descriptor as the processor reads it. -/
structure Descriptor where
  target : Nat
  selector : Nat
  /-- Stack that the processor switches to; zero for none. -/
  stackIndex : Nat
  kind : Nat
  ring : Nat
  present : Bool
  /-- Fields that have to be zero. -/
  reserved : List Nat
  deriving DecidableEq, Repr

namespace Descriptor

def interruptKind : Nat := 0xE

def read (bytes : List UInt8) : Descriptor :=
  let word := littleEndian bytes
  { target := bitField word 0 16 + 2 ^ 16 * bitField word 48 16 + 2 ^ 32 * bitField word 64 32
    selector := bitField word 16 16
    stackIndex := bitField word 32 3
    kind := bitField word 40 4
    ring := bitField word 45 2
    present := bitField word 47 1 = 1
    reserved := [bitField word 35 5, bitField word 44 1, bitField word 96 32] }

def interrupt (target selector ring : Nat) : Descriptor where
  target := target
  selector := selector
  stackIndex := 0
  kind := interruptKind
  ring := ring
  present := true
  reserved := [0, 0, 0]

/-- A descriptor of zeros, which is not present. -/
def absent : Descriptor where
  target := 0
  selector := 0
  stackIndex := 0
  kind := 0
  ring := 0
  present := false
  reserved := [0, 0, 0]

end Descriptor

def tableImage (table : VectorTable) : List UInt8 :=
  (interruptTable table).toList.flatMap Gate.bytes

/-- Where the processor finds the gate of a vector there. -/
def gateBytes (image : List UInt8) (vector : Nat) : List UInt8 :=
  (image.drop (16 * vector)).take 16

/-! ### The number of a gate -/

def halfBytes (half : UInt16) : List UInt8 :=
  [half.toUInt8, (half >>> 8).toUInt8]

theorem littleEndian_append (low high : List UInt8) :
    littleEndian (low ++ high) = littleEndian low + 256 ^ low.length * littleEndian high := by
  unfold littleEndian
  rw [List.map_append, Nat.ofDigits_append, List.length_map]

theorem littleEndian_halfBytes (half : UInt16) : littleEndian (halfBytes half) = half.toNat := by
  have hlt := half.toNat_lt
  simp [littleEndian, halfBytes, Nat.ofDigits, Nat.shiftRight_eq_div_pow]
  omega

theorem littleEndian_wordBytes (word : UInt32) : littleEndian (wordBytes word) = word.toNat := by
  have hlt := word.toNat_lt
  simp [littleEndian, wordBytes, Nat.ofDigits, Nat.shiftRight_eq_div_pow]
  omega

namespace Gate

theorem bytes_eq (gate : Gate) : gate.bytes =
    halfBytes gate.offsetLow ++ (halfBytes gate.selector ++ ([gate.stackIndex, gate.attributes] ++
      (halfBytes gate.offsetMiddle ++ (wordBytes gate.offsetHigh ++ wordBytes gate.reserved)))) :=
  rfl

theorem littleEndian_bytes (gate : Gate) : littleEndian gate.bytes =
    gate.offsetLow.toNat + 2 ^ 16 * gate.selector.toNat + 2 ^ 32 * gate.stackIndex.toNat +
      2 ^ 40 * gate.attributes.toNat + 2 ^ 48 * gate.offsetMiddle.toNat +
        2 ^ 64 * gate.offsetHigh.toNat + 2 ^ 96 * gate.reserved.toNat := by
  have hpair : littleEndian [gate.stackIndex, gate.attributes] =
      gate.stackIndex.toNat + 256 * gate.attributes.toNat := by
    simp [littleEndian, Nat.ofDigits]
  rw [bytes_eq]
  simp only [littleEndian_append, littleEndian_halfBytes, littleEndian_wordBytes, hpair]
  simp only [halfBytes, wordBytes, List.length_cons, List.length_nil]
  omega

/-- What the processor reads in the bytes of a gate. -/
theorem read_bytes (gate : Gate) : Descriptor.read gate.bytes =
    { target := gate.offsetLow.toNat + 2 ^ 16 * gate.offsetMiddle.toNat +
        2 ^ 32 * gate.offsetHigh.toNat
      selector := gate.selector.toNat
      stackIndex := gate.stackIndex.toNat % 8
      kind := gate.attributes.toNat % 16
      ring := gate.attributes.toNat / 32 % 4
      present := gate.attributes.toNat / 128 = 1
      reserved := [gate.stackIndex.toNat / 8, gate.attributes.toNat / 16 % 2,
        gate.reserved.toNat] } := by
  have hlow := gate.offsetLow.toNat_lt
  have hselector := gate.selector.toNat_lt
  have hstack := gate.stackIndex.toNat_lt
  have hattributes := gate.attributes.toNat_lt
  have hmiddle := gate.offsetMiddle.toNat_lt
  have hhigh := gate.offsetHigh.toNat_lt
  have hreserved := gate.reserved.toNat_lt
  unfold Descriptor.read
  rw [littleEndian_bytes]
  simp only [bitField, Descriptor.mk.injEq, List.cons.injEq, and_true]
  refine ⟨?_, ?_, ?_, ?_, ?_, decide_eq_decide.mpr ?_, ?_, ?_, ?_⟩ <;> omega

end Gate

/-! ### Gates of targets -/

theorem and_three (ring : UInt8) : ring &&& 3 = UInt8.ofNat (ring.toNat % 4) := by
  apply UInt8.toNat_inj.mp
  have hsmall : ring.toNat % 4 < 256 := by omega
  rw [UInt8.toNat_and, UInt8.toNat_ofNat_of_lt' hsmall]
  exact Nat.and_two_pow_sub_one_eq_mod ring.toNat 2

theorem toNat_gateAttributes (ring : UInt8) :
    (gateAttributes ring).toNat = 0x8E + 32 * (ring.toNat % 4) := by
  have hall : ∀ ring : Fin 4,
      (presentInterruptGate ||| (UInt8.ofNat ring.val <<< 5)).toNat = 0x8E + 32 * ring.val := by
    decide
  rw [gateAttributes, and_three]
  exact hall ⟨ring.toNat % 4, Nat.mod_lt _ (by decide)⟩

namespace Gate

variable (target : UInt64) (selector : UInt16) (ring : UInt8)

/-- The processor reads what an interrupt gate was made of. -/
theorem read_interrupt : Descriptor.read (interrupt target selector ring).bytes =
    .interrupt target.toNat selector.toNat (ring.toNat % 4) := by
  have hlt := target.toNat_lt
  have hmod := Nat.mod_lt ring.toNat (show 4 > 0 by decide)
  rw [read_bytes]
  simp only [interrupt, toNat_gateAttributes, Descriptor.interrupt, Descriptor.mk.injEq]
  simp [Nat.shiftRight_eq_div_pow, Descriptor.interruptKind]
  omega

theorem target_interrupt : (interrupt target selector ring).target = target := by
  apply UInt64.eq_of_toBitVec_eq
  apply BitVec.eq_of_getLsbD_eq
  intro index hindex
  have hword : (interrupt target selector ring).target.toBitVec =
      (target.toBitVec.setWidth 16).setWidth 64 |||
        ((target.toBitVec >>> 16).setWidth 16).setWidth 64 <<< 16 |||
          ((target.toBitVec >>> 32).setWidth 32).setWidth 64 <<< 32 := rfl
  rw [hword]
  -- A bit lies in the low, the middle or the high field.
  simp only [BitVec.getLsbD_or, BitVec.getLsbD_shiftLeft, BitVec.getLsbD_setWidth,
    BitVec.getLsbD_ushiftRight]
  grind

theorem gateRing_interrupt :
    (gateRing (interrupt target selector ring).definedAttributes).toNat = ring.toNat % 4 := by
  have hall : ∀ ring : Fin 4, (gateRing ((presentInterruptGate ||| (UInt8.ofNat ring.val <<< 5)) &&&
      0xEE)).toNat = ring.val := by
    decide
  change (gateRing ((presentInterruptGate ||| ((ring &&& 3) <<< 5)) &&& 0xEE)).toNat = _
  rw [and_three]
  exact hall ⟨ring.toNat % 4, Nat.mod_lt _ (by decide)⟩

end Gate

/-! ### Gates of a table -/

theorem take_drop_flatMap {α β : Type} {pieces : α → List β} {size : Nat}
    (hsize : ∀ item, (pieces item).length = size) {items : List α} {index : Nat} {item : α}
    (h : items[index]? = some item) :
    ((items.flatMap pieces).drop (size * index)).take size = pieces item := by
  induction items generalizing index with
  | nil => simp at h
  | cons first rest ih =>
    rw [List.flatMap_cons]
    cases index with
    | zero =>
      obtain rfl := Option.some.inj h
      rw [Nat.mul_zero, List.drop_zero, List.take_left' (hsize first)]
    | succ index =>
      rw [Nat.mul_succ, Nat.add_comm, ← List.drop_drop, List.drop_left' (hsize first)]
      exact ih h

theorem gateBytes_tableImage (table : VectorTable) (vector : Fin 256) :
    gateBytes (tableImage table) vector.val = (gateAt table vector).bytes := by
  refine take_drop_flatMap Gate.length_bytes ?_
  rw [interruptTable, Vector.toList_ofFn, List.getElem?_ofFn]
  simp

/-- Vectors that code of ring 3 may raise: breakpoint, overflow and the system call gate. -/
def userVectors : List Nat := [3, 4, 0x80]

theorem minPrivilege_eq_user_iff (base : UInt64) (vector : Fin 256) :
    ((VectorTable.mk .x86_64 base).slot (UInt64.ofNat vector.val)).minPrivilege = .user ↔
      vector.val ∈ userVectors := by
  change (vectorInfo (UInt64.ofNat vector.val)).minPrivilege = .user ↔ _
  revert vector
  decide +kernel

/-- The target of a vector, where the trampolines end within the address space. -/
theorem toNat_target {base : UInt64} (h : base.toNat + 255 * 16 < UInt64.size)
    (vector : Fin 256) :
    ((VectorTable.mk .x86_64 base).slot (UInt64.ofNat vector.val)).target.toNat =
      base.toNat + 16 * vector.val := by
  change (base + UInt64.ofNat vector.val * 16).toNat = _
  rw [UInt64.toNat_add, UInt64.toNat_mul]
  simp only [UInt64.size, UInt64.toNat_ofNat'] at h ⊢
  simp
  omega

/-- What the processor finds for a vector that has an entry. -/
theorem read_gateBytes {table : VectorTable} {vector : Fin 256} (h : vector.val < table.size) :
    Descriptor.read (gateBytes (tableImage table) vector.val) =
      .interrupt (table.slot (UInt64.ofNat vector.val)).target.toNat 8
        (if (table.slot (UInt64.ofNat vector.val)).minPrivilege = .user then 3 else 0) := by
  have hring : ∀ level : Privilege,
      level.ring.toNat % 4 = if level = .user then 3 else 0 := by
    intro level
    cases level <;> rfl
  rw [gateBytes_tableImage, gateAt, if_pos h, Gate.ofEntry, Gate.read_interrupt, hring]
  rfl

theorem read_gateBytes_beyond {table : VectorTable} {vector : Fin 256}
    (h : table.size ≤ vector.val) :
    gateAt table vector = {} ∧
      Descriptor.read (gateBytes (tableImage table) vector.val) = .absent := by
  have hgate : gateAt table vector = {} := if_neg (Nat.not_lt.mpr h)
  refine ⟨hgate, ?_⟩
  rw [gateBytes_tableImage, hgate]
  decide

/-- The gate of each vector leads to its own trampoline in the kernel's code segment, is a present
interrupt gate, and may be raised by user code just if its entry allows that. Whatever a gate is
made of, its sixteen bytes and its accessors tell the target, the selector and the ring, and all
that has to be zero is. Slots past the end of a table are not present. -/
theorem gates_are_read_back :
    (∀ base : UInt64, base.toNat + 255 * 16 < UInt64.size → ∀ vector : Fin 256,
      let table := VectorTable.mk .x86_64 base
      let entry := table.slot (UInt64.ofNat vector.val)
      Descriptor.read (gateBytes (tableImage table) vector.val) =
          .interrupt (base.toNat + 16 * vector.val) 8 (if entry.minPrivilege = .user then 3 else 0) ∧
        (entry.minPrivilege = .user ↔ vector.val ∈ userVectors)) ∧
    (∀ target selector ring,
      let gate := Gate.interrupt target selector ring
      gate.bytes.length = 16 ∧
        Descriptor.read gate.bytes = .interrupt target.toNat selector.toNat (ring.toNat % 4) ∧
        gate.target = target ∧ gate.selector = selector ∧
        (gateRing gate.definedAttributes).toNat = ring.toNat % 4) ∧
    ∀ (table : VectorTable) (vector : Fin 256), table.size ≤ vector.val →
      gateAt table vector = {} ∧
        Descriptor.read (gateBytes (tableImage table) vector.val) = .absent := by
  refine ⟨fun base h vector => ⟨?_, minPrivilege_eq_user_iff base vector⟩,
    fun target selector ring => ?_, fun table vector => read_gateBytes_beyond⟩
  · rw [@read_gateBytes ⟨.x86_64, base⟩ vector vector.isLt, toNat_target h]
  · exact ⟨Gate.length_bytes _, Gate.read_interrupt target selector ring,
      Gate.target_interrupt target selector ring, rfl, Gate.gateRing_interrupt target selector ring⟩

/-- The system call gate of a table in the upper half of the address space. -/
theorem system_call_gate_is_open :
    Descriptor.read (gateBytes (tableImage ⟨.x86_64, 0xFFFF800000100000⟩) 0x80) =
        .interrupt 0xFFFF800000100800 8 3 ∧
      Descriptor.read (gateBytes (tableImage ⟨.riscv64, 0x8000⟩) 0x80) = .absent := by
  obtain ⟨hbuilt, -, hbeyond⟩ := gates_are_read_back
  refine ⟨?_, (hbeyond ⟨.riscv64, 0x8000⟩ ⟨0x80, by decide⟩ (by decide)).2⟩
  obtain ⟨hread, huser⟩ := hbuilt 0xFFFF800000100000 (by decide) ⟨0x80, by decide⟩
  rw [if_pos (huser.mpr (by decide))] at hread
  exact hread

end TrapDispatch.X86
