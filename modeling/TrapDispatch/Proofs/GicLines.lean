import TrapDispatch.Interrupt.Gic
import TrapDispatch.Proofs.ControllerCalls
import TrapDispatch.Proofs.Gateways
import TrapDispatch.Proofs.Lanes

/-!
# Lines of a distributor

A line has a bit in two arrays, one to enable and one to disable it, and a byte in another. What
is written to the first two sets and clears the bits that are set in the word, and leaves all
others; the priorities are plain words. In version 3 private lines have these registers in the
redistributor. Every line is enabled and has its priority as it was asked for last.
-/

namespace TrapDispatch

open ControllerCall

inductive GicVersion where
  | v2
  | v3
  deriving DecidableEq

/-- The blocks that hold the registers of lines. -/
inductive GicBank where
  | distributor
  | redistributor
  deriving DecidableEq

/-- The arrays of registers that are written for a line. -/
inductive GicArray where
  | setEnable
  | clearEnable
  | priorities
  deriving DecidableEq

/-- An access to a bank, or to the interface of the CPU. -/
inductive GicTouch where
  | read (bank : GicBank) (offset : UInt64)
  | write (bank : GicBank) (offset : UInt64) (word : UInt32)
  | interface (offset : UInt64)

def GicBank.frame : GicBank → UInt64
  | .distributor => 0
  | .redistributor => Gic.privateFrame

def GicBank.lines : GicBank → Nat
  | .distributor => 1020
  | .redistributor => 32

namespace GicArray

/-- The array that switches a line on or off. -/
def switching (value : Bool) : GicArray :=
  if value then .setEnable else .clearEnable

def start : GicArray → UInt64
  | .setEnable => Gic.setEnable
  | .clearEnable => Gic.clearEnable
  | .priorities => Gic.priorities

/-- How many bytes an array has: one for the priority of each line, or a bit, in words. -/
def size : GicArray → GicBank → Nat
  | .priorities, bank => bank.lines
  | _, .distributor => 128
  | _, .redistributor => 4

def place : GicArray → Irq → UInt64
  | .priorities, irq => wordOffset irq.number.toUInt64
  | _, irq => 4 * (irq.number.toUInt64 / 32)

def Holds (array : GicArray) (bank : GicBank) (offset : UInt64) : Prop :=
  ∃ place, place % 4 = 0 ∧ place + 4 ≤ array.size bank ∧
    offset.toNat = (bank.frame + array.start).toNat + place

end GicArray

/-- Registers of the banks: enable bits by their place in the arrays, all others by their offset.
What the interface of the CPU answers may depend on all accesses, newest first. -/
structure GicBoard where
  enables : GicBank → UInt64 → UInt32
  words : GicBank → UInt64 → UInt32
  answers : List GicTouch → UInt64 → UInt32
  touches : List GicTouch

instance : MonadRecord (StateM GicBoard) where
  record _ := pure ()

namespace GicBoard

def stored (registers : GicBank → UInt64 → UInt32) (bank : GicBank) (place : UInt64)
    (word : UInt32) : GicBank → UInt64 → UInt32 :=
  fun other offset => if other = bank ∧ offset = place then word else registers other offset

section

variable (board : GicBoard) (bank : GicBank) (offset : UInt64)

def touched (touch : GicTouch) : GicBoard :=
  { board with touches := touch :: board.touches }

def placeIn (array : GicArray) : UInt64 :=
  -- If the offset lies before the array, the difference wraps around to a place behind its end.
  offset - (bank.frame + array.start)

/-- Whether an offset is that of enable bits, and of which: whether to enable or to disable. -/
def enableBits? : Option (Bool × UInt64) :=
  if placeIn bank offset .setEnable < 0x80 then some (true, placeIn bank offset .setEnable)
  else if placeIn bank offset .clearEnable < 0x80 then
    some (false, placeIn bank offset .clearEnable)
  else none

def value : UInt32 :=
  match enableBits? bank offset with
  | some (_, place) => board.enables bank place
  | none => board.words bank offset

def store (word : UInt32) : GicBoard :=
  match enableBits? bank offset with
  | some (true, place) =>
    { board with enables := stored board.enables bank place (board.enables bank place ||| word) }
  | some (false, place) =>
    { board with enables := stored board.enables bank place (board.enables bank place &&& ~~~word) }
  | none => { board with words := stored board.words bank offset word }

end

def block (bank : GicBank) : RegisterBlock (StateM GicBoard) :=
  .ofWords (fun offset board => (board.value bank offset, board.touched (.read bank offset)))
    fun offset word board =>
      ((), (board.store bank offset word).touched (.write bank offset word))

def interfaceBlock : RegisterBlock (StateM GicBoard) :=
  .ofWords
    (fun offset board => (board.answers board.touches offset, board.touched (.interface offset)))
    fun offset _ board => ((), board.touched (.interface offset))

def gic (version : GicVersion) : Gic (StateM GicBoard) where
  distributor := block .distributor
  redistributor := if version = .v3 then some (block .redistributor) else none
  cpuInterface := interfaceBlock

def driver (version : GicVersion) : Controller (StateM GicBoard) :=
  (gic version).controller

def home (version : GicVersion) (irq : Irq) : GicBank :=
  if version = .v3 ∧ irq.number < Gic.sharedBase then .redistributor else .distributor

def wordOf (version : GicVersion) (array : GicArray) (irq : Irq) : UInt64 :=
  (home version irq).frame + array.start + array.place irq

section

variable (board : GicBoard) (version : GicVersion) (irq : Irq)

/-- The word that holds the enable bit of a line. -/
def enableWord : UInt32 :=
  board.enables (home version irq) (GicArray.setEnable.place irq)

def enabled : Bool :=
  (board.enableWord version irq).toBitVec.getLsbD (irq.number.toNat % 32)

/-- The word that holds the priority of a line. -/
def priorityWord : UInt32 :=
  board.words (home version irq) (wordOf version .priorities irq)

def byteAt (bank : GicBank) (offset : UInt64) : UInt8 :=
  laneByte (board.words bank (wordOffset offset)) (laneShift offset)

/-- The priority of a line: there is one byte for each. -/
def priority : UInt8 :=
  board.byteAt (home version irq)
    ((home version irq).frame + GicArray.priorities.start + irq.number.toUInt64)

def switched (value : Bool) : GicBoard :=
  { board with
    enables := stored board.enables (home version irq) (GicArray.setEnable.place irq)
      (Gateways.withBit irq.number value (board.enableWord version irq)) }

def leveled (level : UInt8) : GicBoard :=
  { board with
    words := stored board.words (home version irq) (wordOf version .priorities irq)
      (withLaneByte (board.priorityWord version irq) (laneShift irq.number.toUInt64) level) }

def effect : ControllerCall → GicBoard
  | .mask irq => if irq.number ≤ Gic.maxLine then board.switched version irq false else board
  | .unmask irq => if irq.number ≤ Gic.maxLine then board.switched version irq true else board
  | .setPriority irq level =>
    if irq.number ≤ Gic.maxLine then board.leveled version irq level else board
  | _ => board

end

/-- What a call may touch: the arrays that it is for, in the bank of its line. -/
inductive MayTouch (version : GicVersion) : ControllerCall → GicTouch → Prop
  | mask {irq offset} (h : irq.number ≤ Gic.maxLine)
      (hoffset : GicArray.clearEnable.Holds (home version irq) offset) (word : UInt32) :
      MayTouch version (.mask irq) (.write (home version irq) offset word)
  | unmask {irq offset} (h : irq.number ≤ Gic.maxLine)
      (hoffset : GicArray.setEnable.Holds (home version irq) offset) (word : UInt32) :
      MayTouch version (.unmask irq) (.write (home version irq) offset word)
  | setPriority {irq level offset} (h : irq.number ≤ Gic.maxLine)
      (hoffset : GicArray.priorities.Holds (home version irq) offset) (word : UInt32) :
      MayTouch version (.setPriority irq level) (.write (home version irq) offset word)
  | readPriority {irq level offset} (h : irq.number ≤ Gic.maxLine)
      (hoffset : GicArray.priorities.Holds (home version irq) offset) :
      MayTouch version (.setPriority irq level) (.read (home version irq) offset)
  | triggerMode {irq} : MayTouch version (.triggerMode irq) (.read (home version irq)
      ((home version irq).frame + Gic.configuration + 4 * (irq.number.toUInt64 / 16)))
  | peek {vector} : MayTouch version (.pending vector) (.interface Gic.pendingOffset)
  | take {vector} : MayTouch version (.pending vector) (.interface Gic.acknowledgeOffset)
  | endOfInterrupt {irq} : MayTouch version (.endOfInterrupt irq) (.interface Gic.endOffset)

section

variable {board : GicBoard} {version : GicVersion} {irq other : Irq} {bank : GicBank}
  {place : UInt64} {word : UInt32} {level : UInt8} {value : Bool} {call : ControllerCall}

theorem bank_eq :
    (gic version).bank irq = (block (home version irq), (home version irq).frame) := by
  unfold Gic.bank home
  cases version with
  | v2 => rfl
  | v3 =>
    by_cases h : irq.number < Gic.sharedBase
    · simp [gic, h, GicBank.frame]
    · simp [gic, h, GicBank.frame]

theorem toNat_place_priorities (irq : Irq) :
    (GicArray.priorities.place irq).toNat = irq.number.toNat / 4 * 4 :=
  toNat_wordOffset irq.number.toUInt64

theorem toNat_place {array : GicArray} (h : array ≠ .priorities) (irq : Irq) :
    (array.place irq).toNat = 4 * (irq.number.toNat / 32) := by
  have hlt := irq.number.toNat_lt
  cases array with
  | priorities => exact absurd rfl h
  | _ =>
    simp only [GicArray.place, UInt64.toNat_mul, UInt64.toNat_div, UInt32.toNat_toUInt64,
      UInt64.toNat_ofNat, Nat.reducePow, Nat.reduceMod]
    omega

theorem lt_lines (h : irq.number ≤ Gic.maxLine) (version : GicVersion) :
    irq.number.toNat < (home version irq).lines := by
  unfold home
  split
  next hprivate => exact UInt32.lt_iff_toNat_lt.mp hprivate.2
  next => exact Nat.lt_succ_of_le (UInt32.le_iff_toNat_le.mp h)

theorem place_le_size (h : irq.number ≤ Gic.maxLine) (version : GicVersion) (array : GicArray) :
    (array.place irq).toNat % 4 = 0 ∧
      (array.place irq).toNat + 4 ≤ array.size (home version irq) := by
  have hlt := lt_lines h version
  generalize home version irq = bank at hlt ⊢
  cases array with
  | priorities =>
    rw [toNat_place_priorities]
    cases bank <;> simp only [GicBank.lines, GicArray.size] at hlt ⊢ <;> omega
  | _ =>
    rw [toNat_place (by decide)]
    cases bank <;> simp only [GicBank.lines, GicArray.size] at hlt ⊢ <;> omega

theorem holds_wordOf (h : irq.number ≤ Gic.maxLine) (version : GicVersion) (array : GicArray) :
    array.Holds (home version irq) (wordOf version array irq) := by
  obtain ⟨haligned, hle⟩ := place_le_size h version array
  refine ⟨_, haligned, hle, ?_⟩
  have hsize : array.size (home version irq) ≤ 0x400 := by
    cases array <;> cases home version irq <;> decide
  have hstart : ((home version irq).frame + array.start).toNat ≤ 0x20000 := by
    cases array <;> cases home version irq <;> decide
  rw [wordOf, UInt64.toNat_add, Nat.mod_eq_of_lt (by omega)]

theorem placeIn_start (bank : GicBank) (array : GicArray) (place : UInt64) :
    placeIn bank (bank.frame + array.start + place) array = place := by
  unfold placeIn
  rw [UInt64.add_comm, UInt64.add_sub_cancel]

theorem placeIn_clearEnable (h : place < 0x80) :
    ¬ placeIn bank (bank.frame + GicArray.clearEnable.start + place) .setEnable < 0x80 := by
  have hlt := UInt64.lt_iff_toNat_lt.mp h
  rw [UInt64.lt_iff_toNat_lt]
  cases bank <;>
    simp [placeIn, GicBank.frame, GicArray.start, Gic.privateFrame, Gic.setEnable, Gic.clearEnable,
      UInt64.toNat_sub, UInt64.toNat_add] at hlt ⊢ <;> omega

theorem placeIn_priorities {array : GicArray} (harray : array ≠ .priorities) (h : place < 0x400) :
    ¬ placeIn bank (bank.frame + GicArray.priorities.start + place) array < 0x80 := by
  have hlt := UInt64.lt_iff_toNat_lt.mp h
  rw [UInt64.lt_iff_toNat_lt]
  cases array with
  | priorities => exact absurd rfl harray
  | _ =>
    cases bank <;>
      simp [placeIn, GicBank.frame, GicArray.start, Gic.privateFrame, Gic.setEnable,
        Gic.clearEnable, Gic.priorities, UInt64.toNat_sub, UInt64.toNat_add] at hlt ⊢ <;> omega

/-! ### What a call does -/

theorem place_lt (h : irq.number ≤ Gic.maxLine) : GicArray.setEnable.place irq < 0x80 := by
  have hle := (place_le_size h .v2 .setEnable).2
  have hsize : GicArray.setEnable.size (home .v2 irq) ≤ 0x80 := by
    cases home .v2 irq <;> decide
  exact UInt64.lt_iff_toNat_lt.mpr (by simp only [UInt64.reduceToNat]; omega)

theorem place_priorities_lt (h : irq.number ≤ Gic.maxLine) :
    GicArray.priorities.place irq < 0x400 := by
  have hle := (place_le_size h .v2 .priorities).2
  have hsize : GicArray.priorities.size (home .v2 irq) ≤ 0x400 := by
    cases home .v2 irq <;> decide
  exact UInt64.lt_iff_toNat_lt.mpr (by simp only [UInt64.reduceToNat]; omega)

theorem enableBits?_switching (h : irq.number ≤ Gic.maxLine) (version : GicVersion) (value : Bool) :
    enableBits? (home version irq) (wordOf version (.switching value) irq) =
      some (value, GicArray.setEnable.place irq) := by
  cases value with
  | true =>
    have hplace : placeIn (home version irq) (wordOf version .setEnable irq) .setEnable =
        GicArray.setEnable.place irq := placeIn_start _ _ _
    change enableBits? _ (wordOf version .setEnable irq) = _
    rw [enableBits?, hplace, if_pos (place_lt h)]
  | false =>
    have hplace : placeIn (home version irq) (wordOf version .clearEnable irq) .clearEnable =
        GicArray.setEnable.place irq := placeIn_start _ _ _
    change enableBits? _ (wordOf version .clearEnable irq) = _
    rw [enableBits?, hplace, if_pos (place_lt h)]
    exact if_neg (placeIn_clearEnable (place_lt h))

theorem enableBits?_priorities (h : irq.number ≤ Gic.maxLine) (version : GicVersion) :
    enableBits? (home version irq) (wordOf version .priorities irq) = none := by
  unfold enableBits? wordOf
  rw [if_neg (placeIn_priorities (by decide) (place_priorities_lt h)),
    if_neg (placeIn_priorities (by decide) (place_priorities_lt h))]

theorem store_switching (h : irq.number ≤ Gic.maxLine) (version : GicVersion) (value : Bool) :
    board.store (home version irq) (wordOf version (.switching value) irq)
      (Gateways.bit irq.number) = board.switched version irq value := by
  unfold store
  rw [enableBits?_switching h]
  cases value <;> rfl

theorem store_priorities (h : irq.number ≤ Gic.maxLine) (version : GicVersion) (word : UInt32) :
    board.store (home version irq) (wordOf version .priorities irq) word =
      { board with
        words := stored board.words (home version irq) (wordOf version .priorities irq) word } := by
  unfold store
  rw [enableBits?_priorities h]

theorem value_priorities (h : irq.number ≤ Gic.maxLine) (version : GicVersion) :
    board.value (home version irq) (wordOf version .priorities irq) =
      board.priorityWord version irq := by
  unfold GicBoard.value
  rw [enableBits?_priorities h]
  rfl

theorem writeEnableBit_eq (h : irq.number ≤ Gic.maxLine) (value : Bool) :
    (gic version).writeEnableBit irq (GicArray.switching value).start board =
      ((), (board.switched version irq value).touched (.write (home version irq)
        (wordOf version (.switching value) irq) (Gateways.bit irq.number))) := by
  unfold Gic.writeEnableBit
  rw [bank_eq, ← store_switching h]
  cases value <;> rfl

theorem mask_eq (h : irq.number ≤ Gic.maxLine) : (driver version).mask irq board =
    ((), (board.switched version irq false).touched
      (.write (home version irq) (wordOf version .clearEnable irq) (Gateways.bit irq.number))) := by
  change (gic version).mask irq board = _
  unfold Gic.mask
  rw [if_pos h]
  exact writeEnableBit_eq h false

theorem unmask_eq (h : irq.number ≤ Gic.maxLine) : (driver version).unmask irq board =
    ((), (board.switched version irq true).touched
      (.write (home version irq) (wordOf version .setEnable irq) (Gateways.bit irq.number))) := by
  change (gic version).unmask irq board = _
  unfold Gic.unmask
  rw [if_pos h]
  exact writeEnableBit_eq h true

theorem shift_eq (irq : Irq) : (irq.number &&& 3) * 8 = laneShift irq.number.toUInt64 := by
  have hplace : (irq.number &&& 3).toNat = irq.number.toNat % 4 := by
    rw [UInt32.toNat_and]
    exact Nat.and_two_pow_sub_one_eq_mod irq.number.toNat 2
  apply UInt32.toNat_inj.mp
  rw [toNat_laneShift, UInt32.toNat_mul, hplace, UInt32.toNat_toUInt64]
  simp only [UInt32.reduceToNat]
  omega

theorem setPriority_ok (h : irq.number ≤ Gic.maxLine) (board : GicBoard) (version : GicVersion)
    (level : UInt8) : ∃ word, (driver version).setPriority irq level board =
      (.ok (), { board.leveled version irq level with
        touches := [.write (home version irq) (wordOf version .priorities irq) word,
          .read (home version irq) (wordOf version .priorities irq)] ++ board.touches }) := by
  refine ⟨withLaneByte (board.value (home version irq) (wordOf version .priorities irq))
    (laneShift irq.number.toUInt64) level, ?_⟩
  change (gic version).setPriority irq level board = _
  unfold Gic.setPriority
  rw [if_neg (UInt32.not_lt.mpr h), bank_eq, shift_eq]
  unfold leveled
  rw [← value_priorities h version]
  exact congrArg (fun registers : GicBoard => (Except.ok (), registers.touched _))
    (store_priorities h version _)

theorem refused (h : Gic.maxLine < irq.number) : (driver version).mask irq board = ((), board) ∧
    (driver version).unmask irq board = ((), board) ∧
    ∀ level, (driver version).setPriority irq level board = (.error (.invalidIrq irq), board) := by
  have hnot := UInt32.not_le.mpr h
  refine ⟨?_, ?_, fun level => ?_⟩
  · change (gic version).mask irq board = _
    rw [Gic.mask, if_neg hnot]
    rfl
  · change (gic version).unmask irq board = _
    rw [Gic.unmask, if_neg hnot]
    rfl
  · change (gic version).setPriority irq level board = _
    rw [Gic.setPriority, if_pos h]
    rfl

theorem triggerMode_board (irq : Irq) : ∃ new,
    ((driver version).triggerMode irq board).2 = { board with touches := new ++ board.touches } ∧
      ∀ touch ∈ new, MayTouch version (.triggerMode irq) touch := by
  change ∃ new, ((gic version).triggerMode irq board).2 = _ ∧ _
  unfold Gic.triggerMode
  split
  · exact ⟨[], rfl, by simp⟩
  · rw [bank_eq]
    exact ⟨[_], rfl, by simpa using MayTouch.triggerMode⟩

theorem pending_board (vector : UInt64) : ∃ new,
    ((driver version).pending vector board).2 = { board with touches := new ++ board.touches } ∧
      ∀ touch ∈ new, MayTouch version (.pending vector) touch := by
  have hpeek : ((gic version).peek board).2 = board.touched (.interface Gic.pendingOffset) := rfl
  change ∃ new, ((gic version).pending board).2 = _ ∧ _
  unfold Gic.pending
  rw [Controller.bind_apply, hpeek]
  cases ((gic version).peek board).1 with
  | none => exact ⟨[_], rfl, by simpa using MayTouch.peek⟩
  | some irq =>
    refine ⟨[.interface Gic.acknowledgeOffset, .interface Gic.pendingOffset], ?_,
      by simpa using ⟨.take, .peek⟩⟩
    dsimp only
    rw [Controller.bind_apply]
    split <;> rfl

/-- A call makes of the registers what it is for, and touches what it may. -/
theorem next_eq : ∃ new, (driver version).next board call =
    { board.effect version call with touches := new ++ board.touches } ∧
      ∀ touch ∈ new, MayTouch version call touch := by
  cases call with
  | triggerMode irq => exact triggerMode_board irq
  | pending vector => exact pending_board vector
  | acknowledge irq => exact ⟨[], rfl, by simp⟩
  | endOfInterrupt irq => exact ⟨[_], rfl, by simpa using .endOfInterrupt⟩
  | mask irq =>
    simp only [Controller.next, effect]
    split
    next h =>
      rw [mask_eq h]
      exact ⟨[_], rfl, by simpa using .mask h (holds_wordOf h version .clearEnable) _⟩
    next h =>
      rw [(refused (UInt32.not_le.mp h)).1]
      exact ⟨[], rfl, by simp⟩
  | unmask irq =>
    simp only [Controller.next, effect]
    split
    next h =>
      rw [unmask_eq h]
      exact ⟨[_], rfl, by simpa using .unmask h (holds_wordOf h version .setEnable) _⟩
    next h =>
      rw [(refused (UInt32.not_le.mp h)).2.1]
      exact ⟨[], rfl, by simp⟩
  | setPriority irq level =>
    simp only [Controller.next, effect]
    split
    next h =>
      obtain ⟨word, hreply⟩ := setPriority_ok h board version level
      have hholds := holds_wordOf h version .priorities
      rw [hreply]
      exact ⟨_, rfl, by simpa using ⟨.setPriority h hholds word, .readPriority h hholds⟩⟩
    next h =>
      rw [(refused (UInt32.not_le.mp h)).2.2 level]
      exact ⟨[], rfl, by simp⟩

/-! ### Lines apart -/

theorem eq_of_place (hplace : GicArray.setEnable.place other = GicArray.setEnable.place irq)
    (hbit : other.number.toNat % 32 = irq.number.toNat % 32) : other = irq := by
  have hnat := congrArg UInt64.toNat hplace
  rw [toNat_place (by decide), toNat_place (by decide)] at hnat
  exact Irq.eq_of_toNat (by omega)

theorem enabled_switched : (board.switched version irq value).enabled version other =
    if other = irq then value else board.enabled version other := by
  have hindex : other.number.toNat % 32 < 32 := Nat.mod_lt _ (by decide)
  dsimp only [enabled, enableWord, switched, stored]
  by_cases hword : home version other = home version irq ∧
      GicArray.setEnable.place other = GicArray.setEnable.place irq
  · rw [if_pos hword, Gateways.getLsbD_withBit _ _ _ hindex, hword.1, hword.2]
    by_cases hbit : other.number.toNat % 32 = irq.number.toNat % 32
    · rw [if_pos hbit, if_pos (eq_of_place hword.2 hbit)]
    · have hne : other ≠ irq := fun hsame => hbit (by rw [hsame])
      rw [if_neg hbit, if_neg hne]
  · have hne : other ≠ irq := fun hsame => hword (by rw [hsame]; exact ⟨rfl, rfl⟩)
    rw [if_neg hword, if_neg hne]

theorem priority_eq (board : GicBoard) (version : GicVersion) (irq : Irq) :
    board.priority version irq =
      laneByte (board.priorityWord version irq) (laneShift irq.number.toUInt64) := by
  have haligned : ((home version irq).frame + GicArray.priorities.start).toNat % 4 = 0 := by
    cases home version irq <;> decide
  unfold priority byteAt
  rw [wordOffset_add haligned, laneShift_add haligned]
  rfl

/-- Two lines with the same place of the same word are the same. -/
theorem eq_of_wordOf (hbank : home version other = home version irq)
    (hword : wordOf version .priorities other = wordOf version .priorities irq)
    (hplace : other.number.toNat % 4 = irq.number.toNat % 4) : other = irq := by
  unfold wordOf at hword
  rw [hbank] at hword
  have hnat := congrArg UInt64.toNat ((UInt64.add_right_inj _).mp hword)
  rw [toNat_place_priorities, toNat_place_priorities] at hnat
  exact Irq.eq_of_toNat (by omega)

theorem priority_leveled : (board.leveled version irq level).priority version other =
    if other = irq then level else board.priority version other := by
  have hirq := toNat_laneShift irq.number.toUInt64
  have hother := toNat_laneShift other.number.toUInt64
  rw [UInt32.toNat_toUInt64] at hirq hother
  rw [priority_eq, priority_eq]
  dsimp only [priorityWord, leveled, stored]
  by_cases hword : home version other = home version irq ∧
      wordOf version .priorities other = wordOf version .priorities irq
  · rw [if_pos hword]
    by_cases hplace : other.number.toNat % 4 = irq.number.toNat % 4
    · have hsame := eq_of_wordOf hword.1 hword.2 hplace
      rw [if_pos hsame, hsame, laneByte_withLaneByte (by omega)]
    · have hne : other ≠ irq := fun hsame => hplace (by rw [hsame])
      rw [if_neg hne, laneByte_withLaneByte_apart (by omega) (by omega) (by omega), hword.1,
        hword.2]
  · have hne : other ≠ irq := fun hsame => hword (by rw [hsame]; exact ⟨rfl, rfl⟩)
    rw [if_neg hword, if_neg hne]

theorem enabled_effect (h : irq.number ≤ Gic.maxLine) :
    (board.effect version call).enabled version irq =
      (switch? irq call).getD (board.enabled version irq) := by
  have hswitch : ∀ other value,
      (if other.number ≤ Gic.maxLine then board.switched version other value
        else board).enabled version irq =
      (if other = irq then some value else none).getD (board.enabled version irq) := by
    intro other value
    by_cases hother : other = irq
    · rw [hother, if_pos h, if_pos rfl, enabled_switched, if_pos rfl]
      rfl
    · rw [if_neg hother]
      split
      · exact enabled_switched.trans (if_neg (Ne.symm hother))
      · rfl
  cases call with
  | mask other => exact hswitch other false
  | unmask other => exact hswitch other true
  | setPriority other level =>
    simp only [effect]
    split <;> rfl
  | _ => rfl

theorem priority_effect (h : irq.number ≤ Gic.maxLine) :
    (board.effect version call).priority version irq =
      (level? irq call).getD (board.priority version irq) := by
  cases call with
  | mask other =>
    simp only [effect]
    split <;> rfl
  | unmask other =>
    simp only [effect]
    split <;> rfl
  | setPriority other level =>
    simp only [effect, level?]
    by_cases hother : other = irq
    · rw [hother, if_pos h, if_pos rfl, priority_leveled, if_pos rfl]
      rfl
    · rw [if_neg hother]
      split
      · exact priority_leveled.trans (if_neg (Ne.symm hother))
      · rfl
  | _ => rfl

end

/-! ### Any sequence of calls -/

/-- What the calls of a driver have made of the registers, in view of what was asked of each
line. -/
structure Keeps (version : GicVersion) (start board : GicBoard) (calls : List ControllerCall) :
    Prop where
  /-- Every line is enabled as it was switched last. -/
  enabled : ∀ irq, irq.number ≤ Gic.maxLine →
    board.enabled version irq = (lastSwitched irq calls).getD (start.enabled version irq)
  /-- It has the priority that was set last. -/
  priority : ∀ irq, irq.number ≤ Gic.maxLine →
    board.priority version irq = (lastLevel irq calls).getD (start.priority version irq)
  /-- What is touched is what one of the calls may touch. -/
  touches : ∃ new, board.touches = new ++ start.touches ∧
    ∀ touch ∈ new, ∃ call ∈ calls, MayTouch version call touch
  /-- A priority can be set of every line that exists. -/
  accepted : ∀ irq level, irq.number ≤ Gic.maxLine →
    ((driver version).setPriority irq level board).1 = .ok ()
  /-- Nothing is done to lines that do not exist, and they have no priority. -/
  absent : ∀ irq, Gic.maxLine < irq.number →
    (driver version).mask irq board = ((), board) ∧
    (driver version).unmask irq board = ((), board) ∧
    ∀ level, (driver version).setPriority irq level board = (.error (.invalidIrq irq), board)

variable {version : GicVersion} {irq : Irq} {start : GicBoard} {calls : List ControllerCall}

theorem enabled_after (h : irq.number ≤ Gic.maxLine) :
    ((driver version).after start calls).enabled version irq =
      (lastSwitched irq calls).getD (start.enabled version irq) := by
  refine @Controller.view_after _ _ (driver version) (fun board => board.enabled version irq)
    (switch? irq) (fun board call => ?_) start calls
  obtain ⟨new, hnext, -⟩ := @next_eq board version call
  rw [hnext, ← enabled_effect h]
  rfl

theorem priority_after (h : irq.number ≤ Gic.maxLine) :
    ((driver version).after start calls).priority version irq =
      (lastLevel irq calls).getD (start.priority version irq) := by
  refine @Controller.view_after _ _ (driver version) (fun board => board.priority version irq)
    (level? irq) (fun board call => ?_) start calls
  obtain ⟨new, hnext, -⟩ := @next_eq board version call
  rw [hnext, ← priority_effect h]
  rfl

/-- Whatever was asked of a driver, each line is as it was asked for, and nothing else has been
touched. -/
theorem each_line_as_asked (version : GicVersion) (start : GicBoard)
    (calls : List ControllerCall) :
    Keeps version start ((driver version).after start calls) calls where
  enabled irq h := enabled_after h
  priority irq h := priority_after h
  touches := by
    refine Controller.notes_after (fun board call => ?_) start calls
    obtain ⟨new, hnext, hmay⟩ := @next_eq board version call
    exact ⟨new, by rw [hnext], hmay⟩
  accepted irq level h := by
    obtain ⟨word, hreply⟩ := setPriority_ok h ((driver version).after start calls) version level
    rw [hreply]
  absent irq h := refused h

example : GicArray.clearEnable.start + GicArray.clearEnable.place ⟨200⟩ = 0x198 := by
  decide

end GicBoard
end TrapDispatch
