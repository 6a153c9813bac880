import TrapDispatch.Interrupt.Apic
import TrapDispatch.Proofs.ControllerCalls
import TrapDispatch.Proofs.Gateways

/-!
# Lines of the I/O APIC

The registers of the I/O APIC are seen through a window, which shows the one that was selected
last. A line has two of them for its redirection entry, and its mask bit and its trigger mode are
in the first. Each call selects the register that it is for before it looks through the window, so
it does not matter what was selected before. Every line is masked as it was asked for last, and no
other bit of any register ever changes.
-/

namespace TrapDispatch

open ControllerCall

/-- An access to an I/O APIC: a register is selected, or the selected one is read or written. -/
inductive ApicTouch where
  | select (index : UInt32)
  | read (index : UInt32)
  | write (index : UInt32) (word : UInt32)
  /-- An access at an offset where there is nothing. -/
  | stray (offset : UInt64)

/-- The registers of an I/O APIC, of which one is selected, and all accesses to it, newest first.
The local APIC is a device of its own beside it. -/
structure ApicBoard (η : Type) where
  selected : UInt32
  registers : UInt32 → UInt32
  touches : List ApicTouch
  besides : η

namespace ApicBoard

variable {η : Type}

section

variable (board : ApicBoard η)

def touched (touch : ApicTouch) : ApicBoard η :=
  { board with touches := touch :: board.touches }

def select (index : UInt32) : ApicBoard η :=
  { board with selected := index }

def stored (index word : UInt32) : ApicBoard η :=
  { board with registers := fun other => if other = index then word else board.registers other }

end

def block : RegisterBlock (StateM (ApicBoard η)) :=
  .ofWords
    (fun offset board =>
      if offset = Apic.windowOffset then
        (board.registers board.selected, board.touched (.read board.selected))
      else (0, board.touched (.stray offset)))
    fun offset word board =>
      if offset = Apic.selectOffset then ((), (board.select word).touched (.select word))
      else if offset = Apic.windowOffset then
        ((), (board.stored board.selected word).touched (.write board.selected word))
      else ((), board.touched (.stray offset))

def onLocal {α : Type} (access : StateM η α) : StateM (ApicBoard η) α := fun board =>
  ((access board.besides).1, { board with besides := (access board.besides).2 })

def localBlock (device : RegisterBlock (StateM η)) : RegisterBlock (StateM (ApicBoard η)) where
  read32 offset := onLocal (device.read32 offset)
  write32 offset word := onLocal (device.write32 offset word)
  read8 offset := onLocal (device.read8 offset)
  write8 offset byte := onLocal (device.write8 offset byte)

def driver (device : RegisterBlock (StateM η)) : Controller (StateM (ApicBoard η)) :=
  Apic.controller (localBlock device) block

/-- Whether an index is that of the first register of a line's redirection entry. -/
def IsLow (index : UInt32) : Prop :=
  ∃ irq : Irq, irq.number < Apic.lineCount ∧ index = Apic.redirectionIndex irq

section

variable (board : ApicBoard η) (irq : Irq)

/-- The register of a line's mask and mode. -/
def entry : UInt32 :=
  board.registers (Apic.redirectionIndex irq)

def bit (index : UInt32) (place : Nat) : Bool :=
  (board.registers index).toBitVec.getLsbD place

def masked : Bool :=
  board.bit (Apic.redirectionIndex irq) 16

def level : Bool :=
  board.bit (Apic.redirectionIndex irq) 15

def switched (value : Bool) : ApicBoard η :=
  board.stored (Apic.redirectionIndex irq) (Gateways.withBit 16 value (board.entry irq))

def effect : ControllerCall → ApicBoard η
  | .mask irq => if irq.number < Apic.lineCount then board.switched irq true else board
  | .unmask irq => if irq.number < Apic.lineCount then board.switched irq false else board
  | _ => board

end

/-- What a call may touch: the entry of its line, if there is one, and to write it only if the
line is masked or unmasked. -/
inductive MayTouch : ControllerCall → ApicTouch → Prop
  | select {call irq} (h : irq.number < Apic.lineCount)
      (hcall : call ∈ [.mask irq, .unmask irq, .triggerMode irq]) :
      MayTouch call (.select (Apic.redirectionIndex irq))
  | read {call irq} (h : irq.number < Apic.lineCount)
      (hcall : call ∈ [.mask irq, .unmask irq, .triggerMode irq]) :
      MayTouch call (.read (Apic.redirectionIndex irq))
  | write {call irq} (h : irq.number < Apic.lineCount)
      (hcall : call ∈ [.mask irq, .unmask irq]) (word : UInt32) :
      MayTouch call (.write (Apic.redirectionIndex irq) word)

section

variable {device : RegisterBlock (StateM η)} {board : ApicBoard η} {irq other : Irq}
  {call : ControllerCall}

/-! ### What a call does -/

/-- The driver switches a line, whatever was selected, and leaves all other registers. -/
theorem updateRedirection_eq (irq : Irq) (value : Bool) (board : ApicBoard η) :
    Apic.updateRedirection block irq (Gateways.withBit 16 value) board = ((),
      { (board.switched irq value).select (Apic.redirectionIndex irq) with
        touches := [.write (Apic.redirectionIndex irq)
            (Gateways.withBit 16 value (board.entry irq)),
          .read (Apic.redirectionIndex irq), .select (Apic.redirectionIndex irq)] ++
            board.touches }) :=
  rfl

theorem bit_maskedBit : Gateways.bit 16 = Apic.maskedBit := by
  decide

theorem mask_eq (h : irq.number < Apic.lineCount) :
    (driver device).mask irq = Apic.updateRedirection block irq (Gateways.withBit 16 true) := by
  change Apic.mask block irq = _
  rw [Apic.mask, if_pos h, ← bit_maskedBit]
  rfl

theorem unmask_eq (h : irq.number < Apic.lineCount) :
    (driver device).unmask irq = Apic.updateRedirection block irq (Gateways.withBit 16 false) := by
  change Apic.unmask block irq = _
  rw [Apic.unmask, if_pos h, ← bit_maskedBit]
  rfl

theorem triggerMode_eq (h : irq.number < Apic.lineCount) (board : ApicBoard η) :
    (driver device).triggerMode irq board =
      (if board.entry irq &&& Apic.levelBit ≠ 0 then .level else .edge,
        { board.select (Apic.redirectionIndex irq) with
          touches := [.read (Apic.redirectionIndex irq), .select (Apic.redirectionIndex irq)] ++
            board.touches }) := by
  change Apic.triggerMode block irq board = _
  rw [Apic.triggerMode, if_neg (UInt32.not_le.mpr h)]
  rfl

theorem beyond (h : Apic.lineCount ≤ irq.number) (board : ApicBoard η) :
    (driver device).mask irq board = ((), board) ∧
      (driver device).unmask irq board = ((), board) ∧
      (driver device).triggerMode irq board = (.edge, board) := by
  have hnot := UInt32.not_lt.mpr h
  refine ⟨?_, ?_, ?_⟩
  · change Apic.mask block irq board = _
    rw [Apic.mask, if_neg hnot]
    rfl
  · change Apic.unmask block irq board = _
    rw [Apic.unmask, if_neg hnot]
    rfl
  · change Apic.triggerMode block irq board = _
    rw [Apic.triggerMode, if_pos h]
    rfl

theorem and_levelBit (word : UInt32) :
    word &&& Apic.levelBit ≠ 0 ↔ word.toBitVec.getLsbD 15 = true := by
  have hbit : Apic.levelBit = Gateways.bit 15 := by decide
  have hlevel : ∀ place < 32, (word &&& Apic.levelBit).toBitVec.getLsbD place =
      (word.toBitVec.getLsbD place && decide (place = 15)) := by
    intro place hplace
    rw [hbit, UInt32.toBitVec_and, BitVec.getLsbD_and, Gateways.getLsbD_bit 15 hplace]
    rfl
  constructor
  · intro hne
    by_contra hclear
    refine hne (UInt32.eq_of_toBitVec_eq (BitVec.eq_of_getLsbD_eq fun place hplace => ?_))
    rw [hlevel place hplace]
    by_cases hsame : place = 15
    · rw [hsame, eq_false_of_ne_true hclear]
      rfl
    · simp [hsame]
  · intro hset hzero
    have hnone := hlevel 15 (by decide)
    rw [hzero, hset] at hnone
    simp at hnone

theorem triggerMode_eq_level_iff :
    ((driver device).triggerMode irq board).1 = .level ↔
      irq.number < Apic.lineCount ∧ board.level irq = true := by
  by_cases h : irq.number < Apic.lineCount
  · rw [triggerMode_eq h]
    have hlevel := and_levelBit (board.entry irq)
    by_cases hbit : board.entry irq &&& Apic.levelBit ≠ 0
    · simp only [if_pos hbit, true_iff]
      exact ⟨h, hlevel.mp hbit⟩
    · simp only [if_neg hbit, reduceCtorEq, false_iff]
      exact fun hboth => hbit (hlevel.mpr hboth.2)
  · rw [(beyond (UInt32.not_lt.mp h) board).2.2]
    simp [h]

theorem mayTouch_switching (h : irq.number < Apic.lineCount)
    (hcall : call ∈ [.mask irq, .unmask irq]) (word : UInt32) :
    ∀ touch ∈ [.write (Apic.redirectionIndex irq) word, .read (Apic.redirectionIndex irq),
      .select (Apic.redirectionIndex irq)], MayTouch call touch := by
  have hmore : call ∈ [.mask irq, .unmask irq, .triggerMode irq] := by
    simp only [List.mem_cons, List.not_mem_nil, or_false] at hcall ⊢
    exact hcall.imp_right .inl
  simpa using ⟨MayTouch.write h hcall word, MayTouch.read h hmore, MayTouch.select h hmore⟩

/-- A call makes of the registers what it is for, and touches what it may. -/
theorem next_eq (device : RegisterBlock (StateM η)) (board : ApicBoard η) (call : ControllerCall) :
    ∃ selected new besides, (driver device).next board call =
      { board.effect call with selected, touches := new ++ board.touches, besides } ∧
        ∀ touch ∈ new, MayTouch call touch := by
  cases call with
  | mask irq =>
    simp only [Controller.next, effect]
    split
    next h =>
      rw [mask_eq h, updateRedirection_eq]
      exact ⟨_, _, _, rfl, mayTouch_switching h (by simp) _⟩
    next h =>
      rw [(beyond (UInt32.not_lt.mp h) board).1]
      exact ⟨_, [], _, rfl, by simp⟩
  | unmask irq =>
    simp only [Controller.next, effect]
    split
    next h =>
      rw [unmask_eq h, updateRedirection_eq]
      exact ⟨_, _, _, rfl, mayTouch_switching h (by simp) _⟩
    next h =>
      rw [(beyond (UInt32.not_lt.mp h) board).2.1]
      exact ⟨_, [], _, rfl, by simp⟩
  | triggerMode irq =>
    simp only [Controller.next, effect]
    by_cases h : irq.number < Apic.lineCount
    · rw [triggerMode_eq h]
      exact ⟨_, _, _, rfl, by simpa using ⟨.read h (by simp), .select h (by simp)⟩⟩
    · rw [(beyond (UInt32.not_lt.mp h) board).2.2]
      exact ⟨_, [], _, rfl, by simp⟩
  | _ => exact ⟨_, [], _, rfl, by simp⟩

/-! ### Bits apart -/

theorem toNat_redirectionIndex (h : irq.number < Apic.lineCount) :
    (Apic.redirectionIndex irq).toNat = 16 + 2 * irq.number.toNat := by
  have hlt : irq.number.toNat < 24 := UInt32.lt_iff_toNat_lt.mp h
  simp only [Apic.redirectionIndex, UInt32.toNat_add, UInt32.toNat_mul, UInt32.reduceToNat]
  omega

theorem eq_of_redirectionIndex (h : irq.number < Apic.lineCount)
    (hother : other.number < Apic.lineCount)
    (hindex : Apic.redirectionIndex other = Apic.redirectionIndex irq) : other = irq := by
  have hnat := congrArg UInt32.toNat hindex
  rw [toNat_redirectionIndex h, toNat_redirectionIndex hother] at hnat
  exact Irq.eq_of_toNat (by omega)

theorem not_isLow_succ (h : irq.number < Apic.lineCount) :
    ¬ IsLow (Apic.redirectionIndex irq + 1) := by
  rintro ⟨other, hother, hindex⟩
  have hnat := congrArg UInt32.toNat hindex
  have hlt : irq.number.toNat < 24 := UInt32.lt_iff_toNat_lt.mp h
  rw [UInt32.toNat_add, toNat_redirectionIndex h, toNat_redirectionIndex hother] at hnat
  simp only [UInt32.reduceToNat] at hnat
  omega

theorem bit_switched (value : Bool) (index : UInt32) {place : Nat} (hplace : place < 32) :
    (board.switched irq value).bit index place =
      if index = Apic.redirectionIndex irq ∧ place = 16 then value else board.bit index place := by
  dsimp only [bit, switched, stored, entry]
  by_cases hindex : index = Apic.redirectionIndex irq
  · rw [if_pos hindex, Gateways.getLsbD_withBit _ _ _ hplace]
    simp [hindex]
  · simp [hindex]

theorem masked_switched (h : irq.number < Apic.lineCount) (hother : other.number < Apic.lineCount)
    (value : Bool) : (board.switched irq value).masked other =
      if other = irq then value else board.masked other := by
  unfold masked
  rw [bit_switched _ _ (by decide)]
  by_cases hsame : other = irq
  · simp [hsame]
  · have hindex : Apic.redirectionIndex other ≠ Apic.redirectionIndex irq :=
      fun hindex => hsame (eq_of_redirectionIndex h hother hindex)
    simp [hsame, hindex]

theorem masked_effect (h : irq.number < Apic.lineCount) :
    (board.effect call).masked irq = ((switch? irq call).map not).getD (board.masked irq) := by
  have hswitch : ∀ other value,
      (if other.number < Apic.lineCount then board.switched other value else board).masked irq =
        (if other = irq then some value else none).getD (board.masked irq) := by
    intro other value
    by_cases hsame : other = irq
    · rw [hsame, if_pos h, if_pos rfl, masked_switched h h, if_pos rfl]
      rfl
    · rw [if_neg hsame]
      split
      next hother => exact (masked_switched hother h value).trans (if_neg (Ne.symm hsame))
      next => rfl
  cases call with
  | mask other =>
    refine (hswitch other true).trans ?_
    simp only [switch?]
    split <;> rfl
  | unmask other =>
    refine (hswitch other false).trans ?_
    simp only [switch?]
    split <;> rfl
  | _ => rfl

theorem bit_effect {index : UInt32} {place : Nat} (h : ¬ (place = 16 ∧ IsLow index)) :
    (board.effect call).bit index place = board.bit index place := by
  have hswitch : ∀ other value,
      (if other.number < Apic.lineCount then board.switched other value else board).bit index
        place = board.bit index place := by
    intro other value
    split
    next hother =>
      by_cases hplace : place < 32
      · rw [bit_switched _ _ hplace]
        exact if_neg fun hsame => h ⟨hsame.2, other, hother, hsame.1⟩
      · have hbeyond : ∀ word : UInt32, word.toBitVec.getLsbD place = false :=
          fun word => BitVec.getLsbD_of_ge _ _ (by omega)
        simp only [bit, hbeyond]
    next => rfl
  cases call with
  | mask other => exact hswitch other true
  | unmask other => exact hswitch other false
  | _ => rfl

end

/-! ### Any sequence of calls -/

/-- What the calls of a driver have made of the registers, in view of what was asked of each
line. -/
structure Keeps (device : RegisterBlock (StateM η)) (start board : ApicBoard η)
    (calls : List ControllerCall) : Prop where
  /-- Every line is masked as it was switched last. -/
  masked : ∀ irq, irq.number < Apic.lineCount →
    board.masked irq = ((lastSwitched irq calls).map not).getD (start.masked irq)
  /-- All bits but the mask bits of lines are as they were. -/
  others : ∀ index place, ¬ (place = 16 ∧ IsLow index) →
    board.bit index place = start.bit index place
  /-- The second register of every entry is as it was, and so is whatever is no entry. -/
  registers : (∀ irq, irq.number < Apic.lineCount →
      board.registers (Apic.redirectionIndex irq + 1) =
        start.registers (Apic.redirectionIndex irq + 1)) ∧
    ∀ index, ¬ IsLow index → board.registers index = start.registers index
  /-- What is touched is the entry of a line that one of the calls is for, and only the first
  register of an entry is written. -/
  touches : ∃ new, board.touches = new ++ start.touches ∧
    (∀ touch ∈ new, ∃ call ∈ calls, MayTouch call touch) ∧
    ∀ index word, .write index word ∈ new → IsLow index
  /-- A line signals as it did, whatever was asked of it or of others. -/
  level : ∀ irq, ((driver device).triggerMode irq board).1 = .level ↔
    irq.number < Apic.lineCount ∧ start.level irq = true
  /-- Nothing is done to lines that do not exist, and they are edge-triggered. -/
  beyond : ∀ irq, Apic.lineCount ≤ irq.number →
    (driver device).mask irq board = ((), board) ∧
      (driver device).unmask irq board = ((), board) ∧
      (driver device).triggerMode irq board = (.edge, board)
  /-- An interrupt is acknowledged and ended without the I/O APIC. -/
  ended : ∀ irq, (driver device).acknowledge irq board = ((), board) ∧
    ∃ besides, (driver device).endOfInterrupt irq board = ((), { board with besides })

variable {device : RegisterBlock (StateM η)} {irq : Irq} {start : ApicBoard η}
  {calls : List ControllerCall}

theorem masked_after (h : irq.number < Apic.lineCount) :
    ((driver device).after start calls).masked irq =
      ((lastSwitched irq calls).map not).getD (start.masked irq) := by
  unfold lastSwitched
  rw [← last_map]
  refine @Controller.view_after _ _ (driver device) (fun board => board.masked irq)
    (fun call => (switch? irq call).map not) (fun board call => ?_) start calls
  obtain ⟨selected, new, besides, hnext, -⟩ := next_eq device board call
  rw [hnext, ← masked_effect h]
  rfl

theorem bit_after {index : UInt32} {place : Nat} (h : ¬ (place = 16 ∧ IsLow index)) :
    ((driver device).after start calls).bit index place = start.bit index place := by
  have hview := @Controller.view_after _ _ (driver device) (fun board => board.bit index place)
    (fun _ => none) (fun board call => ?_) start calls
  · rw [hview, last_none]
    rfl
  · obtain ⟨selected, new, besides, hnext, -⟩ := next_eq device board call
    rw [hnext]
    exact bit_effect h

theorem register_after {index : UInt32} (h : ¬ IsLow index) :
    ((driver device).after start calls).registers index = start.registers index := by
  apply UInt32.eq_of_toBitVec_eq
  apply BitVec.eq_of_getLsbD_eq
  intro place _
  exact bit_after fun hlow => h hlow.2

theorem isLow_of_mayTouch {call : ControllerCall} {index word : UInt32}
    (h : MayTouch call (.write index word)) : IsLow index := by
  cases h with
  | write hlt _ _ => exact ⟨_, hlt, rfl⟩

/-- Whatever was asked of a driver, and whichever register was selected before, each line is
masked as it was asked for last, and no other bit has changed. -/
theorem only_mask_bits_change (device : RegisterBlock (StateM η)) (start : ApicBoard η)
    (calls : List ControllerCall) :
    Keeps device start ((driver device).after start calls) calls where
  masked irq h := masked_after h
  others index place h := bit_after h
  registers := ⟨fun irq h => register_after (not_isLow_succ h), fun index h => register_after h⟩
  touches := by
    have hnotes := @Controller.notes_after _ _ (driver device) ApicBoard.touches MayTouch
      (fun board call => ?_) start calls
    · obtain ⟨new, htouches, hmay⟩ := hnotes
      refine ⟨new, htouches, hmay, fun index word hmem => ?_⟩
      obtain ⟨call, -, htouch⟩ := hmay _ hmem
      exact isLow_of_mayTouch htouch
    · obtain ⟨selected, new, besides, hnext, hmay⟩ := next_eq device board call
      exact ⟨new, by rw [hnext], hmay⟩
  level irq := by
    have hlevel : ((driver device).after start calls).level irq = start.level irq :=
      bit_after fun h => absurd h.1 (by decide)
    rw [triggerMode_eq_level_iff, hlevel]
  beyond irq h := beyond h _
  ended irq := ⟨rfl, _, rfl⟩

end ApicBoard
end TrapDispatch
