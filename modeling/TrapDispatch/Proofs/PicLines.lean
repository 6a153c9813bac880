import TrapDispatch.Interrupt.Pic
import TrapDispatch.Proofs.ControllerCalls

/-!
# Lines of the 8259 pair

Each line has one bit in the mask register of its chip, and the lines of the slave reach the CPU
through line 2 of the master. A line is masked as it was asked for last, and only line 2 is opened
for others besides.
-/

namespace TrapDispatch

open ControllerCall

inductive PicChip where
  | master
  | slave
  deriving DecidableEq

inductive PicAccess where
  | read (port : UInt64)
  | write (port : UInt64) (byte : UInt8)
  deriving DecidableEq

namespace PicChip

def commandPort : PicChip → UInt64
  | master => Pic.masterCommand
  | slave => Pic.slaveCommand

def dataPort : PicChip → UInt64
  | master => Pic.masterData
  | slave => Pic.slaveData

def ofData? (port : UInt64) : Option PicChip :=
  if port = Pic.masterData then some master
  else if port = Pic.slaveData then some slave
  else none

def ofLine (irq : Irq) : PicChip :=
  if irq.number < 8 then master else slave

end PicChip

namespace Pic

def line? (offset vector : UInt64) : Option UInt32 :=
  if vector < offset then none
  else if lineCount ≤ (vector - offset).toUInt32 then none
  else some (vector - offset).toUInt32

section

variable {η : Type} [MonadRecord (StateM η)] (io : RegisterBlock (StateM η))
  {offset vector : UInt64} {line : UInt32}

theorem lt_of_line? (h : line? offset vector = some line) : line < lineCount := by
  unfold line? at h
  split at h
  · cases h
  · split at h
    · cases h
    next hbeyond =>
      obtain rfl := Option.some.inj h
      exact UInt32.not_le.mp hbeyond

theorem pending_of_none (h : line? offset vector = none) :
    pending io offset vector = pure none := by
  unfold line? at h
  unfold pending
  split at h
  next hbefore => rw [if_pos hbefore]
  next hbefore =>
    split at h
    next hbeyond =>
      rw [if_neg hbefore]
      dsimp only
      rw [if_pos hbeyond]
    next => cases h

theorem pending_of_line (hdrops : ∀ r, (record r : StateM η Unit) = pure ())
    (h : line? offset vector = some line) : pending io offset vector = (do
      if line = 7 then
        if ← lastInService io PicChip.master.commandPort then return some ⟨line⟩
        return none
      if line = 15 then
        if ← lastInService io PicChip.slave.commandPort then return some ⟨line⟩
        io.write8 masterCommand endCommand
        return none
      return some ⟨line⟩) := by
  have hrecord : ∀ level target text, (recordAt level target text : StateM η Unit) = pure () :=
    fun _ _ _ => hdrops _
  unfold line? at h
  split at h
  · cases h
  next hbefore =>
    split at h
    · cases h
    next hbeyond =>
      obtain rfl := Option.some.inj h
      unfold pending
      rw [if_neg hbefore]
      dsimp only
      rw [if_neg hbeyond]
      simp only [hrecord, pure_bind]
      rfl

end

end Pic

/-- The chip on which an access ends an interrupt, if it does. Whatever the rest of such a command
is, bit 5 is set in it, and bits 3 and 4, which would make it another command, are not. -/
def PicAccess.end? : PicAccess → Option PicChip
  | .read _ => none
  | .write port byte =>
    if byte &&& 0x38 ≠ 0x20 then none
    else if port = Pic.masterCommand then some .master
    else if port = Pic.slaveCommand then some .slave
    else none

/-- The mask registers of the pair, which are read back as they were written, and all accesses to
it, newest first. What is read from other ports may depend on these. -/
structure PicBoard where
  masks : PicChip → UInt8
  answers : List PicAccess → UInt64 → UInt8
  accesses : List PicAccess

instance : MonadRecord (StateM PicBoard) where
  record _ := pure ()

namespace PicBoard

section

variable (board : PicBoard)

def accessed (access : PicAccess) : PicBoard :=
  { board with accesses := access :: board.accesses }

def setMask (chip : PicChip) (byte : UInt8) : PicBoard :=
  { board with masks := fun other => if other = chip then byte else board.masks other }

def value (port : UInt64) : UInt8 :=
  match PicChip.ofData? port with
  | some chip => board.masks chip
  | none => board.answers board.accesses port

def store (port : UInt64) (byte : UInt8) : PicBoard :=
  match PicChip.ofData? port with
  | some chip => board.setMask chip byte
  | none => board

/-- The chips on which interrupts have been ended, newest first. -/
def ends : List PicChip :=
  board.accesses.filterMap PicAccess.end?

def masked (irq : Irq) : Bool :=
  (board.masks (.ofLine irq)).toBitVec.getLsbD (irq.number.toNat % 8)

def closed (irq : Irq) : PicBoard :=
  board.setMask (.ofLine irq) (board.masks (.ofLine irq) ||| (Pic.maskBit irq.number).2)

def opened (irq : Irq) : PicBoard :=
  board.setMask (.ofLine irq) (board.masks (.ofLine irq) &&& ~~~(Pic.maskBit irq.number).2)

def effect : ControllerCall → PicBoard
  | .mask irq => if irq.number < Pic.lineCount then board.closed irq else board
  | .unmask irq =>
    if irq.number < Pic.lineCount then
      if 8 ≤ irq.number then (board.opened irq).opened ⟨2⟩ else board.opened irq
    else board
  | _ => board

end

def io : RegisterBlock (StateM PicBoard) where
  read8 port board := (board.value port, board.accessed (.read port))
  write8 port byte board := ((), (board.store port byte).accessed (.write port byte))
  read32 port board := ((board.value port).toUInt32, board.accessed (.read port))
  write32 port word board :=
    ((), (board.store port word.toUInt8).accessed (.write port word.toUInt8))

def driver (offset : UInt64) : Controller (StateM PicBoard) :=
  Pic.controller io offset

/-- How a call switches line 2, which leads to the slave: those that open a line of the slave open
it too. -/
def switchCascade? : ControllerCall → Option Bool
  | .mask irq => if irq = ⟨2⟩ then some false else none
  | .unmask irq =>
    if irq = ⟨2⟩ ∨ 8 ≤ irq.number ∧ irq.number < Pic.lineCount then some true else none
  | _ => none

def switchLine? (irq : Irq) : ControllerCall → Option Bool :=
  if irq = ⟨2⟩ then switchCascade? else switch? irq

section

variable {board : PicBoard} {irq other : Irq} {offset : UInt64} {call : ControllerCall}

theorem exists_line (h : irq.number < Pic.lineCount) : ∃ line : Fin 16,
    irq = ⟨UInt32.ofNat line.val⟩ := by
  have hlt : irq.number.toNat < 16 := UInt32.lt_iff_toNat_lt.mp h
  refine ⟨⟨irq.number.toNat, hlt⟩, ?_⟩
  cases irq
  simp

theorem maskBit_port (h : irq.number < Pic.lineCount) :
    (Pic.maskBit irq.number).1 = (PicChip.ofLine irq).dataPort := by
  obtain ⟨line, rfl⟩ := exists_line h
  revert line
  decide

theorem getLsbD_maskBit (h : irq.number < Pic.lineCount) {index : Nat} (hindex : index < 8) :
    (Pic.maskBit irq.number).2.toBitVec.getLsbD index =
      decide (index = irq.number.toNat % 8) := by
  obtain ⟨line, rfl⟩ := exists_line h
  have hbits : ∀ (line : Fin 16) (index : Fin 8),
      (Pic.maskBit (UInt32.ofNat line.val)).2.toBitVec.getLsbD index =
        decide (index.val = (UInt32.ofNat line.val).toNat % 8) := by
    decide
  exact hbits line ⟨index, hindex⟩

theorem eq_of_bit (h : irq.number < Pic.lineCount) (hother : other.number < Pic.lineCount)
    (hchip : PicChip.ofLine other = PicChip.ofLine irq)
    (hbit : other.number.toNat % 8 = irq.number.toNat % 8) : other = irq := by
  obtain ⟨line, rfl⟩ := exists_line h
  obtain ⟨line', rfl⟩ := exists_line hother
  revert line line'
  decide

/-- A register in which one bit was changed is that of another line only there. -/
theorem masked_setMask {byte : UInt8} {value : Bool} (h : irq.number < Pic.lineCount)
    (hother : other.number < Pic.lineCount)
    (hbyte : ∀ index < 8, byte.toBitVec.getLsbD index = if index = irq.number.toNat % 8 then value
      else (board.masks (.ofLine irq)).toBitVec.getLsbD index) :
    (board.setMask (.ofLine irq) byte).masked other =
      if other = irq then value else board.masked other := by
  unfold masked setMask
  dsimp only
  by_cases hchip : PicChip.ofLine other = PicChip.ofLine irq
  · rw [if_pos hchip, hbyte _ (Nat.mod_lt _ (by decide))]
    by_cases hbit : other.number.toNat % 8 = irq.number.toNat % 8
    · rw [if_pos hbit, if_pos (eq_of_bit h hother hchip hbit)]
    · have hne : other ≠ irq := fun hsame => hbit (by rw [hsame])
      rw [if_neg hbit, if_neg hne, hchip]
  · have hne : other ≠ irq := fun hsame => hchip (by rw [hsame])
    rw [if_neg hchip, if_neg hne]

theorem masked_closed (h : irq.number < Pic.lineCount) (hother : other.number < Pic.lineCount) :
    (board.closed irq).masked other = if other = irq then true else board.masked other := by
  refine masked_setMask h hother fun index hindex => ?_
  rw [UInt8.toBitVec_or, BitVec.getLsbD_or, getLsbD_maskBit h hindex]
  split <;> simp [*]

theorem masked_opened (h : irq.number < Pic.lineCount) (hother : other.number < Pic.lineCount) :
    (board.opened irq).masked other = if other = irq then false else board.masked other := by
  refine masked_setMask h hother fun index hindex => ?_
  rw [UInt8.toBitVec_and, UInt8.toBitVec_not, BitVec.getLsbD_and, BitVec.getLsbD_not,
    getLsbD_maskBit h hindex]
  split <;> simp [*]

theorem switchLine?_of_ne (h : irq ≠ ⟨2⟩) : switchLine? irq = switch? irq :=
  if_neg h

theorem switchLine?_mask (irq other : Irq) :
    switchLine? irq (.mask other) = if other = irq then some false else none := by
  unfold switchLine?
  split
  next h => rw [h]; rfl
  next => rfl

theorem masked_unmask_cascade : (board.effect (.unmask other)).masked ⟨2⟩ =
    ((switchCascade? (.unmask other)).map not).getD (board.masked ⟨2⟩) := by
  have hcascade : (⟨2⟩ : Irq).number < Pic.lineCount := by decide
  simp only [effect, switchCascade?]
  by_cases hother : other.number < Pic.lineCount
  · rw [if_pos hother]
    by_cases hslave : 8 ≤ other.number
    · rw [if_pos hslave, masked_opened hcascade hcascade, if_pos rfl,
        if_pos (.inr ⟨hslave, hother⟩)]
      rfl
    · rw [if_neg hslave, masked_opened hother hcascade]
      by_cases hsame : other = ⟨2⟩
      · rw [if_pos hsame.symm, if_pos (.inl hsame)]
        rfl
      · rw [if_neg (Ne.symm hsame), if_neg (by simp [hsame, hslave])]
        rfl
  · have hsame : other ≠ ⟨2⟩ := fun h => hother (h ▸ hcascade)
    rw [if_neg hother, if_neg (by simp [hsame, hother])]
    rfl

theorem masked_unmask (h : irq.number < Pic.lineCount) (hcascade : irq ≠ ⟨2⟩) :
    (board.effect (.unmask other)).masked irq =
      ((switch? irq (.unmask other)).map not).getD (board.masked irq) := by
  simp only [effect, switch?]
  by_cases hother : other.number < Pic.lineCount
  · have hopened : ∀ start : PicBoard, (start.opened other).masked irq =
        ((if other = irq then some true else none).map not).getD (start.masked irq) := by
      intro start
      rw [masked_opened hother h]
      by_cases hsame : other = irq
      · rw [if_pos hsame.symm, if_pos hsame]
        rfl
      · rw [if_neg (Ne.symm hsame), if_neg hsame]
        rfl
    rw [if_pos hother]
    split
    · rw [masked_opened (by decide) h, if_neg hcascade, hopened]
    · exact hopened board
  · have hsame : other ≠ irq := fun hsame => hother (hsame ▸ h)
    rw [if_neg hother, if_neg hsame]
    rfl

/-- A line is masked as it was switched last. -/
theorem masked_effect (h : irq.number < Pic.lineCount) : (board.effect call).masked irq =
    ((switchLine? irq call).map not).getD (board.masked irq) := by
  cases call with
  | mask other =>
    rw [switchLine?_mask]
    simp only [effect]
    by_cases hsame : other = irq
    · rw [hsame, if_pos h, if_pos rfl, masked_closed h h, if_pos rfl]
      rfl
    · rw [if_neg hsame]
      split
      next hother => exact (masked_closed hother h).trans (if_neg (Ne.symm hsame))
      next => rfl
  | unmask other =>
    by_cases hcascade : irq = ⟨2⟩
    · rw [hcascade]
      exact masked_unmask_cascade
    · rw [switchLine?_of_ne hcascade]
      exact masked_unmask h hcascade
  | _ =>
    unfold switchLine?
    split <;> rfl

/-! ### What a call does -/

/-- Writes a mask register back with a change. -/
def revise (chip : PicChip) (change : UInt8 → UInt8) : StateM PicBoard Unit := do
  io.write8 chip.dataPort (change (← io.read8 chip.dataPort))

theorem revise_eq (chip : PicChip) (change : UInt8 → UInt8) (board : PicBoard) :
    revise chip change board = ((), { board.setMask chip (change (board.masks chip)) with
      accesses := [.write chip.dataPort (change (board.masks chip)), .read chip.dataPort] ++
        board.accesses }) := by
  cases chip <;> rfl

theorem filterMap_end?_revise (chip : PicChip) (byte : UInt8) :
    [PicAccess.write chip.dataPort byte, .read chip.dataPort].filterMap PicAccess.end? = [] := by
  have hnone : (PicAccess.write chip.dataPort byte).end? = none := by
    simp only [PicAccess.end?]
    split
    · rfl
    · cases chip <;> rfl
  rw [List.filterMap_cons_none hnone]
  rfl

theorem maskBit_eq (h : irq.number < Pic.lineCount) :
    Pic.maskBit irq.number = ((PicChip.ofLine irq).dataPort, (Pic.maskBit irq.number).2) := by
  rw [← maskBit_port h]

theorem mask_eq (h : irq.number < Pic.lineCount) :
    (driver offset).mask irq = revise (.ofLine irq) (· ||| (Pic.maskBit irq.number).2) := by
  change Pic.mask io irq = _
  unfold Pic.mask
  rw [if_pos h, maskBit_eq h]
  rfl

theorem unmask_eq (h : irq.number < Pic.lineCount) : (driver offset).unmask irq = (do
    revise (.ofLine irq) (· &&& ~~~(Pic.maskBit irq.number).2)
    if 8 ≤ irq.number then revise .master (· &&& ~~~Pic.cascadeBit)) := by
  change Pic.unmask io irq = _
  unfold Pic.unmask
  rw [if_pos h, maskBit_eq h]
  rfl

/-- The cascade input is line 2 of the master. -/
theorem unmask_board (h : irq.number < Pic.lineCount) (board : PicBoard) : ∃ new,
    ((driver offset).unmask irq board).2 =
      { board.effect (.unmask irq) with accesses := new ++ board.accesses } ∧
      new.filterMap PicAccess.end? = [] := by
  rw [unmask_eq h, Controller.bind_apply, revise_eq]
  simp only [effect, if_pos h]
  split
  · rw [revise_eq]
    refine ⟨[_, _] ++ [_, _], rfl, ?_⟩
    rw [List.filterMap_append, filterMap_end?_revise, filterMap_end?_revise]
    rfl
  · exact ⟨[_, _], rfl, filterMap_end?_revise _ _⟩

theorem beyond (h : Pic.lineCount ≤ irq.number) :
    (driver offset).mask irq board = ((), board) ∧
      (driver offset).unmask irq board = ((), board) := by
  have hnot := UInt32.not_lt.mpr h
  constructor
  · change Pic.mask io irq board = _
    rw [Pic.mask, if_neg hnot]
    rfl
  · change Pic.unmask io irq board = _
    rw [Pic.unmask, if_neg hnot]
    rfl

/-- Whether a chip says, when it is asked next, that its line 7 is in service. -/
def serving (board : PicBoard) (chip : PicChip) : Bool :=
  board.answers (.write chip.commandPort Pic.readInService :: board.accesses) chip.commandPort &&&
    0x80 ≠ 0

def named (board : PicBoard) (offset vector : UInt64) : Option Irq :=
  match Pic.line? offset vector with
  | none => none
  | some line =>
    if line = 7 ∧ board.serving .master = false ∨ line = 15 ∧ board.serving .slave = false then none
    else some ⟨line⟩

/-- Where an interrupt is ended that no line is named for. -/
def spared (offset vector : UInt64) : List PicChip :=
  if Pic.line? offset vector = some 15 then [.master] else []

theorem lastInService_eq (chip : PicChip) (board : PicBoard) :
    Pic.lastInService io chip.commandPort board = (board.serving chip, { board with
      accesses := [.read chip.commandPort, .write chip.commandPort Pic.readInService] ++
        board.accesses }) := by
  cases chip <;> rfl

/-- The accesses by which a line is asked for, newest first. -/
def asking (board : PicBoard) : Option UInt32 → List PicAccess
  | some 7 => [.read Pic.masterCommand, .write Pic.masterCommand Pic.readInService]
  | some 15 => (if board.serving .slave then [] else [.write Pic.masterCommand Pic.endCommand]) ++
      [.read Pic.slaveCommand, .write Pic.slaveCommand Pic.readInService]
  | _ => []

theorem pending_eq (board : PicBoard) (offset vector : UInt64) :
    (driver offset).pending vector board = (board.named offset vector,
      { board with accesses := board.asking (Pic.line? offset vector) ++ board.accesses }) := by
  change Pic.pending io offset vector board = _
  unfold named
  cases hline : Pic.line? offset vector with
  | none =>
    rw [Pic.pending_of_none io hline]
    rfl
  | some line =>
    rw [Pic.pending_of_line io (fun _ => rfl) hline]
    by_cases hmaster : line = 7
    · subst hmaster
      rw [if_pos rfl, Controller.bind_apply, lastInService_eq]
      cases hserving : board.serving .master <;> simp [asking] <;> rfl
    by_cases hslave : line = 15
    · subst hslave
      rw [if_neg (by decide), if_pos rfl, Controller.bind_apply, lastInService_eq]
      cases hserving : board.serving .slave <;> simp [asking, hserving] <;> rfl
    have hasking : board.asking (some line) = [] := by
      unfold asking
      split <;> simp_all
    rw [if_neg hmaster, if_neg hslave, hasking]
    simp only [hmaster, hslave, false_and, or_self, if_false]
    rfl

/-- Only for a spared line 15 is anything ended, and that on the master. -/
theorem ends_asking (board : PicBoard) (offset vector : UInt64) :
    (board.asking (Pic.line? offset vector)).filterMap PicAccess.end? =
      if board.named offset vector = none then spared offset vector else [] := by
  unfold named spared
  cases Pic.line? offset vector with
  | none => rfl
  | some line =>
    by_cases hmaster : line = 7
    · subst hmaster
      cases board.serving .master <;> simp [asking] <;> decide
    by_cases hslave : line = 15
    · subst hslave
      cases hserving : board.serving .slave <;> simp [asking, hserving] <;> decide
    have hasking : board.asking (some line) = [] := by
      unfold asking
      split <;> simp_all
    rw [hasking]
    simp [hmaster, hslave]

def ended (irq : Irq) : List PicChip :=
  if 8 ≤ irq.number then [.master, .slave] else [.master]

theorem endOfInterrupt_eq (irq : Irq) (board : PicBoard) : ∃ new,
    (driver offset).endOfInterrupt irq board =
      ((), { board with accesses := new ++ board.accesses }) ∧
      new.filterMap PicAccess.end? = ended irq := by
  change ∃ new, Pic.endOfInterrupt io irq board = _ ∧ _
  unfold Pic.endOfInterrupt ended
  split
  · exact ⟨[.write Pic.masterCommand Pic.endCommand, .write Pic.slaveCommand Pic.endCommand], rfl,
      by decide⟩
  · exact ⟨[.write Pic.masterCommand Pic.endCommand], rfl, by decide⟩

/-- A call makes of the mask registers what it is for. -/
theorem next_eq (offset : UInt64) (board : PicBoard) (call : ControllerCall) : ∃ new,
    (driver offset).next board call =
      { board.effect call with accesses := new ++ board.accesses } := by
  cases call with
  | mask irq =>
    simp only [Controller.next, effect]
    split
    next h =>
      rw [mask_eq h, revise_eq]
      exact ⟨_, rfl⟩
    next h =>
      rw [(beyond (UInt32.not_lt.mp h)).1]
      exact ⟨[], rfl⟩
  | unmask irq =>
    simp only [Controller.next, effect]
    split
    next h =>
      obtain ⟨new, hboard, -⟩ := @unmask_board irq offset h board
      simp only [effect, if_pos h] at hboard
      exact ⟨new, hboard⟩
    next h =>
      rw [(beyond (UInt32.not_lt.mp h)).2]
      exact ⟨[], rfl⟩
  | pending vector =>
    simp only [Controller.next, pending_eq]
    exact ⟨_, rfl⟩
  | endOfInterrupt irq =>
    obtain ⟨new, hnext, -⟩ := @endOfInterrupt_eq offset irq board
    exact ⟨new, congrArg Prod.snd hnext⟩
  | _ => exact ⟨[], rfl⟩

end

/-! ### Any sequence of calls -/

/-- How the lines of a board are masked, in view of what was asked of each of them. -/
structure MasksAsAsked (offset : UInt64) (start board : PicBoard) (calls : List ControllerCall) :
    Prop where
  /-- Every other line is masked as it was switched last. -/
  apart : ∀ irq, irq.number < Pic.lineCount → irq ≠ ⟨2⟩ →
    board.masked irq = ((lastSwitched irq calls).map not).getD (start.masked irq)
  /-- So is line 2, and it is opened with each line of the slave. -/
  cascade : board.masked ⟨2⟩ = ((last switchCascade? calls).map not).getD (start.masked ⟨2⟩)
  /-- Nothing is done to lines that do not exist. -/
  beyond : ∀ irq, Pic.lineCount ≤ irq.number →
    (driver offset).mask irq board = ((), board) ∧ (driver offset).unmask irq board = ((), board)

variable {offset : UInt64} {irq : Irq} {start : PicBoard} {calls : List ControllerCall}

theorem masked_after (h : irq.number < Pic.lineCount) :
    ((driver offset).after start calls).masked irq =
      ((last (switchLine? irq) calls).map not).getD (start.masked irq) := by
  rw [← last_map]
  refine @Controller.view_after _ _ (driver offset) (fun board => board.masked irq)
    (fun call => (switchLine? irq call).map not) (fun board call => ?_) start calls
  obtain ⟨new, hnext⟩ := next_eq offset board call
  rw [hnext, ← masked_effect h]
  rfl

theorem masks_as_asked (offset : UInt64) (start : PicBoard) (calls : List ControllerCall) :
    MasksAsAsked offset start ((driver offset).after start calls) calls where
  apart irq h hcascade := by
    rw [masked_after h, switchLine?_of_ne hcascade]
    rfl
  cascade := masked_after (by decide)
  beyond _ := PicBoard.beyond

end PicBoard
end TrapDispatch
