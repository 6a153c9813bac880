import TrapDispatch.Proofs.ControllerCalls
import TrapDispatch.Proofs.Gateways
import TrapDispatch.Proofs.RawFrames

/-!
# Lines of a hart's controller

The numbers of all lines lead to different places: those of external sources to a bit of an
enable word, to a priority word and to the claim register, those of local lines to a bit in the
hart's interrupt enables. What is done to one line is not seen at any other, and nothing is
written that belongs to another context.
-/

namespace TrapDispatch

open ControllerCall

/-- What is asked of the interrupt enables and pending bits of a hart. -/
inductive HartAccess where
  | enable (flags : UInt64)
  | disable (flags : UInt64)
  | clearPending (flags : UInt64)

/-- Whether an access drives an enable bit, and to what. -/
def HartAccess.driven? (flag : UInt64) : HartAccess → Option Bool
  | .enable flags => if flags &&& flag ≠ 0 then some true else none
  | .disable flags => if flags &&& flag ≠ 0 then some false else none
  | .clearPending _ => none

/-- Plain words of memory with all that was written to them, newest first, and a hart with all
that was asked of it. -/
structure PlicBoard where
  initial : UInt64 → UInt32
  writes : List (UInt64 × UInt32) := []
  masked : UInt64 := 0
  asked : List HartAccess := []

namespace PlicBoard

section

variable (board : PlicBoard)

def word (offset : UInt64) : UInt32 :=
  (board.writes.lookup offset).getD (board.initial offset)

def write (offset : UInt64) (word : UInt32) : PlicBoard :=
  { board with writes := (offset, word) :: board.writes }

def ask (access : HartAccess) : PlicBoard :=
  { board with asked := access :: board.asked }

/-- How an enable bit of the hart was driven last. -/
def lastDriven (flag : UInt64) : Option Bool :=
  board.asked.findSome? (HartAccess.driven? flag)

def enabled (context : PlicContext) (source : UInt32) : Bool :=
  (board.word (Gateways.enableWord context source)).toBitVec.getLsbD (source.toNat % 32)

/-- A local line as the driver has it, and as it was driven last. -/
def line (flag : UInt64) : Bool × Option Bool :=
  (decide (board.masked &&& flag ≠ 0), board.lastDriven flag)

end

def plic (context : PlicContext) : Plic (StateM PlicBoard) where
  registers := .ofWords (fun offset board => (board.word offset, board))
    fun offset word board => ((), board.write offset word)
  hart :=
    { enable := fun flags board => ((), board.ask (.enable flags))
      disable := fun flags board => ((), board.ask (.disable flags))
      clearPending := fun flags board => ((), board.ask (.clearPending flags)) }
  context := context.val.toUInt64
  localMasked :=
    { get := fun board => (board.masked, board)
      set := fun masked board => ((), { board with masked }) }

def driver (context : PlicContext) : Controller (StateM PlicBoard) :=
  (plic context).controller

def priorityWord (source : UInt32) : UInt64 :=
  Plic.priorityOffset + 4 * source.toUInt64

def switchedLocal (board : PlicBoard) (flag : UInt64) : Bool → PlicBoard
  | true => { board with masked := board.masked &&& ~~~flag }.ask (.enable flag)
  | false => { board with masked := board.masked ||| flag }.ask (.disable flag)

def switchedSource (board : PlicBoard) (context : PlicContext) (source : UInt32) (value : Bool) :
    PlicBoard :=
  board.write (Gateways.enableWord context source)
    (Gateways.withBit source value (board.word (Gateways.enableWord context source)))

def switched (board : PlicBoard) (context : PlicContext) (irq : Irq) (value : Bool) : PlicBoard :=
  if Plic.isExternal irq then board.switchedSource context irq.number value
  else match Plic.localFlag irq with
    | none => board
    | some flag => board.switchedLocal flag value

def step (board : PlicBoard) (context : PlicContext) : ControllerCall → PlicBoard
  | .mask irq => board.switched context irq false
  | .unmask irq => board.switched context irq true
  | .acknowledge irq =>
    if irq = Plic.localLine .software then board.ask (.clearPending 0x2) else board
  | .endOfInterrupt irq =>
    if Plic.isExternal irq then board.write (Gateways.claimRegister context) irq.number else board
  | .setPriority irq level =>
    if Plic.isExternal irq ∧ level ≤ Plic.maxPriority then
      board.write (priorityWord irq.number) level.toUInt32
    else board
  | _ => board

/-- Why a priority is refused: the first reason that there is. -/
inductive Refuses : Irq → UInt8 → ControllerError → Prop
  | atHart {irq level} (h : (Plic.localFlag irq).isSome) : Refuses irq level .priorityUnsupported
  | missing {irq level} (hlocal : Plic.localFlag irq = none) (h : Plic.isExternal irq = false) :
      Refuses irq level (.invalidIrq irq)
  | tooHigh {irq level} (h : Plic.isExternal irq = true) (hlevel : Plic.maxPriority < level) :
      Refuses irq level (.invalidPriority level)

/-- What a call may write, and where. -/
inductive MayWrite (context : PlicContext) : ControllerCall → UInt64 × UInt32 → Prop
  | mask {irq} (h : Plic.isExternal irq = true) (word : UInt32) :
      MayWrite context (.mask irq) (Gateways.enableWord context irq.number, word)
  | unmask {irq} (h : Plic.isExternal irq = true) (word : UInt32) :
      MayWrite context (.unmask irq) (Gateways.enableWord context irq.number, word)
  | complete {irq} (h : Plic.isExternal irq = true) :
      MayWrite context (.endOfInterrupt irq) (Gateways.claimRegister context, irq.number)
  | setPriority {irq level} (h : Plic.isExternal irq = true) (hlevel : level ≤ Plic.maxPriority) :
      MayWrite context (.setPriority irq level) (priorityWord irq.number, level.toUInt32)

/-- Whether an offset lies in the enable words of a context, or among the registers that it has
beside them. -/
def InBlock (context : PlicContext) (offset : UInt64) : Prop :=
  (0x2000 + 0x80 * context.val ≤ offset.toNat ∧ offset.toNat < 0x2080 + 0x80 * context.val) ∨
  (0x200000 + 0x1000 * context.val ≤ offset.toNat ∧
    offset.toNat < 0x201000 + 0x1000 * context.val)

section

variable {board : PlicBoard} {context other : PlicContext} {irq : Irq} {flag offset : UInt64}
  {source : UInt32} {level : UInt8} {value : Bool} {call : ControllerCall}

theorem word_write (offset : UInt64) (word : UInt32) (place : UInt64) :
    (board.write offset word).word place = if place = offset then word else board.word place := by
  unfold PlicBoard.word write
  by_cases h : place = offset
  · simp [h]
  · simp [h, List.lookup_cons, beq_false_of_ne h]

/-- Lines of the hart are numbered behind the sources. -/
theorem localFlag_cases (h : Plic.localFlag irq = some flag) :
    irq = Plic.localLine .software ∧ flag = 0x2 ∨ irq = Plic.localLine .timer ∧ flag = 0x20 := by
  unfold Plic.localFlag at h
  split at h
  next hirq => exact Or.inl ⟨hirq, (Option.some.inj h).symm⟩
  next =>
    split at h
    next hirq => exact Or.inr ⟨hirq, (Option.some.inj h).symm⟩
    next => cases h

theorem isExternal_of_localFlag (h : Plic.localFlag irq = some flag) :
    Plic.isExternal irq = false := by
  rcases localFlag_cases h with ⟨rfl, -⟩ | ⟨rfl, -⟩ <;> rfl

theorem localFlag_of_isExternal (h : Plic.isExternal irq = true) : Plic.localFlag irq = none := by
  cases hflag : Plic.localFlag irq with
  | none => rfl
  | some flag =>
    rw [isExternal_of_localFlag hflag] at h
    cases h

theorem flag_ne_zero (h : Plic.localFlag irq = some flag) : flag ≠ 0 := by
  rcases localFlag_cases h with ⟨-, rfl⟩ | ⟨-, rfl⟩ <;> decide

theorem flags_apart {second : Irq} {flag' : UInt64} (h : Plic.localFlag irq = some flag)
    (h' : Plic.localFlag second = some flag') (hne : second ≠ irq) : flag' &&& flag = 0 := by
  rcases localFlag_cases h with ⟨rfl, rfl⟩ | ⟨rfl, rfl⟩ <;>
    rcases localFlag_cases h' with ⟨rfl, rfl⟩ | ⟨rfl, rfl⟩
  · exact absurd rfl hne
  · rfl
  · rfl
  · exact absurd rfl hne

theorem setEnabled_eq : (plic context).setEnabled irq value board =
    ((), board.switched context irq value) := by
  unfold Plic.setEnabled switched
  split
  · rfl
  · cases Plic.localFlag irq with
    | none => rfl
    | some flag => cases value <;> rfl

theorem isLocalMasked_eq (context : PlicContext) (board : PlicBoard)
    (h : Plic.localFlag irq = some flag) :
    (plic context).isLocalMasked irq board = ((board.line flag).1, board) := by
  unfold Plic.isLocalMasked
  rw [h]
  rfl

theorem localPending_eq (cause : RiscV.InterruptCause)
    (h : Plic.localFlag (Plic.localLine cause) = some flag) :
    (plic context).localPending cause board =
      (if (board.line flag).1 then none else some (Plic.localLine cause), board) := by
  have hmasked := isLocalMasked_eq context board h
  change (if ((plic context).isLocalMasked (Plic.localLine cause) board).1 then none
    else some (Plic.localLine cause), ((plic context).isLocalMasked _ board).2) = _
  rw [hmasked]

theorem pending_board (vector : UInt64) : ((plic context).pending vector board).2 = board := by
  have hlocal : ∀ cause, ((plic context).localPending cause board).2 = board := by
    intro cause
    cases cause <;> rfl
  unfold Plic.pending
  dsimp only
  split
  · rfl
  split
  · rfl
  split
  · exact hlocal .timer
  split
  · exact hlocal .software
  · rfl

theorem setPriority_ok (h : Plic.isExternal irq = true) (hlevel : level ≤ Plic.maxPriority) :
    (driver context).setPriority irq level board =
      (.ok (), board.write (priorityWord irq.number) level.toUInt32) := by
  change (plic context).setPriority irq level board = _
  unfold Plic.setPriority
  rw [localFlag_of_isExternal h, h]
  simp only [Option.isSome_none, Bool.false_eq_true, ↓reduceIte, reduceCtorEq]
  rw [if_neg (UInt8.not_lt.mpr hlevel)]
  rfl

theorem setPriority_error {error : ControllerError} (h : Refuses irq level error) :
    (driver context).setPriority irq level board = (.error error, board) := by
  change (plic context).setPriority irq level board = _
  unfold Plic.setPriority
  cases h with
  | atHart h => rw [if_pos h]; rfl
  | missing hlocal h => rw [hlocal, h]; rfl
  | tooHigh h hlevel =>
    rw [localFlag_of_isExternal h, h]
    simp only [Option.isSome_none, Bool.false_eq_true, ↓reduceIte, reduceCtorEq]
    rw [if_pos hlevel]
    rfl

theorem refuses_or (irq : Irq) (level : UInt8) :
    (∃ error, Refuses irq level error) ∨
      Plic.isExternal irq = true ∧ level ≤ Plic.maxPriority := by
  cases hflag : Plic.localFlag irq with
  | some flag => exact Or.inl ⟨_, .atHart (by rw [hflag]; rfl)⟩
  | none =>
    cases hexternal : Plic.isExternal irq with
    | false => exact Or.inl ⟨_, .missing hflag hexternal⟩
    | true =>
      by_cases hlevel : Plic.maxPriority < level
      · exact Or.inl ⟨_, .tooHigh hexternal hlevel⟩
      · exact Or.inr ⟨rfl, UInt8.not_lt.mp hlevel⟩

theorem reply_error_iff {error : ControllerError} :
    ((driver context).setPriority irq level board).1 = .error error ↔ Refuses irq level error := by
  refine ⟨fun h => ?_, fun h => by rw [setPriority_error h]⟩
  rcases refuses_or irq level with ⟨actual, hactual⟩ | ⟨hexternal, hlevel⟩
  · rw [setPriority_error hactual] at h
    cases h
    exact hactual
  · rw [setPriority_ok hexternal hlevel] at h
    cases h

theorem next_eq : (driver context).next board call = board.step context call := by
  cases call with
  | triggerMode irq => rfl
  | pending vector => exact pending_board vector
  | mask irq => exact congrArg Prod.snd setEnabled_eq
  | unmask irq => exact congrArg Prod.snd setEnabled_eq
  | acknowledge irq =>
    change ((plic context).acknowledge irq board).2 = _
    simp only [Plic.acknowledge, step]
    split <;> rfl
  | endOfInterrupt irq =>
    change ((plic context).endOfInterrupt irq board).2 = _
    simp only [Plic.endOfInterrupt, step]
    split <;> rfl
  | setPriority irq level =>
    change ((driver context).setPriority irq level board).2 = _
    simp only [step]
    rcases refuses_or irq level with ⟨error, h⟩ | h
    · rw [setPriority_error h, if_neg]
      rintro ⟨hexternal, hlevel⟩
      cases h with
      | atHart h =>
        rw [localFlag_of_isExternal hexternal] at h
        cases h
      | missing _ h =>
        rw [hexternal] at h
        cases h
      | tooHigh _ h => exact UInt8.not_lt.mpr hlevel h
    · rw [setPriority_ok h.1 h.2]
      exact (if_pos h).symm

/-! ### What is written -/

theorem writes_switched (hmay : Plic.isExternal irq = true →
      ∀ word, MayWrite context call (Gateways.enableWord context irq.number, word)) :
    ∃ new, (board.switched context irq value).writes = new ++ board.writes ∧
      ∀ write ∈ new, MayWrite context call write := by
  unfold switched
  split
  next h => exact ⟨[_], rfl, by simpa using hmay h _⟩
  next =>
    refine ⟨[], ?_, by simp⟩
    cases Plic.localFlag irq with
    | none => rfl
    | some flag => cases value <;> rfl

theorem writes_step : ∃ new, (board.step context call).writes = new ++ board.writes ∧
    ∀ write ∈ new, MayWrite context call write := by
  cases call with
  | triggerMode irq => exact ⟨[], rfl, by simp⟩
  | pending vector => exact ⟨[], rfl, by simp⟩
  | mask irq => exact writes_switched .mask
  | unmask irq => exact writes_switched .unmask
  | acknowledge irq =>
    refine ⟨[], ?_, by simp⟩
    simp only [step]
    split <;> rfl
  | endOfInterrupt irq =>
    simp only [step]
    split
    next h => exact ⟨[_], rfl, by simpa using .complete h⟩
    next => exact ⟨[], rfl, by simp⟩
  | setPriority irq level =>
    simp only [step]
    split
    next h => exact ⟨[_], rfl, by simpa using .setPriority h.1 h.2⟩
    next => exact ⟨[], rfl, by simp⟩

theorem initial_step : (board.step context call).initial = board.initial := by
  have hswitched : ∀ irq value, (board.switched context irq value).initial = board.initial := by
    intro irq value
    unfold switched
    split
    · rfl
    · cases Plic.localFlag irq with
      | none => rfl
      | some flag => cases value <;> rfl
  cases call with
  | triggerMode irq => rfl
  | pending vector => rfl
  | mask irq => exact hswitched irq false
  | unmask irq => exact hswitched irq true
  | _ =>
    simp only [step]
    split <;> rfl

theorem toNat_priorityWord (h : source.toNat < 1024) :
    (priorityWord source).toNat = 4 * source.toNat := by
  simp only [priorityWord, Plic.priorityOffset, UInt64.toNat_add, UInt64.toNat_mul,
    UInt32.toNat_toUInt64, UInt64.toNat_ofNat, Nat.reducePow, Nat.reduceMod]
  omega

theorem ne_zero_of_isExternal (h : Plic.isExternal irq = true) : irq.number.toNat ≠ 0 := by
  have hpos := (Bool.and_eq_true_iff.mp h).1
  exact Nat.ne_of_gt (UInt32.lt_iff_toNat_lt.mp (of_decide_eq_true hpos))

theorem inBlock_enableWord (h : source.toNat < 1024) :
    InBlock context (Gateways.enableWord context source) := by
  unfold InBlock
  rw [Gateways.toNat_enableWord h]
  omega

/-- What is written belongs to the context, or it is the priority of a source. -/
theorem MayWrite.inBlock_or {word : UInt32} (h : MayWrite context call (offset, word)) :
    InBlock context offset ∨ 0 < offset.toNat ∧ offset.toNat < 0x1000 := by
  cases h with
  | mask h => exact Or.inl (inBlock_enableWord (Gateways.lt_of_isExternal h))
  | unmask h => exact Or.inl (inBlock_enableWord (Gateways.lt_of_isExternal h))
  | complete =>
    refine Or.inl (Or.inr ?_)
    rw [Gateways.toNat_claimRegister]
    omega
  | setPriority h =>
    have hlt := Gateways.lt_of_isExternal h
    have hne := ne_zero_of_isExternal h
    rw [toNat_priorityWord hlt]
    omega

theorem not_mayWrite_of_inBlock (hne : other ≠ context) (h : InBlock other offset)
    (word : UInt32) : ¬ MayWrite context call (offset, word) := by
  intro hmay
  have hvalue : other.val ≠ context.val := fun heq => hne (Fin.ext heq)
  have hother := other.isLt
  have hcontext := context.isLt
  have hblock := hmay.inBlock_or
  unfold InBlock at h hblock
  omega

theorem not_mayWrite_priorityWord_zero (word : UInt32) :
    ¬ MayWrite context call (priorityWord 0, word) := by
  intro hmay
  have hblock := hmay.inBlock_or
  have hzero : (priorityWord 0).toNat = 0 := rfl
  unfold InBlock at hblock
  omega

/-! ### Enable bits of the sources -/

theorem enabled_write_other {word : UInt32} (h : Gateways.enableWord context source ≠ offset) :
    (board.write offset word).enabled context source = board.enabled context source := by
  unfold enabled
  rw [word_write, if_neg h]

theorem enabled_switched (hsource : source.toNat < 1024) :
    (board.switched context irq value).enabled context source =
      if Plic.isExternal irq ∧ source = irq.number then value
      else board.enabled context source := by
  unfold switched
  split
  next h =>
    unfold switchedSource enabled
    rw [word_write, Gateways.getLsbD_switching (Gateways.lt_of_isExternal h) hsource board.word]
    simp [h]
  next h =>
    rw [if_neg fun hboth => h hboth.1]
    cases Plic.localFlag irq with
    | none => rfl
    | some flag => cases value <;> rfl

/-- A source is enabled as it was switched. Source 0 is not switched. -/
theorem enabled_step (hsource : source.toNat < 1024) :
    (board.step context call).enabled context source =
      if Plic.isExternal ⟨source⟩ then (switch? ⟨source⟩ call).getD (board.enabled context source)
      else board.enabled context source := by
  have hswitch : ∀ irq value, (board.switched context irq value).enabled context source =
      if Plic.isExternal ⟨source⟩ then
        (if irq = ⟨source⟩ then some value else none).getD (board.enabled context source)
      else board.enabled context source := by
    intro irq value
    rw [enabled_switched hsource]
    by_cases hirq : irq = ⟨source⟩
    · subst hirq
      simp
    · have hne : source ≠ irq.number := fun h => hirq (by rw [h])
      simp [hirq, hne]
  cases call with
  | mask irq => exact hswitch irq false
  | unmask irq => exact hswitch irq true
  | triggerMode irq => simp [step, switch?]
  | pending vector => simp [step, switch?]
  | acknowledge irq =>
    simp only [step, switch?, Option.getD_none, ite_self]
    split <;> rfl
  | endOfInterrupt irq =>
    simp only [step, switch?, Option.getD_none, ite_self]
    split
    · exact enabled_write_other (Gateways.enableWord_ne_claimRegister hsource)
    · rfl
  | setPriority irq level =>
    simp only [step, switch?, Option.getD_none, ite_self]
    split
    next h =>
      refine enabled_write_other fun heq => ?_
      have hlt := Gateways.lt_of_isExternal h.1
      have hnat := congrArg UInt64.toNat heq
      rw [Gateways.toNat_enableWord hsource, toNat_priorityWord hlt] at hnat
      omega
    next => rfl

/-! ### Local lines -/

theorem line_switchedLocal (hflag : flag ≠ 0) :
    (board.switchedLocal flag value).line flag = (!value, some value) := by
  cases value with
  | true =>
    simp [switchedLocal, line, ask, lastDriven, HartAccess.driven?, hflag, UInt64.outside_and]
  | false => simp [switchedLocal, line, ask, lastDriven, HartAccess.driven?, hflag, UInt64.or_and]

theorem line_switchedLocal_apart {flag' : UInt64} (h : flag' &&& flag = 0) :
    (board.switchedLocal flag' value).line flag = board.line flag := by
  cases value with
  | true =>
    simp [switchedLocal, line, ask, lastDriven, HartAccess.driven?, h, UInt64.outside_and_apart h]
  | false =>
    simp [switchedLocal, line, ask, lastDriven, HartAccess.driven?, h, UInt64.or_and_apart h]

theorem line_switched (h : Plic.localFlag irq = some flag) (second : Irq) :
    (board.switched context second value).line flag =
      if second = irq then (!value, some value) else board.line flag := by
  by_cases hsecond : second = irq
  · subst hsecond
    rw [switched, isExternal_of_localFlag h, h, if_pos rfl]
    exact line_switchedLocal (flag_ne_zero h)
  · rw [if_neg hsecond]
    unfold switched
    split
    · rfl
    · cases hflag : Plic.localFlag second with
      | none => rfl
      | some flag' => exact line_switchedLocal_apart (flags_apart h hflag hsecond)

theorem line_step (h : Plic.localFlag irq = some flag) :
    (board.step context call).line flag =
      ((switch? irq call).map fun value => (!value, some value)).getD (board.line flag) := by
  cases call with
  | triggerMode irq => rfl
  | pending vector => rfl
  | mask second =>
    simp only [step, line_switched h, switch?]
    split <;> rfl
  | unmask second =>
    simp only [step, line_switched h, switch?]
    split <;> rfl
  | _ =>
    simp only [step, switch?]
    split <;> rfl

end

/-! ### Any sequence of calls -/

/-- Registers over some words, with a driver that has just been made. -/
def fresh (words : UInt64 → UInt32) : PlicBoard where
  initial := words

/-- What the calls of a driver have made of its registers, in view of what was asked of each
line. -/
structure Keeps (context : PlicContext) (start board : PlicBoard) (calls : List ControllerCall) :
    Prop where
  /-- Every source is enabled as it was switched last. -/
  sources : ∀ source, Plic.isExternal ⟨source⟩ = true → board.enabled context source =
    (lastSwitched ⟨source⟩ calls).getD (start.enabled context source)
  /-- What is written is what one of the calls may write. -/
  writes : ∃ new, board.writes = new ++ start.writes ∧
    ∀ write ∈ new, ∃ call ∈ calls, MayWrite context call write
  /-- Other contexts keep all their registers. -/
  others : ∀ other offset, other ≠ context → InBlock other offset →
    board.word offset = start.word offset
  /-- There is no source 0. -/
  absent : board.enabled context 0 = start.enabled context 0 ∧
    board.word (priorityWord 0) = start.word (priorityWord 0)
  /-- A local line is masked, and its enable bit was driven, as it was switched last. -/
  locals : ∀ irq flag, Plic.localFlag irq = some flag →
    (((plic context).isLocalMasked irq board).1 = true ↔ lastSwitched irq calls = some false) ∧
    board.lastDriven flag = lastSwitched irq calls
  /-- It is pending whenever it is asked for, unless it is masked. -/
  pending : ∀ cause, cause ≠ .external →
    ((driver context).pending (RiscV.interruptBase + cause.code) board).1 =
      if lastSwitched (Plic.localLine cause) calls = some false then none
      else some (Plic.localLine cause)
  /-- A priority is refused for one of the reasons there are, without any write. -/
  refusals : ∀ irq level error,
    ((driver context).setPriority irq level board).1 = .error error ↔ Refuses irq level error
  refused : ∀ irq level error, Refuses irq level error →
    ((driver context).setPriority irq level board).2 = board

variable {context : PlicContext} {start : PlicBoard} {calls : List ControllerCall}

theorem writes_after (context : PlicContext) (start : PlicBoard) (calls : List ControllerCall) :
    ∃ new, ((driver context).after start calls).writes = new ++ start.writes ∧
      ∀ write ∈ new, ∃ call ∈ calls, MayWrite context call write :=
  Controller.notes_after (fun _ _ => by rw [next_eq]; exact writes_step) start calls

theorem initial_after : ((driver context).after start calls).initial = start.initial := by
  have hview := @Controller.view_after _ _ (driver context) PlicBoard.initial (fun _ => none)
    (fun board call => by rw [next_eq, initial_step]; rfl) start calls
  rwa [last_none] at hview

/-- A word is left alone that no call may write. -/
theorem word_after {offset : UInt64}
    (h : ∀ call word, ¬ MayWrite context call (offset, word)) :
    ((driver context).after start calls).word offset = start.word offset := by
  obtain ⟨new, hwrites, hmay⟩ := writes_after context start calls
  have hnone : new.lookup offset = none := by
    refine List.lookup_eq_none_iff.mpr fun write hmem => ?_
    obtain ⟨call, -, hcall⟩ := hmay write hmem
    refine bne_iff_ne.mpr fun heq => h call write.2 ?_
    rw [heq]
    exact hcall
  unfold PlicBoard.word
  rw [hwrites, initial_after, List.lookup_append, hnone, Option.none_or]

theorem enabled_after {source : UInt32} (h : Plic.isExternal ⟨source⟩ = true) :
    ((driver context).after start calls).enabled context source =
      (lastSwitched ⟨source⟩ calls).getD (start.enabled context source) :=
  @Controller.view_after _ _ (driver context) (fun board => board.enabled context source)
    (switch? ⟨source⟩)
    (fun board call => by rw [next_eq, enabled_step (Gateways.lt_of_isExternal h), if_pos h])
    start calls

theorem enabled_zero_after :
    ((driver context).after start calls).enabled context 0 = start.enabled context 0 := by
  have hview := @Controller.view_after _ _ (driver context) (fun board => board.enabled context 0)
    (fun _ => none) (fun board call => by rw [next_eq, enabled_step (by decide)]; rfl) start calls
  rwa [last_none] at hview

theorem line_after {irq : Irq} {flag : UInt64} (h : Plic.localFlag irq = some flag)
    (context : PlicContext) (start : PlicBoard) (calls : List ControllerCall) :
    ((driver context).after start calls).line flag =
      ((lastSwitched irq calls).map fun value => (!value, some value)).getD (start.line flag) := by
  have hview := @Controller.view_after _ _ (driver context) (fun board => board.line flag)
    (fun call => (switch? irq call).map fun value => (!value, some value))
    (fun board call => by rw [next_eq, line_step h]) start calls
  rwa [last_map] at hview

theorem line_after_fresh {irq : Irq} {flag : UInt64} (h : Plic.localFlag irq = some flag)
    (context : PlicContext) (words : UInt64 → UInt32) (calls : List ControllerCall) :
    ((driver context).after (fresh words) calls).line flag =
      (decide (lastSwitched irq calls = some false), lastSwitched irq calls) := by
  have hfresh : (fresh words).line flag = (false, none) := by
    simp [fresh, line, lastDriven]
  rw [line_after h, hfresh]
  cases lastSwitched irq calls with
  | none => rfl
  | some value => cases value <;> rfl

theorem localFlag_localLine {cause : RiscV.InterruptCause} (h : cause ≠ .external) :
    ∃ flag, Plic.localFlag (Plic.localLine cause) = some flag := by
  cases cause with
  | external => exact absurd rfl h
  | _ => exact ⟨_, rfl⟩

theorem pending_eq {cause : RiscV.InterruptCause} {flag : UInt64} (board : PlicBoard)
    (h : Plic.localFlag (Plic.localLine cause) = some flag) :
    ((driver context).pending (RiscV.interruptBase + cause.code) board).1 =
      if (board.line flag).1 then none else some (Plic.localLine cause) := by
  have hlocal : (driver context).pending (RiscV.interruptBase + cause.code) board =
      (plic context).localPending cause board := by
    cases cause with
    | software => rfl
    | timer => rfl
    | external => cases h
  rw [hlocal, localPending_eq cause h]

/-- Whatever was asked of a driver, each line is as it was asked for, and nothing else has been
written. -/
theorem lines_keep_apart (context : PlicContext) (words : UInt64 → UInt32)
    (calls : List ControllerCall) :
    Keeps context (fresh words) ((driver context).after (fresh words) calls) calls where
  sources source h := enabled_after h
  writes := writes_after context (fresh words) calls
  others other offset hne h := word_after fun call word => not_mayWrite_of_inBlock hne h word
  absent := ⟨enabled_zero_after, word_after fun call word => not_mayWrite_priorityWord_zero word⟩
  locals irq flag h := by
    have hline := line_after_fresh h context words calls
    refine ⟨?_, congrArg Prod.snd hline⟩
    rw [isLocalMasked_eq _ _ h, hline]
    exact decide_eq_true_iff
  pending cause hcause := by
    obtain ⟨flag, h⟩ := localFlag_localLine hcause
    rw [pending_eq _ h, line_after_fresh h]
    simp only [decide_eq_true_eq]
  refusals irq level error := reply_error_iff
  refused irq level error h := by rw [setPriority_error h]

example : ((driver 3).after (fresh fun _ => 0xFFFFFFFF) [.mask ⟨33⟩, .mask ⟨1024⟩]).writes =
    [(0x2184, 0xFFFFFFFD)] := by
  decide

end PlicBoard
end TrapDispatch
