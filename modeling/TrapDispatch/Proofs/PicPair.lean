import TrapDispatch.Proofs.EndCommands

/-!
# In-service registers of the 8259 pair

A chip sets a bit of its in-service register when a line of its own is delivered, and clears the
first bit that is set when it is told of an end. A request that has dropped before the pair is
asked for its line is delivered as line 7 of its chip, and sets no bit there. The driver tells it
from line 7 by the in-service bit.
-/

namespace TrapDispatch

variable {η τ α : Type}

/-- A bit of the in-service register of a chip. -/
structure PicBit where
  chip : PicChip
  flag : UInt8
  deriving DecidableEq

namespace PicBit

/-- Bits of the register of a chip as they are with one more set. -/
def set (bit : PicBit) (serving : PicChip → UInt8) : PicChip → UInt8 :=
  fun chip => if chip = bit.chip then serving chip ||| bit.flag else serving chip

/-- Whether a bit comes before all that are set in the register of its chip. -/
def Leads (bit : PicBit) (serving : PicChip → UInt8) : Prop :=
  -- All lower bits are those of one less.
  serving bit.chip &&& (bit.flag ||| (bit.flag - 1)) = 0

instance (bit : PicBit) (serving : PicChip → UInt8) : Decidable (bit.Leads serving) :=
  inferInstanceAs (Decidable (_ = _))

/-- The bits that are set for a line, in the order in which they are cleared. -/
def ofLine (line : UInt32) : List PicBit :=
  if 8 ≤ line then [⟨.slave, (Pic.maskBit line).2⟩, ⟨.master, Pic.cascadeBit⟩]
  else [⟨.master, (Pic.maskBit line).2⟩]

def setAll (bits : List PicBit) (serving : PicChip → UInt8) : PicChip → UInt8 :=
  bits.foldr set serving

/-- The lowest bit that is set in a byte. -/
def first (byte : UInt8) : UInt8 :=
  byte &&& -byte

end PicBit

/-- What a CPU is told when it asks the pair for a line, and what was in service until then. -/
structure Delivery where
  line : UInt32
  dropped : Bool
  serving : PicChip → UInt8

namespace Delivery

variable (delivery : Delivery)

/-- The bits that are set by it. What drops at the slave has been forwarded by the master. -/
def bits : List PicBit :=
  if delivery.dropped then
    if delivery.line = 15 then [⟨.master, Pic.cascadeBit⟩] else []
  else PicBit.ofLine delivery.line

def overlaps : Bool :=
  delivery.serving (.ofLine ⟨delivery.line⟩) &&& 0x80 ≠ 0

def spared : Bool :=
  delivery.dropped && !delivery.overlaps

def InOrder : Prop :=
  ∀ bit ∈ delivery.bits, bit.Leads delivery.serving

/-- Whether a delivery is in order, and no dropped request for a chip whose line 7 was in
service. -/
def Fair : Prop :=
  delivery.InOrder ∧ (delivery.dropped = true → delivery.overlaps = false)

instance : Decidable delivery.Fair :=
  inferInstanceAs (Decidable ((∀ bit ∈ delivery.bits, bit.Leads delivery.serving) ∧ _))

end Delivery

inductive PicEvent where
  | delivered (delivery : Delivery)
  | cleared (bit : PicBit)

namespace PicEvent

/-- Bits that are set come to the front. Only what is in front can be cleared. -/
def apply : PicEvent → List PicBit → Option (List PicBit)
  | .delivered delivery, bits => some (delivery.bits ++ bits)
  | .cleared bit, newest :: bits => if bit = newest then some bits else none
  | .cleared _, [] => none

/-- The bits that were set and not cleared, newest first; none if any was cleared that was not the
newest. -/
def unended : List PicEvent → Option (List PicBit)
  | [] => some []
  | newest :: earlier => (unended earlier).bind newest.apply

def isFair : PicEvent → Bool
  | .delivered delivery => decide delivery.Fair
  | .cleared _ => true

end PicEvent

/-- A pair, with all that became of its in-service registers, newest first. Which requests drop,
and what else can be read, may depend on that. -/
structure PicPair where
  masks : PicChip → UInt8
  serving : PicChip → UInt8
  /-- Whether a chip gives its in-service register. -/
  selected : PicChip → Bool
  requests : List PicEvent → PicChip → UInt8
  drops : List PicEvent → Bool
  events : List PicEvent

instance : MonadRecord (StateM PicPair) where
  record _ := pure ()

def PicChip.ofCommand? (port : UInt64) : Option PicChip :=
  if port = Pic.masterCommand then some master
  else if port = Pic.slaveCommand then some slave
  else none

namespace PicPair

section

variable (pair : PicPair)

def value (port : UInt64) : UInt8 :=
  match PicChip.ofData? port, PicChip.ofCommand? port with
  | some chip, _ => pair.masks chip
  | none, some chip =>
    if pair.selected chip then pair.serving chip else pair.requests pair.events chip
  | none, none => 0xFF

def setMask (chip : PicChip) (byte : UInt8) : PicPair :=
  { pair with masks := fun other => if other = chip then byte else pair.masks other }

def select (chip : PicChip) : PicPair :=
  { pair with selected := fun other => other = chip ∨ pair.selected other }

def finished (chip : PicChip) : PicPair :=
  { pair with
    serving := fun other =>
      if other = chip then pair.serving chip &&& ~~~PicBit.first (pair.serving chip)
      else pair.serving other
    events := .cleared ⟨chip, PicBit.first (pair.serving chip)⟩ :: pair.events }

def command (chip : PicChip) (byte : UInt8) : PicPair :=
  if byte = Pic.endCommand then pair.finished chip
  else if byte = Pic.readInService then pair.select chip
  else pair

def store (port : UInt64) (byte : UInt8) : PicPair :=
  match PicChip.ofData? port, PicChip.ofCommand? port with
  | some chip, _ => pair.setMask chip byte
  | none, some chip => pair.command chip byte
  | none, none => pair

/-- What is delivered for a line. Only lines 7 and 15 are told for requests that have dropped. -/
def delivery (line : UInt32) : Delivery where
  line := line
  dropped := decide (line = 7 ∨ line = 15) && pair.drops pair.events
  serving := pair.serving

def delivered (line : UInt32) : PicPair :=
  { pair with
    serving := PicBit.setAll (pair.delivery line).bits pair.serving
    events := .delivered (pair.delivery line) :: pair.events }

/-- What the driver makes of a line that is delivered, when it is asked for that. -/
def asked (line : UInt32) : PicPair :=
  if line = 7 then (pair.delivered line).select .master
  else if line = 15 then
    if (pair.delivery line).spared then ((pair.delivered line).select .slave).finished .master
    else (pair.delivered line).select .slave
  else pair.delivered line

def named (offset vector : UInt64) : Option Irq :=
  (Pic.line? offset vector).bind fun line =>
    if (pair.delivery line).spared then none else some ⟨line⟩

def answered (offset vector : UInt64) : PicPair :=
  (Pic.line? offset vector).elim pair pair.asked

def Fair : Prop :=
  ∀ event ∈ pair.events, event.isFair = true

instance : Decidable pair.Fair :=
  inferInstanceAs (Decidable (∀ event ∈ pair.events, event.isFair = true))

end

def io : RegisterBlock (StateM PicPair) where
  read8 port pair := (pair.value port, pair)
  write8 port byte pair := ((), pair.store port byte)
  read32 port pair := ((pair.value port).toUInt32, pair)
  write32 port word pair := ((), pair.store port word.toUInt8)

end PicPair

/-- A controller that is asked for a line after something has arrived. -/
def Controller.arriving {m : Type → Type u} [Monad m] (controller : Controller m)
    (arrive : UInt64 → m Unit) : Controller m :=
  { controller with pending := fun vector => arrive vector >>= fun _ => controller.pending vector }

namespace PicPair

/-- The line behind a vector is delivered before the trap. -/
def arrival (offset vector : UInt64) : StateM PicPair Unit :=
  fun pair => ((), (Pic.line? offset vector).elim pair pair.delivered)

def driver (offset : UInt64) : Controller (StateM PicPair) :=
  (Pic.controller io offset).arriving (arrival offset)

def wired (offset : UInt64) : Controller (ServiceProgram (PicPair × τ)) :=
  (Pic.controller io.wired offset).arriving fun vector => onHardware (arrival offset vector)

theorem mirrors_driver (offset : UInt64) : (wired (τ := τ) offset).Mirrors (driver offset) :=
  let plain : (Pic.controller io.wired offset).Mirrors (Pic.controller io offset) :=
    Pic.mirrors_controller (fun _ => rfl) offset
  { triggerMode := plain.triggerMode
    pending := fun vector => (mirrors_onHardware _).bind fun _ => plain.pending vector
    mask := plain.mask
    unmask := plain.unmask
    acknowledge := plain.acknowledge
    endOfInterrupt := plain.endOfInterrupt }

section

variable {pair : PicPair} {offset vector : UInt64} {line : UInt32}

/-! ### Bytes of the in-service registers -/

theorem exists_number (byte : UInt8) : ∃ number : Fin 256, byte = UInt8.ofNat number.val :=
  ⟨⟨byte.toNat, byte.toNat_lt⟩, UInt8.ofNat_toNat.symm⟩

/-- A bit that leads is cleared first, and the others are as they were. -/
theorem first_or (hline : line < Pic.lineCount) (byte : UInt8)
    (h : byte &&& ((Pic.maskBit line).2 ||| ((Pic.maskBit line).2 - 1)) = 0) :
    PicBit.first (byte ||| (Pic.maskBit line).2) = (Pic.maskBit line).2 ∧
      (byte ||| (Pic.maskBit line).2) &&& ~~~(Pic.maskBit line).2 = byte := by
  have hline : (⟨line⟩ : Irq).number < Pic.lineCount := hline
  obtain ⟨index, hindex⟩ := PicBoard.exists_line hline
  obtain ⟨number, rfl⟩ := exists_number byte
  obtain rfl : line = UInt32.ofNat index.val := congrArg Irq.number hindex
  clear hline hindex
  revert index number
  decide +kernel

theorem or_last_ne_zero (byte : UInt8) : (byte ||| 0x80) &&& 0x80 ≠ 0 := by
  obtain ⟨number, rfl⟩ := exists_number byte
  revert number
  decide +kernel

/-! ### What the driver does to the pair -/

theorem lastInService_eq (chip : PicChip) (pair : PicPair) :
    Pic.lastInService io chip.commandPort pair =
      (decide (pair.serving chip &&& 0x80 ≠ 0), pair.select chip) := by
  cases chip <;> rfl

/-- Line 7 of a chip is in service once it is delivered, unless the request has dropped. -/
theorem last_delivered (pair : PicPair) (h : line = 7 ∨ line = 15) :
    decide ((pair.delivered line).serving (.ofLine ⟨line⟩) &&& 0x80 ≠ 0) =
      !(pair.delivery line).spared := by
  have hbits : PicBit.ofLine 7 = [⟨.master, 0x80⟩] ∧
      PicBit.ofLine 15 = [⟨.slave, 0x80⟩, ⟨.master, Pic.cascadeBit⟩] := by
    decide
  have hserving : (pair.delivered line).serving (.ofLine ⟨line⟩) =
      if (pair.delivery line).dropped then pair.serving (.ofLine ⟨line⟩)
      else pair.serving (.ofLine ⟨line⟩) ||| 0x80 := by
    unfold delivered Delivery.bits
    rcases h with rfl | rfl <;> cases (pair.delivery _).dropped
    · simp only [delivery, hbits.1]
      rfl
    · rfl
    · simp only [delivery, hbits.2]
      rfl
    · rfl
  unfold Delivery.spared
  rw [hserving]
  cases (pair.delivery line).dropped with
  | false => exact decide_eq_true (or_last_ne_zero _)
  | true => exact (Bool.not_not _).symm

theorem not_spared (pair : PicPair) (hmaster : line ≠ 7) (hslave : line ≠ 15) :
    (pair.delivery line).spared = false := by
  simp [Delivery.spared, delivery, hmaster, hslave]

theorem pendingLine_eq (pair : PicPair) (hline : Pic.line? offset vector = some line) :
    Pic.pending io offset vector (pair.delivered line) =
      (if (pair.delivery line).spared then none else some ⟨line⟩, pair.asked line) := by
  rw [Pic.pending_of_line io (fun _ => rfl) hline]
  by_cases hmaster : line = 7
  · have hlast := last_delivered pair (.inl hmaster)
    subst hmaster
    change decide ((pair.delivered 7).serving .master &&& 0x80 ≠ 0) = _ at hlast
    rw [if_pos rfl, Controller.bind_apply, lastInService_eq, hlast]
    cases (pair.delivery 7).spared <;> rfl
  by_cases hslave : line = 15
  · have hlast := last_delivered pair (.inr hslave)
    subst hslave
    change decide ((pair.delivered 15).serving .slave &&& 0x80 ≠ 0) = _ at hlast
    have hasked : pair.asked 15 = if (pair.delivery 15).spared then
        ((pair.delivered 15).select .slave).finished .master
      else (pair.delivered 15).select .slave := rfl
    rw [if_neg hmaster, if_pos rfl, Controller.bind_apply, lastInService_eq, hlast, hasked]
    cases (pair.delivery 15).spared <;> rfl
  rw [if_neg hmaster, if_neg hslave, not_spared pair hmaster hslave, asked, if_neg hmaster,
    if_neg hslave]
  rfl

theorem pending_eq (pair : PicPair) (offset vector : UInt64) :
    (driver offset).pending vector pair =
      (pair.named offset vector, pair.answered offset vector) := by
  change Pic.pending io offset vector ((Pic.line? offset vector).elim pair pair.delivered) = _
  unfold named answered
  cases hline : Pic.line? offset vector with
  | none =>
    rw [Pic.pending_of_none io hline]
    rfl
  | some line => exact pendingLine_eq pair hline

theorem mask_eq (offset : UInt64) (irq : Irq) (pair : PicPair) :
    ∃ masks, (driver offset).mask irq pair = ((), { pair with masks }) := by
  change ∃ masks, Pic.mask io irq pair = _
  unfold Pic.mask
  split
  · unfold Pic.maskBit
    split <;> exact ⟨_, rfl⟩
  · exact ⟨_, rfl⟩

theorem unmask_eq (offset : UInt64) (irq : Irq) (pair : PicPair) :
    ∃ masks, (driver offset).unmask irq pair = ((), { pair with masks }) := by
  change ∃ masks, Pic.unmask io irq pair = _
  unfold Pic.unmask
  split
  · unfold Pic.maskBit
    split <;> split <;> exact ⟨_, rfl⟩
  · exact ⟨_, rfl⟩

theorem endOfInterrupt_eq (offset : UInt64) (irq : Irq) (pair : PicPair) :
    (driver offset).endOfInterrupt irq pair = ((),
      if 8 ≤ irq.number then (pair.finished .slave).finished .master else pair.finished .master) := by
  change Pic.endOfInterrupt io irq pair = _
  unfold Pic.endOfInterrupt
  split <;> rfl

end

end PicPair

end TrapDispatch
