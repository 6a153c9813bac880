import TrapDispatch.Proofs.PicPair

/-!
# Requests that drop on the 8259 pair

Unless line 7 of its chip is in service already, a request that drops is spared. In every run in
which this is so, and the pair delivers nothing but what comes before all that is in service, each
in-service bit is cleared once, by the trap that it was set for.
-/

namespace TrapDispatch

variable {τ α : Type}

/-- What is in service at a point between interrupts. -/
structure PicStanding where
  /-- What is known there, if everything that was delivered was fair. It is kept for later points,
  of which it is not known that they come after this one. -/
  sound : Prop
  serving : PicChip → UInt8
  bits : List PicBit

namespace PicStanding

open PicPair PicEvent

def Holds (standing : PicStanding) (pair : PicPair) : Prop :=
  pair.Fair → standing.sound ∧ pair.serving = standing.serving ∧
    unended pair.events = some standing.bits

/-- What is in service with one more bit, which comes before the others. -/
def under (standing : PicStanding) (bit : PicBit) : PicStanding where
  sound := standing.sound ∧ bit.Leads standing.serving
  serving := bit.set standing.serving
  bits := bit :: standing.bits

def underAll (standing : PicStanding) (bits : List PicBit) : PicStanding :=
  bits.foldr (fun bit inner => inner.under bit) standing

def knowing (standing : PicStanding) (irq : Irq) : PicStanding :=
  { standing with sound := standing.sound ∧ irq.number < Pic.lineCount }

def during (standing : PicStanding) (irq : Irq) : PicStanding :=
  (standing.knowing irq).underAll (PicBit.ofLine irq.number)

variable {standing : PicStanding} {pair : PicPair} {bit : PicBit} {bits : List PicBit} {irq : Irq}
  {line : UInt32}

theorem serving_underAll : (standing.underAll bits).serving = PicBit.setAll bits standing.serving := by
  induction bits with
  | nil => rfl
  | cons bit bits ih => exact congrArg bit.set ih

theorem bits_underAll : (standing.underAll bits).bits = bits ++ standing.bits := by
  induction bits with
  | nil => rfl
  | cons bit bits ih => exact congrArg (bit :: ·) ih

theorem setAll_other {chip : PicChip} {serving : PicChip → UInt8}
    (h : ∀ bit ∈ bits, chip ≠ bit.chip) : PicBit.setAll bits serving chip = serving chip := by
  induction bits with
  | nil => rfl
  | cons bit bits ih =>
    exact (if_neg (h bit (by simp))).trans (ih fun other hmem => h other (by simp [hmem]))

/-- Bits of several chips may be set one after the other. -/
theorem sound_underAll (hchips : bits.Pairwise fun bit other => bit.chip ≠ other.chip)
    (hsound : standing.sound) (hleads : ∀ bit ∈ bits, bit.Leads standing.serving) :
    (standing.underAll bits).sound := by
  induction bits with
  | nil => exact hsound
  | cons bit bits ih =>
    obtain ⟨hbit, hbits⟩ := List.pairwise_cons.mp hchips
    refine ⟨ih hbits fun other hmem => hleads other (by simp [hmem]), ?_⟩
    change (standing.underAll bits).serving bit.chip &&& _ = 0
    rw [serving_underAll, setAll_other hbit]
    exact hleads bit (by simp)

theorem fair_of_cons {event : PicEvent} {serving : PicChip → UInt8}
    (h : { pair with serving, events := event :: pair.events }.Fair) : pair.Fair :=
  fun earlier hmem => h earlier (List.mem_cons_of_mem _ hmem)

theorem fair_delivery (h : (pair.delivered line).Fair) : (pair.delivery line).Fair :=
  of_decide_eq_true (h (.delivered (pair.delivery line)) (List.mem_cons_self ..))

theorem finished_eq {serving : PicChip → UInt8}
    (hflag : ∃ line < Pic.lineCount, bit.flag = (Pic.maskBit line).2) (hleads : bit.Leads serving)
    (hserving : pair.serving = bit.set serving) : pair.finished bit.chip =
      { pair with serving, events := .cleared bit :: pair.events } := by
  obtain ⟨line, hline, hbit⟩ := hflag
  have hbyte : pair.serving bit.chip = serving bit.chip ||| bit.flag := by
    rw [hserving]
    exact if_pos rfl
  obtain ⟨hfirst, hothers⟩ : PicBit.first (pair.serving bit.chip) = bit.flag ∧
      pair.serving bit.chip &&& ~~~bit.flag = serving bit.chip := by
    rw [hbyte, hbit]
    refine first_or hline _ ?_
    rw [← hbit]
    exact hleads
  have hcleared : (fun chip => if chip = bit.chip then
      pair.serving bit.chip &&& ~~~PicBit.first (pair.serving bit.chip) else pair.serving chip) =
        serving := by
    funext chip
    split
    next hchip => rw [hfirst, hothers, hchip]
    next hchip =>
      rw [hserving]
      exact if_neg hchip
  unfold finished
  rw [hcleared, hfirst]

theorem holds_finished
    (hflag : standing.sound → ∃ line < Pic.lineCount, bit.flag = (Pic.maskBit line).2)
    (h : (standing.under bit).Holds pair) : standing.Holds (pair.finished bit.chip) := by
  intro hfair
  obtain ⟨⟨hsound, hleads⟩, hserving, hbits⟩ := h (fair_of_cons hfair)
  rw [finished_eq (hflag hsound) hleads hserving]
  refine ⟨hsound, rfl, ?_⟩
  change (unended pair.events).bind (PicEvent.cleared bit).apply = _
  rw [hbits]
  exact if_pos rfl

/-- A line has bits of different chips. -/
theorem chips_differ (delivery : Delivery) :
    delivery.bits.Pairwise fun bit other => bit.chip ≠ other.chip := by
  unfold Delivery.bits PicBit.ofLine
  split <;> split <;> simp

theorem holds_delivered (h : standing.Holds pair) :
    (standing.underAll (pair.delivery line).bits).Holds (pair.delivered line) := by
  intro hfair
  obtain ⟨hsound, hserving, hbits⟩ := h (fair_of_cons hfair)
  have hdelivery := fair_delivery hfair
  have hleads : ∀ bit ∈ (pair.delivery line).bits, bit.Leads standing.serving := by
    rw [← hserving]
    exact hdelivery.1
  refine ⟨sound_underAll (chips_differ _) hsound hleads, ?_, ?_⟩
  · rw [serving_underAll, ← hserving]
    rfl
  · change (unended pair.events).bind _ = _
    rw [hbits, bits_underAll]
    rfl

theorem flag_cascade : ∃ line < Pic.lineCount, Pic.cascadeBit = (Pic.maskBit line).2 :=
  ⟨2, by decide, by decide⟩

theorem holds_of_knowing (h : (standing.knowing irq).Holds pair) : standing.Holds pair := by
  intro hfair
  obtain ⟨⟨hsound, -⟩, hrest⟩ := h hfair
  exact ⟨hsound, hrest⟩

theorem holds_ended (offset : UInt64) (h : (standing.during irq).Holds pair) :
    standing.Holds ((driver offset).endOfInterrupt irq pair).2 := by
  have hflag : (standing.knowing irq).sound →
      ∃ line < Pic.lineCount, (Pic.maskBit irq.number).2 = (Pic.maskBit line).2 :=
    fun hsound => ⟨irq.number, hsound.2, rfl⟩
  rw [endOfInterrupt_eq]
  dsimp only
  unfold during PicBit.ofLine at h
  split at h
  next hslave =>
    rw [if_pos hslave]
    -- The slave is told first, and the bit of the cascade was set before its own.
    have hbits : (((standing.knowing irq).under ⟨.master, Pic.cascadeBit⟩).under
        ⟨.slave, (Pic.maskBit irq.number).2⟩).Holds pair := h
    have hcascade : ((standing.knowing irq).under ⟨.master, Pic.cascadeBit⟩).Holds
        (pair.finished .slave) := by
      refine holds_finished ?_ hbits
      rintro ⟨hsound, -⟩
      exact hflag hsound
    exact holds_of_knowing (holds_finished (fun _ => flag_cascade) hcascade)
  next hmaster =>
    rw [if_neg hmaster]
    have hbit : ((standing.knowing irq).under ⟨.master, (Pic.maskBit irq.number).2⟩).Holds pair := h
    exact holds_of_knowing (holds_finished hflag hbit)

theorem dropped_of_spared (h : (pair.delivery line).spared = true) :
    (pair.delivery line).dropped = true ∧ (line = 7 ∨ line = 15) := by
  obtain ⟨hdropped, -⟩ := Bool.and_eq_true_iff.mp h
  obtain ⟨hline, -⟩ := Bool.and_eq_true_iff.mp hdropped
  exact ⟨hdropped, of_decide_eq_true hline⟩

/-- A request that is spared leaves masks and bits as they were, if it comes before all that is in
service. -/
theorem spared_eq (hspared : (pair.delivery line).spared = true) :
    (pair.asked line).masks = pair.masks ∧
      ((pair.delivery line).InOrder → (pair.asked line).serving = pair.serving) := by
  obtain ⟨hdropped, hline⟩ := dropped_of_spared hspared
  have hbits : (pair.delivery line).bits =
      if line = 15 then [⟨.master, Pic.cascadeBit⟩] else [] := if_pos hdropped
  unfold Delivery.InOrder
  rw [hbits]
  rcases hline with rfl | rfl
  · refine ⟨rfl, fun _ => ?_⟩
    change PicBit.setAll (pair.delivery 7).bits pair.serving = _
    rw [hbits]
    rfl
  · have hasked : pair.asked 15 = ((pair.delivered 15).select .slave).finished .master :=
      if_pos hspared
    rw [hasked]
    refine ⟨rfl, fun hleads => ?_⟩
    have hserving : ((pair.delivered 15).select .slave).serving =
        PicBit.set ⟨.master, Pic.cascadeBit⟩ pair.serving := by
      change PicBit.setAll (pair.delivery 15).bits pair.serving = _
      rw [hbits]
      rfl
    have hfinished := finished_eq flag_cascade (hleads _ (by simp)) hserving
    have hlast := congrArg PicPair.serving hfinished
    exact hlast

theorem holds_spared (h : standing.Holds pair) (hspared : (pair.delivery line).spared = true) :
    standing.Holds (pair.asked line) := by
  have hdelivered : (standing.underAll (pair.delivery line).bits).Holds (pair.delivered line) :=
    holds_delivered h
  obtain ⟨hdropped, rfl | rfl⟩ := dropped_of_spared hspared
  · rw [Delivery.bits, if_pos hdropped] at hdelivered
    exact hdelivered
  · rw [Delivery.bits, if_pos hdropped] at hdelivered
    have hasked : pair.asked 15 = ((pair.delivered 15).select .slave).finished .master :=
      if_pos hspared
    have hbit : (standing.under ⟨.master, Pic.cascadeBit⟩).Holds
        ((pair.delivered 15).select .slave) := hdelivered
    rw [hasked]
    exact holds_finished (fun _ => flag_cascade) hbit

theorem holds_named (h : standing.Holds pair) (hline : line < Pic.lineCount)
    (hnamed : (pair.delivery line).spared = false) :
    (standing.during ⟨line⟩).Holds (pair.asked line) := by
  have hdelivered : ((standing.knowing ⟨line⟩).underAll (pair.delivery line).bits).Holds
      (pair.delivered line) := by
    refine holds_delivered fun hfair => ?_
    obtain ⟨hsound, hrest⟩ := h hfair
    exact ⟨⟨hsound, hline⟩, hrest⟩
  have hasked : (standing.during ⟨line⟩).Holds (pair.asked line) ↔
      (standing.during ⟨line⟩).Holds (pair.delivered line) := by
    unfold asked
    rw [hnamed]
    split
    · rfl
    · split <;> rfl
  rw [hasked]
  intro hfair
  have hdelivery := fair_delivery hfair
  -- In a fair delivery, a request that has dropped would have been spared.
  have hgenuine : (pair.delivery line).dropped = false := by
    cases hdropped : (pair.delivery line).dropped with
    | false => rfl
    | true =>
      rw [Delivery.spared, hdropped, hdelivery.2 hdropped] at hnamed
      cases hnamed
  have hbits : (pair.delivery line).bits = PicBit.ofLine line := by
    rw [Delivery.bits, hgenuine]
    rfl
  rw [hbits] at hdelivered
  exact hdelivered hfair

def phases : Phases PicPair where
  View := PicStanding
  rests := Holds
  named standing irq := (standing.during irq).Holds
  serviced standing irq := (standing.during irq).Holds
  ended standing _ := standing.Holds
  halts standing pair := pair.Fair → ∃ newer, unended pair.events = some (newer ++ standing.bits)
  halting h hfair := ⟨[], (h hfair).2.2⟩

theorem halts_of_during (h : (standing.during irq).Holds pair) : phases.halts standing pair := by
  intro hfair
  obtain ⟨-, -, hbits⟩ := h hfair
  rw [during, bits_underAll] at hbits
  exact ⟨PicBit.ofLine irq.number, hbits⟩

theorem asked_answered (offset vector : UInt64) (h : standing.Holds pair) :
    phases.asked standing (pair.named offset vector) (pair.answered offset vector) := by
  unfold named answered
  cases hline : Pic.line? offset vector with
  | none => exact h
  | some line =>
    change phases.asked standing (if (pair.delivery line).spared then none else some ⟨line⟩)
      (pair.asked line)
    cases hspared : (pair.delivery line).spared with
    | true => exact holds_spared h hspared
    | false => exact holds_named h (Pic.lt_of_line? hline) hspared

/-- The driver takes the pair through the phases of an interrupt. -/
theorem gone_through (offset : UInt64) : phases.GoneThrough (wired (τ := τ) offset) where
  pending standing vector := by
    refine ((mirrors_driver offset).pending vector).drives (fun _ h => phases.halting h) ?_
    intro pair h
    rw [pending_eq]
    exact asked_answered offset vector h
  triggerMode standing irq := drives_pure fun _ h => h
  mask standing irq := by
    refine ((mirrors_driver offset).mask irq).drives (fun _ h => halts_of_during h) fun pair h => ?_
    obtain ⟨masks, hmask⟩ := mask_eq offset irq pair
    rw [hmask]
    exact h
  acknowledge standing irq := drives_pure fun _ h => h
  endOfInterrupt standing irq := ((mirrors_driver offset).endOfInterrupt irq).drives
    (fun _ h => halts_of_during h) fun _ h => holds_ended offset h
  unmask standing irq := by
    refine ((mirrors_driver offset).unmask irq).drives (fun _ h => phases.halting h) fun pair h => ?_
    obtain ⟨masks, hunmask⟩ := unmask_eq offset irq pair
    rw [hunmask]
    exact h
  masked _ _ _ h := h
  nests standing irq pair h := by
    refine ⟨standing.during irq, h, fun later h => h, fun later h hfair => ?_⟩
    obtain ⟨newer, hbits⟩ := h hfair
    have hduring : (standing.during irq).bits = PicBit.ofLine irq.number ++ standing.bits :=
      bits_underAll
    -- What is set while the line is serviced is set before its bits are cleared.
    exact ⟨newer ++ PicBit.ofLine irq.number, by rw [hbits, hduring, List.append_assoc]⟩

end PicStanding

namespace PicPair

structure Treats (offset : UInt64) (outcome : Outcome) (state after : Activation (PicPair × τ)) :
    Prop where
  interrupt : outcome.isOfInterrupt = true
  /-- The line is that behind the vector, unless its request has dropped, and it is not in service
  already. -/
  named : state.hardware.named offset state.frame.vector = outcome.line?
  /-- Where no line is named, nothing is done but asking for one. -/
  asks : outcome = .spurious → state.OnlyAsks after
  masks : outcome = .spurious → after.hardware.masks = state.hardware.masks
  serving : outcome = .spurious →
    (∀ line, Pic.line? offset state.frame.vector = some line →
      (state.hardware.delivery line).InOrder) →
    after.hardware.serving = state.hardware.serving

theorem treats_of_reports {offset : UInt64} {policy : UnhandledPolicy} {outcome : Outcome}
    {state after : Activation (PicPair × τ)}
    (h : (driver offset).Reports policy state.frame.vector state.hardware after.hardware outcome)
    (hasks : outcome = .spurious → state.OnlyAsks after) : Treats offset outcome state after := by
  have hnamed : state.hardware.named offset state.frame.vector = outcome.line? := by
    rw [← h.named, pending_eq]
  have hafter : outcome = .spurious →
      after.hardware.masks = state.hardware.masks ∧
        ((∀ line, Pic.line? offset state.frame.vector = some line →
          (state.hardware.delivery line).InOrder) →
          after.hardware.serving = state.hardware.serving) := by
    intro houtcome
    rw [h.spurious houtcome, pending_eq]
    rw [houtcome] at hnamed
    unfold named at hnamed
    unfold answered
    cases hline : Pic.line? offset state.frame.vector with
    | none => exact ⟨rfl, fun _ => rfl⟩
    | some line =>
      rw [hline] at hnamed
      have hspared : (state.hardware.delivery line).spared = true := by
        by_contra hnot
        change (if (state.hardware.delivery line).spared then none else some _) = none at hnamed
        rw [if_neg hnot] at hnamed
        cases hnamed
      obtain ⟨hmasks, hserving⟩ := PicStanding.spared_eq hspared
      exact ⟨hmasks, fun horder => hserving (horder line rfl)⟩
  exact ⟨h.interrupt, hnamed, hasks, fun houtcome => (hafter houtcome).1,
    fun houtcome => (hafter houtcome).2⟩

end PicPair

/-- A request that has dropped is named just if line 7 of its chip is in service when it is
delivered. Otherwise nothing is done for it but that its line is asked for, masks stay as they
were, and so does what is in service, if the pair delivers nothing else than what comes before
that. In a whole run in which all is delivered so, and no request drops while line 7 of its chip
is in service, bits are cleared in the reverse order of being set, each once, and none is left
that was not set before, unless the run is cut short. -/
theorem dropped_requests_are_spared (kernel : Kernel τ) (offset : UInt64) (depth : Nat)
    (program : ServiceProgram τ α) (machine : Machine (PicPair × τ)) (bits : List PicBit)
    (hbits : PicEvent.unended machine.world.1.events = some bits) :
    let wired := kernel.wired (PicPair.wired offset)
    let run := wired.runService depth program.beside machine.fresh
    let pair := run.machine.world.1
    (∀ cpu outer state outcome after, wired.cause state.frame = .interrupt →
      wired.carryOut (wired.server depth) cpu outer state = .ok outcome after →
        PicPair.Treats offset outcome state after) ∧
      (pair.Fair → (∃ newer, PicEvent.unended pair.events = some (newer ++ bits)) ∧
        (Finishes run.result → pair.serving = machine.world.1.serving ∧
          PicEvent.unended pair.events = some bits)) := by
  intro wired run pair
  refine ⟨fun cpu outer state outcome after hcause hrun => ?_, fun hfair => ?_⟩
  · obtain ⟨hreports, hasks⟩ := reports_of_carryOut (fun _ => rfl) (PicPair.mirrors_driver offset)
      (Phases.tells_reply wired depth) hcause hrun
    exact PicPair.treats_of_reports hreports hasks
  · let standing : PicStanding := ⟨True, machine.world.1.serving, bits⟩
    have hstart : PicStanding.phases.rests standing machine.world.1 := fun _ => ⟨trivial, rfl, hbits⟩
    obtain ⟨hhalts, hrests⟩ := Phases.runService_leaves kernel
      (PicStanding.gone_through (τ := τ) offset) depth program hstart
    exact ⟨hhalts hfair, fun hfinishes => (hrests hfinishes hfair).2⟩

/-- A pair on which all requests drop that can, with some lines of the master in service. -/
def PicPair.dropping (serving : UInt8) : PicPair where
  masks _ := 0
  serving chip := if chip = .master then serving else 0
  selected _ := false
  requests _ _ := 0
  drops _ := true
  events := []

/-- A kernel in which a request drops at the slave while line 3 is serviced. -/
def Kernel.dropping : Kernel (PicPair × Bool) :=
  (Kernel.plain ⟨3⟩ droppedDevice).wired (PicPair.wired 32)

def droppingRun : Kernel.Completion (PicPair × Bool) Unit :=
  Kernel.dropping.runService 3 (trapOn 35).beside (Machine.attached ⟨3⟩ (.dropping 0, true)).fresh

def lastRun (serving : UInt8) : EStateM.Result Stop (Activation (PicPair × Bool)) Outcome :=
  Kernel.dropping.carryOut (Kernel.dropping.server 3) ⟨0, maxCpus_pos⟩ {}
    ⟨{ (default : Frame) with vector := 39 }, {}, { world := (.dropping serving, false) }⟩

/-- What drops at the slave takes nothing from line 3, and what drops at the master is spared, but
not while line 7 is in service. -/
theorem line_3_keeps_its_bit :
    (droppingRun.machine.world.1.serving = (PicPair.dropping 0).serving ∧
      PicEvent.unended droppingRun.machine.world.1.events = some []) ∧
      (∃ after, lastRun 0 = .ok .spurious after ∧ after.hardware.masks = (PicPair.dropping 0).masks) ∧
      ∃ after, lastRun 0x80 = .ok (.unhandled ⟨7⟩) after ∧
        (PicPair.dropping 0x80).named 32 39 = some ⟨7⟩ := by
  obtain ⟨htreats, hfair⟩ := dropped_requests_are_spared (Kernel.plain ⟨3⟩ droppedDevice) 32 3
    (trapOn 35) (Machine.attached ⟨3⟩ (.dropping 0, true)) [] rfl
  refine ⟨?_, ?_, ?_⟩
  · have hreturned : droppingRun.result.isOk = true := by decide +kernel
    have hall : droppingRun.machine.world.1.Fair := by decide +kernel
    unfold droppingRun Kernel.dropping at hreturned hall ⊢
    exact (hfair hall).2 (finishes_of_isOk hreturned)
  · obtain ⟨after, hrun⟩ := exists_of_returned?
      (show returned? (lastRun 0) = some .spurious by decide +kernel)
    exact ⟨after, hrun, (htreats _ _ _ _ _ (by decide) hrun).masks rfl⟩
  · obtain ⟨after, hrun⟩ := exists_of_returned?
      (show returned? (lastRun 0x80) = some (.unhandled ⟨7⟩) by decide +kernel)
    exact ⟨after, hrun, (htreats _ _ _ _ _ (by decide) hrun).named⟩

end TrapDispatch
