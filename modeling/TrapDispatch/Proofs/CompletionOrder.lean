import TrapDispatch.Interrupt.Gic
import TrapDispatch.Proofs.LineOutcomes
import TrapDispatch.Proofs.Nesting
import TrapDispatch.Proofs.Wiring

/-!
# The order of completions

The interface of a CPU hands an interrupt out where its acknowledge register is read, and takes
the end of it where its end register is written. It asks for the ends in the reverse order. The
driver keeps the number of the line of what it has read, and writes that: in a whole run every
interrupt is ended once, by the number of its line, and the newest first. For a software
interrupt this is not the word that was read, if the source is not CPU 0.
-/

namespace TrapDispatch

variable {τ α : Type}

/-- The register blocks of a controller without a redistributor. -/
inductive GicPort where
  | distributor
  | cpuInterface
  deriving DecidableEq

inductive GicAccess where
  | read (port : GicPort) (offset : UInt64) (word : UInt32)
  | write (port : GicPort) (offset : UInt64) (word : UInt32)
  deriving DecidableEq

/-- What an access means to the interface of a CPU. -/
inductive Transaction where
  | taken (word : UInt32)
  | ended (word : UInt32)
  deriving DecidableEq

def GicAccess.transaction? : GicAccess → Option Transaction
  | .read .cpuInterface offset word =>
    if offset = Gic.acknowledgeOffset ∧ word &&& Gic.lineField ≠ Gic.spuriousLine then
      some (.taken word)
    else none
  | .write .cpuInterface offset word =>
    if offset = Gic.endOffset then some (.ended word) else none
  | _ => none

theorem transaction?_pending (word : UInt32) :
    (GicAccess.read .cpuInterface Gic.pendingOffset word).transaction? = none := by
  unfold GicAccess.transaction?
  exact if_neg fun h => absurd h.1 (by decide)

theorem transaction?_spurious {word : UInt32} (h : word &&& Gic.lineField = Gic.spuriousLine) :
    (GicAccess.read .cpuInterface Gic.acknowledgeOffset word).transaction? = none :=
  if_neg fun hline => hline.2 h

theorem transaction?_taken {word : UInt32} (h : word &&& Gic.lineField ≠ Gic.spuriousLine) :
    (GicAccess.read .cpuInterface Gic.acknowledgeOffset word).transaction? = some (.taken word) :=
  if_pos ⟨rfl, h⟩

theorem transaction?_ended (word : UInt32) :
    (GicAccess.write .cpuInterface Gic.endOffset word).transaction? = some (.ended word) := by
  unfold GicAccess.transaction?
  exact if_pos rfl

/-- What is taken comes to the front. Only what is in front can be ended, by the number of
its line. -/
def Transaction.apply : Transaction → List UInt32 → Option (List UInt32)
  | .taken word, words => some (word :: words)
  | .ended word, newest :: words => if word = newest &&& Gic.lineField then some words else none
  | .ended _, [] => none

/-- The words that were taken and not ended, newest first; none if anything was ended out of
order. -/
def outstanding : List Transaction → Option (List UInt32)
  | [] => some []
  | newest :: earlier => (outstanding earlier).bind newest.apply

/-- Registers, with all accesses to them, newest first. What is read may depend on them. -/
structure GicBus where
  answer : List GicAccess → GicPort → UInt64 → UInt32
  accesses : List GicAccess

namespace GicBus

def after (bus : GicBus) (access : GicAccess) : GicBus :=
  { bus with accesses := access :: bus.accesses }

def block (port : GicPort) : RegisterBlock (StateM GicBus) :=
  .ofWords
    (fun offset bus =>
      let word := bus.answer bus.accesses port offset
      (word, bus.after (.read port offset word)))
    (fun offset word bus => ((), bus.after (.write port offset word)))

def transactions (bus : GicBus) : List Transaction :=
  bus.accesses.filterMap GicAccess.transaction?

theorem transactions_after_none {access : GicAccess} (h : access.transaction? = none)
    (bus : GicBus) : (bus.after access).transactions = bus.transactions :=
  List.filterMap_cons_none h

theorem transactions_after_some {access : GicAccess} {transaction : Transaction}
    (h : access.transaction? = some transaction) (bus : GicBus) :
    (bus.after access).transactions = transaction :: bus.transactions :=
  List.filterMap_cons_some h

def gic : Gic (ServiceProgram (GicBus × τ)) where
  distributor := (block .distributor).wired
  redistributor := none
  cpuInterface := (block .cpuInterface).wired

/-- Whether a line is that of the newest word outstanding. -/
def Serves (words : List UInt32) (irq : Irq) (transactions : List Transaction) : Prop :=
  ∃ word, irq.number = word &&& Gic.lineField ∧ outstanding transactions = some (word :: words)

def phases : Phases GicBus where
  View := List UInt32
  rests words bus := outstanding bus.transactions = some words
  named words irq bus := Serves words irq bus.transactions
  serviced words irq bus := Serves words irq bus.transactions
  ended words _ bus := outstanding bus.transactions = some words
  halts words bus := ∃ newer, outstanding bus.transactions = some (newer ++ words)
  halting h := ⟨[], h⟩

theorem halts_of_serves {words : List UInt32} {irq : Irq} {bus : GicBus}
    (h : Serves words irq bus.transactions) : phases.halts words bus := by
  obtain ⟨word, -, hwords⟩ := h
  exact ⟨[word], hwords⟩

section

variable {halts before : GicBus → Prop} {middle : UInt32 → GicBus → Prop} {port : GicPort}
  {offset : UInt64} {word : UInt32}

theorem drives_read (hhalts : ∀ bus, before bus → halts bus)
    (h : ∀ bus word, before bus → middle word (bus.after (.read port offset word))) :
    Drives halts before middle ((block port).wired.read32 offset : ServiceProgram (GicBus × τ) _) :=
  drives_onHardware hhalts fun bus hbus => h bus _ hbus

theorem drives_write {last : GicBus → Prop} (hhalts : ∀ bus, before bus → halts bus)
    (h : ∀ bus, before bus → last (bus.after (.write port offset word))) :
    Drives halts before (fun _ => last)
      ((block port).wired.write32 offset word : ServiceProgram (GicBus × τ) _) :=
  drives_onHardware hhalts h

end

/-- What is known once a word was read from the acknowledge register. -/
def Acknowledged (fact : List Transaction → Prop) (word : UInt32) (bus : GicBus) : Prop :=
  if word &&& Gic.lineField = Gic.spuriousLine then fact bus.transactions
  else ∃ earlier, bus.transactions = .taken word :: earlier ∧ fact earlier

def Asked (fact : List Transaction → Prop) : Option Irq → GicBus → Prop
  | none, bus => fact bus.transactions
  | some irq, bus => ∃ word earlier, irq.number = word &&& Gic.lineField ∧
    bus.transactions = .taken word :: earlier ∧ fact earlier

section

variable {halts : GicBus → Prop} (fact : List Transaction → Prop)
  (hhalts : ∀ bus : GicBus, fact bus.transactions → halts bus)

include hhalts

theorem drives_readDistributor (offset : UInt64) :
    Sustains halts (fun bus => fact bus.transactions)
      ((block .distributor).wired.read32 offset : ServiceProgram (GicBus × τ) _) := by
  refine drives_read hhalts fun bus word h => ?_
  rw [transactions_after_none rfl]
  exact h

theorem drives_writeDistributor (offset : UInt64) (word : UInt32) :
    Sustains halts (fun bus => fact bus.transactions)
      ((block .distributor).wired.write32 offset word : ServiceProgram (GicBus × τ) _) := by
  refine drives_write hhalts fun bus h => ?_
  rw [transactions_after_none rfl]
  exact h

theorem drives_triggerMode (irq : Irq) :
    Sustains halts (fun bus => fact bus.transactions)
      ((gic (τ := τ)).triggerMode irq) := by
  refine drives_ite (fun _ => drives_pure fun _ h => h) fun _ => ?_
  exact (drives_readDistributor fact hhalts _).bind fun word => drives_pure fun _ h => h

theorem drives_writeEnableBit (irq : Irq) (array : UInt64) :
    Sustains halts (fun bus => fact bus.transactions) (do
      if irq.number ≤ Gic.maxLine then (gic (τ := τ)).writeEnableBit irq array) :=
  drives_ite (fun _ => drives_writeDistributor fact hhalts _ _) fun _ => drives_pure fun _ h => h

theorem drives_peek :
    Sustains halts (fun bus => fact bus.transactions)
      ((gic (τ := τ)).peek) := by
  have hread : Sustains halts (fun bus => fact bus.transactions)
      ((gic (τ := τ)).cpuInterface.read32 Gic.pendingOffset) := by
    refine drives_read hhalts fun bus word h => ?_
    rw [transactions_after_none (transaction?_pending word)]
    exact h
  exact hread.bind fun word => drives_pure fun _ h => h

theorem drives_acknowledge :
    Drives halts (fun bus => fact bus.transactions) (Acknowledged fact)
      ((gic (τ := τ)).cpuInterface.read32 Gic.acknowledgeOffset) := by
  refine drives_read hhalts fun bus word h => ?_
  unfold Acknowledged
  split
  next hspurious =>
    rw [transactions_after_none (transaction?_spurious hspurious)]
    exact h
  next hline => exact ⟨_, transactions_after_some (transaction?_taken hline) bus, h⟩

theorem drives_pending :
    Drives halts (fun bus => fact bus.transactions) (Asked fact) ((gic (τ := τ)).pending) := by
  refine (drives_peek fact hhalts).bind fun peeked => ?_
  cases peeked with
  | none => exact drives_pure fun _ h => h
  | some _ =>
    refine (drives_acknowledge fact hhalts).bind fun word => ?_
    refine drives_ite (fun hspurious => ?_) fun hline => ?_
    · have hfact : ∀ bus, Acknowledged fact word bus → fact bus.transactions := fun bus h => by
        rwa [Acknowledged, if_pos hspurious] at h
      exact (drives_recordAt _ _ _ fun bus h => hhalts bus (hfact bus h)).bind
        fun _ => drives_pure hfact
    · refine drives_pure fun bus h => ?_
      rw [Acknowledged, if_neg hline] at h
      obtain ⟨earlier, htransactions, hearlier⟩ := h
      exact ⟨word, earlier, rfl, htransactions, hearlier⟩

end

theorem drives_end (words : List UInt32) (irq : Irq) :
    Drives (phases.halts words) (fun bus => Serves words irq bus.transactions)
      (fun _ bus => outstanding bus.transactions = some words)
      ((gic (τ := τ)).cpuInterface.write32 Gic.endOffset irq.number) := by
  refine drives_write (fun _ => halts_of_serves) fun bus ⟨word, hnumber, h⟩ => ?_
  rw [transactions_after_some (transaction?_ended irq.number), outstanding, h]
  exact if_pos hnumber

/-- The driver takes the bus through the phases of an interrupt. -/
theorem gone_through : phases.GoneThrough (gic (τ := τ)).controller where
  pending words vector := by
    have hpending := drives_pending (τ := τ) (outstanding · = some words)
      (fun _ h => phases.halting h)
    refine hpending.mono fun named bus h => ?_
    cases named with
    | none => exact h
    | some irq =>
      obtain ⟨word, earlier, hnumber, htransactions, hearlier⟩ := h
      refine ⟨word, hnumber, ?_⟩
      rw [htransactions, outstanding, hearlier]
      rfl
  triggerMode words irq := drives_triggerMode (Serves words irq) (fun _ => halts_of_serves) irq
  mask words irq := drives_writeEnableBit (Serves words irq) (fun _ => halts_of_serves) irq _
  acknowledge words irq := drives_pure fun _ h => h
  endOfInterrupt words irq := drives_end words irq
  unmask words irq :=
    drives_writeEnableBit (outstanding · = some words) (fun _ h => phases.halting h) irq _
  masked _ _ _ h := h
  nests words irq bus h := by
    obtain ⟨word, hnumber, hbus⟩ := h
    -- Interrupts that come while the line is serviced are above its word.
    refine ⟨(word :: words : List UInt32), hbus, fun later h => ⟨word, hnumber, h⟩, ?_⟩
    rintro later ⟨newer, h⟩
    exact ⟨newer ++ [word], h.trans (congrArg some (List.append_cons newer word words))⟩

section

variable {kernel : Kernel τ} {server : Server (GicBus × τ)} {state after : Activation (GicBus × τ)}

/-- A controller that names no line has not been in a transaction. -/
theorem asked_of_pending (htells : Tells server.reply) {vector : UInt64} {named : Option Irq}
    (hrun : (kernel.wired gic.controller).call server (.pending vector) state = .ok named after) :
    Asked (· = state.machine.world.1.transactions) named after.machine.world.1 := by
  have hpending : Drives (fun _ => True)
      (fun bus : GicBus => bus.transactions = state.machine.world.1.transactions)
      (Asked (· = state.machine.world.1.transactions))
      ((kernel.wired gic.controller).services.perform (.pending vector)) :=
    drives_pending (· = state.machine.world.1.transactions) fun _ _ => trivial
  have hcall := Phases.drives_call kernel htells (c := .pending vector) hpending
  obtain ⟨new, -, hasked⟩ := (hcall [] state rfl).returned hrun
  exact hasked

theorem transactions_of_spurious (htells : Tells server.reply) {cpu : Fin maxCpus}
    {outer : CpuSlot}
    (hrun : (kernel.wired gic.controller).carryOut server cpu outer state = .ok .spurious after) :
    after.machine.world.1.transactions = state.machine.world.1.transactions := by
  obtain ⟨-, inner, last, hinner, hlast, hrun⟩ := Kernel.exists_interrupt_of_carryOut rfl hrun
  rw [← hinner, ← hlast]
  unfold Kernel.interrupt at hrun
  obtain ⟨_, _, hframe, hrun⟩ := Dispatch.exists_of_bind hrun
  cases hframe
  obtain ⟨named, middle, hpending, hrun⟩ := Dispatch.exists_of_bind hrun
  have hasked := asked_of_pending htells hpending
  cases named with
  | none =>
    obtain ⟨_, _, hcount, hrun⟩ := Dispatch.exists_of_bind hrun
    cases hcount
    obtain ⟨_, _, hrecord, hpure⟩ := Dispatch.exists_of_bind hrun
    cases hrecord
    cases hpure
    exact hasked
  | some irq =>
    -- A line that was named is handled or left unhandled.
    have hgives : Law.Gives (fun outcome => outcome ≠ Outcome.spurious) (do
        let scope ← AckScope.opened ((kernel.wired gic.controller).controller server) irq
        let handled ← (kernel.wired gic.controller).serviceScope server cpu scope
        if (kernel.wired gic.controller).config.isTimer irq then
          (kernel.wired gic.controller).reschedule server .tick
        return if handled then Outcome.irqHandled irq else .unhandled irq) :=
      Law.gives_next fun _ => Law.gives_next fun handled => Law.gives_when <| Law.gives_pure <| by
        cases handled <;> simp
    exact absurd rfl (hgives _ _ _ hrun)

end
end GicBus

theorem Gic.and_lineField_eq_iff (word : UInt32) :
    word &&& Gic.lineField = word ↔ word < 1024 := by
  have hmod : (word &&& Gic.lineField).toNat = word.toNat % 1024 := by
    rw [UInt32.toNat_and]
    exact Nat.and_two_pow_sub_one_eq_mod word.toNat 10
  rw [← UInt32.toNat_inj, hmod, UInt32.lt_iff_toNat_lt, Nat.mod_eq_iff_lt (by decide)]
  rfl

/-- In a whole run, with traps in each other as deep as they may be, every interrupt that is
taken is ended once, by the number of its line, and the newest first: none is left that was
not there before, unless the run is cut short. A trap that ends as spurious takes and ends
none. The number is the word that was taken just where that is below 1024. -/
theorem interrupts_end_in_reverse (kernel : Kernel τ) (depth : Nat) (program : ServiceProgram τ α)
    (machine : Machine (GicBus × τ)) (words : List UInt32)
    (hwords : outstanding machine.world.1.transactions = some words) :
    let wired := kernel.wired GicBus.gic.controller
    let run := wired.runService depth program.beside machine.fresh
    let last := outstanding run.machine.world.1.transactions
    (∃ newer, last = some (newer ++ words)) ∧
      (Finishes run.result → last = some words) ∧
      (∀ cpu outer state after,
        wired.carryOut (wired.server depth) cpu outer state = .ok .spurious after →
          after.machine.world.1.transactions = state.machine.world.1.transactions) ∧
      ∀ word, word &&& Gic.lineField = word ↔ word < 1024 := by
  intro wired run last
  obtain ⟨hhalts, hrests⟩ := Phases.runService_leaves kernel (GicBus.gone_through (τ := τ)) depth
    program (hwords : GicBus.phases.rests words machine.world.1)
  refine ⟨hhalts, hrests, fun cpu outer state after hrun => ?_, Gic.and_lineField_eq_iff⟩
  exact GicBus.transactions_of_spurious (Phases.tells_reply wired depth) hrun

/-- A device whose first interrupt is itself interrupted. -/
def interruptedDevice : ServiceProgram Bool Unit := do
  if ← ServiceProgram.world then
    ServiceProgram.ask (.setWorld false)
    trapOf .aarch64 9

/-- Registers that tell line 40, and then line 5 as called by CPU 1. -/
def GicBus.calling : GicBus where
  answer accesses _ _ := if accesses.any (·.transaction?.isSome) then 0x405 else 40
  accesses := []

def Machine.calling : Machine (GicBus × Bool) :=
  .attached ⟨40⟩ (.calling, true)

def Kernel.interrupted : Kernel Bool :=
  { Kernel.plain ⟨40⟩ interruptedDevice with vectors := ⟨.aarch64, 0⟩ }

def callRun : Kernel.Completion (GicBus × Bool) Unit :=
  (Kernel.interrupted.wired GicBus.gic.controller).runService 3 (trapOf .aarch64 9).beside
    Machine.calling.fresh

/-- A software interrupt is ended without the CPU that it came from. -/
theorem call_ends_without_source :
    outstanding callRun.machine.world.1.transactions = some [] ∧
      callRun.machine.world.1.transactions = [.ended 40, .ended 5, .taken 0x405, .taken 40] := by
  have hreturned : callRun.result.isOk = true := by decide +kernel
  have htransactions : callRun.machine.world.1.transactions =
      [.ended 40, .ended 5, .taken 0x405, .taken 40] := by
    decide +kernel
  refine ⟨?_, htransactions⟩
  unfold callRun at hreturned ⊢
  obtain ⟨-, hlast, -⟩ := interrupts_end_in_reverse Kernel.interrupted 3 (trapOf .aarch64 9)
    Machine.calling [] rfl
  exact hlast (finishes_of_isOk hreturned)

end TrapDispatch
