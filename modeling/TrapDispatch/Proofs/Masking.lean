import TrapDispatch.Proofs.MaskedTraps
import TrapDispatch.Proofs.Nesting

/-!
# Masked calls

The mask in a slot and the interrupt flag of its CPU agree at every call-out: the
dispatcher works with interrupts off and refuses traps, handlers run with interrupts
on and traps are accepted. Only where a panic unwinds out of a handler does a scope
close with interrupts as the handler left them.
-/

namespace TrapDispatch

variable {σ α : Type} {start : Fin maxCpus → Bool} {cpu : Fin maxCpus} {kernel : Kernel σ}
  {server : Server σ} {past : List Moment}

theorem serviceWatch_covers (kernel : Kernel σ) : (serviceWatch start).law.Covers kernel where
  quiet := Watch.quiet _
  unwinds := Watch.unwinds _ rfl
  tellSlot _ state := serviceWatch_noting rfl rfl rfl state.machine
  registry _ _ state := serviceWatch_noting rfl rfl rfl state.machine
  trap _ hserves := Law.watched_handleTrap (serviceWatch_call hserves rfl) fun cpu outer frame =>
    serviceWatch_trap hserves cpu outer frame
  systemCall _ hserves := serviceWatch_systemCall hserves

/-- A trap that its CPU does not accept leaves a record and panics. Nothing else has
changed since the CPU was asked for its number, and nobody else was called. -/
theorem handleTrap_of_refuses {state asked : Activation σ} {id : UInt64}
    (hcall : kernel.call server .cpuId state = .ok id asked) (hid : id.toNat < maxCpus)
    (hrefuses : Kernel.accepts (asked.machine.slots.get ⟨id.toNat, hid⟩) = false) :
    kernel.handleTrap server state =
      let text := Kernel.refusal ⟨id.toNat, hid⟩ (asked.machine.slots.get ⟨id.toNat, hid⟩) asked.frame
      .error (.panic text)
        { asked with machine.log := asked.machine.log.add ⟨.error, LogTarget.dispatch, text⟩ } := by
  unfold Kernel.handleTrap
  rw [Dispatch.bind_of_ok hcall, dif_pos hid]
  exact Dispatch.bind_of_error (Law.acceptTrap_of_refuses hrefuses)

theorem exists_mem_stages :
    (∃ stage ∈ (Hardware.after start past).stages, stage.cpu? = some cpu) ↔
      ∃ x ∈ underWay past, x.event.cpu? = some cpu := by
  have hstages : (Hardware.after start past).stages.map Stage.activity = underWay past :=
    Hardware.map_activity_stages past
  rw [← hstages]
  simp only [List.mem_map, exists_exists_and_eq_and]
  rfl

/-- In every run from idle CPUs, whatever their flags are at first: while a trap is in
progress on a CPU and its flag is set, the CPU runs a handler and accepts traps; all
through a masked call of the dispatcher the flag is cleared, and the CPU masked and
refusing traps, unless something failed in the course of the trap before; and a handler
at work finds the flag set, with the same exception. A trap that is refused panics
before anything else. -/
theorem interrupts_follow_mask (kernel : Kernel σ) (depth : Nat) (program : ServiceProgram σ α)
    (machine : Machine σ) (start : Fin maxCpus → Bool) :
    (∀ later moment past,
      history (kernel.runService depth program machine.fresh).machine.journal =
        later ++ moment :: past →
      (∀ cpu, (∃ x ∈ underWay (moment.upTo past), x.event.cpu? = some cpu) →
        (Hardware.after start (moment.upTo past)).flags cpu = true →
        (moment.slots.get cpu).state = .handlerRunning ∧ (moment.slots.get cpu).masked = false ∧
          Kernel.accepts (moment.slots.get cpu) = true) ∧
      Secluded (.after start (moment.during past)) moment.slots ∧
      Served (.after start (moment.during past))) ∧
    ∀ (server : Server σ) (state asked : Activation σ) (id : UInt64),
      kernel.call server .cpuId state = .ok id asked → ∀ hid : id.toNat < maxCpus,
      Kernel.accepts (asked.machine.slots.get ⟨id.toNat, hid⟩) = false →
      kernel.handleTrap server state =
        let text := Kernel.refusal ⟨id.toNat, hid⟩ (asked.machine.slots.get ⟨id.toNat, hid⟩)
          asked.frame
        .error (.panic text)
          { asked with machine.log := asked.machine.log.add ⟨.error, LogTarget.dispatch, text⟩ } := by
  have hstart : (serviceWatch start).holds [] machine.fresh.slots := by
    refine ⟨⟨?_, ?_⟩, ?_, rfl⟩
    · rintro cpu ⟨stage, hstage, -⟩
      cases hstage
    · intro cpu hheld
      cases hheld
    · intro cpu hserving
      cases hserving
  obtain ⟨hgood, -⟩ := (serviceWatch_covers kernel).watched depth program
    (show machine.fresh.journal = [] from rfl) hstart
  refine ⟨fun later moment past hsplit => ?_,
    fun server state asked id hcall hid hrefuses => handleTrap_of_refuses hcall hid hrefuses⟩
  have hseen := hgood.at hsplit
  refine ⟨fun cpu htrap hflag => ?_, hseen.secluded, hseen.served⟩
  obtain ⟨hrunning, hunmasked⟩ := hseen.receptive cpu (exists_mem_stages.mpr htrap) hflag
  refine ⟨hrunning, hunmasked, ?_⟩
  unfold Kernel.accepts
  rw [hrunning, hunmasked]
  rfl

def Machine.entered : Machine Unit :=
  { world := (), slots := CpuSlots.idle.entering ⟨0, by decide⟩ }

/-- The inner of two nested traps ends its interrupt with its CPU shut, and a trap on a CPU
that has just entered one panics. -/
theorem nested_trap_shut :
    (∃ x past, nestedMoments.drop 18 = .begins x :: past ∧
      (∃ result, x.event = .service (.endOfInterrupt ⟨3⟩) result) ∧
      Shut (.after (fun _ => true) (.begins x :: past)) x.before ⟨0, by decide⟩) ∧
    ∃ text after, (Kernel.plain ⟨3⟩ (pure ())).handleTrap ((Kernel.plain ⟨3⟩ (pure ())).server 1)
      ⟨default, {}, .entered⟩ = .error (.panic text) after := by
  constructor
  -- Eighteen moments of the run come after the inner trap begins to end its interrupt.
  · have hcall : ((nestedMoments.drop 18).head?.bind Moment.beginning?).bind (·.event.call?) =
        some (.endOfInterrupt ⟨3⟩) := by
      decide +kernel
    have hstages :
        Stage.dispatching (Hardware.after (fun _ => true) (nestedMoments.drop 18).tail).stages =
          some ⟨0, by decide⟩ ∧
        Stage.calm (Hardware.after (fun _ => true) (nestedMoments.drop 18).tail).stages = true := by
      decide +kernel
    obtain ⟨x, result, hdrop, hevent⟩ := exists_begins hcall
    have hsplit := (List.take_append_drop 18 nestedMoments).symm
    rw [hdrop] at hsplit
    obtain ⟨hrun, -⟩ := interrupts_follow_mask (Kernel.plain ⟨3⟩ nestingDevice) 3 (trapOn 35)
      (Machine.attached ⟨3⟩ true) fun _ => true
    obtain ⟨-, hsecluded, -⟩ := hrun _ _ _ hsplit
    have hmasks := hsecluded ⟨0, by decide⟩ (.inl ⟨_, result, hevent, rfl, hstages⟩)
    exact ⟨x, _, hdrop, ⟨result, hevent⟩, hmasks⟩
  · obtain ⟨-, hrefused⟩ := interrupts_follow_mask (Kernel.plain ⟨3⟩ (pure ())) 1 (pure ())
      .entered fun _ => true
    exact ⟨_, _, hrefused _ ⟨default, {}, .entered⟩ _ 0 rfl (by decide) (by decide)⟩

def unwoundMoments : List Moment :=
  history ((Kernel.plain ⟨3⟩ (.panic "device failed")).runService 3 (trapOn 35)
    (Machine.attached ⟨3⟩ ()).fresh).machine.journal

/-- Where a panic unwinds out of a device handler, the scope of its line closes with
interrupts on. -/
theorem scope_closes_unshut :
    ¬ ∀ later x past, unwoundMoments = later ++ .begins x :: past →
      ∀ c result, x.event = .service c result → c.isMasked = true →
      ∀ cpu, Stage.dispatching (Hardware.after (fun _ => true) past).stages = some cpu →
        Shut (.after (fun _ => true) past) x.before cpu := by
  intro h
  have hcall : ((unwoundMoments.drop 5).head?.bind Moment.beginning?).bind (·.event.call?) =
      some (.endOfInterrupt ⟨3⟩) := by
    decide +kernel
  have hopen : Stage.dispatching (Hardware.after (fun _ => true) (unwoundMoments.drop 5).tail).stages =
      some ⟨0, by decide⟩ ∧
      (Hardware.after (fun _ => true) (unwoundMoments.drop 5).tail).flags ⟨0, by decide⟩ = true := by
    decide +kernel
  obtain ⟨x, result, hdrop, hevent⟩ := exists_begins hcall
  have hsplit := (List.take_append_drop 5 unwoundMoments).symm
  rw [hdrop] at hsplit
  have hshut := h _ x _ hsplit _ result hevent rfl _ hopen.1
  rw [hshut.1] at hopen
  cases hopen.2

end TrapDispatch
