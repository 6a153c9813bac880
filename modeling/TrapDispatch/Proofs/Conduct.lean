import TrapDispatch.Proofs.History

/-!
# Conduct of the dispatcher

The dispatcher is put together from few kinds of steps: calls to services, changes
of a slot, and records. What every one of these steps obeys, whole traps obey, and
with them every service program, however deep the traps in it are nested.
-/

namespace TrapDispatch

namespace Law

variable {σ : Type} {law : Law σ} {kernel : Kernel σ} {server : Server σ}

def Serves (law : Law σ) (server : Server σ) : Prop :=
  ∀ op, law.Obeys (server.reply op)

theorem Serves.run {α : Type} (hserves : law.Serves server) (hunwinds : law.Unwinds law)
    (program : ServiceProgram σ α) : law.Obeys (server.run program) := by
  unfold Server.run
  exact (resilient hunwinds).run (S := serviceSignature σ) hserves program

/-- What a law has to say of the dispatcher for all service programs to obey it. -/
structure Covers (law : Law σ) (kernel : Kernel σ) : Prop where
  quiet : law.Quiet
  unwinds : law.Unwinds law
  tellSlot : ∀ cpu, law.Obeys (Kernel.tellSlot cpu)
  registry : ∀ call reply, law.Obeys (Dispatch.note (σ := σ) (.registry call reply))
  trap : ∀ server, law.Serves server → law.Obeys (kernel.handleTrap server)
  systemCall : ∀ server, law.Serves server → ∀ number words,
    law.Obeys (kernel.systemCall server number words)

theorem Covers.replies (h : law.Covers kernel) (hserves : law.Serves server) :
    law.discipline.Replies kernel server where
  mends := h.quiet.plain.toMending
  onFrame := obeys_onFrame
  install := obeys_modifyMachine fun a => h.quiet a _ rfl rfl
  tellSlot := h.tellSlot
  registry _ := by
    unfold Kernel.callRegistry
    apply obeys_bind (h.quiet.withRegistry _)
    intro value
    exact obeys_bind (h.registry _ _) fun _ => obeys_pure _
  trap := h.trap server hserves
  systemCall := h.systemCall server hserves
  invoke _ _ := hserves.run h.unwinds _

/-- Services obey the law at every depth of nesting. -/
theorem Covers.serves (h : law.Covers kernel) (depth : Nat) :
    law.Serves (kernel.server depth) :=
  Discipline.serves (resilient h.unwinds) (fun _ => h.replies)
    (fun _ => obeys_modifyMachine fun a => h.quiet a _ rfl rfl) depth

/-- What a run of a service program leaves, in terms of a law. -/
theorem Covers.runService {α : Type} (h : law.Covers kernel) (depth : Nat)
    (program : ServiceProgram σ α) (machine : Machine σ) :
    law.stops machine (kernel.runService depth program machine).machine ∧
      ((∃ value, (kernel.runService depth program machine).result = .ok value) →
        law.returns machine (kernel.runService depth program machine).machine) := by
  have hobeys := (h.serves depth).run h.unwinds program
  have hstart := hobeys { frame := default, requests := {}, machine }
  unfold Kernel.runService Kernel.complete
  cases hrun : (kernel.server depth).run program { frame := default, requests := {}, machine } with
  | ok value after =>
    have hreturns := hstart.returned hrun
    exact ⟨law.weaken hreturns, fun _ => hreturns⟩
  | error stop after =>
    have hstops := hstart.stopped hrun
    exact ⟨hstops, fun ⟨value, hvalue⟩ => by cases hvalue⟩

theorem Covers.watched {α : Type} {watch : Watch} (h : watch.law.Covers kernel) (depth : Nat)
    (program : ServiceProgram σ α) {machine : Machine σ} (hjournal : machine.journal = [])
    (hholds : watch.holds [] machine.slots) :
    let run := kernel.runService depth program machine
    Upheld watch.good [] (history run.machine.journal) ∧
      ((∃ value, run.result = .ok value) →
        watch.same [] machine.slots (history run.machine.journal) run.machine.slots) := by
  obtain ⟨hstops, hreturns⟩ := h.runService depth program machine
  obtain ⟨new, hnew, hfollows⟩ : watch.Stops machine _ := hstops
  rw [hjournal, List.append_nil] at hnew
  refine ⟨?_, fun hvalue => ?_⟩
  · rw [hnew]
    exact (hfollows [] hholds).1
  · obtain ⟨new, hnew, hfollows⟩ : watch.Returns machine _ := hreturns hvalue
    rw [hjournal, List.append_nil] at hnew
    have hsame := (hfollows [] hholds).2.2
    rw [List.append_nil] at hsame
    rw [hnew]
    exact hsame

end Law
end TrapDispatch
