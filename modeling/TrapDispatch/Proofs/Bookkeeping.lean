import TrapDispatch.Proofs.Postings

/-!
# Bookkeeping over whole runs

A trap is counted by its class and vector before anything else is done for it, and by its
outcome before it returns. With that the ledger is kept by every run of a service program,
however its traps are nested: whatever has ended has been entered, once.
-/

namespace TrapDispatch

variable {σ α : Type}

namespace Kernel

/-- The counters once a trap has been counted by its class and vector. -/
def arrived (kernel : Kernel σ) (frame : Frame) (stats : Stats) : Stats :=
  match kernel.vectors.lookup frame.vector with
  | none => stats.recordTrap frame.vector .exception false
  | some entry => stats.recordTrap entry.vector entry.trapClass entry.assigned

theorem read_arrived (kernel : Kernel σ) (frame : Frame) (stats : Stats) (counter : Counter) :
    (kernel.arrived frame stats).read counter =
      stats.read counter + kernel.arrivalEntries frame counter := by
  unfold arrived arrivalEntries classCounter
  cases hentry : kernel.vectors.lookup frame.vector with
  | none => exact stats.read_recordTrap counter _ _ _
  | some entry =>
    have hvector : entry.vector = frame.vector := by
      rw [VectorTable.eq_slot_of_lookup hentry]
      rfl
    rw [← hvector]
    exact stats.read_recordTrap counter _ _ _

def direct (kernel : Kernel σ) (server : Server σ) (cpu : Fin maxCpus) : Cause → Dispatch σ Outcome
  | .exception kind => kernel.exception server cpu kind
  | .interrupt => kernel.interrupt server cpu
  | .syscall convention => kernel.syscallTrap server cpu convention
  | .unassigned => kernel.defaultFault server cpu

/-- What is done for a trap with a frame once it has been counted. -/
def conduct (kernel : Kernel σ) (server : Server σ) (cpu : Fin maxCpus) (outer : CpuSlot)
    (frame : Frame) : Dispatch σ Outcome := do
  setState cpu .classified true
  let outcome ← kernel.direct server cpu (kernel.cause frame)
  setState cpu .restoring true
  let vector := (← Dispatch.frame).vector
  recordAt .trace LogTarget.dispatch s!"cpu{cpu.val}: vector {vector} -> {outcome.trace}"
  leaveSlot cpu outer
  return outcome

variable {kernel : Kernel σ} {server : Server σ} {cpu : Fin maxCpus}

theorem route_eq : kernel.route server cpu = (do
    let frame ← Dispatch.frame
    Dispatch.count (kernel.arrived frame)
    setState cpu .classified true
    kernel.direct server cpu (kernel.cause frame)) := by
  unfold route
  congr 1
  funext frame
  unfold arrived cause
  cases kernel.vectors.lookup frame.vector with
  | none => rfl
  | some entry =>
    simp only
    cases Cause.ofTrap frame entry <;> rfl

theorem carryOut_eq (outer : CpuSlot) (state : Activation σ) :
    kernel.carryOut server cpu outer state =
      kernel.conduct server cpu outer state.frame { state with
        machine.slots := state.machine.slots.entering cpu
        machine.stats := kernel.arrived state.frame state.machine.stats } := by
  unfold carryOut serveTrap conduct
  rw [route_eq]
  simp only [bind_assoc]
  rfl

theorem direct_gives (cause : Cause) :
    Law.Gives (fun outcome => cause.admits outcome = true) (kernel.direct server cpu cause) := by
  cases cause with
  | exception kind => exact exception_gives (by rfl) (by rfl) kind
  | interrupt => exact interrupt_gives
  | syscall convention => exact syscallTrap_gives (fun _ => rfl) convention
  | unassigned => exact defaultFault_gives (by rfl)

theorem conduct_gives (outer : CpuSlot) (frame : Frame) :
    Law.Gives (fun outcome => (kernel.cause frame).admits outcome = true)
      (kernel.conduct server cpu outer frame) := by
  unfold conduct
  refine Law.gives_next fun _ => Law.gives_bind (direct_gives _) fun outcome h => ?_
  refine Law.gives_next fun _ => Law.gives_next fun _ => Law.gives_next fun _ => ?_
  exact Law.gives_next fun _ => Law.gives_pure h

section

variable (hserves : (Law.ledger kernel).Serves server)

include hserves

theorem posts_direct (cause : Cause) :
    kernel.Posts Settled (kernel.direct server cpu cause) := by
  cases cause with
  | exception kind => exact posts_exception hserves kind
  | interrupt => exact posts_interrupt hserves
  | syscall convention => exact posts_syscallTrap hserves convention
  | unassigned => exact posts_defaultFault hserves

theorem posts_conduct (outer : CpuSlot) (frame : Frame) :
    kernel.Posts Settled (kernel.conduct server cpu outer frame) := by
  unfold conduct
  refine Posts.after (fun _ => ?_) (Law.charges_setState _ _)
  refine (posts_direct hserves _).keeping (fun outcome => ?_) fun outcome => ?_
  · refine Law.obeys_bind (Law.charges_setState _ _) fun _ => ?_
    refine Law.obeys_bind Law.obeys_frame fun last => ?_
    refine Law.obeys_bind (Law.mending_charges.recordAt _ _ _) fun _ => ?_
    exact Law.obeys_bind (Law.charges_setSlot _) fun _ => Law.obeys_pure _
  · refine Law.gives_next fun _ => Law.gives_next fun _ => Law.gives_next fun _ => ?_
    exact Law.gives_next fun _ => Law.gives_pure rfl

omit hserves in
/-- The arrival of a trap is entered as its activity closes. -/
theorem Arrivals.closing_trap {frame : Frame} {result : Except Stop Outcome} {new : List Activity}
    {a b start : Machine σ} (h : kernel.Arrivals new start b) (hjournal : start.journal = [])
    (hstats : start.stats = kernel.arrived frame a.stats)
    (hfits : kernel.Fits ⟨.trap cpu frame result, a.slots, new, b.slots⟩) :
    kernel.Arrivals [⟨.trap cpu frame result, a.slots, new, b.slots⟩] a
      (a.closing b (.trap cpu frame result)) where
  journal := by
    have hnew : b.journal = new := by rw [h.journal, hjournal, List.append_nil]
    unfold Machine.closing
    rw [hnew]
    rfl
  fits := fits_single hfits h.fits
  arrivals counter hcounter := by
    have hread := h.arrivals counter hcounter
    rw [hstats, read_arrived] at hread
    change b.stats.read counter = _
    rw [entries_single, hread]
    change _ = _ + (kernel.arrivalEntries frame counter + resultEntries result counter + _)
    rw [resultEntries_of_isOfArrival result hcounter, UInt64.add_zero, UInt64.add_assoc]

omit hserves in
theorem Books.closing_trap {frame : Frame} {outcome : Outcome} {new : List Activity}
    {a b start : Machine σ} (h : kernel.Books outcome.entries new start b)
    (hjournal : start.journal = []) (hstats : start.stats = kernel.arrived frame a.stats)
    (hfits : kernel.Fits ⟨.trap cpu frame (.ok outcome), a.slots, new, b.slots⟩) :
    kernel.Balanced [⟨.trap cpu frame (.ok outcome), a.slots, new, b.slots⟩] a
      (a.closing b (.trap cpu frame (.ok outcome))) where
  toArrivals := h.toArrivals.closing_trap hjournal hstats hfits
  results hall counter hcounter := by
    have hread := h.results (allReturned_single.mp hall).2 counter hcounter
    rw [hstats, read_arrived] at hread
    change b.stats.read counter = _
    rw [entries_single, hread]
    change _ = _ + (0 + (kernel.arrivalEntries frame counter + outcome.entries counter + _))
    rw [UInt64.zero_add]
    ac_rfl

theorem ledger_trap (outer : CpuSlot) (state : Activation σ) :
    Law.LeadsAt (Law.ledger kernel).returns (Law.ledger kernel).stops
      (Dispatch.during (.trap cpu state.frame) (kernel.carryOut server cpu outer)) state := by
  have hposts : kernel.Posts Settled (kernel.conduct server cpu outer state.frame) :=
    posts_conduct hserves outer state.frame
  let inner : Activation σ := { state with machine.journal := [] }
  cases hrun : kernel.carryOut server cpu outer inner with
  | ok outcome after =>
    have hconduct := (carryOut_eq outer inner).symm.trans hrun
    obtain ⟨new, _, ⟨-, rfl⟩, hbooks⟩ := hposts.returned _ _ _ hconduct
    refine Law.leadsAt_of_ok (Dispatch.during_of_ok hrun) ⟨_, hbooks.closing_trap rfl rfl ?_⟩
    rintro _ _ ⟨⟩ ⟨⟩
    exact conduct_gives outer state.frame _ _ _ hconduct
  | error stop after =>
    have hconduct := (carryOut_eq outer inner).symm.trans hrun
    obtain ⟨new, hnew⟩ := (hposts.arrives _).stopped hconduct
    refine Law.leadsAt_of_error (Dispatch.during_of_error hrun)
      ⟨_, hnew.closing_trap rfl rfl ?_, fun hall => ?_⟩
    · rintro _ _ _ ⟨⟩
    · cases (allReturned_single.mp hall).1

theorem ledger_handleTrap : (Law.ledger kernel).Obeys (kernel.handleTrap server) :=
  Law.obeys_handleTrap Law.mending_ledger.toLooking
    (Law.ledger_call hserves fun _ => rfl) fun _ state _ => ledger_trap hserves _ state

end

theorem ledger_serves (kernel : Kernel σ) (depth : Nat) :
    (Law.ledger kernel).Serves (kernel.server depth) :=
  Discipline.serves (Law.resilient Law.unwinds_ledger)
    (fun _ hserves => Law.ledger_replies hserves (ledger_handleTrap hserves))
    (fun _ => Law.ledger_modifyMachine (fun _ => rfl) fun _ => rfl) depth

/-- What a run of a service program has entered is what has ended in it. -/
theorem runService_books (kernel : Kernel σ) (depth : Nat) (program : ServiceProgram σ α)
    {machine : Machine σ} (hjournal : machine.journal = []) :
    let last := (kernel.runService depth program machine).machine
    kernel.Balanced last.journal machine last := by
  have hobeys := (ledger_serves kernel depth).run Law.unwinds_ledger program
  have hstart := hobeys { frame := default, requests := {}, machine }
  have hnew : ∀ {new : List Activity} {last : Machine σ}, kernel.Balanced new machine last →
      kernel.Balanced last.journal machine last := by
    intro new last h
    have hlast : last.journal = new := by rw [h.journal, hjournal, List.append_nil]
    rw [hlast]
    exact h
  unfold runService complete
  cases hrun : (kernel.server depth).run program { frame := default, requests := {}, machine } with
  | ok value after =>
    obtain ⟨new, hbooks⟩ := hstart.returned hrun
    exact hnew hbooks
  | error stop after =>
    obtain ⟨new, hbooks⟩ := hstart.stopped hrun
    exact hnew hbooks

end Kernel
end TrapDispatch
