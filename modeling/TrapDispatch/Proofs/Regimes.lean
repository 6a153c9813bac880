import TrapDispatch.Proofs.Assertions

/-!
# Regimes

Assertions that computations keep up as long as they return or panic, each from its own
point of view: what it was at some earlier point of the run. Where a run ends in another
way, something weaker may be left. Keeping up a regime is a discipline, so what calls and
scopes keep up is kept up by traps, by services, and by whole runs.
-/

namespace TrapDispatch

variable {σ α : Type}

/-- What a failure in a cleanup comes to. -/
def Stop.unwound : Stop → Stop
  | .panic _ => .abort
  | stop => stop

theorem unwinding_of_cleanup_error {s : Type} {body : EStateM Stop s α}
    {cleanup : EStateM Stop s Unit} {state middle after : s} {message : String} {why : Stop}
    (h : body state = .error (.panic message) middle) (hcleanup : cleanup middle = .error why after) :
    unwinding body cleanup state = .error why.unwound after := by
  unfold unwinding
  simp only [h, hcleanup]
  cases why <;> rfl

/-- A cleanup runs where a panic left off. -/
theorem carries_unwinding {before : Assertion σ} {returns : α → Assertion σ}
    {middle stops fails : Stop → Assertion σ} {body : Dispatch σ α} {cleanup : Dispatch σ Unit}
    (hbody : Carries before returns middle body)
    (hcleanup : ∀ message, Carries (middle (.panic message)) (fun _ => stops (.panic message)) fails
      cleanup)
    (hstops : ∀ stop past machine, (∀ message, stop ≠ .panic message) →
      middle stop past machine → stops stop past machine)
    (hfails : ∀ why past machine, fails why past machine → stops why.unwound past machine) :
    Carries before returns stops (unwinding body cleanup) := by
  intro past state hpast
  have hrun' := hbody past state hpast
  cases hrun : body state with
  | ok value middle =>
    obtain ⟨new, hnew, hpost⟩ := hrun'.returned hrun
    exact runsAt_of_ok new (unwinding_of_ok hrun) hnew hpost
  | error stop middle =>
    obtain ⟨old, hold, hpost⟩ := hrun'.stopped hrun
    by_cases hpanic : ∃ message, stop = .panic message
    · obtain ⟨message, rfl⟩ := hpanic
      have hlater := hcleanup message _ _ hpost
      cases hend : cleanup middle with
      | ok done after =>
        obtain ⟨new, hnew, hlast⟩ := hlater.returned hend
        refine runsAt_of_error (new ++ old) (unwinding_of_panic hrun hend) ?_ ?_
        · rw [hnew, hold, List.append_assoc]
        · rw [history_append, List.append_assoc]
          exact hlast
      | error why after =>
        obtain ⟨new, hnew, hlast⟩ := hlater.stopped hend
        refine runsAt_of_error (new ++ old) (unwinding_of_cleanup_error hrun hend) ?_ ?_
        · rw [hnew, hold, List.append_assoc]
        · rw [history_append, List.append_assoc]
          exact hfails why _ _ hlast
    · have hstop : ∀ message, stop ≠ .panic message := fun message h => hpanic ⟨message, h⟩
      exact runsAt_of_error old (unwinding_of_stop hrun hstop) hold (hstops stop _ _ hstop hpost)

/-- What is kept up in a run, seen from points of view, and what is left where the run
ends without unwinding. -/
structure Regime (σ : Type) where
  View : Type
  holds : View → Assertion σ
  halts : View → Stop → Assertion σ
  halting {view : View} {stop : Stop} {past : List Moment} {machine : Machine σ} :
    holds view past machine → stop ≠ .deadlock → halts view stop past machine

namespace Regime

variable {regime : Regime σ}

/-- What is left where a computation is cut short; a panic takes nothing away. -/
def cuts (regime : Regime σ) (view : regime.View) : Stop → Assertion σ
  | .panic _ => regime.holds view
  | stop => regime.halts view stop

/-- What computations keep up that start from what is seen from one point of view. -/
def under (regime : Regime σ) (view : regime.View) : Discipline σ where
  Keeps := Carries (regime.holds view) (fun _ => regime.holds view) (regime.cuts view)
  pure value := carries_pure value fun _ _ h => h
  panic _ := carries_throw _ fun _ _ h => h
  bind hbody hnext := hbody.bind hnext

/-- Whether a computation keeps up what a regime says, from every point of view. -/
def Keeps (regime : Regime σ) (body : Dispatch σ α) : Prop :=
  ∀ view, (regime.under view).Keeps body

theorem cuts_of_holds {view : regime.View} {stop : Stop} {past : List Moment} {machine : Machine σ}
    (h : regime.holds view past machine) (hstop : stop ≠ .deadlock) :
    regime.cuts view stop past machine := by
  cases stop with
  | panic message => exact h
  | _ => exact regime.halting h hstop

theorem cuts_unwound {view : regime.View} {why : Stop} {past : List Moment} {machine : Machine σ}
    (h : regime.cuts view why past machine) : regime.cuts view why.unwound past machine := by
  cases why with
  | panic message => exact regime.halting h (by simp [Stop.unwound])
  | _ => exact h

def discipline (regime : Regime σ) : Discipline σ where
  Keeps := regime.Keeps
  pure value view := (regime.under view).pure value
  panic message view := (regime.under view).panic message
  bind hbody hnext view := (regime.under view).bind (hbody view) fun value => hnext value view

theorem resilient_under (view : regime.View) : (regime.under view).Resilient where
  exhausted := carries_throw _ fun _ _ h => cuts_of_holds h (by simp)
  unwinding hbody hcleanup :=
    carries_unwinding hbody (fun _ => hcleanup) (fun _ _ _ _ h => h) fun _ _ _ => cuts_unwound

theorem resilient (regime : Regime σ) : regime.discipline.Resilient where
  exhausted view := (resilient_under view).exhausted
  unwinding hbody hcleanup view := (resilient_under view).unwinding (hbody view) (hcleanup view)

/-- Whether a regime says nothing of counters, of the log, and of whether the dispatcher is
installed. -/
def Quiet (regime : Regime σ) : Prop :=
  ∀ view past (a b : Machine σ), b.slots = a.slots → b.registry = a.registry →
    b.registryLocked = a.registryLocked → b.world = a.world → regime.holds view past a →
    regime.holds view past b

theorem Quiet.modifyMachine (hquiet : regime.Quiet) {change : Machine σ → Machine σ}
    (hjournal : ∀ machine, (change machine).journal = machine.journal)
    (hsame : ∀ machine, (change machine).slots = machine.slots ∧
      (change machine).registry = machine.registry ∧
      (change machine).registryLocked = machine.registryLocked ∧
      (change machine).world = machine.world) : regime.Keeps (Dispatch.modifyMachine change) := by
  refine fun view => carries_modifyMachine hjournal fun past machine h => ?_
  obtain ⟨hslots, hregistry, hlocked, hworld⟩ := hsame machine
  exact hquiet view past machine.bare _ hslots hregistry hlocked hworld h

theorem Quiet.record (hquiet : regime.Quiet) (r : Record) :
    regime.Keeps (TrapDispatch.record r : Dispatch σ Unit) :=
  hquiet.modifyMachine (fun _ => rfl) fun _ => ⟨rfl, rfl, rfl, rfl⟩

theorem Quiet.count (hquiet : regime.Quiet) (change : Stats → Stats) :
    regime.Keeps (Dispatch.count (σ := σ) change) :=
  hquiet.modifyMachine (fun _ => rfl) fun _ => ⟨rfl, rfl, rfl, rfl⟩

theorem Quiet.observing (hquiet : regime.Quiet) (view : regime.View) :
    (regime.under view).Observing where
  frame := carries_frame
  requests := carries_requests
  machine := carries_machine.mono (fun _ _ h => h) (fun _ _ _ h => h.1) fun _ _ _ h => h
  record r := hquiet.record r view
  count change := hquiet.count change view

theorem Quiet.plain (hquiet : regime.Quiet) : regime.discipline.Plain where
  frame view := (hquiet.observing view).frame
  requests view := (hquiet.observing view).requests
  machine view := (hquiet.observing view).machine
  record r := hquiet.record r
  count change := hquiet.count change
  modifyFrame change _ := carries_modifyFrame change
  modifyRequests change _ := carries_modifyRequests change

/-- Traps keep up a regime if calls do, and every trap that is accepted. -/
theorem Quiet.handleTrap (hquiet : regime.Quiet) {kernel : Kernel σ} {server : Server σ}
    (hcall : regime.Keeps (kernel.call server .cpuId))
    (htrap : ∀ view cpu past (state : Activation σ), regime.holds view past state.machine.bare →
      Kernel.accepts (state.machine.slots.get cpu) = true →
      CarriesAt past (fun _ => regime.holds view) (regime.cuts view)
        (Dispatch.during (.trap cpu state.frame)
          (kernel.carryOut server cpu (state.machine.slots.get cpu))) state) :
    regime.Keeps (kernel.handleTrap server) := by
  unfold Kernel.handleTrap
  apply regime.discipline.bind hcall
  intro id
  split
  case isFalse => exact hquiet.plain.fatal _
  case isTrue hid =>
    intro view past state hpast
    let cpu : Fin maxCpus := ⟨id.toNat, hid⟩
    by_cases haccepts : Kernel.accepts (state.machine.slots.get cpu) = true
    · have h := htrap view cpu past state hpast haccepts
      unfold CarriesAt RunsAt at h ⊢
      rw [Dispatch.bind_of_ok (Law.acceptTrap_of_accepts haccepts)]
      exact h
    · have hrefuses : Kernel.accepts (state.machine.slots.get cpu) = false := by
        simpa using haccepts
      refine runsAt_of_error [] (Dispatch.bind_of_error (Law.acceptTrap_of_refuses hrefuses)) rfl ?_
      exact hquiet view past state.machine.bare _ rfl rfl rfl rfl hpast

theorem keeps_onFrame {frame : Frame} {body : Dispatch σ α} (h : regime.Keeps body) :
    regime.Keeps (Dispatch.onFrame frame body) :=
  fun view => carries_onFrame (h view)

/-- What a run of a service program leaves. -/
theorem Keeps.runService {kernel : Kernel σ} {depth : Nat} {program : ServiceProgram σ α}
    (h : regime.Keeps ((kernel.server depth).run program)) (view : regime.View) {machine : Machine σ}
    (hjournal : machine.journal = []) (hholds : regime.holds view [] machine.bare) :
    Upon (fun _ => regime.holds view) (regime.cuts view)
      (kernel.runService depth program machine).result
      (history (kernel.runService depth program machine).machine.journal)
      (kernel.runService depth program machine).machine.bare := by
  have hstart := h view [] { frame := default, requests := {}, machine } hholds
  unfold Kernel.runService Kernel.complete
  cases hrun : (kernel.server depth).run program { frame := default, requests := {}, machine } with
  | ok value after =>
    obtain ⟨new, hnew, hlast⟩ := hstart.returned hrun
    rw [hjournal, List.append_nil] at hnew
    rw [List.append_nil, ← hnew] at hlast
    exact hlast
  | error stop after =>
    obtain ⟨new, hnew, hlast⟩ := hstart.stopped hrun
    rw [hjournal, List.append_nil] at hnew
    rw [List.append_nil, ← hnew] at hlast
    exact hlast

end Regime
end TrapDispatch
