import TrapDispatch.Proofs.Attendance
import TrapDispatch.Proofs.Nesting

/-!
# Closing of scopes

Every interrupt in a run acknowledges its line in full, however deep it is nested, and
a line is given back only where its scope is the innermost activity. So scopes that are
open at once close in the order opposite to their opening, also where a panic unwinds.
-/

namespace TrapDispatch

/-- The line that is given back, if an event does that. -/
def Event.ends? : Event → Option Irq
  | .service c _ => c.ends?
  | _ => none

/-- Whether the scope of a line is what is being done. -/
def Innermost (irq : Irq) (past : List Moment) : Prop :=
  ∃ x ∈ (underWay past).head?, ∃ result, x.event = .scope irq result

/-- Whether an interrupt that is over did what an interrupt does. -/
def Attended {σ : Type} (kernel : Kernel σ) (x : Activity) : Prop :=
  ∀ cpu frame result, x.event = .trap cpu frame result → kernel.IsInterrupt frame →
    kernel.Attends frame.vector (ownEvents x.inner) result

/-- What is watched within the scope of a line, or outside of any. -/
def closing {σ : Type} (kernel : Kernel σ) (own : Option Irq) : Watch where
  good past
    | .begins x => ∀ irq, x.event.ends? = some irq → Innermost irq past
    | .ends x => Attended kernel x
  holds past _ := ∀ irq, own = some irq → Innermost irq past
  wreck past _ := ∀ irq, own = some irq → Innermost irq past
  same _ _ _ _ := True
  wrecks h := h
  refl _ _ := trivial
  trans _ _ := trivial

variable {σ α : Type} {own : Option Irq} {kernel : Kernel σ} {server : Server σ}

theorem closing_during {inner : Option Irq} {event : Except Stop α → Event} {body : Dispatch σ α}
    (hbody : (closing kernel inner).law.Obeys body)
    (hinner : ∀ irq, inner = some irq → ∀ result, ∃ last, event result = .scope irq last)
    (htrap : ∀ result, (event result).cpu? = none)
    (hends : ∀ result irq, (event result).ends? = some irq → own = some irq) :
    (closing kernel own).law.Obeys (Dispatch.during event body) := by
  have hgood : ∀ (x : Activity) result, x.event = event result → Attended kernel x := by
    intro x result hx cpu frame outcome hevent
    have hcpu := htrap result
    rw [← hx, hevent] at hcpu
    cases hcpu
  have hover : ∀ (x : Activity) past, (closing kernel own).holds past x.before →
      (closing kernel own).holds (.ends x :: (history x.inner ++ .begins x :: past)) x.after := by
    intro x past hholds irq hown
    unfold Innermost
    rw [underWay_over]
    exact hholds irq hown
  rw [Watch.obeys_iff] at hbody ⊢
  refine leads_during hbody ?_ ?_ ?_
  · intro x result past hx hholds
    refine ⟨fun irq hirq => hholds irq (hends result irq (hx ▸ hirq)), fun irq hown => ?_⟩
    obtain ⟨last, hscope⟩ := hinner irq hown result
    exact ⟨x, rfl, last, hx.trans hscope⟩
  · rintro x value past hx hholds -
    exact ⟨hgood x _ hx, hover x past hholds, trivial⟩
  · rintro x stop past hx hholds -
    exact ⟨hgood x _ hx, hover x past hholds⟩

theorem closing_noting {event : Event} (htrap : event.cpu? = none) (hends : event.ends? = none)
    (a : Machine σ) :
    (closing kernel own).Returns a (a.closing { a with journal := [] } event) := by
  refine Follows.noting ?_ ?_
  · intro x hx hbefore past hholds irq hirq
    rw [hx, hends] at hirq
    cases hirq
  · intro x hx hbefore hafter past hholds
    refine ⟨?_, hholds, trivial⟩
    intro cpu frame outcome hevent
    rw [← hx, hevent] at htrap
    cases htrap

theorem closing_setState (cpu : Fin maxCpus) (state : DispatchState) (masked : Bool) :
    (closing kernel own).law.Obeys (Kernel.setState (σ := σ) cpu state masked) := by
  unfold Kernel.setState Dispatch.setSlot
  apply Law.obeys_modifyMachine
  intro a
  have hreturns : (closing kernel own).Returns a
      { a with slots := a.slots.put cpu { a.slots.get cpu with state, masked } } :=
    Follows.still rfl fun past hholds => ⟨hholds, trivial⟩
  exact hreturns

theorem closing_call (hserves : (closing kernel none).law.Serves server) {c : Call}
    (hends : ∀ irq, c.ends? = some irq → own = some irq) :
    (closing kernel own).law.Obeys (kernel.call server c) :=
  closing_during (hserves.run (Watch.unwinds _ rfl) _) (by simp) (fun _ => rfl) fun _ => hends

theorem closing_interruptible (hserves : (closing kernel none).law.Serves server) (cpu : Fin maxCpus)
    {body : Dispatch σ α} (hbody : (closing kernel own).law.Obeys body) :
    (closing kernel own).law.Obeys (kernel.interruptible server cpu body) :=
  (closing kernel own).law.discipline.interruptible (closing_setState cpu _)
    (closing_call hserves (by simp [Call.ends?])) (closing_call hserves (by simp [Call.ends?])) hbody

theorem closing_scopes (hserves : (closing kernel none).law.Serves server) (cpu : Fin maxCpus)
    (irq : Irq) : (closing kernel (some irq)).law.Scopes (closing kernel (some irq)).law kernel
      server cpu irq := by
  have hcloses : (closing kernel (some irq)).law.Closes kernel server irq :=
    ⟨Watch.quiet _, closing_call hserves (by simp [Call.ends?]),
      closing_call hserves (by simp [Call.ends?]), closing_call hserves (by simp [Call.ends?])⟩
  refine ⟨hcloses, hcloses, Watch.unwinds _ rfl, fun entry state => ?_, fun handler => ?_⟩
  · exact closing_noting rfl rfl state.machine
  · apply closing_interruptible hserves cpu
    exact (closing kernel (some irq)).law.discipline.timeDevice
      (closing_call hserves (by simp [Call.ends?])) (closing_call hserves (by simp [Call.ends?]))

theorem closing_systemCall (hserves : (closing kernel none).law.Serves server) (number : UInt64)
    (words : ArgumentWords) :
    (closing kernel none).law.Obeys (kernel.systemCall server number words) := by
  have hprocess : ∀ c : Call, c.isProcess = true → c.ends? = none := by
    intro c hc
    cases c <;> first | rfl | cases hc
  have hhandles : (closing kernel none).law.Handles kernel server :=
    ⟨Watch.quiet _, Watch.unwinds _ rfl, hserves,
      fun c hc => closing_call hserves (by simp [hprocess c hc])⟩
  refine hhandles.systemCall (fun _ _ _ hbody => ?_) (fun _ _ _ _ hbody => ?_) number words
  · exact closing_during hbody (by simp) (fun _ => rfl) fun _ _ h => by cases h
  · exact closing_during hbody (by simp) (fun _ => rfl) fun _ _ h => by cases h

/-- Every way that a trap can go keeps to the watch. -/
theorem closing_routes (hserves : (closing kernel none).law.Serves server) (cpu : Fin maxCpus) :
    (closing kernel none).law.Routes kernel server cpu where
  quiet := Watch.quiet _
  state state _ := closing_setState cpu state true
  call c _ hends := closing_call hserves (by simp [hends])
  scope scope := by
    unfold Kernel.serviceScope
    refine closing_during (closing_scopes hserves cpu scope.irq).servicing ?_ (fun _ => rfl)
      fun _ _ h => by cases h
    rintro irq hirq result
    cases hirq
    exact ⟨result, rfl⟩
  systemCall number words :=
    closing_interruptible hserves cpu (closing_systemCall hserves number words)

/-- A trap keeps to the watch, and attends to its line if it is an interrupt. -/
theorem closing_trap (hserves : (closing kernel none).law.Serves server) (cpu : Fin maxCpus)
    (outer : CpuSlot) (state : Activation σ) :
    Law.LeadsAt (closing kernel none).Returns (closing kernel none).Stops
      (Dispatch.during (.trap cpu state.frame) (kernel.carryOut server cpu outer)) state := by
  have hattended : ∀ (x : Activity) result (after : Machine σ), x.event = .trap cpu state.frame result →
      x.inner = after.journal → (kernel.IsInterrupt state.frame → ∃ events,
        Adds events { state.machine with journal := [] } after ∧
          kernel.Attends state.frame.vector events result) → Attended kernel x := by
    rintro x result after hx hinner hattends _ _ _ hevent hinterrupt
    rw [hx] at hevent
    cases hevent
    obtain ⟨_, ⟨new, hnew, rfl⟩, hevents⟩ := hattends hinterrupt
    rw [hinner, hnew, List.append_nil]
    exact hevents
  have hbegins : ∀ (x : Activity) result, x.event = .trap cpu state.frame result → ∀ past,
      (closing kernel none).good past (.begins x) ∧
        (closing kernel none).holds (.begins x :: past) (state.machine.slots.entering cpu) := by
    refine fun x result hx past => ⟨fun irq hirq => ?_, by simp [closing]⟩
    rw [hx] at hirq
    cases hirq
  have hemits : kernel.IsInterrupt state.frame → EmitsAt (kernel.Attends state.frame.vector)
      (kernel.carryOut server cpu outer) { state with machine.journal := [] } :=
    fun hinterrupt => emitsAt_carryOut cpu outer hinterrupt
  have hcarry := (closing_routes hserves cpu).carryOut outer { state with machine.journal := [] }
  refine hcarry.during (fun value after hrun h => ?_) fun stop after hrun h => ?_
  · refine Follows.closing h (fun x hx _ past _ => hbegins x _ hx past) ?_
    intro x hx _ hinner _ past _ _
    exact ⟨hattended x _ _ hx hinner fun hinterrupt => (hemits hinterrupt).returned hrun,
      by simp [closing]⟩
  · refine Follows.closing h (fun x hx _ past _ => hbegins x _ hx past) ?_
    intro x hx _ hinner _ past _ _
    exact ⟨hattended x _ _ hx hinner fun hinterrupt => (hemits hinterrupt).stopped hrun,
      by simp [closing]⟩

theorem closing_covers (kernel : Kernel σ) : (closing kernel none).law.Covers kernel where
  quiet := Watch.quiet _
  unwinds := Watch.unwinds _ rfl
  tellSlot _ state := closing_noting rfl rfl state.machine
  registry _ _ state := closing_noting rfl rfl state.machine
  trap _ hserves := Law.obeys_handleTrap (Watch.quiet _).plain.toLooking
    (closing_call hserves (by simp [Call.ends?])) fun cpu state _ => closing_trap hserves cpu _ state
  systemCall _ hserves := closing_systemCall hserves

/-- In every run, whatever controller, handlers and settings do: an interrupt makes its
calls in order, and all of those that acknowledge its line unless one of them fails;
and the end of an interrupt and the unmasking of a line come only from the innermost
scope, which is that of the line. -/
theorem lines_are_acknowledged (kernel : Kernel σ) (depth : Nat) (program : ServiceProgram σ α)
    (machine : Machine σ) :
    let moments := history (kernel.runService depth program machine.fresh).machine.journal
    (∀ x, .ends x ∈ moments → ∀ cpu frame result, x.event = .trap cpu frame result →
        kernel.IsInterrupt frame → kernel.Attends frame.vector (ownEvents x.inner) result) ∧
      ∀ later x past, moments = later ++ .begins x :: past →
        ∀ c result irq, x.event = .service c result → c.ends? = some irq → Innermost irq past := by
  obtain ⟨hgood, -⟩ := (closing_covers kernel).watched depth program
    (show machine.fresh.journal = [] from rfl) (by simp [closing])
  refine ⟨fun x hx => ?_, fun later x past hsplit c result irq hx hirq => ?_⟩
  · obtain ⟨past, hattended⟩ := hgood.of_mem hx
    exact hattended
  · exact hgood.at hsplit irq (by rw [hx]; exact hirq)

/-- An interrupt that is interrupted attends to its line, and the inner one gives the
line back from the innermost scope. -/
theorem nested_lines_acknowledged :
    (∃ x result, nestedMoments.head? = some (.ends x) ∧
      (Kernel.plain ⟨3⟩ nestingDevice).Attends 35 (ownEvents x.inner) (result : Except Stop Outcome)) ∧
      ∃ x past, nestedMoments.drop 18 = .begins x :: past ∧ Innermost ⟨3⟩ past := by
  obtain ⟨hattends, hcloses⟩ := lines_are_acknowledged (Kernel.plain ⟨3⟩ nestingDevice) 3 (trapOn 35)
    (Machine.attached ⟨3⟩ true)
  constructor
  · have hframe : (nestedMoments.head?.bind Moment.ending?).bind (·.event.frame?) =
        some { (default : Frame) with vector := 35 } := by
      decide +kernel
    obtain ⟨x, hx, hevent⟩ := Option.bind_eq_some_iff.mp hframe
    obtain ⟨moment, hhead, hends⟩ := Option.bind_eq_some_iff.mp hx
    obtain ⟨cpu, result, hevent⟩ := Event.exists_of_frame? hevent
    cases moment with
    | begins y => cases hends
    | ends y =>
      cases hends
      refine ⟨x, result, hhead, ?_⟩
      exact hattends x (List.mem_of_mem_head? hhead) cpu _ result hevent ⟨_, rfl, by decide⟩
  · have hcall : ((nestedMoments.drop 18).head?.bind Moment.beginning?).bind (·.event.call?) =
        some (.endOfInterrupt ⟨3⟩) := by
      decide +kernel
    obtain ⟨x, result, hdrop, hevent⟩ := exists_begins hcall
    have hsplit := (List.take_append_drop 18 nestedMoments).symm
    rw [hdrop] at hsplit
    exact ⟨x, _, hdrop, hcloses _ x _ hsplit _ result ⟨3⟩ hevent rfl⟩

end TrapDispatch
