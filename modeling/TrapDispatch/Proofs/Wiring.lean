import TrapDispatch.Proofs.Attendance
import TrapDispatch.Proofs.Beside
import TrapDispatch.Proofs.Regimes

/-!
# Drivers and their hardware

A driver takes its hardware through the phases of an interrupt: a line is named, it is masked
and serviced, the interrupt is ended, and the line is unmasked. Services and handlers do not
reach the hardware, but they may be interrupted, and so the phases nest. What a driver does in
each phase decides what the dispatcher does to the hardware in a whole run.
-/

namespace TrapDispatch

variable {η τ σ α β : Type}

/-- What is said of the hardware alone. -/
def About (fact : η → Prop) : Assertion (η × τ) :=
  fun _ machine => fact machine.world.1

/-- Whether a computation has come to its end: it has returned, or a panic has unwound it. -/
def Finishes (result : Except Stop α) : Prop :=
  ∀ stop, result = .error stop → ∃ message, stop = .panic message

theorem finishes_of_isOk {result : Except Stop α} (h : result.isOk = true) : Finishes result := by
  rintro stop rfl
  cases h

/-- What is known of the hardware where requests are not served any more. -/
def Exhausts (halts : η → Prop) (stop : Stop) : Assertion (η × τ) :=
  fun past machine => stop = .exhausted ∧ About halts past machine

/-- Whether a program of a driver takes the hardware from one fact to another. -/
def Drives (halts before : η → Prop) (after : α → η → Prop) (program : ServiceProgram (η × τ) α) :
    Prop :=
  ∀ server : Server (η × τ), Tells server.reply →
    Carries (About before) (fun value => About (after value)) (Exhausts halts) (server.run program)

abbrev Sustains (halts fact : η → Prop) (program : ServiceProgram (η × τ) α) : Prop :=
  Drives halts fact (fun _ => fact) program

/-- The phases of hardware in the course of an interrupt, each in view of what was before. -/
structure Phases (η : Type) where
  View : Type
  /-- No interrupt is under way that was not so before. -/
  rests : View → η → Prop
  /-- A line has been named. -/
  named : View → Irq → η → Prop
  /-- It is masked, and may be serviced. -/
  serviced : View → Irq → η → Prop
  /-- The interrupt has been ended. -/
  ended : View → Irq → η → Prop
  /-- What is left where a run is cut short. -/
  halts : View → η → Prop
  halting {view : View} {hardware : η} : rests view hardware → halts view hardware

namespace Phases

def asked (phases : Phases η) (view : phases.View) : Option Irq → η → Prop
  | none => phases.rests view
  | some irq => phases.named view irq

/-- Whether a driver takes its hardware through the phases of an interrupt, which leave room
for others while a line is serviced. -/
structure GoneThrough (phases : Phases η) (driver : Controller (ServiceProgram (η × τ))) :
    Prop where
  pending : ∀ view vector, Drives (phases.halts view) (phases.rests view) (phases.asked view)
    (driver.pending vector)
  triggerMode : ∀ view irq, Drives (phases.halts view) (phases.named view irq)
    (fun _ => phases.named view irq) (driver.triggerMode irq)
  mask : ∀ view irq, Drives (phases.halts view) (phases.named view irq)
    (fun _ => phases.serviced view irq) (driver.mask irq)
  acknowledge : ∀ view irq, Drives (phases.halts view) (phases.serviced view irq)
    (fun _ => phases.serviced view irq) (driver.acknowledge irq)
  endOfInterrupt : ∀ view irq, Drives (phases.halts view) (phases.serviced view irq)
    (fun _ => phases.ended view irq) (driver.endOfInterrupt irq)
  unmask : ∀ view irq, Drives (phases.halts view) (phases.ended view irq)
    (fun _ => phases.rests view) (driver.unmask irq)
  masked : ∀ view irq hardware, phases.ended view irq hardware → phases.rests view hardware
  nests : ∀ view irq hardware, phases.serviced view irq hardware →
    ∃ inner, phases.rests inner hardware ∧
      (∀ later, phases.rests inner later → phases.serviced view irq later) ∧
      ∀ later, phases.halts inner later → phases.halts view later

def regime (phases : Phases η) (τ : Type) : Regime (η × τ) where
  View := phases.View
  holds view := About (phases.rests view)
  halts view _ := About (phases.halts view)
  halting h _ := phases.halting h

end Phases

variable {phases : Phases η} {view : phases.View} {halts before : η → Prop} {after : α → η → Prop}
  {server : Server (η × τ)}

theorem Server.run_bind (server : Server σ) (program : ServiceProgram σ α)
    (next : α → ServiceProgram σ β) :
    server.run (program >>= next) = server.run program >>= fun value => server.run (next value) :=
  Program.run_bind (S := serviceSignature σ) _ _ _ _

/-- Where nothing is replied, a request leaves everything as it is. -/
theorem carries_exhausted {pre : Assertion σ} {returns : α → Assertion σ}
    {stops : Stop → Assertion σ} {next : β → Dispatch σ α}
    (h : ∀ past machine, pre past machine → stops .exhausted past machine) :
    Carries pre returns stops (throw .exhausted >>= next) := by
  have hthrow : Carries pre (fun _ _ _ => False) stops (throw .exhausted : Dispatch σ β) :=
    carries_throw _ h
  exact hthrow.bind fun _ _ _ h => h.elim

theorem carries_world {serve : (op : Request σ) → Dispatch σ op.Reply} (htells : Tells serve)
    {pre : Assertion σ} {returns : α → Assertion σ} {stops : Stop → Assertion σ}
    {change : σ → σ} {next : σ → Dispatch σ α}
    (hexhausted : ∀ past machine, pre past machine → stops .exhausted past machine)
    (hnext : ∀ world, Carries (fun past machine => ∃ before, pre past before ∧
      before.world = world ∧ machine = { before with world := change world }) returns stops
      (next world)) :
    Carries pre returns stops (serve .world >>= fun world =>
      serve (.setWorld (change world)) >>= fun _ => next world) := by
  rcases htells with hnothing | ⟨hworld, hset, -⟩
  · rw [hnothing]
    exact carries_exhausted hexhausted
  rw [hworld]
  have hread : Carries pre (fun world past machine => pre past machine ∧ machine.world = world)
      stops (do return (← Dispatch.machine).world : Dispatch σ σ) :=
    carries_machine.bind fun machine => carries_pure _ fun past bare ⟨h, hbare⟩ =>
      ⟨h, by rw [hbare]; rfl⟩
  refine hread.bind fun world => ?_
  rw [hset]
  refine Carries.bind (carries_modifyMachine (fun _ => rfl) fun past machine ⟨h, hsame⟩ => ?_)
    fun _ => hnext world
  exact ⟨machine.bare, h, hsame, rfl⟩

theorem drives_onHardware {access : StateM η α}
    (hhalts : ∀ hardware, before hardware → halts hardware)
    (haccess : ∀ hardware, before hardware → after (access hardware).1 (access hardware).2) :
    Drives halts before after (onHardware (τ := τ) access) := by
  intro server htells
  change Carries _ _ _ (server.reply .world >>= fun worlds =>
    server.reply (.setWorld ((access worlds.1).2, worlds.2)) >>= fun _ => pure (access worlds.1).1)
  refine carries_world htells (fun _ _ h => ⟨rfl, hhalts _ h⟩) fun worlds => ?_
  refine carries_pure _ ?_
  rintro past _ ⟨machine, h, rfl, rfl⟩
  exact haccess _ h

section

variable {middle : α → η → Prop} {last : β → η → Prop}

theorem drives_pure {value : α} (h : ∀ hardware, before hardware → after value hardware) :
    Drives halts before after (pure value : ServiceProgram (η × τ) α) :=
  fun _ _ => carries_pure value fun _ _ hbefore => h _ hbefore

theorem Drives.mono {program : ServiceProgram (η × τ) α} {later : α → η → Prop}
    (h : Drives halts before after program)
    (hafter : ∀ value hardware, after value hardware → later value hardware) :
    Drives halts before later program := fun server htells =>
  (h server htells).mono (fun _ _ h => h) (fun value _ _ => hafter value _) fun _ _ _ h => h

theorem Drives.bind {program : ServiceProgram (η × τ) α}
    {next : α → ServiceProgram (η × τ) β} (hprogram : Drives halts before middle program)
    (hnext : ∀ value, Drives halts (middle value) last (next value)) :
    Drives halts before last (program >>= next) := by
  intro server htells
  rw [Server.run_bind]
  exact (hprogram server htells).bind fun value => hnext value server htells

end

theorem drives_ite {c : Prop} {_ : Decidable c} {first second : ServiceProgram (η × τ) α}
    (hfirst : c → Drives halts before after first)
    (hsecond : ¬ c → Drives halts before after second) :
    Drives halts before after (if c then first else second) := by
  split
  next h => exact hfirst h
  next h => exact hsecond h

theorem drives_recordAt (level : Level) (target text : String)
    (hhalts : ∀ hardware, before hardware → halts hardware) :
    Sustains halts before (recordAt level target text : ServiceProgram (η × τ) Unit) := by
  intro server htells
  let r : Record := ⟨level, target, text⟩
  change Carries _ _ _ (server.reply (.log r) >>= fun _ => pure ())
  rcases htells with hnothing | ⟨-, -, hlog⟩
  · rw [hnothing]
    exact carries_exhausted fun _ _ h => ⟨rfl, hhalts _ h⟩
  · rw [hlog]
    exact Carries.bind (carries_modifyMachine (fun _ => rfl) fun _ _ h => h)
      fun _ => carries_pure _ fun _ _ h => h

theorem about_during {stops : Stop → Assertion (η × τ)} {event : Except Stop α → Event}
    {body : Dispatch (η × τ) α}
    (hstops : ∀ stop past now machine, stops stop past machine → stops stop now machine)
    (h : Carries (About before) (fun value => About (after value)) stops body) :
    Carries (About before) (fun value => About (after value)) stops
      (Dispatch.during event body) := by
  apply carries_during
  intro x result past machine _ _ hpast
  refine ⟨_, _, _, h, hpast, fun last _ hupon => ?_⟩
  cases result with
  | ok value => exact hupon
  | error stop => exact hstops stop _ _ _ hupon

theorem about_modifyMachine {stops : Stop → Assertion (η × τ)}
    {change : Machine (η × τ) → Machine (η × τ)}
    (hjournal : ∀ machine, (change machine).journal = machine.journal)
    (hworld : ∀ machine, (change machine).world.1 = machine.world.1) :
    Carries (About before) (fun _ => About before) stops (Dispatch.modifyMachine change) := by
  refine carries_modifyMachine hjournal fun past machine h => ?_
  have hsame : (change machine).bare.world.1 = machine.world.1 := hworld machine
  unfold About
  rw [hsame]
  exact h

namespace Phases

theorem quiet_regime : (phases.regime τ).Quiet := by
  intro view past a b _ _ _ hworld h
  change phases.rests view b.world.1
  rw [hworld]
  exact h

theorem cuts_now {stop : Stop} {past now : List Moment} {machine : Machine (η × τ)}
    (h : (phases.regime τ).cuts view stop past machine) :
    (phases.regime τ).cuts view stop now machine := by
  cases stop <;> exact h

theorem beside_regime : (phases.regime τ).discipline.Beside where
  resilient := (phases.regime τ).resilient
  plain := quiet_regime.plain
  deadlock _ := carries_throw _ fun _ _ h => phases.halting h
  modifyMachine hjournal hworld _ := about_modifyMachine hjournal hworld
  onFrame := Regime.keeps_onFrame
  during _ hbody view := about_during (fun _ _ _ _ => cuts_now) (hbody view)
  note _ _ := carries_note fun _ _ _ _ _ h => h

section

variable (kernel : Kernel τ) {driver : Controller (ServiceProgram (η × τ))} {irq : Irq}
  {scope : AckScope} (htells : Tells server.reply) (hdriver : phases.GoneThrough driver)

include htells

/-- A call to the driver does what its program does. -/
theorem drives_call {c : Call} {after : c.Reply → η → Prop}
    (h : Drives halts before after ((kernel.wired driver).services.perform c)) :
    Carries (About before) (fun value => About (after value)) (Exhausts halts)
      ((kernel.wired driver).call server c) :=
  about_during (fun _ _ _ _ h => h) (h server htells)

include hdriver

theorem drives_opened :
    Carries (About (phases.named view irq)) (fun _ => About (phases.serviced view irq))
      (Exhausts (phases.halts view))
      (AckScope.opened ((kernel.wired driver).controller server) irq) := by
  have hmode := drives_call kernel htells (c := .triggerMode irq)
    (hdriver.triggerMode view irq)
  have hmask := drives_call kernel htells (c := .mask irq) (hdriver.mask view irq)
  have hacknowledge := drives_call kernel htells (c := .acknowledge irq)
    (hdriver.acknowledge view irq)
  unfold AckScope.opened
  refine hmode.bind fun mode => hmask.bind fun _ => ?_
  refine carries_when (fun _ => hacknowledge) (fun _ _ _ h => h) ?_
  unfold recordAt
  exact Carries.bind (about_modifyMachine (fun _ => rfl) fun _ => rfl)
    fun _ => carries_pure _ fun _ _ h => h

theorem drives_close (hirq : scope.irq = irq) :
    Carries (About (phases.serviced view irq)) (fun _ => About (phases.rests view))
      (Exhausts (phases.halts view)) (scope.close ((kernel.wired driver).controller server)) := by
  subst hirq
  have hacknowledge := drives_call kernel htells (c := .acknowledge scope.irq)
    (hdriver.acknowledge view scope.irq)
  have hend := drives_call kernel htells (c := .endOfInterrupt scope.irq)
    (hdriver.endOfInterrupt view scope.irq)
  have hunmask := drives_call kernel htells (c := .unmask scope.irq)
    (hdriver.unmask view scope.irq)
  unfold AckScope.close
  refine carries_when (fun _ => hacknowledge) (fun _ _ _ h => h) ?_
  refine hend.bind fun _ => ?_
  refine carries_when (fun _ => hunmask) (fun _ _ _ h => hdriver.masked _ _ _ h) ?_
  unfold recordAt
  exact about_modifyMachine (fun _ => rfl) fun _ => rfl

end

/-- What is left of a line that is serviced, where that is cut short. -/
def interrupted (phases : Phases η) (view : phases.View) (irq : Irq) : Stop → Assertion (η × τ)
  | .panic _ => About (phases.serviced view irq)
  | _ => About (phases.halts view)

section

variable {kernel : Kernel τ} {driver : Controller (ServiceProgram (η × τ))} {irq : Irq}
  {scope : AckScope} (hdriver : phases.GoneThrough driver)

include hdriver

theorem serviced_of_keeps {body : Dispatch (η × τ) α} (h : (phases.regime τ).Keeps body) :
    Carries (About (phases.serviced view irq)) (fun _ => About (phases.serviced view irq))
      (phases.interrupted view irq) body := by
  refine carries_of_points fun past machine hserviced => ?_
  -- For all that happens meanwhile, this is a point between interrupts.
  obtain ⟨inner, hrests, hserviced, hhalts⟩ := hdriver.nests view irq _ hserviced
  refine ⟨_, _, _, h inner, hrests, fun _ now last hlast => hserviced _ hlast,
    fun stop now last hcut => ?_⟩
  cases stop with
  | panic message => exact hserviced _ hcut
  | _ => exact hhalts _ hcut

variable (hserver : (phases.regime τ).discipline.Attended server)

include hserver

/-- The scope of a line ends its interrupt, whatever happens within. -/
theorem drives_serviceScope (cpu : Fin maxCpus) :
    Carries (About (phases.serviced view scope.irq)) (fun _ => About (phases.rests view))
      ((phases.regime τ).cuts view) ((kernel.wired driver).serviceScope server cpu scope) := by
  have hclose : ∀ last : AckScope, last.irq = scope.irq →
      Carries (About (phases.serviced view scope.irq)) (fun _ => About (phases.rests view))
        ((phases.regime τ).cuts view) (last.close ((kernel.wired driver).controller server)) := by
    intro last hlast
    refine (drives_close kernel hserver.tells hdriver hlast).mono (fun _ _ h => h)
      (fun _ _ _ h => h) ?_
    rintro _ past machine ⟨rfl, h⟩
    exact h
  have hservice : Carries (About (phases.serviced view scope.irq))
      (fun value past machine => value.2.irq = scope.irq ∧
        About (phases.serviced view scope.irq) past machine)
      ((phases.regime τ).cuts view)
      (unwinding ((kernel.wired driver).serviceLine server cpu scope.irq scope)
        (scope.close ((kernel.wired driver).controller server))) := by
    have hkeeps : (phases.regime τ).Keeps
        ((kernel.wired driver).serviceLine server cpu scope.irq scope) :=
      beside_regime.serviceLine hserver cpu scope.irq scope
    refine carries_unwinding ((serviced_of_keeps hdriver hkeeps).giving
      (Law.Scopes.serviceLine_irq scope.irq scope)) (fun _ => hclose scope rfl) ?_
      fun _ _ _ => Regime.cuts_unwound
    intro stop past machine hstop h
    cases stop with
    | panic message => exact absurd rfl (hstop message)
    | _ => exact h
  unfold Kernel.serviceScope AckScope.servicing
  refine about_during (fun _ _ _ _ => cuts_now) (hservice.bind ?_)
  rintro ⟨claimed, last⟩ past state ⟨hlast, h⟩
  have hrest : Carries (About (phases.serviced view scope.irq))
      (fun _ => About (phases.rests view)) ((phases.regime τ).cuts view)
      (last.close ((kernel.wired driver).controller server) >>= fun _ => pure claimed) :=
    (hclose last hlast).bind fun _ => carries_pure claimed fun _ _ h => h
  exact hrest past state h

/-- An interrupt goes through all phases of the line that it is told. -/
theorem keeps_interrupt (cpu : Fin maxCpus) :
    (phases.regime τ).Keeps ((kernel.wired driver).interrupt server cpu) := by
  intro view
  let rule := (phases.regime τ).under view
  have hcommons : (phases.regime τ).discipline.Commons (kernel.wired driver) server :=
    beside_regime.commons hserver
  have hexhausts : ∀ stop past (machine : Machine (η × τ)),
      Exhausts (phases.halts view) stop past machine →
        (phases.regime τ).cuts view stop past machine := by
    rintro _ past machine ⟨rfl, h⟩
    exact h
  unfold Kernel.interrupt
  refine rule.bind (quiet_regime.observing view).frame fun frame => ?_
  have hpending := drives_call kernel hserver.tells (c := .pending frame.vector)
    (hdriver.pending view frame.vector)
  refine Carries.bind (hpending.mono (fun _ _ h => h) (fun _ _ _ h => h) hexhausts) fun named => ?_
  cases named with
  | none =>
    refine rule.bind ((quiet_regime.observing view).count _) fun _ => ?_
    exact rule.bind ((quiet_regime.observing view).recordAt _ _ _) fun _ => rule.pure _
  | some irq =>
    have hopened := ((drives_opened kernel hserver.tells hdriver).giving (opened_gives irq)).mono
      (fun _ _ h => h) (fun _ _ _ h => h) hexhausts
    refine Carries.bind hopened fun scope past state ⟨⟨mode, hscope⟩, h⟩ => ?_
    subst hscope
    refine (drives_serviceScope hdriver hserver cpu).bind (fun handled => ?_) past state h
    exact rule.when (hcommons.reschedule _ view) (rule.pure _)

end

theorem tells_reply (kernel : Kernel σ) (depth : Nat) : Tells (kernel.server depth).reply := by
  cases depth with
  | zero => exact Or.inl fun _ => rfl
  | succ depth => exact Or.inr ⟨rfl, fun _ => rfl, fun _ => rfl⟩

/-- At every depth of nesting, what services are replied leaves the hardware as it was between
interrupts, unless they set it themselves. -/
theorem attends_regime (kernel : Kernel τ) {driver : Controller (ServiceProgram (η × τ))}
    (hdriver : phases.GoneThrough driver) (depth : Nat) :
    (phases.regime τ).discipline.Attended ((kernel.wired driver).server depth) :=
  beside_regime.attends (fun _ hserver => keeps_interrupt hdriver hserver) depth

theorem runService_leaves (kernel : Kernel τ) {driver : Controller (ServiceProgram (η × τ))}
    (hdriver : phases.GoneThrough driver) (depth : Nat) (program : ServiceProgram τ α)
    {machine : Machine (η × τ)} (h : phases.rests view machine.world.1) :
    let run := (kernel.wired driver).runService depth program.beside machine.fresh
    phases.halts view run.machine.world.1 ∧
      (Finishes run.result → phases.rests view run.machine.world.1) := by
  intro run
  have hkeeps : (phases.regime τ).Keeps _ :=
    beside_regime.program (attends_regime kernel hdriver depth) program
  have hrun : Upon (fun _ => About (phases.rests view)) ((phases.regime τ).cuts view) run.result
      (history run.machine.journal) run.machine.bare :=
    hkeeps.runService view (rfl : machine.fresh.journal = []) h
  cases hresult : run.result with
  | ok value =>
    rw [hresult] at hrun
    exact ⟨phases.halting hrun, fun _ => hrun⟩
  | error stop =>
    rw [hresult] at hrun
    cases stop with
    | panic message => exact ⟨phases.halting hrun, fun _ => hrun⟩
    | _ =>
      refine ⟨hrun, fun hfinishes => ?_⟩
      obtain ⟨message, hmessage⟩ := hfinishes _ rfl
      cases hmessage

end Phases

/-- A trap from user mode, on a CPU of some architecture. -/
def trapOf (arch : Arch) (vector : UInt64) : ServiceProgram σ Unit := do
  let _ ← ServiceProgram.ask (.trap { Frame.fresh arch .user with vector })

end TrapDispatch
