import TrapDispatch.Proofs.ControllerCalls
import TrapDispatch.Proofs.Wiring

/-!
# Drivers by themselves

A driver asks for nothing but its hardware, and leaves records. What its programs do to the
hardware in a kernel is then what the same driver does as a computation on the hardware alone,
in one piece: either all of it is done, or nothing is replied and nothing is done.
-/

namespace TrapDispatch

variable {η τ α β : Type}

def Activation.withHardware (state : Activation (η × τ)) (hardware : η) (log : LogBook) :
    Activation (η × τ) :=
  { state with machine := { state.machine with world := (hardware, state.machine.world.2), log } }

abbrev Activation.hardware (state : Activation (η × τ)) : η :=
  state.machine.world.1

/-- Whether nothing is replied at all. -/
def Idles {σ : Type} (serve : (op : Request σ) → Dispatch σ op.Reply) : Prop :=
  ∀ op, serve op = throw .exhausted

/-- Whether the world is told and set as it is, and records are kept. -/
def Hosts {σ : Type} (serve : (op : Request σ) → Dispatch σ op.Reply) : Prop :=
  (serve .world = do return (← Dispatch.machine).world) ∧
    (∀ world, serve (.setWorld world) =
      Dispatch.modifyMachine fun machine => { machine with world }) ∧
    ∀ r, serve (.log r) = record r

/-- Whether a program does to its hardware what a computation does. -/
structure Mirrors (program : ServiceProgram (η × τ) α) (plain : StateM η α) : Prop where
  hosted : ∀ server : Server (η × τ), Hosts server.reply → ∀ state, ∃ log,
    server.run program state =
      .ok (plain state.hardware).1 (state.withHardware (plain state.hardware).2 log)
  idle : ∀ server : Server (η × τ), Idles server.reply → ∀ state,
    server.run program state = .error .exhausted state ∨
      server.run program state = .ok (plain state.hardware).1 state ∧
        (plain state.hardware).2 = state.hardware

theorem mirrors_pure (value : α) :
    Mirrors (pure value : ServiceProgram (η × τ) α) (pure value) where
  hosted _ _ state := ⟨state.machine.log, rfl⟩
  idle _ _ _ := .inr ⟨rfl, rfl⟩

theorem mirrors_onHardware (access : StateM η α) :
    Mirrors (onHardware (τ := τ) access) access where
  hosted server hhosts state := by
    obtain ⟨hworld, hset, -⟩ := hhosts
    have hrun : server.run (onHardware (τ := τ) access) = (do
        let worlds ← server.reply .world
        server.reply (.setWorld ((access worlds.1).2, worlds.2))
        return (access worlds.1).1) := rfl
    rw [hrun, hworld]
    simp only [hset]
    exact ⟨state.machine.log, rfl⟩
  idle server hidle state := by
    have hrun : server.run (onHardware (τ := τ) access) = (do
        let worlds ← server.reply .world
        server.reply (.setWorld ((access worlds.1).2, worlds.2))
        return (access worlds.1).1) := rfl
    rw [hrun, hidle]
    exact .inl rfl

theorem mirrors_recordAt (level : Level) (target text : String) :
    Mirrors (recordAt level target text : ServiceProgram (η × τ) Unit) (pure ()) where
  hosted server hhosts state := by
    obtain ⟨-, -, hlog⟩ := hhosts
    have hrun : server.run (recordAt level target text : ServiceProgram (η × τ) Unit) = (do
        server.reply (.log ⟨level, target, text⟩)
        return ()) := rfl
    rw [hrun, hlog]
    exact ⟨_, rfl⟩
  idle server hidle state := by
    have hrun : server.run (recordAt level target text : ServiceProgram (η × τ) Unit) = (do
        server.reply (.log ⟨level, target, text⟩)
        return ()) := rfl
    rw [hrun, hidle]
    exact .inl rfl

namespace Mirrors

variable {program : ServiceProgram (η × τ) α} {plain : StateM η α}

theorem bind {next : α → ServiceProgram (η × τ) β} {later : α → StateM η β}
    (hprogram : Mirrors program plain) (hnext : ∀ value, Mirrors (next value) (later value)) :
    Mirrors (program >>= next) (plain >>= later) where
  hosted server hhosts state := by
    obtain ⟨first, hfirst⟩ := hprogram.hosted server hhosts state
    obtain ⟨second, hsecond⟩ := (hnext (plain state.hardware).1).hosted server hhosts
      (state.withHardware (plain state.hardware).2 first)
    refine ⟨second, ?_⟩
    rw [Server.run_bind, Dispatch.bind_of_ok hfirst, hsecond]
    rfl
  idle server hidle state := by
    rw [Server.run_bind]
    rcases hprogram.idle server hidle state with hstop | ⟨hrun, hsame⟩
    · exact .inl (Dispatch.bind_of_error hstop)
    · rw [Dispatch.bind_of_ok hrun]
      have hlater := (hnext (plain state.hardware).1).idle server hidle state
      have hbind : (plain >>= later) state.hardware =
          later (plain state.hardware).1 state.hardware :=
        congrArg (later (plain state.hardware).1) hsame
      rw [hbind]
      exact hlater

theorem ite {c : Prop} {_ : Decidable c} {first second : ServiceProgram (η × τ) α}
    {one other : StateM η α} (hfirst : Mirrors first one) (hsecond : Mirrors second other) :
    Mirrors (if c then first else second) (if c then one else other) := by
  split
  · exact hfirst
  · exact hsecond

/-- What a computation makes of the hardware, the program makes of it. -/
theorem drives {halts before : η → Prop} {after : α → η → Prop} (h : Mirrors program plain)
    (hhalts : ∀ hardware, before hardware → halts hardware)
    (hplain : ∀ hardware, before hardware → after (plain hardware).1 (plain hardware).2) :
    Drives halts before after program := by
  intro server htells past state hpast
  have hafter := hplain state.hardware hpast
  rcases htells with hidle | hhosts
  · rcases h.idle server hidle state with hstop | ⟨hrun, hsame⟩
    · exact runsAt_of_error [] hstop rfl ⟨rfl, hhalts _ hpast⟩
    · rw [hsame] at hafter
      exact runsAt_of_ok [] hrun rfl hafter
  · obtain ⟨log, hrun⟩ := h.hosted server hhosts state
    exact runsAt_of_ok [] hrun rfl hafter

end Mirrors

theorem mirrors_dropped [MonadRecord (StateM η)]
    (hdrops : ∀ r, (record r : StateM η Unit) = pure ()) (level : Level) (target text other : String) :
    Mirrors (recordAt level target text : ServiceProgram (η × τ) Unit)
      (recordAt level target other) := by
  have hplain : (recordAt level target other : StateM η Unit) = pure () := hdrops _
  rw [hplain]
  exact mirrors_recordAt level target text

structure Controller.Mirrors (driver : Controller (ServiceProgram (η × τ)))
    (plain : Controller (StateM η)) : Prop where
  triggerMode : ∀ irq, TrapDispatch.Mirrors (driver.triggerMode irq) (plain.triggerMode irq)
  pending : ∀ vector, TrapDispatch.Mirrors (driver.pending vector) (plain.pending vector)
  mask : ∀ irq, TrapDispatch.Mirrors (driver.mask irq) (plain.mask irq)
  unmask : ∀ irq, TrapDispatch.Mirrors (driver.unmask irq) (plain.unmask irq)
  acknowledge : ∀ irq, TrapDispatch.Mirrors (driver.acknowledge irq) (plain.acknowledge irq)
  endOfInterrupt : ∀ irq,
    TrapDispatch.Mirrors (driver.endOfInterrupt irq) (plain.endOfInterrupt irq)

/-! ### Scopes of a driver by itself -/

def AckScope.openingCalls (irq : Irq) (mode : TriggerMode) : List ControllerCall :=
  [.triggerMode irq, .mask irq] ++ if mode = .level then [.acknowledge irq] else []

def AckScope.closingCalls (scope : AckScope) : List ControllerCall :=
  (if scope.mode = .edge then [.acknowledge scope.irq] else []) ++ .endOfInterrupt scope.irq ::
    if scope.keepMasked then [] else [.unmask scope.irq]

section

variable [MonadRecord (StateM η)] (hdrops : ∀ r, (record r : StateM η Unit) = pure ())
  (plain : Controller (StateM η)) (hardware : η)

include hdrops

theorem opened_eq (irq : Irq) : AckScope.opened plain irq hardware =
    ({ irq, mode := (plain.triggerMode irq hardware).1 },
      plain.after hardware (AckScope.openingCalls irq (plain.triggerMode irq hardware).1)) := by
  have hrecord : ∀ level target text, (recordAt level target text : StateM η Unit) = pure () :=
    fun _ _ _ => hdrops _
  have hopened : AckScope.opened plain irq = (do
      let mode ← plain.triggerMode irq
      plain.mask irq
      if mode = .level then plain.acknowledge irq
      return { irq, mode }) := by
    unfold AckScope.opened
    simp only [hrecord, pure_bind]
  have hafter : ∀ mode, plain.after hardware (AckScope.openingCalls irq mode) =
      plain.after (plain.triggerMode irq hardware).2 (AckScope.openingCalls irq mode).tail :=
    fun _ => rfl
  rw [hopened, Controller.bind_apply, hafter]
  generalize (plain.triggerMode irq hardware).2 = board
  cases (plain.triggerMode irq hardware).1 <;> rfl

theorem close_eq (scope : AckScope) :
    (scope.close plain hardware).2 = plain.after hardware scope.closingCalls := by
  have hrecord : ∀ level target text, (recordAt level target text : StateM η Unit) = pure () :=
    fun _ _ _ => hdrops _
  obtain ⟨irq, mode, keepMasked⟩ := scope
  unfold AckScope.close
  simp only [hrecord]
  cases mode <;> cases keepMasked <;> rfl

end

/-! ### Runs of a driver -/

/-- Whether all of some activities are calls of a kind, in whose course nothing was done. -/
def Simple (kind : Call → Bool) (new : List Activity) : Prop :=
  ∀ x ∈ new, x.inner = [] ∧ x.event.call?.any kind = true

/-- What a run has done to the hardware: what a computation does, if it has returned. A run in
which nothing is replied has done nothing, and is the only one to be cut short. -/
def Performed (idle : Prop) (plain : StateM η α) (before : η) : Except Stop α → η → Prop
  | .ok value, after =>
    value = (plain before).1 ∧ after = (plain before).2 ∧ (idle → after = before)
  | .error stop, after => idle ∧ stop = .exhausted ∧ after = before

/-- Whether every run does so, by such calls alone. -/
def Performs (idle : Prop) (kind : Call → Bool) (body : Dispatch (η × τ) α)
    (plain : StateM η α) : Prop :=
  ∀ state, RunsAt (fun new result after => Simple kind new ∧
    Performed idle plain state.hardware result after.hardware) body state

theorem Simple.append {kind : Call → Bool} {new old : List Activity} (hnew : Simple kind new)
    (hold : Simple kind old) : Simple kind (new ++ old) := by
  intro x hx
  rcases List.mem_append.mp hx with hx | hx
  · exact hnew x hx
  · exact hold x hx

section

variable {idle : Prop} {kind : Call → Bool} {body : Dispatch (η × τ) α} {plain : StateM η α}

theorem performs_pure (value : α) :
    Performs idle kind (pure value : Dispatch (η × τ) α) (pure value) := fun _ =>
  runsAt_of_ok [] rfl rfl ⟨by simp [Simple], rfl, rfl, fun _ => rfl⟩

theorem Performs.bind {next : α → Dispatch (η × τ) β} {later : α → StateM η β}
    (hbody : Performs idle kind body plain)
    (hnext : ∀ value, Performs idle kind (next value) (later value)) :
    Performs idle kind (body >>= next) (plain >>= later) := by
  intro state
  refine (hbody state).bind (fun value middle old _ hfirst => ?_) fun stop after new h => h
  obtain ⟨hold, rfl, hmiddle, hsame⟩ := hfirst
  refine (hnext _ middle).mono fun new result after ⟨hnew, hlater⟩ => ⟨hnew.append hold, ?_⟩
  cases result with
  | ok last =>
    obtain ⟨hlast, hafter, hstill⟩ := hlater
    rw [hmiddle] at hlast hafter
    exact ⟨hlast, hafter, fun hidle => (hstill hidle).trans (hsame hidle)⟩
  | error stop =>
    obtain ⟨hidle, hstop, hafter⟩ := hlater
    exact ⟨hidle, hstop, hafter.trans (hsame hidle)⟩

theorem performs_when {c : Prop} {_ : Decidable c} {step : Dispatch (η × τ) Unit}
    {access : StateM η Unit} {next : Unit → Dispatch (η × τ) α} {later : Unit → StateM η α}
    (hstep : Performs idle kind step access)
    (hnext : ∀ done, Performs idle kind (next done) (later done)) :
    Performs idle kind (if c then step >>= next else next ())
      (if c then access >>= later else later ()) := by
  split
  · exact hstep.bind hnext
  · exact hnext ()

theorem performs_recordAt [MonadRecord (StateM η)]
    (hdrops : ∀ r, (record r : StateM η Unit) = pure ()) (level : Level) (target : String)
    (text other : String) : Performs idle kind (recordAt level target text : Dispatch (η × τ) Unit)
      (recordAt level target other) := by
  have hplain : (recordAt level target other : StateM η Unit) = pure () := hdrops _
  rw [hplain]
  exact fun state => runsAt_of_ok [] rfl rfl ⟨by simp [Simple], rfl, rfl, fun _ => rfl⟩

theorem Performs.returned (h : Performs idle kind body plain) {state after : Activation (η × τ)}
    {value : α} (hrun : body state = .ok value after) : ∃ new,
      after.machine.journal = new ++ state.machine.journal ∧ Simple kind new ∧
        value = (plain state.hardware).1 ∧ after.hardware = (plain state.hardware).2 := by
  obtain ⟨new, hnew, hsimple, hvalue, hafter, -⟩ := (h state).returned hrun
  exact ⟨new, hnew, hsimple, hvalue, hafter⟩

end

section

variable {kernel : Kernel τ} {driver : Controller (ServiceProgram (η × τ))}
  {plain : Controller (StateM η)} {server : Server (η × τ)} {irq : Irq} {scope : AckScope}

/-- A call to a driver does what the computation does. -/
theorem performs_call (kernel : Kernel τ) (kind : Call → Bool) (htells : Tells server.reply)
    {c : Call} {access : StateM η c.Reply} (hkind : kind c = true)
    (h : Mirrors ((kernel.wired driver).services.perform c) access) :
    Performs (Idles server.reply) kind ((kernel.wired driver).call server c) access := by
  intro state
  let blank : Activation (η × τ) := { state with machine.journal := [] }
  by_cases hidle : Idles server.reply
  · rcases h.idle server hidle blank with hstop | ⟨hrun, hsame⟩
    · refine runsAt_of_error [_] (Dispatch.during_of_error hstop) rfl ⟨?_, hidle, rfl, rfl⟩
      simp [Simple, Event.call?, hkind, blank]
    · refine runsAt_of_ok [_] (Dispatch.during_of_ok hrun) rfl
        ⟨?_, rfl, hsame.symm, fun _ => rfl⟩
      simp [Simple, Event.call?, hkind, blank]
  · obtain ⟨log, hrun⟩ := h.hosted server (htells.resolve_left hidle) blank
    refine runsAt_of_ok [_] (Dispatch.during_of_ok hrun) rfl
      ⟨?_, rfl, rfl, fun h => absurd h hidle⟩
    simp [Simple, Event.call?, hkind, blank, Activation.withHardware]

variable [MonadRecord (StateM η)] (hdrops : ∀ r, (record r : StateM η Unit) = pure ())
  (hdriver : driver.Mirrors plain) (htells : Tells server.reply)

include hdrops hdriver htells

theorem performs_opened : Performs (Idles server.reply) Call.isControl
    (AckScope.opened ((kernel.wired driver).controller server) irq)
    (AckScope.opened plain irq) := by
  have hmode := performs_call kernel Call.isControl htells (c := .triggerMode irq) rfl
    (hdriver.triggerMode irq)
  have hmask := performs_call kernel Call.isControl htells (c := .mask irq) rfl
    (hdriver.mask irq)
  have hacknowledge := performs_call kernel Call.isControl htells (c := .acknowledge irq) rfl
    (hdriver.acknowledge irq)
  refine hmode.bind fun mode => hmask.bind fun _ => performs_when hacknowledge fun _ => ?_
  exact (performs_recordAt hdrops _ _ _ _).bind fun _ => performs_pure _

theorem performs_close : Performs (Idles server.reply) Call.isControl
    (scope.close ((kernel.wired driver).controller server)) (scope.close plain) := by
  have hacknowledge := performs_call kernel Call.isControl htells (c := .acknowledge scope.irq)
    rfl (hdriver.acknowledge scope.irq)
  have hend := performs_call kernel Call.isControl htells (c := .endOfInterrupt scope.irq) rfl
    (hdriver.endOfInterrupt scope.irq)
  have hunmask := performs_call kernel Call.isControl htells (c := .unmask scope.irq) rfl
    (hdriver.unmask scope.irq)
  refine performs_when hacknowledge fun _ => hend.bind fun _ => performs_when hunmask fun _ => ?_
  exact performs_recordAt hdrops _ _ _ _

end

end TrapDispatch
