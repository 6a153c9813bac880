import TrapDispatch.Proofs.Bonds
import TrapDispatch.Proofs.Emission
import TrapDispatch.Proofs.Routes

/-!
# Calm steps

Most of what a trap does is calm: it calls neither the scheduler nor the system call
table, and where it returns it leaves the frame and the requests of the trap alone. A
run is described by the activities that it adds, how it ends, and the state that it
leaves; calm steps before it only add to the activities.
-/

namespace TrapDispatch

variable {σ α β : Type}

theorem ownEvents_single {x : Activity} (h : ∀ irq claimed, x.event ≠ .scope irq claimed) :
    ownEvents [x] = [x.event] := by
  cases x with
  | mk event before inner after =>
    cases event with
    | scope irq claimed => exact absurd rfl (h irq claimed)
    | _ => rfl

/-- Whether an event is neither a call to the scheduler nor a system call. -/
def Event.isCalm : Event → Bool
  | .service (.schedule _ _) _ => false
  | .systemCall _ _ _ _ => false
  | _ => true

def Call.isSchedule : Call → Bool
  | .schedule _ _ => true
  | _ => false

theorem Event.isCalm_service {c : Call} (h : c.isSchedule = false) (result : Except Stop c.Reply) :
    (Event.service c result).isCalm = true := by
  cases c with
  | schedule shown reason => cases h
  | _ => rfl

def AllCalm (new : List Activity) : Prop :=
  ∀ event ∈ ownEvents new, event.isCalm = true

theorem allCalm_nil : AllCalm [] := by
  intro event h
  cases h

theorem AllCalm.append {new old : List Activity} (hnew : AllCalm new) (hold : AllCalm old) :
    AllCalm (new ++ old) := by
  intro event h
  rw [ownEvents_append, List.mem_append] at h
  rcases h with h | h
  · exact hold event h
  · exact hnew event h

namespace Law

def calm : Law σ where
  returns a b := ∃ new, b.journal = new ++ a.journal ∧ AllCalm new
  stops a b := ∃ new, b.journal = new ++ a.journal ∧ AllCalm new
  refl a := ⟨[], rfl, allCalm_nil⟩
  trans := by
    rintro a b c ⟨old, hold, hcalm⟩ ⟨new, hnew, hnext⟩
    exact ⟨new ++ old, by rw [hnew, hold, List.append_assoc], hnext.append hcalm⟩
  weaken h := h
  trans_stops := by
    rintro a b c ⟨old, hold, hcalm⟩ ⟨new, hnew, hnext⟩
    exact ⟨new ++ old, by rw [hnew, hold, List.append_assoc], hnext.append hcalm⟩

theorem quiet_calm : (calm (σ := σ)).Quiet :=
  fun _ _ _ h => ⟨[], h, allCalm_nil⟩

theorem unwinds_calm : (calm (σ := σ)).Unwinds calm :=
  fun _ _ _ hfirst hsecond => calm.trans hfirst hsecond

theorem calm_of_emits {body : Dispatch σ α}
    (h : Emits (fun events _ => ∀ event ∈ events, event.isCalm = true) body) : calm.Obeys body := by
  intro state
  cases hrun : body state with
  | ok value after =>
    obtain ⟨_, ⟨new, hnew, rfl⟩, hcalm⟩ := (h state).returned hrun
    exact leadsAt_of_ok hrun ⟨new, hnew, hcalm⟩
  | error stop after =>
    obtain ⟨_, ⟨new, hnew, rfl⟩, hcalm⟩ := (h state).stopped hrun
    exact leadsAt_of_error hrun ⟨new, hnew, hcalm⟩

theorem emits_of_calm {body : Dispatch σ α} (h : calm.Obeys body) :
    Emits (fun events _ => ∀ event ∈ events, event.isCalm = true) body := by
  intro state
  cases hrun : body state with
  | ok value after =>
    obtain ⟨new, hnew, hcalm⟩ := (h state).returned hrun
    exact emitsAt_of_ok hrun ⟨new, hnew, rfl⟩ hcalm
  | error stop after =>
    obtain ⟨new, hnew, hcalm⟩ := (h state).stopped hrun
    exact emitsAt_of_error hrun ⟨new, hnew, rfl⟩ hcalm

variable {kernel : Kernel σ} {server : Server σ} {cpu : Fin maxCpus}

theorem calm_call {c : Call} (h : c.isSchedule = false) : calm.Obeys (kernel.call server c) := by
  apply calm_of_emits
  apply (emits_during _ (by simp)).mono
  rintro _ result rfl event hmem
  cases List.mem_singleton.mp hmem
  exact Event.isCalm_service h result

theorem calm_setSlot (change : CpuSlot → CpuSlot) :
    calm.Obeys (Dispatch.setSlot (σ := σ) cpu change) :=
  obeys_modifyMachine fun _ => ⟨[], rfl, allCalm_nil⟩

theorem calm_interruptible {body : Dispatch σ α} (hbody : calm.Obeys body) :
    calm.Obeys (kernel.interruptible server cpu body) :=
  calm.discipline.interruptible (fun _ => calm_setSlot _) (calm_call rfl) (calm_call rfl) hbody

theorem calm_scopes (irq : Irq) : calm.Scopes calm kernel server cpu irq where
  closes := ⟨quiet_calm, calm_call rfl, calm_call rfl, calm_call rfl⟩
  closesAfter := ⟨quiet_calm, calm_call rfl, calm_call rfl, calm_call rfl⟩
  unwinds := unwinds_calm
  lookup entry := by
    apply calm_of_emits
    apply (emits_note (by simp)).mono
    rintro _ _ ⟨rfl, -⟩ event hmem
    cases List.mem_singleton.mp hmem
    rfl
  device handler := calm_interruptible (calm.discipline.timeDevice (calm_call rfl) (calm_call rfl))

theorem calm_serviceScope (scope : AckScope) :
    calm.Obeys (kernel.serviceScope server cpu scope) := by
  unfold Kernel.serviceScope
  exact calm_of_emits (emits_scope (emits_of_calm (calm_scopes scope.irq).servicing))

end Law

namespace Kernel

open Bond

variable {kernel : Kernel σ} {server : Server σ} {cpu : Fin maxCpus}

theorem call_still (hserver : server.Still) (c : Call) : still.Keeps (kernel.call server c) :=
  still_during (hserver.run _)

theorem interruptible_still (hserver : server.Still) {body : Dispatch σ α}
    (hbody : still.Keeps body) : still.Keeps (kernel.interruptible server cpu body) :=
  still.discipline.interruptible (fun _ => quiet_still.setSlot _ _) (call_still hserver _)
    (call_still hserver _) hbody

theorem close_still (hserver : server.Still) (scope : AckScope) :
    still.Keeps (scope.close (kernel.controller server)) := by
  have hcloses : still.discipline.Closes kernel server scope.irq :=
    ⟨quiet_still.observing.toLooking, call_still hserver _, call_still hserver _,
      call_still hserver _⟩
  exact hcloses.close

theorem serviceLine_still (hserver : server.Still) (irq : Irq) (scope : AckScope) :
    still.Keeps (kernel.serviceLine server cpu irq scope) := by
  refine still.discipline.serviceLine quiet_still.observing ?_ fun handler => ?_
  · unfold Kernel.enabledHandler
    refine keeps_bind (quiet_still.withRegistry _) fun entry => ?_
    exact keeps_bind (still_note _) fun _ => keeps_pure _
  · apply interruptible_still hserver
    exact still.discipline.timeDevice (call_still hserver _) (call_still hserver _)

theorem serviceScope_still (hserver : server.Still) (scope : AckScope) :
    still.Keeps (kernel.serviceScope server cpu scope) := by
  unfold Kernel.serviceScope AckScope.servicing
  apply still_during
  apply keeps_bind (keeps_unwinding (serviceLine_still hserver scope.irq scope))
  intro result
  exact keeps_bind (close_still hserver result.2) fun _ => keeps_pure _

end Kernel

/-- A step that only adds calm events, and leaves frame and requests alone. -/
structure Calm (body : Dispatch σ α) : Prop where
  events : Law.calm.Obeys body
  still : Bond.still.Keeps body

namespace Calm

variable {kernel : Kernel σ} {server : Server σ}

theorem pure (value : α) : Calm (Pure.pure value : Dispatch σ α) :=
  ⟨Law.obeys_pure value, Bond.keeps_pure value⟩

theorem bind {body : Dispatch σ α} {next : α → Dispatch σ β} (hbody : Calm body)
    (hnext : ∀ value, Calm (next value)) : Calm (body >>= next) :=
  ⟨Law.obeys_bind hbody.events fun value => (hnext value).events,
    Bond.keeps_bind hbody.still fun value => (hnext value).still⟩

theorem ite {c : Prop} {_ : Decidable c} {first second : Dispatch σ α} (hfirst : Calm first)
    (hsecond : Calm second) : Calm (if c then first else second) :=
  ⟨Law.obeys_ite hfirst.events hsecond.events, Bond.keeps_ite hfirst.still hsecond.still⟩

theorem count (change : Stats → Stats) : Calm (Dispatch.count (σ := σ) change) :=
  ⟨Law.quiet_calm.count _, Bond.quiet_still.count _⟩

theorem recordAt (level : Level) (target text : String) :
    Calm (TrapDispatch.recordAt level target text : Dispatch σ Unit) :=
  ⟨Law.quiet_calm.recordAt _ _ _, Bond.quiet_still.recordAt _ _ _⟩

theorem call (hserver : server.Still) {c : Call} (h : c.isSchedule = false) :
    Calm (kernel.call server c) :=
  ⟨Law.calm_call h, Kernel.call_still hserver c⟩

theorem opened (hserver : server.Still) (irq : Irq) :
    Calm (AckScope.opened (kernel.controller server) irq) := by
  unfold AckScope.opened
  apply (call hserver (c := .triggerMode irq) rfl).bind
  intro mode
  apply (call hserver (c := .mask irq) rfl).bind
  intro _
  have hend : Calm (do
      TrapDispatch.recordAt .trace LogTarget.acknowledge
        s!"{(kernel.controller server).name}: {irq.text} entered ({mode.name})"
      return { irq, mode } : Dispatch σ AckScope) :=
    (recordAt _ _ _).bind fun _ => pure _
  exact ite ((call hserver (c := .acknowledge irq) rfl).bind fun _ => hend) hend

theorem serviceScope (hserver : server.Still) (cpu : Fin maxCpus) (scope : AckScope) :
    Calm (kernel.serviceScope server cpu scope) :=
  ⟨Law.calm_serviceScope scope, Kernel.serviceScope_still hserver scope⟩

end Calm

/-- What is said of a run: the activities that it adds, newest first, how it ends, and
the state that it leaves. -/
abbrev RunSpec (σ α : Type) := List Activity → Except Stop α → Activation σ → Prop

/-- Whether the run of a computation from a state is as specified. -/
def RunsAt (spec : RunSpec σ α) (body : Dispatch σ α) (state : Activation σ) : Prop :=
  match body state with
  | .ok value after =>
    ∃ new, after.machine.journal = new ++ state.machine.journal ∧ spec new (.ok value) after
  | .error stop after =>
    ∃ new, after.machine.journal = new ++ state.machine.journal ∧ spec new (.error stop) after

section

variable {spec : RunSpec σ α} {body : Dispatch σ α} {state after : Activation σ}

theorem RunsAt.returned {value : α} (h : RunsAt spec body state)
    (hrun : body state = .ok value after) :
    ∃ new, after.machine.journal = new ++ state.machine.journal ∧ spec new (.ok value) after := by
  unfold RunsAt at h
  rw [hrun] at h
  exact h

theorem RunsAt.stopped {stop : Stop} (h : RunsAt spec body state)
    (hrun : body state = .error stop after) :
    ∃ new, after.machine.journal = new ++ state.machine.journal ∧ spec new (.error stop) after := by
  unfold RunsAt at h
  rw [hrun] at h
  exact h

theorem runsAt_of_ok {value : α} (new : List Activity) (hrun : body state = .ok value after)
    (hjournal : after.machine.journal = new ++ state.machine.journal)
    (h : spec new (.ok value) after) : RunsAt spec body state := by
  unfold RunsAt
  rw [hrun]
  exact ⟨new, hjournal, h⟩

theorem runsAt_of_error {stop : Stop} (new : List Activity) (hrun : body state = .error stop after)
    (hjournal : after.machine.journal = new ++ state.machine.journal)
    (h : spec new (.error stop) after) : RunsAt spec body state := by
  unfold RunsAt
  rw [hrun]
  exact ⟨new, hjournal, h⟩

theorem RunsAt.mono {weaker : RunSpec σ α} (h : RunsAt spec body state)
    (hspec : ∀ new result after, spec new result after → weaker new result after) :
    RunsAt weaker body state := by
  cases hrun : body state with
  | ok value after =>
    obtain ⟨new, hnew, hrest⟩ := h.returned hrun
    exact runsAt_of_ok _ hrun hnew (hspec _ _ _ hrest)
  | error stop after =>
    obtain ⟨new, hnew, hrest⟩ := h.stopped hrun
    exact runsAt_of_error _ hrun hnew (hspec _ _ _ hrest)

end

section

variable {first : RunSpec σ α} {spec : RunSpec σ β} {body : Dispatch σ α}
  {next : α → Dispatch σ β} {state : Activation σ}

theorem RunsAt.bind (hbody : RunsAt first body state)
    (hnext : ∀ value middle old, body state = .ok value middle → first old (.ok value) middle →
      RunsAt (fun new result after => spec (new ++ old) result after) (next value) middle)
    (hstopped : ∀ stop after new, first new (.error stop) after → spec new (.error stop) after) :
    RunsAt spec (body >>= next) state := by
  cases hrun : body state with
  | ok value middle =>
    obtain ⟨old, hold, hfirst⟩ := hbody.returned hrun
    have hrest := hnext value middle old hrun hfirst
    cases hend : next value middle with
    | ok last after =>
      obtain ⟨new, hnew, hspec⟩ := hrest.returned hend
      refine runsAt_of_ok _ ((Dispatch.bind_of_ok hrun).trans hend) ?_ hspec
      rw [hnew, hold, List.append_assoc]
    | error stop after =>
      obtain ⟨new, hnew, hspec⟩ := hrest.stopped hend
      refine runsAt_of_error _ ((Dispatch.bind_of_ok hrun).trans hend) ?_ hspec
      rw [hnew, hold, List.append_assoc]
  | error stop middle =>
    obtain ⟨new, hnew, hfirst⟩ := hbody.stopped hrun
    exact runsAt_of_error _ (Dispatch.bind_of_error hrun) hnew (hstopped _ _ _ hfirst)

/-- A first step that leaves the journal alone. -/
theorem runsAt_next {middle : Activation σ} (value : α) (hrun : body state = .ok value middle)
    (hjournal : middle.machine.journal = state.machine.journal)
    (hnext : RunsAt spec (next value) middle) : RunsAt spec (body >>= next) state := by
  have hbody : RunsAt (fun new result after => new = [] ∧ result = .ok value ∧ after = middle)
      body state := runsAt_of_ok [] hrun hjournal ⟨rfl, rfl, rfl⟩
  refine hbody.bind ?_ ?_
  · rintro _ _ _ - ⟨rfl, ⟨⟩, rfl⟩
    simpa using hnext
  · rintro _ _ _ ⟨-, h, -⟩
    cases h

theorem runsAt_frame {next : Frame → Dispatch σ β} (h : RunsAt spec (next state.frame) state) :
    RunsAt spec (Dispatch.frame >>= next) state := by
  have hframe : Dispatch.frame state = .ok state.frame state := rfl
  exact runsAt_next _ hframe rfl h

theorem Calm.runsAt (h : Calm body) (state : Activation σ) :
    RunsAt (fun new result after => AllCalm new ∧ ((∃ value, result = .ok value) →
      after.frame = state.frame ∧ after.requests = state.requests)) body state := by
  cases hrun : body state with
  | ok value after =>
    obtain ⟨new, hnew, hcalm⟩ := (h.events state).returned hrun
    obtain ⟨hframe, hrequests, -⟩ := h.still _ _ _ hrun
    exact runsAt_of_ok _ hrun hnew ⟨hcalm, fun _ => ⟨hframe, hrequests⟩⟩
  | error stop after =>
    obtain ⟨new, hnew, hcalm⟩ := (h.events state).stopped hrun
    exact runsAt_of_error _ hrun hnew ⟨hcalm, fun ⟨value, hvalue⟩ => by cases hvalue⟩

/-- Specifications that do not mind calm events before what they speak of, and allow a
run to be cut short in them. -/
structure RunSpec.Patient (spec : RunSpec σ β) : Prop where
  after : ∀ {new old result last}, AllCalm old → spec new result last →
    spec (new ++ old) result last
  cut : ∀ {new stop last}, AllCalm new → spec new (.error stop) last

theorem RunSpec.Patient.step (hpatient : spec.Patient) (hbody : Calm body)
    (hnext : ∀ value middle, body state = .ok value middle → middle.frame = state.frame →
      middle.requests = state.requests → RunsAt spec (next value) middle) :
    RunsAt spec (body >>= next) state := by
  refine (hbody.runsAt state).bind ?_ fun stop after new h => hpatient.cut h.1
  rintro value middle old hrun ⟨hcalm, hsame⟩
  obtain ⟨hframe, hrequests⟩ := hsame ⟨value, rfl⟩
  exact (hnext value middle hrun hframe hrequests).mono fun _ _ _ => hpatient.after hcalm

end

end TrapDispatch
