import TrapDispatch.Proofs.Emission
import TrapDispatch.Proofs.Routes

/-!
# Steps of a trap

Calls and looks into the registry, in the order they are taken. A plan lists the steps
that a computation takes: all of them if it returns, and the first of them up to a call
that fails if it does not.
-/

namespace TrapDispatch

/-- A step of a trap: a call to a service, or a look into the registry. -/
inductive Step where
  | call (c : Call)
  | lookup (irq : Irq) (entry : Option HandlerEntry)

def Event.step? : Event → Option Step
  | .service c _ => some (.call c)
  | .lookup irq entry => some (.lookup irq entry)
  | _ => none

def steps (events : List Event) : List Step :=
  events.filterMap Event.step?

/-- Calls by which a line is acknowledged. -/
def Call.isControl : Call → Bool
  | .triggerMode _ | .mask _ | .unmask _ | .acknowledge _ | .endOfInterrupt _ => true
  | _ => false

def ControlFails (events : List Event) : Prop :=
  ∃ c stop, .service c (.error stop) ∈ events ∧ c.isControl = true

@[simp] theorem steps_append (first second : List Event) :
    steps (first ++ second) = steps first ++ steps second :=
  List.filterMap_append

theorem call_mem_steps {c : Call} {result : Except Stop c.Reply} {events : List Event}
    (h : .service c result ∈ events) : .call c ∈ steps events :=
  List.mem_filterMap.mpr ⟨_, h, rfl⟩

theorem ControlFails.append_right {events : List Event} (h : ControlFails events)
    (earlier : List Event) : ControlFails (earlier ++ events) := by
  obtain ⟨c, stop, hmem, hcontrol⟩ := h
  exact ⟨c, stop, List.mem_append_right _ hmem, hcontrol⟩

variable {σ α β : Type} {kernel : Kernel σ} {server : Server σ}

/-- What a computation does that takes the steps of a plan: all of them if it returns,
and the first of them up to a call that fails if it does not. -/
structure Sends (plan : List Step) (events : List Event) (result : Except Stop α) : Prop where
  order : steps events <+: plan
  returned : (∃ value, result = .ok value) → steps events = plan
  stopped : ∀ stop, result = .error stop → ∃ c, .service c (.error stop) ∈ events

section

variable {plan rest : List Step} {events later : List Event}

theorem Sends.append {value : α} {result : Except Stop β} (hfirst : Sends plan events (.ok value))
    (hsecond : Sends rest later result) : Sends (plan ++ rest) (events ++ later) result := by
  have hsteps : steps (events ++ later) = plan ++ steps later := by
    rw [steps_append, hfirst.returned ⟨value, rfl⟩]
  refine ⟨?_, fun hvalue => ?_, fun stop hstop => ?_⟩
  · rw [hsteps, List.prefix_append_right_inj]
    exact hsecond.order
  · rw [hsteps, hsecond.returned hvalue]
  · obtain ⟨c, hmem⟩ := hsecond.stopped stop hstop
    exact ⟨c, List.mem_append_right _ hmem⟩

theorem Sends.cut {stop : Stop} (h : Sends (α := α) plan events (.error stop)) :
    Sends (α := β) (plan ++ rest) events (.error stop) := by
  refine ⟨h.order.trans (List.prefix_append _ _), ?_, ?_⟩
  · rintro ⟨value, hvalue⟩
    cases hvalue
  · rintro _ ⟨⟩
    exact h.stopped stop rfl

theorem Sends.single (c : Call) (result : Except Stop c.Reply) :
    Sends [.call c] [.service c result] result := by
  refine ⟨List.prefix_rfl, fun _ => rfl, ?_⟩
  rintro stop rfl
  exact ⟨c, List.mem_singleton_self _⟩

/-- Where a plan is all control, it is a control call that fails. -/
theorem Sends.controlFails {stop : Stop} (h : Sends (α := α) plan events (.error stop))
    (hplan : ∀ c, .call c ∈ plan → c.isControl = true) : ControlFails events := by
  obtain ⟨c, hmem⟩ := h.stopped stop rfl
  exact ⟨c, stop, hmem, hplan c (h.order.subset (call_mem_steps hmem))⟩

end

section

variable {plan rest : List Step} {body : Dispatch σ α} {next : α → Dispatch σ β}

theorem Silent.sends (h : Silent body) : Emits (Sends []) body := by
  apply h.emits.mono
  rintro events result ⟨rfl, value, rfl⟩
  exact ⟨List.nil_prefix, fun _ => rfl, fun stop hstop => by cases hstop⟩

theorem sends_call (c : Call) : Emits (Sends [.call c]) (kernel.call server c) := by
  apply (emits_during _ (by simp)).mono
  rintro events result rfl
  exact .single c result

theorem sends_bind (hbody : Emits (Sends plan) body)
    (hnext : ∀ value, Emits (Sends rest) (next value)) :
    Emits (Sends (plan ++ rest)) (body >>= next) :=
  hbody.bind _ hnext (fun _ _ _ _ => Sends.append) fun _ _ => Sends.cut

theorem sends_callThen {c : Call} {next : c.Reply → Dispatch σ β}
    (hnext : ∀ value, Emits (Sends rest) (next value)) :
    Emits (Sends (.call c :: rest)) (kernel.call server c >>= next) :=
  sends_bind (sends_call c) hnext

theorem sends_when {c : Prop} {_ : Decidable c} {step : Dispatch σ Unit}
    {next : Unit → Dispatch σ β} (hstep : Emits (Sends plan) step)
    (hnext : Emits (Sends rest) (next ())) :
    Emits (Sends ((if c then plan else []) ++ rest)) (if c then step >>= next else next ()) := by
  split
  · exact sends_bind hstep fun _ => hnext
  · exact hnext

theorem sends_silently (hbody : Emits (Sends plan) body) (hnext : ∀ value, Silent (next value)) :
    Emits (Sends plan) (body >>= next) := by
  have h := sends_bind hbody fun value => (hnext value).sends
  rw [List.append_nil] at h
  exact h

theorem sends_lastly {c : Prop} {_ : Decidable c} {step : Dispatch σ Unit}
    {next : Unit → Dispatch σ β} (hstep : Emits (Sends plan) step) (hnext : Silent (next ())) :
    Emits (Sends (if c then plan else [])) (if c then step >>= next else next ()) := by
  split
  · exact sends_silently hstep fun _ => hnext
  · exact hnext.sends

end

end TrapDispatch
