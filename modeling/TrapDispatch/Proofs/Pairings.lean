import Mathlib.Data.List.Forall2
import TrapDispatch.Proofs.CallTraps
import TrapDispatch.Proofs.Lockstep

/-!
# Pairs of kernels

Two kernels side by side, which may be for different architectures. They go on alike as long as
they stand alike: in the same dispatch states, with the same registrations and requests, and
with worlds of their services that correspond. Neither frames nor counters nor logs need to be
the same for that. The calls that they make to services are recorded along with it.
-/

namespace TrapDispatch

mutual

/-- The calls that are made in an activity, but not by a service. -/
def Activity.calls : Activity → List Call
  | ⟨event, _, inner, _⟩ =>
    match event.call? with
    | some c => [c]
    | none => callsMade inner

/-- The calls that are made in a journal, oldest first. -/
def callsMade : List Activity → List Call
  | [] => []
  | x :: older => callsMade older ++ x.calls

end

theorem Activity.calls_eq {x : Activity} (h : x.event.call? = none) :
    x.calls = callsMade x.inner := by
  obtain ⟨event, before, inner, after⟩ := x
  unfold calls
  rw [h]

mutual

theorem Activity.mem_calls (x : Activity) {c : Call} {reply : Except Stop c.Reply}
    (h : .service c reply ∈ x.ownEvents) : c ∈ x.calls := by
  cases x with
  | mk event before inner after =>
    cases event with
    | scope irq claimed => exact mem_callsMade inner h
    | service d result =>
      cases List.mem_singleton.mp h
      exact List.mem_singleton_self c
    | _ => cases List.mem_singleton.mp h

/-- What a trap itself calls is among the calls that were made. -/
theorem mem_callsMade (new : List Activity) {c : Call} {reply : Except Stop c.Reply}
    (h : .service c reply ∈ ownEvents new) : c ∈ callsMade new := by
  cases new with
  | nil => cases h
  | cons x older =>
    rw [ownEvents, List.mem_append] at h
    rw [callsMade, List.mem_append]
    exact h.imp (mem_callsMade older) x.mem_calls

end

/-- Whether a frame that a call shows the scheduler, if it does, is of an architecture. -/
def Call.Shows (c : Call) (arch : Arch) : Prop :=
  ∀ shown reason, c = .schedule shown reason → shown.arch = arch

/-- How two kernels stand to each other: the architectures of their traps, and which worlds of
their services correspond. -/
structure Pairing (σ : Type) where
  first : Arch
  second : Arch
  worlds : σ → σ → Prop

/-- Whether two replies of a scheduler are the same, contexts aside. -/
inductive NextContext.Alike : NextContext → NextContext → Prop where
  | continue : Alike .continue .continue
  | switch (next other : Frame) : Alike (.switch next) (.switch other)

namespace Pairing

variable {σ α β : Type} (pairing : Pairing σ)

structure Frames (frame other : Frame) : Prop where
  first : frame.arch = pairing.first
  second : other.arch = pairing.second

inductive Calls : Call → Call → Prop where
  | schedule {frame other : Frame} (reason : ScheduleReason) (h : pairing.Frames frame other) :
      Calls (.schedule frame reason) (.schedule other reason)
  | same {c : Call} (h : c.isSchedule = false) : Calls c c

structure Machines (machine other : Machine σ) : Prop where
  slots : machine.slots = other.slots
  registry : machine.registry = other.registry
  registryLocked : machine.registryLocked = other.registryLocked
  installed : machine.installed = other.installed
  world : pairing.worlds machine.world other.world

structure Requests (requests other : CallRequests) : Prop where
  deferred : requests.deferred = other.deferred
  switch : requests.switch.isSome = other.switch.isSome
  interruptible : requests.interruptible = other.interruptible

/-- Whether two journals go on from two older ones with the same calls. -/
def GoOn (old older journal other : List Activity) : Prop :=
  ∃ new newer, journal = new ++ old ∧ other = newer ++ older ∧
    List.Forall₂ pairing.Calls (callsMade new) (callsMade newer)

/-- Whether two traps stand alike, with related frames, and have made the same calls since their
journals were these. -/
structure States (old older : List Activity) (frames : Frame → Frame → Prop) (a b : Activation σ) :
    Prop where
  frames : frames a.frame b.frame
  requests : Requests a.requests b.requests
  machines : pairing.Machines a.machine b.machine
  calls : pairing.GoOn old older a.machine.journal b.machine.journal

/-- Whether two computations take traps that stand alike to traps that stand alike. -/
abbrev Keeps (old older : List Activity) (frames : Frame → Frame → Prop) (values : α → β → Prop)
    (first : Dispatch σ α) (second : Dispatch σ β) : Prop :=
  Lockstep (pairing.States old older frames) (pairing.States old older frames) values first second

/-- Whether two computations of services do alike on machines that stand alike. -/
def Serves (replies : α → β → Prop) (first : Dispatch σ α) (second : Dispatch σ β) : Prop :=
  Lockstep (fun a b => pairing.Machines a.machine b.machine)
    (fun a b => pairing.Machines a.machine b.machine) replies first second

variable {pairing}

theorem GoOn.refl (old older : List Activity) : pairing.GoOn old older old older :=
  ⟨[], [], rfl, rfl, .nil⟩

theorem GoOn.cons {old older journal other : List Activity} {x y : Activity}
    (h : pairing.GoOn old older journal other)
    (hcalls : List.Forall₂ pairing.Calls x.calls y.calls) :
    pairing.GoOn old older (x :: journal) (y :: other) := by
  obtain ⟨new, newer, rfl, rfl, hnew⟩ := h
  exact ⟨x :: new, y :: newer, rfl, rfl, List.rel_append hnew hcalls⟩

theorem Calls.shows {c d : Call} (h : pairing.Calls c d) :
    c.Shows pairing.first ∧ d.Shows pairing.second := by
  cases h with
  | schedule reason h =>
    refine ⟨?_, ?_⟩
    · rintro _ _ ⟨⟩
      exact h.first
    · rintro _ _ ⟨⟩
      exact h.second
  | same h =>
    have hshows : ∀ arch, c.Shows arch := by
      rintro arch shown reason rfl
      cases h
    exact ⟨hshows _, hshows _⟩

theorem shows_of_calls {calls others : List Call} (h : List.Forall₂ pairing.Calls calls others) :
    (∀ c ∈ calls, c.Shows pairing.first) ∧ ∀ d ∈ others, d.Shows pairing.second := by
  induction h with
  | nil => exact ⟨List.forall_mem_nil _, List.forall_mem_nil _⟩
  | cons hcall _ ih =>
    exact ⟨List.forall_mem_cons.mpr ⟨hcall.shows.1, ih.1⟩,
      List.forall_mem_cons.mpr ⟨hcall.shows.2, ih.2⟩⟩

theorem GoOn.callsMade {journal other : List Activity} (h : pairing.GoOn [] [] journal other) :
    List.Forall₂ pairing.Calls (callsMade journal) (callsMade other) := by
  obtain ⟨new, newer, rfl, rfl, hnew⟩ := h
  rw [List.append_nil, List.append_nil]
  exact hnew

section

variable {old older : List Activity} {frames : Frame → Frame → Prop}

theorem lockstep_frame : pairing.Keeps old older frames frames Dispatch.frame Dispatch.frame :=
  fun _ _ h => .returned h.frames h

theorem lockstep_requests :
    pairing.Keeps old older frames Requests Dispatch.requests Dispatch.requests :=
  fun _ _ h => .returned h.requests h

theorem lockstep_machine :
    pairing.Keeps old older frames pairing.Machines Dispatch.machine Dispatch.machine :=
  fun _ _ h => .returned h.machines h

theorem lockstep_modifyFrame {others : Frame → Frame → Prop} {change change' : Frame → Frame}
    (h : ∀ f g, frames f g → others (change f) (change' g)) :
    Lockstep (pairing.States old older frames) (pairing.States old older others) (· = ·)
      (Dispatch.modifyFrame change) (Dispatch.modifyFrame change') :=
  fun _ _ hstate => .returned rfl { hstate with frames := h _ _ hstate.frames }

theorem lockstep_modifyRequests {change change' : CallRequests → CallRequests}
    (h : ∀ r q, Requests r q → Requests (change r) (change' q)) :
    pairing.Keeps old older frames (· = ·) (Dispatch.modifyRequests change)
      (Dispatch.modifyRequests change') :=
  fun _ _ hstate => .returned rfl { hstate with requests := h _ _ hstate.requests }

theorem lockstep_modifyMachine {change change' : Machine σ → Machine σ}
    (h : ∀ m n, pairing.Machines m n → pairing.Machines (change m) (change' n))
    (hjournal : ∀ m, (change m).journal = m.journal)
    (hjournal' : ∀ m, (change' m).journal = m.journal) :
    pairing.Keeps old older frames (· = ·) (Dispatch.modifyMachine change)
      (Dispatch.modifyMachine change') := by
  intro a b hstate
  refine .returned rfl { hstate with machines := h _ _ hstate.machines, calls := ?_ }
  change pairing.GoOn old older (change a.machine).journal (change' b.machine).journal
  rw [hjournal, hjournal']
  exact hstate.calls

theorem lockstep_recordAt (level level' : Level) (target target' text text' : String) :
    pairing.Keeps old older frames (· = ·) (recordAt level target text : Dispatch σ Unit)
      (recordAt level' target' text') := by
  intro a b hstate
  exact .returned rfl { hstate with machines := { hstate.machines with } }

theorem lockstep_count (change change' : Stats → Stats) :
    pairing.Keeps old older frames (· = ·) (Dispatch.count (σ := σ) change)
      (Dispatch.count change') :=
  lockstep_modifyMachine (fun _ _ h => { h with }) (fun _ => rfl) fun _ => rfl

theorem lockstep_setSlot (cpu : Fin maxCpus) (change : CpuSlot → CpuSlot) :
    pairing.Keeps old older frames (· = ·) (Dispatch.setSlot (σ := σ) cpu change)
      (Dispatch.setSlot cpu change) := by
  refine lockstep_modifyMachine (fun m n h => { h with slots := ?_ }) (fun _ => rfl) fun _ => rfl
  change m.slots.put cpu (change (m.slots.get cpu)) = n.slots.put cpu (change (n.slots.get cpu))
  rw [h.slots]

theorem lockstep_fatal {values : α → β → Prop} {after : Activation σ → Activation σ → Prop}
    (text text' : String) :
    Lockstep (pairing.States old older frames) after values (Dispatch.fatal text)
      (Dispatch.fatal text') :=
  (lockstep_recordAt _ _ _ _ _ _).bind fun _ _ _ => .throw

/-- Whatever two computations do in the course of activities of one kind is done alike in the
whole. -/
theorem lockstep_during {others : Frame → Frame → Prop} {values : α → β → Prop}
    {event : Except Stop α → Event} {event' : Except Stop β → Event}
    {body : Dispatch σ α} {body' : Dispatch σ β}
    (hevent : ∀ result, (event result).call? = none)
    (hevent' : ∀ result, (event' result).call? = none)
    (h : Lockstep (pairing.States [] [] frames) (pairing.States [] [] others) values body body') :
    Lockstep (pairing.States old older frames) (pairing.States old older others) values
      (Dispatch.during event body) (Dispatch.during event' body') := by
  intro a b hstate
  have hstart : pairing.States [] [] frames { a with machine.journal := [] }
      { b with machine.journal := [] } :=
    { hstate with machines := { hstate.machines with }, calls := .refl [] [] }
  have hends := h _ _ hstart
  unfold Dispatch.during
  generalize body _ = left at hends
  generalize body' _ = right at hends
  cases hends with
  | stopped => exact .stopped
  | returned hvalue hinner =>
    refine .returned hvalue { hinner with machines := { hinner.machines with }, calls := ?_ }
    refine hstate.calls.cons ?_
    rw [Activity.calls_eq (hevent _), Activity.calls_eq (hevent' _)]
    exact hinner.calls.callsMade

variable {kernel other : Kernel σ} {server server' : Server σ}

/-- The same call, frames aside, is answered alike if the programs behind it do alike. -/
theorem lockstep_call (hstill : server.Still) (hstill' : server'.Still) {c d : Call}
    (hcalls : pairing.Calls c d) {replies : c.Reply → d.Reply → Prop}
    (h : pairing.Serves replies (server.run (kernel.services.perform c))
      (server'.run (other.services.perform d))) :
    pairing.Keeps old older frames replies (kernel.call server c) (other.call server' d) := by
  intro a b hstate
  have hends := h { a with machine.journal := [] } { b with machine.journal := [] }
    { hstate.machines with }
  unfold Kernel.call Dispatch.during
  generalize hleft : server.run (kernel.services.perform c) _ = left at hends
  generalize hright : server'.run (other.services.perform d) _ = right at hends
  cases hends with
  | stopped => exact .stopped
  | returned hvalue hmachines =>
    obtain ⟨hframe, hrequests, -⟩ := hstill.run _ _ _ _ hleft
    obtain ⟨hframe', hrequests', -⟩ := hstill'.run _ _ _ _ hright
    refine .returned hvalue ⟨?_, ?_, { hmachines with }, ?_⟩
    · rw [hframe, hframe']
      exact hstate.frames
    · rw [hrequests, hrequests']
      exact hstate.requests
    · exact hstate.calls.cons (.cons hcalls .nil)

end

end Pairing

end TrapDispatch
