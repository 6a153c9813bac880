import TrapDispatch.Proofs.CallCourse
import TrapDispatch.Proofs.LoadedContexts

/-!
# Rescheduling

What comes of asking the scheduler where to go on: a trap goes on in the whole context that
the scheduler replies with, or in the one at hand. Of a thread that is terminated nothing is
left to go on with, and a scheduler that asks for it ends the kernel. A system call that has
come back is settled by the reschedule that it deferred, or else by the context that it kept.
-/

namespace TrapDispatch

variable {σ : Type}

def callsIn (events : List Event) : List Call :=
  events.filterMap Event.call?

@[simp] theorem callsIn_append (first second : List Event) :
    callsIn (first ++ second) = callsIn first ++ callsIn second :=
  List.filterMap_append

@[simp] theorem callsIn_service (c : Call) (result : Except Stop c.Reply) :
    callsIn [.service c result] = [c] := rfl

theorem mem_callsIn {c : Call} {result : Except Stop c.Reply} {events : List Event}
    (h : .service c result ∈ events) : c ∈ callsIn events :=
  List.mem_filterMap.mpr ⟨_, h, rfl⟩

theorem filter_calls_eq_nil {p : Call → Bool} {events : List Event}
    (h : ∀ c ∈ callsIn events, p c = false) : (callsIn events).filter p = [] := by
  rw [List.filter_eq_nil_iff]
  exact fun c hc => by simp [h c hc]

theorem ownEvents_call {x : Activity} {c : Call} {result : Except Stop c.Reply}
    (hx : x.event = .service c result) : ownEvents [x] = [.service c result] := by
  rw [ownEvents_single (by simp [hx]), hx]

theorem ownEvents_service {x : Activity} {c : Call} {result : Except Stop c.Reply}
    (hx : x.event = .service c result) (older : List Activity) :
    ownEvents (x :: older) = ownEvents older ++ [.service c result] := by
  rw [← ownEvents_call hx]
  exact ownEvents_append [x] older

/-- What is said where the scheduler would go on with a thread that is terminated. -/
def resumedTerminated : String := "scheduler resumed a terminated thread"

/-- What comes of asking the scheduler for a reason, with the frame `shown`. -/
inductive Reschedules (shown : Frame) (reason : ScheduleReason) : RunSpec σ Unit where
  | unanswered {x : Activity} {stop : Stop} {after : Activation σ}
      (hx : x.event = .service (.schedule shown reason) (.error stop)) :
      Reschedules shown reason [x] (.error stop) after
  | switched {x : Activity} {next : Frame} {after : Activation σ}
      (hx : x.event = .service (.schedule shown reason) (.ok (.switch next)))
      (hafter : after.frame = shown.switchTo next) :
      Reschedules shown reason [x] (.ok ()) after
  | resumed {x : Activity} {after : Activation σ}
      (hx : x.event = .service (.schedule shown reason) (.ok .continue))
      (hreason : reason ≠ .terminated) (hafter : after.frame = shown) :
      Reschedules shown reason [x] (.ok ()) after
  | refused {x : Activity} {after : Activation σ}
      (hx : x.event = .service (.schedule shown reason) (.ok .continue))
      (hreason : reason = .terminated) :
      Reschedules shown reason [x] (.error (.panic resumedTerminated)) after

/-- How a system call is settled that has come back: `written` is the frame with its result
written back, and `requests` is what it asked for. -/
inductive Concludes (written : Frame) (requests : CallRequests) : RunSpec σ Unit where
  | stays {after : Activation σ} (hdeferred : requests.deferred = none)
      (hswitch : requests.switch = none) (hafter : after.frame = written) :
      Concludes written requests [] (.ok ()) after
  | switches {next : Frame} {after : Activation σ} (hdeferred : requests.deferred = none)
      (hswitch : requests.switch = some next) (hafter : after.frame = written.switchTo next) :
      Concludes written requests [] (.ok ()) after
  | reschedules {reason : ScheduleReason} {new : List Activity} {result : Except Stop Unit}
      {after : Activation σ} (hdeferred : requests.deferred = some reason)
      (h : Reschedules written reason new result after) :
      Concludes written requests new result after

variable {kernel : Kernel σ} {server : Server σ}

theorem runsAt_reschedules (hserver : server.Still) (reason : ScheduleReason)
    (state : Activation σ) :
    RunsAt (Reschedules state.frame reason) (kernel.reschedule server reason) state := by
  unfold Kernel.reschedule
  apply runsAt_frame
  refine (runsAt_call hserver (.schedule state.frame reason) state).bind ?_ ?_
  · rintro reply middle _ - ⟨x, rfl, hx, hsame⟩
    obtain ⟨hmiddle, -⟩ := hsame ⟨reply, rfl⟩
    cases reply with
    | «continue» =>
      simp only
      split
      next hreason => exact runsAt_of_error [] rfl rfl (.refused hx hreason)
      next hreason => exact runsAt_of_ok [] rfl rfl (.resumed hx hreason hmiddle)
    | switch next =>
      have hswitched : middle.frame.switchTo next = state.frame.switchTo next := by rw [hmiddle]
      exact runsAt_of_ok [] rfl rfl (.switched hx hswitched)
  · rintro stop after _ ⟨x, rfl, hx, -⟩
    exact .unanswered hx

theorem runsAt_concludes (hserver : server.Still) (state : Activation σ) :
    RunsAt (Concludes state.frame state.requests) (kernel.settle server) state := by
  have hdeferred : Kernel.takeDeferred state = .ok state.requests.deferred
      { state with requests.deferred := none } := rfl
  unfold Kernel.settle
  apply runsAt_next _ hdeferred rfl
  cases hreason : state.requests.deferred with
  | some reason =>
    have hasked : RunsAt (Reschedules state.frame reason) (kernel.reschedule server reason)
        { state with requests.deferred := none } := runsAt_reschedules hserver reason _
    exact hasked.mono fun new result after h => .reschedules hreason h
  | none =>
    have hswitch : Kernel.takeSwitch { state with requests.deferred := none } =
        .ok state.requests.switch { state with requests.deferred := none, requests.switch := none } :=
      rfl
    apply runsAt_next _ hswitch rfl
    cases hnext : state.requests.switch with
    | some next => exact runsAt_of_ok [] rfl rfl (.switches hreason hnext rfl)
    | none => exact runsAt_of_ok [] rfl rfl (.stays hreason hnext rfl)

/-- How a trap is left that asked the scheduler for a thread that is terminated, by its
reply: with the context loaded that it replied with, or by a panic. -/
inductive LeavesThread (shown : Frame) :
    Except Stop NextContext → Except Stop Outcome → Frame → Prop where
  | switched {next last : Frame} {outcome : Outcome} (hlast : last = shown.switchTo next)
      (hloads : last.Loads next) : LeavesThread shown (.ok (.switch next)) (.ok outcome) last
  | refused {last : Frame} :
      LeavesThread shown (.ok .continue) (.error (.panic resumedTerminated)) last
  | unanswered {stop : Stop} {last : Frame} :
      LeavesThread shown (.error stop) (.error stop) last

/-- Whether a trap ends a thread: the scheduler is asked once, in the end, with the frame
`shown` and for a thread that is terminated, and its reply decides how the trap is left. -/
def EndsThread (shown : Frame) (events : List Event) (result : Except Stop Outcome)
    (last : Frame) : Prop :=
  ∃ earlier reply, events = earlier ++ [.service (.schedule shown .terminated) reply] ∧
    (∀ c ∈ callsIn earlier, c.isSchedule = false) ∧ LeavesThread shown reply result last

/-- A trap that asks the scheduler last, and for a thread that is terminated, ends it. -/
theorem Reschedules.endsThread {shown : Frame} {new old : List Activity}
    {result : Except Stop Unit} {after : Activation σ} {outcome : Outcome}
    (h : Reschedules shown .terminated new result after)
    (hold : ∀ c ∈ callsIn (ownEvents old), c.isSchedule = false) :
    EndsThread shown (ownEvents (new ++ old)) (result.map fun _ => outcome) after.frame := by
  cases h with
  | unanswered hx => exact ⟨_, _, ownEvents_service hx old, hold, .unanswered⟩
  | switched hx hafter =>
    rw [hafter]
    exact ⟨_, _, ownEvents_service hx old, hold, .switched rfl (shown.loads_switchTo _)⟩
  | resumed hx hreason hafter => exact absurd rfl hreason
  | refused hx hreason => exact ⟨_, _, ownEvents_service hx old, hold, .refused⟩

end TrapDispatch
