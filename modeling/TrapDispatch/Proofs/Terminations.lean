import TrapDispatch.Proofs.FaultOutcomes
import TrapDispatch.Proofs.HandledCalls

/-!
# Terminated threads

A thread ends for a fault that it raised, or because the handler of its system call asked for
it. Whatever else the handler asked for, the last thing that the trap does then is to ask the
scheduler where to go on instead, and there is no way back into the thread: the trap goes on
in the whole context of the reply, or it panics.
-/

namespace TrapDispatch

variable {σ : Type} {kernel : Kernel σ} {frame last : Frame} {kind : ExceptionKind}
  {events : List Event} {result : Except Stop Outcome}

/-- Whether requests of a handler end its thread: it asks for a reschedule of a thread that is
terminated, and takes no reschedule back. -/
def AsksToEnd (made : List (HandlerRequest σ)) : Prop :=
  .defer .terminated ∈ made ∧ .takeDeferred ∉ made

/-- How a trap is left whose call has ended its thread, with the frame `written`. -/
inductive EndsCall (written : Frame) (events : List Event) (result : Except Stop Outcome)
    (last : Frame) : Prop where
  | unclosed {stop : Stop} (hresult : result = .error stop)
      (hfailed : .service .disableInterrupts (.error stop) ∈ events)
      (hunasked : ∀ c ∈ callsIn events, c.isSchedule = false)
  | ended (h : EndsThread written events result last)

/-- What a trap does about its thread, of which an activity is the run of its handler. -/
structure Kernel.EndsWith (kernel : Kernel σ) (server : Server σ) (convention : Convention)
    (z : Activity) (descriptor : CallDescriptor σ) (arguments : Arguments) (before : Activation σ)
    (ending : Except Stop CallResult) (left : Activation σ) (events : List Event)
    (result : Except Stop Outcome) (last : Frame) : Prop where
  stopped : ∀ stop, ending = .error stop → result = .error stop ∧
    ∀ c ∈ callsIn events, c.isSchedule = false
  waited : (∃ value, ending = .ok value) → ∀ c ∈ callsIn (ownEvents z.inner), c.isSchedule = true →
    ∃ shown, c = .schedule shown .blocked
  exited : (∃ value, ending = .ok value) → descriptor.handler = CallHandler.exit →
    (callsIn (ownEvents z.inner)).filter Call.isTermination =
      [.terminate (.exit (arguments.int 0).toInt64.toInt32)]
  ended : ∀ value, ending = .ok value → descriptor.handler = CallHandler.exit ∨
      AsksToEnd (kernel.requestsOf server descriptor arguments before) →
    EndsCall (convention.writeBack left.frame value) events result last

/-- A fault terminates a thread at most once, and for what it was; and if it does, the thread
ends. -/
theorem AnswersFault.endsThread (h : AnswersFault frame kind events result last)
    {reason : Termination} {reply : Except Stop Unit}
    (hmem : .service (.terminate reason) reply ∈ events) :
    (callsIn events).filter Call.isTermination = [.terminate (.fault kind)] ∧
      (reply = .ok () → EndsThread frame events result last) := by
  have hterminates : .terminate reason ∈ (callsIn events).filter Call.isTermination :=
    List.mem_filter.mpr ⟨mem_callsIn hmem, rfl⟩
  have hunspared : ¬ (kind.IsHarmless ∨ Resolved events) := by
    intro hspared
    cases (h.spared hspared _ (mem_callsIn hmem)).1
  rw [not_or] at hunspared
  cases h.left hunspared.1 hunspared.2 with
  | kernel _ _ hspared => cases (hspared _ (mem_callsIn hmem)).1
  | cut _ _ _ hkept hprefix =>
    refine ⟨?_, fun hreply => ?_⟩
    · rcases List.prefix_cons_iff.mp hprefix with hnil | ⟨rest, hrest, hsub⟩
      · rw [hnil] at hterminates
        cases hterminates
      · rw [hrest, List.prefix_nil.mp hsub]
    · rw [hreply] at hmem
      exact absurd hmem (hkept reason)
  | thread _ hone _ hthread => exact ⟨hone, fun _ => hthread⟩

theorem exit_ends {depth : Nat} {descriptor : CallDescriptor σ} {arguments : Arguments}
    {before left : Activation σ} {value : CallResult}
    (hexit : descriptor.handler = CallHandler.exit)
    (hrun : (kernel.handle (kernel.server depth) descriptor arguments).Ends before (.ok value) left)
    (hjournal : before.machine.journal = []) :
    left.requests.deferred = some .terminated ∧
      callsIn (ownEvents left.machine.journal) =
        [.terminate (.exit (arguments.int 0).toInt64.toInt32)] := by
  let status := (arguments.int 0).toInt64.toInt32
  let note : Record := ⟨.debug, LogTarget.syscall, s!"syscall: exit({status})"⟩
  unfold Kernel.handle at hrun
  rw [hexit] at hrun
  have hsteps : (do
      (kernel.server depth).reply (.log note)
      kernel.call (kernel.server depth) (.terminate (.exit status))
      Dispatch.modifyRequests (·.defer .terminated)
      return .ok 0 : Dispatch σ CallResult) before = .ok value left := hrun
  obtain ⟨_, first, hlog, hrest⟩ := Dispatch.exists_of_bind hsteps
  obtain ⟨_, second, hcall, hlast⟩ := Dispatch.exists_of_bind hrest
  obtain ⟨new, hnew, x, rfl, hx, hsame⟩ :=
    (runsAt_call (kernel.server_still depth) (.terminate (.exit status)) first).returned hcall
  have hfirst : first.machine.journal = [] := by
    cases depth with
    | zero => cases hlog
    | succ depth =>
      cases hlog
      exact hjournal
  cases hlast
  constructor
  · change (second.requests.defer .terminated).deferred = _
    unfold CallRequests.defer
    split
    next h => exact h
    next => rfl
  · change callsIn (ownEvents second.machine.journal) = _
    rw [hnew, hfirst, List.append_nil, ownEvents_call hx]
    rfl

/-- A trap that is told to end its thread ends it. -/
theorem Convention.FollowsUp.endsCall {convention : Convention} {left after : Activation σ}
    {value : CallResult} {new : List Activity}
    (h : convention.FollowsUp left value new result after)
    (hdeferred : left.requests.deferred = some .terminated) :
    EndsCall (convention.writeBack left.frame value) (ownEvents new) result after.frame := by
  cases h with
  | unclosed hfailed hunasked => exact .unclosed rfl hfailed hunasked
  | @settled old later ending middle _ hunasked hlater hafter =>
    cases hlater with
    | stays hnone | switches hnone =>
      rw [hdeferred] at hnone
      cases hnone
    | reschedules hsome hasked =>
      rw [hdeferred] at hsome
      cases hsome
      rw [hafter.1]
      exact .ended (hasked.endsThread hunasked)

/-- A terminated thread is never resumed. A trap terminates a thread for a fault once, and for
what the fault was. A trap whose handler is exit, or asks to end its thread, whatever else it
asks for, shows the scheduler the frame with its result written back. Either way the scheduler
is asked once, last, and where the trap goes on it is in the context of its reply. Only a
service that fails before that keeps the trap from asking, and then it does not go on. -/
theorem terminated_threads_never_resume (kernel : Kernel σ) {depth : Nat} {machine : Machine σ}
    {x : Activity} (hx : kernel.Takes depth frame machine x) :
    let run := kernel.takeTrap depth frame machine
    (∀ kind, kernel.faultKind? frame = some kind → ∀ reason reply,
      .service (.terminate reason) reply ∈ ownEvents x.inner →
      (callsIn (ownEvents x.inner)).filter Call.isTermination = [.terminate (.fault kind)] ∧
        (reply = .ok () → EndsThread frame (ownEvents x.inner) run.result run.frame)) ∧
    ∀ convention, kernel.cause frame = .syscall convention →
      ∀ y ∈ x.inner, y.event.isSystemCall = true → ∀ z ∈ y.inner, z.event.isHandler = true →
      ∃ descriptor arguments before ending left,
        kernel.syscalls.lookup (convention.numberIn frame) = some descriptor ∧
        kernel.RunsHandler (kernel.server depth) frame z descriptor arguments before ending left ∧
        kernel.EndsWith (kernel.server depth) convention z descriptor arguments before ending left
          (ownEvents x.inner) run.result run.frame := by
  intro run
  refine ⟨fun kind hkind reason reply hmem => ?_, fun convention hcause y hy hsystem z hz hhandler => ?_⟩
  · obtain ⟨last, hfault, hlast⟩ := hx.takesFault hkind
    rw [← hlast]
    exact hfault.answers.endsThread hmem
  · obtain ⟨last, hcall, hlast⟩ := hx.takesCall hcause
    obtain ⟨descriptor, arguments, before, ending, left, hlookup, hruns, hstopped, hreturned⟩ :=
      hcall y hy hsystem z hz hhandler
    refine ⟨descriptor, arguments, before, ending, left, hlookup, hruns, ?_⟩
    rw [← hlast]
    constructor
    case stopped => exact hstopped
    case waited =>
      rintro ⟨value, rfl⟩ c hc hschedule
      obtain ⟨hwaited, -⟩ := hruns.waits
      obtain ⟨shown, hshown, -⟩ := hwaited c hc hschedule
      exact ⟨shown, hshown⟩
    case exited =>
      rintro ⟨value, rfl⟩ hexit
      rw [hruns.inner_eq, (exit_ends hexit hruns.run_eq hruns.journal_eq).2]
      rfl
    case ended =>
      rintro value rfl hends
      refine (hreturned value rfl).endsCall ?_
      rcases hends with hexit | hasks
      · exact (exit_ends hexit hruns.run_eq hruns.journal_eq).1
      · obtain ⟨-, hdeferred, -⟩ := hruns.waits
        rw [hdeferred]
        exact foldl_deferring_terminated hasks.1 hasks.2 none

/-- Services with a scheduler that chooses by the frame and the reason alone. -/
def Services.choosing (choose : Frame → ScheduleReason → NextContext) : Services Unit where
  controllerName := "choosing"
  perform
    | .schedule shown reason => return choose shown reason
    | c => (Services.plain ⟨3⟩ (pure ())).perform c

def Kernel.choosing (choose : Frame → ScheduleReason → NextContext) (descriptor : CallDescriptor Unit) :
    Kernel Unit where
  vectors := ⟨.riscv64, 0⟩
  services := .choosing choose
  syscalls := ((SyscallTable.insertAll {} (CallDescriptor.builtin ++ [descriptor])).toOption).getD {}
  config := {}

/-- A call that waits, ends its thread, and then yields. -/
def CallDescriptor.quit : CallDescriptor Unit where
  shape := { number := 5, name := "quit" }
  handler _ := do
    let frame ← HandlerProgram.ask .frame
    let _ ← HandlerProgram.ask (.block frame)
    .ask (.defer .terminated)
    .ask (.defer .yield)
    return .ok 0

/-- The scheduler goes on elsewhere while the call waits, and once more after its thread has
ended. -/
def switchingTo (waiting ended : Frame) : Frame → ScheduleReason → NextContext
  | _, .blocked => .switch waiting
  | _, .terminated => .switch ended
  | _, _ => .continue

def otherContext : Frame :=
  (RawFrame.riscV (yieldingAt 0x2000)).capture

/-- The context that was chosen while the call waited does not matter, nor that it yields in
the end: its thread is over, and the raw frame of the trap is left as that of the other program. -/
theorem quitting_thread_ends :
    let kernel := Kernel.choosing (switchingTo firstShown otherContext) .quit
    let frame := (RawFrame.riscV (.calling 5 0x1000)).capture
    let run := kernel.takeTrap 1 frame { world := () }
    (RawFrame.riscV (.calling 5 0x1000)).restore run.frame = .riscV (.calling 3 0x2000) ∧
      ∃ x, kernel.Takes 1 frame { world := () } x ∧
        EndsThread (RiscV.ecallConvention.writeBack frame (.ok 0)) (ownEvents x.inner) run.result
          run.frame := by
  intro kernel frame run
  have hreturned : run.result = .ok (.syscall (.ok 0)) := by
    apply Except.eq_ok_of_toOption
    decide +kernel
  have hcause : kernel.cause frame = .syscall RiscV.ecallConvention := by
    decide +kernel
  have hhandled : run.machine.journal.head?.map Activity.isHandled = some true := by
    decide +kernel
  have hrestored : (RawFrame.riscV (.calling 5 0x1000)).restore run.frame =
      .riscV (.calling 3 0x2000) := by
    decide +kernel
  obtain ⟨x, hx⟩ := Kernel.exists_takes hreturned
  have hrun : kernel.takeTrap 1 frame { world := () } = run := rfl
  have hhead := hx.head?
  obtain ⟨-, hcalls⟩ := terminated_threads_never_resume kernel hx
  -- From here on the run is opaque: all that is needed of it has been evaluated.
  rw [hrun] at hhead hcalls
  clear_value run
  rw [hhead, Option.map_some, Option.some.injEq] at hhandled
  obtain ⟨y, hy, hsystem, z, hz, hhandler⟩ := Activity.exists_of_isHandled hhandled
  obtain ⟨descriptor, arguments, before, ending, left, hlookup, hruns, hends⟩ :=
    hcalls _ hcause y hy hsystem z hz hhandler
  have hquit : kernel.syscalls.lookup (RiscV.ecallConvention.numberIn frame) = some .quit := rfl
  cases hquit.symm.trans hlookup
  refine ⟨hrestored, x, hx, ?_⟩
  obtain ⟨machine, rfl⟩ := hruns.exists_before
  cases ending with
  | error stop => cases hreturned.symm.trans (hends.stopped stop rfl).1
  | ok value =>
    cases hruns.run_eq
    have hasks : AsksToEnd (kernel.requestsOf (kernel.server 1) .quit arguments
        ⟨frame, {}, machine⟩) := by
      have hmade : kernel.requestsOf (kernel.server 1) .quit arguments ⟨frame, {}, machine⟩ =
          [.frame, .block frame, .defer .terminated, .defer .yield] := rfl
      unfold AsksToEnd
      rw [hmade]
      simp
    cases hends.ended _ rfl (.inr hasks) with
    | unclosed hstopped => cases hreturned.symm.trans hstopped
    | ended hended => exact hended

end TrapDispatch
