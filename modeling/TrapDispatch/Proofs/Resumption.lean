import TrapDispatch.Proofs.Faults

/-!
# Where a trap goes on

A trap that returns goes on in the context that it interrupted, as its outcome asks for,
or in one that the scheduler replied with: to the trap itself, or to the handler of its
system call while that waited. Whenever a trap shows its frame to the scheduler, the
result of its system call has been written back, if there is one.
-/

namespace TrapDispatch

variable {σ α β : Type}

namespace Event

def switch? : Event → Option Frame
  | .service (.schedule _ _) (.ok (.switch next)) => some next
  | _ => none

def callResult? : Event → Option CallResult
  | .systemCall _ _ _ (.ok result) => some result
  | _ => none

def isSystemCall : Event → Bool
  | .systemCall _ _ _ _ => true
  | _ => false

def isHandler : Event → Bool
  | .handler _ _ _ => true
  | _ => false

theorem switch?_of_isCalm {event : Event} (h : event.isCalm = true) : event.switch? = none := by
  cases event with
  | service c result =>
    cases c with
    | schedule shown reason => cases h
    | _ => rfl
  | _ => rfl

theorem callResult?_of_isCalm {event : Event} (h : event.isCalm = true) :
    event.callResult? = none := by
  cases event with
  | systemCall number words caller result => cases h
  | _ => rfl

end Event

/-- The result of the first system call that returned. -/
def callResult (events : List Event) : Option CallResult :=
  events.findSome? Event.callResult?

theorem callResult_append (first second : List Event) :
    callResult (first ++ second) = (callResult first).or (callResult second) :=
  List.findSome?_append

theorem callResult_eq_none {events : List Event} (h : ∀ event ∈ events, event.callResult? = none) :
    callResult events = none :=
  List.findSome?_eq_none_iff.mpr h

namespace Activity

/-- Whether the scheduler replied with a context in the activity. -/
def Replied (x : Activity) (next : Frame) : Prop :=
  ∃ event ∈ TrapDispatch.ownEvents x.inner, event.switch? = some next

/-- Whether the scheduler replied with a context to the handler of the system call that
the activity is. -/
def Waited (x : Activity) (next : Frame) : Prop :=
  x.event.isSystemCall = true ∧ ∃ y ∈ x.inner, y.event.isHandler = true ∧ y.Replied next

end Activity

/-- Bytes that a system call instruction has still to be stepped over. -/
def Arch.callAdvance : Arch → UInt64
  | .riscv64 => 4
  | _ => 0

theorem advance_of_syscall {frame : Frame} {entry : VectorEntry} {convention : Convention}
    (h : Cause.ofTrap frame entry = .syscall convention) :
    convention.advance = frame.arch.callAdvance := by
  unfold Cause.ofTrap at h
  split at h
  · cases h
  split at h
  · cases h
  cases harch : frame.arch with
  | x86_64 =>
    rw [harch] at h
    change X86.decode frame entry = _ at h
    unfold X86.decode at h
    split at h
    · cases h
    · cases h
      split <;> rfl
    · cases h
  | aarch64 =>
    rw [harch] at h
    change Arm.decode frame entry = _ at h
    unfold Arm.decode Arm.decodeSync at h
    split at h
    · cases h
    · cases h
    · cases h
    · split at h
      case h_1 => cases h; rfl
      all_goals cases h
  | riscv64 =>
    rw [harch] at h
    change RiscV.decode frame entry = _ at h
    unfold RiscV.decode at h
    split at h
    · cases h
    · cases h
      rfl
    · cases h

def Frame.afterCall (frame : Frame) : Option CallResult → Frame
  | none => frame
  | some result => (frame.setReturnValue result.encode).advance frame.arch.callAdvance

namespace Kernel

def cause (kernel : Kernel σ) (frame : Frame) : Cause :=
  match kernel.vectors.lookup frame.vector with
  | some entry => Cause.ofTrap frame entry
  | none => .unassigned

theorem cause_of_lookup {kernel : Kernel σ} {frame : Frame} {entry : VectorEntry}
    (h : kernel.vectors.lookup frame.vector = some entry) :
    kernel.cause frame = Cause.ofTrap frame entry := by
  unfold cause
  rw [h]

theorem cause_of_lookup_eq_none {kernel : Kernel σ} {frame : Frame}
    (h : kernel.vectors.lookup frame.vector = none) : kernel.cause frame = .unassigned := by
  unfold cause
  rw [h]

/-- A trap with a cause of its own came through a slot of the table. -/
theorem exists_entry_of_cause {kernel : Kernel σ} {frame : Frame} {cause : Cause}
    (h : kernel.cause frame = cause) (hassigned : cause ≠ .unassigned) :
    ∃ entry, kernel.vectors.lookup frame.vector = some entry ∧
      Cause.ofTrap frame entry = cause := by
  cases hentry : kernel.vectors.lookup frame.vector with
  | none => exact absurd (h.symm.trans (cause_of_lookup_eq_none hentry)) hassigned
  | some entry => exact ⟨entry, rfl, (cause_of_lookup hentry).symm.trans h⟩

theorem advance_of_cause {kernel : Kernel σ} {frame : Frame} {convention : Convention}
    (h : kernel.cause frame = .syscall convention) :
    convention.advance = frame.arch.callAdvance := by
  obtain ⟨entry, -, hkind⟩ := exists_entry_of_cause h nofun
  exact advance_of_syscall hkind

/-- Whether a handler leaves the frame of its caller alone, in all runs that return. -/
def LeavesFrame (kernel : Kernel σ) (server : Server σ) (descriptor : CallDescriptor σ) : Prop :=
  ∀ arguments before value after,
    kernel.handle server descriptor arguments before = .ok value after → after.frame = before.frame

/-- Whether a trap with this frame is no system call, or one whose handler leaves the
frame alone. -/
def CallLeavesFrame (kernel : Kernel σ) (server : Server σ) (frame : Frame) : Prop :=
  ∀ convention descriptor, kernel.cause frame = .syscall convention →
    kernel.syscalls.lookup (convention.numberIn frame) = some descriptor →
    kernel.LeavesFrame server descriptor

/-- The context that a trap interrupted, as it goes on after an outcome. -/
def resumption (kernel : Kernel σ) (frame : Frame) : Outcome → Frame
  | .syscall result => frame.afterCall (some result)
  | _ =>
    if kernel.cause frame = .exception .breakpoint then frame.advance (breakpointLength frame)
    else frame

theorem resumption_of_ne {kernel : Kernel σ} {frame : Frame} {outcome : Outcome}
    (hcause : kernel.cause frame ≠ .exception .breakpoint)
    (houtcome : ∀ result, outcome ≠ .syscall result) : kernel.resumption frame outcome = frame := by
  cases outcome with
  | syscall result => exact absurd rfl (houtcome result)
  | _ => exact if_neg hcause

end Kernel

/-- Where a trap goes on after some events: in a context `base`, in one that the scheduler
replied with, or in one that was kept. -/
inductive Settles (kept : Frame → Prop) (base : Frame) (events : List Event) : Frame → Prop where
  | stays (h : ∀ event ∈ events, event.switch? = none) : Settles kept base events base
  | replied {next : Frame} (hmem : ∃ event ∈ events, event.switch? = some next)
      (h : ∀ event ∈ events, ∀ other, event.switch? = some other → other = next) :
      Settles kept base events (base.switchTo next)
  | kept {next : Frame} (h : ∀ event ∈ events, event.switch? = none) (hkept : kept next) :
      Settles kept base events (base.switchTo next)

namespace Settles

variable {kept weaker : Frame → Prop} {base last : Frame} {events : List Event}

theorem mono (h : Settles kept base events last) (hkept : ∀ next, kept next → weaker next) :
    Settles weaker base events last := by
  cases h with
  | stays h => exact .stays h
  | replied hmem h => exact .replied hmem h
  | kept h hnext => exact .kept h (hkept _ hnext)

theorem preceded (h : Settles kept base events last) {earlier : List Event}
    (hearlier : ∀ event ∈ earlier, event.switch? = none) :
    Settles kept base (earlier ++ events) last := by
  have hnone : (∀ event ∈ events, event.switch? = none) →
      ∀ event ∈ earlier ++ events, event.switch? = none :=
    fun hall event h => (List.mem_append.mp h).elim (hearlier event) (hall event)
  cases h with
  | stays h => exact .stays (hnone h)
  | replied hreply h =>
    obtain ⟨event, hevent, hswitch⟩ := hreply
    refine .replied ⟨event, List.mem_append_right _ hevent, hswitch⟩ fun other hother next hnext => ?_
    rcases List.mem_append.mp hother with hother | hother
    · rw [hearlier other hother] at hnext
      cases hnext
    · exact h other hother next hnext
  | kept h hkept => exact .kept (hnone h) hkept

end Settles

/-- What a part of a trap does about the scheduler: it shows it one frame, for reasons
that are allowed, and if it returns it settles on a context. -/
structure Pursues (allowed : ScheduleReason → Prop) (kept : Frame → Prop) (shown : Frame)
    (base : α → Frame) (new : List Activity) (result : Except Stop α) (after : Activation σ) :
    Prop where
  shows : ∀ event ∈ ownEvents new, event.isCalm = true ∨
    ∃ reason reply, allowed reason ∧ event = .service (.schedule shown reason) reply
  settles : ∀ value, result = .ok value → Settles kept (base value) (ownEvents new) after.frame

namespace Pursues

variable {allowed : ScheduleReason → Prop} {kept : Frame → Prop} {shown : Frame} {base : α → Frame}

theorem of_calm {new : List Activity} {result : Except Stop α} {after : Activation σ}
    (hcalm : AllCalm new) (hresult : ∀ value, result = .ok value → after.frame = base value) :
    Pursues allowed kept shown base new result after where
  shows event h := Or.inl (hcalm event h)
  settles value hvalue := by
    rw [hresult value hvalue]
    exact .stays fun event h => Event.switch?_of_isCalm (hcalm event h)

theorem patient : RunSpec.Patient (Pursues (σ := σ) allowed kept shown base) where
  after {new old result last} hcalm h := by
    have hold : ∀ event ∈ ownEvents old, event.switch? = none :=
      fun event hevent => Event.switch?_of_isCalm (hcalm event hevent)
    refine ⟨fun event hevent => ?_, fun value hvalue => ?_⟩
    · rw [ownEvents_append, List.mem_append] at hevent
      rcases hevent with hevent | hevent
      · exact Or.inl (hcalm event hevent)
      · exact h.shows event hevent
    · rw [ownEvents_append]
      exact (h.settles value hvalue).preceded hold
  cut hcalm := of_calm hcalm fun value hvalue => by cases hvalue

theorem mono {more : ScheduleReason → Prop} {weaker : Frame → Prop} {new : List Activity}
    {result : Except Stop α} {after : Activation σ}
    (h : Pursues allowed kept shown base new result after) (hallowed : ∀ reason, allowed reason → more reason)
    (hkept : ∀ next, kept next → weaker next) : Pursues more weaker shown base new result after where
  shows event hevent := by
    rcases h.shows event hevent with hcalm | ⟨reason, reply, hreason, hschedule⟩
    · exact Or.inl hcalm
    · exact Or.inr ⟨reason, reply, hallowed reason hreason, hschedule⟩
  settles value hvalue := (h.settles value hvalue).mono hkept

theorem giving {body : Dispatch σ β} {state : Activation σ} {frame : Frame} {value : α}
    (h : RunsAt (Pursues allowed kept shown fun _ => frame) body state) (hvalue : base value = frame) :
    RunsAt (Pursues allowed kept shown base) (do let _ ← body; return value) state := by
  refine h.bind ?_ ?_
  · intro last middle old _ hold
    refine runsAt_of_ok [] rfl rfl ⟨hold.shows, ?_⟩
    rintro _ ⟨⟩
    rw [hvalue]
    exact hold.settles last rfl
  · intro stop after new hnew
    exact ⟨hnew.shows, fun value hvalue => by cases hvalue⟩

end Pursues

section

variable {kernel : Kernel σ} {server : Server σ} {cpu : Fin maxCpus} {state : Activation σ}
  {frame : Frame} {base : Outcome → Frame}

theorem runsAt_pure {allowed : ScheduleReason → Prop} {kept : Frame → Prop} {shown : Frame}
    {base : α → Frame} {value : α} (h : state.frame = base value) :
    RunsAt (Pursues allowed kept shown base) (pure value : Dispatch σ α) state :=
  runsAt_of_ok [] rfl rfl (.of_calm allCalm_nil fun _ hvalue => by cases hvalue; exact h)

/-- The scheduler is shown one frame, and its reply is followed. -/
theorem Reschedules.pursues {reason : ScheduleReason} {new : List Activity}
    {result : Except Stop Unit} {after : Activation σ} (h : Reschedules frame reason new result after) :
    Pursues (· = reason) (fun _ => False) frame (fun _ => frame) new result after := by
  have hshows : ∀ {x : Activity} {reply}, x.event = .service (.schedule frame reason) reply →
      ∀ event ∈ ownEvents [x], event.isCalm = true ∨
        ∃ last answer, last = reason ∧ event = .service (.schedule frame last) answer := by
    intro x reply hx event hevent
    rw [ownEvents_call hx, List.mem_singleton] at hevent
    exact Or.inr ⟨reason, reply, rfl, hevent⟩
  cases h with
  | unanswered hx | refused hx _ => exact ⟨hshows hx, fun value hvalue => by cases hvalue⟩
  | switched hx hafter =>
    refine ⟨hshows hx, fun _ _ => ?_⟩
    rw [hafter, ownEvents_call hx]
    refine .replied ⟨_, List.mem_singleton_self _, rfl⟩ fun event hevent other hother => ?_
    cases List.mem_singleton.mp hevent
    cases hother
    rfl
  | resumed hx _ hafter =>
    refine ⟨hshows hx, fun _ _ => ?_⟩
    rw [hafter, ownEvents_call hx]
    exact .stays fun event hevent => by cases List.mem_singleton.mp hevent; rfl

theorem runsAt_reschedule (hserver : server.Still) (hframe : state.frame = frame)
    (reason : ScheduleReason) :
    RunsAt (Pursues (· = reason) (fun _ => False) frame fun _ => frame) (kernel.reschedule server reason)
      state := by
  subst hframe
  exact (runsAt_reschedules hserver reason state).mono fun _ _ _ h => h.pursues

theorem allCalm_call {x : Activity} {c : Call} {result : Except Stop c.Reply}
    (hx : x.event = .service c result) (hc : c.isSchedule = false) : AllCalm [x] := by
  unfold AllCalm
  rw [ownEvents_call hx]
  intro event hevent
  rw [List.mem_singleton.mp hevent]
  exact Event.isCalm_service hc result

theorem Consults.allCalm {address : Address} {access : Access} {new : List Activity}
    {answer : Except Stop Bool} {after : Activation σ}
    (h : Consults frame address access new answer after) : AllCalm new := by
  cases h with
  | windowless hx | forbidden hx _ _ => exact allCalm_call hx rfl
  | undecided hx _ hy | decided hx _ hy _ => exact (allCalm_call hy rfl).append (allCalm_call hx rfl)

theorem EndsFault.pursues {kind : ExceptionKind} {new : List Activity} {result : Except Stop Outcome}
    {after : Activation σ} (h : EndsFault frame kind new result after)
    (hbase : base .threadTerminated = frame) :
    Pursues (· = .terminated) (fun _ => False) frame base new result after := by
  have hcalm : ∀ {asked : List Activity}, AsksNumber asked → AllCalm asked := by
    intro asked hasked
    cases hasked with
    | unasked => exact allCalm_nil
    | asked hx => exact allCalm_call hx rfl
  cases h with
  | kernel => exact Pursues.patient.cut allCalm_nil
  | unnumbered _ hx => exact Pursues.patient.cut (allCalm_call hx rfl)
  | unterminated _ hasked hx =>
    exact Pursues.patient.cut ((allCalm_call hx rfl).append (hcalm hasked))
  | @terminated x asked later ending middle _ _ hasked hx hlater hlast =>
    refine Pursues.patient.after ((allCalm_call hx rfl).append (hcalm hasked)) ?_
    have hthread := hlater.pursues
    refine ⟨hthread.shows, fun outcome houtcome => ?_⟩
    cases ending with
    | error stop => cases houtcome
    | ok done =>
      cases houtcome
      rw [hbase, hlast.1]
      exact hthread.settles done rfl

/-- A fault that returns goes on where it was, or behind a breakpoint, unless the scheduler is
asked. -/
theorem TakesFault.pursues {kind : ExceptionKind} {new : List Activity}
    {result : Except Stop Outcome} {after : Activation σ} (h : TakesFault frame kind new result after)
    (hstepped : kind = .breakpoint → base .resumed = frame.advance (breakpointLength frame))
    (hresumed : kind ≠ .breakpoint → base .resumed = frame)
    (hended : kind ≠ .breakpoint → base .threadTerminated = frame) :
    Pursues (· = .terminated) (fun _ => False) frame base new result after := by
  cases h with
  | stepped hafter =>
    refine .of_calm allCalm_nil ?_
    rintro _ ⟨⟩
    rw [hafter, hstepped rfl]
  | passed hafter =>
    refine .of_calm allCalm_nil ?_
    rintro _ ⟨⟩
    rw [hafter, hresumed (by simp)]
  | undecided hasked => exact Pursues.patient.cut hasked.allCalm
  | resolved hasked hafter =>
    refine .of_calm hasked.allCalm ?_
    rintro _ ⟨⟩
    rw [hafter, hresumed (by simp)]
  | unresolved hasked hends =>
    exact Pursues.patient.after hasked.allCalm (hends.pursues (hended (by simp)))
  | hopeless _ hkind hends => exact hends.pursues (hended fun h => hkind (Or.inl h))

theorem runsAt_defaultFault (hserver : server.Still) (hframe : state.frame = frame)
    (hcause : kernel.cause frame = .unassigned) :
    RunsAt (Pursues (· = .terminated) (fun _ => False) frame (kernel.resumption frame))
      (kernel.defaultFault server cpu) state := by
  have hsame : ∀ outcome, (∀ result, outcome ≠ .syscall result) →
      kernel.resumption frame outcome = frame := fun outcome =>
    Kernel.resumption_of_ne (by simp [hcause])
  refine (runsAt_defaultFault_takesFault hserver hframe).mono fun _ _ _ h => ?_
  exact h.pursues (by simp) (fun _ => hsame _ (by simp)) fun _ => hsame _ (by simp)

theorem runsAt_exception (hserver : server.Still) (hframe : state.frame = frame)
    {kind : ExceptionKind} (hcause : kernel.cause frame = .exception kind) :
    RunsAt (Pursues (· = .terminated) (fun _ => False) frame (kernel.resumption frame))
      (kernel.exception server cpu kind) state := by
  have hsame : kind ≠ .breakpoint → ∀ outcome, (∀ result, outcome ≠ .syscall result) →
      kernel.resumption frame outcome = frame := by
    intro hkind outcome
    refine Kernel.resumption_of_ne ?_
    rw [hcause]
    exact fun h => hkind (Cause.exception.inj h)
  refine (runsAt_exception_takesFault hserver hframe kind).mono fun _ _ _ h => ?_
  refine h.pursues ?_ (fun hkind => hsame hkind _ (by simp)) fun hkind => hsame hkind _ (by simp)
  rintro rfl
  exact if_pos hcause

theorem runsAt_interrupt (hserver : server.Still) (hframe : state.frame = frame)
    (hcause : kernel.cause frame = .interrupt) :
    RunsAt (Pursues (· = .tick) (fun _ => False) frame (kernel.resumption frame)) (kernel.interrupt server cpu)
      state := by
  have hsame : ∀ outcome, (∀ result, outcome ≠ .syscall result) →
      frame = kernel.resumption frame outcome := by
    intro outcome houtcome
    refine (Kernel.resumption_of_ne ?_ houtcome).symm
    rw [hcause]
    exact fun h => by cases h
  unfold Kernel.interrupt
  apply runsAt_frame
  refine Pursues.patient.step (.call hserver rfl) fun pending first _ hfirst _ => ?_
  have hfirst := hfirst.trans hframe
  cases pending with
  | none =>
    refine Pursues.patient.step (.count _) fun _ second _ hsecond _ => ?_
    refine Pursues.patient.step (.recordAt _ _ _) fun _ third _ hthird _ => ?_
    exact runsAt_pure ((hthird.trans (hsecond.trans hfirst)).trans (hsame _ (by simp)))
  | some irq =>
    refine Pursues.patient.step (.opened hserver irq) fun scope second _ hsecond _ => ?_
    refine Pursues.patient.step (.serviceScope hserver cpu scope) fun handled third _ hthird _ => ?_
    have hthird := hthird.trans (hsecond.trans hfirst)
    have houtcome : ∀ result, (if handled then Outcome.irqHandled irq else .unhandled irq) ≠
        .syscall result := by
      intro result
      split <;> simp
    cases kernel.config.isTimer irq with
    | true => exact Pursues.giving (runsAt_reschedule hserver hthird .tick) (hsame _ houtcome).symm
    | false => exact runsAt_pure (hthird.trans (hsame _ houtcome))

/-- A system call settles on the context that it deferred to, or on the one it kept. -/
theorem Concludes.pursues {requests : CallRequests} {new : List Activity} {result : Except Stop Unit}
    {after : Activation σ} (h : Concludes frame requests new result after) :
    Pursues (fun _ => True) (fun next => requests.switch = some next) frame (fun _ => frame) new
      result after := by
  cases h with
  | stays _ _ hafter => exact .of_calm allCalm_nil fun _ _ => hafter
  | switches _ hnext hafter =>
    refine ⟨fun event hevent => (by cases hevent), fun _ _ => ?_⟩
    rw [hafter]
    exact .kept (fun event hevent => by cases hevent) hnext
  | reschedules _ hasked => exact hasked.pursues.mono (fun _ _ => trivial) fun _ h => h.elim

theorem runsAt_settle (hserver : server.Still) (state : Activation σ) :
    RunsAt (Pursues (fun _ => True) (fun next => state.requests.switch = some next) state.frame
      fun _ => state.frame) (kernel.settle server) state :=
  (runsAt_concludes hserver state).mono fun _ _ _ h => h.pursues

end

end TrapDispatch
