import TrapDispatch.Proofs.Rescheduling

/-!
# Faults

The way of a trap that is an exception, or that came through a vector without a meaning. The
memory manager is asked about a page fault on memory that its origin may name. What is not
resolved, and not stepped over, ends the thread that raised it, or the kernel.
-/

namespace TrapDispatch

variable {σ : Type}

def ExceptionKind.report (kind : ExceptionKind) (frame : Frame) : String :=
  s!"{kind.trace} in {frame.privilege.name} mode at " ++ hexMarked frame.counter.toNat
    ++ "\n" ++ frame.trace

/-- Whether a fault ends the kernel: a double fault and a machine check always do, and so does
every fault that is the kernel's own. -/
def ExceptionKind.EndsKernel (kind : ExceptionKind) (frame : Frame) : Prop :=
  kind = .doubleFault ∨ kind = .machineCheck ∨ frame.privilege ≠ .user

theorem ExceptionKind.endsKernel_iff (kind : ExceptionKind) (frame : Frame) :
    kind.EndsKernel frame ↔ kind.isAlwaysFatal = true ∨ frame.privilege ≠ .user := by
  cases kind <;> simp [EndsKernel, isAlwaysFatal]

/-- Whether a trap is stepped over or passed, whoever raised it. -/
def ExceptionKind.IsHarmless (kind : ExceptionKind) : Prop :=
  kind = .breakpoint ∨ kind = .debug

def UserRange.guardFor (window : UserRange) (frame : Frame) : AddressGuard :=
  ⟨window, frame.arch.userTop⟩

/-- What comes of asking whether a page fault can be resolved. The memory manager decides about
it if its origin may name the address in the user window, and is not asked otherwise. -/
inductive Consults (frame : Frame) (address : Address) (access : Access) : RunSpec σ Bool where
  | windowless {x : Activity} {stop : Stop} {after : Activation σ}
      (hx : x.event = .service .userRange (.error stop)) :
      Consults frame address access [x] (.error stop) after
  | forbidden {x : Activity} {window : UserRange} {after : Activation σ}
      (hx : x.event = .service .userRange (.ok window))
      (hguard : (window.guardFor frame).isValid address.word 1 frame.privilege = false)
      (hafter : after.frame = frame) : Consults frame address access [x] (.ok false) after
  | undecided {x y : Activity} {window : UserRange} {stop : Stop} {after : Activation σ}
      (hx : x.event = .service .userRange (.ok window))
      (hguard : (window.guardFor frame).isValid address.word 1 frame.privilege = true)
      (hy : y.event = .service (.resolveFault address access) (.error stop)) :
      Consults frame address access [y, x] (.error stop) after
  | decided {x y : Activity} {window : UserRange} {answer : Bool} {after : Activation σ}
      (hx : x.event = .service .userRange (.ok window))
      (hguard : (window.guardFor frame).isValid address.word 1 frame.privilege = true)
      (hy : y.event = .service (.resolveFault address access) (.ok answer))
      (hafter : after.frame = frame) : Consults frame address access [y, x] (.ok answer) after

/-- What may be asked for the record of a fault: the number of the process. -/
inductive AsksNumber : List Activity → Prop where
  | unasked : AsksNumber []
  | asked {x : Activity} {pid : UInt64} (hx : x.event = .service .pid (.ok pid)) : AsksNumber [x]

/-- What comes of a fault that is fatal: the kernel panics, or the thread is terminated, which
is counted, and the scheduler is asked where to go on. -/
inductive EndsFault (frame : Frame) (kind : ExceptionKind) : RunSpec σ Outcome where
  | kernel {after : Activation σ} (hends : kind.EndsKernel frame) :
      EndsFault frame kind [] (.error (.panic (kind.report frame))) after
  | unnumbered {x : Activity} {stop : Stop} {after : Activation σ} (hends : ¬ kind.EndsKernel frame)
      (hx : x.event = .service .pid (.error stop)) :
      EndsFault frame kind [x] (.error stop) after
  | unterminated {x : Activity} {asked : List Activity} {stop : Stop} {after : Activation σ}
      (hends : ¬ kind.EndsKernel frame) (hasked : AsksNumber asked)
      (hx : x.event = .service (.terminate (.fault kind)) (.error stop)) :
      EndsFault frame kind (x :: asked) (.error stop) after
  | terminated {x : Activity} {asked later : List Activity} {result : Except Stop Unit}
      {after last : Activation σ} (hends : ¬ kind.EndsKernel frame) (hasked : AsksNumber asked)
      (hx : x.event = .service (.terminate (.fault kind)) (.ok ()))
      (hlater : Reschedules frame .terminated later result after) (hlast : after.Untouched last) :
      EndsFault frame kind (later ++ x :: asked)
        (result.map fun _ => .threadTerminated) last

/-- What comes of a fault of a kind. -/
inductive TakesFault (frame : Frame) : ExceptionKind → RunSpec σ Outcome where
  | stepped {after : Activation σ} (hafter : after.frame = frame.advance (breakpointLength frame)) :
      TakesFault frame .breakpoint [] (.ok .resumed) after
  | passed {after : Activation σ} (hafter : after.frame = frame) :
      TakesFault frame .debug [] (.ok .resumed) after
  | undecided {address : Address} {access : Access} {new : List Activity} {stop : Stop}
      {middle after : Activation σ} (h : Consults frame address access new (.error stop) middle) :
      TakesFault frame (.pageFault address access) new (.error stop) after
  | resolved {address : Address} {access : Access} {new : List Activity}
      {middle after : Activation σ} (h : Consults frame address access new (.ok true) middle)
      (hafter : after.frame = frame) :
      TakesFault frame (.pageFault address access) new (.ok .resumed) after
  | unresolved {address : Address} {access : Access} {old new : List Activity}
      {result : Except Stop Outcome} {middle after : Activation σ}
      (h : Consults frame address access old (.ok false) middle)
      (hnew : EndsFault frame (.pageFault address access) new result after) :
      TakesFault frame (.pageFault address access) (new ++ old) result after
  | hopeless {kind : ExceptionKind} {new : List Activity} {result : Except Stop Outcome}
      {after : Activation σ} (hpage : ∀ address access, kind ≠ .pageFault address access)
      (hkind : ¬ kind.IsHarmless) (hnew : EndsFault frame kind new result after) :
      TakesFault frame kind new result after

variable {kernel : Kernel σ} {server : Server σ} {cpu : Fin maxCpus} {state : Activation σ}
  {frame : Frame} {kind : ExceptionKind}

theorem runsAt_terminates (kernel : Kernel σ) (hserver : server.Still) {asked : List Activity}
    (hframe : state.frame = frame) (hends : ¬ kind.EndsKernel frame) (hasked : AsksNumber asked) :
    RunsAt (fun new result after => EndsFault frame kind (new ++ asked) result after)
      (do
        kernel.call server (.terminate (.fault kind))
        Dispatch.count Stats.recordKilled
        kernel.reschedule server .terminated
        return Outcome.threadTerminated) state := by
  refine (runsAt_call hserver (.terminate (.fault kind)) state).bind ?_ ?_
  · rintro ⟨⟩ middle _ - ⟨x, rfl, hx, hsame⟩
    have hmiddle : middle.frame = frame := (hsame ⟨_, rfl⟩).1.trans hframe
    have hcourse : ∀ later result (after : Activation σ), Reschedules frame .terminated later result after →
        EndsFault frame kind (later ++ [x] ++ asked) (result.map fun _ => .threadTerminated)
          after := by
      intro later result after hlater
      rw [List.append_assoc]
      exact .terminated hends hasked hx hlater ⟨rfl, rfl⟩
    have hasks : ∀ counted : Activation σ, counted.frame = frame →
        RunsAt (Reschedules frame .terminated) (kernel.reschedule server .terminated) counted := by
      rintro counted rfl
      exact runsAt_reschedules hserver .terminated counted
    refine runsAt_next () rfl rfl ((hasks _ ?_).bind ?_ ?_)
    · exact hmiddle
    · rintro ⟨⟩ after later - hlater
      exact runsAt_of_ok [] rfl rfl (hcourse later (.ok ()) after hlater)
    · rintro stop after later hlater
      exact hcourse later (.error stop) after hlater
  · rintro stop after _ ⟨x, rfl, hx, -⟩
    exact .unterminated hends hasked hx

theorem runsAt_endsFault (hserver : server.Still) (hframe : state.frame = frame)
    (kind : ExceptionKind) :
    RunsAt (EndsFault frame kind) (kernel.fatalException server kind) state := by
  unfold Kernel.fatalException
  apply runsAt_frame
  rw [hframe]
  split
  next hfatal =>
    exact runsAt_of_error [] rfl rfl (.kernel ((kind.endsKernel_iff frame).mpr hfatal))
  next hspared =>
    have hends : ¬ kind.EndsKernel frame := fun h => hspared ((kind.endsKernel_iff frame).mp h)
    have hmachine : Dispatch.machine state = .ok state.machine state := rfl
    apply runsAt_next _ hmachine rfl
    split
    · refine (runsAt_call hserver .pid state).bind ?_ ?_
      · rintro pid middle _ - ⟨x, rfl, hx, hsame⟩
        have hmiddle : middle.frame = frame := (hsame ⟨pid, rfl⟩).1.trans hframe
        exact runsAt_next () rfl rfl
          (runsAt_terminates kernel hserver hmiddle hends (.asked hx))
      · rintro stop after _ ⟨x, rfl, hx, -⟩
        exact .unnumbered hends hx
    · have hend := runsAt_terminates kernel hserver hframe hends .unasked
      simpa using hend

theorem runsAt_consults (hserver : server.Still) (hframe : state.frame = frame) (address : Address)
    (access : Access) :
    RunsAt (Consults frame address access) (kernel.resolve server address access) state := by
  unfold Kernel.resolve
  apply runsAt_frame
  rw [hframe]
  refine (runsAt_call hserver .userRange state).bind ?_ ?_
  · rintro window first _ - ⟨x, rfl, hx, hsame⟩
    have hfirst : first.frame = frame := (hsame ⟨window, rfl⟩).1.trans hframe
    simp only
    split
    next hguard =>
      refine (runsAt_call hserver (.resolveFault address access) first).mono ?_
      rintro _ result after ⟨y, rfl, hy, hkept⟩
      cases result with
      | ok answer => exact .decided hx hguard hy ((hkept ⟨answer, rfl⟩).1.trans hfirst)
      | error stop => exact .undecided hx hguard hy
    next hguard =>
      exact runsAt_of_ok [] rfl rfl (.forbidden hx (Bool.not_eq_true _ |>.mp hguard) hfirst)
  · rintro stop after _ ⟨x, rfl, hx, -⟩
    exact .windowless hx

theorem runsAt_exception_takesFault (hserver : server.Still) (hframe : state.frame = frame)
    (kind : ExceptionKind) :
    RunsAt (TakesFault frame kind) (kernel.exception server cpu kind) state := by
  unfold Kernel.exception
  refine runsAt_next () rfl rfl ?_
  apply runsAt_frame
  have hfatal : ∀ {kind : ExceptionKind}, (∀ address access, kind ≠ .pageFault address access) →
      ¬ kind.IsHarmless → ∀ middle : Activation σ, middle.frame = frame →
      RunsAt (TakesFault frame kind) (kernel.fatalException server kind) middle := by
    intro kind hpage hkind middle hmiddle
    exact (runsAt_endsFault hserver hmiddle kind).mono fun _ _ _ h => .hopeless hpage hkind h
  cases kind with
  | pageFault address access =>
    have hconsults : ∀ middle : Activation σ, middle.frame = frame →
        RunsAt (Consults frame address access) (kernel.resolve server address access) middle :=
      fun middle hmiddle => runsAt_consults hserver hmiddle address access
    refine RunsAt.bind (hconsults _ ?_) ?_ ?_
    · exact hframe
    · intro answer middle old _ hold
      cases answer with
      | true =>
        have hmiddle : middle.frame = frame := by
          cases hold with
          | decided _ _ _ hafter => exact hafter
        refine runsAt_next () rfl rfl (runsAt_of_ok [] rfl rfl (.resolved hold ?_))
        exact hmiddle
      | false =>
        have hmiddle : middle.frame = frame := by
          cases hold with
          | forbidden _ _ hafter => exact hafter
          | decided _ _ _ hafter => exact hafter
        exact (runsAt_endsFault hserver hmiddle _).mono fun _ _ _ h => .unresolved hold h
    · intro stop after new h
      exact .undecided h
  | breakpoint =>
    refine runsAt_next () rfl rfl (runsAt_next () rfl rfl (runsAt_of_ok [] rfl rfl (.stepped ?_)))
    change state.frame.advance (breakpointLength state.frame) = _
    rw [hframe]
  | debug => exact runsAt_next () rfl rfl (runsAt_of_ok [] rfl rfl (.passed hframe))
  | _ =>
    refine hfatal (by simp) (by simp [ExceptionKind.IsHarmless]) _ ?_
    exact hframe

theorem EndsFault.untouched {new : List Activity} {result : Except Stop Outcome}
    {middle after : Activation σ} (hafter : middle.Untouched after)
    (h : EndsFault frame kind new result middle) : EndsFault frame kind new result after := by
  cases h with
  | kernel hends => exact .kernel hends
  | unnumbered hends hx => exact .unnumbered hends hx
  | unterminated hends hasked hx => exact .unterminated hends hasked hx
  | terminated hends hasked hx hlater hlast =>
    exact .terminated hends hasked hx hlater (hlast.trans hafter)

theorem TakesFault.untouched {new : List Activity} {result : Except Stop Outcome}
    {middle after : Activation σ} (hafter : middle.Untouched after)
    (h : TakesFault frame kind new result middle) : TakesFault frame kind new result after := by
  cases h with
  | stepped hframe => exact .stepped (hafter.1.trans hframe)
  | passed hframe => exact .passed (hafter.1.trans hframe)
  | undecided h => exact .undecided h
  | resolved h hframe => exact .resolved h (hafter.1.trans hframe)
  | unresolved h hnew => exact .unresolved h (hnew.untouched hafter)
  | hopeless hpage hkind hnew => exact .hopeless hpage hkind (hnew.untouched hafter)

theorem runsAt_defaultFault_takesFault (hserver : server.Still) (hframe : state.frame = frame) :
    RunsAt (TakesFault frame (.other frame.vector)) (kernel.defaultFault server cpu) state := by
  have hfatal : ∀ middle : Activation σ, middle.frame = frame →
      RunsAt (TakesFault frame (.other frame.vector))
        (kernel.fatalException server (.other frame.vector)) middle := fun middle hmiddle =>
    (runsAt_endsFault hserver hmiddle _).mono fun _ _ _ h =>
      .hopeless (by simp) (by simp [ExceptionKind.IsHarmless]) h
  unfold Kernel.defaultFault
  refine runsAt_next () rfl rfl ?_
  apply runsAt_frame
  refine runsAt_next () rfl rfl ?_
  rw [← hframe] at hfatal ⊢
  exact hfatal _ rfl

end TrapDispatch
