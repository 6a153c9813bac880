import TrapDispatch.Proofs.CallTraps
import TrapDispatch.Proofs.UserPointers

/-!
# Calls that are entered

A call either gives an error before its handler, or enters the handler with the
arguments that both checks made of the registers. What a handler does from every
state is then what such a call does.
-/

namespace TrapDispatch

variable {σ α β : Type} {kernel : Kernel σ} {server : Server σ}

theorem RunsAt.and {first second : RunSpec σ α} {body : Dispatch σ α} {state : Activation σ}
    (hfirst : RunsAt first body state) (hsecond : RunsAt second body state) :
    RunsAt (fun new result after => first new result after ∧ second new result after)
      body state := by
  cases hrun : body state with
  | ok value after =>
    obtain ⟨new, hnew, h⟩ := hfirst.returned hrun
    obtain ⟨new', hnew', h'⟩ := hsecond.returned hrun
    rw [hnew, List.append_cancel_right_eq] at hnew'
    exact runsAt_of_ok new hrun hnew ⟨h, hnew' ▸ h'⟩
  | error stop after =>
    obtain ⟨new, hnew, h⟩ := hfirst.stopped hrun
    obtain ⟨new', hnew', h'⟩ := hsecond.stopped hrun
    rw [hnew, List.append_cancel_right_eq] at hnew'
    exact runsAt_of_error new hrun hnew ⟨h, hnew' ▸ h'⟩

theorem RunsAt.of_ends {spec : RunSpec σ α} {body : Dispatch σ α} {before after : Activation σ}
    {result : Except Stop α} (h : RunsAt spec body before) (hends : body.Ends before result after) :
    ∃ new, after.machine.journal = new ++ before.machine.journal ∧ spec new result after := by
  cases result with
  | ok value => exact h.returned hends
  | error stop => exact h.stopped hends

/-- Where something is said of runs that return only, nothing is to be shown of a step that
does not. -/
theorem RunsAt.bind_returning {first : RunSpec σ α} {said : List Activity → β → Prop}
    {body : Dispatch σ α} {next : α → Dispatch σ β} {state : Activation σ}
    (hbody : RunsAt first body state)
    (hnext : ∀ value middle old, first old (.ok value) middle →
      RunsAt (fun new result _ => ∀ last, result = .ok last → said (new ++ old) last)
        (next value) middle) :
    RunsAt (fun new result _ => ∀ last, result = .ok last → said new last) (body >>= next)
      state := by
  refine hbody.bind (fun value middle old _ hfirst => hnext value middle old hfirst) ?_
  rintro stop after new - last ⟨⟩

/-- What is done in the course of a call, newest first: no handler is entered, as the
reply about the user window is none that lets the call through, and the call gives an
error if it returns, or its handler runs with arguments that both checks let through. -/
inductive Kernel.EntersCourse (kernel : Kernel σ) (server : Server σ) (number : UInt64)
    (words : ArgumentWords) (state : Activation σ) : RunSpec σ CallResult where
  | refused {new : List Activity} {result : Except Stop CallResult} {after : Activation σ}
      (hnone : ∀ y ∈ new, y.event.arguments? = none)
      (herror : ∀ value, result = .ok value → ∃ code, value = .error code)
      (hscreen : ∀ window found,
        kernel.syscalls.screen number words state.frame window = .ok found →
        ∃ reply, .service .userRange reply ∈ ownEvents new ∧ reply ≠ .ok window) :
      EntersCourse kernel server number words state new result after
  | entered {x y : Activity} {window : UserRange} {descriptor : CallDescriptor σ}
      {arguments : Arguments} {result : Except Stop CallResult} {before inner after : Activation σ}
      (hx : x.event = .service .userRange (.ok window))
      (hlookup : kernel.syscalls.lookup number = some descriptor)
      (hcheck : descriptor.shape.check words = .ok ())
      (hvalidate : descriptor.shape.validate words ⟨window, state.frame.arch.userTop⟩
        state.frame.privilege = .ok arguments)
      (hframe : before.frame = state.frame)
      (hrequests : before.requests =
        { state.requests with interruptible := descriptor.shape.interruptible })
      (hjournal : before.machine.journal = [])
      (hrun : (kernel.handle server descriptor arguments).Ends before result inner)
      (hy : y.event = .handler descriptor.shape.number arguments result)
      (hinner : y.inner = inner.machine.journal) (hafter : inner.Untouched after) :
      EntersCourse kernel server number words state [y, x] result after

theorem runsAt_enters (number : UInt64) (words : ArgumentWords) (state : Activation σ) :
    RunsAt (fun new _ _ => ∃ x, new = [x] ∧
      kernel.Enters number words state.frame (ownEvents x.inner))
      (kernel.systemCall server number words) state := by
  obtain ⟨x, result, hjournal, -, henters⟩ := systemCall_adds kernel server number words state
  unfold Dispatch.left at hjournal
  cases hrun : kernel.systemCall server number words state with
  | ok value after =>
    rw [hrun] at hjournal
    exact runsAt_of_ok [x] hrun hjournal ⟨x, rfl, henters⟩
  | error stop after =>
    rw [hrun] at hjournal
    exact runsAt_of_error [x] hrun hjournal ⟨x, rfl, henters⟩

theorem ownEvents_entered {x y : Activity} {window : UserRange} {number : UInt64}
    {arguments : Arguments} {result : Except Stop CallResult}
    (hx : x.event = .service .userRange (.ok window))
    (hy : y.event = .handler number arguments result) : ownEvents [y, x] =
      [.service .userRange (.ok window), .handler number arguments result] := by
  have hlast : ownEvents [y] = [.handler number arguments result] := by
    rw [ownEvents_single (by simp [hy]), hy]
  rw [← List.singleton_append, ownEvents_append, ownEvents_call hx, hlast]
  rfl

/-- A system call is one activity, in which it is refused or its handler is entered. -/
theorem runsAt_enteredCall (hserver : server.Still) (number : UInt64) (words : ArgumentWords)
    (state : Activation σ) :
    RunsAt (fun new result after => ∃ x, new = [x] ∧
      x.event = .systemCall number words state.frame result ∧
      kernel.EntersCourse server number words state x.inner result after)
      (kernel.systemCall server number words) state := by
  refine ((runsAt_systemCall hserver number words state).and
    (runsAt_enters number words state)).mono ?_
  rintro _ result after ⟨⟨x, inner, rfl, hx, hcourse, hafter⟩, z, hz, henters⟩
  cases hz
  refine ⟨x, rfl, hx, ?_⟩
  generalize x.inner = activities at hcourse henters
  cases hcourse with
  | rejected hdecision =>
    refine .refused (by simp) (by rintro _ ⟨⟩; exact ⟨_, rfl⟩) fun window found hfound => ?_
    rw [hdecision window] at hfound
    cases hfound
  | unanswered _ hwindow =>
    refine .refused (by simp [hwindow, Event.arguments?]) (fun value hvalue => by cases hvalue) ?_
    intro window found _
    exact ⟨_, by rw [ownEvents_call hwindow]; exact List.mem_singleton_self _, by simp⟩
  | forbidden hwindow hdecision =>
    refine .refused (by simp [hwindow, Event.arguments?]) (by rintro _ ⟨⟩; exact ⟨_, rfl⟩) ?_
    intro window found hfound
    refine ⟨_, by rw [ownEvents_call hwindow]; exact List.mem_singleton_self _, ?_⟩
    rintro ⟨⟩
    rw [hdecision] at hfound
    cases hfound
  | @entered w y window descriptor arguments _ _ _ _ hwindow hdecision hframe hrequests hjournal
      hrun hy hinner huntouched =>
    rw [ownEvents_entered hwindow hy] at henters
    obtain ⟨found, given, hfound, -, hsame, hcheck, hvalidate⟩ :=
      henters descriptor.shape.number arguments result (by simp)
    have hlookup := SyscallTable.lookup_of_screen hdecision
    rw [hlookup] at hfound
    cases hfound
    cases hsame
    exact .entered hwindow hlookup hcheck hvalidate hframe hrequests hjournal hrun hy hinner
      (huntouched.trans hafter)

/-- A call that takes an integer and a buffer has its first register for the one,
and a buffer that was checked for the other. -/
theorem CallShape.arguments_of_validate {shape : CallShape} {words : ArgumentWords}
    {guard : AddressGuard} {caller : Privilege} {arguments : Arguments} {direction : Direction}
    (hkinds : shape.arguments = [.int, .buffer direction]) (hrequired : shape.required = 2)
    (hcheck : shape.check words = .ok ())
    (hvalidate : shape.validate words guard caller = .ok arguments) :
    ∃ buffer, arguments = ⟨[.int (words.word 0), .user buffer]⟩ ∧
      (ArgumentKind.buffer direction).Passes words 1 guard caller True (.user buffer) := by
  have hwidth : shape.width = 3 := by
    unfold width
    rw [hkinds]
    rfl
  have hfits : shape.Fits :=
    ⟨by rw [hwidth]; decide, by rw [hkinds, hrequired]; exact Nat.le_refl 2⟩
  obtain ⟨hsize, hpasses⟩ := hfits.passes hcheck hvalidate
  have hfirst := hpasses 0 .int (by rw [hkinds]; rfl)
  have hsecond := hpasses 1 (.buffer direction) (by rw [hkinds]; rfl)
  have hregister : shape.register 1 = 1 := by
    unfold register
    rw [hkinds]
    rfl
  obtain ⟨values⟩ := arguments
  have hvalues : ∃ a b, values = [a, b] := by
    rw [hkinds] at hsize
    rcases values with _ | ⟨a, _ | ⟨b, _ | ⟨c, rest⟩⟩⟩
    · cases hsize
    · cases hsize
    · exact ⟨a, b, rfl⟩
    · cases hsize
  obtain ⟨a, b, rfl⟩ := hvalues
  change ArgumentKind.int.Passes words 0 guard caller _ a at hfirst
  change (ArgumentKind.buffer direction).Passes words _ guard caller _ b at hsecond
  rw [hregister] at hsecond
  cases a with
  | absent => cases hfirst.1
  | user memory => cases hfirst.1
  | int value =>
    rw [hfirst.2]
    cases b with
    | absent => exact absurd (by rw [hrequired]; decide) hsecond.2.2
    | int other => cases hsecond.1
    | user buffer => exact ⟨buffer, rfl, hsecond⟩

end TrapDispatch
