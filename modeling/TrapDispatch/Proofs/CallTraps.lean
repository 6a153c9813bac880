import TrapDispatch.Proofs.Resumption

/-!
# Traps that make system calls

What a call keeps for its trap: contexts only that the scheduler replied with, and the
frame of its caller unless the handler replaces it. The trap makes the call between two
calls that turn interrupts on and off.
-/

namespace TrapDispatch

variable {σ α : Type} {kernel : Kernel σ} {server : Server σ} {cpu : Fin maxCpus}

namespace Bond

/-- A context is kept only if the scheduler replied with it. -/
def replies : Bond σ where
  relates a b := ∃ new, b.machine.journal = new ++ a.machine.journal ∧
    ∀ next, b.requests.switch = some next →
      a.requests.switch = some next ∨ ∃ event ∈ ownEvents new, event.switch? = some next
  refl a := ⟨[], rfl, fun _ h => Or.inl h⟩
  trans := by
    rintro a b c ⟨old, hold, hfirst⟩ ⟨new, hnew, hsecond⟩
    refine ⟨new ++ old, by rw [hnew, hold, List.append_assoc], fun next hnext => ?_⟩
    rw [ownEvents_append]
    rcases hsecond next hnext with hkept | ⟨event, hevent, hswitch⟩
    · rcases hfirst next hkept with hkept | ⟨event, hevent, hswitch⟩
      · exact Or.inl hkept
      · exact Or.inr ⟨event, List.mem_append_left _ hevent, hswitch⟩
    · exact Or.inr ⟨event, List.mem_append_right _ hevent, hswitch⟩

theorem replies_of_still {body : Dispatch σ α} (h : still.Keeps body) : replies.Keeps body := by
  intro state value after hrun
  obtain ⟨-, hrequests, new, hnew⟩ := h _ _ _ hrun
  refine ⟨new, hnew, fun next hnext => Or.inl ?_⟩
  rw [← hrequests]
  exact hnext

theorem replies_wait (hserver : server.Still) (shown : Frame) :
    replies.Keeps (kernel.wait server shown) := by
  intro state value after h
  unfold Kernel.wait at h
  obtain ⟨reply, middle, hschedule, hrest⟩ := Dispatch.exists_of_bind h
  obtain ⟨new, hnew, x, rfl, hx, hsame⟩ :=
    (runsAt_call hserver (.schedule shown .blocked) state).returned hschedule
  cases reply with
  | «continue» =>
    cases hrest
    refine ⟨[x], hnew, fun next hnext => Or.inl ?_⟩
    rw [← (hsame ⟨_, rfl⟩).2]
    exact hnext
  | switch kept =>
    cases hrest
    refine ⟨[x], hnew, fun next hnext => Or.inr ⟨x.event, ?_, ?_⟩⟩
    · rw [ownEvents_single (by simp [hx])]
      exact List.mem_singleton_self _
    · cases hnext
      rw [hx]
      rfl

/-- The requests of a handler keep a bond, if those do that touch its trap: replacing the
frame, waiting, and what it asks for to be done later. -/
theorem keeps_serveHandler {bond : Bond σ} (hserver : server.Still)
    (hstill : ∀ {α : Type} {body : Dispatch σ α}, still.Keeps body → bond.Keeps body)
    (hwait : ∀ shown, bond.Keeps (kernel.wait server shown))
    (hdefer : ∀ reason, bond.Keeps (Dispatch.modifyRequests (σ := σ) (·.defer reason)))
    (hdeferred : bond.Keeps (Kernel.takeDeferred (σ := σ)))
    (hswitch : bond.Keeps (Kernel.takeSwitch (σ := σ))) (op : HandlerRequest σ)
    (hframe : ∀ frame, op = .setFrame frame → bond.Keeps (Dispatch.modifyFrame (σ := σ) fun _ => frame)) :
    bond.Keeps (kernel.serveHandler server op) := by
  have hcall : ∀ c, bond.Keeps (kernel.call server c) :=
    fun c => hstill (kernel.call_still hserver c)
  cases op with
  | base op => exact hstill (hserver op)
  | frame => exact keeps_frame
  | setFrame frame => exact hframe frame rfl
  | block shown =>
    unfold Kernel.serveHandler Kernel.block
    apply keeps_bind keeps_requests
    intro requests
    refine keeps_ite ?_ (hwait shown)
    apply keeps_bind (hcall .signalPending)
    intro signalled
    exact keeps_ite (keeps_pure _) (hwait shown)
  | defer reason => exact hdefer reason
  | takeDeferred => exact hdeferred
  | takeSwitch => exact hswitch
  | pid => exact hcall .pid
  | userRange => exact hcall .userRange
  | terminate reason => exact hcall (.terminate reason)
  | signalPending => exact hcall .signalPending
  | write file buffer => exact hcall (.write file buffer)
  | read file buffer => exact hcall (.read file buffer)

theorem replies_serveHandler (hserver : server.Still) (op : HandlerRequest σ) :
    replies.Keeps (kernel.serveHandler server op) := by
  refine keeps_serveHandler hserver replies_of_still (replies_wait hserver) ?_ ?_ ?_ op ?_
  · rintro reason state _ _ ⟨⟩
    refine ⟨[], rfl, fun next h => Or.inl ?_⟩
    change (state.requests.defer reason).switch = some next at h
    unfold CallRequests.defer at h
    split at h
    · exact h
    · exact h
  · rintro state _ _ ⟨⟩
    exact ⟨[], rfl, fun _ h => Or.inl h⟩
  · rintro state _ _ ⟨⟩
    exact ⟨[], rfl, fun _ h => by cases h⟩
  · rintro frame - state _ _ ⟨⟩
    exact ⟨[], rfl, fun _ h => Or.inl h⟩

theorem replies_handle (hserver : server.Still) (descriptor : CallDescriptor σ)
    (arguments : Arguments) : replies.Keeps (kernel.handle server descriptor arguments) :=
  keeps_run (S := handlerSignature σ) (replies_serveHandler hserver) _

end Bond

theorem SyscallTable.lookup_of_screen {table : SyscallTable σ} {number : UInt64}
    {words : ArgumentWords} {caller : Frame} {window : UserRange} {descriptor : CallDescriptor σ}
    (h : table.screen number words caller window = .ok descriptor) :
    table.lookup number = some descriptor := by
  unfold screen at h
  split at h
  · cases h
  next found hlookup =>
    split at h
    · cases h
    split at h
    · cases h
    split at h
    · cases h
    · cases h
      exact hlookup

namespace Kernel.CallCourse

variable {decision : UserRange → Except ErrorCode (CallDescriptor σ)} {state after : Activation σ}
  {new : List Activity} {result : CallResult}

theorem frame_eq (h : kernel.CallCourse server decision state new (.ok result) after)
    (hleaves : ∀ window descriptor, decision window = .ok descriptor →
      kernel.LeavesFrame server descriptor) : after.frame = state.frame := by
  cases h with
  | rejected _ h => exact h.1
  | forbidden _ _ h => exact h.1
  | entered hx hdecision hframe _ _ hrun _ _ hafter =>
    exact hafter.1.trans ((hleaves _ _ hdecision _ _ _ _ hrun).trans hframe)

/-- A context that a call keeps is one that the scheduler replied with to its handler. -/
theorem exists_replied (h : kernel.CallCourse server decision state new (.ok result) after)
    (hserver : server.Still) (hstate : state.requests.switch = none) {next : Frame}
    (hnext : after.requests.switch = some next) :
    ∃ y ∈ new, y.event.isHandler = true ∧ y.Replied next := by
  have hnone : ∀ {last : Activation σ}, state.Untouched last → last.requests.switch ≠ some next := by
    intro last hlast hsome
    rw [hlast.2, hstate] at hsome
    cases hsome
  cases h with
  | rejected _ h => exact absurd hnext (hnone h)
  | forbidden _ _ h => exact absurd hnext (hnone h)
  | @entered x y _ _ _ _ before inner _ hx _ _ hrequests hjournal hrun hy hinner hafter =>
    obtain ⟨own, hown, hreplies⟩ := Bond.replies_handle hserver _ _ _ _ _ hrun
    rw [hjournal, List.append_nil] at hown
    rw [hafter.2] at hnext
    refine ⟨y, List.mem_cons_self, by rw [hy]; rfl, ?_⟩
    rcases hreplies next hnext with hkept | hreplied
    · rw [hrequests] at hkept
      exact absurd hkept (hnone ⟨rfl, rfl⟩)
    · unfold Activity.Replied
      rw [hinner, hown]
      exact hreplied

/-- A call whose handler was not entered leaves frame and requests alone. -/
theorem untouched (h : kernel.CallCourse server decision state new (.ok result) after)
    (hhandler : ∀ y ∈ new, y.event.isHandler = false) : state.Untouched after := by
  cases h with
  | rejected _ h => exact h
  | forbidden _ _ h => exact h
  | entered _ _ _ _ _ _ hy _ _ =>
    have hentered := hhandler _ List.mem_cons_self
    rw [hy] at hentered
    cases hentered

end Kernel.CallCourse

/-- What a trap does that makes a system call with interrupts on: the activities in the
course of it, newest first, what came of the call, and the state that is left. -/
inductive Kernel.MakesCall (kernel : Kernel σ) (server : Server σ) (number : UInt64)
    (words : ArgumentWords) (state : Activation σ) : RunSpec σ CallResult where
  | unopened {x : Activity} {stop : Stop} {after : Activation σ}
      (hx : x.event = .service .enableInterrupts (.error stop)) :
      MakesCall kernel server number words state [x] (.error stop) after
  | cut {x y : Activity} {stop : Stop} {before inner after : Activation σ}
      (hx : x.event = .service .enableInterrupts (.ok ()))
      (hy : y.event = .systemCall number words state.frame (.error stop))
      (hbefore : state.Untouched before)
      (hcourse : kernel.CallCourse server (kernel.syscalls.screen number words state.frame) before
        y.inner (.error stop) inner) :
      MakesCall kernel server number words state [y, x] (.error stop) after
  | unclosed {x y z : Activity} {result : CallResult} {stop : Stop}
      {before inner after : Activation σ}
      (hx : x.event = .service .enableInterrupts (.ok ()))
      (hy : y.event = .systemCall number words state.frame (.ok result))
      (hz : z.event = .service .disableInterrupts (.error stop))
      (hbefore : state.Untouched before)
      (hcourse : kernel.CallCourse server (kernel.syscalls.screen number words state.frame) before
        y.inner (.ok result) inner) :
      MakesCall kernel server number words state [z, y, x] (.error stop) after
  | returned {x y z : Activity} {result : CallResult} {before inner after : Activation σ}
      (hx : x.event = .service .enableInterrupts (.ok ()))
      (hy : y.event = .systemCall number words state.frame (.ok result))
      (hz : z.event = .service .disableInterrupts (.ok ()))
      (hbefore : state.Untouched before)
      (hcourse : kernel.CallCourse server (kernel.syscalls.screen number words state.frame) before
        y.inner (.ok result) inner)
      (hafter : inner.Untouched after) :
      MakesCall kernel server number words state [z, y, x] (.ok result) after

namespace Kernel.MakesCall

variable {number : UInt64} {words : ArgumentWords} {state after : Activation σ}
  {new : List Activity}

theorem ownEvents_eq {result : Except Stop CallResult}
    (h : kernel.MakesCall server number words state new result after) :
    ownEvents new = (new.map (·.event)).reverse := by
  have hsingle : ∀ {x : Activity}, (∀ irq claimed, x.event ≠ .scope irq claimed) → ∀ older,
      ownEvents (x :: older) = ownEvents older ++ [x.event] := by
    intro x hx older
    rw [← ownEvents_single hx]
    exact ownEvents_append [x] older
  cases h with
  | unopened hx => exact hsingle (by simp [hx]) []
  | cut hx hy => rw [hsingle (by simp [hy]), hsingle (by simp [hx])]; rfl
  | unclosed hx hy hz =>
    rw [hsingle (by simp [hz]), hsingle (by simp [hy]), hsingle (by simp [hx])]
    rfl
  | returned hx hy hz =>
    rw [hsingle (by simp [hz]), hsingle (by simp [hy]), hsingle (by simp [hx])]
    rfl

theorem isCalm_or {result : Except Stop CallResult}
    (h : kernel.MakesCall server number words state new result after) {event : Event}
    (hevent : event ∈ ownEvents new) : event.isCalm = true ∨ event.isSystemCall = true := by
  rw [h.ownEvents_eq, List.mem_reverse] at hevent
  cases h with
  | unopened hx =>
    simp only [List.map_cons, List.map_nil, hx, List.mem_singleton] at hevent
    rw [hevent]
    exact Or.inl rfl
  | cut hx hy =>
    simp only [List.map_cons, List.map_nil, hx, hy, List.mem_cons, List.not_mem_nil, or_false] at hevent
    rcases hevent with rfl | rfl
    · exact Or.inr rfl
    · exact Or.inl rfl
  | unclosed hx hy hz | returned hx hy hz =>
    simp only [List.map_cons, List.map_nil, hx, hy, hz, List.mem_cons, List.not_mem_nil,
      or_false] at hevent
    rcases hevent with rfl | rfl | rfl
    · exact Or.inl rfl
    · exact Or.inr rfl
    · exact Or.inl rfl

theorem callResult_eq {result : CallResult}
    (h : kernel.MakesCall server number words state new (.ok result) after) :
    callResult (ownEvents new) = some result := by
  rw [h.ownEvents_eq]
  cases h with
  | returned hx hy hz =>
    simp only [List.map_cons, List.map_nil, hx, hy, List.reverse_cons, List.reverse_nil,
      List.nil_append, List.cons_append]
    rfl

end Kernel.MakesCall

theorem runsAt_makesCall (hserver : server.Still) (number : UInt64) (words : ArgumentWords)
    (state : Activation σ) :
    RunsAt (kernel.MakesCall server number words state)
      (kernel.interruptible server cpu (kernel.systemCall server number words)) state := by
  unfold Kernel.interruptible
  refine runsAt_next () rfl rfl ?_
  refine (runsAt_call hserver .enableInterrupts _).bind ?_ ?_
  · rintro _ first _ - ⟨x, rfl, hx, hsame⟩
    have hfirst : state.Untouched first := hsame ⟨_, rfl⟩
    refine (runsAt_systemCall hserver number words first).bind ?_ ?_
    · rintro result second _ - ⟨y, inner, rfl, hy, hcourse, hsecond⟩
      rw [hfirst.1] at hy hcourse
      refine (runsAt_call hserver .disableInterrupts second).bind ?_ ?_
      · rintro _ third _ - ⟨z, rfl, hz, hlast⟩
        have hthird : second.Untouched third := hlast ⟨_, rfl⟩
        refine runsAt_of_ok [] rfl rfl (.returned hx hy hz ?_ hcourse (hsecond.trans hthird))
        exact ⟨rfl, hfirst.2⟩
      · rintro stop after _ ⟨z, rfl, hz, -⟩
        refine .unclosed hx hy hz ?_ hcourse
        exact ⟨rfl, hfirst.2⟩
    · rintro stop after _ ⟨y, inner, rfl, hy, hcourse, -⟩
      rw [hfirst.1] at hy hcourse
      refine .cut hx hy ?_ hcourse
      exact ⟨rfl, hfirst.2⟩
  · rintro stop after _ ⟨x, rfl, hx, -⟩
    exact .unopened hx

end TrapDispatch
