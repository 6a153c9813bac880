import TrapDispatch.Proofs.Switching

/-!
# Confinement of handlers

The handler of a system call may replace the frame of its caller by any frame. Of the registers
in it only the return register is written back, which has the result of the call by then; but
the program counter is taken from it wherever the call is stepped over, and so is everything if
it carries the mark of a switched context. A caller goes on as it was interrupted if the frame has
its program counter and is not marked. Where the scheduler chooses no other context, the trap
goes on so, or it does not go on.
-/

namespace TrapDispatch

variable {σ : Type} {kernel : Kernel σ} {server : Server σ} {frame left last : Frame}
  {convention : Convention} {value : CallResult}

theorem Frame.register_returnRegister (frame : Frame) :
    frame.register frame.arch.returnRegister = frame.returnValue := by
  unfold register returnValue
  rw [if_pos frame.arch.returnRegister_lt]
  simp

theorem Convention.arch_writeBack (convention : Convention) (frame : Frame) (value : CallResult) :
    (convention.writeBack frame value).arch = frame.arch := by
  unfold writeBack Frame.advance
  split <;> rfl

theorem Convention.dirty_writeBack (convention : Convention) (frame : Frame) (value : CallResult) :
    (convention.writeBack frame value).dirty = { frame.dirty with
      returnValue := true, counter := frame.dirty.counter || convention.advance != 0 } := by
  unfold writeBack Frame.advance
  split <;> simp_all [Frame.setReturnValue]

namespace RawFrame

def withCounter (counter : UInt64) : RawFrame → RawFrame
  | x86 raw => x86 { raw with rip := counter }
  | arm raw => arm { raw with elr := counter }
  | riscV raw => riscV { raw with sepc := counter }

theorem advanced_eq (raw : RawFrame) (bytes : UInt64) :
    raw.advanced bytes = raw.withCounter (raw.capture.counter + bytes) := by
  cases raw <;> rfl

theorem counter_withReturn (raw : RawFrame) (value : UInt64) :
    (raw.withReturn value).capture.counter = raw.capture.counter := by
  cases raw <;> rfl

/-- Of a frame that was not switched only the return register and the program counter are
written back. -/
theorem restore_unswitched (raw : RawFrame) (harch : left.arch = raw.arch)
    (hcontext : left.dirty.context = false) (hvalue : left.dirty.returnValue = true) :
    raw.restore left = (raw.withReturn left.returnValue).withCounter
      (if left.dirty.counter then left.counter else raw.capture.counter) := by
  have hregister := left.register_returnRegister
  have hunswitched : ¬ left.dirty.context = true := by rw [hcontext]; decide
  rw [harch] at hregister
  cases raw with
  | x86 raw =>
    change left.register 0 = _ at hregister
    change x86 (raw.restore left) = _
    unfold X86.RawFrame.restore
    rw [if_neg hunswitched, if_pos hvalue, hregister]
    rfl
  | arm raw =>
    change left.register 0 = _ at hregister
    change arm (raw.restore left) = _
    unfold Arm.RawFrame.restore
    rw [if_neg hunswitched, if_pos hvalue, hregister]
    rfl
  | riscV raw =>
    change left.register 9 = _ at hregister
    change riscV (raw.restore left) = _
    unfold RiscV.RawFrame.restore
    rw [if_neg hunswitched, if_pos hvalue, hregister]
    rfl

/-- The raw frame of a trap as the frame that its handler leaves makes it, the result and the step
over the call aside: with another program counter at most, unless the mark of a switched context is
left on it. -/
def leftBy (raw : RawFrame) (left : Frame) : RawFrame :=
  if left.dirty.context then raw.resuming left
  else if left.dirty.counter ∨ raw.arch.callAdvance ≠ 0 then raw.withCounter left.counter
  else raw

/-- Whether a frame that a handler leaves lets its caller go on as it was interrupted. -/
structure Spares (raw : RawFrame) (left : Frame) : Prop where
  unswitched : left.dirty.context = false
  counter : left.dirty.counter = true ∨ raw.arch.callAdvance ≠ 0 → left.counter = raw.capture.counter

theorem Spares.leftBy_eq {raw : RawFrame} (h : raw.Spares left) : raw.leftBy left = raw := by
  unfold leftBy
  rw [h.unswitched, if_neg Bool.false_ne_true]
  split
  next hmoved =>
    rw [h.counter hmoved]
    cases raw <;> rfl
  · rfl

/-- Whatever frame is left, it is written back as that, and then the result and the step are. -/
theorem restore_writeBack (raw : RawFrame) (harch : left.arch = raw.arch)
    (hadvance : convention.advance = raw.arch.callAdvance) (value : CallResult) :
    raw.restore (convention.writeBack left value) = (raw.leftBy left).afterCall (some value) := by
  have hdirty := convention.dirty_writeBack left value
  unfold leftBy
  by_cases hcontext : left.dirty.context = true
  · have hwritten : convention.writeBack left value = left.afterCall (some value) := by
      unfold Convention.writeBack Frame.afterCall
      rw [hadvance, harch]
    rw [if_pos hcontext, Frame.loads_self (by rw [hdirty]; exact hcontext) raw, hwritten]
    exact raw.resuming_afterCall harch _
  have hreturn : (convention.writeBack left value).returnValue = value.encode :=
    (Frame.returnValue_advance _ _).trans (Frame.returnValue_setReturnValue _ _)
  have hcounter : (convention.writeBack left value).counter = left.counter + convention.advance :=
    Frame.counter_advance _ _
  have hunswitched : (convention.writeBack left value).dirty.context = false := by
    rw [hdirty]
    exact Bool.not_eq_true _ ▸ hcontext
  have hmoved : (convention.writeBack left value).dirty.counter = true ↔
      left.dirty.counter = true ∨ raw.arch.callAdvance ≠ 0 := by
    rw [hdirty, ← hadvance]
    simp
  rw [if_neg hcontext, restore_unswitched raw ((convention.arch_writeBack left value).trans harch)
    hunswitched (by rw [hdirty]), hreturn, hcounter, hadvance]
  simp only [hmoved]
  split
  next => cases raw <;> rfl
  next hstayed =>
    have hzero : raw.arch.callAdvance = 0 := Decidable.not_not.mp fun hne => hstayed (.inr hne)
    unfold afterCall
    simp only
    rw [hzero, advanced_eq, UInt64.add_zero, counter_withReturn]

end RawFrame

theorem Event.switch?_of_choice? {event : Event} (h : event.choice? = none) :
    event.switch? = none := by
  unfold choice? at h
  split at h
  · cases h
  next hchoice =>
    unfold switch?
    split
    next shown reason next => exact absurd rfl (hchoice shown reason next)
    · rfl

theorem unswitched_of_choices {x : Activity} (h : x.choices = []) {events : List Event}
    (hevents : events = ownEvents x.inner ∨ ∃ y ∈ x.inner, y.event.isSystemCall = true ∧
      ∃ z ∈ y.inner, z.event.isHandler = true ∧ events = ownEvents z.inner) :
    ∀ event ∈ events, event.switch? = none := by
  intro event hevent
  unfold Activity.choices at h
  rw [List.filterMap_eq_nil_iff] at h
  apply Event.switch?_of_choice?
  apply h
  rw [List.mem_append]
  rcases hevents with rfl | ⟨y, hy, hsystem, z, hz, hhandler, rfl⟩
  · exact .inr hevent
  · refine .inl (List.mem_flatMap.mpr ⟨z, List.mem_flatMap.mpr ⟨y, ?_, ?_⟩, hevent⟩)
    · exact List.mem_filter.mpr ⟨hy, hsystem⟩
    · exact List.mem_filter.mpr ⟨hz, hhandler⟩

/-- What comes of a trap whose handler leaves a frame and returns a value. -/
inductive RawFrame.Confines (raw : RawFrame) (left : Frame) (value : CallResult)
    (events : List Event) : Except Stop Outcome → Frame → Prop where
  | restored {last : Frame} (h : raw.restore last = (raw.leftBy left).afterCall (some value)) :
      Confines raw left value events (.ok (.syscall value)) last
  | unserved {c : Call} {stop : Stop} {last : Frame} (h : .service c (.error stop) ∈ events) :
      Confines raw left value events (.error stop) last
  | refused {shown last : Frame}
      (h : .service (.schedule shown .terminated) (.ok .continue) ∈ events) :
      Confines raw left value events (.error (.panic resumedTerminated)) last

/-- A handler that got no context from the scheduler keeps none for its trap. -/
theorem Kernel.RunsHandler.switch_eq_none {z : Activity} {descriptor : CallDescriptor σ}
    {arguments : Arguments} {before left : Activation σ} (hserver : server.Still)
    (h : kernel.RunsHandler server frame z descriptor arguments before (.ok value) left)
    (hnone : ∀ event ∈ ownEvents z.inner, event.switch? = none) : left.requests.switch = none := by
  obtain ⟨new, hnew, hreplies⟩ := Bond.replies_handle hserver _ _ _ _ _ h.run_eq
  rw [h.journal_eq, List.append_nil] at hnew
  cases hkept : left.requests.switch with
  | none => rfl
  | some next =>
    rcases hreplies next hkept with hbefore | hreplied
    · rw [h.requests_eq] at hbefore
      cases hbefore
    · obtain ⟨event, hevent, hswitch⟩ := hreplied
      rw [← hnew, ← h.inner_eq] at hevent
      rw [hnone event hevent] at hswitch
      cases hswitch

theorem Convention.FollowsUp.confines {raw : RawFrame} {left after : Activation σ}
    {new : List Activity} {result : Except Stop Outcome}
    (h : convention.FollowsUp left value new result after)
    (hadvance : convention.advance = raw.arch.callAdvance)
    (harch : left.frame.arch = raw.arch) (hkept : left.requests.switch = none)
    (hnone : ∀ event ∈ ownEvents new, event.switch? = none) :
    raw.Confines left.frame value (ownEvents new) result after.frame := by
  have hwritten := raw.restore_writeBack harch hadvance value
  cases h with
  | unclosed hfailed => exact .unserved hfailed
  | @settled old later ending middle _ hunasked hlater hafter =>
    rw [hafter.1]
    cases hlater with
    | stays _ _ hmiddle =>
      rw [← hmiddle] at hwritten
      exact .restored hwritten
    | switches _ hswitch =>
      rw [hkept] at hswitch
      cases hswitch
    | reschedules _ hasked =>
      cases hasked with
      | unanswered hx =>
        apply RawFrame.Confines.unserved
        rw [List.singleton_append, ownEvents_service hx]
        exact List.mem_append_right _ (List.mem_singleton_self _)
      | switched hx =>
        rw [List.singleton_append, ownEvents_service hx] at hnone
        cases hnone _ (List.mem_append_right _ (List.mem_singleton_self _))
      | resumed hx _ hmiddle =>
        rw [← hmiddle] at hwritten
        exact .restored hwritten
      | refused hx hreason =>
        cases hreason
        apply RawFrame.Confines.refused
        rw [List.singleton_append, ownEvents_service hx]
        exact List.mem_append_right _ (List.mem_singleton_self _)

/-- A handler changes the return register of its caller, and the program counter if it leaves
another one: if the scheduler chooses no other context, the raw frame of the trap is restored as the
handler left it, with the result and behind the call. Of what it left nothing else comes back,
unless that has the mark of a switched context; and nothing at all, if it spares its caller. Only
where a service fails, or the scheduler would go on with a thread that is terminated, the trap
panics. -/
theorem handlers_change_result_and_counter (kernel : Kernel σ) {depth : Nat} (raw : RawFrame)
    {machine : Machine σ} {x : Activity} (hx : kernel.Takes depth raw.capture machine x)
    (hcause : kernel.cause raw.capture = .syscall convention) (hchoices : x.choices = []) :
    let run := kernel.takeTrap depth raw.capture machine
    ∀ y ∈ x.inner, y.event.isSystemCall = true → ∀ z ∈ y.inner, z.event.isHandler = true →
      ∃ descriptor arguments before ending left,
        kernel.syscalls.lookup (convention.numberIn raw.capture) = some descriptor ∧
        kernel.RunsHandler (kernel.server depth) raw.capture z descriptor arguments before ending
          left ∧
        ∀ value, ending = .ok value → left.frame.arch = raw.arch →
          raw.Confines left.frame value (ownEvents x.inner) run.result run.frame ∧
          (raw.Spares left.frame → raw.leftBy left.frame = raw) := by
  intro run y hy hsystem z hz hhandler
  obtain ⟨last, hcall, hlast⟩ := hx.takesCall hcause
  obtain ⟨descriptor, arguments, before, ending, left, hlookup, hruns, -, hreturned⟩ :=
    hcall y hy hsystem z hz hhandler
  refine ⟨descriptor, arguments, before, ending, left, hlookup, hruns, ?_⟩
  rintro value rfl harch
  have hadvance := Kernel.advance_of_cause hcause
  rw [raw.arch_capture] at hadvance
  have hkept := hruns.switch_eq_none (kernel.server_still depth)
    (unswitched_of_choices hchoices (.inr ⟨y, hy, hsystem, z, hz, hhandler, rfl⟩))
  refine ⟨?_, fun hspares => hspares.leftBy_eq⟩
  rw [← hlast]
  exact (hreturned value rfl).confines hadvance harch hkept
    (unswitched_of_choices hchoices (.inl rfl))

/-- A thread that has ended itself is not gone on with, so nothing is restored for it. -/
example : ((Kernel.standardOn .riscv64).takeTrap 1 (RawFrame.riscV (.calling 0 0x1000)).capture
    { world := () }).result.toOption = none := by
  decide +kernel

/-- A call that replaces the frame of its caller by an empty one at an address. -/
def CallDescriptor.replacing (counter : UInt64) : CallDescriptor Unit where
  shape := { number := 5, name := "replace" }
  handler _ := do
    .ask (.setFrame { Frame.fresh .riscv64 .user with counter })
    return .ok 7

/-- A kernel with this call, whose scheduler never chooses another context. -/
def Kernel.replacing (counter : UInt64) : Kernel Unit :=
  .choosing (fun _ _ => .continue) (.replacing counter)

def replacedContext : RawFrame :=
  .riscV (.calling 5 0x1000)

/-- The caller keeps its registers, but for the one with the result; and it goes on behind the
address that its handler chose. -/
theorem assigned_counter_comes_back :
    let run := (Kernel.replacing 0x5000).takeTrap 1 replacedContext.capture { world := () }
    run.result = .ok (.syscall (.ok 7)) ∧
      replacedContext.restore run.frame = (replacedContext.withReturn 7).withCounter 0x5004 ∧
      replacedContext.restore run.frame ≠ (replacedContext.withReturn 7).advanced 4 := by
  intro run
  have hreturned : run.result = .ok (.syscall (.ok 7)) := by
    apply Except.eq_ok_of_toOption
    decide +kernel
  have hcause : (Kernel.replacing 0x5000).cause replacedContext.capture =
      .syscall RiscV.ecallConvention := by
    decide +kernel
  have hhandled : run.machine.journal.head?.map Activity.isHandled = some true := by
    decide +kernel
  have hunchosen : run.machine.journal.head?.map Activity.choices = some [] := by
    decide +kernel
  obtain ⟨x, hx⟩ := Kernel.exists_takes hreturned
  have hrun : (Kernel.replacing 0x5000).takeTrap 1 replacedContext.capture { world := () } =
      run := rfl
  have hhead := hx.head?
  rw [hrun] at hhead
  rw [hhead, Option.map_some, Option.some.injEq] at hhandled hunchosen
  have hconfined := handlers_change_result_and_counter _ replacedContext hx hcause hunchosen
  -- From here on the run is opaque: all that is needed of it has been evaluated.
  rw [hrun] at hconfined
  clear_value run
  obtain ⟨y, hy, hsystem, z, hz, hhandler⟩ := Activity.exists_of_isHandled hhandled
  obtain ⟨descriptor, arguments, before, ending, left, hlookup, hruns, hconfines⟩ :=
    hconfined y hy hsystem z hz hhandler
  have hreplacing : (Kernel.replacing 0x5000).syscalls.lookup
      (RiscV.ecallConvention.numberIn replacedContext.capture) = some (.replacing 0x5000) := rfl
  cases hreplacing.symm.trans hlookup
  obtain ⟨machine, rfl⟩ := hruns.exists_before
  refine ⟨hreturned, ?_⟩
  cases ending with
  | error stop => cases hruns.run_eq
  | ok value =>
    cases hruns.run_eq
    obtain ⟨hend, -⟩ := hconfines _ rfl rfl
    rw [hreturned] at hend
    cases hend with
    | restored hrestored =>
      have hleft : (replacedContext.leftBy { Frame.fresh .riscv64 .user with counter := 0x5000 }
          ).afterCall (some (.ok 7)) = (replacedContext.withReturn 7).withCounter 0x5004 := by
        decide +kernel
      have hcomes := hrestored.trans hleft
      exact ⟨hcomes, hcomes ▸ by decide +kernel⟩

end TrapDispatch
