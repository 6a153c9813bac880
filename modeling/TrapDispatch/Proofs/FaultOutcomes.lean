import TrapDispatch.Proofs.FaultCounts
import TrapDispatch.Proofs.Preemption

/-!
# What becomes of faults

The events of a trap that is a fault tell what was asked for it: the memory manager about a
page fault that its origin may name, and no one to let interrupts in. A breakpoint and a debug
trap go on, and so does a page fault that is resolved. Everything else ends the kernel, or the
thread that raised it, once, and for the fault that it was.
-/

namespace TrapDispatch

variable {σ : Type} {frame last : Frame} {kind : ExceptionKind} {events : List Event}
  {result : Except Stop Outcome}

def Call.isResolveFault : Call → Bool
  | .resolveFault _ _ => true
  | _ => false

def Call.isTermination : Call → Bool
  | .terminate _ => true
  | _ => false

def Call.isFatal : Call → Bool
  | .pid | .terminate _ | .schedule _ _ => true
  | _ => false

/-- Whether the origin of a trap may name an address, by the window that the trap was told. -/
def MayName (frame : Frame) (address : Address) (events : List Event) : Prop :=
  ∃ window, .service .userRange (.ok window) ∈ events ∧
    (window.guardFor frame).isValid address.word 1 frame.privilege = true

def Resolved (events : List Event) : Prop :=
  ∃ address access, .service (.resolveFault address access) (.ok true) ∈ events

/-- How a trap is left with a fault that is neither harmless nor resolved. A service that fails
on the way cuts it short. -/
inductive LeavesFault (frame : Frame) (kind : ExceptionKind) (events : List Event) :
    Except Stop Outcome → Frame → Prop where
  | kernel {stop : Stop} {last : Frame} (hends : kind.EndsKernel frame)
      (hstop : stop = .panic (kind.report frame) ∨ ∃ c, .service c (.error stop) ∈ events)
      (hspared : ∀ c ∈ callsIn events, c.isTermination = false ∧ c.isSchedule = false) :
      LeavesFault frame kind events (.error stop) last
  | cut {c : Call} {stop : Stop} {last : Frame} (hends : ¬ kind.EndsKernel frame)
      (hfailed : .service c (.error stop) ∈ events)
      (hunasked : ∀ c ∈ callsIn events, c.isSchedule = false)
      (hkept : ∀ reason, .service (.terminate reason) (.ok ()) ∉ events)
      (hterminates : (callsIn events).filter Call.isTermination <+: [.terminate (.fault kind)]) :
      LeavesFault frame kind events (.error stop) last
  | thread {result : Except Stop Outcome} {last : Frame} (hends : ¬ kind.EndsKernel frame)
      (hterminates : (callsIn events).filter Call.isTermination = [.terminate (.fault kind)])
      (hkills : kills events = 1) (hthread : EndsThread frame events result last) :
      LeavesFault frame kind events result last

/-- What a trap with a frame does about a fault of a kind. -/
structure AnswersFault (frame : Frame) (kind : ExceptionKind) (events : List Event)
    (result : Except Stop Outcome) (last : Frame) : Prop where
  shut : .enableInterrupts ∉ callsIn events
  told : ∀ address access, kind = .pageFault address access →
    (callsIn events).count .userRange = 1
  consulted : ∀ address access, kind = .pageFault address access → MayName frame address events →
    (callsIn events).filter Call.isResolveFault = [.resolveFault address access]
  unconsulted : (∀ address access, kind = .pageFault address access →
      ¬ MayName frame address events) → (callsIn events).filter Call.isResolveFault = []
  resolved : Resolved events → result = .ok .resumed ∧ last = frame
  harmless : kind.IsHarmless → result = .ok .resumed
  spared : kind.IsHarmless ∨ Resolved events → ∀ c ∈ callsIn events,
    c.isTermination = false ∧ c.isSchedule = false
  left : ¬ kind.IsHarmless → ¬ Resolved events → LeavesFault frame kind events result last

theorem not_mem_of_spared {reason : Termination} {reply : Except Stop Unit}
    (h : ∀ c ∈ callsIn events, c.isTermination = false) :
    .service (.terminate reason) reply ∉ events := by
  intro hmem
  cases h _ (mem_callsIn hmem)

theorem kills_eq_zero (h : ∀ reason, .service (.terminate reason) (.ok ()) ∉ events) :
    kills events = 0 := by
  have hnone : events.countP Event.isKill = 0 := by
    rw [List.countP_eq_zero]
    intro event hevent hkill
    unfold Event.isKill at hkill
    split at hkill
    · exact h _ hevent
    · cases hkill
  unfold kills
  rw [hnone]
  rfl

theorem EndsThread.preceded {earlier : List Event} (h : EndsThread frame events result last)
    (hearlier : ∀ c ∈ callsIn earlier, c.isSchedule = false) :
    EndsThread frame (earlier ++ events) result last := by
  obtain ⟨own, reply, rfl, hown, hleaves⟩ := h
  refine ⟨earlier ++ own, reply, (List.append_assoc _ _ _).symm, ?_, hleaves⟩
  rw [callsIn_append]
  intro c hc
  exact (List.mem_append.mp hc).elim (hearlier c) (hown c)

/-- What was asked before a fault turned out to be fatal does not matter. -/
theorem LeavesFault.preceded {earlier : List Event} (h : LeavesFault frame kind events result last)
    (hearlier : ∀ c ∈ callsIn earlier, c.isTermination = false ∧ c.isSchedule = false) :
    LeavesFault frame kind (earlier ++ events) result last := by
  have hfilter : (callsIn (earlier ++ events)).filter Call.isTermination =
      (callsIn events).filter Call.isTermination := by
    rw [callsIn_append, List.filter_append, filter_calls_eq_nil fun c hc => (hearlier c hc).1,
      List.nil_append]
  have hkept : ∀ {reason : Termination} {reply : Except Stop Unit},
      .service (.terminate reason) reply ∉ earlier :=
    not_mem_of_spared fun c hc => (hearlier c hc).1
  have hkills : kills (earlier ++ events) = kills events := by
    rw [kills_append, kills_eq_zero fun _ => hkept, UInt64.zero_add]
  cases h with
  | kernel hends hstop hspared =>
    refine .kernel hends ?_ ?_
    · exact hstop.imp_right fun ⟨c, hc⟩ => ⟨c, List.mem_append_right _ hc⟩
    · rw [callsIn_append]
      exact fun c hc => (List.mem_append.mp hc).elim (hearlier c) (hspared c)
  | cut hends hfailed hunasked hnone hterminates =>
    refine .cut hends (List.mem_append_right _ hfailed) ?_ (fun reason hmem => ?_) ?_
    · rw [callsIn_append]
      exact fun c hc => (List.mem_append.mp hc).elim (fun h => (hearlier c h).2) (hunasked c)
    · exact (List.mem_append.mp hmem).elim hkept (hnone reason)
    · rw [hfilter]
      exact hterminates
  | thread hends hterminates hone hthread =>
    refine .thread hends (hfilter.trans hterminates) (hkills.trans hone) ?_
    exact hthread.preceded fun c hc => (hearlier c hc).2

theorem AsksNumber.eq_pid {asked : List Activity} (h : AsksNumber asked) {c : Call}
    (hc : c ∈ callsIn (ownEvents asked)) : c = .pid := by
  cases h with
  | unasked => cases hc
  | asked hx =>
    rw [ownEvents_service hx] at hc
    exact List.mem_singleton.mp hc

theorem Reschedules.eq_schedule {shown : Frame} {reason : ScheduleReason} {new : List Activity}
    {result : Except Stop Unit} {after : Activation σ} (h : Reschedules shown reason new result after)
    {c : Call} (hc : c ∈ callsIn (ownEvents new)) : c = .schedule shown reason := by
  cases h with
  | unanswered hx | switched hx _ | resumed hx _ _ | refused hx _ =>
    rw [ownEvents_service hx] at hc
    exact List.mem_singleton.mp hc

namespace EndsFault

variable {new : List Activity} {after : Activation σ}

theorem isFatal (h : EndsFault frame kind new result after) {c : Call}
    (hc : c ∈ callsIn (ownEvents new)) : c.isFatal = true := by
  cases h with
  | kernel hends => cases hc
  | unnumbered hends hx =>
    rw [ownEvents_service hx] at hc
    rw [List.mem_singleton.mp hc]
    rfl
  | unterminated hends hasked hx =>
    rw [ownEvents_service hx, callsIn_append, List.mem_append] at hc
    rcases hc with hc | hc
    · rw [hasked.eq_pid hc]
      rfl
    · rw [List.mem_singleton.mp hc]
      rfl
  | terminated hends hasked hx hlater _ =>
    rw [ownEvents_append, ownEvents_service hx, callsIn_append, callsIn_append, List.mem_append,
      List.mem_append] at hc
    rcases hc with (hc | hc) | hc
    · rw [hasked.eq_pid hc]
      rfl
    · rw [List.mem_singleton.mp hc]
      rfl
    · rw [hlater.eq_schedule hc]
      rfl

theorem leaves (h : EndsFault frame kind new result after) :
    LeavesFault frame kind (ownEvents new) result after.frame := by
  have hasks : ∀ {asked : List Activity}, AsksNumber asked → ∀ c ∈ callsIn (ownEvents asked),
      c.isTermination = false ∧ c.isSchedule = false := by
    intro asked hasked c hc
    rw [hasked.eq_pid hc]
    exact ⟨rfl, rfl⟩
  cases h with
  | kernel hends => exact .kernel hends (.inl rfl) fun c hc => by cases hc
  | unnumbered hends hx =>
    rw [ownEvents_call hx]
    refine .cut hends List.mem_cons_self ?_ (by simp) List.nil_prefix
    simp [Call.isSchedule]
  | unterminated hends hasked hx =>
    rw [ownEvents_service hx]
    refine LeavesFault.preceded ?_ (hasks hasked)
    refine .cut hends List.mem_cons_self ?_ (by simp) List.prefix_rfl
    simp [Call.isSchedule]
  | @terminated x asked later ending middle _ hends hasked hx hlater hlast =>
    have hthread : EndsThread frame (ownEvents (later ++ [x])) (ending.map fun _ => .threadTerminated)
        middle.frame := by
      refine hlater.endsThread ?_
      rw [ownEvents_call hx]
      simp [Call.isSchedule]
    have hreschedule : ∀ c ∈ callsIn (ownEvents later), c.isTermination = false := by
      intro c hc
      rw [hlater.eq_schedule hc]
      rfl
    have hevents : ownEvents (later ++ [x]) =
        [.service (.terminate (.fault kind)) (.ok ())] ++ ownEvents later := by
      rw [ownEvents_append, ownEvents_call hx]
    have hleaves : LeavesFault frame kind (ownEvents (later ++ [x]))
        (ending.map fun _ => .threadTerminated) middle.frame := by
      refine .thread hends ?_ ?_ hthread
      · rw [hevents, callsIn_append, List.filter_append, filter_calls_eq_nil hreschedule]
        rfl
      · rw [hevents, kills_append, kills_eq_zero fun _ => not_mem_of_spared hreschedule]
        rfl
    rw [hlast.1, ← List.singleton_append, ← List.append_assoc, ownEvents_append]
    exact hleaves.preceded (hasks hasked)

end EndsFault

/-- What is asked about a page fault: the user window, and then the memory manager if the
origin may name the address. -/
def Asks (frame : Frame) (address : Address) (access : Access) (events : List Event) : Prop :=
  (¬ MayName frame address events ∧ callsIn events = [.userRange]) ∨
    (MayName frame address events ∧ callsIn events = [.userRange, .resolveFault address access])

theorem Consults.asks {address : Address} {access : Access} {new : List Activity}
    {answer : Except Stop Bool} {after : Activation σ}
    (h : Consults frame address access new answer after) :
    Asks frame address access (ownEvents new) ∧ (Resolved (ownEvents new) ↔ answer = .ok true) := by
  cases h with
  | windowless hx =>
    rw [ownEvents_call hx]
    exact ⟨.inl ⟨by simp [MayName], rfl⟩, by simp [Resolved]⟩
  | forbidden hx hguard _ =>
    rw [ownEvents_call hx]
    exact ⟨.inl ⟨by simp [MayName, hguard], rfl⟩, by simp [Resolved]⟩
  | undecided hx hguard hy =>
    rw [ownEvents_service hy, ownEvents_call hx]
    exact ⟨.inr ⟨⟨_, List.mem_cons_self, hguard⟩, rfl⟩, by simp [Resolved]⟩
  | decided hx hguard hy _ =>
    rw [ownEvents_service hy, ownEvents_call hx]
    exact ⟨.inr ⟨⟨_, List.mem_cons_self, hguard⟩, rfl⟩, by simp [Resolved, eq_comm]⟩

theorem Asks.spared {address : Address} {access : Access} (h : Asks frame address access events)
    {c : Call} (hc : c ∈ callsIn events) : c.isTermination = false ∧ c.isSchedule = false := by
  rcases h with ⟨-, hcalls⟩ | ⟨-, hcalls⟩
  · rw [hcalls, List.mem_singleton] at hc
    rw [hc]
    exact ⟨rfl, rfl⟩
  · rw [hcalls, List.mem_cons, List.mem_singleton] at hc
    rcases hc with rfl | rfl <;> exact ⟨rfl, rfl⟩

/-- A trap that is cut short as it asks about a page fault ends nothing but itself. -/
theorem Consults.leaves {address : Address} {access : Access} {new : List Activity} {stop : Stop}
    {after : Activation σ} (h : Consults frame address access new (.error stop) after) :
    LeavesFault frame (.pageFault address access) (ownEvents new) (.error stop) last := by
  have hspared : ∀ c ∈ callsIn (ownEvents new), c.isTermination = false ∧ c.isSchedule = false :=
    fun c hc => h.asks.1.spared hc
  have hfailed : ∃ c, .service c (.error stop) ∈ ownEvents new := by
    cases h with
    | windowless hx => exact ⟨_, by rw [ownEvents_call hx]; exact List.mem_cons_self⟩
    | undecided _ _ hy =>
      exact ⟨_, by rw [ownEvents_service hy]; exact List.mem_append_right _ List.mem_cons_self⟩
  by_cases hends : ExceptionKind.EndsKernel (.pageFault address access) frame
  · exact .kernel hends (.inr hfailed) hspared
  · obtain ⟨c, hc⟩ := hfailed
    refine .cut hends hc (fun c hc => (hspared c hc).2)
      (fun _ => not_mem_of_spared fun c hc => (hspared c hc).1) ?_
    rw [filter_calls_eq_nil fun c hc => (hspared c hc).1]
    exact List.nil_prefix

section

variable {later : List Event} (hlater : ∀ c ∈ callsIn later, c.isFatal = true)
include hlater

theorem not_mem_of_isFatal {c : Call} (hc : c.isFatal = false) : c ∉ callsIn later := by
  intro hmem
  rw [hlater c hmem] at hc
  cases hc

theorem mayName_append {address : Address} :
    MayName frame address (events ++ later) ↔ MayName frame address events := by
  constructor
  · rintro ⟨window, hwindow, hguard⟩
    refine ⟨window, (List.mem_append.mp hwindow).resolve_right fun hmem => ?_, hguard⟩
    exact not_mem_of_isFatal hlater rfl (mem_callsIn hmem)
  · rintro ⟨window, hwindow, hguard⟩
    exact ⟨window, List.mem_append_left _ hwindow, hguard⟩

theorem resolved_append : Resolved (events ++ later) ↔ Resolved events := by
  constructor
  · rintro ⟨address, access, hmem⟩
    refine ⟨address, access, (List.mem_append.mp hmem).resolve_right fun hmem => ?_⟩
    exact not_mem_of_isFatal hlater rfl (mem_callsIn hmem)
  · rintro ⟨address, access, hmem⟩
    exact ⟨address, access, List.mem_append_left _ hmem⟩

theorem filter_resolveFault_eq_nil : (callsIn later).filter Call.isResolveFault = [] := by
  refine filter_calls_eq_nil fun c hc => ?_
  cases c with
  | resolveFault address access => exact absurd hc (not_mem_of_isFatal hlater rfl)
  | _ => rfl

/-- A page fault that was asked about is answered if it is left as it should be. -/
theorem Asks.answers {address : Address} {access : Access} (h : Asks frame address access events)
    (hresolved : Resolved events → (result = .ok .resumed ∧ last = frame) ∧ later = [])
    (hleft : ¬ Resolved events →
      LeavesFault frame (.pageFault address access) (events ++ later) result last) :
    AnswersFault frame (.pageFault address access) (events ++ later) result last where
  shut := by
    rw [callsIn_append, List.mem_append]
    rintro (hmem | hmem)
    · rcases h with ⟨-, hcalls⟩ | ⟨-, hcalls⟩ <;> simp [hcalls] at hmem
    · exact not_mem_of_isFatal hlater rfl hmem
  told other way _ := by
    have hnone : (callsIn later).count .userRange = 0 :=
      List.count_eq_zero.mpr (not_mem_of_isFatal hlater rfl)
    rw [callsIn_append, List.count_append, hnone]
    rcases h with ⟨-, hcalls⟩ | ⟨-, hcalls⟩ <;> rw [hcalls] <;> rfl
  consulted := by
    rintro _ _ ⟨⟩ hmay
    rw [mayName_append hlater] at hmay
    rcases h with ⟨hnot, -⟩ | ⟨-, hcalls⟩
    · exact absurd hmay hnot
    · rw [callsIn_append, List.filter_append, filter_resolveFault_eq_nil hlater, hcalls]
      rfl
  unconsulted hnone := by
    have hnot := hnone address access rfl
    rw [mayName_append hlater] at hnot
    rcases h with ⟨-, hcalls⟩ | ⟨hmay, -⟩
    · rw [callsIn_append, List.filter_append, filter_resolveFault_eq_nil hlater, hcalls]
      rfl
    · exact absurd hmay hnot
  resolved hdone := (hresolved ((resolved_append hlater).mp hdone)).1
  harmless hkind := by
    rcases hkind with hkind | hkind <;> cases hkind
  spared hspared := by
    rcases hspared with (hkind | hkind) | hdone
    · cases hkind
    · cases hkind
    · obtain ⟨-, rfl⟩ := hresolved ((resolved_append hlater).mp hdone)
      rw [List.append_nil]
      exact fun c hc => h.spared hc
  left _ hnot := hleft fun hdone => hnot ((resolved_append hlater).mpr hdone)

theorem LeavesFault.answers (hpage : ∀ address access, kind ≠ .pageFault address access)
    (hkind : ¬ kind.IsHarmless) (h : LeavesFault frame kind later result last) :
    AnswersFault frame kind later result last where
  shut := not_mem_of_isFatal hlater rfl
  told address access hsome := absurd hsome (hpage address access)
  consulted address access hsome := absurd hsome (hpage address access)
  unconsulted _ := filter_resolveFault_eq_nil hlater
  resolved := by
    rintro ⟨address, access, hmem⟩
    exact absurd (mem_callsIn hmem) (not_mem_of_isFatal hlater rfl)
  harmless hharmless := absurd hharmless hkind
  spared := by
    rintro (hharmless | ⟨address, access, hmem⟩)
    · exact absurd hharmless hkind
    · exact absurd (mem_callsIn hmem) (not_mem_of_isFatal hlater rfl)
  left _ _ := h

end

theorem ExceptionKind.IsHarmless.answers (h : kind.IsHarmless) :
    AnswersFault frame kind [] (.ok .resumed) last where
  shut := List.not_mem_nil
  told address access hkind := by
    rcases h with rfl | rfl <;> cases hkind
  consulted address access hkind := by
    rcases h with rfl | rfl <;> cases hkind
  unconsulted _ := rfl
  resolved := by
    rintro ⟨address, access, hmem⟩
    cases hmem
  harmless _ := rfl
  spared _ c hc := by cases hc
  left hkind := absurd h hkind

/-- Every fault is answered. -/
theorem TakesFault.answers {new : List Activity} {after : Activation σ}
    (h : TakesFault frame kind new result after) :
    AnswersFault frame kind (ownEvents new) result after.frame := by
  cases h with
  | stepped => exact ExceptionKind.IsHarmless.answers (.inl rfl)
  | passed => exact ExceptionKind.IsHarmless.answers (.inr rfl)
  | @undecided address access new stop middle _ hconsults =>
    obtain ⟨hasks, hresolved⟩ := hconsults.asks
    rw [← List.append_nil (ownEvents new)]
    refine hasks.answers (fun c hc => by cases hc) (fun hdone => ?_) fun _ => ?_
    · cases hresolved.mp hdone
    · rw [List.append_nil]
      exact hconsults.leaves
  | @resolved address access new middle _ hconsults hframe =>
    obtain ⟨hasks, hresolved⟩ := hconsults.asks
    rw [← List.append_nil (ownEvents new)]
    refine hasks.answers (fun c hc => by cases hc) (fun _ => ⟨⟨rfl, hframe⟩, rfl⟩) fun hnot => ?_
    exact absurd (hresolved.mpr rfl) hnot
  | unresolved hconsults hnew =>
    obtain ⟨hasks, hresolved⟩ := hconsults.asks
    rw [ownEvents_append]
    refine hasks.answers (fun c hc => hnew.isFatal hc) (fun hdone => ?_) fun _ => ?_
    · cases hresolved.mp hdone
    · exact hnew.leaves.preceded fun c hc => hasks.spared hc
  | hopeless hpage hkind hnew =>
    exact hnew.leaves.answers (fun c hc => hnew.isFatal hc) hpage hkind

/-- Every trap that is taken and is a fault, whoever raised it and whatever the services do, is
answered as its kind and its origin ask for. What it terminates is counted as it goes along;
where the services leave the count alone, it goes up by that. -/
theorem faults_resume_or_end (kernel : Kernel σ) {depth : Nat} {machine : Machine σ} {x : Activity}
    (hkind : kernel.faultKind? frame = some kind) (hx : kernel.Takes depth frame machine x) :
    let run := kernel.takeTrap depth frame machine
    AnswersFault frame kind (ownEvents x.inner) run.result run.frame ∧
      (∃ id first, (kernel.call (kernel.server depth) .cpuId).Ends
          { frame, requests := {}, machine } (.ok id) first ∧
        kernel.Tally (kernel.server depth) first.machine.stats.killed (ownEvents x.inner)
          run.machine.stats.killed) ∧
      (kernel.LeavesKilled (kernel.server depth) →
        run.machine.stats.killed = machine.stats.killed + kills (ownEvents x.inner)) := by
  intro run
  obtain ⟨last, hfault, hlast⟩ := hx.takesFault hkind
  obtain ⟨id, first, hasked, htally⟩ := hx.tally hkind
  refine ⟨?_, ⟨id, first, hasked, htally⟩, fun hleaves => ?_⟩
  · rw [← hlast]
    exact hfault.answers
  · rw [htally.eq_add hleaves, hleaves _ _ _ _ hasked]

/-- A user program that loads from a page of its own that is not there. -/
def loadingContext : RiscV.RawFrame :=
  { registers := Vector.replicate 31 0
    sepc := 0x1000
    scause := 13
    stval := 0x1800 }

theorem Kernel.alternating_leavesKilled :
    Kernel.alternating.LeavesKilled (Kernel.alternating.server 1) := by
  intro c before result after h
  cases c <;> cases result <;> cases h <;> rfl

/-- The memory manager is asked once and does not resolve the fault. The thread ends for it,
which is counted, and the program that the scheduler replies with goes on. -/
theorem absent_page_ends_thread :
    let frame := (RawFrame.riscV loadingContext).capture
    let run := Kernel.alternating.takeTrap 1 frame { world := some firstShown }
    run.frame = frame.switchTo firstShown ∧ run.machine.stats.killed = 1 ∧
      ∃ x, Kernel.alternating.Takes 1 frame { world := some firstShown } x ∧
        (callsIn (ownEvents x.inner)).filter Call.isResolveFault =
          [.resolveFault ⟨0x1800⟩ .read] ∧
        EndsThread frame (ownEvents x.inner) run.result run.frame := by
  intro frame run
  have hreturned : run.result = .ok .threadTerminated := by
    apply Except.eq_ok_of_toOption
    decide +kernel
  have hkind : Kernel.alternating.faultKind? frame = some (.pageFault ⟨0x1800⟩ .read) := by
    decide +kernel
  have hcalls : (run.machine.journal.head?.map fun x => callsIn (ownEvents x.inner)) =
      some [.userRange, .resolveFault ⟨0x1800⟩ .read, .terminate (.fault (.pageFault ⟨0x1800⟩ .read)),
        .schedule frame .terminated] := by
    decide +kernel
  have hswitched : run.frame = frame.switchTo firstShown := by
    decide +kernel
  obtain ⟨x, hx⟩ := Kernel.exists_takes hreturned
  have hrun : Kernel.alternating.takeTrap 1 frame { world := some firstShown } = run := rfl
  have hhead := hx.head?
  obtain ⟨hanswers, -, hcount⟩ := faults_resume_or_end Kernel.alternating hkind hx
  -- From here on the run is opaque: all that is needed of it has been evaluated.
  rw [hrun] at hhead hanswers hcount
  clear_value run
  rw [hhead, Option.map_some, Option.some.injEq] at hcalls
  have hunresolved : ¬ Resolved (ownEvents x.inner) := by
    intro hdone
    have hresumed : run.result = .ok .resumed := (hanswers.resolved hdone).1
    rw [hreturned] at hresumed
    cases hresumed
  have hleft : LeavesFault frame (.pageFault ⟨0x1800⟩ .read) (ownEvents x.inner) run.result run.frame :=
    hanswers.left (by simp [ExceptionKind.IsHarmless]) hunresolved
  have hconsulted : (callsIn (ownEvents x.inner)).filter Call.isResolveFault =
      [.resolveFault ⟨0x1800⟩ .read] := by
    rw [hcalls]
    rfl
  have hended : kills (ownEvents x.inner) = 1 ∧
      EndsThread frame (ownEvents x.inner) run.result run.frame := by
    rw [hreturned] at hleft ⊢
    cases hleft with
    | thread hends hterminates hkills hthread => exact ⟨hkills, hthread⟩
  have hkilled : run.machine.stats.killed = 0 + kills (ownEvents x.inner) :=
    hcount Kernel.alternating_leavesKilled
  refine ⟨hswitched, ?_, x, hx, hconsulted, hended.2⟩
  rw [hkilled, hended.1]
  rfl

end TrapDispatch
