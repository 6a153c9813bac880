import TrapDispatch.Proofs.Treatment

/-!
# The count of terminated threads

A thread that is terminated for a fault is counted, once, and nothing else is. Services may
take traps of their own on other CPUs, which count for themselves, so the count is followed
from call to call: a call changes it as it does, and the trap itself adds one for every
thread that it terminates.
-/

namespace TrapDispatch

variable {σ α : Type} {kernel : Kernel σ} {server : Server σ} {cpu : Fin maxCpus}

def Event.isKill : Event → Bool
  | .service (.terminate (.fault _)) (.ok _) => true
  | _ => false

/-- The threads that are terminated for a fault in some events, as a counter has them. -/
def kills (events : List Event) : UInt64 :=
  .ofNat (events.countP Event.isKill)

theorem kills_append (first second : List Event) :
    kills (first ++ second) = kills first + kills second := by
  unfold kills
  rw [List.countP_append, UInt64.ofNat_add]

theorem kills_single {event : Event} (h : event.isKill = false) : kills [event] = 0 := by
  unfold kills
  rw [List.countP_singleton, h]
  rfl

/-- How the count of terminated threads goes along with the events of a trap. -/
inductive Kernel.Tally (kernel : Kernel σ) (server : Server σ) (start : UInt64) :
    List Event → UInt64 → Prop where
  | start : Tally kernel server start [] start
  | call {events : List Event} {c : Call} {result : Except Stop c.Reply}
      {before after : Activation σ} (h : Tally kernel server start events before.machine.stats.killed)
      (hcall : (kernel.call server c).Ends before result after)
      (hkill : (Event.service c result).isKill = false) :
      Tally kernel server start (events ++ [.service c result]) after.machine.stats.killed
  | kill {events : List Event} {kind : ExceptionKind} {before after : Activation σ}
      (h : Tally kernel server start events before.machine.stats.killed)
      (hcall : (kernel.call server (.terminate (.fault kind))).Ends before (.ok ()) after) :
      Tally kernel server start (events ++ [.service (.terminate (.fault kind)) (.ok ())])
        (after.machine.stats.killed + 1)

theorem Kernel.Tally.trans {first second : List Event} {start middle last : UInt64}
    (hfirst : kernel.Tally server start first middle)
    (hsecond : kernel.Tally server middle second last) :
    kernel.Tally server start (first ++ second) last := by
  induction hsecond with
  | start => rwa [List.append_nil]
  | call _ hcall hkill ih =>
    rw [← List.append_assoc]
    exact ih.call hcall hkill
  | kill _ hcall ih =>
    rw [← List.append_assoc]
    exact ih.kill hcall

/-- Whether no call to a service changes the count of terminated threads, however it ends. -/
def Kernel.LeavesKilled (kernel : Kernel σ) (server : Server σ) : Prop :=
  ∀ c before result after, (kernel.call server c).Ends before result after →
    after.machine.stats.killed = before.machine.stats.killed

/-- Where the calls leave the count alone, it goes up by what is terminated. -/
theorem Kernel.Tally.eq_add {events : List Event} {start last : UInt64}
    (h : kernel.Tally server start events last) (hleaves : kernel.LeavesKilled server) :
    last = start + kills events := by
  induction h with
  | start => exact (UInt64.add_zero _).symm
  | call _ hcall hkill ih =>
    rw [hleaves _ _ _ _ hcall, ih, kills_append, kills_single hkill, UInt64.add_zero]
  | kill _ hcall ih =>
    rw [hleaves _ _ _ _ hcall, ih, kills_append, UInt64.add_assoc]
    rfl

/-- Whether a machine follows another, with what was terminated in between counted. -/
def Kernel.Tallied (kernel : Kernel σ) (server : Server σ) (a b : Machine σ) : Prop :=
  ∃ events, Adds events a b ∧ kernel.Tally server a.stats.killed events b.stats.killed

theorem Kernel.Tallied.still {a b : Machine σ} (hjournal : b.journal = a.journal)
    (hsame : b.stats.killed = a.stats.killed) : kernel.Tallied server a b := by
  refine ⟨[], .still hjournal, ?_⟩
  rw [hsame]
  exact .start

namespace Law

def tally (kernel : Kernel σ) (server : Server σ) : Law σ where
  returns := kernel.Tallied server
  stops := kernel.Tallied server
  refl _ := .still rfl rfl
  trans := by
    rintro a b c ⟨first, hadds, hcount⟩ ⟨second, hnext, hlast⟩
    exact ⟨first ++ second, hadds.trans hnext, hcount.trans hlast⟩
  weaken h := h
  trans_stops := by
    rintro a b c ⟨first, hadds, hcount⟩ ⟨second, hnext, hlast⟩
    exact ⟨first ++ second, hadds.trans hnext, hcount.trans hlast⟩

theorem tally_quietly {change : Machine σ → Machine σ} (hjournal : ∀ a, (change a).journal = a.journal)
    (hsame : ∀ a, (change a).stats.killed = a.stats.killed) :
    (tally kernel server).Obeys (Dispatch.modifyMachine change) :=
  obeys_modifyMachine fun a => .still (hjournal a) (hsame a)

theorem tally_recordAt (level : Level) (target text : String) :
    (tally kernel server).Obeys (recordAt level target text : Dispatch σ Unit) :=
  tally_quietly (fun _ => rfl) fun _ => rfl

theorem tally_setSlot (change : CpuSlot → CpuSlot) :
    (tally kernel server).Obeys (Dispatch.setSlot (σ := σ) cpu change) :=
  tally_quietly (fun _ => rfl) fun _ => rfl

theorem tally_setState (state : DispatchState) (masked : Bool) :
    (tally kernel server).Obeys (Kernel.setState (σ := σ) cpu state masked) :=
  tally_setSlot _

theorem tally_count {change : Stats → Stats} (h : ∀ stats, (change stats).killed = stats.killed) :
    (tally kernel server).Obeys (Dispatch.count (σ := σ) change) :=
  tally_quietly (fun _ => rfl) fun a => h a.stats

theorem tally_fatal (text : String) : (tally kernel server).Obeys (Dispatch.fatal text : Dispatch σ α) :=
  obeys_bind (tally_recordAt _ _ _) fun _ => obeys_throw _

theorem call_adds {c : Call} {result : Except Stop c.Reply} {before after : Activation σ}
    (h : (kernel.call server c).Ends before result after) :
    Adds [.service c result] before.machine after.machine := by
  have hevents : Emits _ (kernel.call server c) := emits_during _ (by simp)
  cases result with
  | ok value =>
    obtain ⟨events, hadds, rfl⟩ := (hevents before).returned h
    exact hadds
  | error stop =>
    obtain ⟨events, hadds, rfl⟩ := (hevents before).stopped h
    exact hadds

theorem tally_call {c : Call} (h : ∀ kind, c ≠ .terminate (.fault kind)) :
    (tally kernel server).Obeys (kernel.call server c) := by
  have htallied : ∀ (result : Except Stop c.Reply) (before after : Activation σ),
      (kernel.call server c).Ends before result after →
      kernel.Tallied server before.machine after.machine := by
    intro result before after hcall
    refine ⟨_, call_adds hcall, Kernel.Tally.start.call hcall ?_⟩
    unfold Event.isKill
    split
    next kind value heq =>
      cases heq
      exact absurd rfl (h kind)
    · rfl
  intro state
  cases hrun : kernel.call server c state with
  | ok value after => exact leadsAt_of_ok hrun (htallied (.ok value) _ _ hrun)
  | error stop after => exact leadsAt_of_error hrun (htallied (.error stop) _ _ hrun)

theorem tally_terminate (kind : ExceptionKind) :
    (tally kernel server).Obeys (do
      kernel.call server (.terminate (.fault kind))
      Dispatch.count Stats.recordKilled) := by
  intro state
  cases hrun : kernel.call server (.terminate (.fault kind)) state with
  | ok value after =>
    have hcall : (kernel.call server (.terminate (.fault kind))).Ends state (.ok ()) after := hrun
    obtain ⟨new, hnew, hevents⟩ := call_adds hcall
    exact leadsAt_of_ok (Dispatch.bind_of_ok hrun)
      ⟨_, ⟨new, hnew, hevents⟩, Kernel.Tally.start.kill hcall⟩
  | error stop after =>
    have hcall : (kernel.call server (.terminate (.fault kind))).Ends state (.error stop) after :=
      hrun
    exact leadsAt_of_error (Dispatch.bind_of_error hrun)
      ⟨_, call_adds hcall, Kernel.Tally.start.call hcall rfl⟩

theorem tally_reschedule (reason : ScheduleReason) :
    (tally kernel server).Obeys (kernel.reschedule server reason) := by
  unfold Kernel.reschedule
  apply obeys_bind obeys_frame
  intro frame
  apply obeys_bind (tally_call (c := .schedule frame reason) (by simp))
  intro next
  cases next with
  | «continue» => exact obeys_ite (tally_fatal _) (obeys_pure _)
  | switch next => exact obeys_modifyFrame _

theorem tally_fatalException (kind : ExceptionKind) :
    (tally kernel server).Obeys (kernel.fatalException server kind) := by
  unfold Kernel.fatalException
  apply obeys_bind obeys_frame
  intro frame
  refine obeys_when (fun _ => tally_fatal _) ?_
  apply obeys_bind obeys_machine
  intro machine
  have hend : (tally kernel server).Obeys (do
      kernel.call server (.terminate (.fault kind))
      Dispatch.count Stats.recordKilled
      kernel.reschedule server .terminated
      return Outcome.threadTerminated) := by
    rw [← bind_assoc]
    apply obeys_bind (tally_terminate kind)
    intro _
    exact obeys_bind (tally_reschedule _) fun _ => obeys_pure _
  refine obeys_ite ?_ hend
  apply obeys_bind (tally_call (c := .pid) (by simp))
  intro pid
  exact obeys_bind (tally_recordAt _ _ _) fun _ => hend

theorem tally_defaultFault : (tally kernel server).Obeys (kernel.defaultFault server cpu) := by
  unfold Kernel.defaultFault
  apply obeys_bind (tally_setState _ _)
  intro _
  apply obeys_bind obeys_frame
  intro frame
  exact obeys_bind (tally_recordAt _ _ _) fun _ => tally_fatalException _

theorem tally_exception (kind : ExceptionKind) :
    (tally kernel server).Obeys (kernel.exception server cpu kind) := by
  unfold Kernel.exception
  apply obeys_bind (tally_setState _ _)
  intro _
  apply obeys_bind obeys_frame
  intro frame
  cases kind with
  | pageFault address access =>
    have hresolve : (tally kernel server).Obeys (kernel.resolve server address access) := by
      unfold Kernel.resolve
      apply obeys_bind obeys_frame
      intro frame
      apply obeys_bind (tally_call (c := .userRange) (by simp))
      intro window
      exact obeys_ite (tally_call (c := .resolveFault address access) (by simp)) (obeys_pure _)
    apply obeys_bind hresolve
    intro resolved
    refine obeys_ite ?_ (tally_fatalException _)
    exact obeys_bind (tally_count fun _ => rfl) fun _ => obeys_pure _
  | breakpoint =>
    apply obeys_bind (tally_recordAt _ _ _)
    intro _
    exact obeys_bind (obeys_modifyFrame _) fun _ => obeys_pure _
  | debug => exact obeys_bind (tally_recordAt _ _ _) fun _ => obeys_pure _
  | _ => exact tally_fatalException _

theorem leadsAt_bind (law : Law σ) {β : Type} {body : Dispatch σ α} {next : α → Dispatch σ β}
    {state : Activation σ} (hbody : LeadsAt law.returns law.stops body state)
    (hnext : ∀ value middle, body state = .ok value middle →
      LeadsAt law.returns law.stops (next value) middle) :
    LeadsAt law.returns law.stops (body >>= next) state := by
  cases hrun : body state with
  | error stop middle =>
    exact leadsAt_of_error (Dispatch.bind_of_error hrun) (hbody.stopped hrun)
  | ok value middle =>
    have hrest := hnext value middle hrun
    have hfirst := hbody.returned hrun
    cases hend : next value middle with
    | ok last after =>
      exact leadsAt_of_ok ((Dispatch.bind_of_ok hrun).trans hend)
        (law.trans hfirst (hrest.returned hend))
    | error stop after =>
      exact leadsAt_of_error ((Dispatch.bind_of_ok hrun).trans hend)
        (law.trans_stops hfirst (hrest.stopped hend))

variable {frame : Frame} {kind : ExceptionKind} {state : Activation σ}

theorem tally_route (hframe : state.frame = frame)
    (hkind : kernel.faultKind? frame = some kind) :
    LeadsAt (kernel.Tallied server) (kernel.Tallied server) (kernel.route server cpu) state := by
  have hcount : ∀ (stats : Stats) vector trapClass assigned,
      (stats.recordTrap vector trapClass assigned).killed = stats.killed := by
    intro stats vector trapClass assigned
    unfold Stats.recordTrap
    split
    · rfl
    · cases trapClass <;> rfl
  have hbegins : ∀ {vector trapClass assigned} {body : Dispatch σ Outcome}, (tally kernel server).Obeys body →
      (tally kernel server).Obeys (do
        Dispatch.count (·.recordTrap vector trapClass assigned)
        Kernel.setState cpu .classified true
        body) := by
    intro vector trapClass assigned body hbody
    apply obeys_bind (tally_count fun stats => hcount stats vector trapClass assigned)
    intro _
    exact obeys_bind (tally_setState _ _) fun _ => hbody
  unfold Kernel.route
  apply (tally kernel server).leadsAt_bind (obeys_frame state)
  rintro _ _ ⟨⟩
  rw [hframe]
  cases hentry : kernel.vectors.lookup frame.vector with
  | none => exact hbegins tally_defaultFault state
  | some entry =>
    have hcause := Kernel.cause_of_lookup hentry
    unfold Kernel.faultKind? at hkind
    rw [hcause] at hkind
    simp only
    refine hbegins ?_ state
    cases hway : Cause.ofTrap frame entry with
    | exception other => exact tally_exception other
    | unassigned => exact tally_defaultFault
    | interrupt | syscall convention =>
      rw [hway] at hkind
      cases hkind

theorem tally_carryOut (hframe : state.frame = frame)
    (hkind : kernel.faultKind? frame = some kind) (outer : CpuSlot) :
    LeadsAt (kernel.Tallied server) (kernel.Tallied server) (kernel.carryOut server cpu outer) state := by
  have hleave : ∀ outcome, (tally kernel server).Obeys (do
      Kernel.leaveSlot cpu outer
      return outcome : Dispatch σ Outcome) :=
    fun outcome => obeys_bind (tally_setSlot _) fun _ => obeys_pure _
  have hrestore : ∀ outcome : Outcome, (tally kernel server).Obeys (do
      Kernel.setState cpu .restoring true
      let vector := (← Dispatch.frame).vector
      recordAt .trace LogTarget.dispatch s!"cpu{cpu.val}: vector {vector} -> {outcome.trace}"
      return outcome : Dispatch σ Outcome) := by
    intro outcome
    apply obeys_bind (tally_setState _ _)
    intro _
    apply obeys_bind obeys_frame
    intro frame
    exact obeys_bind (tally_recordAt _ _ _) fun _ => obeys_pure _
  unfold Kernel.carryOut
  refine (tally kernel server).leadsAt_bind (tally_setSlot _ state) ?_
  intro _ middle hentered
  have hmiddle : middle.frame = frame := by
    cases hentered
    exact hframe
  refine (tally kernel server).leadsAt_bind ?_ fun outcome last _ => hleave outcome last
  unfold Kernel.serveTrap
  exact (tally kernel server).leadsAt_bind (tally_route hmiddle hkind)
    fun outcome last _ => hrestore outcome last

/-- What a trap counts is what it terminates in the course of it. -/
theorem runsAt_handleTrap_tally (hserver : server.Still) (hframe : state.frame = frame)
    (hkind : kernel.faultKind? frame = some kind) :
    RunsAt (fun new _ after => ∀ x asked, new = [x, asked] → ∃ id first,
        (kernel.call server .cpuId).Ends state (.ok id) first ∧
        kernel.Tally server first.machine.stats.killed (ownEvents x.inner)
          after.machine.stats.killed)
      (kernel.handleTrap server) state := by
  unfold Kernel.handleTrap
  refine (runsAt_call hserver .cpuId state).bind ?_ ?_
  · rintro id first _ hrun ⟨asked, rfl, -, hsame⟩
    have hfirst : first.frame = frame := (hsame ⟨_, rfl⟩).1.trans hframe
    split
    case isFalse => exact runsAt_of_error [] rfl rfl fun x other h => by cases h
    case isTrue hid =>
      generalize (⟨UInt64.toNat id, hid⟩ : Fin maxCpus) = cpu
      cases haccepts : Kernel.accepts (first.machine.slots.get cpu) with
      | false =>
        have hrefused := acceptTrap_of_refuses haccepts
        exact runsAt_of_error [] (Dispatch.bind_of_error hrefused) rfl fun x other h => by cases h
      | true =>
        apply runsAt_next _ (acceptTrap_of_accepts haccepts) rfl
        apply runsAt_frame
        let start : Activation σ := { first with machine.journal := [] }
        have hstart : start.frame = frame := hfirst
        have hcarried : LeadsAt (kernel.Tallied server) (kernel.Tallied server)
            (kernel.carryOut server cpu (first.machine.slots.get cpu)) start :=
          tally_carryOut hstart hkind _
        have hcount : ∀ {last : Machine σ}, kernel.Tallied server start.machine last →
            kernel.Tally server first.machine.stats.killed (ownEvents last.journal)
              last.stats.killed := by
          rintro last ⟨_, ⟨new, hnew, rfl⟩, hlast⟩
          rw [hnew, List.append_nil]
          exact hlast
        cases hend : kernel.carryOut server cpu (first.machine.slots.get cpu) start with
        | ok outcome last =>
          refine runsAt_of_ok [_] (Dispatch.during_of_ok hend) rfl ?_
          rintro _ _ ⟨⟩
          exact ⟨id, first, hrun, hcount (hcarried.returned hend)⟩
        | error stop last =>
          refine runsAt_of_error [_] (Dispatch.during_of_error hend) rfl ?_
          rintro _ _ ⟨⟩
          exact ⟨id, first, hrun, hcount (hcarried.stopped hend)⟩
  · rintro stop after _ ⟨asked, rfl, -⟩ x other h
    cases h

end Law

theorem Kernel.Takes.tally {depth : Nat} {frame : Frame} {machine : Machine σ} {x : Activity}
    {kind : ExceptionKind} (h : kernel.Takes depth frame machine x)
    (hkind : kernel.faultKind? frame = some kind) :
    ∃ id first, (kernel.call (kernel.server depth) .cpuId).Ends
        { frame, requests := {}, machine } (.ok id) first ∧
      kernel.Tally (kernel.server depth) first.machine.stats.killed (ownEvents x.inner)
        (kernel.takeTrap depth frame machine).machine.stats.killed := by
  obtain ⟨asked, hjournal⟩ := h
  let start : Activation σ := { frame, requests := {}, machine }
  have hrun : RunsAt _ (kernel.handleTrap (kernel.server depth)) start :=
    Law.runsAt_handleTrap_tally (Kernel.server_still kernel depth) rfl hkind
  unfold Kernel.takeTrap Kernel.complete at hjournal ⊢
  cases hend : kernel.handleTrap (kernel.server depth) start with
  | ok outcome last =>
    obtain ⟨new, hnew, hcount⟩ := hrun.returned hend
    simp only [start] at hend
    simp only [hend] at hjournal ⊢
    rw [hjournal] at hnew
    exact hcount x asked (List.append_cancel_right hnew).symm
  | error stop last =>
    obtain ⟨new, hnew, hcount⟩ := hrun.stopped hend
    simp only [start] at hend
    simp only [hend] at hjournal ⊢
    rw [hjournal] at hnew
    exact hcount x asked (List.append_cancel_right hnew).symm

end TrapDispatch
