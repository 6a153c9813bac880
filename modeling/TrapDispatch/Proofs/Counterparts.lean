import TrapDispatch.Proofs.Confinement
import TrapDispatch.Proofs.Pairings

/-!
# Counterparts

Kernels for different architectures with the same calls, whose services reply alike, frames
aside. A handler that hands frames on, but does nothing else with them, makes its requests alike
under both. So a system call takes the same course in both, from the check of its arguments to
the reschedule that it has asked for: the layouts of their address spaces make no difference to
windows that end low enough.
-/

namespace TrapDispatch

variable {σ : Type}

/-- Whether a request has to do neither with frames nor with a service of its own. -/
def HandlerRequest.isFrameless : HandlerRequest σ → Bool
  | .base _ | .frame | .setFrame _ | .block _ | .takeSwitch => false
  | _ => true

def Call.isOfSystemCall : Call → Bool
  | .cpuId | .enableInterrupts | .disableInterrupts | .pid | .userRange | .terminate _
  | .signalPending | .write _ _ | .read _ _ => true
  | _ => false

theorem Call.isSchedule_of_isOfSystemCall {c : Call} (h : c.isOfSystemCall = true) :
    c.isSchedule = false := by
  cases c <;> first | rfl | cases h

def lowTop : UInt64 := 0x4000000000

namespace Pairing

variable (pairing : Pairing σ)

/-- Requests of handlers that are answered alike, and how, given those of all services. Frames
may be handed on, and are not compared. -/
inductive Answers (bases : (a b : Request σ) → (a.Reply → b.Reply → Prop) → Prop) :
    (a b : HandlerRequest σ) → (a.Reply → b.Reply → Prop) → Prop where
  | base {a b : Request σ} {replies : a.Reply → b.Reply → Prop} (h : bases a b replies) :
      Answers bases (.base a) (.base b) replies
  | frame : Answers bases .frame .frame pairing.Frames
  | setFrame {f g : Frame} (h : pairing.Frames f g) :
      Answers bases (.setFrame f) (.setFrame g) (· = ·)
  | block {f g : Frame} (h : pairing.Frames f g) : Answers bases (.block f) (.block g) (· = ·)
  | takeSwitch : Answers bases .takeSwitch .takeSwitch fun s t => s.isSome = t.isSome
  | frameless {op : HandlerRequest σ} (h : op.isFrameless = true) : Answers bases op op (· = ·)

/-- Whether the handler of a call does nothing with frames but hand them on. -/
def Blind (bases : (a b : Request σ) → (a.Reply → b.Reply → Prop) → Prop)
    (descriptor : CallDescriptor σ) : Prop :=
  ∀ arguments, Program.Similar (S := handlerSignature σ) (pairing.Answers bases) (· = ·)
    (descriptor.handler arguments) (descriptor.handler arguments)

/-- Whether the servers of two kernels reply alike to requests of handlers. -/
def Replies (server other : Server σ) (a b : Request σ)
    (replies : a.Reply → b.Reply → Prop) : Prop :=
  pairing.Keeps [] [] pairing.Frames replies (server.reply a) (other.reply b)

/-- Whether two kernels are counterparts, with services nested no deeper than `depth`: they have
the same calls, whose handlers are blind, their services answer these alike, and user windows
end below every top of a user half. -/
structure Kernels (kernel other : Kernel σ) (depth : Nat) : Prop where
  first : kernel.vectors.arch = pairing.first
  second : other.vectors.arch = pairing.second
  syscalls : other.syscalls = kernel.syscalls
  serves : ∀ c : Call, c.isOfSystemCall = true → pairing.Serves (· = ·)
    ((kernel.server depth).run (kernel.services.perform c))
    ((other.server depth).run (other.services.perform c))
  schedules : ∀ f g reason, pairing.Frames f g → pairing.Serves NextContext.Alike
    ((kernel.server depth).run (kernel.services.perform (.schedule f reason)))
    ((other.server depth).run (other.services.perform (.schedule g reason)))
  windows : Law.Gives (fun window : UserRange => window.stop ≤ lowTop)
    ((kernel.server depth).run (kernel.services.perform .userRange))
  handlers : ∀ number descriptor, kernel.syscalls.lookup number = some descriptor →
    pairing.Blind (pairing.Replies (kernel.server depth) (other.server depth)) descriptor

end Pairing

def Only (one two frame other : Frame) : Prop :=
  frame = one ∧ other = two

/-- Whether two frames carry the same call of one caller, each by a convention of its own. -/
structure SameCall (convention : Convention) (one : Frame) (convention' : Convention)
    (two : Frame) : Prop where
  privilege : two.privilege = one.privilege
  number : convention'.numberIn two = convention.numberIn one
  words : convention'.argumentsIn two = convention.argumentsIn one

theorem AddressGuard.Allows.below_top {window : UserRange} {top other pointer length : UInt64}
    {requester : Privilege} (h : Allows ⟨window, top⟩ pointer length requester)
    (hother : window.stop ≤ other) : Allows ⟨window, other⟩ pointer length requester := by
  have hend := UInt64.le_iff_toNat_le.mp hother
  have hstop : pointer.toNat + length.toNat ≤ window.stop.toNat := h.stop
  have hpointer : pointer < window.stop := by
    by_cases hempty : length = 0
    · exact h.inside hempty
    · have hlength : 0 < length.toNat := by
        have hzero : length.toNat ≠ 0 := fun hzero => hempty (UInt64.toNat_inj.mp hzero)
        omega
      exact UInt64.lt_iff_toNat_lt.mpr (by omega)
  have hbelow := UInt64.lt_iff_toNat_lt.mp hpointer
  exact { h with
    below := UInt64.lt_iff_toNat_lt.mpr (Nat.lt_of_lt_of_le hbelow hend)
    top := Nat.le_trans hstop hend }

/-- What the guard says of a window below the top of the user half does not depend on where
that is. -/
theorem AddressGuard.isValid_of_le {window : UserRange} {top other : UInt64}
    (htop : window.stop ≤ top) (hother : window.stop ≤ other) (pointer length : UInt64)
    (requester : Privilege) :
    AddressGuard.isValid ⟨window, top⟩ pointer length requester =
      AddressGuard.isValid ⟨window, other⟩ pointer length requester := by
  rw [Bool.eq_iff_iff, isValid_iff, isValid_iff]
  exact ⟨fun h => h.below_top hother, fun h => h.below_top htop⟩

theorem CallShape.validate_of_le {window : UserRange} {top other : UInt64}
    (htop : window.stop ≤ top) (hother : window.stop ≤ other) (shape : CallShape)
    (words : ArgumentWords) (caller : Privilege) :
    shape.validate words ⟨window, top⟩ caller = shape.validate words ⟨window, other⟩ caller := by
  have hraw : RawArgument.validate ⟨window, top⟩ caller =
      RawArgument.validate ⟨window, other⟩ caller := by
    funext raw
    unfold RawArgument.validate
    rw [AddressGuard.isValid_of_le htop hother]
  unfold validate
  rw [hraw]

theorem lowTop_le_userTop (arch : Arch) : lowTop ≤ arch.userTop := by
  cases arch <;> decide

theorem Kernel.bound_server (kernel : Kernel σ) (depth : Nat) :
    (kernel.server depth).bound = depth := by
  cases depth <;> rfl

namespace Pairing

variable {α β : Type} {pairing : Pairing σ} {kernel other : Kernel σ} {depth : Nat}
  {cpu : Fin maxCpus} {old older : List Activity} {frames : Frame → Frame → Prop}

theorem Requests.defer (reason : ScheduleReason) {requests others : CallRequests}
    (h : Requests requests others) : Requests (requests.defer reason) (others.defer reason) := by
  unfold CallRequests.defer
  rw [h.deferred]
  split
  · exact h
  · exact { h with deferred := rfl }

theorem lockstep_takeDeferred :
    pairing.Keeps old older frames (· = ·) Kernel.takeDeferred Kernel.takeDeferred :=
  fun _ _ h => .returned h.requests.deferred
    { h with requests := { h.requests with deferred := rfl } }

theorem lockstep_takeSwitch :
    pairing.Keeps old older frames (fun s t => s.isSome = t.isSome) Kernel.takeSwitch
      Kernel.takeSwitch :=
  fun _ _ h => .returned h.requests.switch
    { h with requests := { h.requests with switch := rfl } }

theorem lockstep_acceptTrap :
    pairing.Keeps old older frames (· = ·) (Kernel.acceptTrap (σ := σ) cpu)
      (Kernel.acceptTrap cpu) := by
  unfold Kernel.acceptTrap
  refine lockstep_machine.bind fun m n hmachines => ?_
  rw [hmachines.slots]
  refine lockstep_frame.bind fun _ _ _ => ?_
  split
  · exact .pure rfl
  · exact lockstep_fatal _ _

section

variable (hkernels : pairing.Kernels kernel other depth)

include hkernels

theorem lockstep_same {c : Call} (h : c.isOfSystemCall = true) :
    pairing.Keeps old older frames (· = ·) (kernel.call (kernel.server depth) c)
      (other.call (other.server depth) c) :=
  lockstep_call (kernel.server_still depth) (other.server_still depth)
    (.same (Call.isSchedule_of_isOfSystemCall h)) (hkernels.serves c h)

theorem lockstep_userRange :
    pairing.Keeps old older frames (fun window window' => window = window' ∧ window.stop ≤ lowTop)
      (kernel.call (kernel.server depth) .userRange)
      (other.call (other.server depth) .userRange) := by
  refine lockstep_call (kernel.server_still depth) (other.server_still depth) (.same rfl) ?_
  exact Lockstep.giving (hkernels.serves .userRange rfl) hkernels.windows

theorem lockstep_schedule {f g : Frame} (h : pairing.Frames f g) (reason : ScheduleReason) :
    pairing.Keeps old older frames NextContext.Alike
      (kernel.schedule (kernel.server depth) f reason)
      (other.schedule (other.server depth) g reason) :=
  lockstep_call (kernel.server_still depth) (other.server_still depth) (.schedule reason h)
    (hkernels.schedules f g reason h)

theorem lockstep_wait {f g : Frame} (h : pairing.Frames f g) :
    pairing.Keeps old older frames (· = ·) (kernel.wait (kernel.server depth) f)
      (other.wait (other.server depth) g) := by
  unfold Kernel.wait
  refine (lockstep_schedule hkernels h .blocked).bind ?_
  rintro _ _ (_ | ⟨next, next'⟩)
  · exact .pure rfl
  · refine (lockstep_modifyRequests fun r q hrequests => ?_).bind fun _ _ _ => .pure rfl
    exact { hrequests with switch := rfl }

theorem lockstep_block {f g : Frame} (h : pairing.Frames f g) :
    pairing.Keeps old older frames (· = ·) (kernel.block (kernel.server depth) f)
      (other.block (other.server depth) g) := by
  unfold Kernel.block
  refine lockstep_requests.bind fun requests requests' hrequests => ?_
  rw [hrequests.interruptible]
  split
  · refine (lockstep_same hkernels rfl).bind ?_
    rintro signalled _ rfl
    cases signalled with
    | true => exact .pure rfl
    | false => exact lockstep_wait hkernels h
  · exact lockstep_wait hkernels h

/-- Whatever a handler asks for that is answered alike is served alike. -/
theorem lockstep_serveHandler {a b : HandlerRequest σ} {replies : a.Reply → b.Reply → Prop}
    (h : pairing.Answers (pairing.Replies (kernel.server depth) (other.server depth)) a b replies) :
    pairing.Keeps [] [] pairing.Frames replies (kernel.serveHandler (kernel.server depth) a)
      (other.serveHandler (other.server depth) b) := by
  have hcall : ∀ c : Call, c.isOfSystemCall = true → pairing.Keeps [] [] pairing.Frames (· = ·)
      (kernel.call (kernel.server depth) c) (other.call (other.server depth) c) :=
    fun c => lockstep_same hkernels
  cases h with
  | base h => exact h
  | frame => exact lockstep_frame
  | setFrame h => exact lockstep_modifyFrame fun _ _ _ => h
  | block h => exact lockstep_block hkernels h
  | takeSwitch => exact lockstep_takeSwitch
  | frameless h =>
    cases a with
    | base op => cases h
    | frame => cases h
    | setFrame next => cases h
    | block shown => cases h
    | takeSwitch => cases h
    | defer reason => exact lockstep_modifyRequests fun _ _ => Requests.defer reason
    | takeDeferred => exact lockstep_takeDeferred
    | pid => exact hcall .pid rfl
    | userRange => exact hcall .userRange rfl
    | terminate reason => exact hcall (.terminate reason) rfl
    | signalPending => exact hcall .signalPending rfl
    | write file buffer => exact hcall (.write file buffer) rfl
    | read file buffer => exact hcall (.read file buffer) rfl

theorem lockstep_runHandler {descriptor : CallDescriptor σ}
    (hblind : pairing.Blind (pairing.Replies (kernel.server depth) (other.server depth)) descriptor)
    (arguments : Arguments) :
    pairing.Keeps old older pairing.Frames (· = ·)
      (kernel.runHandler (kernel.server depth) descriptor arguments)
      (other.runHandler (other.server depth) descriptor arguments) := by
  unfold Kernel.runHandler
  -- Each bound on its own: to compare the servers would be to compare all that they do.
  rw [kernel.bound_server, other.bound_server]
  refine lockstep_during (fun _ => rfl) (fun _ => rfl) ?_
  exact Lockstep.run (S := handlerSignature σ) (fun _ _ _ => lockstep_serveHandler hkernels)
    (hblind arguments)

/-- The same call takes the same course, whichever frames it is made with. -/
theorem lockstep_serveCall {one two : Frame} (hprivilege : two.privilege = one.privilege)
    (number : UInt64) (words : ArgumentWords) :
    pairing.Keeps old older pairing.Frames (· = ·)
      (kernel.serveCall (kernel.server depth) number words one)
      (other.serveCall (other.server depth) number words two) := by
  unfold Kernel.serveCall
  rw [hkernels.syscalls, hprivilege]
  cases hlookup : kernel.syscalls.lookup number with
  | none => exact (lockstep_recordAt _ _ _ _ _ _).bind fun _ _ _ => .pure rfl
  | some descriptor =>
    dsimp only
    split
    · exact (lockstep_recordAt _ _ _ _ _ _).bind fun _ _ _ => .pure rfl
    split
    · exact .pure rfl
    refine (lockstep_userRange hkernels).bind ?_
    rintro window _ ⟨rfl, hlow⟩
    rw [descriptor.shape.validate_of_le (UInt64.le_trans hlow (lowTop_le_userTop two.arch))
      (UInt64.le_trans hlow (lowTop_le_userTop one.arch))]
    split
    · exact .pure rfl
    next arguments _ =>
      refine (lockstep_recordAt _ _ _ _ _ _).bind fun _ _ _ => ?_
      refine (lockstep_modifyRequests fun _ _ hrequests => ?_).bind fun _ _ _ => ?_
      · exact { hrequests with interruptible := rfl }
      · exact lockstep_runHandler hkernels (hkernels.handlers _ _ hlookup) arguments

theorem lockstep_systemCall {one two : Frame} (hframes : pairing.Frames one two)
    (hprivilege : two.privilege = one.privilege) (number : UInt64) (words : ArgumentWords) :
    Lockstep (pairing.States old older (Only one two)) (pairing.States old older pairing.Frames)
      (· = ·) (kernel.systemCall (kernel.server depth) number words)
      (other.systemCall (other.server depth) number words) := by
  unfold Kernel.systemCall
  refine lockstep_frame.bind ?_
  rintro _ _ ⟨rfl, rfl⟩
  refine lockstep_during (fun _ => rfl) (fun _ => rfl) ?_
  refine (lockstep_serveCall hkernels hprivilege number words).weaken fun a b hstate => ?_
  refine { hstate with frames := ?_ }
  rw [hstate.frames.1, hstate.frames.2]
  exact hframes

theorem lockstep_interruptible {frames others : Frame → Frame → Prop} {values : α → β → Prop}
    {body : Dispatch σ α} {body' : Dispatch σ β}
    (h : Lockstep (pairing.States old older frames) (pairing.States old older others) values body
      body') :
    Lockstep (pairing.States old older frames) (pairing.States old older others) values
      (kernel.interruptible (kernel.server depth) cpu body)
      (other.interruptible (other.server depth) cpu body') := by
  unfold Kernel.interruptible Kernel.setState
  refine (lockstep_setSlot cpu _).bind fun _ _ _ => ?_
  refine (lockstep_same hkernels rfl).bind fun _ _ _ => ?_
  refine h.bind fun value result hvalue => ?_
  refine (lockstep_same hkernels rfl).bind fun _ _ _ => ?_
  exact (lockstep_setSlot cpu _).bind fun _ _ _ => .pure hvalue

theorem lockstep_reschedule (reason : ScheduleReason) :
    pairing.Keeps old older pairing.Frames (· = ·)
      (kernel.reschedule (kernel.server depth) reason)
      (other.reschedule (other.server depth) reason) := by
  unfold Kernel.reschedule
  refine lockstep_frame.bind fun f g hframes => ?_
  refine (lockstep_schedule hkernels hframes reason).bind ?_
  rintro _ _ (_ | ⟨next, next'⟩)
  · dsimp only
    split
    · exact lockstep_fatal _ _
    · exact .pure rfl
  · exact lockstep_modifyFrame fun _ _ h => ⟨h.first, h.second⟩

theorem lockstep_settle :
    pairing.Keeps old older pairing.Frames (· = ·) (kernel.settle (kernel.server depth))
      (other.settle (other.server depth)) := by
  unfold Kernel.settle
  refine lockstep_takeDeferred.bind ?_
  rintro deferred _ rfl
  cases deferred with
  | some reason => exact lockstep_reschedule hkernels reason
  | none =>
    refine lockstep_takeSwitch.bind ?_
    rintro (_ | next) (_ | next') hswitch
    · exact .pure rfl
    · cases hswitch
    · cases hswitch
    · exact lockstep_modifyFrame fun _ _ h => ⟨h.first, h.second⟩

variable {one two : Frame} {convention convention' : Convention}
  (hframes : pairing.Frames one two) (hcallers : SameCall convention one convention' two)

include hframes hcallers

theorem lockstep_syscallTrap :
    Lockstep (pairing.States old older (Only one two)) (pairing.States old older pairing.Frames)
      (· = ·) (kernel.syscallTrap (kernel.server depth) cpu convention)
      (other.syscallTrap (other.server depth) cpu convention') := by
  unfold Kernel.syscallTrap
  refine lockstep_frame.bind ?_
  rintro _ _ ⟨rfl, rfl⟩
  rw [hcallers.number, hcallers.words]
  refine (lockstep_interruptible hkernels
    (lockstep_systemCall hkernels hframes hcallers.privilege _ _)).bind ?_
  rintro result _ rfl
  have hend : pairing.Keeps old older pairing.Frames (· = ·)
      (do
        Dispatch.modifyFrame (convention.writeBack · result)
        kernel.settle (kernel.server depth)
        return Outcome.syscall result)
      (do
        Dispatch.modifyFrame (convention'.writeBack · result)
        other.settle (other.server depth)
        return Outcome.syscall result) := by
    have hwritten : ∀ f g, pairing.Frames f g →
        pairing.Frames (convention.writeBack f result) (convention'.writeBack g result) :=
      fun f g h => ⟨(convention.arch_writeBack f result).trans h.first,
        (convention'.arch_writeBack g result).trans h.second⟩
    refine (lockstep_modifyFrame hwritten).bind fun _ _ _ => ?_
    exact (lockstep_settle hkernels).bind fun _ _ _ => .pure rfl
  cases result with
  | ok value => exact hend
  | error code =>
    refine (lockstep_count _ _).bind fun _ _ _ => ?_
    exact (lockstep_recordAt _ _ _ _ _ _).bind fun _ _ _ => hend

variable (hcause : kernel.cause one = .syscall convention)
  (hcause' : other.cause two = .syscall convention')

include hcause hcause'

theorem lockstep_route :
    Lockstep (pairing.States old older (Only one two)) (pairing.States old older pairing.Frames)
      (· = ·) (kernel.route (kernel.server depth) cpu) (other.route (other.server depth) cpu) := by
  obtain ⟨entry, hlookup, hkind⟩ := Kernel.exists_entry_of_cause hcause nofun
  obtain ⟨entry', hlookup', hkind'⟩ := Kernel.exists_entry_of_cause hcause' nofun
  unfold Kernel.route Kernel.setState
  refine lockstep_frame.bind ?_
  rintro _ _ ⟨rfl, rfl⟩
  rw [hlookup, hlookup']
  dsimp only
  rw [hkind, hkind']
  refine (lockstep_count _ _).bind fun _ _ _ => ?_
  refine (lockstep_setSlot cpu _).bind fun _ _ _ => ?_
  exact lockstep_syscallTrap hkernels hframes hcallers

theorem lockstep_serveTrap :
    Lockstep (pairing.States old older (Only one two)) (pairing.States old older pairing.Frames)
      (· = ·) (kernel.serveTrap (kernel.server depth) cpu)
      (other.serveTrap (other.server depth) cpu) := by
  unfold Kernel.serveTrap Kernel.setState
  refine (lockstep_route hkernels hframes hcallers hcause hcause').bind ?_
  rintro outcome _ rfl
  refine (lockstep_setSlot cpu _).bind fun _ _ _ => ?_
  refine lockstep_frame.bind fun _ _ _ => ?_
  exact (lockstep_recordAt _ _ _ _ _ _).bind fun _ _ _ => .pure rfl

theorem lockstep_carryOut (outer : CpuSlot) :
    Lockstep (pairing.States old older (Only one two)) (pairing.States old older pairing.Frames)
      (· = ·) (kernel.carryOut (kernel.server depth) cpu outer)
      (other.carryOut (other.server depth) cpu outer) := by
  unfold Kernel.carryOut Kernel.enterSlot Kernel.leaveSlot
  refine (lockstep_setSlot cpu _).bind fun _ _ _ => ?_
  refine (lockstep_serveTrap hkernels hframes hcallers hcause hcause').bind ?_
  rintro outcome _ rfl
  exact (lockstep_setSlot cpu _).bind fun _ _ _ => .pure rfl

theorem lockstep_handleTrap :
    Lockstep (pairing.States old older (Only one two)) (pairing.States old older pairing.Frames)
      (· = ·) (kernel.handleTrap (kernel.server depth))
      (other.handleTrap (other.server depth)) := by
  unfold Kernel.handleTrap
  refine (lockstep_same hkernels rfl).bind ?_
  rintro id _ rfl
  split
  next hid =>
    refine lockstep_acceptTrap.bind ?_
    rintro outer _ rfl
    refine lockstep_frame.bind fun f g _ => ?_
    exact lockstep_during (fun _ => rfl) (fun _ => rfl)
      (lockstep_carryOut hkernels hframes hcallers hcause hcause' outer)
  · exact lockstep_fatal _ _

end

end Pairing

end TrapDispatch
