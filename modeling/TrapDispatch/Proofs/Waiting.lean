import TrapDispatch.Proofs.Counterparts
import TrapDispatch.Proofs.EnteredCalls
import TrapDispatch.Proofs.Requests

/-!
# Reads that wait

A read asks the file table until there is data, and waits at the scheduler in
between. Each try is a few calls to services, so what a read does is a list of
waits and one last try; the result is what the last try makes it.
-/

namespace TrapDispatch

variable {σ α : Type} {kernel : Kernel σ} {server : Server σ}

/-- Whether a state has the frame and the requests of another, but for the
contexts that the scheduler replied with. -/
def Activation.Keeps (before : Activation σ) (events : List Event) (after : Activation σ) : Prop :=
  after.frame = before.frame ∧
    after.requests = { before.requests with
      switch := (lastSwitch events).or before.requests.switch }

namespace Activation

variable {a b c : Activation σ} {events first second : List Event}

theorem Untouched.keeps (h : a.Untouched b) (hnone : lastSwitch events = none) :
    a.Keeps events b := by
  refine ⟨h.1, ?_⟩
  rw [h.2, hnone, Option.none_or]

theorem Keeps.trans (hfirst : a.Keeps first b) (hsecond : b.Keeps second c) :
    a.Keeps (first ++ second) c := by
  refine ⟨hsecond.1.trans hfirst.1, ?_⟩
  rw [hsecond.2, hfirst.2, lastSwitch_append, Option.or_assoc]

end Activation

/-- What a read keeps to: the file and the buffer that it asks for, the frame
that it shows the scheduler, and whether a signal ends its waiting. -/
structure Reading where
  file : UInt64
  buffer : UserBuffer
  shown : Frame
  interruptible : Bool

namespace Reading

variable {reading : Reading} {bound : Nat} {events : List Event} {result : Except Stop CallResult}
  {state : Activation σ}

def asks (reading : Reading) (reply : Except Stop (Except ErrorCode IoProgress)) : Event :=
  .service (.read reading.file reading.buffer) reply

def blocks (reading : Reading) (reply : Except Stop NextContext) : Event :=
  .service (.schedule reading.shown .blocked) reply

/-- The look for a signal that comes before a wait, if it finds none. -/
def unsignalled (reading : Reading) : List Event :=
  if reading.interruptible then [.service .signalPending (.ok false)] else []

/-- No data is there and no signal either, so that the read waits. -/
def waits (reading : Reading) (reply : Except Stop NextContext) : List Event :=
  reading.asks (.ok (.ok .wouldBlock)) :: reading.unsignalled ++ [reading.blocks reply]

/-- How the last try of a read goes, and what it makes the result. -/
inductive Ends (reading : Reading) : List Event → Except Stop CallResult → Prop where
  | done (count : UInt64) : Ends reading [reading.asks (.ok (.ok (.done count)))] (.ok (.ok count))
  | failed (code : ErrorCode) : Ends reading [reading.asks (.ok (.error code))] (.ok (.error code))
  /-- A signal is pending right after there was no data. -/
  | interrupted (h : reading.interruptible = true) :
      Ends reading [reading.asks (.ok (.ok .wouldBlock)), .service .signalPending (.ok true)]
        (.ok (.error .eintr))
  | unread (stop : Stop) : Ends reading [reading.asks (.error stop)] (.error stop)
  | unlooked (h : reading.interruptible = true) (stop : Stop) :
      Ends reading [reading.asks (.ok (.ok .wouldBlock)), .service .signalPending (.error stop)]
        (.error stop)
  | unwoken (stop : Stop) : Ends reading (reading.waits (.error stop)) (.error stop)

/-- What a read does in a number of tries: it waits for as long as there is no data
and no signal, and then either comes to an end or has used up the tries. -/
def Course (reading : Reading) (bound : Nat) (events : List Event)
    (result : Except Stop CallResult) : Prop :=
  ∃ (replies : List NextContext) (last : List Event),
    events = (replies.flatMap fun reply => reading.waits (.ok reply)) ++ last ∧
    (replies.length < bound ∧ reading.Ends last result ∨
      replies.length = bound ∧ last = [] ∧ result = .error .exhausted)

theorem Course.exhausted : reading.Course 0 [] (.error .exhausted) :=
  ⟨[], [], rfl, .inr ⟨rfl, rfl, rfl⟩⟩

theorem Ends.course (h : reading.Ends events result) : reading.Course (bound + 1) events result :=
  ⟨[], events, rfl, .inl ⟨bound.succ_pos, h⟩⟩

theorem Course.waited (h : reading.Course bound events result) (reply : NextContext) :
    reading.Course (bound + 1) (reading.waits (.ok reply) ++ events) result := by
  obtain ⟨replies, last, rfl, hlast⟩ := h
  refine ⟨reply :: replies, last, by rw [List.flatMap_cons, List.append_assoc], ?_⟩
  rw [List.length_cons]
  exact hlast.imp (And.imp_left Nat.succ_lt_succ) (And.imp_left (congrArg Nat.succ))

inductive Tries (reading : Reading) (before : Activation σ) : RunSpec σ (Option CallResult) where
  | waited {new : List Activity} {after : Activation σ} (reply : NextContext)
      (hevents : ownEvents new = reading.waits (.ok reply))
      (hafter : before.Keeps (ownEvents new) after) : Tries reading before new (.ok none) after
  | ended {new : List Activity} {value : CallResult} {after : Activation σ}
      (h : reading.Ends (ownEvents new) (.ok value)) (hafter : before.Keeps (ownEvents new) after) :
      Tries reading before new (.ok (some value)) after
  | stopped {new : List Activity} {stop : Stop} {after : Activation σ}
      (h : reading.Ends (ownEvents new) (.error stop)) :
      Tries reading before new (.error stop) after

structure At (reading : Reading) (state : Activation σ) : Prop where
  shown : reading.shown = state.frame
  interruptible : reading.interruptible = state.requests.interruptible

theorem At.of_keeps {after : Activation σ} (h : reading.At state)
    (hkeeps : state.Keeps events after) : reading.At after where
  shown := h.shown.trans hkeeps.1.symm
  interruptible := by rw [h.interruptible, hkeeps.2]

/-- What a read does is done between its own events, whether it returns or not. -/
theorem runsAt_repeated {body : Dispatch σ (Option CallResult)}
    (hbody : ∀ state, reading.At state → RunsAt (reading.Tries state) body state) (bound : Nat)
    (state : Activation σ) (hstate : reading.At state) :
    RunsAt (fun new result after => reading.Course bound (ownEvents new) result ∧
      ∀ value, result = .ok value → state.Keeps (ownEvents new) after)
      (repeated body bound) state := by
  induction bound generalizing state with
  | zero => exact runsAt_of_error [] rfl rfl ⟨.exhausted, fun value hvalue => by cases hvalue⟩
  | succ bound ih =>
    unfold repeated
    refine (hbody state hstate).bind ?_ ?_
    · rintro _ middle old - (⟨reply, hevents, hmiddle⟩ | ⟨hends, hmiddle⟩)
      · have hrest := ih middle (hstate.of_keeps hmiddle)
        apply hrest.mono
        rintro new result after ⟨hcourse, hafter⟩
        rw [ownEvents_append]
        refine ⟨?_, fun value hvalue => hmiddle.trans (hafter value hvalue)⟩
        rw [hevents]
        exact hcourse.waited reply
      · refine runsAt_of_ok [] rfl rfl ⟨hends.course, ?_⟩
        rintro _ ⟨⟩
        exact hmiddle
    · rintro stop after new (_ | _ | hends)
      exact ⟨hends.course, fun value hvalue => by cases hvalue⟩

/-- What a wait of a read comes to. -/
inductive Blocks (reading : Reading) (before : Activation σ) :
    RunSpec σ (Except ErrorCode Unit) where
  | woken {new : List Activity} {after : Activation σ} (reply : NextContext)
      (hevents : ownEvents new = reading.unsignalled ++ [reading.blocks (.ok reply)])
      (hafter : before.Keeps (ownEvents new) after) : Blocks reading before new (.ok (.ok ())) after
  | interrupted {new : List Activity} {after : Activation σ} (h : reading.interruptible = true)
      (hevents : ownEvents new = [.service .signalPending (.ok true)])
      (hafter : before.Keeps (ownEvents new) after) :
      Blocks reading before new (.ok (.error .eintr)) after
  | unlooked {new : List Activity} {stop : Stop} {after : Activation σ}
      (h : reading.interruptible = true)
      (hevents : ownEvents new = [.service .signalPending (.error stop)]) :
      Blocks reading before new (.error stop) after
  | unwoken {new : List Activity} {stop : Stop} {after : Activation σ}
      (hevents : ownEvents new = reading.unsignalled ++ [reading.blocks (.error stop)]) :
      Blocks reading before new (.error stop) after

theorem runsAt_wait (hserver : server.Still) (state : Activation σ) :
    RunsAt (fun new result after => ∃ reply, ownEvents new = [reading.blocks reply] ∧
      result = (reply.map fun _ => .ok ()) ∧
      ∀ value, result = .ok value → state.Keeps (ownEvents new) after)
      (kernel.wait server reading.shown) state := by
  unfold Kernel.wait
  refine (runsAt_call hserver (.schedule reading.shown .blocked) state).bind ?_ ?_
  · rintro reply middle _ - ⟨x, rfl, hx, hsame⟩
    have hevents : ownEvents [x] = [reading.blocks (.ok reply)] := ownEvents_call hx
    obtain ⟨hframe, hrequests⟩ := hsame ⟨reply, rfl⟩
    cases reply with
    | «continue» =>
      refine runsAt_of_ok [] rfl rfl ⟨_, hevents, rfl, fun _ _ => ?_⟩
      exact Activation.Untouched.keeps ⟨hframe, hrequests⟩ (by rw [List.nil_append, hevents]; rfl)
    | switch next =>
      refine runsAt_of_ok [] rfl rfl ⟨_, hevents, rfl, fun _ _ => ⟨hframe, ?_⟩⟩
      change middle.requests.keepSwitch next = _
      rw [List.nil_append, hevents, hrequests]
      rfl
  · rintro stop after _ ⟨x, rfl, hx, -⟩
    exact ⟨_, ownEvents_call hx, rfl, fun value hvalue => by cases hvalue⟩

theorem runsAt_block (hserver : server.Still) (state : Activation σ) (hstate : reading.At state) :
    RunsAt (reading.Blocks state) (kernel.block server reading.shown) state := by
  have hrequests : Dispatch.requests state = .ok state.requests state := rfl
  unfold Kernel.block
  apply runsAt_next _ hrequests rfl
  rw [← hstate.interruptible]
  cases hinterruptible : reading.interruptible with
  | false =>
    have hunsignalled : reading.unsignalled = [] := by rw [unsignalled, hinterruptible]; rfl
    rw [if_neg Bool.false_ne_true]
    refine (runsAt_wait hserver state).mono ?_
    rintro new _ after ⟨reply, hevents, rfl, hafter⟩
    cases reply with
    | ok next => exact .woken next (by rw [hevents, hunsignalled]; rfl) (hafter _ rfl)
    | error stop => exact .unwoken (by rw [hevents, hunsignalled]; rfl)
  | true =>
    have hunsignalled : reading.unsignalled = [.service .signalPending (.ok false)] := by
      rw [unsignalled, hinterruptible]; rfl
    rw [if_pos rfl]
    refine (runsAt_call hserver .signalPending state).bind ?_ ?_
    · rintro signalled middle _ - ⟨x, rfl, hx, hsame⟩
      have hfirst := ownEvents_call hx
      have hmiddle : state.Keeps (ownEvents [x]) middle :=
        (hsame ⟨signalled, rfl⟩).keeps (by rw [hfirst]; rfl)
      cases signalled with
      | true => exact runsAt_of_ok [] rfl rfl (.interrupted hinterruptible hfirst hmiddle)
      | false =>
        rw [if_neg Bool.false_ne_true]
        refine (runsAt_wait hserver middle).mono ?_
        rintro new _ after ⟨reply, hevents, rfl, hafter⟩
        have hall : ownEvents (new ++ [x]) = reading.unsignalled ++ [reading.blocks reply] := by
          rw [ownEvents_append, hfirst, hevents, hunsignalled]
        cases reply with
        | ok next =>
          refine .woken next hall ?_
          rw [ownEvents_append]
          exact hmiddle.trans (hafter _ rfl)
        | error stop => exact .unwoken hall
    · rintro stop after _ ⟨x, rfl, hx, -⟩
      exact .unlooked hinterruptible (ownEvents_call hx)

theorem runsAt_readOnce (hserver : server.Still) (bound : Nat) (state : Activation σ)
    (hstate : reading.At state) :
    RunsAt (reading.Tries state)
      (Program.run (S := handlerSignature σ) (kernel.serveHandler server) bound
        (CallHandler.readOnce reading.file reading.buffer)) state := by
  unfold CallHandler.readOnce
  refine (runsAt_call hserver (.read reading.file reading.buffer) state).bind ?_ ?_
  · rintro progress middle _ - ⟨x, rfl, hx, hsame⟩
    have hfirst : ownEvents [x] = [reading.asks (.ok progress)] := ownEvents_call hx
    have hmiddle : state.Keeps (ownEvents [x]) middle :=
      (hsame ⟨progress, rfl⟩).keeps (by rw [hfirst]; rfl)
    rcases progress with code | count | _
    · exact runsAt_of_ok [] rfl rfl (.ended (hfirst ▸ .failed code) hmiddle)
    · exact runsAt_of_ok [] rfl rfl (.ended (hfirst ▸ .done count) hmiddle)
    · have hmiddleAt := hstate.of_keeps hmiddle
      apply runsAt_frame
      rw [← hmiddleAt.shown]
      refine (runsAt_block hserver middle hmiddleAt).bind ?_ ?_
      · rintro _ last old - (⟨reply, hevents, hlast⟩ | ⟨h, hevents, hlast⟩)
        · refine runsAt_of_ok [] rfl rfl (.waited reply ?_ ?_)
          · rw [List.nil_append, ownEvents_append, hfirst, hevents]
            rfl
          · rw [List.nil_append, ownEvents_append]
            exact hmiddle.trans hlast
        · refine runsAt_of_ok [] rfl rfl (.ended ?_ ?_)
          · rw [List.nil_append, ownEvents_append, hfirst, hevents]
            exact .interrupted h
          · rw [List.nil_append, ownEvents_append]
            exact hmiddle.trans hlast
      · rintro stop after old (_ | _ | ⟨h, hevents⟩ | hevents)
        · refine .stopped ?_
          rw [ownEvents_append, hfirst, hevents]
          exact .unlooked h stop
        · refine .stopped ?_
          rw [ownEvents_append, hfirst, hevents]
          exact .unwoken stop
  · rintro stop after _ ⟨x, rfl, hx, -⟩
    exact .stopped (by rw [ownEvents_call hx]; exact .unread stop)

def of (file : UInt64) (buffer : UserBuffer) (state : Activation σ) : Reading :=
  ⟨file, buffer, state.frame, state.requests.interruptible⟩

theorem runsAt_read (hserver : server.Still) {descriptor : CallDescriptor σ} {arguments : Arguments}
    {buffer : UserBuffer} (hread : descriptor.handler = .read)
    (hbuffer : arguments.buffer 1 = some buffer) (state : Activation σ) :
    RunsAt (fun new result after =>
      (of (arguments.int 0) buffer state).Course server.bound (ownEvents new) result ∧
        ∀ value, result = .ok value → state.Keeps (ownEvents new) after)
      (kernel.handle server descriptor arguments) state := by
  unfold Kernel.handle
  rw [hread]
  unfold CallHandler.read
  rw [hbuffer]
  let reading := of (arguments.int 0) buffer state
  have honce : ∀ before, reading.At before → RunsAt (reading.Tries before)
      (Program.run (S := handlerSignature σ) (kernel.serveHandler server) server.bound
        (CallHandler.readOnce (arguments.int 0) buffer)) before :=
    fun before hbefore => runsAt_readOnce hserver server.bound before hbefore
  refine (runsAt_repeated honce server.bound state ⟨rfl, rfl⟩).bind ?_ ?_
  · rintro value after old - ⟨hcourse, hafter⟩
    exact runsAt_of_ok [] rfl rfl ⟨hcourse, hafter⟩
  · rintro stop after new ⟨hcourse, -⟩
    exact ⟨hcourse, fun value hvalue => by cases hvalue⟩

end Reading

/-- A read that all checks let through enters its handler. Whether or not a signal ends
the wait, all that the handler does is a course of tries, on the file that is named and
the buffer that was checked. While there is no data it calls the scheduler once and tries
again, and the scheduler is shown the frame of the caller. It returns what the file table
replies with, or that it was interrupted, as soon as a signal is pending where it would
wait. What it leaves to its trap is the context that the scheduler replied with last. -/
theorem reads_wait_for_data (kernel : Kernel σ) (depth : Nat) (number : UInt64)
    (words : ArgumentWords) (state : Activation σ) {descriptor : CallDescriptor σ}
    (hlookup : kernel.syscalls.lookup number = some descriptor)
    (hread : descriptor.handler = .read)
    (hkinds : descriptor.shape.arguments = [.int, .buffer .write])
    (hrequired : descriptor.shape.required = 2) :
    RunsAt (fun new result after => ∃ x, new = [x] ∧
      x.event = .systemCall number words state.frame result ∧
      (∀ window, kernel.syscalls.screen number words state.frame window = .ok descriptor →
        ∃ reply, .service .userRange reply ∈ ownEvents x.inner ∧
          (reply = .ok window → ∃ z ∈ x.inner, z.event.isHandler = true)) ∧
      ∀ z ∈ x.inner, ∀ entered arguments last, z.event = .handler entered arguments last →
        last = result ∧
        ∃ window buffer, .service .userRange (.ok window) ∈ ownEvents x.inner ∧
          arguments = ⟨[.int (words.word 0), .user buffer]⟩ ∧
          (ArgumentKind.buffer .write).Passes words 1 ⟨window, state.frame.arch.userTop⟩
            state.frame.privilege True (.user buffer) ∧
          Reading.Course ⟨words.word 0, buffer, state.frame, descriptor.shape.interruptible⟩ depth
            (ownEvents z.inner) result ∧
          ∀ value, result = .ok value → after.frame = state.frame ∧
            after.requests =
              { state.requests with
                interruptible := descriptor.shape.interruptible
                switch := (lastSwitch (ownEvents z.inner)).or state.requests.switch })
      (kernel.systemCall (kernel.server depth) number words) state := by
  refine (runsAt_enteredCall (kernel.server_still depth) number words state).mono ?_
  rintro _ result after ⟨x, rfl, hx, hcourse⟩
  refine ⟨x, rfl, hx, ?_⟩
  generalize x.inner = activities at hcourse ⊢
  cases hcourse with
  | refused hnone _ hscreen =>
    refine ⟨fun window hpassed => ?_, fun z hz entered arguments last hevent => ?_⟩
    · obtain ⟨reply, hreply, hother⟩ := hscreen window descriptor hpassed
      exact ⟨reply, hreply, fun hsame => absurd hsame hother⟩
    have hargument := hnone z hz
    rw [hevent] at hargument
    cases hargument
  | @entered w y window _ given _ before inner _ hw hfound hcheck hvalidate hframe hrequests
      hjournal hrun hy hinner huntouched =>
    cases hlookup.symm.trans hfound
    have hwindow : .service .userRange (.ok window) ∈ ownEvents [y, w] := by
      rw [ownEvents_entered hw hy]
      exact List.mem_cons_self
    obtain ⟨buffer, rfl, hpasses⟩ :=
      CallShape.arguments_of_validate hkinds hrequired hcheck hvalidate
    obtain ⟨new, hnew, hcourse, hafter⟩ :=
      (Reading.runsAt_read (kernel.server_still depth) hread rfl before).of_ends hrun
    rw [hjournal, List.append_nil] at hnew
    refine ⟨fun _ _ => ⟨_, hwindow, fun _ => ⟨y, List.mem_cons_self, by rw [hy]; rfl⟩⟩, ?_⟩
    intro z hz entered arguments last hevent
    rcases List.mem_cons.mp hz with rfl | hz
    · cases hy.symm.trans hevent
      refine ⟨rfl, window, buffer, hwindow, rfl, hpasses, ?_, fun value hvalue => ?_⟩
      · unfold Reading.of at hcourse
        rw [kernel.bound_server, hframe, hrequests] at hcourse
        rw [hinner, hnew]
        exact hcourse
      · obtain ⟨hkept, hasked⟩ := hafter value hvalue
        refine ⟨huntouched.1.trans (hkept.trans hframe), ?_⟩
        rw [huntouched.2, hasked, hrequests, hinner, hnew]
    · rw [List.mem_singleton.mp hz, hw] at hevent
      cases hevent

/-- Services with a file table that replies from a list, and a scheduler that goes
on elsewhere. -/
def Services.trickling (next : Frame) : Services (List (Except ErrorCode IoProgress)) where
  controllerName := "plain"
  perform
    | .read _ _ => do
      let replies ← ServiceProgram.world
      ServiceProgram.ask (.setWorld replies.tail)
      return replies.headD (.ok (.done 0))
    | .schedule _ _ => return .switch next
    | call => (Services.plain ⟨3⟩ (pure ())).perform call

def Kernel.trickling (next : Frame) : Kernel (List (Except ErrorCode IoProgress)) where
  vectors := ⟨.x86_64, 0⟩
  services := .trickling next
  syscalls := (SyscallTable.builtin.toOption).getD {}
  config := {}

/-- Data that is there at the third try is read after two waits, and the context that
the scheduler went on with is kept. -/
theorem third_try_reads_data :
    let kernel := Kernel.trickling otherContext
    let words : ArgumentWords := #v[0, 0x1800, 16, 0, 0, 0]
    let state : Activation (List (Except ErrorCode IoProgress)) :=
      ⟨default, {}, { world := [.ok .wouldBlock, .ok .wouldBlock, .ok (.done 5)] }⟩
    ∃ x after, kernel.systemCall (kernel.server 3) 2 words state = .ok (.ok 5) after ∧
      after.machine.journal = [x] ∧ (∃ z ∈ x.inner,
        Reading.Course ⟨0, ⟨0x1800, 16, .write⟩, state.frame, true⟩ 3 (ownEvents z.inner)
          (.ok (.ok 5))) ∧
      after.frame = state.frame ∧ after.requests.switch = some otherContext := by
  intro kernel words state
  have hlookup : kernel.syscalls.lookup 2 = some .read := rfl
  have hjournal : state.machine.journal = [] := rfl
  have hvalue : ((kernel.systemCall (kernel.server 3) 2 words).run' state).bind Except.toOption =
      some 5 := by
    decide +kernel
  have hswitch : ((kernel.systemCall (kernel.server 3) 2 words).left state).requests.switch =
      some otherContext := by
    decide +kernel
  have hentered : ((((kernel.systemCall (kernel.server 3) 2 words).left
      state).machine.journal.head?.bind fun x => x.inner.head?).bind fun z => z.event.arguments?) =
        some ⟨[.int 0, .user ⟨0x1800, 16, .write⟩]⟩ := by
    decide +kernel
  have hword : words.word 0 = 0 := rfl
  -- From here on the run is opaque: all that is needed of it has been evaluated.
  clear_value kernel words state
  have hreads := reads_wait_for_data kernel 3 2 words state hlookup rfl rfl rfl
  unfold Dispatch.left at hswitch hentered
  unfold EStateM.run' EStateM.run at hvalue
  cases hrun : kernel.systemCall (kernel.server 3) 2 words state with
  | error stop after =>
    rw [hrun] at hvalue
    cases hvalue
  | ok value after =>
    rw [hrun] at hvalue hswitch hentered
    cases Except.eq_ok_of_toOption hvalue
    obtain ⟨_, hafter, x, rfl, hx, -, hcourse⟩ := hreads.returned hrun
    rw [hjournal, List.append_nil] at hafter
    simp only [hafter, List.head?_cons, Option.bind_some] at hentered
    obtain ⟨z, hz, harguments⟩ := Option.bind_eq_some_iff.mp hentered
    obtain ⟨entered, last, hevent⟩ := Event.exists_of_arguments? harguments
    have hmem := List.mem_of_head? hz
    obtain ⟨-, window, buffer, -, hsame, -, hreading, hreturned⟩ :=
      hcourse z hmem entered _ last hevent
    rw [hword] at hsame hreading
    cases hsame
    exact ⟨x, after, rfl, hafter, ⟨z, hmem, hreading⟩, (hreturned _ rfl).1, hswitch⟩

end TrapDispatch
