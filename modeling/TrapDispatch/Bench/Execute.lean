import TrapDispatch.Bench.Host
import TrapDispatch.Interrupt.Scope

/-!
# Executing scripts

Each step becomes a program on its host. A step of a script notes its result, if
it has one. In a system call handler a step may settle the result of the call,
which ends the script.
-/

namespace TrapDispatch.Bench

/-- What a step leads to: its result, and the result of the call if it settled it. -/
structure StepEnd where
  result : Result := .nothing
  settled : Option CallResult := none

namespace StepEnd

/-- The end of a step that gives a result only. -/
def of (result : Result) : StepEnd := { result }

/-- The end of a step that settles the result of the call. -/
def settle (result : CallResult) : StepEnd := { settled := some result }

end StepEnd

/-- The answer to a change that may be refused. -/
def answer {ε : Type} (message : ε → String) : Except ε Unit → Result
  | .ok () => .accepted
  | .error why => .failure (message why)

namespace Host

variable {S : Signature} (host : Host S)

/-- The line that a controller names, as a result. -/
def lineResult : Option Irq → Result
  | some irq => .number irq.number.toNat
  | none => .nothing

def control (kind : ControllerKind) (call : ControlCall) : Program S Result := do
  let controller := host.controller kind
  match call with
  | .name => return .text controller.name
  | .triggerMode irq => return .mode (← controller.triggerMode irq)
  | .pending vector => return lineResult (← controller.pending vector)
  | .mask irq => controller.mask irq; return .nothing
  | .unmask irq => controller.unmask irq; return .nothing
  | .acknowledge irq => controller.acknowledge irq; return .nothing
  | .endOfInterrupt irq => controller.endOfInterrupt irq; return .nothing
  | .setPriority irq level =>
    return answer ControllerError.message (← controller.setPriority irq level)
  | .peek =>
    match kind with
    | .gic version3 => return lineResult (← (host.gic version3).peek)
    | _ => return .nothing
  | .version =>
    match kind with
    | .gic version3 => return .text (host.gic version3).version
    | _ => return .nothing
  | .isLocalMasked irq =>
    match kind with
    | .plic context => return .flag (← (host.plic context).isLocalMasked irq)
    | _ => return .nothing

/-- Makes an access to the word-only block. -/
def wordAccess (access : WordAccess) : Program S Result := do
  let block := (host.block "words").wordsOnly
  match access with
  | .read8 offset => return .word (← block.read8 offset).toUInt64
  | .write8 offset byte => block.write8 offset byte; return .nothing
  | .read32 offset => return .word (← block.read32 offset).toUInt64
  | .write32 offset word => block.write32 offset word; return .nothing

/-- Registers a handler in the dispatcher's registry or the spare one. -/
def register (spare : Bool) (irq : Irq) (driver : UInt32) (handler : HandlerId) :
    Program S (Except RegistryError RegistrationHandle) := do
  if spare then
    match (← host.world).spare.register irq driver handler with
    | .ok (handle, registry) =>
      host.modify fun world => { world with spare := registry }
      host.ask (.log (Registry.registeredRecord irq driver))
      return .ok handle
    | .error why => return .error why
  else host.ask (.register irq driver handler)

def unregister (spare : Bool) (handle : RegistrationHandle) :
    Program S (Except RegistryError Unit) := do
  if spare then
    match (← host.world).spare.unregister handle with
    | .ok registry =>
      host.modify fun world => { world with spare := registry }
      host.ask (.log (Registry.releasedRecord handle.irq))
      return .ok ()
    | .error why => return .error why
  else host.ask (.unregister handle)

def setEnabled (spare : Bool) (handle : RegistrationHandle) (on : Bool) :
    Program S (Except RegistryError Unit) := do
  if spare then
    match (← host.world).spare.setEnabled handle on with
    | .ok registry =>
      host.modify fun world => { world with spare := registry }
      return .ok ()
    | .error why => return .error why
  else host.ask (.setEnabled handle on)

def lookup (spare : Bool) (irq : Irq) : Program S (Option HandlerEntry) := do
  if spare then return (← host.world).spare.lookup irq
  else host.ask (.lookup irq)

/-- Whether the current CPU is at a nesting depth already. -/
def isAtDepth (ceiling : Option Nat) : Program S Bool := do
  return (← host.ask (.slot (← host.world).cpuId)).reaches ceiling

/-- Runs a program within an acknowledgement scope. -/
def within {α : Type} (kind : ControllerKind) (irq : Irq) (keepMasked : Bool)
    (body : Program S α) : Program S α :=
  let _ := host.recorder
  let controller := host.controller kind
  do
    let opened ← AckScope.opened controller irq
    host.note (.scope irq opened.mode)
    let scope := { opened with keepMasked }
    scope.servicing controller do return (← body, scope)

/-- Executes a step that needs a system call handler; elsewhere it does nothing. -/
def inHandler (body : ((op : HandlerRequest World) → Program S op.Reply) → Arguments →
    Program S StepEnd) : Program S StepEnd :=
  match host.handler with
  | none => return {}
  | some (request, arguments) => body request arguments

mutual

def step (kind : ControllerKind) : Step → Program S StepEnd
  | .trap frame ceiling => do
    if ← host.isAtDepth ceiling then return .of .skipped
    let (outcome, frame) ← host.ask (.trap frame)
    return .of (.trapped outcome frame)
  | .trapRaw raw ceiling => do
    if ← host.isAtDepth ceiling then return .of .skipped
    let (outcome, frame) ← host.ask (.trap raw.capture)
    return .of (.trappedRaw outcome frame.dirty (raw.restore frame))
  | .enter frame => do return .of (.frame (← host.ask (.enter frame)))
  | .install => do
    host.ask .install
    return {}
  | .syscall number words frame => do
    let report ← host.ask (.call number words frame)
    let again := report.requests.takeDeferred.2.takeDeferred.1.isSome
    return .of (.called report again)
  | .probe cpu => do
    let world ← host.world
    return .of (.probed (← host.ask (.slot (cpu.getD world.cpuId))) world.interrupts)
  | .stats vectors codes => do return .of (.stats (← host.ask .stats) vectors codes)
  | .config irqs => do
    let (config, table) ← host.ask .settings
    return .of (.config config irqs table)
  | .control call => do return .of (← host.control kind call)
  | .guard irq keepMasked body => do
    let settled ← host.within kind irq keepMasked (script kind body)
    return { settled }
  | .set block offset word => do
    host.modify fun world =>
      let bank := world.bank block
      world.withBank block { bank with memory := bank.memory.write32 offset word }
    return {}
  | .onRead block offset word => do
    host.modify fun world => world.withBank block ((world.bank block).fix offset word)
    return {}
  | .queue block offset words => do
    host.modify fun world => world.withBank block ((world.bank block).queue offset words)
    return {}
  | .io access => do return .of (← host.wordAccess access)
  | .level irq => do
    host.modify fun world => { world with levelLines := irq :: world.levelLines }
    return {}
  | .spurious vector => do
    host.modify fun world => { world with spuriousVectors := vector :: world.spuriousVectors }
    return {}
  | .register spare irq driver id body => do
    let handler := (← host.world).handlers.length
    host.modify fun world => { world with handlers := world.handlers ++ [(id, body)] }
    match ← host.register spare irq driver handler with
    | .ok handle =>
      host.modify (·.keepHandle id handle)
      return .of (.registered handle.irq)
    | .error why => return .of (.failure why.message)
  | .unregister spare id => do
    match (← host.world).handle? id with
    | none => return .of .noHandle
    | some handle => return .of (answer RegistryError.message (← host.unregister spare handle))
  | .enable spare id on => do
    match (← host.world).handle? id with
    | none => return .of .noHandle
    | some handle =>
      return .of (answer RegistryError.message (← host.setEnabled spare handle on))
  | .lookup spare irq => do
    match ← host.lookup spare irq with
    | none => return {}
    | some entry => return .of (.entry entry)
  | .registered spare irq => do return .of (.flag (← host.lookup spare irq).isSome)
  | .same id other => do
    let world ← host.world
    return .of (.flag (world.handle? id == world.handle? other))
  | .call spare irq => do
    match ← host.lookup spare irq with
    | none => return .of .noHandler
    | some entry =>
      host.ask (.invoke entry.handler irq)
      return .of .invoked
  | .reply next => do
    host.modify fun world => { world with replies := world.replies ++ [next] }
    return {}
  | .back address => do
    host.modify fun world => { world with
        backedPages := Address.page ⟨address⟩ :: world.backedPages }
    return {}
  | .onFault body => do
    host.modify fun world => { world with onFault := body }
    return {}
  | .process pid window signal => do
    host.modify fun world =>
      { world with
        pid := pid.getD world.pid
        window := window.getD world.window
        signal := signal.getD world.signal }
    return {}
  | .cpu id now pace => do
    host.modify fun world =>
      { world with
        cpuId := id.getD world.cpuId
        now := now.getD world.now
        pace := pace.getD world.pace }
    return {}
  | .queueRead reply => do
    host.modify fun world => { world with readReplies := world.readReplies ++ [reply] }
    return {}
  | .queueWrite result => do
    host.modify fun world => { world with writeResults := world.writeResults ++ [result] }
    return {}
  | .poke offset bytes => do
    host.modify (·.poke offset bytes)
    return {}
  | .peek offset length => do return .of (.bytes ((← host.world).bytesAt offset length))
  | .panic message => .panic message
  | .block => host.inHandler fun request _ => do
    match ← request (.block (← request .frame)) with
    | .ok () => return {}
    | .error code => return .settle (.error code)
  | .defer reason => host.inHandler fun request _ => do
    request (.defer reason)
    return {}
  | .takeDeferred => host.inHandler fun request _ => do
    return .of (.deferred (← request .takeDeferred))
  | .takeSwitch => host.inHandler fun request _ => do
    return .of (.switch (← request .takeSwitch))
  | .argBytes index => host.inHandler fun _ arguments => do
    match (arguments.buffer index).bind (← host.world).bytesOf? with
    | some bytes => return .of (.bytes bytes)
    | none => return .of .unmapped
  | .answer value => host.inHandler fun _ _ => return .settle (.ok value)
  | .fail code => host.inHandler fun _ _ => return .settle (.error code)

/-- Executes the steps of a script in order, up to one that settles the result. -/
def script (kind : ControllerKind) : List Step → Program S (Option CallResult)
  | [] => return none
  | first :: rest => do
    let stepEnd ← step kind first
    match stepEnd.result with
    | .nothing => pure ()
    | result => host.note (.step first result)
    match stepEnd.settled with
    | some result => return some result
    | none => script kind rest

end

end Host
end TrapDispatch.Bench
