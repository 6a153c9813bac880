import TrapDispatch.Bench.Execute
import TrapDispatch.Kernel.Server

/-!
# Services of the bench

Services that note the calls they get and reply from what scripts have prepared.
-/

namespace TrapDispatch.Bench

open Host (service)

/-- Device handlers run the script they were registered with. -/
def device (kind : ControllerKind) (handler : HandlerId) (irq : Irq) :
    ServiceProgram World Unit := do
  match (← service.world).handlers[handler]? with
  | none => return ()
  | some (id, body) =>
    service.note (.device id irq)
    let _ ← service.script kind body

/-- The scheduler gives the replies of a queue. -/
def schedule (shown : Frame) (reason : ScheduleReason) : ServiceProgram World NextContext := do
  service.note (.scheduled shown reason)
  service.modifyGet fun world =>
    match world.replies with
    | [] => (.continue, world)
    | next :: rest => (next, { world with replies := rest })

/-- The memory manager resolves faults on backed pages, after running its script. -/
def resolveFault (kind : ControllerKind) (address : Address) (access : Access) :
    ServiceProgram World Bool := do
  service.note (.fault address access)
  let _ ← service.script kind (← service.world).onFault
  return (← service.world).backedPages.contains address.page

/-- Writes succeed in full on files 1 and 2, unless a result was prepared. -/
def writeFile (file : UInt64) (buffer : UserBuffer) : ServiceProgram World CallResult := do
  service.note (.fileWritten file buffer ((← service.world).bytesOf? buffer))
  service.modifyGet fun world =>
    match world.writeResults with
    | result :: rest => (result, { world with writeResults := rest })
    | [] => (if file = 1 ∨ file = 2 then .ok buffer.length else .error .ebadf, world)

/-- Reads of file 0 find what was prepared, or its end. -/
def readFile (file : UInt64) (buffer : UserBuffer) :
    ServiceProgram World (Except ErrorCode IoProgress) := do
  service.note (.fileRead file buffer)
  if file ≠ 0 then return .error .ebadf
  service.modifyGet fun world =>
    match world.readReplies with
    | [] => (.ok (.done 0), world)
    | reply :: rest =>
      let world := { world with readReplies := rest }
      match reply with
      | .error code => (.error code, world)
      | .wouldBlock => (.ok .wouldBlock, world)
      | .data bytes =>
        let count := min bytes.length buffer.length.toNat
        let world := match World.offsetOf? buffer with
          | some offset => world.poke offset (bytes.take count)
          | none => world
        (.ok (.done (UInt64.ofNat count)), world)

/-- The services around the kernel under test. -/
def services (kind : ControllerKind) : Services World where
  controllerName := kind.name
  perform
    | .cpuId => return (← service.world).cpuId
    | .enableInterrupts =>
      service.modify fun world => { world with interrupts := true }.note .interruptsOn
    | .disableInterrupts =>
      service.modify fun world => { world with interrupts := false }.note .interruptsOff
    | .cycles => service.modifyGet fun world =>
      (world.now, { world with now := world.now + world.pace })
    | .triggerMode irq => (service.controller kind).triggerMode irq
    | .pending vector => (service.controller kind).pending vector
    | .mask irq => (service.controller kind).mask irq
    | .unmask irq => (service.controller kind).unmask irq
    | .acknowledge irq => (service.controller kind).acknowledge irq
    | .endOfInterrupt irq => (service.controller kind).endOfInterrupt irq
    | .device handler irq => device kind handler irq
    | .schedule shown reason => schedule shown reason
    | .resolveFault address access => resolveFault kind address access
    | .pid => return (← service.world).pid
    | .userRange => return (← service.world).window
    | .terminate reason => service.note (.terminated reason)
    | .signalPending => return (← service.world).signal
    | .write file buffer => writeFile file buffer
    | .read file buffer => readFile file buffer

/-- A call whose handler notes its arguments and runs a script; without a result
of its own it succeeds with zero. -/
def scriptedCall (kind : ControllerKind) (shape : CallShape) (body : List Step) :
    CallDescriptor World where
  shape
  handler arguments := do
    let host := Host.call arguments
    host.note (.handler shape.number arguments)
    return (← host.script kind body).getD (.ok 0)

end TrapDispatch.Bench
