import TrapDispatch.Kernel.Service
import TrapDispatch.Syscall.Shape

/-!
# System call handlers

A handler is a program that sees the caller's frame and the services of the
process. It may wait at the scheduler, and may ask for a reschedule that takes
place once its result has been written back.
-/

namespace TrapDispatch

/-- Requests a handler can make. -/
inductive HandlerRequest (σ : Type) where
  /-- What every service can ask for. -/
  | base (op : Request σ)
  /-- The caller's frame. -/
  | frame
  /-- Replaces the caller's frame. -/
  | setFrame (frame : Frame)
  /-- Waits until the thread is woken up, showing the scheduler a frame. -/
  | block (shown : Frame)
  /-- Asks for a reschedule after the call; one for a terminated thread stays. -/
  | defer (reason : ScheduleReason)
  | takeDeferred
  | takeSwitch
  | pid
  | userRange
  | terminate (reason : Termination)
  | signalPending
  | write (file : UInt64) (buffer : UserBuffer)
  | read (file : UInt64) (buffer : UserBuffer)

abbrev HandlerRequest.Reply {σ : Type} : HandlerRequest σ → Type
  | base op => op.Reply
  | frame => Frame
  | setFrame _ => Unit
  | block _ => Except ErrorCode Unit
  | defer _ => Unit
  | takeDeferred => Option ScheduleReason
  | takeSwitch => Option Frame
  | pid => UInt64
  | userRange => UserRange
  | terminate _ => Unit
  | signalPending => Bool
  | write _ _ => CallResult
  | read _ _ => Except ErrorCode IoProgress

abbrev handlerSignature (σ : Type) : Signature := ⟨HandlerRequest σ, HandlerRequest.Reply⟩

/-- A program of a handler over the world `σ`. -/
abbrev HandlerProgram (σ : Type) := Program (handlerSignature σ)

namespace HandlerProgram

variable {σ : Type}

def ask (op : HandlerRequest σ) : HandlerProgram σ op.Reply :=
  Program.ask (S := handlerSignature σ) op

instance : MonadRecord (HandlerProgram σ) := ⟨fun r => ask (.base (.log r))⟩

end HandlerProgram

/-- The implementation of a system call. -/
abbrev CallHandler (σ : Type) := Arguments → HandlerProgram σ CallResult

namespace CallHandler

variable {σ : Type}

/-- Ends the current thread with a status. -/
def exit : CallHandler σ := fun arguments => do
  let status := (arguments.int 0).toInt64.toInt32
  recordAt .debug LogTarget.syscall s!"syscall: exit({status})"
  .ask (.terminate (.exit status))
  .ask (.defer .terminated)
  return .ok 0

def write : CallHandler σ := fun arguments =>
  match arguments.buffer 1 with
  | none => return .error .einval
  | some buffer => .ask (.write (arguments.int 0) buffer)

/-- One try of a read: its result, or nothing after waiting for more data. -/
def readOnce (file : UInt64) (buffer : UserBuffer) : HandlerProgram σ (Option CallResult) := do
  match ← HandlerProgram.ask (σ := σ) (.read file buffer) with
  | .error code => return some (.error code)
  | .ok (.done count) => return some (.ok count)
  | .ok .wouldBlock =>
    let frame ← HandlerProgram.ask (σ := σ) .frame
    match ← HandlerProgram.ask (σ := σ) (.block frame) with
    | .error code => return some (.error code)
    | .ok () => return none

/-- Reads from a file into a buffer, waiting until data arrives. -/
def read : CallHandler σ := fun arguments =>
  match arguments.buffer 1 with
  | none => return .error .einval
  | some buffer => .repeatUntil (readOnce (arguments.int 0) buffer)

def yield : CallHandler σ := fun _ => do
  .ask (.defer .yield)
  return .ok 0

def getpid : CallHandler σ := fun _ => do
  return .ok (← HandlerProgram.ask (σ := σ) .pid)

end CallHandler
end TrapDispatch
